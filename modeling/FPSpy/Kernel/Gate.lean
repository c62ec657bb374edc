import Mathlib.Data.BitVec

/-!
# Loading the kernel module

`fpvm_kmod.c` puts its entry into the gate descriptor of the #XF exception when it is loaded
and the handler it found there when it is unloaded, both with local interrupts off. The
address of a handler is spread over three fields of the descriptor. The two returns of
`test_init` that report a failure leave interrupts off, and the second one leaves the gate
with the module's entry in it.
-/
namespace FPSpy.Kmod

structure GateDesc where
  offsetLow : BitVec 16
  segment : BitVec 16
  bits : BitVec 16
  offsetMiddle : BitVec 16
  offsetHigh : BitVec 32
  reserved : BitVec 32
  deriving DecidableEq

/-- What the module changes: the gate descriptor of #XF, the interrupt flag and CR0 of the
processor, `original_xf_handler`, and whether the device is registered. -/
structure Machine where
  gate : GateDesc
  irqs : Bool
  cr0 : BitVec 64
  originalXfHandler : BitVec 64
  device : Bool
  deriving DecidableEq

structure Params where
  errorEntry : BitVec 64
  errorReturn : BitVec 64
  mathError : BitVec 64
  irqentryEnter : BitVec 64
  irqentryExit : BitVec 64
  deriving DecidableEq

def Params.Valid (p : Params) : Prop :=
  p.errorEntry ≠ 0 ∧ p.errorReturn ≠ 0 ∧ p.mathError ≠ 0 ∧ p.irqentryEnter ≠ 0 ∧ p.irqentryExit ≠ 0

instance (p : Params) : Decidable p.Valid := inferInstanceAs (Decidable (_ ∧ _))

def extractHandlerAddress (gd : GateDesc) : BitVec 64 :=
  gd.offsetLow.setWidth 64 + gd.offsetMiddle.setWidth 64 <<< 16 + gd.offsetHigh.setWidth 64 <<< 32

def writeHandlerAddressToGd (gd : GateDesc) (handler : BitVec 64) : GateDesc :=
  { gd with
    offsetLow := handler.setWidth 16
    offsetMiddle := (handler >>> 16).setWidth 16
    offsetHigh := (handler >>> 32).setWidth 32 }

/-- `CR0_WP`, which is an unsigned number of 32 bits; so is its complement. -/
def cr0Wp : BitVec 32 := 1 <<< 16

def disableWriteProtection (s : Machine) : Machine :=
  { s with cr0 := s.cr0 &&& (~~~cr0Wp).setWidth 64 }

def enableWriteProtection (s : Machine) : Machine :=
  { s with cr0 := s.cr0 ||| cr0Wp.setWidth 64 }

def modifyIdt (entry : BitVec 64) (s : Machine) : Machine :=
  let s := { s with originalXfHandler := extractHandlerAddress s.gate }
  let s := disableWriteProtection s
  let s := { s with gate := writeHandlerAddressToGd s.gate entry }
  enableWriteProtection s

def restoreIdt (s : Machine) : Machine :=
  if s.originalXfHandler = 0 then s
  else
    let s := disableWriteProtection s
    let s := { s with gate := writeHandlerAddressToGd s.gate s.originalXfHandler }
    enableWriteProtection s

/-- `create_fpvm_dev`, with the result of `register_chrdev_region` -/
def createFpvmDev (registered : Int) (s : Machine) : Int × Machine :=
  if registered ≠ 0 then (registered, s) else (0, { s with device := true })

def destroyFpvmDev (s : Machine) : Machine := { s with device := false }

def localIrqSave (s : Machine) : Machine := { s with irqs := false }

def localIrqRestore (flags : Bool) (s : Machine) : Machine := { s with irqs := flags }

def testInit (entry : BitVec 64) (params : Params) (registered : Int) (s : Machine) :
    Int × Machine :=
  let flags := s.irqs
  let s := localIrqSave s
  if ¬ params.Valid then (-1, s)
  else
    let s := modifyIdt entry s
    let r := createFpvmDev registered s
    if r.1 ≠ 0 then r else (0, localIrqRestore flags r.2)

def testExit (s : Machine) : Machine :=
  let flags := s.irqs
  localIrqRestore flags (destroyFpvmDev (restoreIdt (localIrqSave s)))

/-- A load that fails changes neither the gate nor the interrupt flag. After one that succeeds the
flag is as it was, and the unloading puts the gate back, whatever else has changed by then. -/
structure AllOrNothing (entry : BitVec 64) (params : Params) (registered : Int) (s : Machine) :
    Prop where
  failed : (testInit entry params registered s).1 ≠ 0 →
    (testInit entry params registered s).2.gate = s.gate ∧
      (testInit entry params registered s).2.irqs = s.irqs
  loaded : (testInit entry params registered s).1 = 0 →
    (testInit entry params registered s).2.irqs = s.irqs
  unloaded : (testInit entry params registered s).1 = 0 → ∀ t : Machine,
    t.gate = (testInit entry params registered s).2.gate →
    t.originalXfHandler = (testInit entry params registered s).2.originalXfHandler →
    (testExit t).gate = s.gate ∧ (testExit t).irqs = t.irqs

/-! ## The address in the gate -/

/-- An address is read back from the fields it was written to. -/
theorem extract_write (gd : GateDesc) (handler : BitVec 64) :
    extractHandlerAddress (writeHandlerAddressToGd gd handler) = handler := by
  apply BitVec.eq_of_toNat_eq
  have hlt := handler.isLt
  simp only [extractHandlerAddress, writeHandlerAddressToGd, BitVec.toNat_add,
    BitVec.toNat_shiftLeft, BitVec.toNat_setWidth, BitVec.toNat_ushiftRight, Nat.shiftLeft_eq,
    Nat.shiftRight_eq_div_pow]
  omega

theorem toNat_extractHandlerAddress (gd : GateDesc) :
    (extractHandlerAddress gd).toNat =
      gd.offsetLow.toNat + gd.offsetMiddle.toNat * 2 ^ 16 + gd.offsetHigh.toNat * 2 ^ 32 := by
  have hlow := gd.offsetLow.isLt
  have hmiddle := gd.offsetMiddle.isLt
  have hhigh := gd.offsetHigh.isLt
  simp only [extractHandlerAddress, BitVec.toNat_add, BitVec.toNat_shiftLeft,
    BitVec.toNat_setWidth, Nat.shiftLeft_eq]
  omega

/-- Writing the address that is there changes no bit. -/
theorem write_extract (gd : GateDesc) :
    writeHandlerAddressToGd gd (extractHandlerAddress gd) = gd := by
  have haddress := toNat_extractHandlerAddress gd
  have hlow := gd.offsetLow.isLt
  have hmiddle := gd.offsetMiddle.isLt
  have hhigh := gd.offsetHigh.isLt
  obtain ⟨offsetLow, segment, bits, offsetMiddle, offsetHigh, reserved⟩ := gd
  simp only [writeHandlerAddressToGd, GateDesc.mk.injEq, true_and, and_true]
  simp only at haddress hlow hmiddle hhigh
  refine ⟨?_, ?_, ?_⟩ <;> apply BitVec.eq_of_toNat_eq <;>
    simp only [BitVec.toNat_setWidth, BitVec.toNat_ushiftRight, Nat.shiftRight_eq_div_pow,
      haddress] <;> omega

/-- Only the last address that is written counts. -/
theorem write_write (gd : GateDesc) (a b : BitVec 64) :
    writeHandlerAddressToGd (writeHandlerAddressToGd gd a) b = writeHandlerAddressToGd gd b := rfl

theorem write_eq_self_iff (gd : GateDesc) (handler : BitVec 64) :
    writeHandlerAddressToGd gd handler = gd ↔ extractHandlerAddress gd = handler := by
  constructor
  · intro h
    rw [← h, extract_write]
  · rintro rfl
    exact write_extract gd

/-! ## Loading and unloading -/

section

variable {entry : BitVec 64} {params : Params} {registered : Int} {s : Machine}

variable (entry registered s) in
theorem testInit_of_not_valid (h : ¬ params.Valid) :
    testInit entry params registered s = (-1, localIrqSave s) := by
  simp only [testInit, if_pos h]

variable (entry s) in
theorem testInit_of_not_registered (h : params.Valid) (hreg : registered ≠ 0) :
    testInit entry params registered s = (registered, modifyIdt entry (localIrqSave s)) := by
  simp only [testInit, createFpvmDev, h, hreg, not_true, not_false_eq_true, ne_eq, if_true,
    if_false]

variable (entry s) in
theorem testInit_of_registered (h : params.Valid) (hreg : registered = 0) :
    testInit entry params registered s =
      (0, { modifyIdt entry (localIrqSave s) with device := true, irqs := s.irqs }) := by
  simp only [testInit, createFpvmDev, h, hreg, not_true, ne_eq, if_false]
  rfl

/-- Unloading restores the gate that a load has changed. -/
theorem testExit_spec (hhandler : extractHandlerAddress s.gate ≠ 0) {t : Machine}
    (hgate : t.gate = writeHandlerAddressToGd s.gate entry)
    (horiginal : t.originalXfHandler = extractHandlerAddress s.gate) :
    (testExit t).gate = s.gate ∧ (testExit t).irqs = t.irqs := by
  have hnonzero : (localIrqSave t).originalXfHandler ≠ 0 := horiginal ▸ hhandler
  have hback : (testExit t).gate = writeHandlerAddressToGd t.gate t.originalXfHandler := by
    simp only [testExit, restoreIdt, if_neg hnonzero]
    rfl
  rw [hback, hgate, horiginal, write_write, write_extract]
  exact ⟨rfl, rfl⟩

/-- Loading is all or nothing where it succeeds. Where it fails, interrupts have to be off before,
and a device that cannot be registered needs a gate that leads to the module already. -/
theorem allOrNothing_iff (hhandler : extractHandlerAddress s.gate ≠ 0) :
    AllOrNothing entry params registered s ↔ (params.Valid ∧ registered = 0) ∨
      (s.irqs = false ∧ (¬ params.Valid ∨ extractHandlerAddress s.gate = entry)) := by
  by_cases hvalid : params.Valid
  · by_cases hreg : registered = 0
    · refine iff_of_true ?_ (.inl ⟨hvalid, hreg⟩)
      have hinit := testInit_of_registered entry s hvalid hreg
      constructor <;> rw [hinit]
      · exact fun h => absurd rfl h
      · exact fun _ => rfl
      · exact fun _ t hgate horiginal => testExit_spec hhandler hgate horiginal
    · have hinit := testInit_of_not_registered entry s hvalid hreg
      have hgate : (modifyIdt entry (localIrqSave s)).gate =
          writeHandlerAddressToGd s.gate entry := rfl
      have hirqs : (modifyIdt entry (localIrqSave s)).irqs = false := rfl
      simp only [hvalid, hreg, and_false, not_true, false_or]
      constructor
      · intro h
        have hfailed := h.failed
        rw [hinit, hgate, hirqs] at hfailed
        obtain ⟨hsame, hoff⟩ := hfailed hreg
        exact ⟨hoff.symm, (write_eq_self_iff _ _).mp hsame⟩
      · rintro ⟨hoff, hentry⟩
        constructor <;> rw [hinit]
        · exact fun _ => ⟨(write_eq_self_iff _ _).mpr hentry, hoff.symm⟩
        · exact fun h => absurd h hreg
        · exact fun h => absurd h hreg
  · have hinit := testInit_of_not_valid entry registered s hvalid
    simp only [hvalid, false_and, not_false_eq_true, true_or, and_true, false_or]
    constructor
    · intro h
      have hfailed := h.failed
      rw [hinit] at hfailed
      exact (hfailed (by simp)).2.symm
    · intro hoff
      constructor <;> rw [hinit]
      · exact fun _ => ⟨rfl, hoff.symm⟩
      · exact fun h => absurd h (by simp)
      · exact fun h => absurd h (by simp)

end

/-! ## A machine -/

def booted : Machine where
  gate := ⟨0x1c20, 0x10, 0x8e00, 0x8160, 0xffffffff, 0⟩
  irqs := true
  cr0 := 0x80050033
  originalXfHandler := 0
  device := false

def someParams : Params := ⟨1, 2, 3, 4, 5⟩

theorem allOrNothing_booted : AllOrNothing 0xffffffffc0a81000 someParams 0 booted :=
  (allOrNothing_iff (by decide)).mpr (.inl ⟨by decide, rfl⟩)

/-- Without its parameters the module leaves interrupts off; with a device number that is taken
(EBUSY) it leaves the gate with its entry too. -/
theorem not_allOrNothing_booted :
    (¬ AllOrNothing 0xffffffffc0a81000 ⟨0, 0, 0, 0, 0⟩ 0 booted) ∧
      ¬ AllOrNothing 0xffffffffc0a81000 someParams (-16) booted := by
  constructor
  · intro h
    exact absurd (h.failed (by decide)).2 (by decide)
  · intro h
    exact absurd (h.failed (by decide)).1 (by decide)

end FPSpy.Kmod
