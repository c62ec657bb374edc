import FPSpy.Machine.Arm64
import FPSpy.Machine.Riscv64
import FPSpy.Machine.Rounding

/-!
# Rounding configurations on riscv64 and arm64

On riscv64 the configuration is the rounding field of `fcsr`, bits 5 to 7, next to the
accrued flags in bits 0 to 4. The mask that reads and clears it is one bit too low: it
takes the flag of an invalid operation along and misses the highest bit of the field.

On arm64 it is the rounding mode, FZ, AH and FIZ of FPCR. Setting it changes nothing.
-/
namespace FPSpy

inductive FpspyRoundMode where
  | nearest | negative | positive | zero | nearestMaxmag | dynamic
  deriving DecidableEq, Repr

/-! ## riscv64 -/

namespace Riscv64

def roundModeBits : FpspyRoundMode → BitVec 32
  | .nearest => 0x00
  | .zero => 0x20
  | .negative => 0x40
  | .positive => 0x60
  | .nearestMaxmag => 0x80
  | .dynamic => 0xe0

def archSetRoundMode (config : BitVec 32) (mode : FpspyRoundMode) : BitVec 32 :=
  (config &&& ~~~0x70#32) ||| roundModeBits mode

/-- There is no mode for 5 and 6. -/
def archGetRoundMode (config : BitVec 32) : Option FpspyRoundMode :=
  match ((config >>> 5) &&& 0x7#32).toNat with
  | 0 => some .nearest
  | 1 => some .zero
  | 2 => some .negative
  | 3 => some .positive
  | 4 => some .nearestMaxmag
  | 7 => some .dynamic
  | _ => none

def roundField : BitVec 32 := 0xe0

def High (m : FpspyRoundMode) : Prop := roundModeBits m &&& 0x80#32 ≠ 0#32

instance (m : FpspyRoundMode) : Decidable (High m) := inferInstanceAs (Decidable (_ ≠ _))

def setRoundModes (config : BitVec 32) (ms : List FpspyRoundMode) : BitVec 32 :=
  ms.foldl archSetRoundMode config

/-- The last mode that was set is read back, and nothing outside the field has changed. -/
def KeepsLast (config : BitVec 32) (ms : List FpspyRoundMode) : Prop :=
  (∀ last, ms.getLast? = some last → archGetRoundMode (setRoundModes config ms) = some last) ∧
  setRoundModes config ms &&& ~~~roundField = config &&& ~~~roundField

/-- The context's field is that of `config`; flags, reserved bits and enables are as before. -/
structure SetsField (st : Statics) (uc : UContext) (config : BitVec 32) : Prop where
  field : (archSetRoundConfig st uc config).fcsr &&& roundField = config
  others : (archSetRoundConfig st uc config).fcsr &&& ~~~roundField = uc.fcsr &&& ~~~roundField
  enables : (archSetRoundConfig st uc config).ften = uc.ften

/-! ## The bits around the field -/

variable {x y : BitVec 32}

/-- The bits outside the field, in two parts: those the code leaves alone, and the flag. -/
theorem outside_field_iff :
    x &&& ~~~roundField = y &&& ~~~roundField ↔
      x &&& ~~~0xf0#32 = y &&& ~~~0xf0#32 ∧ x &&& 0x10#32 = y &&& 0x10#32 := by
  have hsplit : ∀ z : BitVec 32, z &&& ~~~roundField = z &&& ~~~0xf0#32 ||| z &&& 0x10#32 := by
    intro z
    rw [← BitVec.and_or_distrib_left]
    rfl
  constructor
  · intro h
    have hpart : ∀ m : BitVec 32, ~~~roundField &&& m = m → x &&& m = y &&& m := by
      intro m hm
      rw [← hm, ← BitVec.and_assoc, h, BitVec.and_assoc]
    exact ⟨hpart _ (by decide), hpart _ (by decide)⟩
  · rintro ⟨hhigh, hflag⟩
    rw [hsplit, hsplit, hhigh, hflag]

/-- Clearing with the mask and setting part of the field: the bits that stay, the flag, the two
low bits of the field and the highest. -/
theorem update_other {b : BitVec 32} (hb : b &&& ~~~roundField = 0#32) :
    ((x &&& ~~~0x70#32) ||| b) &&& ~~~0xf0#32 = x &&& ~~~0xf0#32 := by
  have hb' : b &&& ~~~0xf0#32 = 0#32 := Bits.disjoint_of_subset hb (by decide)
  rw [Bits.or_and_of_disjoint _ hb', BitVec.and_assoc]
  rfl

theorem update_flag {b : BitVec 32} (hb : b &&& ~~~roundField = 0#32) :
    ((x &&& ~~~0x70#32) ||| b) &&& 0x10#32 = 0#32 := by
  have hb' : b &&& 0x10#32 = 0#32 := Bits.disjoint_of_subset hb (by decide)
  rw [Bits.or_and_of_disjoint _ hb', BitVec.and_assoc]
  simp

theorem update_field (x b : BitVec 32) (hb : b &&& ~~~roundField = 0#32) :
    ((x &&& ~~~0x70#32) ||| b) &&& roundField = x &&& 0x80#32 ||| b := by
  rw [BitVec.and_comm, BitVec.and_or_distrib_left, BitVec.and_comm roundField b,
    Bits.and_of_subset hb, BitVec.and_comm, BitVec.and_assoc]
  rfl

/-! ## A sequence of modes -/

theorem roundModeBits_subset (m : FpspyRoundMode) : roundModeBits m &&& ~~~roundField = 0#32 := by
  cases m <;> rfl

@[simp] theorem setRoundModes_concat (config : BitVec 32) (ms : List FpspyRoundMode)
    (m : FpspyRoundMode) :
    setRoundModes config (ms ++ [m]) = archSetRoundMode (setRoundModes config ms) m := by
  simp [setRoundModes]

/-- No sequence of modes touches the bits above the field or the flags below the highest one. -/
theorem setRoundModes_other (config : BitVec 32) (ms : List FpspyRoundMode) :
    setRoundModes config ms &&& ~~~0xf0#32 = config &&& ~~~0xf0#32 := by
  induction ms using List.reverseRecOn with
  | nil => rfl
  | append_singleton ms m ih =>
    rw [setRoundModes_concat, archSetRoundMode, update_other (roundModeBits_subset m), ih]

/-- The highest bit of the field is never cleared. -/
theorem setRoundModes_high (config : BitVec 32) (ms : List FpspyRoundMode) :
    setRoundModes config ms &&& 0x80#32 = 0#32 ↔
      config &&& 0x80#32 = 0#32 ∧ ∀ m ∈ ms, ¬ High m := by
  induction ms using List.reverseRecOn with
  | nil => simp [setRoundModes]
  | append_singleton ms m ih =>
    have hstep : archSetRoundMode (setRoundModes config ms) m &&& 0x80#32 =
        (setRoundModes config ms &&& 0x80#32) ||| (roundModeBits m &&& 0x80#32) := by
      rw [archSetRoundMode, BitVec.and_comm, BitVec.and_or_distrib_left,
        BitVec.and_comm _ (roundModeBits m), BitVec.and_comm, BitVec.and_assoc]
      rfl
    rw [setRoundModes_concat, hstep, BitVec.or_eq_zero_iff, ih]
    simp only [List.forall_mem_append, List.forall_mem_singleton, High, not_not, and_assoc]

/-- Only the field is read. -/
theorem archGetRoundMode_congr (h : x &&& roundField = y &&& roundField) :
    archGetRoundMode x = archGetRoundMode y := by
  have hfield : ∀ z : BitVec 32, z >>> 5 &&& 0x7#32 = (z &&& roundField) >>> 5 := by
    intro z
    rw [BitVec.ushiftRight_and_distrib]
    rfl
  simp only [archGetRoundMode, hfield, h]

/-- A mode is read back as itself, unless the highest bit comes from elsewhere. -/
theorem archGetRoundMode_or_high_iff (m : FpspyRoundMode) :
    archGetRoundMode (0x80#32 ||| roundModeBits m) = some m ↔ High m := by
  cases m <;> decide

theorem archGetRoundMode_bits (m : FpspyRoundMode) :
    archGetRoundMode (roundModeBits m) = some m := by
  cases m <;> decide

/-- After a last mode the field is that mode's, with what was left in the highest bit. -/
theorem archGetRoundMode_archSetRoundMode_iff (config : BitVec 32) (m : FpspyRoundMode) :
    archGetRoundMode (archSetRoundMode config m) = some m ↔ High m ∨ config &&& 0x80#32 = 0#32 := by
  have hfield : archSetRoundMode config m &&& roundField = config &&& 0x80#32 ||| roundModeBits m :=
    update_field config (roundModeBits m) (roundModeBits_subset m)
  by_cases hzero : config &&& 0x80#32 = 0#32
  · have hmode : archGetRoundMode (archSetRoundMode config m) =
        archGetRoundMode (roundModeBits m) :=
      archGetRoundMode_congr (by
        rw [hfield, hzero, BitVec.zero_or, Bits.and_of_subset (roundModeBits_subset m)])
    rw [hmode]
    simp [hzero, archGetRoundMode_bits]
  · have hset : config &&& 0x80#32 = 0x80#32 := Bits.and_twoPow_of_ne_zero (i := 7) hzero
    have hmode : archGetRoundMode (archSetRoundMode config m) =
        archGetRoundMode (0x80#32 ||| roundModeBits m) :=
      archGetRoundMode_congr (by
        rw [hfield, hset, Bits.and_of_subset (Bits.or_subset (by decide) (roundModeBits_subset m))])
    rw [hmode, archGetRoundMode_or_high_iff]
    simp [hzero]

/-- The modes are kept if the flag's place is empty and no earlier mode, nor the word itself, has
left the highest bit behind. -/
theorem keepsLast_iff (config : BitVec 32) (ms : List FpspyRoundMode) :
    KeepsLast config ms ↔ ∀ last, ms.getLast? = some last →
      config &&& 0x10#32 = 0#32 ∧
        (High last ∨ (config &&& 0x80#32 = 0#32 ∧ ∀ m ∈ ms, ¬ High m)) := by
  cases ms using List.reverseRecOn with
  | nil => simp [KeepsLast, setRoundModes]
  | append_singleton ms last =>
    have hlast : (ms ++ [last]).getLast? = some last := by simp
    have hother := setRoundModes_other config (ms ++ [last])
    have hflag : setRoundModes config (ms ++ [last]) &&& 0x10#32 = 0#32 := by
      rw [setRoundModes_concat, archSetRoundMode, update_flag (roundModeBits_subset last)]
    have hhigh : High last ∨ setRoundModes config ms &&& 0x80#32 = 0#32 ↔
        High last ∨ (config &&& 0x80#32 = 0#32 ∧ ∀ m ∈ ms ++ [last], ¬ High m) := by
      rw [setRoundModes_high]
      simp only [List.forall_mem_append, List.forall_mem_singleton]
      tauto
    simp only [KeepsLast, hlast, Option.some.injEq, forall_eq', outside_field_iff, hflag]
    rw [setRoundModes_concat, archGetRoundMode_archSetRoundMode_iff, hhigh, ← setRoundModes_concat]
    simp only [hother, true_and]
    rw [and_comm, eq_comm]

/-! ## The configuration of a context -/

variable {st : Statics} (uc : UContext)

theorem fcsr_archSetRoundConfig (hfp : st.haveFp = true) (config : BitVec 32) :
    (archSetRoundConfig st uc config).fcsr = (uc.fcsr &&& ~~~0x70#32) ||| config := by
  simp [archSetRoundConfig, hfp, fcsrRoundMask]

theorem setsField_iff (hfp : st.haveFp = true) {config : BitVec 32}
    (hconfig : config &&& ~~~roundField = 0#32) :
    SetsField st uc config ↔ uc.fcsr &&& 0x10#32 = 0#32 ∧
      (uc.fcsr &&& 0x80#32 = 0#32 ∨ config &&& 0x80#32 ≠ 0#32) := by
  have hfield := update_field uc.fcsr config hconfig
  have hflag := update_flag (x := uc.fcsr) hconfig
  have hother := update_other (x := uc.fcsr) hconfig
  rw [← fcsr_archSetRoundConfig uc hfp] at hfield hflag hother
  have hhigh : uc.fcsr &&& 0x80#32 ||| config = config ↔
      uc.fcsr &&& 0x80#32 = 0#32 ∨ config &&& 0x80#32 ≠ 0#32 := by
    by_cases hzero : uc.fcsr &&& 0x80#32 = 0#32
    · simp [hzero]
    · have hset : uc.fcsr &&& 0x80#32 = 0x80#32 := Bits.and_twoPow_of_ne_zero (i := 7) hzero
      rw [hset]
      constructor
      · intro h
        exact .inr (by rw [← h, BitVec.or_comm, Bits.or_and_self]; decide)
      · intro h
        have hin : config &&& 0x80#32 ≠ 0#32 := h.resolve_left (by decide)
        exact Bits.or_eq_of_subset (Bits.and_twoPow_of_ne_zero (i := 7) hin)
  constructor
  · intro h
    have hout := (outside_field_iff.mp h.others).2
    exact ⟨hout.symm.trans hflag, hhigh.mp (hfield.symm.trans h.field)⟩
  · rintro ⟨hclear, hcondition⟩
    exact
      { field := hfield.trans (hhigh.mpr hcondition)
        others := outside_field_iff.mpr ⟨hother, hflag.trans hclear.symm⟩
        enables := ften_setRoundConfig st uc config }

theorem getRoundConfig_iff (hfp : st.haveFp = true) :
    archGetRoundConfig st uc = uc.fcsr &&& roundField ↔
      uc.fcsr &&& 0x10#32 = 0#32 ∧ uc.fcsr &&& 0x80#32 = 0#32 := by
  have hget : archGetRoundConfig st uc = uc.fcsr &&& 0x70#32 := by
    simp [archGetRoundConfig, hfp, fcsrRoundMask]
  rw [hget]
  constructor
  · intro h
    have hpart : ∀ m : BitVec 32, uc.fcsr &&& 0x70#32 &&& m = uc.fcsr &&& roundField &&& m :=
      fun m => congrArg (· &&& m) h
    have hflag := hpart 0x10#32
    have hhigh := hpart 0x80#32
    simp only [BitVec.and_assoc] at hflag hhigh
    exact ⟨hflag.trans (by simp [roundField]), (hhigh.symm.trans (by simp))⟩
  · rintro ⟨hflag, hhigh⟩
    have hlow : ∀ z : BitVec 32, z &&& 0x70#32 = z &&& 0x60#32 ||| z &&& 0x10#32 := by
      intro z
      rw [← BitVec.and_or_distrib_left]
      rfl
    have htop : ∀ z : BitVec 32, z &&& roundField = z &&& 0x60#32 ||| z &&& 0x80#32 := by
      intro z
      rw [← BitVec.and_or_distrib_left]
      rfl
    rw [hlow, htop, hflag, hhigh]

variable (st) in
/-- Each law holds of the words whose invalid flag is clear and whose highest bit of the field does
not have to be cleared. -/
theorem roundLaws_iff (hfp : st.haveFp = true) :
    (∀ config ms, KeepsLast config ms ↔ ∀ last, ms.getLast? = some last →
      config &&& 0x10#32 = 0#32 ∧
        (High last ∨ (config &&& 0x80#32 = 0#32 ∧ ∀ m ∈ ms, ¬ High m))) ∧
    (∀ uc config, config &&& ~~~roundField = 0#32 → (SetsField st uc config ↔
      uc.fcsr &&& 0x10#32 = 0#32 ∧ (uc.fcsr &&& 0x80#32 = 0#32 ∨ config &&& 0x80#32 ≠ 0#32))) ∧
    ∀ uc, archGetRoundConfig st uc = uc.fcsr &&& roundField ↔
      uc.fcsr &&& 0x10#32 = 0#32 ∧ uc.fcsr &&& 0x80#32 = 0#32 :=
  ⟨keepsLast_iff, fun uc _ hconfig => setsField_iff uc hfp hconfig,
    fun uc => getRoundConfig_iff uc hfp⟩

/-- Positive after zero; positive in a context with the other four flags raised. -/
theorem roundLaws_iff_positive :
    KeepsLast 0 [.zero, .positive] ∧ SetsField statics ⟨fun _ => 0, 0x2f, 0x1f⟩ 0x60 ∧
      archGetRoundConfig statics ⟨fun _ => 0, 0x6f, 0x1f⟩ = 0x60 := by
  have hlaws := roundLaws_iff statics rfl
  refine ⟨(hlaws.1 _ _).mpr fun last h => ?_, (hlaws.2.1 _ _ (by decide)).mpr (by decide),
    (hlaws.2.2 _).mpr (by decide)⟩
  obtain rfl := Option.some.inj h
  exact ⟨by decide, .inr (by decide)⟩

/-- Nearest after the mode for ties to the maximum magnitude; nearest in a word with the invalid
flag; zero in a context with that flag, and after dynamic; and reading the flag as a mode. -/
theorem not_roundLaws :
    ¬ KeepsLast 0 [.nearestMaxmag, .nearest] ∧ ¬ KeepsLast 0x10 [.nearest] ∧
      ¬ SetsField statics ⟨fun _ => 0, 0x10, 0x1f⟩ 0x20 ∧
      ¬ SetsField statics ⟨fun _ => 0, 0xe0, 0x1f⟩ 0x20 ∧
      archGetRoundConfig statics ⟨fun _ => 0, 0x10, 0x1f⟩ ≠ 0x10 &&& roundField := by
  refine ⟨fun h => ?_, fun h => ?_, fun h => ?_, fun h => ?_, by decide⟩
  · exact absurd (h.1 .nearest rfl) (by decide)
  · exact absurd h.2 (by decide)
  · exact absurd h.others (by decide)
  · exact absurd h.field (by decide)

end Riscv64
/-! ## arm64 -/

namespace Arm64

open X64 (DazftzMode)

/-- The two modes of RISC-V are not supported: they leave the field empty. -/
def archSetRoundMode (config : BitVec 32) (mode : FpspyRoundMode) : BitVec 32 :=
  let config := config &&& ~~~0xc00000#32
  match mode with
  | .nearest => config
  | .positive => config ||| 0x400000
  | .negative => config ||| 0x800000
  | .zero => config ||| 0xc00000
  | .nearestMaxmag | .dynamic => config

def archGetRoundMode (config : BitVec 32) : FpspyRoundMode :=
  match ((config >>> 22) &&& 0x3#32).toNat with
  | 0 => .nearest
  | 1 => .positive
  | 2 => .negative
  | _ => .zero

/-- FIZ is bit 0, AH bit 1 and FZ bit 24; AH makes FZ flush results only. -/
def archGetDazftzMode (config : BitVec 32) : DazftzMode :=
  let fiz := config &&& 0x1 != 0
  if config &&& 0x2 != 0 then
    if config &&& 0x1000000 != 0 then .of fiz true else .of true false
  else if config &&& 0x1000000 != 0 then .of true true
  else .of fiz false

def archSetDazftzMode (config : BitVec 32) (mode : DazftzMode) : BitVec 32 :=
  let config := config &&& ~~~0x1000003#32
  match mode with
  | .noDazNoFtz => config
  | .noDazFtz => config ||| 0x1000002
  | .dazNoFtz => config ||| 0x0000003
  | .dazFtz => config ||| 0x1000001

/-- The configuration made from a mode and a setting of DAZ and FTZ. -/
def packed (mode : FpspyRoundMode) (dazftz : DazftzMode) : BitVec 32 :=
  archSetDazftzMode (archSetRoundMode 0 mode) dazftz

/-- The configuration is read back after it is set, and the rest of FPCR and FPSR is as before. -/
structure SetsRound (st : Statics) (uc : UContext) (f : Fpsimd) (config : BitVec 32) : Prop where
  get : archGetRoundConfig st (archSetRoundConfig st uc config) = config
  others : ∃ g, (archSetRoundConfig st uc config).fpsimd = some g ∧ g.fpsr = f.fpsr ∧
    g.fpcr &&& ~~~fpcrRoundDazFtzMask = f.fpcr &&& ~~~fpcrRoundDazFtzMask

/-- Nothing is stored, so only what is there already is read back. -/
theorem setsRound_iff {st : Statics} {uc : UContext} {f : Fpsimd} (hf : uc.fpsimd = some f)
    (config : BitVec 32) :
    SetsRound st uc f config ↔ f.fpcr &&& fpcrRoundDazFtzMask = config := by
  have hget : archGetRoundConfig st (archSetRoundConfig st uc config) =
      f.fpcr &&& fpcrRoundDazFtzMask := by
    simp [archGetRoundConfig, archSetRoundConfig, hf]
  constructor
  · intro h
    rw [← hget, h.get]
  · intro h
    exact ⟨hget.trans h, f, hf, rfl, rfl⟩

end Arm64
end FPSpy
