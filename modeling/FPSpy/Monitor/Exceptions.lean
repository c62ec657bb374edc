import FPSpy.Lib.Search
import FPSpy.Machine.X64
import FPSpy.Monitor.Context

/-!
# Selecting exceptions

`config_exceptions` and the lists it is given. A name is recognised by a key, searched
in the whole string without regard to case. On the documented lists the search finds
exactly the listed names, so what the backend is told is known: its trap mask is
cleared, then set for every exception that is *not* listed.

What that means is the backend's business. arm64 and riscv64 keep the enabled traps,
and `arch_set_trap_mask` takes one away. x64 keeps the bits that its operations act on,
and there `arch_set_trap_mask` adds one.
-/
namespace FPSpy

/-- `strcasestr(haystack, needle) != NULL` in the C locale. -/
def strcasestr (haystack needle : List Char) : Bool :=
  decide (needle.map Char.toLower <:+: haystack.map Char.toLower)

def Fe.key : Fe → List Char
  | .invalid => ['i', 'n', 'v']
  | .denorm => ['d', 'e', 'n']
  | .divbyzero => ['d', 'i', 'v']
  | .overflow => ['o', 'v', 'e', 'r']
  | .underflow => ['u', 'n', 'd', 'e', 'r']
  | .inexact => ['p', 'r', 'e', 'c']

/-- The exceptions in the order in which `config_exceptions` looks for them. -/
def Fe.all : List Fe := [.invalid, .denorm, .divbyzero, .overflow, .underflow, .inexact]

structure TrapSelection (B : Backend) where
  statics : B.Statics
  enabledFpTraps : Fe → Bool

section Config

variable {B : Backend}

/-- One exception: tracked if its key occurs, set in the trap mask if it does not. There is
no bit for denormals in `enabled_fp_traps`. -/
def configException (buf : List Char) (t : TrapSelection B) (which : Fe) : TrapSelection B :=
  if strcasestr buf which.key then
    { t with
      enabledFpTraps :=
        if which = .denorm then t.enabledFpTraps else Function.update t.enabledFpTraps which true }
  else { t with statics := B.setTrapMask which t.statics }

def configExceptions (mode : Mode) (buf : List Char) (t : TrapSelection B) : TrapSelection B :=
  match mode with
  | .aggregate => t
  | .individual => Fe.all.foldl (configException buf) ⟨B.clearTrapMask t.statics, fun _ => false⟩

end Config

/-! ## The documented lists -/

def Fe.name : Fe → List Char
  | .invalid => "invalid".toList
  | .denorm => "denorm".toList
  | .divbyzero => "divide".toList
  | .overflow => "overflow".toList
  | .underflow => "underflow".toList
  | .inexact => "precision".toList

structure Item where
  which : Fe
  spelling : List Char
  spelled : spelling.map Char.toLower = which.name

def exceptList (items : List Item) : List Char := [','].intercalate (items.map (·.spelling))

def listed (items : List Item) (e : Fe) : Bool := items.any (·.which == e)

/-- A key occurs in the name it stands for, and in no other. -/
theorem Fe.key_infix_name_iff (e n : Fe) : e.key <:+: n.name ↔ n = e := by
  cases e <;> cases n <;> decide

theorem Fe.toLower_key (e : Fe) : e.key.map Char.toLower = e.key := by cases e <;> decide

theorem Fe.comma_not_mem_key (e : Fe) : ',' ∉ e.key := by cases e <;> decide

theorem Fe.key_ne_nil (e : Fe) : e.key ≠ [] := by cases e <;> decide

theorem toLower_exceptList (items : List Item) :
    (exceptList items).map Char.toLower = [','].intercalate (items.map (·.which.name)) := by
  rw [exceptList, Search.map_intercalate, List.map_map]
  congr 1
  exact List.map_congr_left fun i _ => i.spelled

/-- The search finds exactly the listed names. -/
theorem strcasestr_exceptList (items : List Item) (e : Fe) :
    strcasestr (exceptList items) e.key = listed items e := by
  rw [Bool.eq_iff_iff, strcasestr, decide_eq_true_iff, toLower_exceptList, Fe.toLower_key,
    Search.infix_intercalate_iff e.comma_not_mem_key e.key_ne_nil]
  simp [listed, Fe.key_infix_name_iff]

/-- What the backend is told: clear, then set every exception that is not listed. -/
theorem statics_configExceptions {B : Backend} (items : List Item) (t : TrapSelection B) :
    (configExceptions .individual (exceptList items) t).statics =
      (Fe.all.filter fun e => !listed items e).foldl (fun st e => B.setTrapMask e st)
        (B.clearTrapMask t.statics) := by
  have hfold : ∀ (es : List Fe) (t : TrapSelection B),
      (es.foldl (configException (exceptList items)) t).statics =
        (es.filter fun e => !listed items e).foldl (fun st e => B.setTrapMask e st) t.statics := by
    intro es
    induction es with
    | nil => intro t; rfl
    | cons e es ih =>
      intro t
      rw [List.foldl_cons, ih, configException, strcasestr_exceptList]
      cases hl : listed items e <;> simp [hl]
  exact hfold Fe.all _

/-! ## x64 -/

namespace X64

def masked (uc : UContext) (e : Fe) : Bool := uc.mxcsr &&& feBit e <<< 7 != 0

def flagged (uc : UContext) (e : Fe) : Bool := uc.mxcsr &&& feBit e != 0

/-- The backend acts on exactly the listed exceptions: those are unmasked, their flags are
cleared, and all six are masked again. -/
structure Selects (st : Statics) (listed : Fe → Bool) (uc : UContext) : Prop where
  unmask : ∀ e, masked (archUnmaskFpTraps st uc) e = !listed e
  clear : ∀ e, flagged (archClearFpExceptions st uc) e = (flagged uc e && !listed e)
  clear_rest : (archClearFpExceptions st uc).mxcsr &&& ~~~0x3f#32 = uc.mxcsr &&& ~~~0x3f#32
  mask_again : ∀ e, masked (archMaskFpTraps st (archUnmaskFpTraps st uc)) e = true

theorem feBit_disjoint {a e : Fe} (h : a ≠ e) : feBit a &&& feBit e = 0 := by
  revert h
  cases a <;> cases e <;> decide

theorem feBit_ne_zero (e : Fe) : feBit e <<< 7 ≠ 0 := by cases e <;> decide

/-- Setting the trap mask adds bits to the base. -/
theorem base_foldl_setTrapMask (es : List Fe) (st : Statics) (e : Fe) :
    (es.foldl (fun st e => archSetTrapMask e st) st).mxcsrmaskBase &&& feBit e =
      if e ∈ es then feBit e else st.mxcsrmaskBase &&& feBit e := by
  induction es generalizing st with
  | nil => simp
  | cons a es ih =>
    rw [List.foldl_cons, ih]
    by_cases hae : a = e
    · subst hae
      simp [archSetTrapMask]
    · rw [archSetTrapMask, Bits.or_and_of_disjoint _ (feBit_disjoint hae)]
      simp [Ne.symm hae]

/-- The base holds the exceptions that are not listed. -/
theorem base_configExceptions (items : List Item) (t : TrapSelection backend) (e : Fe) :
    (configExceptions .individual (exceptList items) t).statics.mxcsrmaskBase &&& feBit e =
      if listed items e then 0 else feBit e := by
  rw [statics_configExceptions]
  have h := base_foldl_setTrapMask (Fe.all.filter fun e => !listed items e)
    (archClearTrapMask t.statics) e
  rw [h]
  have hall : e ∈ Fe.all := by cases e <;> decide
  cases hl : listed items e <;> simp [hall, hl, archClearTrapMask]

/-- Every exception that is *not* listed is unmasked, and only those. -/
theorem masked_unmask_configExceptions (items : List Item) (t : TrapSelection backend)
    {uc : UContext} (h : ∀ e, masked uc e = true) (e : Fe) :
    masked (archUnmaskFpTraps (configExceptions .individual (exceptList items) t).statics uc) e =
      listed items e := by
  have hbase := base_configExceptions items t e
  have huc : uc.mxcsr &&& feBit e <<< 7 ≠ 0 := by simpa [masked] using h e
  simp only [masked, archUnmaskFpTraps, Statics.mxcsrMaskMask]
  cases hl : listed items e
  · rw [Bits.andNot_and_of_subset _ (by
      rw [← BitVec.shiftLeft_and_distrib, hbase, hl]
      rfl)]
    rfl
  · rw [Bits.andNot_and_of_disjoint _ (by
      rw [← BitVec.shiftLeft_and_distrib, hbase, hl]
      rfl)]
    simpa using huc

/-- The polarity of x64 is the wrong way round: no documented list selects its exceptions. -/
theorem not_selects_configExceptions (items : List Item) (t : TrapSelection backend)
    {uc : UContext} (h : ∀ e, masked uc e = true) :
    ¬ Selects (configExceptions .individual (exceptList items) t).statics (listed items) uc := by
  intro hsel
  have hcode := masked_unmask_configExceptions items t h .invalid
  rw [hsel.unmask .invalid] at hcode
  cases hl : listed items .invalid <;> simp [hl] at hcode

/-- A context with all six traps masked, the flags in any state. -/
def maskedContext (flags : BitVec 32) : UContext := ⟨fun _ => 0, 0x1f80 ||| flags⟩

def allTraps : TrapSelection backend := ⟨statics, fun e => e != .denorm⟩

def divideOverflow : List Item :=
  [⟨.divbyzero, "Divide".toList, by decide⟩, ⟨.overflow, "OVERFLOW".toList, by decide⟩]

theorem not_selects_divideOverflow :
    ¬ Selects (configExceptions .individual (exceptList divideOverflow) allTraps).statics
      (listed divideOverflow) (maskedContext 0x3f) :=
  not_selects_configExceptions divideOverflow _ (by intro e; cases e <;> decide)

def onlyInvalid : List Item := [⟨.invalid, "invalid".toList, by decide⟩]

/-- Asked for invalid operations, the backend keeps exactly these masked. -/
theorem not_selects_onlyInvalid :
    ¬ Selects (configExceptions .individual (exceptList onlyInvalid) allTraps).statics
      (listed onlyInvalid) (maskedContext 0) := by
  intro h
  exact absurd (h.unmask .invalid) (by decide)

end X64

end FPSpy
