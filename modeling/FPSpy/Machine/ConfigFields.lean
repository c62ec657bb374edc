import FPSpy.Lib.Fields
import FPSpy.Machine.RoundField

/-!
# The two fields of a rounding configuration

The configuration is opaque to the core, which reads and changes it through a getter and a
setter for the rounding mode and another pair for DAZ and FTZ. On x64 and arm64 these are
two packed fields that do not meet. On arm64 three bits encode the four settings of DAZ and
FTZ; the setter writes one encoding of each, and the getter understands them all.
-/
namespace FPSpy

open X64 (RoundMode DazftzMode)

/-- Two pairs of a getter and a setter on a configuration word are two independent fields. A
getter gives the code of a mode. -/
structure TwoFields {ρ δ : Type} (roundMask dazftzMask : BitVec 32)
    (getRound : BitVec 32 → ρ) (setRound : BitVec 32 → RoundMode → BitVec 32)
    (roundCode : RoundMode → ρ)
    (getDazftz : BitVec 32 → δ) (setDazftz : BitVec 32 → DazftzMode → BitVec 32)
    (dazftzCode : DazftzMode → δ) : Prop where
  get_setRound : ∀ c m, getRound (setRound c m) = roundCode m
  get_setDazftz : ∀ c d, getDazftz (setDazftz c d) = dazftzCode d
  getDazftz_setRound : ∀ c m, getDazftz (setRound c m) = getDazftz c
  getRound_setDazftz : ∀ c d, getRound (setDazftz c d) = getRound c
  outside_setRound : ∀ c m, setRound c m &&& ~~~roundMask = c &&& ~~~roundMask
  outside_setDazftz : ∀ c d, setDazftz c d &&& ~~~dazftzMask = c &&& ~~~dazftzMask
  comm : ∀ c m d, setRound (setDazftz c d) m = setDazftz (setRound c m) d
  setRound_setRound : ∀ c m n, setRound (setRound c m) n = setRound c n
  setDazftz_setDazftz : ∀ c d e, setDazftz (setDazftz c d) e = setDazftz c e

/-- Packed fields that do not meet are independent. -/
theorem TwoFields.of_packed {ρ δ : Type} (R : PackedField 32 RoundMode)
    (D : PackedField 32 DazftzMode) (h : R.mask &&& D.mask = 0)
    (roundCode : RoundMode → ρ) (dazftzCode : DazftzMode → δ) :
    TwoFields R.mask D.mask (fun c => roundCode (R.get c)) R.set roundCode
      (fun c => dazftzCode (D.get c)) D.set dazftzCode where
  get_setRound c m := by rw [R.get_set]
  get_setDazftz c d := by rw [D.get_set]
  getDazftz_setRound c m := by rw [R.get_set_of_disjoint h]
  getRound_setDazftz c d := by rw [D.get_set_of_disjoint (by rwa [BitVec.and_comm])]
  outside_setRound := R.set_outside
  outside_setDazftz := D.set_outside
  comm := R.set_comm h
  setRound_setRound := R.set_set
  setDazftz_setDazftz := D.set_set

/-! ## x64 -/

namespace X64

/-- The mode with this number; a mode has two bits. -/
def RoundMode.ofCode (code : BitVec 32) : RoundMode :=
  if code = 0 then .nearest else if code = 1 then .negative else if code = 2 then .positive
  else .zero

def roundField : PackedField 32 RoundMode where
  mask := 0x6000
  pack m := (m.code &&& 0x3) <<< 13
  get c := .ofCode (archGetRoundMode c)
  pack_subset m := by cases m <;> decide
  get_congr x y h := by
    have hfield : ∀ z : BitVec 32, archGetRoundMode z = (z &&& 0x6000#32) >>> 13 := by
      intro z
      rw [archGetRoundMode, BitVec.ushiftRight_and_distrib]
      rfl
    rw [hfield, hfield]
    exact congrArg (fun z : BitVec 32 => RoundMode.ofCode (z >>> 13)) h
  get_pack m := by cases m <;> decide

/-- The number that is read is always that of a mode. -/
theorem archGetRoundMode_eq (c : BitVec 32) : archGetRoundMode c = (roundField.get c).code := by
  have hlt : (archGetRoundMode c).toNat < 4 := by
    rw [archGetRoundMode, BitVec.toNat_and]
    exact lt_of_le_of_lt Nat.and_le_right (by decide)
  have hcode : ∀ n < 4, (RoundMode.ofCode (BitVec.ofNat 32 n)).code = BitVec.ofNat 32 n := by
    decide
  have h := hcode _ hlt
  rw [BitVec.ofNat_toNat, BitVec.setWidth_eq] at h
  exact h.symm

theorem archSetRoundMode_eq (c : BitVec 32) (m : RoundMode) :
    archSetRoundMode c m.code = roundField.set c m := rfl

/-- What `arch_set_dazftz_mode` sets for a mode: DAZ is bit 6 and FTZ bit 15. -/
def dazftzBits : DazftzMode → BitVec 32
  | .noDazNoFtz => 0
  | .noDazFtz => 0x8000
  | .dazNoFtz => 0x0040
  | .dazFtz => 0x8040

def dazftzField : PackedField 32 DazftzMode where
  mask := 0x8040
  pack := dazftzBits
  get := archGetDazftzMode
  pack_subset d := by cases d <;> decide
  get_congr x y h := by
    have hfield : x &&& 0x8040#32 = y &&& 0x8040#32 := h
    simp only [archGetDazftzMode, BitVec.ofNat_eq_ofNat, hfield]
  get_pack d := by cases d <;> decide

theorem archSetDazftzMode_eq (c : BitVec 32) (d : DazftzMode) :
    archSetDazftzMode c d.code = dazftzField.set c d := by
  cases d
  · exact BitVec.or_zero.symm
  all_goals rfl

end X64

/-! ## arm64 -/

namespace Arm64

def fpspyRoundMode : RoundMode → FpspyRoundMode
  | .nearest => .nearest
  | .negative => .negative
  | .positive => .positive
  | .zero => .zero

/-- `rmode` of FPCR: the codes for up and down are not those of x64. -/
def roundBits : RoundMode → BitVec 32
  | .nearest => 0
  | .positive => 0x400000
  | .negative => 0x800000
  | .zero => 0xc00000

def getRoundMode (c : BitVec 32) : RoundMode :=
  match archGetRoundMode c with
  | .nearest => .nearest
  | .positive => .positive
  | .negative => .negative
  | _ => .zero

def roundField : PackedField 32 RoundMode where
  mask := 0xc00000
  pack := roundBits
  get := getRoundMode
  pack_subset m := by cases m <;> decide
  get_congr x y h := by
    have hfield : ∀ z : BitVec 32, z >>> 22 &&& 0x3#32 = (z &&& 0xc00000#32) >>> 22 := by
      intro z
      rw [BitVec.ushiftRight_and_distrib]
      rfl
    have hxy : x &&& 0xc00000#32 = y &&& 0xc00000#32 := h
    simp only [getRoundMode, archGetRoundMode, hfield, hxy]
  get_pack m := by cases m <;> decide

/-- The getter never gives one of the two modes of RISC-V. -/
theorem archGetRoundMode_eq (c : BitVec 32) :
    archGetRoundMode c = fpspyRoundMode (roundField.get c) := by
  simp only [roundField, getRoundMode, archGetRoundMode]
  split <;> rfl

theorem archSetRoundMode_eq (c : BitVec 32) (m : RoundMode) :
    archSetRoundMode c (fpspyRoundMode m) = roundField.set c m := by
  cases m
  · exact BitVec.or_zero.symm
  all_goals rfl

def dazftzBits : DazftzMode → BitVec 32
  | .noDazNoFtz => 0
  | .noDazFtz => 0x1000002
  | .dazNoFtz => 0x0000003
  | .dazFtz => 0x1000001

def dazftzField : PackedField 32 DazftzMode where
  mask := 0x1000003
  pack := dazftzBits
  get := archGetDazftzMode
  pack_subset d := by cases d <;> decide
  get_congr x y h := by
    have hpart : ∀ m : BitVec 32, 0x1000003#32 &&& m = m → x &&& m = y &&& m := by
      intro m hm
      rw [← hm, ← BitVec.and_assoc, ← BitVec.and_assoc]
      exact congrArg (· &&& m) h
    have hfiz := hpart 0x1#32 (by decide)
    have hah := hpart 0x2#32 (by decide)
    have hfz := hpart 0x1000000#32 (by decide)
    simp only [archGetDazftzMode, BitVec.ofNat_eq_ofNat, hfiz, hah, hfz]
  get_pack d := by cases d <;> decide

theorem archSetDazftzMode_eq (c : BitVec 32) (d : DazftzMode) :
    archSetDazftzMode c d = dazftzField.set c d := by
  cases d
  · exact BitVec.or_zero.symm
  all_goals rfl

end Arm64

/-- On both backends a configuration is two independent fields. -/
theorem roundConfig_twoFields :
    TwoFields 0x6000 0x8040 X64.archGetRoundMode (fun c m => X64.archSetRoundMode c m.code)
      RoundMode.code X64.archGetDazftzMode (fun c d => X64.archSetDazftzMode c d.code) id ∧
    TwoFields 0xc00000 0x1000003 Arm64.archGetRoundMode
      (fun c m => Arm64.archSetRoundMode c (Arm64.fpspyRoundMode m)) Arm64.fpspyRoundMode
      Arm64.archGetDazftzMode Arm64.archSetDazftzMode id := by
  constructor
  · rw [funext X64.archGetRoundMode_eq,
      funext fun c => funext (X64.archSetDazftzMode_eq c)]
    exact .of_packed X64.roundField X64.dazftzField (by decide) RoundMode.code id
  · rw [funext Arm64.archGetRoundMode_eq, funext fun c => funext (Arm64.archSetRoundMode_eq c),
      funext fun c => funext (Arm64.archSetDazftzMode_eq c)]
    exact .of_packed Arm64.roundField Arm64.dazftzField (by decide) Arm64.fpspyRoundMode id

end FPSpy
