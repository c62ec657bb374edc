import FPSpy.Machine.X64

/-!
# Rounding configurations

`Rounding` is a backend on which a configuration that is set stays until another one is
set, whatever else the handlers do to the context. On x64 a configuration packs the
rounding mode with DAZ and FTZ, in the positions they have in MXCSR.
-/
namespace FPSpy

/-- A backend that keeps the rounding configuration apart from flags, masks and trap mode. -/
structure Rounding (A : Arch) : Prop where
  get_setRound : ∀ st uc c, A.IsRoundConfig c → A.getRoundConfig st (A.setRoundConfig st uc c) = c
  get_clear : ∀ st uc, A.getRoundConfig st (A.clearFpExceptions st uc) = A.getRoundConfig st uc
  get_mask : ∀ st uc, A.getRoundConfig st (A.maskFpTraps st uc) = A.getRoundConfig st uc
  get_unmask : ∀ st uc, A.getRoundConfig st (A.unmaskFpTraps st uc) = A.getRoundConfig st uc
  get_setTrapMode : ∀ st uc code s,
    A.getRoundConfig st (A.setTrapMode uc code s).uc = A.getRoundConfig st uc
  get_resetTrapMode : ∀ st uc code s,
    A.getRoundConfig st (A.resetTrapMode uc code s).uc = A.getRoundConfig st uc
  get_resetTrapModeNull : ∀ st uc,
    A.getRoundConfig st (A.resetTrapModeNull uc) = A.getRoundConfig st uc

/-! ## x64 -/

namespace X64

/-- The flags of MXCSR are apart from the rounding configuration. -/
theorem Statics.round_disjoint_flagMask (st : Statics) :
    st.mxcsrFlagMask &&& mxcsrRoundDazFtzMask = 0 :=
  Bits.disjoint_of_subset st.flagMask_subset (by decide)

theorem Statics.round_disjoint_maskMask (st : Statics) :
    st.mxcsrMaskMask &&& mxcsrRoundDazFtzMask = 0 :=
  Bits.disjoint_of_subset st.maskMask_subset (by decide)

theorem rounding : Rounding x64 where
  get_setRound st uc c hc := by
    have hsub : c &&& ~~~mxcsrRoundDazFtzMask = 0 := hc
    simp only [archGetRoundConfig, archSetRoundConfig]
    rw [BitVec.and_comm, BitVec.and_or_distrib_left, BitVec.and_comm _ (_ &&& ~~~_),
      Bits.andNot_and_self, BitVec.and_comm _ c, Bits.and_of_subset hsub]
    simp
  get_clear st uc := Bits.andNot_and_of_disjoint _ st.round_disjoint_flagMask
  get_mask st uc := Bits.or_and_of_disjoint _ st.round_disjoint_maskMask
  get_unmask st uc := Bits.andNot_and_of_disjoint _ st.round_disjoint_maskMask
  get_setTrapMode _ _ _ _ := rfl
  get_resetTrapMode _ _ _ _ := rfl
  get_resetTrapModeNull _ _ := rfl

/-- `fpspy_round_mode_t`, without the two values that only RISC-V has. -/
inductive RoundMode where
  | nearest | negative | positive | zero
  deriving DecidableEq, Repr

def RoundMode.code : RoundMode → BitVec 32
  | .nearest => 0
  | .negative => 1
  | .positive => 2
  | .zero => 3

inductive DazftzMode where
  | noDazNoFtz | noDazFtz | dazNoFtz | dazFtz
  deriving DecidableEq, Repr

def DazftzMode.code : DazftzMode → BitVec 32
  | .noDazNoFtz => 0
  | .noDazFtz => 1
  | .dazNoFtz => 2
  | .dazFtz => 3

def DazftzMode.of : (daz ftz : Bool) → DazftzMode
  | false, false => .noDazNoFtz
  | false, true => .noDazFtz
  | true, false => .dazNoFtz
  | true, true => .dazFtz

def archGetMachineRoundConfig (mxcsr : BitVec 32) : BitVec 32 := mxcsr &&& mxcsrRoundDazFtzMask

def archGetRoundMode (config : BitVec 32) : BitVec 32 := (config >>> 13) &&& 0x3

def archSetRoundMode (config mode : BitVec 32) : BitVec 32 :=
  (config &&& ~~~0x6000#32) ||| ((mode &&& 0x3) <<< 13)

def archGetDazftzMode (config : BitVec 32) : DazftzMode :=
  if config &&& 0x8040 = 0x8040#32 then .dazFtz
  else if config &&& 0x8040 = 0x8000#32 then .noDazFtz
  else if config &&& 0x8040 = 0x0040#32 then .dazNoFtz
  else .noDazNoFtz

/-- The mode comes as a number, of which two bits are looked at. -/
def archSetDazftzMode (config mode : BitVec 32) : BitVec 32 :=
  let config := config &&& ~~~0x8040#32
  if mode &&& 0x3 = DazftzMode.dazFtz.code then config ||| 0x8040
  else if mode &&& 0x3 = DazftzMode.noDazFtz.code then config ||| 0x8000
  else if mode &&& 0x3 = DazftzMode.dazNoFtz.code then config ||| 0x0040
  else config

end X64
end FPSpy
