import FPSpy.Lib.Bits
import FPSpy.Machine.Arch

/-!
# The x64 backend

`src/x64/x64.c`. MXCSR holds the six sticky flags in bits 0-5, DAZ in bit 6, the
six trap masks in bits 7-12, the rounding mode in bits 13-14 and FTZ in bit 15.
Trap mode is the hardware trap flag of RFLAGS.
-/
namespace FPSpy

namespace X64

inductive Greg where
  | r8 | r9 | r10 | r11 | r12 | r13 | r14 | r15
  | rdi | rsi | rbp | rbx | rdx | rax | rcx | rsp | rip | efl
  deriving DecidableEq, Repr

structure UContext where
  gregs : Greg → BitVec 64
  mxcsr : BitVec 32

/-- `mxcsrmask_base`: no writer sets a bit outside the six exceptions. -/
structure Statics where
  mxcsrmaskBase : BitVec 32
  subset : mxcsrmaskBase &&& ~~~0x3f#32 = 0

def statics : Statics := ⟨0x3f#32, by decide⟩

namespace Statics

variable (st : Statics)

def mxcsrFlagMask : BitVec 32 := st.mxcsrmaskBase <<< 0

def mxcsrMaskMask : BitVec 32 := st.mxcsrmaskBase <<< 7

theorem flagMask_subset : st.mxcsrFlagMask &&& ~~~0x3f#32 = 0 := by
  simpa [mxcsrFlagMask] using st.subset

theorem maskMask_subset : st.mxcsrMaskMask &&& ~~~0x1f80#32 = 0 :=
  Bits.shiftLeft_subset st.subset 7

theorem flag_disjoint_mask : st.mxcsrFlagMask &&& st.mxcsrMaskMask = 0 := by
  refine Bits.disjoint_of_subset st.flagMask_subset ?_
  rw [BitVec.and_comm]
  exact Bits.disjoint_of_subset st.maskMask_subset (by decide)

/-- A field that avoids the six mask bits avoids the monitored ones. -/
theorem disjoint_maskMask {k : BitVec 32} (h : 0x1f80#32 &&& k = 0) :
    k &&& st.mxcsrMaskMask = 0 := by
  rw [BitVec.and_comm]
  exact Bits.disjoint_of_subset st.maskMask_subset h

end Statics

def feBit : Fe → BitVec 32
  | .invalid => 0x1
  | .denorm => 0x2
  | .divbyzero => 0x4
  | .overflow => 0x8
  | .underflow => 0x10
  | .inexact => 0x20

theorem feBit_subset (e : Fe) : feBit e &&& ~~~0x3f#32 = 0 := by cases e <;> decide

def archClearTrapMask (_ : Statics) : Statics := ⟨0, by decide⟩

def archSetTrapMask (which : Fe) (st : Statics) : Statics :=
  ⟨st.mxcsrmaskBase ||| feBit which, Bits.or_subset st.subset (feBit_subset which)⟩

def archClearFpExceptions (st : Statics) (uc : UContext) : UContext :=
  { uc with mxcsr := uc.mxcsr &&& ~~~st.mxcsrFlagMask }

def archMaskFpTraps (st : Statics) (uc : UContext) : UContext :=
  { uc with mxcsr := uc.mxcsr ||| st.mxcsrMaskMask }

def archUnmaskFpTraps (st : Statics) (uc : UContext) : UContext :=
  { uc with mxcsr := uc.mxcsr &&& ~~~st.mxcsrMaskMask }

def mxcsrRoundDazFtzMask : BitVec 32 := 0xe040

def archGetRoundConfig (_ : Statics) (uc : UContext) : BitVec 32 :=
  uc.mxcsr &&& mxcsrRoundDazFtzMask

/-- The new configuration is ORed in as it is. -/
def archSetRoundConfig (_ : Statics) (uc : UContext) (config : BitVec 32) : UContext :=
  { uc with mxcsr := (uc.mxcsr &&& ~~~mxcsrRoundDazFtzMask) ||| config }

def tfBit : BitVec 64 := 0x100

def trapModeOff : BitVec 64 := 1
def trapModeOn : BitVec 64 := 2

def archSetTrapMode (uc : UContext) (code : Mem) (_ : BitVec 64) : TrapMode UContext where
  uc := { uc with gregs := Function.update uc.gregs .efl (uc.gregs .efl ||| tfBit) }
  code := code
  state := trapModeOn

def archResetTrapModeNull (uc : UContext) : UContext :=
  { uc with gregs := Function.update uc.gregs .efl (uc.gregs .efl &&& ~~~tfBit) }

def archResetTrapMode (uc : UContext) (code : Mem) (_ : BitVec 64) : TrapMode UContext where
  uc := archResetTrapModeNull uc
  code := code
  state := trapModeOff

def archGetIp (uc : UContext) : BitVec 64 := uc.gregs .rip
def archGetSp (uc : UContext) : BitVec 64 := uc.gregs .rsp
def archGetFpCsr (_ : Statics) (uc : UContext) : BitVec 64 := uc.mxcsr.setWidth 64

/-- With a size of 15 the bound of 15 is not met: the copy is whole. -/
def archGetInstrBytes (uc : UContext) (code : Mem) : Vector (BitVec 8) maxInstrSize :=
  Vector.ofFn fun i => code (uc.gregs .rip + BitVec.ofNat 64 i)

@[reducible] def backend : Backend where
  UContext := UContext
  Statics := Statics
  clearTrapMask := archClearTrapMask
  setTrapMask := archSetTrapMask
  clearFpExceptions := archClearFpExceptions
  maskFpTraps := archMaskFpTraps
  unmaskFpTraps := archUnmaskFpTraps
  getRoundConfig := archGetRoundConfig
  setRoundConfig := archSetRoundConfig
  setTrapMode := archSetTrapMode
  resetTrapMode := archResetTrapMode
  resetTrapModeNull := archResetTrapModeNull
  getIp := archGetIp
  getSp := archGetSp
  getFpCsr := archGetFpCsr
  getInstrBytes := archGetInstrBytes

/-! ## What the operations do to the traps -/

def unmasked (uc : UContext) : BitVec 32 := ~~~(uc.mxcsr >>> 7) &&& 0x3f#32

theorem unmasked_eq (uc : UContext) :
    unmasked uc = ~~~((uc.mxcsr &&& 0x1f80#32) >>> 7) &&& 0x3f#32 := by
  rw [unmasked, BitVec.ushiftRight_and_distrib, show 0x1f80#32 >>> 7 = 0x3f#32 by decide,
    Bits.not_and_and]

theorem unmasked_of_open {uc : UContext} (h : uc.mxcsr &&& 0x1f80#32 = 0) :
    unmasked uc = 0x3f#32 := by
  rw [unmasked_eq, h]; decide

theorem unmasked_of_masked {uc : UContext} (h : uc.mxcsr &&& 0x1f80#32 = 0x1f80#32) :
    unmasked uc = 0 := by
  rw [unmasked_eq, h]; decide

def trapsUnmasked (st : Statics) (uc : UContext) : Bool :=
  uc.mxcsr &&& st.mxcsrMaskMask != st.mxcsrMaskMask

def tf (uc : UContext) : Bool := uc.gregs .efl &&& tfBit != 0

theorem trapsUnmasked_congr {st : Statics} {uc vc : UContext}
    (h : uc.mxcsr &&& st.mxcsrMaskMask = vc.mxcsr &&& st.mxcsrMaskMask) :
    trapsUnmasked st uc = trapsUnmasked st vc := by
  simp only [trapsUnmasked, h]

theorem trapsUnmasked_setRound (st : Statics) (uc : UContext) (c : BitVec 32)
    (hc : c &&& ~~~mxcsrRoundDazFtzMask = 0) :
    trapsUnmasked st (archSetRoundConfig st uc c) = trapsUnmasked st uc := by
  apply trapsUnmasked_congr
  have hround : mxcsrRoundDazFtzMask &&& st.mxcsrMaskMask = 0 := st.disjoint_maskMask (by decide)
  simp only [archSetRoundConfig]
  rw [Bits.or_and_of_disjoint _ (Bits.disjoint_of_subset hc hround),
    Bits.andNot_and_of_disjoint _ hround]

theorem tf_resetTrapModeNull (uc : UContext) : tf (archResetTrapModeNull uc) = false := by
  simp only [tf, archResetTrapModeNull, Function.update_self, Bits.andNot_and_self]
  rfl

end X64

@[reducible] def x64 : Arch where
  toBackend := X64.backend
  trapsUnmasked := X64.trapsUnmasked
  singleStepping uc _ := X64.tf uc
  IsRoundConfig c := c &&& ~~~X64.mxcsrRoundDazFtzMask = 0
  isRoundConfig_zero := by decide
  isRoundConfig_get st uc := by
    simp only [X64.archGetRoundConfig, BitVec.and_assoc]
    rw [show X64.mxcsrRoundDazFtzMask &&& ~~~X64.mxcsrRoundDazFtzMask = 0 by decide]
    simp
  unmasked_clear st uc :=
    X64.trapsUnmasked_congr (Bits.andNot_and_of_disjoint _ st.flag_disjoint_mask)
  unmasked_mask st uc := by simp [X64.trapsUnmasked, X64.archMaskFpTraps]
  unmasked_setRound := X64.trapsUnmasked_setRound
  unmasked_setTrapMode _ _ _ _ := rfl
  unmasked_resetTrapMode _ _ _ _ := rfl
  unmasked_resetTrapModeNull _ _ := rfl
  stepping_clear _ _ _ := rfl
  stepping_mask _ _ _ := rfl
  stepping_unmask _ _ _ := rfl
  stepping_setRound _ _ _ _ := rfl
  stepping_resetTrapMode uc _ _ := X64.tf_resetTrapModeNull uc
  stepping_resetTrapModeNull := X64.tf_resetTrapModeNull

end FPSpy
