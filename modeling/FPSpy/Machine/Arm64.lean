import FPSpy.Lib.Bits
import FPSpy.Machine.Arch
import FPSpy.Machine.Breakpoint

/-!
# The arm64 backend

`src/arm64/arm64.c`. FPCR holds the trap enables in bits 8-12 and 15, FPSR the
sticky flags in the corresponding bits 0-4 and 7. Both are reached through the
first reserved record of the context, which must carry `FPSIMD_MAGIC`; a context
without one has `fpsimd = none`, and every accessor then fails and does nothing.
-/
namespace FPSpy
namespace Arm64

structure Fpsimd where
  fpsr : BitVec 32
  fpcr : BitVec 32

structure UContext where
  regs : Fin 31 → BitVec 64
  sp : BitVec 64
  pc : BitVec 64
  pstate : BitVec 64
  fpsimd : Option Fpsimd

/-- `fpcr_enable_base`: no writer sets a bit outside the six enables. -/
structure Statics where
  fpcrEnableBase : BitVec 32
  subset : fpcrEnableBase &&& ~~~0x9f00#32 = 0

def statics : Statics := ⟨0x9f00#32, by decide⟩

def Statics.fpsrFlagMask (st : Statics) : BitVec 32 := st.fpcrEnableBase >>> 8

def Statics.fpcrEnableMask (st : Statics) : BitVec 32 := st.fpcrEnableBase

def feBit : Fe → BitVec 32
  | .invalid => 0x0100
  | .denorm => 0x8000
  | .divbyzero => 0x0200
  | .overflow => 0x0400
  | .underflow => 0x0800
  | .inexact => 0x1000

/-- Clearing the mask enables everything. -/
def archClearTrapMask (_ : Statics) : Statics := statics

def archSetTrapMask (which : Fe) (st : Statics) : Statics where
  fpcrEnableBase := st.fpcrEnableBase &&& ~~~feBit which
  subset := by
    rw [BitVec.and_assoc, BitVec.and_comm (~~~feBit which), ← BitVec.and_assoc, st.subset]
    simp

def archClearFpExceptions (st : Statics) (uc : UContext) : UContext :=
  { uc with fpsimd := uc.fpsimd.map fun f => { f with fpsr := f.fpsr &&& ~~~st.fpsrFlagMask } }

def archMaskFpTraps (st : Statics) (uc : UContext) : UContext :=
  { uc with fpsimd := uc.fpsimd.map fun f => { f with fpcr := f.fpcr &&& ~~~st.fpcrEnableMask } }

def archUnmaskFpTraps (st : Statics) (uc : UContext) : UContext :=
  { uc with fpsimd := uc.fpsimd.map fun f => { f with fpcr := f.fpcr ||| st.fpcrEnableMask } }

def fpcrRoundDazFtzMask : BitVec 32 := 0x1c00003

def archGetRoundConfig (_ : Statics) (uc : UContext) : BitVec 32 :=
  match uc.fpsimd with
  | none => .allOnes 32
  | some f => f.fpcr &&& fpcrRoundDazFtzMask

/-- The new FPCR value is computed in a local variable that is never stored back. -/
def archSetRoundConfig (_ : Statics) (uc : UContext) (_ : BitVec 32) : UContext := uc

def brkInstr : BitVec 32 := 0xd42002e0

def archSetTrapMode (uc : UContext) (code : Mem) (_ : BitVec 64) : TrapMode UContext :=
  let p := Breakpoint.set brkInstr (uc.pc + 4#64) code
  ⟨uc, p.code, p.state⟩

def archResetTrapMode (uc : UContext) (code : Mem) (state : BitVec 64) : TrapMode UContext :=
  let p := Breakpoint.reset uc.pc code state
  ⟨uc, p.code, p.state⟩

def archResetTrapModeNull (uc : UContext) : UContext := uc

def archGetIp (uc : UContext) : BitVec 64 := uc.pc
def archGetSp (uc : UContext) : BitVec 64 := uc.sp

def archGetFpCsr (_ : Statics) (uc : UContext) : BitVec 64 :=
  match uc.fpsimd with
  | none => .allOnes 64
  | some f => (f.fpcr.setWidth 64 <<< 32) ||| f.fpsr.setWidth 64

def archGetInstrBytes (uc : UContext) (code : Mem) : Vector (BitVec 8) maxInstrSize :=
  Vector.ofFn fun i => if i.val < 4 then code (uc.pc + BitVec.ofNat 64 i) else 0

@[reducible] def backend : Backend where
  UContext := UContext
  Statics := Statics
  clearTrapMask := archClearTrapMask
  setTrapMask := archSetTrapMask
  clearFpExceptions := archClearFpExceptions
  maskFpTraps := archMaskFpTraps
  unmaskFpTraps := archUnmaskFpTraps
  getRoundConfig := archGetRoundConfig
  setRoundConfig := archSetRoundConfig
  setTrapMode := archSetTrapMode
  resetTrapMode := archResetTrapMode
  resetTrapModeNull := archResetTrapModeNull
  getIp := archGetIp
  getSp := archGetSp
  getFpCsr := archGetFpCsr
  getInstrBytes := archGetInstrBytes

def trapsUnmasked (st : Statics) (uc : UContext) : Bool :=
  match uc.fpsimd with
  | none => false
  | some f => f.fpcr &&& st.fpcrEnableMask != 0

end Arm64

@[reducible] def arm64 : Arch where
  toBackend := Arm64.backend
  trapsUnmasked := Arm64.trapsUnmasked
  singleStepping _ s := Breakpoint.isOn s
  IsRoundConfig _ := True
  isRoundConfig_zero := trivial
  isRoundConfig_get _ _ := trivial
  unmasked_clear st uc := by
    cases h : uc.fpsimd <;> simp [Arm64.trapsUnmasked, Arm64.archClearFpExceptions, h]
  unmasked_mask st uc := by
    cases h : uc.fpsimd <;> simp [Arm64.trapsUnmasked, Arm64.archMaskFpTraps, h]
  unmasked_setRound _ _ _ _ := rfl
  unmasked_setTrapMode _ _ _ _ := rfl
  unmasked_resetTrapMode _ _ _ _ := rfl
  unmasked_resetTrapModeNull _ _ := rfl
  stepping_clear _ _ _ := rfl
  stepping_mask _ _ _ := rfl
  stepping_unmask _ _ _ := rfl
  stepping_setRound _ _ _ _ := rfl
  stepping_resetTrapMode uc code s := Breakpoint.isOn_reset uc.pc code s
  stepping_resetTrapModeNull _ := rfl

end FPSpy
