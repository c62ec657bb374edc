import FPSpy.Lib.Bits
import FPSpy.Machine.Arch
import FPSpy.Machine.Breakpoint

/-!
# The riscv64 backend

`src/riscv64/riscv64.c`. The sticky flags are bits 0-4 of `fcsr`, which the saved
context holds; the trap enables are the same bits of the custom CSR 0x880, which
belongs to the hart and is written directly. `UContext` carries both. The
breakpoint depends on `CONFIG_RISCV_USE_ESTEP`.
-/
namespace FPSpy
namespace Riscv64

/-- `__gregs` (with the pc in slot 0), `__fcsr`, and CSR 0x880 of the thread. -/
structure UContext where
  gregs : Fin 32 → BitVec 64
  fcsr : BitVec 32
  ften : BitVec 32

inductive WhatFp where
  | haveNoFp | haveFFp | haveDFp | haveQFp
  deriving DecidableEq, Repr

structure Statics where
  ftenBase : BitVec 32
  whatFp : WhatFp
  subset : ftenBase &&& ~~~0x1f#32 = 0

def statics : Statics := ⟨0x1f#32, .haveDFp, by decide⟩

def Statics.haveFp (st : Statics) : Bool := st.whatFp != .haveNoFp

/-- The enable bit of an exception; there is none for denormals. -/
def feBit : Fe → BitVec 32
  | .invalid => 0x10
  | .denorm => 0x0
  | .divbyzero => 0x08
  | .overflow => 0x04
  | .underflow => 0x02
  | .inexact => 0x01

def archClearTrapMask (st : Statics) : Statics := { st with ftenBase := 0x1f, subset := by decide }

def archSetTrapMask (which : Fe) (st : Statics) : Statics where
  ftenBase := st.ftenBase &&& ~~~feBit which
  whatFp := st.whatFp
  subset := by
    rw [BitVec.and_assoc, BitVec.and_comm (~~~feBit which), ← BitVec.and_assoc, st.subset]
    simp

def archClearFpExceptions (st : Statics) (uc : UContext) : UContext :=
  if st.haveFp then { uc with fcsr := uc.fcsr &&& ~~~st.ftenBase } else uc

def archMaskFpTraps (st : Statics) (uc : UContext) : UContext :=
  { uc with ften := uc.ften &&& ~~~st.ftenBase }

def archUnmaskFpTraps (st : Statics) (uc : UContext) : UContext :=
  { uc with ften := uc.ften ||| st.ftenBase }

def fcsrRoundMask : BitVec 32 := 0x70

def archGetRoundConfig (st : Statics) (uc : UContext) : BitVec 32 :=
  if st.haveFp then uc.fcsr &&& fcsrRoundMask else .allOnes 32

/-- The enables are read and written back with the same value. -/
def archSetRoundConfig (st : Statics) (uc : UContext) (config : BitVec 32) : UContext :=
  if st.haveFp then { uc with fcsr := (uc.fcsr &&& ~~~fcsrRoundMask) ||| config } else uc

def brkInstr (estep : Bool) : BitVec 32 := if estep then 0x00300073 else 0x90029002

/-- `insn_len`: any low bit set counts as a long instruction. -/
def insnLen (code : Mem) (pc : Addr) : BitVec 64 :=
  if code.read32 pc &&& 3 ≠ 0 then 4 else 2

def pc (uc : UContext) : Addr := uc.gregs 0

def atPc (a : Addr) (uc : UContext) : UContext :=
  { uc with gregs := Function.update uc.gregs 0 a }

@[simp] theorem pc_atPc (a : Addr) (uc : UContext) : pc (atPc a uc) = a := by
  simp [pc, atPc]

def archSetTrapMode (estep : Bool) (uc : UContext) (code : Mem) (_ : BitVec 64) :
    TrapMode UContext :=
  let p := Breakpoint.set (brkInstr estep) (pc uc + insnLen code (pc uc)) code
  ⟨uc, p.code, p.state⟩

def archResetTrapMode (uc : UContext) (code : Mem) (state : BitVec 64) : TrapMode UContext :=
  let p := Breakpoint.reset (pc uc) code state
  ⟨uc, p.code, p.state⟩

def archResetTrapModeNull (uc : UContext) : UContext := uc

def archGetIp (uc : UContext) : BitVec 64 := uc.gregs 0
def archGetSp (uc : UContext) : BitVec 64 := uc.gregs 2

def archGetFpCsr (st : Statics) (uc : UContext) : BitVec 64 :=
  if st.haveFp then (uc.ften.setWidth 64 <<< 32) ||| uc.fcsr.setWidth 64 else .allOnes 64

def archGetInstrBytes (uc : UContext) (code : Mem) : Vector (BitVec 8) maxInstrSize :=
  Vector.ofFn fun i => if i.val < 4 then code (pc uc + BitVec.ofNat 64 i) else 0

@[reducible] def backend (estep : Bool) : Backend where
  UContext := UContext
  Statics := Statics
  clearTrapMask := archClearTrapMask
  setTrapMask := archSetTrapMask
  clearFpExceptions := archClearFpExceptions
  maskFpTraps := archMaskFpTraps
  unmaskFpTraps := archUnmaskFpTraps
  getRoundConfig := archGetRoundConfig
  setRoundConfig := archSetRoundConfig
  setTrapMode := archSetTrapMode estep
  resetTrapMode := archResetTrapMode
  resetTrapModeNull := archResetTrapModeNull
  getIp := archGetIp
  getSp := archGetSp
  getFpCsr := archGetFpCsr
  getInstrBytes := archGetInstrBytes

def trapsUnmasked (st : Statics) (uc : UContext) : Bool := uc.ften &&& st.ftenBase != 0

@[simp] theorem ften_clearFpExceptions (st : Statics) (uc : UContext) :
    (archClearFpExceptions st uc).ften = uc.ften := by
  unfold archClearFpExceptions; split_ifs <;> rfl

@[simp] theorem ften_setRoundConfig (st : Statics) (uc : UContext) (c : BitVec 32) :
    (archSetRoundConfig st uc c).ften = uc.ften := by
  unfold archSetRoundConfig; split_ifs <;> rfl

end Riscv64

@[reducible] def riscv64 (estep : Bool) : Arch where
  toBackend := Riscv64.backend estep
  trapsUnmasked := Riscv64.trapsUnmasked
  singleStepping _ s := Breakpoint.isOn s
  IsRoundConfig _ := True
  isRoundConfig_zero := trivial
  isRoundConfig_get _ _ := trivial
  unmasked_clear st uc := by simp [Riscv64.trapsUnmasked]
  unmasked_mask st uc := by simp [Riscv64.trapsUnmasked, Riscv64.archMaskFpTraps]
  unmasked_setRound st uc c _ := by simp [Riscv64.trapsUnmasked]
  unmasked_setTrapMode _ _ _ _ := rfl
  unmasked_resetTrapMode _ _ _ _ := rfl
  unmasked_resetTrapModeNull _ _ := rfl
  stepping_clear _ _ _ := rfl
  stepping_mask _ _ _ := rfl
  stepping_unmask _ _ _ := rfl
  stepping_setRound _ _ _ _ := rfl
  stepping_resetTrapMode uc code s := Breakpoint.isOn_reset (Riscv64.pc uc) code s
  stepping_resetTrapModeNull _ := rfl

end FPSpy
