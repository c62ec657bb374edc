import FPSpy.Machine.Arm64
import FPSpy.Machine.Riscv64

/-!
# The platforms without user-level single stepping

What arm64 and riscv64 have in common, as the core sees it: trap mode patches the next
instruction, and no other operation touches code memory or the program counter.
-/
namespace FPSpy

structure BrkArch extends Arch where
  brkInstr : BitVec 32
  /-- Where the instruction after the current one is taken to be. -/
  nextInstr : UContext → Mem → Addr
  /-- The instruction is four bytes long. -/
  IsLong : BitVec 32 → Prop
  nextInstr_long : ∀ uc code, IsLong (code.read32 (getIp uc)) → nextInstr uc code = getIp uc + 4#64
  setTrapMode_eq : ∀ uc code s, setTrapMode uc code s =
    ⟨uc, (Breakpoint.set brkInstr (nextInstr uc code) code).code,
      (Breakpoint.set brkInstr (nextInstr uc code) code).state⟩
  resetTrapMode_eq : ∀ uc code s, resetTrapMode uc code s =
    ⟨uc, (Breakpoint.reset (getIp uc) code s).code, (Breakpoint.reset (getIp uc) code s).state⟩
  nextInstr_congr : ∀ uc vc code, getIp uc = getIp vc → nextInstr uc code = nextInstr vc code
  ip_clear : ∀ st uc, getIp (clearFpExceptions st uc) = getIp uc
  ip_mask : ∀ st uc, getIp (maskFpTraps st uc) = getIp uc
  ip_unmask : ∀ st uc, getIp (unmaskFpTraps st uc) = getIp uc
  ip_setRound : ∀ st uc c, getIp (setRoundConfig st uc c) = getIp uc

attribute [simp] BrkArch.ip_clear BrkArch.ip_mask BrkArch.ip_unmask BrkArch.ip_setRound

@[reducible] def arm64Brk : BrkArch where
  toArch := arm64
  brkInstr := Arm64.brkInstr
  nextInstr uc _ := uc.pc + 4#64
  IsLong _ := True
  nextInstr_long _ _ _ := rfl
  setTrapMode_eq _ _ _ := rfl
  resetTrapMode_eq _ _ _ := rfl
  nextInstr_congr _ _ _ h := congrArg (· + 4#64) h
  ip_clear _ _ := rfl
  ip_mask _ _ := rfl
  ip_unmask _ _ := rfl
  ip_setRound _ _ _ := rfl

/-- A riscv64 instruction is four bytes long when its two low bits are set. -/
@[reducible] def riscv64Brk (estep : Bool) : BrkArch where
  toArch := riscv64 estep
  brkInstr := Riscv64.brkInstr estep
  nextInstr uc code := Riscv64.pc uc + Riscv64.insnLen code (Riscv64.pc uc)
  IsLong w := w &&& 3 = 3
  nextInstr_long uc code h := by
    have hne : code.read32 (Riscv64.pc uc) &&& 3 ≠ 0 := by
      rw [show code.read32 (Riscv64.pc uc) &&& 3 = 3 from h]
      decide
    simp only [Riscv64.insnLen, if_pos hne]
    rfl
  setTrapMode_eq _ _ _ := rfl
  resetTrapMode_eq _ _ _ := rfl
  nextInstr_congr uc vc code h := by
    have hpc : Riscv64.pc uc = Riscv64.pc vc := h
    rw [hpc]
  ip_clear st uc := by
    simp only [Riscv64.archGetIp, Riscv64.archClearFpExceptions]
    split_ifs <;> rfl
  ip_mask _ _ := rfl
  ip_unmask _ _ := rfl
  ip_setRound st uc c := by
    simp only [Riscv64.archGetIp, Riscv64.archSetRoundConfig]
    split_ifs <;> rfl

inductive Platform where
  | arm64
  | riscv64 (estep : Bool)
  deriving DecidableEq, Repr

def Platform.arch : Platform → BrkArch
  | .arm64 => arm64Brk
  | .riscv64 estep => riscv64Brk estep

end FPSpy
