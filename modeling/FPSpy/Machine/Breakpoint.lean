import FPSpy.Lib.Memory

/-!
# Trap mode by breakpoints

arm64 and riscv64 have no user-level single stepping. Both backends emulate it by
overwriting the next instruction with a breakpoint. The state word keeps what the
breakpoint replaced in its upper half and a flag in its lower half. `set` and
`reset` are the bodies the two backends share; they differ in the breakpoint and
in where the next instruction is.

Setting writes at the instruction after the current one, resetting at the current
one: the two addresses agree only when the breakpoint itself has been reached.
-/
namespace FPSpy.Breakpoint

def trapModeInit : BitVec 32 := 0
def trapModeOff : BitVec 32 := 1
/-- `TRAP_MODE_ON`: a breakpoint has been inserted, the old instruction is in the state. -/
def trapModeOn : BitVec 32 := 2

def encode (inst data : BitVec 32) : BitVec 64 := (inst.setWidth 64 <<< 32) ||| data.setWidth 64

def instr (state : BitVec 64) : BitVec 32 := (state >>> 32).setWidth 32

def flag (state : BitVec 64) : BitVec 32 := state.setWidth 32

@[simp] theorem instr_encode (inst data : BitVec 32) : instr (encode inst data) = inst := by
  apply BitVec.eq_of_getLsbD_eq
  intro i hi
  have h : 32 + i < 64 := by omega
  simp [instr, encode, hi, h]

@[simp] theorem flag_encode (inst data : BitVec 32) : flag (encode inst data) = data := by
  apply BitVec.eq_of_getLsbD_eq
  intro i hi
  simp [flag, encode, hi]

structure Patched where
  code : Mem
  state : BitVec 64

def set (brkInstr : BitVec 32) (target : Addr) (code : Mem) : Patched where
  code := code.write32 target brkInstr
  state := encode (code.read32 target) trapModeOn

/-- Put the remembered word back at `target`, if a breakpoint is out. -/
def reset (target : Addr) (code : Mem) (state : BitVec 64) : Patched :=
  if flag state = trapModeInit then ⟨code, encode 0 trapModeOff⟩
  else if flag state = trapModeOff then ⟨code, state⟩
  else if flag state = trapModeOn then ⟨code.write32 target (instr state), encode 0 trapModeOff⟩
  else ⟨code, state⟩

@[simp] theorem flag_set (brkInstr : BitVec 32) (target : Addr) (code : Mem) :
    flag (set brkInstr target code).state = trapModeOn := flag_encode _ _

@[simp] theorem instr_set (brkInstr : BitVec 32) (target : Addr) (code : Mem) :
    instr (set brkInstr target code).state = code.read32 target := instr_encode _ _

/-- No breakpoint is out: resetting leaves code memory alone. -/
theorem reset_code_of_ne_on (target : Addr) (code : Mem) {state : BitVec 64}
    (h : flag state ≠ trapModeOn) : (reset target code state).code = code := by
  unfold reset
  split_ifs <;> rfl

theorem reset_of_on (target : Addr) (code : Mem) {state : BitVec 64}
    (h : flag state = trapModeOn) :
    reset target code state = ⟨code.write32 target (instr state), encode 0 trapModeOff⟩ := by
  simp [reset, h, trapModeOn, trapModeInit, trapModeOff]

/-- After a reset no breakpoint is out. -/
theorem flag_reset_ne_on (target : Addr) (code : Mem) (state : BitVec 64) :
    flag (reset target code state).state ≠ trapModeOn := by
  unfold reset
  split_ifs with h₁ h₂ h₃
  · rw [flag_encode]; decide
  · rw [h₂]; decide
  · rw [flag_encode]; decide
  · exact h₃

def isOn (state : Option (BitVec 64)) : Bool :=
  state.any fun s => flag s == trapModeOn

@[simp] theorem isOn_reset (target : Addr) (code : Mem) (state : BitVec 64) :
    isOn (some (reset target code state).state) = false := by
  simpa [isOn] using flag_reset_ne_on target code state

/-- Resetting at the word that was patched undoes the patch. -/
theorem reset_set (brkInstr : BitVec 32) (target : Addr) (code : Mem) :
    (reset target (set brkInstr target code).code (set brkInstr target code).state).code =
      code := by
  rw [reset_of_on _ _ (flag_set _ _ _), instr_set]
  exact Mem.write32_restore code target brkInstr

end FPSpy.Breakpoint
