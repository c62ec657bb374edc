import FPSpy.Lib.Stack
import FPSpy.Machine.X64

/-!
# x64 instructions on the stack

The instructions that the short-circuit entry code is made of, over byte memory, at user
privilege. Every store is logged. Over the words of a window of the stack the same
instructions run on slot numbers (`Words`); `Sim.run` says that what the words do, the
machine does.
-/
namespace FPSpy.X64

def Greg.all : List Greg :=
  [.r8, .r9, .r10, .r11, .r12, .r13, .r14, .r15, .rdi, .rsi, .rbp, .rbx, .rdx, .rax, .rcx, .rsp,
    .rip, .efl]

def Greg.index (g : Greg) : Nat := Greg.all.idxOf g

theorem Greg.index_lt (g : Greg) : g.index < 18 := by cases g <;> decide

end FPSpy.X64

namespace FPSpy.ShortCircuit

open X64

/-- What is not memory. `V` is the FXSAVE area besides mxcsr. -/
structure Core (V : Type) where
  regs : Greg → BitVec 64
  cs : BitVec 16
  ss : BitVec 16
  mxcsr : BitVec 32
  fpstate : V

/-- `written` logs the address and the length of every store. -/
structure Cpu (V : Type) extends Core V where
  mem : Mem
  written : List (Addr × Nat)

variable {V : Type}

def Core.set (c : Core V) (r : Greg) (v : BitVec 64) : Core V :=
  { c with regs := Function.update c.regs r v }

namespace Cpu

def set (c : Cpu V) (r : Greg) (v : BitVec 64) : Cpu V := { c with toCore := c.toCore.set r v }

def store {w : Nat} (c : Cpu V) (a : Addr) (v : BitVec w) : Cpu V :=
  { c with mem := c.mem.write a v, written := c.written ++ [(a, w / 8)] }

def load (c : Cpu V) (a : Addr) : BitVec 64 := Mem.read 8 c.mem a

def push (c : Cpu V) (v : BitVec 64) : Cpu V :=
  (c.store (c.regs .rsp - 8#64) v).set .rsp (c.regs .rsp - 8#64)

def operand (c : Cpu V) (disp : Int) : Addr := c.regs .rsp + BitVec.ofInt 64 disp

end Cpu

/-- What `pushf` stores; RF, VM and the bits from 24 up are stored as zero. -/
def pushfMask : BitVec 64 := 0xfcffff

/-- NT: `iretq` faults in 64-bit mode while it is set. -/
def ntBit : BitVec 64 := 0x4000

/-- What `iretq` loads at user privilege: CF, PF, AF, ZF, SF, TF, DF, OF, NT, RF, AC and ID,
and IF where IOPL is 3. -/
def iretMask (efl : BitVec 64) : BitVec 64 :=
  if efl &&& 0x3000#64 = 0x3000#64 then 0x254fd5 else 0x254dd5

/-- The flags after `iretq`, from those before and the image on the stack. -/
def iretFlags (efl image : BitVec 64) : BitVec 64 :=
  image &&& iretMask efl ||| efl &&& ~~~iretMask efl

inductive Instr where
  | pushf
  /-- `pushq disp(%rsp)`: the operand is read before rsp moves. -/
  | pushMem (disp : Int)
  | push (r : Greg)
  | pop (r : Greg)
  /-- `movq %rsp, r` -/
  | movRsp (r : Greg)
  /-- `movq r, disp(%rsp)` -/
  | store (r : Greg) (disp : Int)
  /-- `movq $0, disp(%rsp)` -/
  | storeZero (disp : Int)
  /-- `movw %cs, disp(%rsp)` -/
  | storeCs (disp : Int)
  /-- `movw %ss, disp(%rsp)` -/
  | storeSs (disp : Int)
  /-- `movq disp(%rsp), r` -/
  | load (disp : Int) (r : Greg)
  /-- `leaq disp(%rsp), %rsp` -/
  | leaRsp (disp : Int)
  deriving DecidableEq, Repr

def exec (c : Cpu V) : Instr → Cpu V
  | .pushf => c.push (c.regs .efl &&& pushfMask)
  | .pushMem disp => c.push (c.load (c.operand disp))
  | .push r => c.push (c.regs r)
  | .pop r => (c.set .rsp (c.regs .rsp + 8#64)).set r (c.load (c.regs .rsp))
  | .movRsp r => c.set r (c.regs .rsp)
  | .store r disp => c.store (c.operand disp) (c.regs r)
  | .storeZero disp => c.store (c.operand disp) 0#64
  | .storeCs disp => c.store (c.operand disp) c.cs
  | .storeSs disp => c.store (c.operand disp) c.ss
  | .load disp r => c.set r (c.load (c.operand disp))
  | .leaRsp disp => c.set .rsp (c.operand disp)

def run (c : Cpu V) (is : List Instr) : Cpu V := is.foldl exec c

/-- `iretq` to the same privilege: rip, cs, rflags, rsp and ss from the stack. With NT set
it raises #GP. -/
def iretq (c : Cpu V) : Option (Cpu V) :=
  let sp := c.regs .rsp
  if c.regs .efl &&& ntBit ≠ 0 then none
  else
    some { c with
      regs := fun
        | .rip => c.load sp
        | .efl => iretFlags (c.regs .efl) (c.load (sp + 16#64))
        | .rsp => c.load (sp + 24#64)
        | r => c.regs r
      cs := (c.load (sp + 8#64)).setWidth 16
      ss := (c.load (sp + 32#64)).setWidth 16 }

/-! ## The same on words -/

/-- The stack as numbered words, with the number of the one rsp points at. -/
structure Words (V : Type) extends Core V where
  depth : Nat
  word : Nat → BitVec 64

namespace Words

variable {n : Nat} (W : Window n) (a : Words V)

def put (k : Nat) (v : BitVec 64) : Words V := { a with word := Function.update a.word k v }

def move (k : Nat) : Words V := { a with toCore := a.toCore.set .rsp (W.slot k), depth := k }

def set (r : Greg) (v : BitVec 64) : Option (Words V) :=
  if r = .rsp then none else some { a with toCore := a.toCore.set r v }

def push (v : BitVec 64) : Option (Words V) :=
  match a.depth with
  | 0 => none
  | d + 1 => if d < n then some ((a.put d v).move W d) else none

def operand (n : Nat) (a : Words V) : Int → Option Nat
  | .ofNat up => if up % 8 = 0 ∧ a.depth + up / 8 < n then some (a.depth + up / 8) else none
  | .negSucc down =>
    if (down + 1) % 8 = 0 ∧ (down + 1) / 8 ≤ a.depth ∧ a.depth < n then
      some (a.depth - (down + 1) / 8)
    else none

def exec (a : Words V) : Instr → Option (Words V)
  | .pushf => a.push W (a.regs .efl &&& pushfMask)
  | .pushMem disp => do
    let k ← a.operand n disp
    a.push W (a.word k)
  | .push r => a.push W (a.regs r)
  | .pop r => if a.depth < n then (a.move W (a.depth + 1)).set r (a.word a.depth) else none
  | .movRsp r => a.set r (a.regs .rsp)
  | .store r disp => do
    let k ← a.operand n disp
    return a.put k (a.regs r)
  | .storeZero disp => do
    let k ← a.operand n disp
    return a.put k 0
  | .storeCs disp => do
    let k ← a.operand n disp
    return a.put k (overlay a.cs (a.word k))
  | .storeSs disp => do
    let k ← a.operand n disp
    return a.put k (overlay a.ss (a.word k))
  | .load disp r => do
    let k ← a.operand n disp
    a.set r (a.word k)
  | .leaRsp disp => do
    let k ← a.operand n disp
    return a.move W k

def run (a : Words V) : List Instr → Option (Words V)
  | [] => some a
  | i :: is => do
    let a ← a.exec W i
    a.run is

variable {a} in
/-- An operand in the window is a slot of it. -/
theorem operand_eq_some {disp : Int} {k : Nat} (h : a.operand n disp = some k) :
    k < n ∧ W.slot a.depth + BitVec.ofInt 64 disp = W.slot k := by
  cases disp with
  | ofNat up =>
    simp only [operand] at h
    split_ifs at h with hpos
    obtain rfl := Option.some.inj h
    refine ⟨hpos.2, W.slot_add ?_⟩
    rw [Int.ofNat_eq_natCast]
    omega
  | negSucc down =>
    simp only [operand] at h
    split_ifs at h with hpos
    obtain rfl := Option.some.inj h
    refine ⟨by omega, W.slot_add ?_⟩
    rw [Int.negSucc_eq]
    omega

end Words

/-- A machine whose stack the words describe, and which has stored nothing above the window
since its memory was `m`. -/
structure Sim {n : Nat} (W : Window n) (m : Mem) (c : Cpu V) (a : Words V) : Prop where
  core : c.toCore = a.toCore
  rsp : a.regs .rsp = W.slot a.depth
  word : ∀ k < n, W.word c.mem k = a.word k
  written : ∀ p ∈ c.written, p.1.toNat + p.2 ≤ W.top
  above : ∀ x : Addr, W.top ≤ x.toNat → c.mem x = m x

namespace Sim

variable {n : Nat} {W : Window n} {m : Mem} {c : Cpu V} {a a' : Words V}

/-- A machine with rsp in the window, and the words that describe it. -/
theorem start {d : Nat} (hrsp : c.regs .rsp = W.slot d)
    (hwritten : ∀ p ∈ c.written, p.1.toNat + p.2 ≤ W.top) :
    Sim W c.mem c ⟨c.toCore, d, W.word c.mem⟩ where
  core := rfl
  rsp := hrsp
  word _ _ := rfl
  written := hwritten
  above _ _ := rfl

theorem regs (h : Sim W m c a) (r : Greg) : c.regs r = a.regs r := congrArg (·.regs r) h.core

theorem slot (h : Sim W m c a) : c.regs .rsp = W.slot a.depth := (h.regs .rsp).trans h.rsp

theorem store (h : Sim W m c a) {w : Nat} (v : BitVec w) {k : Nat} (hk : k < n) (hw : w ≤ 64)
    (h8 : 8 ∣ w) : Sim W m (c.store (W.slot k) v) (a.put k (overlay v (a.word k))) where
  core := h.core
  rsp := h.rsp
  word j hj := by
    simp only [Cpu.store, Words.put, Function.update_apply]
    rw [W.word_write c.mem v hj hk hw h8, h.word j hj, h.word k hk]
  written p hp := by
    obtain hp | hp := List.mem_append.mp hp
    · exact h.written p hp
    · obtain rfl := List.mem_singleton.mp hp
      rw [W.toNat_slot hk, Window.top]
      omega
  above x hx := (W.write_above c.mem v hk hw h8 hx).trans (h.above x hx)

/-- A whole word. -/
theorem storeWord (h : Sim W m c a) (v : BitVec 64) {k : Nat} (hk : k < n) :
    Sim W m (c.store (W.slot k) v) (a.put k v) := by
  have hstore := h.store v hk le_rfl (by decide)
  rwa [overlay_word] at hstore

theorem move (h : Sim W m c a) (k : Nat) : Sim W m (c.set .rsp (W.slot k)) (a.move W k) where
  core := congrArg (·.set .rsp (W.slot k)) h.core
  rsp := by simp [Words.move, Core.set]
  word := h.word
  written := h.written
  above := h.above

theorem set (h : Sim W m c a) {r : Greg} {v : BitVec 64} (hset : a.set r v = some a') :
    Sim W m (c.set r v) a' := by
  simp only [Words.set] at hset
  split_ifs at hset with hr
  obtain rfl := Option.some.inj hset
  exact ⟨congrArg (·.set r v) h.core, (Function.update_of_ne (Ne.symm hr) _ _).trans h.rsp, h.word,
    h.written, h.above⟩

theorem push (h : Sim W m c a) {v : BitVec 64} (hpush : a.push W v = some a') :
    Sim W m (c.push v) a' := by
  unfold Words.push at hpush
  split at hpush
  · cases hpush
  next d hd =>
    split_ifs at hpush with hlt
    obtain rfl := Option.some.inj hpush
    have hslot : c.regs .rsp - 8#64 = W.slot d := by rw [h.slot, hd, W.slot_sub]
    rw [Cpu.push, hslot]
    exact (h.storeWord v hlt).move d

/-- The operand of a machine is the slot the words find. -/
theorem operand (h : Sim W m c a) {disp : Int} {k : Nat} (hk : a.operand n disp = some k) :
    k < n ∧ c.operand disp = W.slot k := by
  rw [Cpu.operand, h.slot]
  exact Words.operand_eq_some W hk

theorem load (h : Sim W m c a) {k : Nat} (hk : k < n) : c.load (W.slot k) = a.word k :=
  h.word k hk

/-- One instruction. -/
theorem step (h : Sim W m c a) {i : Instr} (hexec : a.exec W i = some a') :
    Sim W m (exec c i) a' := by
  cases i with
  | pushf =>
    rw [exec, h.regs]
    exact h.push hexec
  | pushMem disp =>
    obtain ⟨k, hk, hpush⟩ := Option.bind_eq_some_iff.mp hexec
    obtain ⟨hlt, hop⟩ := h.operand hk
    rw [exec, hop, h.load hlt]
    exact h.push hpush
  | push r =>
    rw [exec, h.regs]
    exact h.push hexec
  | pop r =>
    simp only [Words.exec] at hexec
    split_ifs at hexec with hlt
    rw [exec, h.slot, h.load hlt, W.slot_succ]
    exact (h.move (a.depth + 1)).set hexec
  | movRsp r =>
    rw [exec, h.regs]
    exact h.set hexec
  | store r disp =>
    obtain ⟨k, hk, hput⟩ := Option.bind_eq_some_iff.mp hexec
    obtain ⟨hlt, hop⟩ := h.operand hk
    obtain rfl := Option.some.inj hput
    rw [exec, hop, h.regs]
    exact h.storeWord (a.regs r) hlt
  | storeZero disp =>
    obtain ⟨k, hk, hput⟩ := Option.bind_eq_some_iff.mp hexec
    obtain ⟨hlt, hop⟩ := h.operand hk
    obtain rfl := Option.some.inj hput
    rw [exec, hop]
    exact h.storeWord 0 hlt
  | storeCs disp =>
    obtain ⟨k, hk, hput⟩ := Option.bind_eq_some_iff.mp hexec
    obtain ⟨hlt, hop⟩ := h.operand hk
    obtain rfl := Option.some.inj hput
    rw [exec, hop, h.core]
    exact h.store a.cs hlt (by decide) (by decide)
  | storeSs disp =>
    obtain ⟨k, hk, hput⟩ := Option.bind_eq_some_iff.mp hexec
    obtain ⟨hlt, hop⟩ := h.operand hk
    obtain rfl := Option.some.inj hput
    rw [exec, hop, h.core]
    exact h.store a.ss hlt (by decide) (by decide)
  | load disp r =>
    obtain ⟨k, hk, hset⟩ := Option.bind_eq_some_iff.mp hexec
    obtain ⟨hlt, hop⟩ := h.operand hk
    rw [exec, hop, h.load hlt]
    exact h.set hset
  | leaRsp disp =>
    obtain ⟨k, hk, hmove⟩ := Option.bind_eq_some_iff.mp hexec
    obtain ⟨-, hop⟩ := h.operand hk
    obtain rfl := Option.some.inj hmove
    rw [exec, hop]
    exact h.move k

/-- Straight-line code. -/
theorem run (h : Sim W m c a) {is : List Instr} (hrun : a.run W is = some a') :
    Sim W m (run c is) a' := by
  induction is generalizing c a with
  | nil =>
    obtain rfl := Option.some.inj hrun
    exact h
  | cons i is ih =>
    obtain ⟨b, hexec, hrest⟩ := Option.bind_eq_some_iff.mp hrun
    exact ih (h.step hexec) hrest

end Sim

end FPSpy.ShortCircuit
