import FPSpy.Lib.Bits
import FPSpy.Kernel.HandlerList
import FPSpy.Machine.Cpu
import FPSpy.Individual.Thread

/-!
# A short-circuited trap

With the kernel module, an FP exception does not become a signal. `the_fpvm_hook` leaves rsp
and rip of the fault on the user's stack and returns to the thread's entry point;
`_user_fpspy_entry` completes them to a `gregset_t`, calls `fpspy_short_circuit_handler` on it,
and goes back to the fault with an `iretq`.

Everything happens in 21 words below the red zone: the two of the hook are slots 19 and 20, the
`gregset_t` is slots 1 to 18, the return address is slot 0, and the frame of the `iretq` is
slots 0 to 4 again. The registers come back as they were. The flags do as far as `pushf` shows
them and `iretq` loads them, and not at all when NT is set.
-/
namespace FPSpy.ShortCircuit

open X64

variable {V : Type}

def hookSp (sp : BitVec 64) : BitVec 64 :=
  let sp := sp - 152#64
  let sp := sp - 0x8#64
  let sp := sp &&& 0xFFFFFFFFFFFFFFF0#64
  sp - 0x10#64

/-- `the_fpvm_hook` with a `copy_to_user` that succeeds, and the return to user mode. A thread
that is not registered gets its SIGFPE from the kernel. -/
def theFpvmHook (current : Nat) (upiList : List UserProcInfo) (c : Cpu V) : Option (Cpu V) :=
  match Kmod.upiFind current upiList with
  | none => none
  | some upi =>
    let sp := hookSp (c.regs .rsp)
    let state := (c.store sp (c.regs .rsp)).store (sp + 8#64) (c.regs .rip)
    some ((state.set .rsp sp).set .rip (BitVec.ofNat 64 upi.userHandler))

/-- `_user_fpspy_entry`, up to the call. -/
def userFpspyEntry : List Instr :=
  [.pushf, .pushMem 16, .pushMem 16, .push .rcx, .push .rax, .push .rdx, .push .rbx, .push .rbp,
    .push .rsi, .push .rdi, .push .r15, .push .r14, .push .r13, .push .r12, .push .r11, .push .r10,
    .push .r9, .push .r8, .movRsp .rdi]

def returnFromHandler : List Instr :=
  [.pop .r8, .pop .r9, .pop .r10, .pop .r11, .pop .r12, .pop .r13, .pop .r14, .pop .r15, .pop .rdi,
    .pop .rsi, .pop .rbp, .pop .rbx, .pop .rdx, .pop .rax, .pop .rcx]

/-- `iret_to_dest_user_64`, up to the `iretq`. -/
def iretToDestUser64 : List Instr :=
  [.store .rax (-8), .storeZero (-128), .storeZero (-120), .storeZero (-112), .storeZero (-104),
    .storeZero (-96), .storeCs (-120), .storeSs (-96), .load 8 .rax, .store .rax (-128),
    .load 16 .rax, .store .rax (-112), .load 0 .rax, .store .rax (-104), .load (-8) .rax,
    .leaRsp (-128)]

/-- `fake_siginfo.si_code`, from the exceptions that are raised and not masked. -/
def fakeSiCode (old : BitVec 32) : BitVec 32 :=
  let err := ~~~(old >>> 7) &&& old
  if err &&& 0x001#32 ≠ 0 then 7 -- FPE_FLTINV
  else if err &&& 0x004#32 ≠ 0 then 3 -- FPE_FLTDIV
  else if err &&& 0x008#32 ≠ 0 then 4 -- FPE_FLTOVF
  else if err &&& 0x012#32 ≠ 0 then 5 -- FPE_FLTUND
  else if err &&& 0x020#32 ≠ 0 then 6 -- FPE_FLTRES
  else 0

/-- CF, PF, AF, ZF, SF, DF and OF: the flags compiled code changes. -/
def callFlags : BitVec 64 := 0xcd5

/-- The handler as compiled: how far `fake_ucontext`'s registers lie below the return address,
and all that the handler and its callees do besides what its text says. The calling convention
gives rsp back. -/
structure Compiled (V : Type) where
  gregs : Nat
  gregs_size : 144 ≤ gregs
  rest : Cpu V → Cpu V
  rest_rsp : ∀ c, (rest c).regs .rsp = c.regs .rsp
  rest_efl : ∀ c, (rest c).regs .efl &&& ~~~callFlags = c.regs .efl &&& ~~~callFlags
  rest_cs : ∀ c, (rest c).cs = c.cs
  rest_ss : ∀ c, (rest c).ss = c.ss
  rest_written : ∀ c, (rest c).written = c.written

/-- The `memcpy` of REG_R8 to REG_EFL. -/
def Cpu.copyGregs (c : Cpu V) (dst : Addr) (gregs : Greg → BitVec 64) : Cpu V :=
  Greg.all.foldl (fun c g => c.store (dst + BitVec.ofNat 64 (8 * g.index)) (gregs g)) c

/-- `fake_ucontext`: the registers that `priv` points at and the FP state. -/
def fakeUcontext (c : Cpu V) : UContext where
  gregs g := c.load (c.regs .rdi + BitVec.ofNat 64 (8 * g.index))
  mxcsr := c.mxcsr

/-- `fpspy_short_circuit_handler`. `fpTrap` is what `fp_trap_handler` makes of the context. -/
def fpspyShortCircuitHandler (fpTrap : BitVec 32 → UContext → UContext) (f : Compiled V)
    (c : Cpu V) : Cpu V :=
  let priv := c.regs .rdi
  let fpregs := c.fpstate
  let uc := fakeUcontext c
  let uc' := fpTrap (fakeSiCode c.mxcsr) uc
  let c := f.rest (c.copyGregs (c.regs .rsp - BitVec.ofNat 64 f.gregs) uc.gregs)
  { c.copyGregs priv uc'.gregs with mxcsr := uc'.mxcsr, fpstate := fpregs }

/-- `call *fpspy_short_circuit_handler`, and the return from it. -/
def callHandler (fpTrap : BitVec 32 → UContext → UContext) (f : Compiled V) (ret : Addr)
    (c : Cpu V) : Cpu V :=
  let c := fpspyShortCircuitHandler fpTrap f (c.push ret)
  c.set .rsp (c.regs .rsp + 8#64)

def trapToCall (current : Nat) (upiList : List UserProcInfo) (c : Cpu V) : Option (Cpu V) := do
  let c ← theFpvmHook current upiList c
  return run c userFpspyEntry

/-- The whole trap, from the fault to the instruction after the `iretq`. -/
def trap (current : Nat) (upiList : List UserProcInfo)
    (fpTrap : BitVec 32 → UContext → UContext) (f : Compiled V) (ret : Addr) (c : Cpu V) :
    Option (Cpu V) := do
  let c ← trapToCall current upiList c
  let c := callHandler fpTrap f ret c
  iretq (run c (returnFromHandler ++ iretToDestUser64))

/-! ## The code on words -/

/-- What the entry code leaves on the stack, from the fault's rsp and rip in slots 19 and 20. -/
def savedGregs (a : Words V) : Greg → BitVec 64
  | .rsp => a.word 19
  | .rip => a.word 20
  | .efl => a.regs .efl &&& pushfMask
  | g => a.regs g

theorem run_userFpspyEntry (W : Window 21) {a : Words V} (hd : a.depth = 19) :
    ∃ b, a.run W userFpspyEntry = some b ∧ b.depth = 1 ∧ b.regs .rdi = W.slot 1 ∧
      (∀ g : Greg, b.word (1 + g.index) = savedGregs a g) ∧ b.regs .efl = a.regs .efl ∧
      b.cs = a.cs ∧ b.ss = a.ss ∧ b.mxcsr = a.mxcsr ∧ b.fpstate = a.fpstate := by
  obtain ⟨core, d, word⟩ := a
  obtain rfl : d = 19 := hd
  apply Exists.intro
  constructor
  · rfl
  refine ⟨rfl, rfl, ?_, rfl, rfl, rfl, rfl, rfl⟩
  intro g
  cases g <;> rfl

theorem run_returnFromHandler (W : Window 21) {a : Words V} (hd : a.depth = 1) :
    ∃ b, a.run W returnFromHandler = some b ∧ b.depth = 16 ∧ b.word = a.word ∧
      (∀ g : Greg, g ≠ .rsp → g ≠ .rip → g ≠ .efl → b.regs g = a.word (1 + g.index)) ∧
      b.regs .efl = a.regs .efl ∧ b.cs = a.cs ∧ b.ss = a.ss ∧ b.mxcsr = a.mxcsr ∧
      b.fpstate = a.fpstate := by
  obtain ⟨core, d, word⟩ := a
  obtain rfl : d = 1 := hd
  apply Exists.intro
  constructor
  · rfl
  refine ⟨rfl, rfl, ?_, rfl, rfl, rfl, rfl, rfl⟩
  intro g hrsp hrip hefl
  cases g <;> first | rfl | contradiction

/-- The frame is built from the three words that are left, and no register changes. -/
theorem run_iretToDestUser64 (W : Window 21) {a : Words V} (hd : a.depth = 16) :
    ∃ b, a.run W iretToDestUser64 = some b ∧ b.depth = 0 ∧
      (∀ g : Greg, g ≠ .rsp → b.regs g = a.regs g) ∧
      b.word 0 = a.word (1 + Greg.rip.index) ∧ b.word 1 = overlay a.cs 0 ∧
      b.word 2 = a.word (1 + Greg.efl.index) ∧ b.word 3 = a.word (1 + Greg.rsp.index) ∧
      b.word 4 = overlay a.ss 0 ∧ b.mxcsr = a.mxcsr ∧ b.fpstate = a.fpstate := by
  obtain ⟨core, d, word⟩ := a
  obtain rfl : d = 16 := hd
  apply Exists.intro
  constructor
  · rfl
  refine ⟨rfl, ?_, rfl, rfl, rfl, rfl, rfl, rfl, rfl⟩
  intro g hrsp
  cases g <;> first | rfl | contradiction

/-! ## The hook -/

theorem toNat_align (x : BitVec 64) :
    (x &&& 0xFFFFFFFFFFFFFFF0#64).toNat = x.toNat / 16 * 16 := by
  have hx := x.isLt
  have hmask : x &&& 0xFFFFFFFFFFFFFFF0#64 = x >>> 4 <<< 4 := by
    rw [show 0xFFFFFFFFFFFFFFF0#64 = BitVec.allOnes 64 <<< 4 by decide]
    apply BitVec.eq_of_getLsbD_eq
    intro i hi
    simp only [BitVec.getLsbD_and, BitVec.getLsbD_shiftLeft, BitVec.getLsbD_ushiftRight,
      BitVec.getLsbD_allOnes, hi, decide_true, Bool.true_and]
    by_cases h4 : i < 4
    · simp [h4]
    · simp [h4, show 4 + (i - 4) = i by omega, show i - 4 < 64 by omega]
  rw [hmask, BitVec.toNat_shiftLeft, BitVec.toNat_ushiftRight, Nat.shiftRight_eq_div_pow,
    Nat.shiftLeft_eq]
  omega

theorem toNat_hookSp {sp : BitVec 64} (h : 343 ≤ sp.toNat) :
    (hookSp sp).toNat = (sp.toNat - 160) / 16 * 16 - 16 := by
  have hlt := sp.isLt
  have hsub : (sp - 152#64 - 8#64).toNat = sp.toNat - 160 := by
    simp only [BitVec.toNat_sub, BitVec.toNat_ofNat]
    omega
  rw [hookSp, BitVec.toNat_sub, toNat_align, hsub, BitVec.toNat_ofNat]
  omega

def trapWindow {sp : BitVec 64} (h : 343 ≤ sp.toNat) : Window 21 where
  base := hookSp sp - 152#64
  fits := by
    have hlt := sp.isLt
    rw [BitVec.toNat_sub, toNat_hookSp h, BitVec.toNat_ofNat]
    omega

section Window

variable {sp : BitVec 64} (h : 343 ≤ sp.toNat)

theorem toNat_trapWindow : (trapWindow h).base.toNat = (sp.toNat - 160) / 16 * 16 - 168 := by
  have hlt := sp.isLt
  rw [trapWindow, BitVec.toNat_sub, toNat_hookSp h, BitVec.toNat_ofNat]
  omega

/-- The window ends below the red zone. -/
theorem trapWindow_top : (trapWindow h).top ≤ sp.toNat - 160 := by
  rw [Window.top, toNat_trapWindow]
  omega

theorem trapWindow_slot : (trapWindow h).slot 19 = hookSp sp := BitVec.sub_add_cancel ..

end Window

/-- The hook leaves rsp and rip of the fault in the two topmost words. -/
theorem theFpvmHook_sim {current : Nat} {upiList : List UserProcInfo} {upi : UserProcInfo}
    {c : Cpu V} (hupi : Kmod.upiFind current upiList = some upi)
    (hlow : 343 ≤ (c.regs .rsp).toNat) (hwritten : c.written = []) :
    ∃ c' a, theFpvmHook current upiList c = some c' ∧ Sim (trapWindow hlow) c.mem c' a ∧
      a.depth = 19 ∧ savedGregs a = Function.update c.regs .efl (c.regs .efl &&& pushfMask) ∧
      a.regs .efl = c.regs .efl ∧ a.cs = c.cs ∧ a.ss = c.ss ∧ a.mxcsr = c.mxcsr ∧
      a.fpstate = c.fpstate := by
  let entered := (c.set .rsp (hookSp (c.regs .rsp))).set .rip (BitVec.ofNat 64 upi.userHandler)
  have hrsp : entered.regs .rsp = (trapWindow hlow).slot 19 := by
    rw [trapWindow_slot]
    rfl
  have hstart : Sim (trapWindow hlow) c.mem entered ⟨entered.toCore, 19, _⟩ :=
    Sim.start hrsp (by simp [entered, Cpu.set, hwritten])
  have hsim := (hstart.storeWord (c.regs .rsp) (show 19 < 21 by decide)).storeWord
    (c.regs .rip) (show 20 < 21 by decide)
  have hnext : (trapWindow hlow).slot 20 = hookSp (c.regs .rsp) + 8#64 := by
    rw [← trapWindow_slot hlow, Window.slot_succ]
  rw [hnext, trapWindow_slot] at hsim
  refine ⟨_, _, ?_, hsim, rfl, ?_, rfl, rfl, rfl, rfl, rfl⟩
  · rw [theFpvmHook, hupi]
    rfl
  · funext g
    cases g <;> rfl

/-! ## The call -/

namespace Cpu

variable {c : Cpu V} {dst : Addr} {top : Nat}

/-- A copy that ends at `top` stores nothing from there on. -/
theorem copyGregs_below (gregs : Greg → BitVec 64)
    (hdst : ∀ g : Greg, (dst + BitVec.ofNat 64 (8 * g.index)).toNat + 8 ≤ top)
    (hwritten : ∀ p ∈ c.written, p.1.toNat + p.2 ≤ top) :
    (c.copyGregs dst gregs).toCore = c.toCore ∧
      (∀ p ∈ (c.copyGregs dst gregs).written, p.1.toNat + p.2 ≤ top) ∧
      ∀ x : Addr, top ≤ x.toNat → (c.copyGregs dst gregs).mem x = c.mem x := by
  unfold copyGregs
  induction Greg.all generalizing c with
  | nil => exact ⟨rfl, hwritten, fun _ _ => rfl⟩
  | cons g gs ih =>
    have hstore : ∀ p ∈ (c.store (dst + BitVec.ofNat 64 (8 * g.index)) (gregs g)).written,
        p.1.toNat + p.2 ≤ top := by
      intro p hp
      obtain hp | hp := List.mem_append.mp hp
      · exact hwritten p hp
      · obtain rfl := List.mem_singleton.mp hp
        exact hdst g
    obtain ⟨hcore, hw, habove⟩ := ih hstore
    refine ⟨hcore, hw, fun x hx => (habove x hx).trans ?_⟩
    exact Mem.write_of_le _ _ (by decide) ((hdst g).trans hx)

end Cpu

def Words.copyGregs (a : Words V) (gregs : Greg → BitVec 64) : Words V :=
  Greg.all.foldl (fun a g => a.put (1 + g.index) (gregs g)) a

theorem Words.word_copyGregs (a : Words V) (gregs : Greg → BitVec 64) (g : Greg) :
    (a.copyGregs gregs).word (1 + g.index) = gregs g := by
  cases g <;> rfl

theorem Sim.copyGregs {W : Window 21} {m : Mem} {c : Cpu V} {a : Words V} (h : Sim W m c a)
    (gregs : Greg → BitVec 64) :
    Sim W m (c.copyGregs (W.slot 1) gregs) (a.copyGregs gregs) := by
  unfold Cpu.copyGregs Words.copyGregs
  induction Greg.all generalizing c a with
  | nil => exact h
  | cons g gs ih =>
    have hlt := g.index_lt
    have hstore := h.storeWord (gregs g) (show 1 + g.index < 21 by omega)
    rw [← W.slot_add_ofNat] at hstore
    exact ih hstore

/-- `fxrstor` -/
theorem Sim.fxrstor {n : Nat} {W : Window n} {m : Mem} {c : Cpu V} {a : Words V} (h : Sim W m c a)
    (mxcsr : BitVec 32) (fpstate : V) :
    Sim W m { c with mxcsr := mxcsr, fpstate := fpstate }
      { a with mxcsr := mxcsr, fpstate := fpstate } where
  core := by rw [h.core]
  rsp := h.rsp
  word := h.word
  written := h.written
  above := h.above

section Call

variable {W : Window 21} {m : Mem} {c : Cpu V} {a : Words V} (ret : Addr)

theorem Sim.call (h : Sim W m c a) (hd : a.depth = 1) :
    Sim W m (c.push ret) ((a.put 0 ret).move W 0) := by
  apply h.push
  rw [Words.push, hd]
  rfl

/-- The handler sees the words that the entry code has pushed. -/
theorem Sim.fakeUcontext_eq (h : Sim W m c a) (hd : a.depth = 1)
    (hrdi : a.regs .rdi = W.slot 1) :
    fakeUcontext (c.push ret) = ⟨fun g => a.word (1 + g.index), a.mxcsr⟩ := by
  have hcall := h.call ret hd
  have hpriv : (c.push ret).regs .rdi = W.slot 1 := (hcall.regs .rdi).trans hrdi
  unfold fakeUcontext
  congr 1
  · funext g
    have hlt := g.index_lt
    rw [hpriv, W.slot_add_ofNat, hcall.load (by omega)]
    exact Function.update_of_ne (by omega) _ _
  · exact congrArg (·.mxcsr) h.core

/-- `fake_ucontext` lies below the return address. -/
theorem Compiled.gregs_below (f : Compiled V) (hroom : f.gregs ≤ W.base.toNat) (g : Greg) :
    (W.slot 0 - BitVec.ofNat 64 f.gregs + BitVec.ofNat 64 (8 * g.index)).toNat + 8 ≤ W.top := by
  have hlt := g.index_lt
  have hsize := f.gregs_size
  have hfits := W.fits
  have hbase := W.toNat_slot (show 0 < 21 by decide)
  rw [BitVec.toNat_add, BitVec.toNat_sub, BitVec.toNat_ofNat, BitVec.toNat_ofNat, hbase, Window.top]
  omega

/-- The call comes back with rsp where it was, the words of the `gregset_t` as the callee has
left the context's, and no store above the window but those of `rest`. -/
theorem callHandler_sim (fpTrap : BitVec 32 → UContext → UContext) (f : Compiled V)
    (h : Sim W m c a) (hd : a.depth = 1) (hrdi : a.regs .rdi = W.slot 1)
    (hroom : f.gregs ≤ W.base.toNat) {uc : UContext}
    (huc : uc = fpTrap (fakeSiCode a.mxcsr) (fakeUcontext (c.push ret))) :
    ∃ m' b, Sim W m' (callHandler fpTrap f ret c) b ∧ b.depth = 1 ∧
      (∀ g : Greg, b.word (1 + g.index) = uc.gregs g) ∧
      b.regs .efl &&& ~~~callFlags = a.regs .efl &&& ~~~callFlags ∧ b.cs = a.cs ∧ b.ss = a.ss ∧
      b.mxcsr = uc.mxcsr ∧ b.fpstate = a.fpstate ∧
      ∀ x : Addr, W.top ≤ x.toNat → (∀ c, (f.rest c).mem x = c.mem x) → m' x = m x := by
  have hcall := h.call ret hd
  have hmxcsr : (c.push ret).mxcsr = a.mxcsr := congrArg (·.mxcsr) h.core
  have hfp : (c.push ret).fpstate = a.fpstate := congrArg (·.fpstate) h.core
  have hpriv : (c.push ret).regs .rdi = W.slot 1 := (hcall.regs .rdi).trans hrdi
  have hrsp : (c.push ret).regs .rsp = W.slot 0 := hcall.slot
  obtain ⟨hcore, hwritten, habove⟩ :=
    Cpu.copyGregs_below (fakeUcontext (c.push ret)).gregs (f.gregs_below hroom) hcall.written
  let rested := f.rest ((c.push ret).copyGregs (W.slot 0 - BitVec.ofNat 64 f.gregs)
    (fakeUcontext (c.push ret)).gregs)
  have hslot : rested.regs .rsp = W.slot 0 := by
    rw [f.rest_rsp, hcore, hrsp]
  have hstart : Sim W rested.mem rested ⟨rested.toCore, 0, _⟩ :=
    Sim.start hslot (by rwa [f.rest_written])
  have hback := ((hstart.copyGregs uc.gregs).fxrstor uc.mxcsr a.fpstate).move 1
  have heq : callHandler fpTrap f ret c =
      ({ rested.copyGregs (W.slot 1) uc.gregs with mxcsr := uc.mxcsr, fpstate := a.fpstate }
        : Cpu V).set .rsp (W.slot 1) := by
    have hcopied : (rested.copyGregs (W.slot 1) uc.gregs).regs .rsp = W.slot 0 := hslot
    simp only [callHandler, fpspyShortCircuitHandler, hmxcsr, hfp, hpriv, hrsp, ← huc]
    rw [hcopied, W.slot_succ]
  rw [← heq] at hback
  refine ⟨_, _, hback, rfl, ?_, ?_, ?_, ?_, rfl, rfl, ?_⟩
  · intro g
    exact Words.word_copyGregs _ _ g
  · have hefl : rested.regs .efl &&& ~~~callFlags = a.regs .efl &&& ~~~callFlags := by
      rw [f.rest_efl, hcore]
      exact congrArg (· &&& ~~~callFlags) (hcall.regs .efl)
    exact hefl
  · have hcs : rested.cs = a.cs := by
      rw [f.rest_cs, hcore]
      exact congrArg (·.cs) h.core
    exact hcs
  · have hss : rested.ss = a.ss := by
      rw [f.rest_ss, hcore]
      exact congrArg (·.ss) h.core
    exact hss
  · intro x hx hrest
    exact (hrest _).trans ((habove x hx).trans (hcall.above x hx))

end Call

/-! ## The way back -/

theorem and_of_callFlags {x y k : BitVec 64} (h : x &&& ~~~callFlags = y &&& ~~~callFlags)
    (hk : ~~~callFlags &&& k = k) : x &&& k = y &&& k := by
  rw [← hk, ← BitVec.and_assoc, h, BitVec.and_assoc]

/-- What a call changes of the flags, `iretq` overwrites. -/
theorem iretFlags_congr {x y : BitVec 64} (h : x &&& ~~~callFlags = y &&& ~~~callFlags)
    (image : BitVec 64) : iretFlags x image = iretFlags y image := by
  have hmask : iretMask x = iretMask y := by
    rw [iretMask, iretMask, and_of_callFlags h (by decide)]
  have hkeep : x &&& ~~~iretMask y = y &&& ~~~iretMask y := by
    apply and_of_callFlags h
    unfold iretMask
    split_ifs <;> decide
  rw [iretFlags, iretFlags, hmask, hkeep]

/-- An `iretq` on the words it pops. -/
theorem Sim.iretq {W : Window 21} {m : Mem} {c : Cpu V} {a : Words V} (h : Sim W m c a)
    (hd : a.depth = 0) (hnt : a.regs .efl &&& ntBit = 0) :
    ∃ c', iretq c = some c' ∧
      (∀ g : Greg, g ≠ .rsp → g ≠ .rip → g ≠ .efl → c'.regs g = a.regs g) ∧
      c'.regs .rip = a.word 0 ∧ c'.cs = (a.word 1).setWidth 16 ∧
      c'.regs .efl = iretFlags (a.regs .efl) (a.word 2) ∧ c'.regs .rsp = a.word 3 ∧
      c'.ss = (a.word 4).setWidth 16 ∧ c'.mxcsr = a.mxcsr ∧ c'.fpstate = a.fpstate ∧
      c'.written = c.written ∧ c'.mem = c.mem := by
  have hload : ∀ k < 21, c.load (c.regs .rsp + BitVec.ofNat 64 (8 * k)) = a.word k := by
    intro k hk
    rw [h.slot, hd, W.slot_add_ofNat, Nat.zero_add]
    exact h.load hk
  have hrip : c.load (c.regs .rsp) = a.word 0 := by
    have := hload 0 (by decide)
    rwa [BitVec.add_zero] at this
  have hcs : c.load (c.regs .rsp + 8#64) = a.word 1 := hload 1 (by decide)
  have himage : c.load (c.regs .rsp + 16#64) = a.word 2 := hload 2 (by decide)
  have hrsp : c.load (c.regs .rsp + 24#64) = a.word 3 := hload 3 (by decide)
  have hss : c.load (c.regs .rsp + 32#64) = a.word 4 := hload 4 (by decide)
  have hefl := h.regs .efl
  refine ⟨_, if_neg (not_not.mpr (by rw [hefl, hnt])), ?_, hrip, ?_, ?_, hrsp, ?_, ?_, ?_, rfl, rfl⟩
  · intro g hrsp hrip hne
    cases g <;> first | contradiction | exact h.regs _
  · rw [hcs]
  · rw [himage, hefl]
  · rw [hss]
  · exact congrArg (·.mxcsr) h.core
  · exact congrArg (·.fpstate) h.core

/-- From the return of the handler to the `iretq`. -/
theorem exit_sim {W : Window 21} {m : Mem} {c : Cpu V} {a : Words V} (h : Sim W m c a)
    (hd : a.depth = 1) :
    ∃ b, Sim W m (run c (returnFromHandler ++ iretToDestUser64)) b ∧ b.depth = 0 ∧
      (∀ g : Greg, g ≠ .rsp → g ≠ .rip → g ≠ .efl → b.regs g = a.word (1 + g.index)) ∧
      b.word 0 = a.word (1 + Greg.rip.index) ∧ b.word 1 = overlay a.cs 0 ∧
      b.word 2 = a.word (1 + Greg.efl.index) ∧ b.word 3 = a.word (1 + Greg.rsp.index) ∧
      b.word 4 = overlay a.ss 0 ∧ b.regs .efl = a.regs .efl ∧ b.mxcsr = a.mxcsr ∧
      b.fpstate = a.fpstate := by
  obtain ⟨b, hpop, hbd, hword, hregs, hbefl, hbcs, hbss, hbmxcsr, hbfp⟩ :=
    run_returnFromHandler W hd
  obtain ⟨e, hframe, hed, hkeep, h0, h1, h2, h3, h4, hemxcsr, hefp⟩ := run_iretToDestUser64 W hbd
  have hsim := (h.run hpop).run hframe
  rw [run, run, ← List.foldl_append, ← run] at hsim
  rw [hword] at h0 h2 h3
  rw [hbcs] at h1
  rw [hbss] at h4
  exact ⟨e, hsim, hed,
    fun g hrsp hrip hefl => (hkeep g hrsp).trans (hregs g hrsp hrip hefl), h0, h1, h2, h3, h4,
    (hkeep .efl (by decide)).trans hbefl, hemxcsr.trans hbmxcsr, hefp.trans hbfp⟩

/-- From the return of the handler to the fault: everything as the `gregset_t` says. -/
theorem iretq_sim {W : Window 21} {m : Mem} {c : Cpu V} {a : Words V} (h : Sim W m c a)
    (hd : a.depth = 1) (hnt : a.regs .efl &&& ntBit = 0) :
    ∃ c', iretq (run c (returnFromHandler ++ iretToDestUser64)) = some c' ∧
      (∀ g : Greg, g ≠ .efl → c'.regs g = a.word (1 + g.index)) ∧
      c'.regs .efl = iretFlags (a.regs .efl) (a.word (1 + Greg.efl.index)) ∧ c'.cs = a.cs ∧
      c'.ss = a.ss ∧ c'.mxcsr = a.mxcsr ∧ c'.fpstate = a.fpstate ∧
      (∀ p ∈ c'.written, p.1.toNat + p.2 ≤ W.top) ∧
      ∀ x : Addr, W.top ≤ x.toNat → c'.mem x = m x := by
  obtain ⟨b, hsim, hbd, hregs, h0, h1, h2, h3, h4, hefl, hbmxcsr, hbfp⟩ := exit_sim h hd
  obtain ⟨c', hret, hgreg, hrip, hcs, hflags, hrsp, hss, hmxcsr, hfp, hwritten, hmem⟩ :=
    hsim.iretq hbd (by rw [hefl, hnt])
  refine ⟨c', hret, ?_, ?_, ?_, ?_, ?_, ?_, ?_, ?_⟩
  · intro g hne
    by_cases hgrip : g = .rip
    · rw [hgrip, hrip, h0]
    by_cases hgrsp : g = .rsp
    · rw [hgrsp, hrsp, h3]
    rw [hgreg g hgrsp hgrip hne, hregs g hgrsp hgrip hne]
  · rw [hflags, hefl, h2]
  · rw [hcs, h1, setWidth_overlay _ _ (by decide)]
  · rw [hss, h4, setWidth_overlay _ _ (by decide)]
  · rw [hmxcsr, hbmxcsr]
  · rw [hfp, hbfp]
  · rw [hwritten]
    exact hsim.written
  · rw [hmem]
    exact hsim.above

/-! ## The whole trap -/

/-- What the handler is shown of a fault: `pushf` stores RF and VM as zero. -/
def shown (fault : Cpu V) : UContext where
  gregs := Function.update fault.regs .efl (fault.regs .efl &&& pushfMask)
  mxcsr := fault.mxcsr

def handled (fpTrap : BitVec 32 → UContext → UContext) (fault : Cpu V) : UContext :=
  fpTrap (fakeSiCode fault.mxcsr) (shown fault)

/-- A machine that goes on from a fault after a handler that left the context `uc`. -/
structure Resumed (fault : Cpu V) (uc : UContext) (c : Cpu V) : Prop where
  gregs : ∀ g : Greg, g ≠ .efl → c.regs g = fault.regs g
  efl : c.regs .efl = iretFlags (fault.regs .efl) (uc.gregs .efl)
  cs : c.cs = fault.cs
  ss : c.ss = fault.ss
  mxcsr : c.mxcsr = uc.mxcsr
  fpstate : c.fpstate = fault.fpstate
  /-- Nothing is stored in the red zone or above. -/
  written : ∀ p ∈ c.written, p.1.toNat + p.2 ≤ (fault.regs .rsp).toNat - 128

/-- Flags that differ only where `iretq` loads them. -/
theorem iretFlags_eq {efl image : BitVec 64}
    (h : image &&& ~~~iretMask efl = efl &&& ~~~iretMask efl) : iretFlags efl image = image := by
  rw [iretFlags, ← h, ← BitVec.and_or_distrib_left, BitVec.or_not_self]
  exact BitVec.and_allOnes

section Trap

variable {current : Nat} {upiList : List UserProcInfo} {upi : UserProcInfo} {fault : Cpu V}

/-- The machine at the call of the handler. -/
theorem trapToCall_sim (hupi : Kmod.upiFind current upiList = some upi)
    (hlow : 343 ≤ (fault.regs .rsp).toNat) (hwritten : fault.written = []) :
    ∃ c a, trapToCall current upiList fault = some c ∧ Sim (trapWindow hlow) fault.mem c a ∧
      a.depth = 1 ∧ a.regs .rdi = (trapWindow hlow).slot 1 ∧
      (⟨fun g => a.word (1 + g.index), a.mxcsr⟩ : UContext) = shown fault ∧
      a.regs .efl = fault.regs .efl ∧ a.cs = fault.cs ∧ a.ss = fault.ss ∧
      a.mxcsr = fault.mxcsr ∧ a.fpstate = fault.fpstate := by
  obtain ⟨c, a, hhook, hsim, hd, hsaved, hefl, hcs, hss, hmxcsr, hfp⟩ :=
    theFpvmHook_sim hupi hlow hwritten
  obtain ⟨b, hrun, hbd, hrdi, hword, hbefl, hbcs, hbss, hbmxcsr, hbfp⟩ :=
    run_userFpspyEntry (trapWindow hlow) hd
  refine ⟨run c userFpspyEntry, b, ?_, hsim.run hrun, hbd, hrdi, ?_, hbefl.trans hefl,
    hbcs.trans hcs, hbss.trans hss, hbmxcsr.trans hmxcsr, hbfp.trans hfp⟩
  · rw [trapToCall, hhook]
    rfl
  · unfold shown
    congr 1
    · funext g
      rw [hword g, hsaved]
    · exact hbmxcsr.trans hmxcsr

variable (fpTrap : BitVec 32 → UContext → UContext) (f : Compiled V) (ret : Addr)

/-- The machine at the return of the handler. -/
theorem trapToReturn_sim (hupi : Kmod.upiFind current upiList = some upi)
    (hlow : 343 ≤ (fault.regs .rsp).toNat) (hwritten : fault.written = [])
    (hroom : 343 + f.gregs ≤ (fault.regs .rsp).toNat) :
    ∃ c m a, trap current upiList fpTrap f ret fault =
        iretq (run c (returnFromHandler ++ iretToDestUser64)) ∧
      Sim (trapWindow hlow) m c a ∧ a.depth = 1 ∧
      (∀ g : Greg, a.word (1 + g.index) = (handled fpTrap fault).gregs g) ∧
      a.regs .efl &&& ~~~callFlags = fault.regs .efl &&& ~~~callFlags ∧ a.cs = fault.cs ∧
      a.ss = fault.ss ∧ a.mxcsr = (handled fpTrap fault).mxcsr ∧ a.fpstate = fault.fpstate ∧
      ∀ x : Addr, (trapWindow hlow).top ≤ x.toNat → (∀ c, (f.rest c).mem x = c.mem x) →
        m x = fault.mem x := by
  obtain ⟨c, a, htrap, hsim, hd, hrdi, hshown, hefl, hcs, hss, hmxcsr, hfp⟩ :=
    trapToCall_sim hupi hlow hwritten
  have hbase : f.gregs ≤ (trapWindow hlow).base.toNat := by
    rw [toNat_trapWindow]
    omega
  have hcalled : handled fpTrap fault =
      fpTrap (fakeSiCode a.mxcsr) (fakeUcontext (c.push ret)) := by
    rw [handled, hsim.fakeUcontext_eq ret hd hrdi, hshown, hmxcsr]
  obtain ⟨m, b, hback, hbd, hword, hbefl, hbcs, hbss, hbmxcsr, hbfp, habove⟩ :=
    callHandler_sim ret fpTrap f hsim hd hrdi hbase hcalled
  refine ⟨_, m, b, ?_, hback, hbd, hword, hbefl.trans (by rw [hefl]), hbcs.trans hcs,
    hbss.trans hss, hbmxcsr, hbfp.trans hfp, habove⟩
  rw [trap, htrap]
  rfl

/-- A trap comes back to the fault. -/
theorem trap_resumed (hupi : Kmod.upiFind current upiList = some upi)
    (hwritten : fault.written = []) (hroom : 343 + f.gregs ≤ (fault.regs .rsp).toNat)
    (hnt : fault.regs .efl &&& ntBit = 0)
    (hkeeps : ∀ g : Greg, g ≠ .efl → (handled fpTrap fault).gregs g = fault.regs g) :
    ∃ c, trap current upiList fpTrap f ret fault = some c ∧
      Resumed fault (handled fpTrap fault) c ∧
      ∀ x : Addr, (fault.regs .rsp).toNat - 128 ≤ x.toNat → (∀ c, (f.rest c).mem x = c.mem x) →
        c.mem x = fault.mem x := by
  have hlow : 343 ≤ (fault.regs .rsp).toNat := by omega
  have htop := trapWindow_top hlow
  obtain ⟨c, m, a, htrap, hsim, hd, hword, hefl, hcs, hss, hmxcsr, hfp, habove⟩ :=
    trapToReturn_sim fpTrap f ret hupi hlow hwritten hroom
  have hclear : a.regs .efl &&& ntBit = 0 := by
    rw [and_of_callFlags hefl (by decide), hnt]
  obtain ⟨c', hret, hgregs, hflags, hcs', hss', hmxcsr', hfp', hw, habove'⟩ :=
    iretq_sim hsim hd hclear
  refine ⟨c', htrap.trans hret, ?_, ?_⟩
  · exact {
      gregs := fun g hg => (hgregs g hg).trans ((hword g).trans (hkeeps g hg))
      efl := by rw [hflags, hword, iretFlags_congr hefl]
      cs := hcs'.trans hcs
      ss := hss'.trans hss
      mxcsr := hmxcsr'.trans hmxcsr
      fpstate := hfp'.trans hfp
      written := fun p hp => (hw p hp).trans (by omega) }
  · intro x hx hrest
    exact (habove' x (by omega)).trans (habove x (by omega) hrest)

/-- With NT set, the `iretq` at the end of a trap faults. -/
theorem trap_eq_none (hupi : Kmod.upiFind current upiList = some upi)
    (hwritten : fault.written = []) (hroom : 343 + f.gregs ≤ (fault.regs .rsp).toNat)
    (hnt : fault.regs .efl &&& ntBit ≠ 0) :
    trap current upiList fpTrap f ret fault = none := by
  have hlow : 343 ≤ (fault.regs .rsp).toNat := by omega
  obtain ⟨c, m, a, htrap, hsim, hd, -, hefl, -⟩ :=
    trapToReturn_sim fpTrap f ret hupi hlow hwritten hroom
  obtain ⟨b, hexit, -, -, -, -, -, -, -, hbefl, -⟩ := exit_sim hsim hd
  rw [htrap]
  apply if_pos
  rwa [hexit.regs, hbefl, and_of_callFlags hefl (by decide)]

/-- The handler is called on an aligned stack with the registers of the fault, and the fault is
resumed with all of them as they were. Of the flags, those that `iretq` loads are as the handler
has left them, and the others as they were: where the handler leaves the others alone, they are
the handler's. Nothing is stored in the red zone of the fault or above. -/
theorem trap_preserves (hupi : Kmod.upiFind current upiList = some upi)
    (hfpTrap : ∀ siCode uc g, g ≠ .efl → (fpTrap siCode uc).gregs g = uc.gregs g)
    (hwritten : fault.written = []) (hroom : 343 + f.gregs ≤ (fault.regs .rsp).toNat)
    (hnt : fault.regs .efl &&& ntBit = 0) :
    ∃ atCall c, trapToCall current upiList fault = some atCall ∧
      (atCall.regs .rsp).toNat % 16 = 0 ∧ fakeUcontext (atCall.push ret) = shown fault ∧
      trap current upiList fpTrap f ret fault = some c ∧
      Resumed fault (handled fpTrap fault) c ∧
      ((handled fpTrap fault).gregs .efl &&& ~~~iretMask (fault.regs .efl) =
          fault.regs .efl &&& ~~~iretMask (fault.regs .efl) →
        c.regs .efl = (handled fpTrap fault).gregs .efl) ∧
      ∀ x : Addr, (fault.regs .rsp).toNat - 128 ≤ x.toNat → (∀ c, (f.rest c).mem x = c.mem x) →
        c.mem x = fault.mem x := by
  have hlow : 343 ≤ (fault.regs .rsp).toNat := by omega
  obtain ⟨atCall, a, hcall, hsim, hd, hrdi, hshown, -⟩ := trapToCall_sim hupi hlow hwritten
  have hkeeps : ∀ g : Greg, g ≠ .efl → (handled fpTrap fault).gregs g = fault.regs g := by
    intro g hg
    exact (hfpTrap _ _ g hg).trans (Function.update_of_ne hg _ _)
  obtain ⟨c, htrap, hresumed, habove⟩ := trap_resumed fpTrap f ret hupi hwritten hroom hnt hkeeps
  refine ⟨atCall, c, hcall, ?_, ?_, htrap, hresumed, ?_, habove⟩
  · rw [hsim.slot, hd, Window.toNat_slot _ (by decide), toNat_trapWindow]
    omega
  · rw [hsim.fakeUcontext_eq ret hd hrdi, hshown]
  · intro hloaded
    rw [hresumed.efl, iretFlags_eq hloaded]

end Trap

/-! ## The callee on x64 -/

section Callee

variable (cfg : Config x64) (f : Flow x64) {g : Greg}

theorem forceRound_gregs (config : BitVec 32) (uc : UContext) :
    (forceRound cfg config uc).gregs = uc.gregs := by
  unfold forceRound
  split_ifs <;> rfl

theorem standDown_gregs (mc : MonitoringContext) (hg : g ≠ .efl) :
    (standDown cfg mc f).uc.gregs g = f.uc.gregs g :=
  (Function.update_of_ne hg _ _).trans (congrFun (forceRound_gregs cfg _ _) g)

theorem standDownNull_gregs (hg : g ≠ .efl) :
    (standDownNull cfg f).uc.gregs g = f.uc.gregs g :=
  (Function.update_of_ne hg _ _).trans (congrFun (forceRound_gregs cfg _ _) g)

theorem beginStep_gregs (mc : MonitoringContext) (hg : g ≠ .efl) :
    (beginStep cfg mc f).uc.gregs g = f.uc.gregs g :=
  (Function.update_of_ne hg _ _).trans (congrFun (forceRound_gregs cfg _ _) g)

/-- `fp_trap_handler` changes no register of the context but the flags. -/
theorem fpTrapHandler_gregs (env : Env) (siCode : BitVec 32) (hg : g ≠ .efl) :
    (fpTrapHandler cfg env siCode f).1.uc.gregs g = f.uc.gregs g := by
  have hpath := fpTrapHandler_path cfg env siCode f
  generalize fpTrapHandler cfg env siCode f = r at hpath
  cases hpath with
  | dies => rfl
  | bare => exact standDownNull_gregs cfg f hg
  | @beginStep mc buffer written =>
    exact beginStep_gregs cfg (f.sampled cfg env siCode mc written) _ hg
  | @surprise mc _ buffer written =>
    exact standDown_gregs cfg (f.sampled cfg env siCode mc written) _ hg

end Callee

/-! ## Two faults -/

/-- The handler with `gregs` 512 bytes below its return address and no other effect. -/
def frugal : Compiled Unit where
  gregs := 512
  gregs_size := by decide
  rest := id
  rest_rsp _ := rfl
  rest_efl _ := rfl
  rest_cs _ := rfl
  rest_ss _ := rfl
  rest_written _ := rfl

def faultAt (efl : BitVec 64) : Cpu Unit where
  regs := fun
    | .rsp => 0x7fffffffe000
    | .rip => 0x401000
    | .efl => efl
    | _ => 0
  cs := 0x33
  ss := 0x2b
  mxcsr := 0x1d84
  fpstate := ()
  mem _ := 0
  written := []

def registered : List UserProcInfo := [⟨7, 0x7f0000001000, 3⟩]

/-- What `fp_trap_handler` makes of the context of a thread that has had its kick. -/
def monitoredTrap (siCode : BitVec 32) (uc : UContext) : UContext :=
  let f := (brkTrapHandler plain quietEnv (monitored plain)).1
  (fpTrapHandler plain quietEnv siCode { f with uc := uc }).1.uc

theorem trap_preserves_monitored :
    ∃ atCall c, trapToCall 7 registered (faultAt 0x202) = some atCall ∧
      (atCall.regs .rsp).toNat % 16 = 0 ∧
      fakeUcontext (atCall.push 0x7f0000001050) = shown (faultAt 0x202) ∧
      trap 7 registered monitoredTrap frugal 0x7f0000001050 (faultAt 0x202) = some c ∧
      Resumed (faultAt 0x202) (handled monitoredTrap (faultAt 0x202)) c := by
  obtain ⟨atCall, c, hcall, halign, hshown, htrap, hresumed, -⟩ :=
    trap_preserves monitoredTrap frugal 0x7f0000001050
      (show Kmod.upiFind 7 registered = some ⟨7, 0x7f0000001000, 3⟩ by decide)
      (fun siCode uc g hg => fpTrapHandler_gregs plain _ quietEnv siCode hg)
      (show (faultAt 0x202).written = [] from rfl) (by decide) (by decide)
  exact ⟨atCall, c, hcall, halign, hshown, htrap, hresumed⟩

/-- A fault with RF set, as where the instruction has been restarted after a page fault, is
resumed with RF clear although the handler changes nothing; a fault with NT set is not resumed at
all. -/
theorem not_preserved_rf_nt :
    (∃ c, trap 7 registered (fun _ uc => uc) frugal 0x7f0000001050 (faultAt 0x10202) = some c ∧
      c.regs .efl = 0x202 ∧ (faultAt 0x10202).regs .efl = 0x10202) ∧
    trap 7 registered (fun _ uc => uc) frugal 0x7f0000001050 (faultAt 0x4202) = none := by
  have hupi : Kmod.upiFind 7 registered = some ⟨7, 0x7f0000001000, 3⟩ := by decide
  refine ⟨?_, trap_eq_none _ _ _ hupi rfl (by decide) (by decide)⟩
  obtain ⟨c, htrap, hresumed, -⟩ :=
    trap_resumed (fun _ uc => uc) frugal 0x7f0000001050 hupi
      (show (faultAt 0x10202).written = [] from rfl) (by decide) (by decide)
      (fun g hg => Function.update_of_ne hg _ _)
  refine ⟨c, htrap, ?_, rfl⟩
  rw [hresumed.efl]
  decide

end FPSpy.ShortCircuit
