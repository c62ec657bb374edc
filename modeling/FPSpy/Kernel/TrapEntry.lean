import FPSpy.Lib.Stack
import FPSpy.Individual.EstepProgress
import FPSpy.Individual.EventCodes

/-!
# A bypassed exception

With kernel-bypass exceptions the hart enters `trap_entry` without the kernel. It makes room
for 34 words below the stack pointer, stores x1 to x31 in the slots of their numbers and the
faulting pc in slot 0, calls `handle_kbe` on that array, and goes on at the address it returns.

The stack pointer moves before it is stored: slot 2 holds the address of the array, and that is
what the handlers take for the target's stack pointer. The registers come back as they were
whatever the handler does to them, because all of them are loaded from the array.
-/
namespace FPSpy.TrapEntry

open Riscv64

/-- For the numbers of the registers. -/
local instance neZero_registers : NeZero 32 := ⟨by decide⟩

/-- A hart in user mode. `V` is the floating point registers, which the entry code does not
name. `written` logs the address and the length of every store of the entry code. -/
structure Hart (V : Type) where
  x : Fin 32 → BitVec 64
  pc : Addr
  uepc : BitVec 64
  ucause : BitVec 64
  fcsr : BitVec 32
  ften : BitVec 32
  fpregs : V
  mem : Mem
  written : List (Addr × Nat)

variable {V : Type}

namespace Hart

def get (h : Hart V) (r : Fin 32) : BitVec 64 := if r = 0 then 0 else h.x r

def set (h : Hart V) (r : Fin 32) (v : BitVec 64) : Hart V :=
  if r = 0 then h else { h with x := Function.update h.x r v }

def sp (h : Hart V) : BitVec 64 := h.x 2

def load (h : Hart V) (a : Addr) : BitVec 64 := Mem.read 8 h.mem a

def store (h : Hart V) (a : Addr) (v : BitVec 64) : Hart V :=
  { h with mem := h.mem.write a v, written := h.written ++ [(a, 8)] }

def slot (h : Hart V) (k : Nat) : Addr := h.sp + BitVec.ofNat 64 (8 * k)

end Hart

inductive Instr where
  /-- `addi sp, sp, imm` -/
  | addiSp (imm : Int)
  /-- `SREG r, k*REGBYTES(sp)` -/
  | sreg (r : Fin 32) (k : Nat)
  /-- `LREG r, k*REGBYTES(sp)` -/
  | lreg (r : Fin 32) (k : Nat)
  /-- `csrr r, CSR_UEPC` -/
  | csrrUepc (r : Fin 32)
  /-- `csrr r, CSR_UCAUSE` -/
  | csrrUcause (r : Fin 32)
  /-- `csrw CSR_UEPC, r` -/
  | csrwUepc (r : Fin 32)
  /-- `mv r, sp` -/
  | mvSp (r : Fin 32)
  /-- `la r, symbol` -/
  | la (r : Fin 32) (symbol : Addr)
  deriving DecidableEq, Repr

def exec (h : Hart V) : Instr → Hart V
  | .addiSp imm => h.set 2 (h.sp + BitVec.ofInt 64 imm)
  | .sreg r k => h.store (h.slot k) (h.get r)
  | .lreg r k => h.set r (h.load (h.slot k))
  | .csrrUepc r => h.set r h.uepc
  | .csrrUcause r => h.set r h.ucause
  | .csrwUepc r => { h with uepc := h.get r }
  | .mvSp r => h.set r h.sp
  | .la r symbol => h.set r symbol

def run (h : Hart V) (is : List Instr) : Hart V := is.foldl exec h

def savedRegs : List (Fin 32) := (List.finRange 32).tail

def saves (rs : List (Fin 32)) : List Instr := rs.map fun r => .sreg r r

def loads (rs : List (Fin 32)) : List Instr := rs.map fun r => .lreg r r

/-- `trap_entry`, up to the `jalr`; a0 is x10, s3 is x19. -/
def trapEntry (handleKbe : Addr) : List Instr :=
  .addiSp (-272) :: saves savedRegs ++
    [.csrrUepc 11, .sreg 11 0, .csrrUcause 10, .mvSp 12, .la 19 handleKbe]

def trapReturn : List Instr := .csrwUepc 10 :: loads savedRegs ++ [.addiSp 272]

def uret (h : Hart V) : Hart V := { h with pc := h.uepc }

/-- What the text of `handle_kbe` makes of its cause, the pc, and the registers that `regs` points
at, with `fcsr` and CSR 0x880 of the hart: these two, and the address it returns. It does not come
back where the process dies. -/
abbrev KbeText := BitVec 64 → BitVec 64 → UContext → Option (UContext × Addr)

/-- What the compiled handler and its callees do besides. The calling convention gives sp back, and
the array belongs to the caller. -/
structure Compiled (V : Type) where
  call : Hart V → Hart V
  call_sp : ∀ h, (call h).sp = h.sp
  call_array : ∀ h (a : Addr), (a - h.sp).toNat < 272 → (call h).mem a = h.mem a
  call_written : ∀ h, (call h).written = h.written

/-- `jalr s3`, and the return from `handle_kbe(cause, epc, regs)`. -/
def callHandleKbe (text : KbeText) (f : Compiled V) (ret : Addr) (h : Hart V) : Option (Hart V) :=
  let h := h.set 1 ret
  let regs := h.x 12
  let seen : UContext := ⟨fun k => h.load (regs + BitVec.ofNat 64 (8 * k)), h.fcsr, h.ften⟩
  (text (h.x 10) (h.x 11) seen).map fun (uc, epc) =>
    { (f.call h).set 10 epc with fcsr := uc.fcsr, ften := uc.ften }

/-- The whole exception, from the hart's entry into `trap_entry` to the `uret`. -/
def trap (text : KbeText) (f : Compiled V) (handleKbe ret : Addr) (h : Hart V) :
    Option (Hart V) :=
  (callHandleKbe text f ret (run h (trapEntry handleKbe))).map fun h => uret (run h trapReturn)

/-! ## Saving and restoring -/

theorem run_append (h : Hart V) (is js : List Instr) : run h (is ++ js) = run (run h is) js :=
  List.foldl_append

theorem mem_savedRegs {r : Fin 32} (hr : r ≠ 0) : r ∈ savedRegs := by
  revert r
  decide

namespace Hart

@[simp] theorem get_of_ne (h : Hart V) {r : Fin 32} (hr : r ≠ 0) : h.get r = h.x r := if_neg hr

theorem x_set (h : Hart V) {r : Fin 32} (hr : r ≠ 0) (v : BitVec 64) :
    h.set r v = { h with x := Function.update h.x r v } := if_neg hr

end Hart

section Array

variable {W : Window 34} {h g : Hart V}

/-- With sp at the array, the operands are its slots. -/
theorem slot_eq (hsp : h.sp = W.slot 0) (k : Nat) : h.slot k = W.slot k := by
  rw [Hart.slot, hsp, W.slot_add_ofNat, Nat.zero_add]

structure Stored (W : Window 34) (h g : Hart V) : Prop where
  x : g.x = h.x
  uepc : g.uepc = h.uepc
  ucause : g.ucause = h.ucause
  fcsr : g.fcsr = h.fcsr
  ften : g.ften = h.ften
  written : (∀ p ∈ h.written, p.1.toNat + p.2 ≤ W.top) →
    ∀ p ∈ g.written, p.1.toNat + p.2 ≤ W.top
  above : ∀ a : Addr, W.top ≤ a.toNat → g.mem a = h.mem a

theorem Stored.refl (W : Window 34) (h : Hart V) : Stored W h h :=
  ⟨rfl, rfl, rfl, rfl, rfl, id, fun _ _ => rfl⟩

theorem Stored.trans {k : Hart V} (hg : Stored W h g) (hk : Stored W g k) : Stored W h k where
  x := hk.x.trans hg.x
  uepc := hk.uepc.trans hg.uepc
  ucause := hk.ucause.trans hg.ucause
  fcsr := hk.fcsr.trans hg.fcsr
  ften := hk.ften.trans hg.ften
  written := hk.written ∘ hg.written
  above a ha := (hk.above a ha).trans (hg.above a ha)

theorem stored_store (h : Hart V) {k : Nat} (hk : k < 34) (v : BitVec 64) :
    Stored W h (h.store (W.slot k) v) where
  x := rfl
  uepc := rfl
  ucause := rfl
  fcsr := rfl
  ften := rfl
  written hw p hp := by
    obtain hp | hp := List.mem_append.mp hp
    · exact hw p hp
    · obtain rfl := List.mem_singleton.mp hp
      rw [W.toNat_slot hk, Window.top]
      omega
  above a ha := W.write_above h.mem v hk le_rfl (by decide) ha

theorem word_store (h : Hart V) {j k : Nat} (hj : j < 34) (hk : k < 34) (v : BitVec 64) :
    W.word (h.store (W.slot k) v).mem j = if j = k then v else W.word h.mem j := by
  rw [Hart.store, W.word_write h.mem v hj hk le_rfl (by decide), overlay_word]

/-- Each register goes to the slot of its number, and the other slots stay. -/
theorem run_saves (hsp : h.sp = W.slot 0) (rs : List (Fin 32)) :
    Stored W h (run h (saves rs)) ∧
      (∀ r ∈ rs, W.word (run h (saves rs)).mem r = h.get r) ∧
      ∀ k < 34, (∀ r ∈ rs, (r : Nat) ≠ k) → W.word (run h (saves rs)).mem k = W.word h.mem k := by
  induction rs generalizing h with
  | nil => exact ⟨.refl W h, by simp, fun _ _ _ => rfl⟩
  | cons r rs ih =>
    have hlt : (r : Nat) < 34 := r.isLt.trans (by decide)
    have hfirst : exec h (.sreg r r) = h.store (W.slot r) (h.get r) := by
      rw [exec, slot_eq hsp]
    obtain ⟨hstored, hin, hout⟩ := ih (h := h.store (W.slot r) (h.get r)) hsp
    have hrun : run h (saves (r :: rs)) = run (h.store (W.slot r) (h.get r)) (saves rs) := by
      rw [← hfirst]
      rfl
    rw [hrun]
    refine ⟨(stored_store h hlt _).trans hstored, ?_, ?_⟩
    · intro q hq
      by_cases hmem : q ∈ rs
      · exact hin q hmem
      obtain rfl : q = r := (List.mem_cons.mp hq).resolve_right hmem
      rw [hout q hlt fun r hr heq => hmem (Fin.ext heq ▸ hr), word_store h hlt hlt, if_pos rfl]
    · intro k hk hne
      rw [hout k hk fun q hq => hne q (List.mem_cons_of_mem _ hq), word_store h hk hlt,
        if_neg (hne r List.mem_cons_self).symm]

/-- Each register comes from the slot of its number. sp stays, since its slot holds the address
of the array. -/
theorem run_loads (hsp : h.sp = W.slot 0) (hsaved : W.word h.mem 2 = W.slot 0)
    (rs : List (Fin 32)) (hrs : ∀ r ∈ rs, r ≠ 0) :
    ∃ x, run h (loads rs) = { h with x := x } ∧ (∀ r ∈ rs, x r = W.word h.mem r) ∧
      (∀ r, r ∉ rs → x r = h.x r) ∧ x 2 = W.slot 0 := by
  induction rs generalizing h with
  | nil => exact ⟨h.x, rfl, by simp, fun _ _ => rfl, hsp⟩
  | cons r rs ih =>
    have hr : r ≠ 0 := hrs r List.mem_cons_self
    have hload : h.load (h.slot r) = W.word h.mem r := by rw [slot_eq hsp]; rfl
    have hfirst : exec h (.lreg r r) =
        { h with x := Function.update h.x r (W.word h.mem r) } := by
      rw [exec, hload, h.x_set hr]
    have hkept : Function.update h.x r (W.word h.mem r) 2 = W.slot 0 := by
      rw [Function.update_apply]
      split_ifs with heq
      · rw [← heq]
        exact hsaved
      · exact hsp
    obtain ⟨x, hrun, hin, hout, hx⟩ :=
      ih (h := { h with x := Function.update h.x r (W.word h.mem r) }) hkept hsaved
        fun q hq => hrs q (List.mem_cons_of_mem _ hq)
    refine ⟨x, ?_, ?_, ?_, hx⟩
    · rw [← hrun, ← hfirst]
      rfl
    · intro q hq
      by_cases hmem : q ∈ rs
      · exact hin q hmem
      obtain rfl : q = r := (List.mem_cons.mp hq).resolve_right hmem
      rw [hout q hmem]
      exact Function.update_self ..
    · intro q hq
      rw [hout q fun hmem => hq (List.mem_cons_of_mem _ hmem)]
      exact Function.update_of_ne (fun heq => hq (List.mem_cons.mpr (.inl heq))) _ _

end Array

/-! ## The way in -/

/-- What `handle_kbe` is shown: the pc in slot 0, and for the stack pointer the address of the
array. -/
def shown (h : Hart V) : UContext where
  gregs r := if r = 0 then h.uepc else if r = 2 then h.sp - 272#64 else h.x r
  fcsr := h.fcsr
  ften := h.ften

def array {h : Hart V} (hroom : 272 ≤ h.sp.toNat) : Window 34 where
  base := h.sp - 272#64
  fits := by
    have hlt := h.sp.isLt
    rw [BitVec.toNat_sub, BitVec.toNat_ofNat]
    omega

section Way

variable {h : Hart V} (hroom : 272 ≤ h.sp.toNat)

theorem array_slot_zero : (array hroom).slot 0 = h.sp - 272#64 := BitVec.add_zero _

/-- The array ends where the target's stack begins. -/
theorem array_top : (array hroom).top = h.sp.toNat := by
  have hlt := h.sp.isLt
  rw [Window.top, array, BitVec.toNat_sub, BitVec.toNat_ofNat]
  omega

/-- `g` is about to jump to `handle_kbe`, with the registers of `h` in the array. -/
structure Entered (h g : Hart V) (W : Window 34) : Prop where
  sp : g.sp = W.slot 0
  cause : g.x 10 = h.ucause
  epc : g.x 11 = h.uepc
  regs : g.x 12 = W.slot 0
  fcsr : g.fcsr = h.fcsr
  ften : g.ften = h.ften
  word : ∀ r : Fin 32, W.word g.mem r = (shown h).gregs r
  written : (∀ p ∈ h.written, p.1.toNat + p.2 ≤ W.top) →
    ∀ p ∈ g.written, p.1.toNat + p.2 ≤ W.top
  above : ∀ a : Addr, W.top ≤ a.toNat → g.mem a = h.mem a

/-- The pc goes to slot 0, and the arguments to their registers. -/
theorem run_arguments {W : Window 34} {h : Hart V} (hsp : h.sp = W.slot 0) (handleKbe : Addr) :
    run h [.csrrUepc 11, .sreg 11 0, .csrrUcause 10, .mvSp 12, .la 19 handleKbe] =
      { h.store (W.slot 0) h.uepc with
        x := Function.update (Function.update (Function.update (Function.update h.x
          11 h.uepc) 10 h.ucause) 12 (W.slot 0)) 19 handleKbe } := by
  let first : Hart V := { h with x := Function.update h.x 11 h.uepc }
  have hfirst : exec h (.csrrUepc 11) = first := h.x_set (by decide) _
  have hstore : exec first (.sreg 11 0) = first.store (W.slot 0) h.uepc := by
    rw [exec, slot_eq (W := W) (show first.sp = W.slot 0 from hsp)]
    rfl
  have hmove : ∀ g : Hart V, g.sp = W.slot 0 → exec g (.mvSp 12) =
      { g with x := Function.update g.x 12 (W.slot 0) } := by
    intro g hg
    rw [exec, g.x_set (by decide), hg]
  calc run h [.csrrUepc 11, .sreg 11 0, .csrrUcause 10, .mvSp 12, .la 19 handleKbe]
      = run (exec (exec h (.csrrUepc 11)) (.sreg 11 0))
          [.csrrUcause 10, .mvSp 12, .la 19 handleKbe] := rfl
    _ = run (exec (exec (first.store (W.slot 0) h.uepc) (.csrrUcause 10)) (.mvSp 12))
          [.la 19 handleKbe] := by
        rw [hfirst, hstore]
        rfl
    _ = _ := by
        rw [hmove (exec (first.store (W.slot 0) h.uepc) (.csrrUcause 10)) hsp]
        rfl

theorem run_trapEntry (handleKbe : Addr) :
    Entered h (run h (trapEntry handleKbe)) (array hroom) := by
  let down : Hart V := { h with x := Function.update h.x 2 (h.sp - 272#64) }
  have hdown : exec h (.addiSp (-272)) = down := by
    rw [exec, h.x_set (by decide), show BitVec.ofInt 64 (-272) = -272#64 by decide,
      ← BitVec.sub_eq_add_neg]
  have hsp : down.sp = (array hroom).slot 0 := (array_slot_zero hroom).symm
  obtain ⟨hstored, hin, hout⟩ := run_saves hsp savedRegs
  have hrun : run h (trapEntry handleKbe) = run (run down (saves savedRegs))
      [.csrrUepc 11, .sreg 11 0, .csrrUcause 10, .mvSp 12, .la 19 handleKbe] := by
    rw [trapEntry, List.cons_append, run, List.foldl_cons, hdown, ← run, run_append]
  generalize run down (saves savedRegs) = saved at hstored hin hout hrun
  have hsaved : saved.sp = (array hroom).slot 0 := (congrFun hstored.x 2).trans hsp
  have hepc : saved.uepc = h.uepc := hstored.uepc
  rw [hrun, run_arguments hsaved, hepc]
  have hlast := stored_store (W := array hroom) saved (show 0 < 34 by decide) h.uepc
  exact
    { sp := hsaved
      cause := hstored.ucause
      epc := rfl
      regs := rfl
      fcsr := hstored.fcsr
      ften := hstored.ften
      word := by
        intro r
        have hlt : (r : Nat) < 34 := r.isLt.trans (by decide)
        have hword := word_store (W := array hroom) saved hlt (show 0 < 34 by decide) h.uepc
        refine hword.trans ?_
        simp only [shown]
        by_cases hr : r = 0
        · rw [if_pos hr, if_pos (by rw [hr]; rfl)]
        · have hr' : (r : Nat) ≠ 0 := fun heq => hr (Fin.ext heq)
          rw [if_neg hr, if_neg hr', hin r (mem_savedRegs hr), Hart.get_of_ne _ hr]
          exact Function.update_apply ..
      written := hlast.written ∘ hstored.written
      above := fun a ha => (hlast.above a ha).trans (hstored.above a ha) }

/-! ## The way back -/

/-- The array as the caller left it. -/
theorem Compiled.word_call (f : Compiled V) {g : Hart V} {W : Window 34} (hsp : g.sp = W.slot 0)
    {k : Nat} (hk : k < 34) : W.word (f.call g).mem k = W.word g.mem k := by
  apply BitVec.eq_of_getLsbD_eq
  intro i hi
  rw [Window.word, Window.word, Mem.getLsbD_read _ _ hi, Mem.getLsbD_read _ _ hi, f.call_array]
  have hbyte := W.toNat_slot_sub hk (show 0 < 34 by decide) (show i / 8 < 8 by omega)
  rw [hsp, hbyte, if_pos (Nat.zero_le k)]
  omega

/-- From the return of `handle_kbe` to the target: the registers come from the array. -/
theorem run_trapReturn {W : Window 34} {g : Hart V} (hsp : g.sp = W.slot 0)
    (hsaved : W.word g.mem 2 = W.slot 0) :
    ∃ x, uret (run g trapReturn) = { g with uepc := g.x 10, pc := g.x 10, x := x } ∧
      x 2 = W.slot 0 + 272#64 ∧ ∀ r, r ≠ 0 → r ≠ 2 → x r = W.word g.mem r := by
  obtain ⟨x, hrun, hin, -, hx⟩ := run_loads (h := { g with uepc := g.x 10 }) hsp hsaved savedRegs
    (by decide)
  have hup : exec { g with uepc := g.x 10, x := x } (.addiSp 272) =
      { g with uepc := g.x 10, x := Function.update x 2 (W.slot 0 + 272#64) } := by
    rw [exec, Hart.x_set _ (by decide), show BitVec.ofInt 64 272 = 272#64 by decide, ← hx]
    rfl
  refine ⟨Function.update x 2 (W.slot 0 + 272#64), ?_, Function.update_self .., ?_⟩
  · have hsteps : run g trapReturn =
        exec (run { g with uepc := g.x 10 } (loads savedRegs)) (.addiSp 272) := by
      rw [trapReturn, List.cons_append, run, List.foldl_cons, ← run, run_append]
      rfl
    rw [hsteps, hrun, hup]
    rfl
  · intro r hr hr2
    rw [Function.update_of_ne hr2, hin r (mem_savedRegs hr)]

/-- The call comes back with the array as it was, and the results of the handler's text. -/
theorem callHandleKbe_eq (text : KbeText) (f : Compiled V) (ret : Addr) {W : Window 34}
    {entered : Hart V} (hin : Entered h entered W) {uc : UContext} {epc : Addr}
    (htext : text h.ucause h.uepc (shown h) = some (uc, epc)) :
    ∃ g, callHandleKbe text f ret entered = some g ∧ g.sp = W.slot 0 ∧ g.x 10 = epc ∧
      g.fcsr = uc.fcsr ∧ g.ften = uc.ften ∧ (∀ r : Fin 32, W.word g.mem r = (shown h).gregs r) ∧
      g.written = entered.written ∧
      ∀ a : Addr, (∀ g, (f.call g).mem a = g.mem a) → g.mem a = entered.mem a := by
  let atCall : Hart V := { entered with x := Function.update entered.x 1 ret }
  have hset : entered.set 1 ret = atCall := entered.x_set (by decide) ret
  have hsp : atCall.sp = W.slot 0 := hin.sp
  have hword : ∀ k : Fin 32, atCall.load (atCall.x 12 + BitVec.ofNat 64 (8 * k)) =
      (shown h).gregs k := by
    intro k
    have hregs : atCall.x 12 = W.slot 0 := hin.regs
    rw [hregs, W.slot_add_ofNat, Nat.zero_add, ← hin.word k]
    rfl
  have hseen : (⟨fun k => atCall.load (atCall.x 12 + BitVec.ofNat 64 (8 * k)), atCall.fcsr,
      atCall.ften⟩ : UContext) = shown h := by
    rw [funext hword, show atCall.fcsr = h.fcsr from hin.fcsr,
      show atCall.ften = h.ften from hin.ften]
    rfl
  have hargs : text (atCall.x 10) (atCall.x 11) (shown h) = some (uc, epc) := by
    rw [show atCall.x 10 = h.ucause from hin.cause, show atCall.x 11 = h.uepc from hin.epc, htext]
  have hten : (f.call atCall).set 10 epc =
      { f.call atCall with x := Function.update (f.call atCall).x 10 epc } :=
    Hart.x_set _ (by decide) epc
  refine ⟨{ f.call atCall with
    x := Function.update (f.call atCall).x 10 epc, fcsr := uc.fcsr, ften := uc.ften },
    ?_, ?_, ?_, rfl, rfl, ?_, ?_, ?_⟩
  · simp only [callHandleKbe]
    rw [hset, hseen, hargs, Option.map_some, hten]
  · exact (f.call_sp atCall).trans hsp
  · exact Function.update_self (10 : Fin 32) epc (f.call atCall).x
  · intro r
    have hlt : (r : Nat) < 34 := r.isLt.trans (by decide)
    exact (f.word_call hsp hlt).trans (hin.word r)
  · exact f.call_written atCall
  · exact fun a ha => ha atCall

/-- `g` goes on from the exception of `h`, at `epc` and with what `uc` says of `fcsr` and the
enables. -/
structure Resumed (h : Hart V) (uc : UContext) (epc : Addr) (g : Hart V) : Prop where
  pc : g.pc = epc
  x : ∀ r, r ≠ 0 → g.x r = h.x r
  fcsr : g.fcsr = uc.fcsr
  ften : g.ften = uc.ften
  /-- The entry code stores below the stack pointer. -/
  written : ∀ p ∈ g.written, p.1.toNat + p.2 ≤ h.sp.toNat

end Way

/-- The handler is shown the registers of the exception, but for the stack pointer, and the target
goes on at the address the handler returns with all of its registers as they were. -/
theorem trap_resumed (text : KbeText) (f : Compiled V) (handleKbe ret : Addr) {h : Hart V}
    (hroom : 272 ≤ h.sp.toNat) (hwritten : h.written = []) {uc : UContext} {epc : Addr}
    (htext : text h.ucause h.uepc (shown h) = some (uc, epc)) :
    ∃ g, trap text f handleKbe ret h = some g ∧ Resumed h uc epc g ∧
      ∀ a : Addr, h.sp.toNat ≤ a.toNat → (∀ g, (f.call g).mem a = g.mem a) →
        g.mem a = h.mem a := by
  have hin := run_trapEntry hroom handleKbe
  have htop := array_top hroom
  have hbase := array_slot_zero hroom
  rw [trap]
  generalize run h (trapEntry handleKbe) = entered at hin
  generalize array hroom = W at hin htop hbase
  obtain ⟨back, hback, hsp, hx10, hfcsr, hften, hword, hw, hmem⟩ :=
    callHandleKbe_eq text f ret hin htext
  have hsaved : W.word back.mem 2 = W.slot 0 := by
    rw [hbase]
    exact hword 2
  obtain ⟨x, hreturn, hx2, hx⟩ := run_trapReturn hsp hsaved
  refine ⟨_, by rw [hback, Option.map_some, hreturn], ?_, ?_⟩
  · exact {
      pc := hx10
      x := by
        intro r hr
        by_cases hr2 : r = 2
        · rw [hr2]
          refine hx2.trans ?_
          rw [hbase]
          exact BitVec.sub_add_cancel h.sp _
        · refine (hx r hr hr2).trans ((hword r).trans ?_)
          simp [shown, hr, hr2]
      fcsr := hfcsr
      ften := hften
      written := by
        rw [← htop, hw]
        exact hin.written (by simp [hwritten]) }
  · intro a ha hcalled
    exact (hmem a hcalled).trans (hin.above a (htop ▸ ha))

/-! ## The handlers of the two causes -/

def excFloatingPoint : BitVec 64 := 0x18

def excInstructionStep : BitVec 64 := 0x19

variable (cfg : Config (riscv64 true)) (env : Env)
  (kick : Flow (riscv64 true) → Option (Flow (riscv64 true)))

/-- `kbe_fpe_handler`: the address it returns is the one it was given. -/
def kbeFpeHandler (f : Flow (riscv64 true)) (epc : Addr) : Option (Flow (riscv64 true) × Addr) :=
  let r := fpTrapHandler cfg env (kbeSiCode f.uc.fcsr) f
  let g := match r.2 with
    | .ret => some r.1
    | .abortOperation _ => abortOperation (kbeAbortOps cfg env kick) (some r.1)
    | .abort | .nullDeref | .divideError => none
  g.map (·, epc)

/-- `handle_kbe` for the causes that are delegated, in a thread whose registers are `f.uc`. -/
def handleKbe (f : Flow (riscv64 true)) (cause epc : BitVec 64) :
    Option (Flow (riscv64 true) × Addr) :=
  if cause = excFloatingPoint then kbeFpeHandler cfg env kick f epc
  else if cause = excInstructionStep then kbeEstepHandler cfg env kick f
  else none

/-- As a text: the registers are those in the array. -/
def handleKbeText (f : Flow (riscv64 true)) : KbeText := fun cause epc uc =>
  (handleKbe cfg env kick { f with uc := uc } cause epc).map fun (g, next) => (g.uc, next)

variable {cfg env kick}

/-- Where the target goes on: at the fault, and past the ESTEP only in INIT. -/
theorem next_of_handleKbe {f g : Flow (riscv64 true)} {cause : BitVec 64} {next : Addr}
    (hkbe : handleKbe cfg env kick f cause (pc f.uc) = some (g, next)) :
    next = if cause = excInstructionStep ∧ f.mc.map (·.state) = some .init then pc f.uc + 4#64
      else pc f.uc := by
  unfold handleKbe at hkbe
  split_ifs at hkbe with hfp hstep
  · obtain ⟨_, -, heq⟩ := Option.map_eq_some_iff.mp hkbe
    have hne : ¬ cause = excInstructionStep := by rw [hfp]; decide
    rw [if_neg fun h => hne h.1]
    exact (congrArg Prod.snd heq).symm
  · obtain ⟨_, -, heq⟩ := Option.map_eq_some_iff.mp hkbe
    obtain rfl := congrArg Prod.snd heq
    by_cases hinit : f.mc.map (·.state) = some .init <;> simp [hinit, hstep]

/-- An exception of a monitored thread, taken in user mode. `handle_kbe` finds the registers of the
exception in its array, with 272 taken off the stack pointer; the target goes on with x1 to x31 as
they were, with `fcsr` and CSR 0x880 as the monitor leaves them, at the instruction that trapped or
past the ESTEP of a kick in INIT. -/
theorem trap_handleKbe (f : Compiled V) (entry ret : Addr) {h : Hart V}
    (hroom : 272 ≤ h.sp.toNat) (hwritten : h.written = []) {t g : Flow (riscv64 true)}
    {next : Addr}
    (hkbe : handleKbe cfg env kick { t with uc := shown h } h.ucause h.uepc = some (g, next)) :
    archGetIp (shown h) = h.uepc ∧ archGetSp (shown h) = h.sp - 272#64 ∧
      (∀ r, r ≠ 0 → r ≠ 2 → (shown h).gregs r = h.x r) ∧
      ∃ after, trap (handleKbeText cfg env kick t) f entry ret h = some after ∧
        Resumed h g.uc next after ∧
        after.pc = (if h.ucause = excInstructionStep ∧ t.mc.map (·.state) = some .init then
          h.uepc + 4#64 else h.uepc) ∧
        ∀ a : Addr, h.sp.toNat ≤ a.toNat → (∀ g, (f.call g).mem a = g.mem a) →
          after.mem a = h.mem a := by
  have htext : handleKbeText cfg env kick t h.ucause h.uepc (shown h) = some (g.uc, next) := by
    rw [handleKbeText, hkbe, Option.map_some]
  obtain ⟨after, htrap, hresumed, habove⟩ := trap_resumed _ f entry ret hroom hwritten htext
  refine ⟨rfl, rfl, fun r hr hr2 => by simp [shown, hr, hr2], after, htrap, hresumed, ?_, habove⟩
  rw [hresumed.pc]
  exact next_of_handleKbe (f := { t with uc := shown h }) hkbe

def kickHart : Hart Unit :=
  ⟨fun r => if r = 2 then 0x8000 else BitVec.ofNat 64 r, 0x1000, 0x1000, excInstructionStep, 0, 0,
    (), kickCode, []⟩

def idle : Compiled Unit := ⟨id, fun _ => rfl, fun _ _ _ => rfl, fun _ => rfl⟩

theorem trap_handleKbe_kick : ∃ after,
    trap (handleKbeText (.defaults statics) ⟨0, 0, 0, 0, some 3⟩ (fun _ => none) bringupKick) idle
      0x4000 0x5000 kickHart = some after ∧ after.pc = 0x1004#64 ∧ after.sp = 0x8000#64 := by
  have hinit : bringupKick.mc.map (·.state) = some .init := by decide
  obtain ⟨mc, hmc, hstate⟩ := Option.map_eq_some_iff.mp hinit
  obtain ⟨g, hg, -⟩ := kbeEstepHandler_of_some (.defaults statics) ⟨0, 0, 0, 0, some 3⟩
    (fun _ => none) (f := { bringupKick with uc := shown kickHart }) hmc (by simp [hstate])
  have hkbe : handleKbe (.defaults statics) ⟨0, 0, 0, 0, some 3⟩ (fun _ => none)
      { bringupKick with uc := shown kickHart } kickHart.ucause kickHart.uepc = some (g, _) := hg
  obtain ⟨-, -, -, after, htrap, hresumed, hpc, -⟩ :=
    trap_handleKbe idle 0x4000 0x5000 (by decide) rfl hkbe
  exact ⟨after, htrap, hpc.trans (if_pos ⟨rfl, hinit⟩), hresumed.x 2 (by decide)⟩

end FPSpy.TrapEntry
