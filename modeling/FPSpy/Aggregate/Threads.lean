import FPSpy.Lib.Run
import FPSpy.Aggregate.Report
import FPSpy.Monitor.Rounding

/-!
# Threads and processes in aggregate mode

A tree of threads and processes on x64 whose code makes no intercepted call but
`pthread_create`, `pthread_exit` and `fork`, so that FPSpy never gets out of the way. A new
thread or process starts with its creator's MXCSR, in which `trampoline` or `fork` clears
the five standard flags. Two things follow from what they leave alone.

The sixth flag is inherited. A report is about its own thread exactly if the creator had
not yet met a denormal operand, or the thread itself has met one.

The rounding configuration that was computed at start-up is never applied. It is in force
exactly if the program was started with it.

`inherited` and `own` are bookkeeping of the model.
-/
namespace FPSpy.Aggregate

open X64 Report

structure Thread where
  mxcsr : BitVec 32
  /-- The creator's register when the thread was created; the first thread has none. -/
  inherited : Option (BitVec 32)
  /-- The operations the thread has executed since then. -/
  own : List (List Fe)

structure Process where
  round : RoundControl
  thread : Nat → Option Thread

/-- `arch_thread_init(0)` does nothing on x64. -/
def archThreadInit (t : Thread) : Thread := t

/-- A thread begins in `trampoline`; `enabled_fp_traps` is `FE_ALL_EXCEPT` in this mode. -/
def trampoline (creator : Thread) : Thread :=
  archThreadInit
    { mxcsr := status.feclearexceptAll creator.mxcsr, inherited := some creator.mxcsr, own := [] }

def forkChild (creator : Thread) : Thread :=
  archThreadInit
    { mxcsr := status.feclearexceptAll creator.mxcsr, inherited := some creator.mxcsr, own := [] }

def Thread.fpOp (op : List Fe) (t : Thread) : Thread :=
  { t with mxcsr := status.raise t.mxcsr op, own := t.own ++ [op] }

inductive ThreadsEvent where
  | fpOp (pid t : Nat) (op : List Fe)
  /-- Thread `t` creates thread `u`. -/
  | pthreadCreate (pid t u : Nat)
  | fork (pid t child : Nat)
  /-- The thread writes its report and is gone. -/
  | pthreadExit (pid t : Nat)

abbrev Threads := Nat → Option Process

namespace Threads

def put (s : Threads) (pid : Nat) (p : Process) (t : Nat) (l : Option Thread) : Threads :=
  Function.update s pid (some { p with thread := Function.update p.thread t l })

def step (s : Threads) : ThreadsEvent → Option Threads
  | .fpOp pid t op => (s pid).bind fun p => (p.thread t).map fun l =>
    s.put pid p t (some (l.fpOp op))
  | .pthreadCreate pid t u => (s pid).bind fun p => (p.thread t).bind fun l =>
    if (p.thread u).isNone then some (s.put pid p u (some (trampoline l))) else none
  | .fork pid t child => (s pid).bind fun p => (p.thread t).bind fun l =>
    if (s child).isNone then
      some (s.put child { p with thread := fun _ => none } child (some (forkChild l)))
    else none
  | .pthreadExit pid t => (s pid).bind fun p => (p.thread t).map fun _ => s.put pid p t none

/-- The one thread of a program, after `fpspy_init`: `FPSPY_FORCE_ROUNDING` has been looked at, and
`bringup` has cleared the flags. -/
def start (buf : List Char) (mxcsr : BitVec 32) (pid : Nat) : Threads :=
  put (fun _ => none) pid ⟨configRoundDazFtz buf mxcsr, fun _ => none⟩ pid
    (some (archThreadInit
      { mxcsr := status.feclearexceptAll mxcsr, inherited := none, own := [] }))

variable {s u : Threads} {I : Thread → Prop}

def Each (I : Thread → Prop) (s : Threads) : Prop :=
  ∀ pid p t l, s pid = some p → p.thread t = some l → I l

theorem Each.put (h : Each I s) {pid t : Nat} {p : Process} {l : Option Thread}
    (hp : ∀ t l, p.thread t = some l → I l) (hl : ∀ l', l = some l' → I l') :
    Each I (s.put pid p t l) := by
  intro pid' p' t' l' hp' hl'
  by_cases hpid : pid' = pid
  · subst hpid
    simp only [Threads.put, Function.update_self, Option.some.injEq] at hp'
    subst hp'
    dsimp only at hl'
    by_cases ht : t' = t
    · subst ht
      rw [Function.update_self] at hl'
      exact hl l' hl'
    · rw [Function.update_of_ne ht] at hl'
      exact hp t' l' hl'
  · rw [Threads.put, Function.update_of_ne hpid] at hp'
    exact h pid' p' t' l' hp' hl'

/-- What operations keep and new threads have, every thread has after a step. -/
theorem Each.step (hop : ∀ l op, I l → I (l.fpOp op)) (htramp : ∀ l, I l → I (trampoline l))
    (hfork : ∀ l, I l → I (forkChild l)) (h : Each I s) {e : ThreadsEvent}
    (hstep : s.step e = some u) : Each I u := by
  cases e with
  | fpOp pid t op =>
    obtain ⟨p, hp, hstep⟩ := Option.bind_eq_some_iff.mp hstep
    obtain ⟨l, hl, rfl⟩ := Option.map_eq_some_iff.mp hstep
    exact h.put (fun t l => h pid p t l hp)
      fun l' hl' => Option.some.inj hl' ▸ hop l op (h pid p t l hp hl)
  | pthreadCreate pid t v =>
    obtain ⟨p, hp, hstep⟩ := Option.bind_eq_some_iff.mp hstep
    obtain ⟨l, hl, hstep⟩ := Option.bind_eq_some_iff.mp hstep
    split_ifs at hstep
    obtain rfl := Option.some.inj hstep
    exact h.put (fun t l => h pid p t l hp)
      fun l' hl' => Option.some.inj hl' ▸ htramp l (h pid p t l hp hl)
  | fork pid t child =>
    obtain ⟨p, hp, hstep⟩ := Option.bind_eq_some_iff.mp hstep
    obtain ⟨l, hl, hstep⟩ := Option.bind_eq_some_iff.mp hstep
    split_ifs at hstep
    obtain rfl := Option.some.inj hstep
    exact h.put (fun _ l hnone => absurd hnone.symm (Option.some_ne_none l))
      fun l' hl' => Option.some.inj hl' ▸ hfork l (h pid p t l hp hl)
  | pthreadExit pid t =>
    obtain ⟨p, hp, hstep⟩ := Option.bind_eq_some_iff.mp hstep
    obtain ⟨l, hl, rfl⟩ := Option.map_eq_some_iff.mp hstep
    exact h.put (fun t l => h pid p t l hp)
      fun l' hnone => absurd hnone.symm (Option.some_ne_none l')

theorem Each.start {buf : List Char} {mxcsr : BitVec 32} {pid : Nat}
    (h : I { mxcsr := status.feclearexceptAll mxcsr, inherited := none, own := [] }) :
    Each I (start buf mxcsr pid) :=
  Each.put (fun _ p _ _ hnone => absurd hnone.symm (Option.some_ne_none p))
    (fun _ l hnone => absurd hnone.symm (Option.some_ne_none l))
    fun _ hl => Option.some.inj hl ▸ h

/-! ## What a report is about -/

/-- A created thread has its creator's register, with the standard flags cleared and its own
operations executed. -/
def Thread.Accumulated (l : Thread) : Prop :=
  ∀ inherited, l.inherited = some inherited →
    l.mxcsr = status.execute (status.feclearexceptAll inherited) l.own

theorem accumulated_fpOp (l : Thread) (op : List Fe) (h : Thread.Accumulated l) :
    Thread.Accumulated (l.fpOp op) := by
  intro inherited hin
  simp only [Thread.fpOp, h inherited hin, StatusRegister.execute, List.foldl_append,
    List.foldl_cons, List.foldl_nil]

theorem accumulated_run {buf : List Char} {mxcsr : BitVec 32} {pid : Nat}
    {es : List ThreadsEvent} (hrun : Run.run step (start buf mxcsr pid) es = some s) :
    Each Thread.Accumulated s := by
  have hnew (l : Thread) : Thread.Accumulated (trampoline l) := by
    intro inherited hin
    obtain rfl := Option.some.inj hin
    rfl
  refine Run.invariant (I := Each Thread.Accumulated) (fun _ _ _ h hstep => ?_)
    (Each.start nofun) hrun
  exact h.step accumulated_fpOp (fun l _ => hnew l) (fun l _ => hnew l) hstep

/-- On x64 the denormal exception is looked up in MXCSR like the others. -/
theorem shown_iff (mxcsr : BitVec 32) (e : Fe) :
    (if e = .denorm then status.archHaveSpecialFpCsrException mxcsr .denorm = true
      else status.fetestexcept mxcsr e = true) ↔ status.fetestexcept mxcsr e = true := by
  split_ifs with he
  · subst he
    rfl
  · rfl

/-- The flags of a created thread: what its operations raised, and its creator's denormal flag,
which is not cleared. -/
theorem fetestexcept_accumulated (inherited : BitVec 32) (own : List (List Fe)) (e : Fe) :
    status.fetestexcept (status.execute (status.feclearexceptAll inherited) own) e = true ↔
      (e = .denorm ∧ inherited &&& feBit .denorm ≠ 0) ∨ status.Recorded own e := by
  rw [status.fetestexcept_execute, status.fetestexcept_feclearexceptAll]
  by_cases he : e = .denorm
  · subst he
    simp [StatusRegister.fetestexcept, status]
  · simp [he]

/-- In every run the report of a created thread lists exactly what its own operations raised, if
and only if the thread did not inherit the flag for denormal operands or has raised it itself. -/
theorem report_own_iff {buf : List Char} {mxcsr : BitVec 32} {pid : Nat}
    {es : List ThreadsEvent} (hrun : Run.run step (start buf mxcsr pid) es = some s)
    {q t : Nat} {p : Process} {l : Thread} (hp : s q = some p) (hl : p.thread t = some l)
    {inherited : BitVec 32} (hin : l.inherited = some inherited) :
    ∃ text, handleAggregateThreadExit status true true false l.mxcsr = some text ∧
      (Lists (status.Recorded l.own) text ↔
        inherited &&& feBit .denorm = 0 ∨ ∃ op ∈ l.own, Fe.denorm ∈ op) := by
  refine ⟨_, rfl, ?_⟩
  have hmxcsr := accumulated_run hrun q p t l hp hl inherited hin
  have hown : status.Recorded l.own .denorm ↔ ∃ op ∈ l.own, Fe.denorm ∈ op :=
    and_iff_right (by decide)
  rw [lists_report_iff rfl]
  simp only [shown_iff]
  simp only [hmxcsr, fetestexcept_accumulated]
  constructor
  · intro h
    by_cases hclear : inherited &&& feBit .denorm = 0
    · exact .inl hclear
    · exact .inr (hown.mp ((h .denorm).mp (.inl ⟨rfl, hclear⟩)))
  · intro h e
    refine or_iff_right_of_imp ?_
    rintro ⟨rfl, hset⟩
    exact hown.mpr (h.resolve_left hset)

/-- The main thread and a thread it has created are both at work when the first creates a third:
nothing is inherited. -/
theorem report_own_inexact :
    ∃ s p l, Run.run step (start [] 0x1f80 1)
        [.fpOp 1 1 [.inexact], .pthreadCreate 1 1 2, .fpOp 1 2 [.overflow, .inexact],
          .pthreadCreate 1 1 3, .fpOp 1 3 [.invalid]] = some s ∧
      s 1 = some p ∧ p.thread 3 = some l ∧ l.inherited = some 0x1fa0 ∧
      ∃ text, handleAggregateThreadExit status true true false l.mxcsr = some text ∧
        (Lists (status.Recorded l.own) text ↔
          0x1fa0#32 &&& feBit .denorm = 0 ∨ ∃ op ∈ l.own, Fe.denorm ∈ op) := by
  have hrun : (((Run.run step (start [] 0x1f80 1)
      [.fpOp 1 1 [.inexact], .pthreadCreate 1 1 2, .fpOp 1 2 [.overflow, .inexact],
        .pthreadCreate 1 1 3, .fpOp 1 3 [.invalid]]).bind (· 1)).bind (·.thread 3)).map
          (·.inherited) = some (some 0x1fa0) := by decide
  obtain ⟨l, hl, hin⟩ := Option.map_eq_some_iff.mp hrun
  obtain ⟨p, hp, hl⟩ := Option.bind_eq_some_iff.mp hl
  obtain ⟨s, hs, hp⟩ := Option.bind_eq_some_iff.mp hp
  exact ⟨s, p, l, hs, hp, hl, hin, report_own_iff hs hp hl hin⟩

/-- A thread that has met a denormal operand creates another, which executes nothing: its report
lists the exception. -/
theorem not_report_own_inherited :
    ∃ s p l, Run.run step (start [] 0x1f80 1) [.fpOp 1 1 [.denorm], .pthreadCreate 1 1 2] =
        some s ∧ s 1 = some p ∧ p.thread 2 = some l ∧ l.own = [] ∧
      handleAggregateThreadExit status true true false l.mxcsr = some "FE_DENORM\n".toList ∧
      ¬ Lists (status.Recorded l.own) "FE_DENORM\n".toList := by
  have hrun : (((Run.run step (start [] 0x1f80 1)
      [.fpOp 1 1 [.denorm], .pthreadCreate 1 1 2]).bind (· 1)).bind (·.thread 2)).map
        (fun l => (l.own, handleAggregateThreadExit status true true false l.mxcsr)) =
      some ([], some "FE_DENORM\n".toList) := by decide
  obtain ⟨l, hl, hval⟩ := Option.map_eq_some_iff.mp hrun
  obtain ⟨p, hp, hl⟩ := Option.bind_eq_some_iff.mp hl
  obtain ⟨s, hs, hp⟩ := Option.bind_eq_some_iff.mp hp
  obtain ⟨hown, htext⟩ := Prod.mk.inj hval
  refine ⟨s, p, l, hs, hp, hl, hown, htext, ?_⟩
  rintro ⟨es, -, hes, hlisting⟩
  -- the text names the exception, and no operation has raised it
  have hdenorm : Fe.denorm ∈ es := by
    rw [← macroName_infix_listing, ← hlisting]
    decide
  obtain ⟨-, op, hop, -⟩ := (hes .denorm).mp hdenorm
  simp [hown] at hop

/-! ## Forced rounding -/

/-- The rounding, DAZ and FTZ bits are those of `config`. -/
def Thread.Rounds (config : BitVec 32) (l : Thread) : Prop :=
  archGetMachineRoundConfig l.mxcsr = config

theorem round_disjoint_bit (e : Fe) : status.bit e &&& mxcsrRoundDazFtzMask = 0 := by
  cases e <;> decide

theorem rounds_run {buf : List Char} {mxcsr : BitVec 32} {pid : Nat} {es : List ThreadsEvent}
    (hrun : Run.run step (start buf mxcsr pid) es = some s) :
    Each (Thread.Rounds (archGetMachineRoundConfig mxcsr)) s := by
  have hclear (w : BitVec 32) : archGetMachineRoundConfig (status.feclearexceptAll w) =
      archGetMachineRoundConfig w :=
    status.feclearexceptAll_and_of_disjoint round_disjoint_bit w
  refine Run.invariant (I := Each (Thread.Rounds (archGetMachineRoundConfig mxcsr)))
    (fun _ _ _ h hstep => ?_) (Each.start (hclear mxcsr)) hrun
  refine h.step (fun l op hl => ?_) (fun l hl => ?_) (fun l hl => ?_) hstep
  · exact (status.raise_and_of_disjoint round_disjoint_bit l.mxcsr op).trans hl
  · exact (hclear l.mxcsr).trans hl
  · exact (hclear l.mxcsr).trans hl

theorem exists_first (buf : List Char) (mxcsr : BitVec 32) (pid : Nat) :
    ∃ p l, start buf mxcsr pid pid = some p ∧ p.thread pid = some l := by
  unfold start put
  exact ⟨_, _, Function.update_self .., Function.update_self ..⟩

/-- FPSpy computes the configuration that `FPSPY_FORCE_ROUNDING` requests. Every thread of every run
rounds that way if and only if the program is started with just that configuration. -/
theorem forced_iff_startup {buf : List Char} {mode : RoundMode} {dazftz : DazftzMode}
    (hrequest : Requests buf mode dazftz) (mxcsr : BitVec 32) (pid : Nat) :
    Decodes (configRoundDazFtz buf mxcsr).our mode dazftz ∧
      ((∀ es s, Run.run step (start buf mxcsr pid) es = some s → ∀ q p t l, s q = some p →
        p.thread t = some l → Decodes (archGetMachineRoundConfig l.mxcsr) mode dazftz) ↔
        Decodes (archGetMachineRoundConfig mxcsr) mode dazftz) := by
  refine ⟨?_, fun h => ?_, fun h es s hrun q p t l hp hl => ?_⟩
  · rw [configRoundDazFtz_eq hrequest]
    exact decodes_packed mode dazftz
  · obtain ⟨p, l, hp, hl⟩ := exists_first buf mxcsr pid
    have hfirst := h [] _ rfl pid p pid l hp hl
    rwa [show archGetMachineRoundConfig l.mxcsr = _ from
      rounds_run (Run.run_nil _) pid p pid l hp hl] at hfirst
  · rw [show archGetMachineRoundConfig l.mxcsr = _ from rounds_run hrun q p t l hp hl]
    exact h

/-- `FPSPY_FORCE_ROUNDING=nearest`, for a program that starts in round-to-nearest. -/
theorem forced_nearest :
    Requests "nearest".toList .nearest .noDazNoFtz ∧
      Decodes (configRoundDazFtz "nearest".toList 0x1f80).our .nearest .noDazNoFtz ∧
      ((∀ es s, Run.run step (start "nearest".toList 0x1f80 1) es = some s → ∀ q p t l,
        s q = some p → p.thread t = some l →
          Decodes (archGetMachineRoundConfig l.mxcsr) .nearest .noDazNoFtz) ↔
        Decodes (archGetMachineRoundConfig 0x1f80) .nearest .noDazNoFtz) := by
  have hrequest : Requests "nearest".toList .nearest .noDazNoFtz := ⟨by decide, by decide⟩
  exact ⟨hrequest, forced_iff_startup hrequest 0x1f80 1⟩

/-- `FPSPY_FORCE_ROUNDING=positive`: a program that starts in round-to-nearest stays there. -/
theorem not_forced_positive :
    Requests "positive".toList .positive .noDazNoFtz ∧
      ∃ p l, start "positive".toList 0x1f80 1 1 = some p ∧ p.thread 1 = some l ∧
        ¬ Decodes (archGetMachineRoundConfig l.mxcsr) .positive .noDazNoFtz := by
  obtain ⟨p, l, hp, hl⟩ := exists_first "positive".toList 0x1f80 1
  refine ⟨⟨by decide, by decide⟩, p, l, hp, hl, fun h => ?_⟩
  have hmode := h.1
  rw [show archGetMachineRoundConfig l.mxcsr = _ from rounds_run (Run.run_nil _) 1 p 1 l hp hl]
    at hmode
  exact absurd hmode (by decide)

end Threads
end FPSpy.Aggregate
