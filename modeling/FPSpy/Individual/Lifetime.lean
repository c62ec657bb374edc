import FPSpy.Lib.Run
import FPSpy.Individual.Thread
import FPSpy.Monitor.Table

/-!
# Threads that come and go

A process with its context table and a changing set of threads, and a system of such
processes. A thread starts with its creator's FP control register; libc and then
`trampoline` run in it before the target's code does. A forked child is a process with one
thread, a copy of its parent's variables and table, and its parent's register.

A kick is a breakpoint trap, and traps may come at any time, so the kicks that
`trampoline` and `fork` send are not part of the set-up: they are events that follow it.
-/
namespace FPSpy

variable {A : Arch}

inductive Phase where
  /-- In libc, before `trampoline`, or in a child before `fork` has set it up. -/
  | newborn
  | running
  /-- In `pthread_exit`, after the teardown. -/
  | exiting
  deriving DecidableEq, Repr

structure Live (A : Arch) where
  uc : A.UContext
  phase : Phase

structure Proc (A : Arch) where
  globals : Globals
  table : List MonitoringContext
  thread : Nat → Option (Live A)

namespace Proc

def flow (p : Proc A) (t : Nat) (l : Live A) : Flow A where
  toGlobals := p.globals
  toThread := { Thread.start t l.uc with mc := Table.findMonitoringContext t p.table }

def put (p : Proc A) (t : Nat) (l : Live A) (f : Flow A) : Proc A where
  globals := f.toGlobals
  table := match f.mc with
    | none => p.table
    | some mc => Table.store t mc p.table
  thread := Function.update p.thread t (some { l with uc := f.uc })

def bringup (cfg : Config A) (env : Env) (t : Nat) (p : Proc A) : Proc A :=
  let b := Table.bringupMonitoringContext cfg env t (Table.initMonitoringContexts p.table)
  if b.2 then
    let g := setupSignals cfg p.globals
    { p with
      table := b.1
      globals := { g with
        itimer := if cfg.timers then oneShot env.draw else g.itimer
        inited := true } }
  else { p with table := b.1 }

/-- An abort in a handler of thread `t`: libc's calls act on registers that are dropped, and
SIGTRAP is blocked. -/
def abortOps (cfg : Config A) (env : Env) (t : Nat) : AbortOps (Proc A) where
  inited p := p.globals.inited
  aborted p := p.globals.aborted
  mode := .individual
  findMonitoringContext p := Table.findMonitoringContext t p.table
  fpspyInit := bringup cfg env t
  fedisableexcept p := p
  feclearexcept p := p
  restoreSigfpe p := { p with globals := { p.globals with
    sigaction := Function.update p.globals.sigaction .sigfpe p.globals.oldsaFpe } }
  writeAbort mc p :=
    match p.thread t with
    | none => p
    | some l => p.put t l ((p.flow t l).writeAbort cfg env mc)
  kickSelf p := p
  restoreSigtrap p := { p with globals := { p.globals with
    sigaction := Function.update p.globals.sigaction .sigtrap p.globals.oldsaTrap } }
  setAborted p := { p with globals := { p.globals with aborted := true } }

def settle (cfg : Config A) (env : Env) (t : Nat) (l : Live A) (p : Proc A)
    (r : Flow A × HandlerExit) : Option (Proc A) :=
  match r.2 with
  | .ret => some (p.put t l r.1)
  | .abortOperation _ => some (abortOperation (abortOps cfg env t) (p.put t l r.1))
  | .abort | .nullDeref | .divideError => none

def trap (cfg : Config A) (t : Nat) (l : Live A) (p : Proc A) : ThreadEvent → Option (Proc A)
  | .fpTrap env siCode =>
    if A.trapsUnmasked cfg.statics l.uc ∧
        (p.globals.sigaction .sigfpe).handler = .sigfpeHandler then
      p.settle cfg env t l (fpTrapHandler cfg env siCode (p.flow t l))
    else none
  | .brkTrap env =>
    if (p.globals.sigaction .sigtrap).handler = .sigtrapHandler then
      p.settle cfg env t l (brkTrapHandler cfg env (p.flow t l))
    else none
  | .expiry env =>
    if cfg.timers ∧ (p.globals.sigaction cfg.alarmSig).handler = .sigalrmHandler then
      some (p.put t l (sigalrmHandler cfg env (p.flow t l)))
    else none

/-- What `pthread_create` and `fork` make of the thread that calls them: the new thread is set
up, unless FPSpy is out of the way. -/
def child (p : Proc A) (l : Live A) : Live A :=
  { l with phase := if p.globals.aborted then .running else .newborn }

/-- The set-up of a new thread, in `trampoline` and in `fork`. The thread goes on whether it
succeeds or not. -/
def setUp (cfg : Config A) (env : Env) (libc : Libc A) (t : Nat) (l : Live A) (p : Proc A) :
    Proc A :=
  let b := Table.bringupMonitoringContext cfg env t p.table
  { globals := { p.globals with
      itimer := if b.2 ∧ cfg.timers then oneShot env.draw else p.globals.itimer }
    table := b.1
    thread := Function.update p.thread t
      (some { uc := libc.feclearexceptEnabled l.uc, phase := .running }) }

/-- `pthread_exit`, up to libc's original. -/
def pthreadExit (cfg : Config A) (t : Nat) (l : Live A) (p : Proc A) : Proc A :=
  { p with
    table := (Table.teardownMonitoringContext cfg t p.table).1
    thread := Function.update p.thread t (some { l with phase := .exiting }) }

def fpspyDeinit (cfg : Config A) (t : Nat) (p : Proc A) : Proc A :=
  { p with
    table := if p.globals.inited then (Table.teardownMonitoringContext cfg t p.table).1
      else p.table
    globals := { p.globals with inited := false } }

/-- `sigint_handler`, where the previous handler is called and returns. -/
def sigintHandler (cfg : Config A) (t : Nat) (p : Proc A) : Option (Proc A) :=
  match p.globals.oldsaInt.handler with
  | .target _ => some (p.fpspyDeinit cfg t)
  | _ => none

/-! ### What a handler and an abort leave alone -/

section

variable {cfg : Config A} {env : Env} {p q : Proc A} {t u : Nat} {l : Live A}

/-- Other threads keep their registers and contexts through a handler. -/
theorem find_put_of_ne (f : Flow A) (h : u ≠ t) :
    Table.findMonitoringContext u (p.put t l f).table =
      Table.findMonitoringContext u p.table := by
  unfold put
  dsimp only
  split
  · rfl
  · exact Table.find_store_of_ne _ h

/-- A thread that is changed, or goes, was there. -/
theorem isSome_of_update {thread : Nat → Option (Live A)} (hl : thread t = some l)
    (l' : Option (Live A)) (h : (Function.update thread t l' u).isSome = true) :
    (thread u).isSome = true := by
  by_cases hu : u = t
  · subst hu
    simp [hl]
  · rwa [Function.update_of_ne hu] at h

theorem thread_put_of_ne (f : Flow A) (h : u ≠ t) : (p.put t l f).thread u = p.thread u := by
  simp [put, h]

/-- A process survives a handler that returns or aborts. -/
theorem settle_lives {r : Flow A × HandlerExit} (h : p.settle cfg env t l r = some q) :
    r.2 = .ret ∨ ∃ reason, r.2 = .abortOperation reason := by
  unfold Proc.settle at h
  split at h
  · next hexit => exact .inl hexit
  · next reason hexit => exact .inr ⟨reason, hexit⟩
  all_goals cases h

theorem writeAbort_uc (cfg : Config A) (env : Env) (mc : MonitoringContext) (f : Flow A) :
    (f.writeAbort cfg env mc).uc = f.uc ∧ (f.writeAbort cfg env mc).toGlobals = f.toGlobals := by
  unfold Flow.writeAbort
  dsimp only
  split_ifs <;> exact ⟨rfl, rfl⟩

theorem bringup_table (cfg : Config A) (env : Env) (t : Nat) (p : Proc A) :
    (p.bringup cfg env t).table = (Table.bringupMonitoringContext cfg env t
      (Table.initMonitoringContexts p.table)).1 := by
  unfold Proc.bringup
  dsimp only
  split_ifs <;> rfl

theorem bringup_thread (cfg : Config A) (env : Env) (t : Nat) (p : Proc A) :
    (p.bringup cfg env t).thread = p.thread := by
  unfold Proc.bringup
  dsimp only
  split_ifs <;> rfl

/-- A bringup that initialises FPSpy has found room for its context. -/
theorem ok_of_bringup_inited (hi : p.globals.inited = false)
    (h : (p.bringup cfg env t).globals.inited = true) :
    (Table.bringupMonitoringContext cfg env t
      (Table.initMonitoringContexts p.table)).2 = true := by
  by_contra hup
  simp [Proc.bringup, hup, hi] at h

theorem bringup_globals (hup : (Table.bringupMonitoringContext cfg env t
    (Table.initMonitoringContexts p.table)).2 = true) :
    (p.bringup cfg env t).globals =
      { setupSignals cfg p.globals with
        itimer := if cfg.timers then oneShot env.draw else (setupSignals cfg p.globals).itimer
        inited := true } := by
  simp [Proc.bringup, hup]

/-- What an abort in thread `t` keeps: the registers of all threads, and the contexts of the
others unless it initialises FPSpy. -/
structure KeptByAbort (t : Nat) (p q : Proc A) : Prop where
  thread : q.thread = p.thread
  round : q.globals.origRoundConfig = p.globals.origRoundConfig
  find : p.globals.inited = true → ∀ u, u ≠ t →
    Table.findMonitoringContext u q.table = Table.findMonitoringContext u p.table

variable (cfg env t) in
theorem keptByAbort_bringup (hi : p.globals.inited = false) :
    KeptByAbort t p (p.bringup cfg env t) := by
  have hno : ¬ p.globals.inited = true := by simp [hi]
  unfold bringup
  dsimp only
  split
  · exact ⟨rfl, (setupSignals_spec cfg p.globals).origRoundConfig, fun h => absurd h hno⟩
  · exact ⟨rfl, rfl, fun h => absurd h hno⟩

theorem keptByAbort_writeAbort (h : KeptByAbort t p q) (mc : MonitoringContext) :
    KeptByAbort t p ((abortOps cfg env t).writeAbort mc q) := by
  simp only [abortOps]
  cases hl : q.thread t with
  | none => exact h
  | some l =>
    obtain ⟨huc, hglobals⟩ := writeAbort_uc cfg env mc (q.flow t l)
    refine ⟨?_, ?_, fun hi u hu => (find_put_of_ne _ hu).trans (h.find hi u hu)⟩
    · rw [← h.thread]
      simp only [put, huc]
      exact Function.update_eq_self_iff.mpr hl.symm
    · simp only [put, hglobals]
      exact h.round

theorem keptByAbort_abortOperation (cfg : Config A) (env : Env) (t : Nat) (p : Proc A) :
    KeptByAbort t p (abortOperation (abortOps cfg env t) p) := by
  refine abortOperation_invariant (keptByAbort_bringup cfg env t) ?_ ?_ ?_ ?_ ?_ ?_
    ⟨rfl, rfl, by simp⟩
  · exact fun _ h => h
  · exact fun _ h => ⟨h.thread, h.round, h.find⟩
  · exact fun _ mc _ h => keptByAbort_writeAbort h mc
  · exact fun _ h => h
  · exact fun _ h => ⟨h.thread, h.round, h.find⟩
  · exact fun _ h => ⟨h.thread, h.round, h.find⟩

inductive TrapEffect (cfg : Config A) (t : Nat) (l : Live A) (p : Proc A) :
    ThreadEvent → Proc A → Prop where
  | fpTrap {env : Env} {siCode : BitVec 32} {q : Proc A}
      (hopen : A.trapsUnmasked cfg.statics l.uc = true)
      (hours : (p.globals.sigaction .sigfpe).handler = .sigfpeHandler)
      (hq : p.settle cfg env t l (fpTrapHandler cfg env siCode (p.flow t l)) = some q) :
      TrapEffect cfg t l p (.fpTrap env siCode) q
  | brkTrap {env : Env} {q : Proc A}
      (hours : (p.globals.sigaction .sigtrap).handler = .sigtrapHandler)
      (hq : p.settle cfg env t l (brkTrapHandler cfg env (p.flow t l)) = some q) :
      TrapEffect cfg t l p (.brkTrap env) q
  | expiry {env : Env} (htimers : cfg.timers = true)
      (hours : (p.globals.sigaction cfg.alarmSig).handler = .sigalrmHandler) :
      TrapEffect cfg t l p (.expiry env) (p.put t l (sigalrmHandler cfg env (p.flow t l)))

theorem trap_effect {e : ThreadEvent} (h : p.trap cfg t l e = some q) :
    TrapEffect cfg t l p e q := by
  cases e with
  | fpTrap env siCode =>
    simp only [trap] at h
    split_ifs at h with hc
    exact .fpTrap hc.1 hc.2 h
  | brkTrap env =>
    simp only [trap] at h
    split_ifs at h with hours
    exact .brkTrap hours h
  | expiry env =>
    simp only [trap] at h
    split_ifs at h with hc
    exact Option.some.inj h ▸ .expiry hc.1 hc.2

/-- A trap changes the registers of the thread that takes it. -/
theorem thread_of_trap {e : ThreadEvent} (h : p.trap cfg t l e = some q) :
    ∃ uc, q.thread = Function.update p.thread t (some { l with uc := uc }) := by
  have hsettle : ∀ {env : Env} {r}, p.settle cfg env t l r = some q →
      ∃ uc, q.thread = Function.update p.thread t (some { l with uc := uc }) := by
    intro env r hr
    unfold Proc.settle at hr
    split at hr
    · exact ⟨r.1.uc, Option.some.inj hr ▸ rfl⟩
    · refine ⟨r.1.uc, ?_⟩
      rw [← Option.some.inj hr, (keptByAbort_abortOperation cfg env t _).thread]
      rfl
    all_goals cases hr
  cases trap_effect h with
  | fpTrap hopen hours hq => exact hsettle hq
  | brkTrap hours hq => exact hsettle hq
  | expiry htimers hours => exact ⟨_, rfl⟩

end

end Proc

inductive ProcEvent where
  | trap (t : Nat) (e : ThreadEvent)
  /-- Thread `t` creates thread `u`. -/
  | pthreadCreate (t u : Nat)
  | setUp (t : Nat) (env : Env)
  | pthreadExit (t : Nat)
  /-- A thread has left libc's `pthread_exit`. -/
  | gone (t : Nat)
  | sigint (t : Nat)

def Proc.step (cfg : Config A) (libc : Libc A) (p : Proc A) : ProcEvent → Option (Proc A)
  | .trap t e => (p.thread t).bind fun l => p.trap cfg t l e
  | .pthreadCreate t u => (p.thread t).bind fun l =>
    if l.phase ≠ .newborn ∧ u ≠ 0 ∧ (p.thread u).isNone then
      some { p with thread := Function.update p.thread u (some (p.child l)) }
    else none
  | .setUp t env => (p.thread t).bind fun l =>
    if l.phase = .newborn then some (p.setUp cfg env libc t l) else none
  | .pthreadExit t => (p.thread t).bind fun l =>
    if l.phase ≠ .newborn then some (p.pthreadExit cfg t l) else none
  | .gone t => (p.thread t).bind fun l =>
    if l.phase = .exiting then some { p with thread := Function.update p.thread t none } else none
  | .sigint t => (p.thread t).bind fun _ =>
    if (p.globals.sigaction .sigint).handler = .sigintHandler then p.sigintHandler cfg t else none

inductive ProcEffect (cfg : Config A) (libc : Libc A) (p : Proc A) : ProcEvent → Proc A → Prop where
  | trap {t e l q} (hl : p.thread t = some l) (hq : p.trap cfg t l e = some q) :
      ProcEffect cfg libc p (.trap t e) q
  | pthreadCreate {t u l} (hl : p.thread t = some l) (hphase : l.phase ≠ .newborn) (hu : u ≠ 0)
      (hnew : p.thread u = none) :
      ProcEffect cfg libc p (.pthreadCreate t u)
        { p with thread := Function.update p.thread u (some (p.child l)) }
  | setUp {t env l} (hl : p.thread t = some l) (hphase : l.phase = .newborn) :
      ProcEffect cfg libc p (.setUp t env) (p.setUp cfg env libc t l)
  | pthreadExit {t l} (hl : p.thread t = some l) (hphase : l.phase ≠ .newborn) :
      ProcEffect cfg libc p (.pthreadExit t) (p.pthreadExit cfg t l)
  | gone {t l} (hl : p.thread t = some l) (hphase : l.phase = .exiting) :
      ProcEffect cfg libc p (.gone t) { p with thread := Function.update p.thread t none }
  | sigint {t l} (hl : p.thread t = some l) :
      ProcEffect cfg libc p (.sigint t) (p.fpspyDeinit cfg t)

/-- These are all the kinds. -/
theorem Proc.step_effect {cfg : Config A} {libc : Libc A} {p q : Proc A} {e : ProcEvent}
    (h : p.step cfg libc e = some q) : ProcEffect cfg libc p e q := by
  cases e with
  | trap t e =>
    obtain ⟨l, hl, h⟩ := Option.bind_eq_some_iff.mp h
    exact .trap hl h
  | pthreadCreate t u =>
    obtain ⟨l, hl, h⟩ := Option.bind_eq_some_iff.mp h
    split_ifs at h with hc
    exact Option.some.inj h ▸ .pthreadCreate hl hc.1 hc.2.1 (Option.isNone_iff_eq_none.mp hc.2.2)
  | setUp t env =>
    obtain ⟨l, hl, h⟩ := Option.bind_eq_some_iff.mp h
    split_ifs at h with hphase
    exact Option.some.inj h ▸ .setUp hl hphase
  | pthreadExit t =>
    obtain ⟨l, hl, h⟩ := Option.bind_eq_some_iff.mp h
    split_ifs at h with hphase
    exact Option.some.inj h ▸ .pthreadExit hl hphase
  | gone t =>
    obtain ⟨l, hl, h⟩ := Option.bind_eq_some_iff.mp h
    split_ifs at h with hphase
    exact Option.some.inj h ▸ .gone hl hphase
  | sigint t =>
    obtain ⟨l, hl, h⟩ := Option.bind_eq_some_iff.mp h
    split_ifs at h
    unfold Proc.sigintHandler at h
    split at h
    · exact Option.some.inj h ▸ .sigint hl
    · cases h

/-- A thread only comes by being created. -/
theorem Proc.isSome_of_step {cfg : Config A} {libc : Libc A} {p q : Proc A} {e : ProcEvent}
    (h : p.step cfg libc e = some q) {u : Nat} (hu : (q.thread u).isSome = true) :
    (p.thread u).isSome = true ∨ ∃ t, e = .pthreadCreate t u := by
  cases Proc.step_effect h with
  | trap hl hq =>
    obtain ⟨uc, hthread⟩ := thread_of_trap hq
    rw [hthread] at hu
    exact .inl (isSome_of_update hl _ hu)
  | @pthreadCreate t v =>
    by_cases huv : u = v
    · exact .inr ⟨t, by rw [huv]⟩
    · exact .inl (by simpa [huv] using hu)
  | setUp hl | pthreadExit hl | gone hl => exact .inl (isSome_of_update hl _ hu)
  | sigint => exact .inl hu

/-- No thread has the id zero. -/
theorem Proc.zero_of_step {cfg : Config A} {libc : Libc A} {p q : Proc A} {e : ProcEvent}
    (h : p.step cfg libc e = some q) (hzero : p.thread 0 = none) : q.thread 0 = none := by
  by_contra hlive
  rcases Proc.isSome_of_step h (Option.isSome_iff_ne_none.mpr hlive) with hp | ⟨t, rfl⟩
  · simp [hzero] at hp
  · cases Proc.step_effect h with
    | pthreadCreate hl hphase hu => exact hu rfl

abbrev System (A : Arch) := Nat → Option (Proc A)

inductive SystemEvent where
  | proc (pid : Nat) (e : ProcEvent)
  /-- Thread `t` of a process forks. -/
  | fork (pid t child : Nat)
  /-- A process is gone, for whatever reason. -/
  | die (pid : Nat)

namespace System

def step (cfg : Config A) (libc : Libc A) (s : System A) : SystemEvent → Option (System A)
  | .proc pid e => (s pid).bind fun p =>
    (p.step cfg libc e).map fun q => Function.update s pid (some q)
  | .fork pid t child => (s pid).bind fun p => (p.thread t).bind fun l =>
    if l.phase ≠ .newborn ∧ child ≠ 0 ∧ (s child).isNone then
      some (Function.update s child
        (some { p with thread := Function.update (fun _ => none) child (some (p.child l)) }))
    else none
  | .die pid => some (Function.update s pid none)

/-- One process is replaced, or gone. -/
theorem forall_update {I : Proc A → Prop} {s : System A} (h : ∀ pid p, s pid = some p → I p)
    {pid : Nat} {q : Option (Proc A)} (hq : ∀ p, q = some p → I p) :
    ∀ i p, Function.update s pid q i = some p → I p := by
  intro i p hp
  by_cases hi : i = pid
  · subst hi
    rw [Function.update_self] at hp
    exact hq p hp
  · rw [Function.update_of_ne hi] at hp
    exact h i p hp

/-- What holds of every process still does after an event, if a process keeps it in its own steps
and passes it on to a child. -/
theorem forall_of_step {cfg : Config A} {libc : Libc A} {I : Proc A → Prop} {s u : System A}
    {e : SystemEvent} (hstep : s.step cfg libc e = some u) (h : ∀ pid p, s pid = some p → I p)
    (hproc : ∀ pid e' p q, e = .proc pid e' → s pid = some p → p.step cfg libc e' = some q → I q)
    (hfork : ∀ pid t child p l, e = .fork pid t child → s pid = some p → p.thread t = some l →
      child ≠ 0 →
      I { p with thread := Function.update (fun _ => none) child (some (p.child l)) }) :
    ∀ pid p, u pid = some p → I p := by
  cases e with
  | proc pid e =>
    obtain ⟨p, hp, hstep⟩ := Option.bind_eq_some_iff.mp hstep
    obtain ⟨q, hq, rfl⟩ := Option.map_eq_some_iff.mp hstep
    refine forall_update h fun q' hq' => ?_
    exact Option.some.inj hq' ▸ hproc pid e p q rfl hp hq
  | fork pid t child =>
    obtain ⟨p, hp, hstep⟩ := Option.bind_eq_some_iff.mp hstep
    obtain ⟨l, hl, hstep⟩ := Option.bind_eq_some_iff.mp hstep
    split_ifs at hstep with hc
    obtain rfl := Option.some.inj hstep
    refine forall_update h fun q hq => ?_
    exact Option.some.inj hq ▸ hfork pid t child p l rfl hp hl hc.2.1
  | die pid =>
    obtain rfl := Option.some.inj hstep
    refine forall_update h fun p hp => ?_
    cases hp

def fresh (maxContexts pid : Nat) (uc : A.UContext) (inherited : Signal → SigAction)
    (code : Mem) : Proc A where
  globals := { Globals.start code with sigaction := inherited }
  table := List.replicate maxContexts .zero
  thread := Function.update (fun _ => none) pid (some ⟨uc, .running⟩)

def start (cfg : Config A) (env : Env) (pid : Nat) (p : Proc A) : System A :=
  Function.update (fun _ => none) pid (some (p.bringup cfg env pid))

end System
end FPSpy
