import FPSpy.Individual.Lifetime

/-!
# The context table describes its process

Within one process the contexts in `context[]` belong to its threads: a context comes with a
thread's set-up and goes in its `pthread_exit`, so that an id the kernel hands out again
finds no context of the thread that had it before. A forked child starts with a copy of its
parent's table, and with none of the threads in it: `fork` adds the child's own context and
leaves the others, where `fpspy_init` wipes the table before the first one.

The table also goes wrong where an abort initialises FPSpy again, after `fpspy_deinit`, in a
thread that has not been set up, or has already torn its context down.
-/
namespace FPSpy

section

variable {A : Arch} {cfg : Config A} {env : Env} {libc : Libc A}

namespace Proc

variable {p q : Proc A} {t u : Nat} {l : Live A} {f : Flow A}

/-- Every id in the table is that of one live thread, which has been set up in this process,
and looking a thread up finds its context. -/
structure Describes (p : Proc A) : Prop where
  distinct : Table.Distinct p.table
  live : ∀ c ∈ p.table, c.tid ≠ 0 → ∃ l, p.thread c.tid = some l ∧ l.phase = .running
  find : ∀ t, t ≠ 0 → ∀ c, Table.findMonitoringContext t p.table = some c ↔ c ∈ p.table ∧ c.tid = t

/-- The invariant: what a search finds belongs to a thread that has been set up. -/
structure Occupied (p : Proc A) : Prop where
  zero : p.thread 0 = none
  distinct : Table.Distinct p.table
  live : ∀ t, t ≠ 0 → ∀ c, Table.findMonitoringContext t p.table = some c →
    ∃ l, p.thread t = some l ∧ l.phase = .running

theorem Occupied.find_of_mem (h : p.Occupied) {c : MonitoringContext} (hc : c ∈ p.table)
    (ht : c.tid ≠ 0) : Table.findMonitoringContext c.tid p.table = some c := by
  obtain ⟨d, hd⟩ : ∃ d, Table.findMonitoringContext c.tid p.table = some d :=
    Option.isSome_iff_exists.mp (List.find?_isSome.mpr ⟨c, hc, by simp⟩)
  have hdt : d.tid = c.tid := by simpa using List.find?_some hd
  rw [hd, h.distinct.eq_of_mem (List.mem_of_find?_eq_some hd) hc hdt rfl ht]

theorem Occupied.describes (h : p.Occupied) : p.Describes where
  distinct := h.distinct
  live c hc ht := h.live c.tid ht c (h.find_of_mem hc ht)
  find t ht c := by
    constructor
    · intro hfind
      exact ⟨List.mem_of_find?_eq_some hfind, by simpa using List.find?_some hfind⟩
    · rintro ⟨hc, rfl⟩
      exact h.find_of_mem hc ht

/-- A thread that has not been set up, or is on its way out, has no context. -/
theorem Occupied.find_eq_none (h : p.Occupied) (ht : t ≠ 0)
    (hl : ∀ l, p.thread t = some l → l.phase ≠ .running) :
    Table.findMonitoringContext t p.table = none := by
  rw [Option.eq_none_iff_forall_not_mem]
  intro c hc
  obtain ⟨l, hthread, hphase⟩ := h.live t ht c hc
  exact hl l hthread hphase

/-- A step that only concerns thread `t`. -/
theorem Occupied.of_thread (h : p.Occupied) (hzero : q.thread 0 = none)
    (hdistinct : Table.Distinct q.table)
    (hself : ∀ c, Table.findMonitoringContext t q.table = some c →
      ∃ l, q.thread t = some l ∧ l.phase = .running)
    (hothers : ∀ u, u ≠ t → u ≠ 0 → q.thread u = p.thread u ∧
      Table.findMonitoringContext u q.table = Table.findMonitoringContext u p.table) :
    q.Occupied := by
  refine ⟨hzero, hdistinct, fun u hu c hc => ?_⟩
  by_cases hut : u = t
  · subst hut
    exact hself c hc
  · obtain ⟨hthread, hfind⟩ := hothers u hut hu
    rw [hthread]
    exact h.live u hu c (hfind ▸ hc)

/-! ## Handlers and aborts -/

theorem Occupied.put (h : p.Occupied) (hl : p.thread t = some l) : (p.put t l f).Occupied := by
  have ht : t ≠ 0 := by
    rintro rfl
    simp [h.zero] at hl
  refine h.of_thread (t := t) ?_ ?_ (fun c hc => ?_) fun u hu _ =>
    ⟨thread_put_of_ne f hu, find_put_of_ne f hu⟩
  · rw [thread_put_of_ne f ht.symm, h.zero]
  · cases hmc : f.mc with
    | none => simpa only [Proc.put, hmc] using h.distinct
    | some mc => simpa only [Proc.put, hmc] using h.distinct.store mc
  · -- a context that is written was there before
    obtain ⟨d, hd⟩ : ∃ d, Table.findMonitoringContext t p.table = some d := by
      cases hmc : f.mc with
      | none => exact ⟨c, by simpa only [Proc.put, hmc] using hc⟩
      | some mc =>
        simp only [Proc.put, hmc, Table.find_store_self] at hc
        obtain ⟨d, hd, -⟩ := Option.map_eq_some_iff.mp hc
        exact ⟨d, hd⟩
    obtain ⟨l', hl', hphase⟩ := h.live t ht d hd
    obtain rfl := Option.some.inj (hl.symm.trans hl')
    exact ⟨{ l with uc := f.uc }, by simp [Proc.put], hphase⟩

/-- After `bringup` the only context is that of the thread that ran it. -/
theorem occupied_bringup (hzero : p.thread 0 = none) (hl : p.thread t = some l)
    (hphase : l.phase = .running) : (p.bringup cfg env t).Occupied := by
  have ht : t ≠ 0 := by
    rintro rfl
    simp [hzero] at hl
  have hwiped : (⟨p.globals, Table.initMonitoringContexts p.table, p.thread⟩ : Proc A).Occupied :=
    ⟨hzero, Table.distinct_initMonitoringContexts _, fun u hu c hc => by
      simp [Table.find_initMonitoringContexts _ hu] at hc⟩
  refine hwiped.of_thread (t := t) ?_ ?_ (fun c _ => ?_) fun u hu hu₀ => ⟨?_, ?_⟩
  · rw [bringup_thread, hzero]
  · rw [bringup_table]
    exact hwiped.distinct.bringup (Table.find_initMonitoringContexts _ ht)
  · exact ⟨l, by rw [bringup_thread, hl], hphase⟩
  · rw [bringup_thread]
  · rw [bringup_table]
    exact Table.find_bringup_of_ne hu hu₀

/-- An abort that initialises FPSpy again needs a thread that has been set up. -/
theorem Occupied.abortOperation (h : p.Occupied) (hl : p.thread t = some l)
    (hphase : p.globals.inited = false → l.phase = .running) :
    (abortOperation (abortOps cfg env t) p).Occupied := by
  have hglobals : ∀ {r : Proc A} (g : Globals), r.Occupied →
      (⟨g, r.table, r.thread⟩ : Proc A).Occupied :=
    fun g hr => ⟨hr.zero, hr.distinct, hr.live⟩
  refine abortOperation_invariant (fun hi => occupied_bringup h.zero hl (hphase hi))
    ?_ ?_ ?_ ?_ ?_ ?_ h
  · exact fun _ hr => hr
  · exact fun _ hr => hglobals _ hr
  · intro r mc _ hr
    simp only [abortOps]
    split
    · exact hr
    · next hl' => exact hr.put hl'
  · exact fun _ hr => hr
  · exact fun _ hr => hglobals _ hr
  · exact fun _ hr => hglobals _ hr

theorem Occupied.settle {r : Flow A × HandlerExit} (h : p.Occupied) (hl : p.thread t = some l)
    (hphase : r.1.inited = false → l.phase = .running)
    (hstep : p.settle cfg env t l r = some q) : q.Occupied := by
  unfold Proc.settle at hstep
  split at hstep
  · obtain rfl := Option.some.inj hstep
    exact h.put hl
  · obtain rfl := Option.some.inj hstep
    have hput : (p.put t l r.1).thread t = some { l with uc := r.1.uc } := by simp [Proc.put]
    exact (h.put hl).abortOperation hput hphase
  all_goals cases hstep

/-! ## Steps -/

/-- Where FPSpy is not initialised, a trap comes to no thread before its set-up or after its
teardown: it would abort, and bring a context up for that thread. -/
def KeepsTable (p : Proc A) : ProcEvent → Prop
  | .trap t (.fpTrap _ _) | .trap t (.brkTrap _) =>
    p.globals.inited = false → ∀ l ∈ p.thread t, l.phase = .running
  | _ => True

instance (p : Proc A) (e : ProcEvent) : Decidable (p.KeepsTable e) :=
  match e with
  | .trap t (.fpTrap _ _) | .trap t (.brkTrap _) =>
    inferInstanceAs (Decidable (_ = false → ∀ l ∈ p.thread t, _))
  | .trap _ (.expiry _) | .pthreadCreate _ _ | .setUp _ _ | .pthreadExit _ | .gone _ | .sigint _ =>
    isTrue trivial

theorem Occupied.trap {e : ThreadEvent} (h : p.Occupied) (hl : p.thread t = some l)
    (hkeeps : p.KeepsTable (.trap t e)) (hstep : p.trap cfg t l e = some q) : q.Occupied := by
  cases trap_effect hstep with
  | @fpTrap env siCode _ hopen hours hq =>
    refine h.settle hl (fun hi => ?_) hq
    have hframe := handlerFrame_fpTrapHandler cfg env siCode (p.flow t l)
    exact hkeeps (hframe.sameProcess.inited.symm.trans hi) l hl
  | @brkTrap env _ hours hq =>
    refine h.settle hl (fun hi => ?_) hq
    exact hkeeps ((handlerFrame_brkTrapHandler cfg env _).sameProcess.inited.symm.trans hi) l hl
  | expiry => exact h.put hl

theorem Occupied.setUp (h : p.Occupied) (hl : p.thread t = some l) (hphase : l.phase = .newborn) :
    (p.setUp cfg env libc t l).Occupied := by
  have ht : t ≠ 0 := by
    rintro rfl
    simp [h.zero] at hl
  have hnone : Table.findMonitoringContext t p.table = none := by
    refine h.find_eq_none ht fun l' hl' => ?_
    obtain rfl := Option.some.inj (hl.symm.trans hl')
    simp [hphase]
  refine h.of_thread (t := t) ?_ (h.distinct.bringup hnone) (fun c _ => ?_) fun u hu hu₀ => ⟨?_, ?_⟩
  · simp [Proc.setUp, ht.symm, h.zero]
  · exact ⟨⟨libc.feclearexceptEnabled l.uc, .running⟩, by simp [Proc.setUp], rfl⟩
  · simp [Proc.setUp, hu]
  · exact Table.find_bringup_of_ne hu hu₀

theorem Occupied.teardown (h : p.Occupied) (ht : t ≠ 0) {g : Globals}
    {thread : Nat → Option (Live A)} (hothers : ∀ u, u ≠ t → thread u = p.thread u) :
    (⟨g, (Table.teardownMonitoringContext cfg t p.table).1, thread⟩ : Proc A).Occupied := by
  refine h.of_thread (t := t) ?_ h.distinct.teardown (fun c hc => ?_) fun u hu hu₀ =>
    ⟨hothers u hu, Table.find_teardown_of_ne hu hu₀⟩
  · exact (hothers 0 ht.symm).trans h.zero
  · simp [Table.find_teardown_self ht] at hc

/-- A thread that has no context comes or goes. -/
theorem Occupied.thread (h : p.Occupied) (ht : t ≠ 0)
    (hl : ∀ l, p.thread t = some l → l.phase ≠ .running) (new : Option (Live A)) :
    (⟨p.globals, p.table, Function.update p.thread t new⟩ : Proc A).Occupied := by
  refine h.of_thread (t := t) ?_ h.distinct (fun c hc => ?_) fun u hu _ => ⟨by simp [hu], rfl⟩
  · simp [ht.symm, h.zero]
  · simp [h.find_eq_none ht hl] at hc

theorem Occupied.step {e : ProcEvent} (h : p.Occupied) (hkeeps : p.KeepsTable e)
    (hstep : p.step cfg libc e = some q) : q.Occupied := by
  have hne : ∀ {t l}, p.thread t = some l → t ≠ 0 := by
    rintro t l hl rfl
    simp [h.zero] at hl
  cases Proc.step_effect hstep with
  | trap hl hq => exact h.trap hl hkeeps hq
  | pthreadCreate hl hphase hu hnew =>
    refine h.thread hu (fun l' hl' => ?_) _
    simp [hnew] at hl'
  | setUp hl hphase => exact h.setUp hl hphase
  | pthreadExit hl => exact h.teardown (hne hl) fun u hu => by simp [hu]
  | gone hl hphase =>
    refine h.thread (hne hl) (fun l' hl' => ?_) none
    obtain rfl := Option.some.inj (hl.symm.trans hl')
    simp [hphase]
  | sigint hl =>
    unfold Proc.fpspyDeinit
    split_ifs
    · exact h.teardown (hne hl) fun _ _ => rfl
    · exact ⟨h.zero, h.distinct, h.live⟩

end Proc

namespace System

variable {s u : System A}

/-- No process forks while its table holds a context, and aborts keep to the threads that have
been set up. -/
def KeepsTables (s : System A) : SystemEvent → Prop
  | .proc pid e => ∀ p ∈ s pid, p.KeepsTable e
  | .fork pid _ _ => ∀ p ∈ s pid, ∀ c ∈ p.table, c.tid = 0
  | .die _ => True

instance (s : System A) (e : SystemEvent) : Decidable (KeepsTables s e) :=
  match e with
  | .proc pid e => inferInstanceAs (Decidable (∀ p ∈ s pid, p.KeepsTable e))
  | .fork pid _ _ => inferInstanceAs (Decidable (∀ p ∈ s pid, ∀ c ∈ p.table, c.tid = 0))
  | .die _ => isTrue trivial

def Occupied (s : System A) : Prop := ∀ pid p, s pid = some p → p.Occupied

theorem Occupied.step {e : SystemEvent} (h : Occupied s) (hkeeps : KeepsTables s e)
    (hstep : s.step cfg libc e = some u) : Occupied u := by
  apply forall_of_step hstep h
  · rintro pid e' p q rfl hp hq
    exact (h pid p hp).step (hkeeps p hp) hq
  · rintro pid t child p l rfl hp hl hchild
    refine ⟨by simp [hchild.symm], (h pid p hp).distinct, fun v hv c hfind => ?_⟩
    -- the copy of an empty table is empty
    have hzero : c.tid = 0 := hkeeps p hp c (List.mem_of_find?_eq_some hfind)
    have htid : c.tid = v := by simpa using List.find?_some hfind
    exact absurd (htid.symm.trans hzero) hv

theorem occupied_start (cfg : Config A) (env : Env) (maxContexts : Nat) {pid : Nat} (hpid : pid ≠ 0)
    (uc : A.UContext) (inherited : Signal → SigAction) (code : Mem) :
    Occupied (start cfg env pid (fresh maxContexts pid uc inherited code)) := by
  intro i p hp
  by_cases hi : i = pid
  · subst hi
    simp only [start, Function.update_self, Option.some.injEq] at hp
    subst hp
    exact Proc.occupied_bringup (l := ⟨uc, .running⟩) (by simp [fresh, hpid.symm])
      (by simp [fresh]) rfl
  · simp [start, hi] at hp

/-- In every run in which no process forks with a context in its table, the table describes the
process, in every process. -/
theorem run_describes (cfg : Config A) (libc : Libc A) (env : Env) (maxContexts : Nat) {pid : Nat}
    (hpid : pid ≠ 0) (uc : A.UContext) (inherited : Signal → SigAction) (code : Mem)
    {es : List SystemEvent}
    (hadm : Run.Admits (step cfg libc) KeepsTables
      (start cfg env pid (fresh maxContexts pid uc inherited code)) es)
    (hrun : Run.run (step cfg libc) (start cfg env pid (fresh maxContexts pid uc inherited code))
      es = some u) {i : Nat} {p : Proc A} (hp : u i = some p) : p.Describes :=
  (Run.invariant_of_admits (I := Occupied) (fun _ _ _ hs hg hst => hs.step hg hst) hadm
    (occupied_start cfg env maxContexts hpid uc inherited code) hrun i p hp).describes

end System
end

/-! ## Forks on x64 -/

namespace X64

def interruptible : Proc x64 :=
  System.fresh 4 1 ⟨fun _ => 0, 0x1f80⟩ (fun s => if s = .sigint then ⟨.target 0, [], 0⟩ else .zero)
    fun _ => 0

def interruptAndFork : List SystemEvent :=
  [.proc 1 (.trap 1 (.brkTrap quietEnv)), .proc 1 (.pthreadCreate 1 2), .proc 1 (.setUp 2 quietEnv),
    .proc 1 (.pthreadExit 2), .proc 1 (.gone 2), .proc 1 (.pthreadCreate 1 2),
    .proc 1 (.setUp 2 quietEnv), .proc 1 (.pthreadExit 2), .proc 1 (.sigint 1), .fork 1 1 3,
    .proc 3 (.setUp 3 quietEnv), .proc 3 (.pthreadCreate 3 4), .proc 3 (.setUp 4 quietEnv)]

theorem run_describes_interruptAndFork :
    ∃ u p, Run.run (System.step plain libc) (System.start plain quietEnv 1 interruptible)
        interruptAndFork = some u ∧ u 3 = some p ∧ p.table.map (·.tid) = [3, 4, 0, 0] ∧
      p.Describes := by
  have hrun : ((Run.run (System.step plain libc) (System.start plain quietEnv 1 interruptible)
      interruptAndFork).bind (· 3)).map (·.table.map (·.tid)) = some [3, 4, 0, 0] := by decide
  obtain ⟨p, hp, htids⟩ := Option.map_eq_some_iff.mp hrun
  obtain ⟨u, hu, hp⟩ := Option.bind_eq_some_iff.mp hp
  refine ⟨u, p, hu, hp, htids,
    System.run_describes plain libc quietEnv 4 (by decide) _ _ _ ?_ hu hp⟩
  exact Run.admits_of_check (g := fun s e => decide (System.KeepsTables s e))
    (fun s e h => by simpa using h) (by decide)

/-- A monitored program forks: thread 1, which the child does not have, keeps its context. -/
theorem not_describes_fork :
    ∃ u p, Run.run (System.step plain libc) (System.start plain quietEnv 1 interruptible)
        [.proc 1 (.trap 1 (.brkTrap quietEnv)), .fork 1 1 2, .proc 2 (.setUp 2 quietEnv)] =
          some u ∧ u 2 = some p ∧ ¬ p.Describes := by
  have hrun : ((Run.run (System.step plain libc) (System.start plain quietEnv 1 interruptible)
      [.proc 1 (.trap 1 (.brkTrap quietEnv)), .fork 1 1 2, .proc 2 (.setUp 2 quietEnv)]).bind
        (· 2)).map (fun p => (p.table.map (·.tid), (p.thread 1).isSome)) =
      some ([1, 2, 0, 0], false) := by decide
  obtain ⟨p, hp, hval⟩ := Option.map_eq_some_iff.mp hrun
  obtain ⟨u, hu, hp⟩ := Option.bind_eq_some_iff.mp hp
  obtain ⟨htids, hthread⟩ := Prod.mk.inj hval
  refine ⟨u, p, hu, hp, fun h => ?_⟩
  obtain ⟨c, hc, htid⟩ := List.mem_map.mp (htids ▸ (by decide : 1 ∈ [1, 2, 0, 0]))
  obtain ⟨l, hl, -⟩ := h.live c hc (by simp [htid])
  simp [htid ▸ hl] at hthread

end X64
end FPSpy
