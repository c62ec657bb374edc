import FPSpy.Individual.TraceFiles
import FPSpy.Lib.Journal
import FPSpy.Machine.X64

/-!
# No record is lost at exit

`fpspy_deinit` flushes the buffer of the thread that runs it and of no other. Nothing is lost
or repeated in a run in which a process exits only while the buffers of its other threads
are empty, nobody pushes after that, and no new thread has the id of a context that is
already in the table (a fork leaves such contexts behind).

The open logs are a `Journals`, one for each live thread with a context.
-/
namespace FPSpy

section

variable {A : Arch} {cfg : Config A}

def Files.Orderly (s : Files) : FileEvent → Prop
  | .pthreadCreate pid _ u => ∀ p, s.proc pid = some p →
    Table.findMonitoringContext u p.table = none
  | .fork pid _ child => ∀ p, s.proc pid = some p →
    Table.findMonitoringContext child p.table = none
  | .push pid _ _ => ∀ p, s.proc pid = some p → p.inited = true
  | .exit pid t => ∀ p, s.proc pid = some p → ∀ u mc, u ≠ t → (p.thread u).isSome →
    Table.findMonitoringContext u p.table = some mc → mc.traceRecords = []
  | .setUp _ _ _ | .pthreadExit _ _ | .gone _ => True

/-! ## The open logs -/

namespace FileProc

variable {p q : FileProc} {t u : Nat}

def log (p : FileProc) (t : Nat) : Option (Nat × List TraceRecord) :=
  if (p.thread t).isSome then
    (Table.findMonitoringContext t p.table).bind fun mc => (p.own t).map fun x =>
      (x, mc.traceRecords)
  else none

theorem log_of_find_none (h : Table.findMonitoringContext t p.table = none) : p.log t = none := by
  simp [log, h]

theorem log_of_thread_none (h : p.thread t = none) : p.log t = none := by
  simp [log, h]

theorem log_congr (hthread : q.thread u = p.thread u)
    (hfind : Table.findMonitoringContext u q.table = Table.findMonitoringContext u p.table)
    (hown : q.own u = p.own u) : q.log u = p.log u := by
  simp only [log, hthread, hfind, hown]

structure Sound (cfg : Config A) (created : Nat) (p : FileProc) : Prop where
  zero : p.thread 0 = none
  newborn : ∀ t, p.thread t = some .newborn → Table.findMonitoringContext t p.table = none
  distinct : Table.Distinct p.table
  drained : Table.Drained cfg.traceBuflen p.table
  files : ∀ t x, p.own t = some x → x < created
  context : ∀ t mc, (p.thread t).isSome → Table.findMonitoringContext t p.table = some mc →
    ∃ x, p.own t = some x ∧ (p.inited = true → p.fds mc.fd = some x) ∧
      (p.inited = false → mc.traceRecords = [])

/-- Creating files does no harm. -/
theorem Sound.mono {c d : Nat} (h : p.Sound cfg c) (hcd : c ≤ d) : p.Sound cfg d :=
  ⟨h.zero, h.newborn, h.distinct, h.drained, fun t x hx => (h.files t x hx).trans_le hcd, h.context⟩

theorem Sound.ne_zero {created : Nat} (h : p.Sound cfg created) (ht : (p.thread t).isSome) :
    t ≠ 0 := by
  rintro rfl
  simp [h.zero] at ht

theorem log_eq_some {x : Nat} {b : List TraceRecord} : p.log t = some (x, b) ↔
    ∃ mc, (p.thread t).isSome ∧ p.own t = some x ∧
      Table.findMonitoringContext t p.table = some mc ∧ mc.traceRecords = b := by
  simp only [log]
  split_ifs with h
  · simp only [Option.bind_eq_some_iff, Option.map_eq_some_iff, Prod.mk.injEq, h, true_and]
    constructor
    · rintro ⟨mc, hmc, x, hx, rfl, hb⟩
      exact ⟨mc, hx, hmc, hb⟩
    · rintro ⟨mc, hx, hmc, hb⟩
      exact ⟨mc, hmc, x, hx, rfl, hb⟩
  · simp [h]

variable {env : Env} {created : Nat}

theorem Sound.newborn_broughtUp (h : p.Sound cfg created) (hnew : p.thread t = some .newborn)
    (v : Nat) (hv : (p.broughtUp cfg env t).thread v = some .newborn) :
    Table.findMonitoringContext v (p.broughtUp cfg env t).table = none := by
  have hvt : v ≠ t := by
    rintro rfl
    simp [broughtUp] at hv
  simp only [broughtUp, Function.update_of_ne hvt] at hv ⊢
  rw [Table.find_bringup_of_ne hvt (h.ne_zero (by simp [hv]))]
  exact h.newborn v hv

theorem Sound.log_broughtUp_of_ne (h : p.Sound cfg created) {v : Nat} (hvt : v ≠ t) :
    (p.broughtUp cfg env t).log v = p.log v := by
  by_cases hv₀ : v = 0
  · subst hv₀
    rw [log_of_thread_none h.zero, log_of_thread_none (by simp [broughtUp, hvt, h.zero])]
  · exact log_congr (by simp [broughtUp, hvt]) (Table.find_bringup_of_ne hvt hv₀) rfl

/-- A bringup that succeeds, with the file it has opened. -/
theorem Sound.opened (h : p.Sound cfg created) (hfile : cfg.createMonitorFile = true)
    (hnew : p.thread t = some .newborn)
    (hok : (Table.bringupMonitoringContext cfg env t p.table).2 = true) {fd : Nat}
    (hfd : env.openFd = some fd) (hclosed : p.fds fd = none) :
    ((p.broughtUp cfg env t).opened t fd created).Sound cfg (created + 1) ∧
      ((p.broughtUp cfg env t).opened t fd created).log =
        Function.update p.log t (some (created, [])) := by
  have ht : t ≠ 0 := h.ne_zero (by simp [hnew])
  have hnone := h.newborn t hnew
  obtain ⟨slot, mc, n, hslot, hn, hmc, hmcfd, hbuffer⟩ := Table.find_bringup_self hfile hnone hok
  obtain rfl : n = fd := Option.some.inj (hn.symm.trans hfd)
  have hempty : mc.traceRecords = [] := by
    rw [hbuffer]
    exact h.drained slot (List.mem_of_find?_eq_some hslot)
      (.inl (by simpa using List.find?_some hslot))
  refine ⟨⟨by simp [FileProc.opened, broughtUp, ht.symm, h.zero], h.newborn_broughtUp hnew,
    h.distinct.bringup hnone, h.drained.bringup hnone, fun v x hx => ?_,
    fun v mc' hlive hmc' => ?_⟩, ?_⟩
  · by_cases hvt : v = t
    · subst hvt
      simp only [FileProc.opened, Function.update_self, Option.some.injEq] at hx
      exact hx ▸ Nat.lt_succ_self _
    · simp only [FileProc.opened, Function.update_of_ne hvt] at hx
      exact (h.files v x hx).trans (Nat.lt_succ_self _)
  · by_cases hvt : v = t
    · subst hvt
      obtain rfl := Option.some.inj (hmc.symm.trans hmc')
      exact ⟨created, by simp [FileProc.opened], fun _ => by simp [FileProc.opened, hmcfd],
        fun _ => hempty⟩
    · simp only [FileProc.opened, broughtUp, Function.update_of_ne hvt] at hlive hmc' ⊢
      rw [Table.find_bringup_of_ne hvt (h.ne_zero hlive)] at hmc'
      obtain ⟨x, hown, hopen, hdrop⟩ := h.context v mc' hlive hmc'
      refine ⟨x, hown, fun hi => ?_, hdrop⟩
      -- the new descriptor was not in use
      have hne : mc'.fd ≠ (n : Int) := by
        intro heq
        have := hopen hi
        rw [heq, hclosed] at this
        cases this
      rw [Function.update_of_ne hne]
      exact hopen hi
  · funext v
    by_cases hvt : v = t
    · subst hvt
      simp [log, FileProc.opened, broughtUp, hmc, hempty]
    · rw [Function.update_of_ne hvt, ← h.log_broughtUp_of_ne hvt]
      exact log_congr rfl rfl (by simp [FileProc.opened, hvt])

end FileProc

namespace Files

variable {s : Files} {pid t u : Nat} {p q : FileProc}

def journals (s : Files) : Journals (Nat × Nat) Nat TraceRecord where
  log i := (s.proc i.1).bind (·.log i.2)
  content := s.content
  pushed := s.pushed

theorem journals_eq {j : Journals (Nat × Nat) Nat TraceRecord} (hlog : s.journals.log = j.log)
    (hcontent : s.content = j.content) (hpushed : s.pushed = j.pushed) : s.journals = j := by
  cases j
  simp_all [journals]

theorem log_journals (hp : s.proc pid = some p) (t : Nat) : s.journals.log (pid, t) = p.log t := by
  simp [journals, hp]

/-- A process in which only the log of thread `t` changes. -/
theorem log_put (hp : s.proc pid = some p) {v : Option (Nat × List TraceRecord)}
    (hlog : q.log = Function.update p.log t v) :
    (s.put pid (some q)).journals.log = Function.update s.journals.log (pid, t) v := by
  funext ⟨i, u⟩
  by_cases hi : i = pid
  · subst hi
    simp only [journals, put, Function.update_self, Option.bind_some, hlog]
    by_cases hu : u = t
    · subst hu
      simp
    · rw [Function.update_of_ne hu, Function.update_of_ne (by simp [hu])]
      simp [hp]
  · rw [Function.update_of_ne (by simp [hi])]
    simp [journals, put, hi]

/-- A process in which no log changes. -/
theorem journals_put (hp : s.proc pid = some p) (hlog : q.log = p.log) :
    (s.put pid (some q)).journals = s.journals := by
  have hupd : q.log = Function.update p.log 0 (p.log 0) := by
    rw [hlog, Function.update_eq_self]
  have hput := log_put hp hupd
  rw [← log_journals hp, Function.update_eq_self] at hput
  exact journals_eq hput rfl rfl

structure Sound (cfg : Config A) (s : Files) : Prop where
  procs : ∀ pid p, s.proc pid = some p → p.Sound cfg s.created
  journals : s.journals.Consistent

variable (pid) in
/-- One process changes, along with the files. -/
theorem Sound.of_put {u : Files} (h : Sound cfg s)
    (hproc : u.proc = Function.update s.proc pid (some q)) (hcreated : u.created = s.created)
    (hq : q.Sound cfg s.created) (hj : u.journals.Consistent) : Sound cfg u := by
  refine ⟨fun i p hp => ?_, hj⟩
  rw [hproc] at hp
  rw [hcreated]
  by_cases hi : i = pid
  · subst hi
    rw [Function.update_self] at hp
    exact Option.some.inj hp ▸ hq
  · rw [Function.update_of_ne hi] at hp
    exact h.procs i p hp

/-! ## Teardown -/

structure TornDown (cfg : Config A) (t : Nat) (p q : FileProc) : Prop where
  find_self : Table.findMonitoringContext t q.table = none
  find : ∀ u, u ≠ t → u ≠ 0 →
    Table.findMonitoringContext u q.table = Table.findMonitoringContext u p.table
  own : q.own = p.own
  distinct : Table.Distinct q.table
  drained : Table.Drained cfg.traceBuflen q.table

theorem tornDown_teardown (h : Sound cfg s) (hfile : cfg.createMonitorFile = true)
    (hp : s.proc pid = some p) (ht : t ≠ 0) : TornDown cfg t p (s.teardown cfg t p).2 := by
  have hsound := h.procs pid p hp
  unfold teardown
  cases hmc : Table.findMonitoringContext t p.table with
  | none => exact ⟨hmc, fun _ _ _ => rfl, rfl, hsound.distinct, hsound.drained⟩
  | some mc =>
    exact
      { find_self := Table.find_teardown_self ht
        find := fun u hu hu₀ => Table.find_teardown_of_ne hu hu₀
        own := rfl
        distinct := hsound.distinct.teardown
        drained := hsound.drained.teardown hsound.distinct ht hfile }

/-- The teardown of a live thread writes its buffer to its own file. -/
theorem teardown_of_find (h : Sound cfg s) (hfile : cfg.createMonitorFile = true)
    (hp : s.proc pid = some p) (hlive : (p.thread t).isSome) {mc : MonitoringContext}
    (hmc : Table.findMonitoringContext t p.table = some mc) :
    ∃ x, p.log t = some (x, mc.traceRecords) ∧ (p.inited = true → p.fds mc.fd = some x) ∧
      (s.teardown cfg t p).1 =
        { s with content := Function.update s.content x (s.content x ++ mc.traceRecords) } := by
  have hsound := h.procs pid p hp
  obtain ⟨x, hown, hfd, hempty⟩ := hsound.context t mc hlive hmc
  have hflush := Trace.flush_eq cfg.traceBuflen fun hbuf =>
    hsound.drained mc (List.mem_of_find?_eq_some hmc) (.inr hbuf)
  have hwritten : (Table.teardownMonitoringContext cfg t p.table).2 = mc.traceRecords := by
    simp [Table.teardownMonitoringContext, hmc, hfile, hflush]
  refine ⟨x, by simp [FileProc.log, hlive, hmc, hown], hfd, ?_⟩
  simp only [teardown, hmc, hwritten, write]
  cases hi : p.inited with
  | true => rw [hfd hi]
  | false =>
    -- the buffer is empty, whatever the descriptor is now
    rw [hempty hi]
    cases p.fds mc.fd <;> simp

/-- After a teardown the log of the thread is closed. -/
theorem consistent_teardown (h : Sound cfg s) (hfile : cfg.createMonitorFile = true)
    (hp : s.proc pid = some p)
    (hlive : (p.thread t).isSome ∨ Table.findMonitoringContext t p.table = none)
    (hlog : q.log = Function.update p.log t none) :
    ((s.teardown cfg t p).1.put pid (some q)).journals.Consistent := by
  cases hmc : Table.findMonitoringContext t p.table with
  | none =>
    have hsame : (s.teardown cfg t p).1 = s := by simp [teardown, hmc]
    rw [hsame, journals_put hp]
    · exact h.journals
    · rw [hlog, Function.update_eq_self_iff, FileProc.log_of_find_none hmc]
  | some mc =>
    obtain ⟨x, hlogt, -, heq⟩ := teardown_of_find h hfile hp
      (hlive.resolve_right (by simp [hmc])) hmc
    have hclose := h.journals.close ((log_journals hp t).trans hlogt)
    have hjournals : ((s.teardown cfg t p).1.put pid (some q)).journals =
        s.journals.write (pid, t) x mc.traceRecords none := by
      rw [heq]
      exact journals_eq (log_put hp hlog) rfl rfl
    rw [hjournals]
    exact hclose

/-- Other threads keep their descriptors. -/
theorem fds_teardown (h : Sound cfg s) (hfile : cfg.createMonitorFile = true)
    (hp : s.proc pid = some p)
    (hlive : (p.thread t).isSome ∨ Table.findMonitoringContext t p.table = none)
    (hi : p.inited = true) {mc : MonitoringContext} {x : Nat} (hu : u ≠ t)
    (hlog : p.log u = some (x, mc.traceRecords)) (hfd : p.fds mc.fd = some x) :
    (s.teardown cfg t p).2.fds mc.fd = some x := by
  unfold teardown
  cases hmc : Table.findMonitoringContext t p.table with
  | none => exact hfd
  | some mc' =>
    obtain ⟨y, hlogt, hfdt, -⟩ := teardown_of_find h hfile hp
      (hlive.resolve_right (by simp [hmc])) hmc
    have hne : mc.fd ≠ mc'.fd := by
      intro heq
      have hxy : x = y := Option.some.inj ((hfd.symm.trans (congrArg p.fds heq)).trans (hfdt hi))
      subst hxy
      have := h.journals.own _ _ _ _ _ ((log_journals hp u).trans hlog)
        ((log_journals hp t).trans hlogt)
      exact hu (Prod.mk.inj this).2
    simp [Function.update_of_ne hne, hfd]

/-! ## Steps -/

theorem Sound.pthreadCreate (h : Sound cfg s) (hp : s.proc pid = some p) (hu₀ : u ≠ 0)
    (hnone : Table.findMonitoringContext u p.table = none) :
    Sound cfg (s.put pid
      (some { p with thread := Function.update p.thread u (some .newborn) })) := by
  have hsound := h.procs pid p hp
  refine h.of_put _ rfl rfl ⟨by simp [hu₀.symm, hsound.zero], fun v hv => ?_, hsound.distinct,
    hsound.drained, hsound.files, fun v mc hlive hmc => ?_⟩ ?_
  · by_cases hvu : v = u
    · exact hvu ▸ hnone
    · exact hsound.newborn v (by simpa [hvu] using hv)
  · have hvu : v ≠ u := by
      rintro rfl
      simp [hnone] at hmc
    exact hsound.context v mc (by simpa [hvu] using hlive) hmc
  · rw [journals_put hp]
    · exact h.journals
    · funext v
      by_cases hvu : v = u
      · subst hvu
        rw [FileProc.log_of_find_none hnone]
        exact FileProc.log_of_find_none hnone
      · exact FileProc.log_congr (by simp [hvu]) rfl rfl

/-- A set-up that fails leaves the thread without a context. -/
theorem Sound.setUp_failed (h : Sound cfg s) (hp : s.proc pid = some p) {env : Env}
    (hnew : p.thread t = some .newborn)
    (hfail : (Table.bringupMonitoringContext cfg env t p.table).2 = false) :
    Sound cfg (s.put pid (some (p.broughtUp cfg env t))) := by
  have hsound := h.procs pid p hp
  have ht : t ≠ 0 := hsound.ne_zero (by simp [hnew])
  have hnone := hsound.newborn t hnew
  have hnone' := Table.find_bringup_of_failed ht hnone hfail
  refine h.of_put _ rfl rfl ⟨by simp [FileProc.broughtUp, ht.symm, hsound.zero],
    hsound.newborn_broughtUp hnew, hsound.distinct.bringup hnone, hsound.drained.bringup hnone,
    hsound.files, fun v mc hlive hmc => ?_⟩ ?_
  · have hvt : v ≠ t := by
      rintro rfl
      simp [FileProc.broughtUp, hnone'] at hmc
    simp only [FileProc.broughtUp, Function.update_of_ne hvt] at hlive
    rw [FileProc.broughtUp, Table.find_bringup_of_ne hvt (hsound.ne_zero hlive)] at hmc
    exact hsound.context v mc hlive hmc
  · rw [journals_put hp]
    · exact h.journals
    · funext v
      by_cases hvt : v = t
      · subst hvt
        rw [FileProc.log_of_find_none hnone]
        exact FileProc.log_of_find_none hnone'
      · exact hsound.log_broughtUp_of_ne hvt

/-- No log is open on a file that does not exist yet. -/
theorem Sound.log_ne_created (h : Sound cfg s) (k : Nat × Nat) (b : List TraceRecord) :
    s.journals.log k ≠ some (s.created, b) := by
  intro hk
  obtain ⟨q, hq, hlog⟩ := Option.bind_eq_some_iff.mp hk
  obtain ⟨-, -, hown, -⟩ := FileProc.log_eq_some.mp hlog
  exact Nat.lt_irrefl _ ((h.procs _ q hq).files _ _ hown)

/-- A set-up that succeeds opens a log on a new file. -/
theorem Sound.setUp_ok (h : Sound cfg s) (hfile : cfg.createMonitorFile = true)
    (hp : s.proc pid = some p) {env : Env} (hnew : p.thread t = some .newborn)
    (hok : (Table.bringupMonitoringContext cfg env t p.table).2 = true) {fd : Nat}
    (hfd : env.openFd = some fd) (hclosed : p.fds fd = none) :
    Sound cfg { s.put pid (some ((p.broughtUp cfg env t).opened t fd s.created)) with
      created := s.created + 1 } := by
  have hsound := h.procs pid p hp
  have hnone := hsound.newborn t hnew
  obtain ⟨hq, hlog⟩ := hsound.opened hfile hnew hok hfd hclosed
  refine ⟨fun i q hi => ?_, ?_⟩
  · by_cases hipid : i = pid
    · subst hipid
      simp only [Files.put, Function.update_self, Option.some.injEq] at hi
      exact hi ▸ hq
    · simp only [Files.put, Function.update_of_ne hipid] at hi
      exact (h.procs i q hi).mono (Nat.le_succ _)
  · have hstart : (s.journals.start (pid, t) s.created).Consistent := by
      refine h.journals.start ?_ h.log_ne_created
      rw [log_journals hp, FileProc.log_of_find_none hnone]
    have hput : (s.put pid (some ((p.broughtUp cfg env t).opened t fd s.created))).journals =
        s.journals.start (pid, t) s.created := journals_eq (log_put hp hlog) rfl rfl
    rw [← hput] at hstart
    exact hstart

theorem Sound.push {r : TraceRecord} {u : Files} (h : Sound cfg s) (hp : s.proc pid = some p)
    (hlive : (p.thread t).isSome) (hi : p.inited = true) (hstep : s.push cfg pid t p r = some u) :
    Sound cfg u := by
  have hsound := h.procs pid p hp
  have ht : t ≠ 0 := hsound.ne_zero hlive
  obtain ⟨mc, hmc, rfl⟩ := Option.map_eq_some_iff.mp hstep
  obtain ⟨x, hown, hfd, -⟩ := hsound.context t mc hlive hmc
  have hbuf : cfg.traceBuflen = 0 → mc.traceRecords = [] := fun hbuf =>
    hsound.drained mc (List.mem_of_find?_eq_some hmc) (.inr hbuf)
  generalize hpush : Trace.pushTraceRecord cfg.traceBuflen mc.traceRecords r = w
  have hwritten : w.written ++ w.buffer = mc.traceRecords ++ [r] :=
    hpush ▸ Trace.push_written_append _ _ _ hbuf
  have hbuffer : cfg.traceBuflen = 0 → w.buffer = [] := fun h₀ =>
    hpush ▸ Trace.push_buffer_eq_nil h₀ (hbuf h₀) r
  simp only [write, hfd hi, hown]
  have hfind : Table.findMonitoringContext t
      (Table.store t { mc with traceRecords := w.buffer } p.table) =
        some { mc with traceRecords := w.buffer, tid := t } := by
    rw [Table.find_store_self, hmc, Option.map_some]
  refine h.of_put pid rfl rfl ⟨hsound.zero, fun v hv => ?_, hsound.distinct.store _,
    hsound.drained.store ht hbuffer, hsound.files, fun v mc' hv hmc' => ?_⟩ ?_
  · have hvt : v ≠ t := by
      rintro rfl
      simp [hsound.newborn v hv] at hmc
    rw [Table.find_store_of_ne _ hvt]
    exact hsound.newborn v hv
  · by_cases hvt : v = t
    · subst hvt
      obtain rfl := Option.some.inj (hfind.symm.trans hmc')
      exact ⟨x, hown, hfd, fun hno => by simp [hi] at hno⟩
    · rw [Table.find_store_of_ne _ hvt] at hmc'
      exact hsound.context v mc' hv hmc'
  · have hlog : ({ p with
        table := Table.store t { mc with traceRecords := w.buffer } p.table } : FileProc).log =
        Function.update p.log t (some (x, w.buffer)) := by
      funext v
      by_cases hvt : v = t
      · subst hvt
        simp [FileProc.log, hlive, hfind, hown]
      · rw [Function.update_of_ne hvt]
        exact FileProc.log_congr rfl (Table.find_store_of_ne _ hvt) rfl
    have hlogt : s.journals.log (pid, t) = some (x, mc.traceRecords) := by
      rw [log_journals hp]
      exact FileProc.log_eq_some.mpr ⟨mc, hlive, hown, hmc, rfl⟩
    have hj := journals_eq (j := s.journals.push (pid, t) x r w.written w.buffer)
      (s := { s.put pid (some { p with
          table := Table.store t { mc with traceRecords := w.buffer } p.table }) with
        content := Function.update s.content x (s.content x ++ w.written)
        pushed := Function.update s.pushed x (s.pushed x ++ [r]) }) (log_put hp hlog) rfl rfl
    have hpushed := h.journals.push hlogt hwritten
    rw [← hj] at hpushed
    exact hpushed

/-- The log of a thread that is torn down closes, whether the thread goes on or not. -/
theorem log_tornDown (hsound : p.Sound cfg s.created) (h : TornDown cfg t p q)
    (hthread : ∀ u, u ≠ t → q.thread u = p.thread u) : q.log = Function.update p.log t none := by
  funext v
  by_cases hvt : v = t
  · subst hvt
    rw [Function.update_self]
    exact FileProc.log_of_find_none h.find_self
  rw [Function.update_of_ne hvt]
  by_cases hv₀ : v = 0
  · subst hv₀
    rw [FileProc.log_of_thread_none hsound.zero,
      FileProc.log_of_thread_none ((hthread 0 hvt).trans hsound.zero)]
  · exact FileProc.log_congr (hthread v hvt) (h.find v hvt hv₀) (congrFun h.own v)

theorem proc_teardown (cfg : Config A) (s : Files) (t : Nat) (p : FileProc) :
    (s.teardown cfg t p).1.proc = s.proc ∧ (s.teardown cfg t p).1.created = s.created ∧
      (s.teardown cfg t p).2.thread = p.thread ∧ (s.teardown cfg t p).2.inited = p.inited := by
  unfold teardown write
  split
  · exact ⟨rfl, rfl, rfl, rfl⟩
  · dsimp only
    split <;> exact ⟨rfl, rfl, rfl, rfl⟩

theorem Sound.of_tornDown (h : Sound cfg s) (hfile : cfg.createMonitorFile = true)
    (hp : s.proc pid = some p) (ht : t ≠ 0)
    (hlive : (p.thread t).isSome ∨ Table.findMonitoringContext t p.table = none)
    (hdown : TornDown cfg t p q) (hthread : ∀ u, u ≠ t → q.thread u = p.thread u)
    (hcontext : ∀ u mc x, u ≠ t → (p.thread u).isSome →
      Table.findMonitoringContext u p.table = some mc → p.own u = some x →
      (q.inited = true → q.fds mc.fd = some x) ∧ (q.inited = false → mc.traceRecords = [])) :
    Sound cfg ((s.teardown cfg t p).1.put pid (some q)) := by
  have hsound := h.procs pid p hp
  obtain ⟨hproc, hcreated, -⟩ := proc_teardown cfg s t p
  refine h.of_put _ (by rw [Files.put, hproc]) hcreated ⟨(hthread 0 ht.symm).trans hsound.zero,
    fun v hv => ?_, hdown.distinct, hdown.drained, hdown.own ▸ hsound.files,
    fun v mc hv hmc => ?_⟩
    (consistent_teardown h hfile hp hlive (log_tornDown hsound hdown hthread))
  · by_cases hvt : v = t
    · exact hvt ▸ hdown.find_self
    · rw [hthread v hvt] at hv
      rw [hdown.find v hvt (hsound.ne_zero (by simp [hv]))]
      exact hsound.newborn v hv
  · have hvt : v ≠ t := by
      rintro rfl
      simp [hdown.find_self] at hmc
    rw [hthread v hvt] at hv
    rw [hdown.find v hvt (hsound.ne_zero hv)] at hmc
    obtain ⟨x, hown, -⟩ := hsound.context v mc hv hmc
    exact ⟨x, hdown.own ▸ hown, hcontext v mc x hvt hv hmc hown⟩

theorem Sound.pthreadExit (h : Sound cfg s) (hfile : cfg.createMonitorFile = true)
    (hp : s.proc pid = some p) (hlive : (p.thread t).isSome) :
    Sound cfg (s.pthreadExit cfg pid t p) := by
  have hsound := h.procs pid p hp
  have ht : t ≠ 0 := hsound.ne_zero hlive
  have hdown := tornDown_teardown h hfile hp ht
  obtain ⟨-, -, hthread, hinited⟩ := proc_teardown cfg s t p
  refine h.of_tornDown hfile hp ht (.inl hlive) ⟨hdown.find_self, hdown.find, hdown.own,
    hdown.distinct, hdown.drained⟩ (fun u hu => by simp [hu, hthread])
    fun u mc x hu hv hmc hown => ?_
  obtain ⟨y, hown', hopen, hdrop⟩ := hsound.context u mc hv hmc
  obtain rfl : x = y := Option.some.inj (hown.symm.trans hown')
  refine ⟨fun hi => ?_, fun hi => hdrop (hinited.symm.trans hi)⟩
  have hi' := hinited.symm.trans hi
  exact fds_teardown h hfile hp (.inl hlive) hi' hu
    (FileProc.log_eq_some.mpr ⟨mc, hv, hown, hmc, rfl⟩) (hopen hi')

theorem Sound.fpspyDeinit (h : Sound cfg s) (hfile : cfg.createMonitorFile = true)
    (hp : s.proc pid = some p) (ht : t ≠ 0)
    (hlive : (p.thread t).isSome ∨ Table.findMonitoringContext t p.table = none)
    (hempty : ∀ u mc, u ≠ t → (p.thread u).isSome →
      Table.findMonitoringContext u p.table = some mc → mc.traceRecords = []) :
    Sound cfg (s.fpspyDeinit cfg pid t p) := by
  have hdown := tornDown_teardown h hfile hp ht
  obtain ⟨-, -, hthread, -⟩ := proc_teardown cfg s t p
  unfold Files.fpspyDeinit
  split_ifs
  · refine h.of_tornDown hfile hp ht hlive ⟨hdown.find_self, hdown.find, hdown.own,
      hdown.distinct, hdown.drained⟩ (fun u _ => by simp [hthread]) fun u mc x hu hv hmc _ => ?_
    exact ⟨nofun, fun _ => hempty u mc hu hv hmc⟩
  · exact h

theorem Sound.fork {child : Nat} (h : Sound cfg s) (hp : s.proc pid = some p) (hchild : child ≠ 0)
    (hfree : s.proc child = none) (hnone : Table.findMonitoringContext child p.table = none) :
    Sound cfg (s.put child
      (some { p with thread := Function.update (fun _ => none) child (some .newborn) })) := by
  have hsound := h.procs pid p hp
  have honly : ∀ v, (Function.update (fun _ => none) child (some Phase.newborn) v).isSome →
      v = child := by
    intro v hv
    by_contra hne
    simp [hne] at hv
  refine h.of_put _ rfl rfl ⟨by simp [hchild.symm], fun v hv => ?_, hsound.distinct, hsound.drained,
    hsound.files, fun v mc hv hmc => ?_⟩ ?_
  · obtain rfl := honly v (Option.isSome_iff_exists.mpr ⟨_, hv⟩)
    exact hnone
  · rw [honly v hv, hnone] at hmc
    cases hmc
  · -- the child has no log of its own yet
    have hlog : (s.put child (some { p with
        thread := Function.update (fun _ => none) child (some .newborn) })).journals.log =
          s.journals.log := by
      funext ⟨i, v⟩
      by_cases hi : i = child
      · subst hi
        simp only [Files.journals, Files.put, Function.update_self, Option.bind_some, hfree,
          Option.bind_none]
        by_cases hv : v = i
        · subst hv
          exact FileProc.log_of_find_none hnone
        · exact FileProc.log_of_thread_none (by simp [hv])
      · simp [Files.journals, Files.put, hi]
    rw [journals_eq hlog rfl rfl]
    exact h.journals

theorem Sound.gone (h : Sound cfg s) (hp : s.proc pid = some p) (hi : p.inited = false) :
    Sound cfg (s.put pid none) := by
  have hsound := h.procs pid p hp
  refine ⟨fun i q hq => ?_, ?_⟩
  · by_cases hipid : i = pid
    · subst hipid
      simp [Files.put] at hq
    · simp only [Files.put, Function.update_of_ne hipid] at hq
      exact h.procs i q hq
  · have hdrop := h.journals.drop (fun i => i.1 = pid) fun i x b hpid hlog => by
      obtain ⟨i, t⟩ := i
      subst hpid
      rw [log_journals hp] at hlog
      obtain ⟨mc, hlive, -, hmc, rfl⟩ := FileProc.log_eq_some.mp hlog
      obtain ⟨-, -, -, hempty⟩ := hsound.context t mc hlive hmc
      exact hempty hi
    have hlog : (s.put pid none).journals.log = (s.journals.drop fun i => i.1 = pid).log := by
      funext ⟨i, t⟩
      by_cases hi : i = pid
      · simp [Files.journals, Files.put, Journals.drop, hi]
      · simp [Files.journals, Files.put, Journals.drop, hi]
    rw [journals_eq hlog rfl rfl]
    exact hdrop

/-- An orderly step keeps the invariant. -/
theorem Sound.step {e : FileEvent} {u : Files} (h : Sound cfg s)
    (hfile : cfg.createMonitorFile = true) (horderly : s.Orderly e)
    (hstep : s.step cfg e = some u) : Sound cfg u := by
  cases e with
  | pthreadCreate pid t v =>
    obtain ⟨p, hp, hstep⟩ := Option.bind_eq_some_iff.mp hstep
    split_ifs at hstep with hc
    obtain rfl := Option.some.inj hstep
    exact h.pthreadCreate hp hc.2.1 (horderly p hp)
  | setUp pid t env =>
    obtain ⟨p, hp, hstep⟩ := Option.bind_eq_some_iff.mp hstep
    split_ifs at hstep with hnew
    unfold Files.setUp at hstep
    split at hstep
    · next fd hok hfd =>
      split_ifs at hstep with hclosed
      obtain rfl := Option.some.inj hstep
      exact h.setUp_ok hfile hp hnew hok hfd hclosed
    · next hfail =>
      obtain rfl := Option.some.inj hstep
      refine h.setUp_failed hp hnew ?_
      by_contra hok
      have hok' : (Table.bringupMonitoringContext cfg env t p.table).2 = true := by
        simpa using hok
      obtain ⟨-, -, n, -, hn, -⟩ :=
        Table.find_bringup_self hfile ((h.procs pid p hp).newborn t hnew) hok'
      exact hfail n hok' hn
  | push pid t r =>
    obtain ⟨p, hp, hstep⟩ := Option.bind_eq_some_iff.mp hstep
    split_ifs at hstep with hrun
    exact h.push hp (by simp [hrun]) (horderly p hp) hstep
  | pthreadExit pid t =>
    obtain ⟨p, hp, hstep⟩ := Option.bind_eq_some_iff.mp hstep
    split_ifs at hstep with hrun
    obtain rfl := Option.some.inj hstep
    exact h.pthreadExit hfile hp (by simp [hrun])
  | fork pid t child =>
    obtain ⟨p, hp, hstep⟩ := Option.bind_eq_some_iff.mp hstep
    split_ifs at hstep with hc
    obtain rfl := Option.some.inj hstep
    exact h.fork hp hc.2.1 (by simpa using hc.2.2) (horderly p hp)
  | exit pid t =>
    obtain ⟨p, hp, hstep⟩ := Option.bind_eq_some_iff.mp hstep
    split_ifs at hstep with hc
    obtain rfl := Option.some.inj hstep
    exact h.fpspyDeinit hfile hp hc.1 (hc.2.imp (fun hrun => by simp [hrun]) id) (horderly p hp)
  | gone pid =>
    obtain ⟨p, hp, hstep⟩ := Option.bind_eq_some_iff.mp hstep
    split_ifs at hstep with hi
    obtain rfl := Option.some.inj hstep
    exact h.gone hp hi

theorem sound_fresh (cfg : Config A) (maxContexts : Nat) (hpid : pid ≠ 0) :
    (FileProc.fresh maxContexts pid).Sound cfg 0 := by
  have hfind : ∀ v, v ≠ 0 → Table.findMonitoringContext v
      (FileProc.fresh maxContexts pid).table = none := by
    intro v hv
    simp [FileProc.fresh, Table.findMonitoringContext, MonitoringContext.zero, hv.symm]
  have honly : ∀ v, ((FileProc.fresh maxContexts pid).thread v).isSome → v = pid := by
    intro v hv
    by_contra hne
    simp [FileProc.fresh, hne] at hv
  refine ⟨by simp [FileProc.fresh, hpid.symm], fun v hv => ?_, ?_, fun c hc _ => ?_,
    by simp [FileProc.fresh], fun v mc hv hmc => ?_⟩
  · exact hfind v (honly v (by simp [hv]) ▸ hpid)
  · exact List.pairwise_replicate.mpr (.inr fun _ => rfl)
  · rw [List.eq_of_mem_replicate hc]
    rfl
  · simp [hfind v (honly v hv ▸ hpid)] at hmc

theorem sound_start (hfile : cfg.createMonitorFile = true) (env : Env) (maxContexts fd : Nat)
    (hpid : pid ≠ 0) : Sound cfg (start cfg env maxContexts pid fd) := by
  have hp : (unmonitored maxContexts pid).proc pid = some (.fresh maxContexts pid) := by
    simp [unmonitored]
  have hfresh := sound_fresh cfg maxContexts hpid
  have hlog : ∀ i, (unmonitored maxContexts pid).journals.log i = none := by
    rintro ⟨i, v⟩
    by_cases hi : i = pid
    · subst hi
      rw [log_journals hp]
      by_cases hv : v = i
      · subst hv
        exact FileProc.log_of_find_none (hfresh.newborn v (by simp [FileProc.fresh]))
      · exact FileProc.log_of_thread_none (by simp [FileProc.fresh, hv])
    · simp [journals, unmonitored, hi]
  have hunmonitored : Sound cfg (unmonitored maxContexts pid) := by
    refine ⟨fun i p hi => ?_, fun i x b hi => ?_, fun i k x b c hi => ?_, fun x _ => rfl⟩
    · by_cases hipid : i = pid
      · subst hipid
        exact Option.some.inj (hp.symm.trans hi) ▸ hfresh
      · simp [unmonitored, hipid] at hi
    · simp [hlog i] at hi
    · simp [hlog i] at hi
  refine hunmonitored.setUp_ok hfile hp (by simp [FileProc.fresh]) ?_ rfl rfl
  simp [Table.bringupMonitoringContext, FileProc.fresh, Table.findMonitoringContext,
    List.replicate_succ, MonitoringContext.zero, FPSpy.bringupMonitoringContext, hfile]

end Files

end

/-! ## Exits on x64 -/

namespace X64

end X64
end FPSpy
