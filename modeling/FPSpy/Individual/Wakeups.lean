import FPSpy.Individual.SharedSignal
import FPSpy.Individual.Supervision
import FPSpy.Monitor.Timer

/-!
# One timer for all samplers

Every context has its own sampler, and a wakeup to come: the timer, or an expiry that has
been noted. But `setitimer` has one timer for the process, and its signal is the process's
too. A thread that starts the timer takes it from the thread that waits for it, and a thread
that does not block the signal may take the expiry another one waits for.

So every sampler keeps running where a thread only starts the timer while the signal can
come to no other thread.
-/
namespace FPSpy

section

variable {A : Arch} {cfg : Config A} {env : Env} {libc : Libc A}

/-- A process, the threads that block the timer's signal, and whether it is pending. -/
structure Timed (A : Arch) extends Masked A where
  pending : Bool

inductive TimerEvent where
  /-- What does not concern the timer's signal. -/
  | proc (e : ProcEvent)
  /-- The timer runs out. -/
  | expire
  /-- Thread `t` takes the signal. -/
  | deliver (t : Nat) (env : Env)
  /-- Thread `t` blocks the signal, or unblocks it. -/
  | mask (t : Nat) (b : Bool)

namespace Timed

def step (cfg : Config A) (libc : Libc A) (s : Timed A) : TimerEvent → Option (Timed A)
  | .proc (.trap _ (.expiry _)) => none
  | .proc e => (s.toMasked.step cfg libc e).map fun q => { s with toMasked := q }
  | .expire =>
    if s.globals.itimer.armed then
      some { s with globals := { s.globals with itimer := .expired }, pending := true }
    else none
  | .deliver t env =>
    if s.pending = true ∧ s.blocks t = false then
      (s.thread t).bind fun l => (s.toProc.trap cfg t l (.expiry env)).map fun q =>
        { s with toProc := q, pending := false }
    else none
  | .mask t b => (s.toMasked.mask t b).map fun q => { s with toMasked := q }

def start (cfg : Config A) (env : Env) (pid : Nat) (blocks : Nat → Bool) (p : Proc A) :
    Timed A where
  toProc := p.bringup cfg env pid
  pending := false
  blocks := blocks

def Ticking (s : Timed A) : Prop := s.globals.itimer.armed = true ∨ s.pending = true

def Handled (cfg : Config A) (s : Timed A) : Prop :=
  (s.globals.sigaction cfg.alarmSig).handler = .sigalrmHandler

/-- A wakeup is outstanding for the context of thread `t`: one has been noted, or one is to come
that goes to that thread and to its handler. -/
def Outstanding (cfg : Config A) (s : Timed A) (t : Nat) (mc : MonitoringContext) : Prop :=
  mc.sampler.delayedProcessing = true ∨ (s.Ticking ∧ s.Sole t ∧ s.Handled cfg)

/-- Every context that has not aborted has a wakeup outstanding. -/
def AllOutstanding (cfg : Config A) (s : Timed A) : Prop :=
  ∀ t, t ≠ 0 → ∀ mc, Table.findMonitoringContext t s.table = some mc → mc.state ≠ .abort →
    s.Outstanding cfg t mc

/-- Thread `t` waits for the timer: its context has no expiry noted. -/
def Waits (s : Timed A) (t : Nat) : Prop :=
  t ≠ 0 ∧ ∃ mc ∈ Table.findMonitoringContext t s.table,
    mc.state ≠ .abort ∧ mc.sampler.delayedProcessing = false

/-- The condition. A thread starts the timer in its set-up, in `update_sampler`, and where an abort
initialises FPSpy again, if these succeed: only while the signal can come to no other thread, and a
set-up only where FPSpy handles the signal. A thread that comes or changes its mask leaves the
signal to the one that waits for it. -/
def Exclusive (cfg : Config A) (s : Timed A) : TimerEvent → Prop
  | .proc (.trap t (.fpTrap env _)) => s.globals.inited = false → env.Opens cfg →
    (∀ mc ∈ Table.findMonitoringContext t s.table, mc.state ≠ .awaitFpe) → s.Sole t
  | .proc (.trap t (.brkTrap env)) =>
    ((∃ mc ∈ Table.findMonitoringContext t s.table,
        mc.state = .awaitTrap ∧ mc.sampler.delayedProcessing = true) ∨
      (s.globals.inited = false ∧ env.Opens cfg ∧
        ∀ mc ∈ Table.findMonitoringContext t s.table, mc.state = .awaitFpe)) → s.Sole t
  | .proc (.setUp t env) => (Table.bringupMonitoringContext cfg env t s.table).2 = true →
    s.Sole t ∧ s.Handled cfg
  | .proc (.pthreadCreate t u) => ∀ v, s.Waits v → s.CreateLeaves t u v
  | .deliver t _ =>
    (∃ mc ∈ Table.findMonitoringContext t s.table, mc.state = .awaitFpe) → s.Sole t
  | .mask t b => ∀ v, s.Waits v → s.MaskLeaves t b v
  | _ => True

/-- `next_exp` draws an interval. -/
def Draws : TimerEvent → Prop
  | .proc (.setUp _ env) | .proc (.trap _ (.fpTrap env _)) | .proc (.trap _ (.brkTrap env)) =>
    env.draw ≠ 0
  | _ => True

instance (e : TimerEvent) : Decidable (Draws e) :=
  match e with
  | .proc (.setUp _ env) | .proc (.trap _ (.fpTrap env _)) | .proc (.trap _ (.brkTrap env)) =>
    inferInstanceAs (Decidable (env.draw ≠ 0))
  | .proc (.trap _ (.expiry _)) | .proc (.pthreadCreate _ _) | .proc (.pthreadExit _)
  | .proc (.gone _) | .proc (.sigint _) | .expire | .deliver _ _ | .mask _ _ => isTrue trivial

/-! ## What a step leaves alone -/

variable {s u : Timed A} {t : Nat} {l : Live A} {mc : MonitoringContext} {f g : Flow A}

/-- The invariant: a context that has not aborted has a wakeup outstanding, and FPSpy handles the
signal. -/
def Awake (cfg : Config A) (s : Timed A) : Prop :=
  ∀ t, t ≠ 0 → ∀ mc, Table.findMonitoringContext t s.table = some mc → mc.state ≠ .abort →
    s.Handled cfg ∧ s.Outstanding cfg t mc

structure OnlyThread (cfg : Config A) (t : Nat) (s u : Timed A) : Prop where
  handled : s.Handled cfg → u.Handled cfg
  ticking : s.Ticking → u.Ticking
  sole : ∀ v, s.Waits v → s.Sole v → u.Sole v
  others : ∀ v, v ≠ t → v ≠ 0 →
    Table.findMonitoringContext v u.table = Table.findMonitoringContext v s.table

theorem Outstanding.mono (h : OnlyThread cfg t s u) {v : Nat} (hv : v ≠ 0)
    (hfind : Table.findMonitoringContext v s.table = some mc) (hstate : mc.state ≠ .abort)
    (hout : s.Outstanding cfg v mc) : u.Outstanding cfg v mc := by
  by_cases hd : mc.sampler.delayedProcessing = true
  · exact .inl hd
  · obtain ⟨htick, hsole, hhandled⟩ := hout.resolve_left hd
    have hwaits : s.Waits v := ⟨hv, mc, hfind, hstate, by simpa using hd⟩
    exact .inr ⟨h.ticking htick, h.sole v hwaits hsole, h.handled hhandled⟩

theorem Awake.of_thread (h : s.Awake cfg) (ho : OnlyThread cfg t s u)
    (hself : t ≠ 0 → ∀ mc, Table.findMonitoringContext t u.table = some mc → mc.state ≠ .abort →
      u.Handled cfg ∧ u.Outstanding cfg t mc) : u.Awake cfg := by
  intro v hv mc hfind hstate
  by_cases hvt : v = t
  · subst hvt
    exact hself hv mc hfind hstate
  · rw [ho.others v hvt hv] at hfind
    obtain ⟨hhandled, hout⟩ := h v hv mc hfind hstate
    exact ⟨ho.handled hhandled, hout.mono ho hv hfind hstate⟩

/-- A step that leaves the sampler of thread `t` alone. -/
theorem Awake.of_same (h : s.Awake cfg) (ho : OnlyThread cfg t s u)
    (hself : ∀ mc', Table.findMonitoringContext t u.table = some mc' →
      ∃ mc, Table.findMonitoringContext t s.table = some mc ∧ mc'.sampler = mc.sampler ∧
        (mc'.state ≠ .abort → mc.state ≠ .abort)) : u.Awake cfg := by
  refine h.of_thread ho fun ht mc' hfind hstate => ?_
  obtain ⟨mc, hmc, hsampler, hlive⟩ := hself mc' hfind
  obtain ⟨hhandled, hout⟩ := h t ht mc hmc (hlive hstate)
  have hnew := hout.mono ho ht hmc (hlive hstate)
  rw [Outstanding, ← hsampler] at hnew
  exact ⟨ho.handled hhandled, hnew⟩

/-! ## Handlers -/

theorem onlyThread_put (hl : s.thread t = some l)
    (hhandled : (s.globals.sigaction cfg.alarmSig).handler = .sigalrmHandler →
      (g.sigaction cfg.alarmSig).handler = .sigalrmHandler)
    (htick : s.globals.itimer.armed = true → g.itimer.armed = true) :
    OnlyThread cfg t s { s with toProc := s.toProc.put t l g } where
  handled := hhandled
  ticking := Or.imp_left htick
  sole _ _ h := h.mono (fun _ => Proc.isSome_of_update hl _)
  others _ hv _ := Proc.find_put_of_ne g hv

theorem Awake.put (h : s.Awake cfg) (hl : s.thread t = some l)
    (hsame : SameSampler (s.toProc.flow t l) g) :
    Awake cfg { s with toProc := s.toProc.put t l g } := by
  refine h.of_same (onlyThread_put hl (by rw [hsame.sigaction]; exact id)
    (by rw [hsame.itimer]; exact id)) fun mc' hfind => ?_
  cases hg : g.mc with
  | none =>
    have hnone : Table.findMonitoringContext t s.table = none := hsame.bare hg
    simp [Proc.put, hg, hnone] at hfind
  | some mg =>
    obtain ⟨mc, hmc, hsampler, hlive⟩ := hsame.context mg hg
    have hold : Table.findMonitoringContext t s.table = some mc := hmc
    simp only [Proc.put, hg, Table.find_store_self, hold, Option.map_some,
      Option.some.injEq] at hfind
    subst hfind
    exact ⟨mc, hold, hsampler, hlive⟩

/-- A handler that starts the timer for a thread to which alone its signal can come. -/
theorem Awake.of_started (h : s.Awake cfg)
    (hmc : Table.findMonitoringContext t s.table = some mc) (hstate : mc.state ≠ .abort)
    (hl : s.thread t = some l) (hsole : s.Sole t) (hsig : g.sigaction = s.globals.sigaction)
    (harmed : g.itimer.armed = true) : Awake cfg { s with toProc := s.toProc.put t l g } := by
  have ho : OnlyThread cfg t s { s with toProc := s.toProc.put t l g } :=
    onlyThread_put hl (by rw [hsig]; exact id) fun _ => harmed
  refine h.of_thread ho fun ht mc' _ _ => ?_
  have hhandled := ho.handled (h t ht mc hmc hstate).1
  exact ⟨hhandled, .inr ⟨.inl harmed, hsole.mono (fun _ => Proc.isSome_of_update hl _), hhandled⟩⟩

/-! ## Aborts -/

/-- A bringup starts the timer, for the only context there is then. -/
theorem awake_bringup (htimers : cfg.timers = true) (hdraw : env.draw ≠ 0)
    (hsole : env.Opens cfg → s.Sole t) :
    Awake cfg { s with toProc := s.toProc.bringup cfg env t } := by
  have hwiped : ∀ v, v ≠ 0 →
      Table.findMonitoringContext v (Table.initMonitoringContexts s.table) = none :=
    fun v hv => Table.find_initMonitoringContexts s.table hv
  intro v hv mc hfind _
  simp only [Proc.bringup_table] at hfind
  have hvt : v = t := by
    by_contra hvt
    rw [Table.find_bringup_of_ne hvt hv, hwiped v hv] at hfind
    cases hfind
  subst hvt
  cases hup : (Table.bringupMonitoringContext cfg env v
      (Table.initMonitoringContexts s.table)).2 with
  | false =>
    rw [Table.find_bringup_of_failed hv (hwiped v hv) hup] at hfind
    cases hfind
  | true =>
    have hglobals : (s.toProc.bringup cfg env v).globals =
        { setupSignals cfg s.globals with itimer := oneShot env.draw, inited := true } := by
      rw [Proc.bringup_globals hup, if_pos htimers]
    have hhandled : Handled cfg { s with toProc := s.toProc.bringup cfg env v } := by
      simp only [Handled, hglobals, (setupSignals_spec cfg s.globals).alarm htimers]
      rfl
    refine ⟨hhandled, .inr ⟨.inl ?_, ?_, hhandled⟩⟩
    · simp only [hglobals]
      exact armed_oneShot hdraw
    · exact (hsole (Table.opens_of_bringup hup)).mono fun w => by
        rw [Proc.bringup_thread]
        exact id

/-- A step that touches neither the table nor the threads, the timer or its signal. -/
theorem Awake.globals (h : s.Awake cfg) (g : Globals) (hitimer : g.itimer = s.globals.itimer)
    (hsig : g.sigaction cfg.alarmSig = s.globals.sigaction cfg.alarmSig) :
    Awake cfg { s with globals := g } := by
  intro v hv mc hfind hstate
  obtain ⟨hhandled, hout⟩ := h v hv mc hfind hstate
  simp only [Outstanding, Ticking, Handled, hitimer, hsig] at hhandled hout ⊢
  exact ⟨hhandled, hout⟩

theorem Awake.abortOperation (h : s.Awake cfg) (htimers : cfg.timers = true)
    (hdraw : env.draw ≠ 0) (hsole : s.globals.inited = false → env.Opens cfg → s.Sole t) :
    Awake cfg { s with toProc := abortOperation (Proc.abortOps cfg env t) s.toProc } := by
  obtain ⟨hfpe, htrap⟩ := alarmSig_ne cfg
  refine abortOperation_invariant (P := fun q => Awake cfg { s with toProc := q })
    (fun hi => awake_bringup htimers hdraw (hsole hi)) ?_ ?_ ?_ ?_ ?_ ?_ h
  · exact fun _ hq => hq
  · exact fun q hq => hq.globals _ rfl (Function.update_of_ne hfpe _ _)
  · intro q mc hfind hq
    simp only [Proc.abortOps]
    split
    · exact hq
    · next l hl =>
      exact hq.put (s := { s with toProc := q }) hl (sameSampler_writeAbort cfg env hfind)
  · exact fun _ hq => hq
  · exact fun q hq => hq.globals _ rfl (Function.update_of_ne htrap _ _)
  · exact fun q hq => hq.globals _ rfl rfl

/-! ## Steps -/

/-- A handler that may abort at its end. -/
theorem Awake.settle {r : Flow A × HandlerExit} {q : Proc A}
    (h : Awake cfg { s with toProc := s.toProc.put t l r.1 }) (htimers : cfg.timers = true)
    (hdraw : env.draw ≠ 0) (hl : s.thread t = some l)
    (hsole : ∀ reason, r.2 = .abortOperation reason → r.1.inited = false → env.Opens cfg →
      s.Sole t)
    (hstep : s.toProc.settle cfg env t l r = some q) : Awake cfg { s with toProc := q } := by
  unfold Proc.settle at hstep
  split at hstep
  · obtain rfl := Option.some.inj hstep
    exact h
  · next reason hexit =>
    obtain rfl := Option.some.inj hstep
    exact h.abortOperation htimers hdraw fun hi hopens =>
      (hsole reason hexit hi hopens).mono (fun _ => Proc.isSome_of_update hl _)
  all_goals cases hstep

theorem Awake.trap {e : ThreadEvent} {q : Proc A} (h : s.Awake cfg) (htimers : cfg.timers = true)
    (hon : cfg.maxUsOn ≠ 0) (hoff : cfg.maxUsOff ≠ 0) (hl : s.thread t = some l)
    (hdraw : Draws (.proc (.trap t e))) (hexclusive : s.Exclusive cfg (.proc (.trap t e)))
    (he : ∀ env, e ≠ .expiry env)
    (hstep : s.toProc.trap cfg t l e = some q) : Awake cfg { s with toProc := q } := by
  cases Proc.trap_effect hstep with
  | @fpTrap env siCode _ hopen hours hq =>
    refine (h.put hl (sameSampler_fpTrapHandler cfg env siCode _)).settle htimers hdraw hl
      (fun reason hexit hi hopens => ?_) hq
    obtain ⟨hinited, hstate⟩ := Proc.fpTrapHandler_aborts hexit
    exact hexclusive (hinited.symm.trans hi) hopens hstate
  | @brkTrap env _ hours hq =>
    have haborts : ∀ reason, (brkTrapHandler cfg env (s.toProc.flow t l)).2 =
        .abortOperation reason → (brkTrapHandler cfg env (s.toProc.flow t l)).1.inited = false →
          env.Opens cfg → s.Sole t := by
      intro reason hexit hi hopens
      obtain ⟨hinited, hstate⟩ := Proc.brkTrapHandler_aborts hexit
      exact hexclusive (.inr ⟨hinited.symm.trans hi, hopens, hstate⟩)
    refine Awake.settle ?_ htimers hdraw hl haborts hq
    obtain hsame | ⟨mc, hmc, hstate, hd, hsig, hitimer⟩ :=
      brkTrapHandler_sampler cfg env (s.toProc.flow t l)
    · exact h.put hl hsame
    · have hown : s.Sole t := hexclusive (.inl ⟨mc, hmc, hstate, hd⟩)
      have hnext := armed_oneShot (nextInterval_ne_zero hon hoff mc.sampler.state env.draw)
      exact h.of_started hmc (by simp [hstate]) hl hown hsig (hitimer ▸ hnext)
  | @expiry env => exact absurd rfl (he env)

theorem Awake.deliver {q : Proc A} (h : s.Awake cfg) (hon : cfg.maxUsOn ≠ 0)
    (hoff : cfg.maxUsOff ≠ 0) (hl : s.thread t = some l) (hblocks : s.blocks t = false)
    (hexclusive : s.Exclusive cfg (.deliver t env))
    (hstep : s.toProc.trap cfg t l (.expiry env) = some q) :
    Awake cfg { s with toProc := q, pending := false } := by
  obtain _ | _ | ⟨-, hours⟩ := Proc.trap_effect hstep
  have hhandled : Handled cfg { s with
      toProc := s.toProc.put t l (sigalrmHandler cfg env (s.toProc.flow t l))
      pending := false } := by
    have hsame := (handlerFrame_sigalrmHandler cfg env (s.toProc.flow t l)).sameProcess
    simp only [Handled, Proc.put, hsame.sigaction]
    exact hours
  intro v hv mc hfind hstate
  refine ⟨hhandled, ?_⟩
  by_cases hvt : v = t
  · subst hvt
    cases hold : Table.findMonitoringContext v s.table with
    | none =>
      have hmc : (s.toProc.flow v l).mc = none := hold
      simp [Proc.put, sigalrmHandler, hmc, hold] at hfind
    | some old =>
      have hmc : (s.toProc.flow v l).mc = some old := hold
      obtain ⟨hs, hitimer⟩ | ⟨-, hnoted⟩ := sigalrmHandler_sampler cfg env hmc
      · have hown : s.Sole v := hexclusive ⟨old, hold, hs⟩
        have harmed := armed_oneShot (nextInterval_ne_zero hon hoff old.sampler.state env.draw)
        refine .inr ⟨.inl ?_, fun w hw hlive => ?_, hhandled⟩
        · simp only [Proc.put, hitimer, harmed]
        · exact hown w hw (Proc.isSome_of_update hl _ hlive)
      · simp only [Proc.put, hnoted, Table.find_store_self, hold, Option.map_some,
          Option.some.injEq] at hfind
        exact .inl (hfind ▸ rfl)
  · -- nobody else waits for a signal that this thread can take
    rw [Proc.find_put_of_ne _ hvt] at hfind
    refine .inl ((h v hv mc hfind hstate).2.resolve_right fun hwaits => ?_)
    have := (hwaits.2.1 t (Ne.symm hvt) (by simp [hl])).1
    simp [hblocks] at this

theorem Awake.setUp (h : s.Awake cfg) (htimers : cfg.timers = true) (hdraw : env.draw ≠ 0)
    (hl : s.thread t = some l)
    (hexclusive : (Table.bringupMonitoringContext cfg env t s.table).2 = true →
      s.Sole t ∧ s.Handled cfg) :
    Awake cfg { s with toProc := s.toProc.setUp cfg env libc t l } := by
  have ho : OnlyThread cfg t s { s with toProc := s.toProc.setUp cfg env libc t l } :=
    { handled := id
      ticking := Or.imp_left fun harmed => by
        simp only [Proc.setUp]
        split_ifs
        · exact armed_oneShot hdraw
        · exact harmed
      sole := fun _ _ h => h.mono (fun _ => Proc.isSome_of_update hl _)
      others := fun v hv hv₀ => Table.find_bringup_of_ne hv hv₀ }
  refine h.of_thread ho fun ht mc hfind hstate => ?_
  cases hup : (Table.bringupMonitoringContext cfg env t s.table).2 with
  | false =>
    have hold := Table.find_of_bringup_failed ht hup hfind
    obtain ⟨hhandled, hout⟩ := h t ht mc hold hstate
    exact ⟨hhandled, hout.mono ho ht hold hstate⟩
  | true =>
    obtain ⟨hsole, hhandled⟩ := hexclusive hup
    have harmed : (s.toProc.setUp cfg env libc t l).globals.itimer = oneShot env.draw := by
      simp [Proc.setUp, hup, htimers]
    exact ⟨hhandled, .inr ⟨.inl (harmed ▸ armed_oneShot hdraw),
      hsole.mono (fun _ => Proc.isSome_of_update hl _), hhandled⟩⟩

theorem Awake.teardown (h : s.Awake cfg) {g : Globals} {thread : Nat → Option (Live A)}
    (hitimer : g.itimer = s.globals.itimer) (hsig : g.sigaction = s.globals.sigaction)
    (hthread : ∀ w, (thread w).isSome = true → (s.thread w).isSome = true) :
    Awake cfg { s with
      globals := g
      table := (Table.teardownMonitoringContext cfg t s.table).1
      thread := thread } := by
  refine h.of_thread (t := t) ⟨?_, ?_, ?_, ?_⟩ fun ht mc hfind => ?_
  · simp only [Handled, hsig]
    exact id
  · simp only [Ticking, hitimer]
    exact id
  · exact fun v _ hsole => hsole.mono (q := ⟨g, _, thread⟩) hthread
  · exact fun v hv hv₀ => Table.find_teardown_of_ne hv hv₀
  · rw [Table.find_teardown_self ht] at hfind
    cases hfind

/-- A step that only concerns the threads that can take the signal. -/
theorem Awake.of_sole {thread : Nat → Option (Live A)} {blocks : Nat → Bool} (h : s.Awake cfg)
    (hsole : ∀ v, s.Waits v → s.Sole v →
      Masked.Sole { s with thread := thread, blocks := blocks } v) :
    Awake cfg { s with thread := thread, blocks := blocks } :=
  h.of_thread (t := 0) ⟨id, id, hsole, fun _ _ _ => rfl⟩ fun ht => absurd rfl ht

/-- What a step needs of the timer: it is used, and its intervals are not zero. -/
structure Runs (cfg : Config A) : Prop where
  timers : cfg.timers = true
  on : cfg.maxUsOn ≠ 0
  off : cfg.maxUsOff ≠ 0

theorem step_proc {e : ProcEvent} (h : s.step cfg libc (.proc e) = some u) :
    (∀ t env, e ≠ .trap t (.expiry env)) ∧ ∃ q, s.toProc.step cfg libc e = some q ∧
      u = { s with toProc := q, blocks := s.blocksAfter e } := by
  have hmap : (∀ t env, e ≠ .trap t (.expiry env)) ∧
      (s.toMasked.step cfg libc e).map (fun q => { s with toMasked := q }) = some u := by
    cases e with
    | trap t e =>
      cases e with
      | expiry env => cases h
      | fpTrap | brkTrap => exact ⟨by simp, h⟩
    | _ => exact ⟨by simp, h⟩
  obtain ⟨r, hr, rfl⟩ := Option.map_eq_some_iff.mp hmap.2
  obtain ⟨q, hq, rfl⟩ := Option.map_eq_some_iff.mp hr
  exact ⟨hmap.1, q, hq, rfl⟩

theorem Awake.step {e : TimerEvent} (hcfg : Runs cfg) (h : s.Awake cfg) (hdraw : Draws e)
    (hexclusive : s.Exclusive cfg e) (hstep : s.step cfg libc e = some u) : u.Awake cfg := by
  cases e with
  | expire =>
    simp only [Timed.step] at hstep
    split_ifs at hstep
    obtain rfl := Option.some.inj hstep
    intro v hv mc hfind hstate
    obtain ⟨hhandled, hout⟩ := h v hv mc hfind hstate
    exact ⟨hhandled, hout.imp_right fun hwaits => ⟨.inr rfl, hwaits.2⟩⟩
  | deliver t env =>
    simp only [Timed.step] at hstep
    split_ifs at hstep with hc
    obtain ⟨l, hl, hstep⟩ := Option.bind_eq_some_iff.mp hstep
    obtain ⟨q, hq, rfl⟩ := Option.map_eq_some_iff.mp hstep
    exact h.deliver hcfg.on hcfg.off hl hc.2 hexclusive hq
  | mask t b =>
    obtain ⟨q, hq, rfl⟩ := Option.map_eq_some_iff.mp hstep
    unfold Masked.mask at hq
    split_ifs at hq
    obtain rfl := Option.some.inj hq
    exact h.of_sole fun v hwaits hv => hv.mask (hexclusive v hwaits)
  | proc e =>
    obtain ⟨hne, q, hq, rfl⟩ := step_proc hstep
    cases Proc.step_effect hq with
    | @trap t e l _ hl hq =>
      exact h.trap hcfg.timers hcfg.on hcfg.off hl hdraw hexclusive (by simpa using hne t) hq
    | pthreadCreate =>
      exact h.of_sole fun v hwaits hv => hv.create (hexclusive v hwaits)
    | setUp hl => exact h.setUp hcfg.timers hdraw hl hexclusive
    | pthreadExit hl => exact h.teardown rfl rfl fun _ => Proc.isSome_of_update hl _
    | @gone t l hl hphase =>
      refine h.of_same (t := t) ⟨id, id, fun _ _ hv => ?_, fun _ _ _ => rfl⟩ fun mc hmc =>
        ⟨mc, hmc, rfl, id⟩
      exact hv.mono fun _ => Proc.isSome_of_update hl none
    | sigint =>
      unfold Proc.fpspyDeinit
      split_ifs
      · exact h.teardown rfl rfl fun _ => id
      · exact h.globals _ rfl rfl

theorem awake_start (htimers : cfg.timers = true) (hdraw : env.draw ≠ 0) (pid : Nat)
    (maxContexts : Nat) (blocks : Nat → Bool) (uc : A.UContext) (inherited : Signal → SigAction)
    (code : Mem) :
    Awake cfg (start cfg env pid blocks (System.fresh maxContexts pid uc inherited code)) := by
  refine awake_bringup (s := ⟨⟨System.fresh maxContexts pid uc inherited code, blocks⟩, false⟩)
    htimers hdraw fun _ u hu hlive => ?_
  simp [System.fresh, hu] at hlive

/-- In every run in which a thread only starts the timer while its signal can come to no other,
and `next_exp` never draws zero, every context that has not aborted has a wakeup outstanding. -/
theorem run_allOutstanding (hcfg : Runs cfg) (libc : Libc A) (hdraw : env.draw ≠ 0) (pid : Nat)
    (maxContexts : Nat) (blocks : Nat → Bool) (uc : A.UContext) (inherited : Signal → SigAction)
    (code : Mem) {es : List TimerEvent} (hdraws : ∀ e ∈ es, Draws e)
    (hadm : Run.Admits (step cfg libc) (Exclusive cfg)
      (start cfg env pid blocks (System.fresh maxContexts pid uc inherited code)) es)
    (hrun : Run.run (step cfg libc)
      (start cfg env pid blocks (System.fresh maxContexts pid uc inherited code)) es = some u) :
    u.AllOutstanding cfg := by
  have hawake : u.Awake cfg :=
    Run.invariant_of_admits (I := Awake cfg) (fun _ _ _ hs hg hst => hs.step hcfg hg.1 hg.2 hst)
      (hadm.and_of_forall hdraws)
      (awake_start hcfg.timers hdraw pid maxContexts blocks uc inherited code) hrun
  exact fun t ht mc hfind hstate => (hawake t ht mc hfind hstate).2

/-! ## Testing the condition -/

def allWaiting (s : Timed A) (test : Nat → Bool) : Bool :=
  s.table.all fun c =>
    c.tid == 0 || c.state == .abort || c.sampler.delayedProcessing || test c.tid

/-- A test that is enough for `Exclusive`, where there are only threads below `n`. -/
def exclusiveBelow (n : Nat) (cfg : Config A) (s : Timed A) : TimerEvent → Bool
  | .proc (.trap t (.fpTrap _ _)) => s.globals.inited || s.soleBelow n t
  | .proc (.trap t (.brkTrap _)) => (s.globals.inited &&
      !(Table.findMonitoringContext t s.table).any fun mc =>
        mc.state == .awaitTrap && mc.sampler.delayedProcessing) || s.soleBelow n t
  | .proc (.setUp t _) => s.soleBelow n t &&
    (s.globals.sigaction cfg.alarmSig).handler == .sigalrmHandler
  | .proc (.pthreadCreate t u) => decide (u < n) &&
    allWaiting s fun v => v != u && s.blocks t && !s.blocks v
  | .deliver t _ =>
    !((Table.findMonitoringContext t s.table).any fun mc => mc.state == .awaitFpe) ||
      s.soleBelow n t
  | .mask t b => allWaiting s fun v => b == (v != t)
  | _ => true

variable {n : Nat} {e : TimerEvent}

theorem of_allWaiting {test : Nat → Bool} (h : s.allWaiting test = true) {v : Nat}
    (hv : s.Waits v) : test v = true := by
  obtain ⟨hv₀, mc, hmc, hstate, hd⟩ := hv
  have htid : mc.tid = v := by simpa using List.find?_some hmc
  have htest := List.all_eq_true.mp h mc (List.mem_of_find?_eq_some hmc)
  simpa [htid, hv₀, hstate, hd] using htest

theorem exclusive_of_exclusiveBelow (hn : s.Below n) (h : s.exclusiveBelow n cfg e = true) :
    s.Exclusive cfg e := by
  unfold exclusiveBelow at h
  split at h
  · intro hi _ _
    exact Masked.sole_of_soleBelow hn (by simpa [hi] using h)
  · intro hstarts
    rcases Bool.or_eq_true_iff.mp h with hidle | hsole
    · obtain ⟨hinited, hnone⟩ := Bool.and_eq_true_iff.mp hidle
      rcases hstarts with ⟨mc, hmc, hstate, hd⟩ | ⟨hi, -⟩
      · rw [Option.mem_def.mp hmc] at hnone
        simp [hstate, hd] at hnone
      · simp [hi] at hinited
    · exact Masked.sole_of_soleBelow hn hsole
  · intro _
    obtain ⟨hsole, hhandled⟩ := Bool.and_eq_true_iff.mp h
    exact ⟨Masked.sole_of_soleBelow hn hsole, by simpa [Handled] using hhandled⟩
  · obtain ⟨-, hall⟩ := Bool.and_eq_true_iff.mp h
    intro v hv
    simpa [Masked.CreateLeaves, and_assoc] using of_allWaiting hall hv
  · rintro ⟨mc, hmc, hstate⟩
    rw [Option.mem_def.mp hmc] at h
    exact Masked.sole_of_soleBelow hn (by simpa [hstate] using h)
  · intro v hv
    exact Masked.maskLeaves_of_ne (by simpa using of_allWaiting h hv)
  · unfold Exclusive
    split <;> simp_all

theorem below_step (hn : s.Below n) (htest : s.exclusiveBelow n cfg e = true)
    (hstep : s.step cfg libc e = some u) : u.Below n := by
  cases e with
  | expire =>
    simp only [Timed.step] at hstep
    split_ifs at hstep
    obtain rfl := Option.some.inj hstep
    exact hn
  | deliver t env =>
    simp only [Timed.step] at hstep
    split_ifs at hstep
    obtain ⟨l, hl, hstep⟩ := Option.bind_eq_some_iff.mp hstep
    obtain ⟨q, hq, rfl⟩ := Option.map_eq_some_iff.mp hstep
    have hq : s.toProc.step cfg libc (.trap t (.expiry env)) = some q := by
      simp only [Proc.step, hl, Option.bind_some, hq]
    exact hn.step (by simp) hq
  | mask t b =>
    obtain ⟨q, hq, rfl⟩ := Option.map_eq_some_iff.mp hstep
    unfold Masked.mask at hq
    split_ifs at hq
    obtain rfl := Option.some.inj hq
    exact hn
  | proc e =>
    obtain ⟨-, q, hq, rfl⟩ := step_proc hstep
    refine hn.step ?_ hq
    rintro t w rfl
    simp only [exclusiveBelow, Bool.and_eq_true, decide_eq_true_eq] at htest
    exact htest.1

end Timed
end

/-! ## Two threads on x64 -/

namespace X64

def timed : Config x64 := { plain with timers := true }

def tickEnv : Env := ⟨0, 0, 0, 1, some 3⟩

def timedProgram : Proc x64 := System.fresh 4 1 ⟨fun _ => 0, 0x1f80⟩ (fun _ => .zero) fun _ => 0

/-- Thread 1 notes an expiry within a step, and leaves the timer to thread 2 until that notes
one in its turn. -/
def takeTurns : List TimerEvent :=
  [.proc (.trap 1 (.brkTrap tickEnv)), .proc (.trap 1 (.fpTrap tickEnv 0)), .expire,
    .deliver 1 tickEnv, .proc (.pthreadCreate 1 2), .mask 1 true, .proc (.setUp 2 tickEnv),
    .proc (.trap 2 (.brkTrap tickEnv)), .proc (.trap 2 (.fpTrap tickEnv 0)), .expire,
    .deliver 2 tickEnv, .mask 2 true, .mask 1 false, .proc (.trap 1 (.brkTrap tickEnv)), .expire,
    .deliver 1 tickEnv]

theorem exclusive_takeTurns :
    Run.Admits (Timed.step timed libc) (Timed.Exclusive timed)
      (Timed.start timed tickEnv 1 (fun _ => false) timedProgram) takeTurns := by
  refine Run.admits_of_check_of_invariant (J := fun s => s.Below 3)
    (fun _ _ _ hn htest hstep => Timed.below_step hn htest hstep)
    (fun _ _ hn htest => Timed.exclusive_of_exclusiveBelow hn htest) (fun u hu => ?_) (by decide)
  have hne : u ≠ 1 := by omega
  simp [Timed.start, Proc.bringup_thread, timedProgram, System.fresh, hne]

theorem run_allOutstanding_takeTurns :
    ∃ u, Run.run (Timed.step timed libc)
        (Timed.start timed tickEnv 1 (fun _ => false) timedProgram) takeTurns = some u ∧
      u.AllOutstanding timed := by
  have hrun : (Run.run (Timed.step timed libc)
      (Timed.start timed tickEnv 1 (fun _ => false) timedProgram) takeTurns).isSome = true := by
    decide
  obtain ⟨u, hu⟩ := Option.isSome_iff_exists.mp hrun
  refine ⟨u, hu, Timed.run_allOutstanding ⟨rfl, by decide, by decide⟩ libc (by decide) 1 4
    (fun _ => false) _ _ _ (by decide) exclusive_takeTurns hu⟩

/-- Thread 2 starts the timer anew and takes its next expiry: thread 1 waits for one that will
not come. -/
theorem not_allOutstanding_secondThread :
    ∃ u, Run.run (Timed.step timed libc)
        (Timed.start timed tickEnv 1 (fun _ => false) timedProgram)
        [.proc (.trap 1 (.brkTrap tickEnv)), .proc (.pthreadCreate 1 2),
          .proc (.setUp 2 tickEnv), .expire, .deliver 2 tickEnv] = some u ∧
      ¬ u.Ticking ∧ ¬ u.AllOutstanding timed := by
  have hrun : (Run.run (Timed.step timed libc)
      (Timed.start timed tickEnv 1 (fun _ => false) timedProgram)
      [.proc (.trap 1 (.brkTrap tickEnv)), .proc (.pthreadCreate 1 2),
        .proc (.setUp 2 tickEnv), .expire, .deliver 2 tickEnv]).map (fun u =>
          (u.globals.itimer.armed, u.pending, (Table.findMonitoringContext 1 u.table).map
            fun mc => (mc.state, mc.sampler.delayedProcessing))) =
      some (false, false, some (.awaitFpe, false)) := by decide
  obtain ⟨u, hu, hval⟩ := Option.map_eq_some_iff.mp hrun
  simp only [Prod.mk.injEq, Option.map_eq_some_iff] at hval
  obtain ⟨harmed, hpending, mc, hmc, hstate, hd⟩ := hval
  have hidle : ¬ u.Ticking := by simp [Timed.Ticking, harmed, hpending]
  refine ⟨u, hu, hidle, fun h => ?_⟩
  rcases h 1 (by decide) mc hmc (by simp [hstate]) with h | h
  · simp [hd] at h
  · exact hidle h.1

end X64
end FPSpy
