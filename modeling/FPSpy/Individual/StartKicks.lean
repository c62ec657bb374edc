import FPSpy.Individual.SharedSignal
import FPSpy.Individual.Supervision

/-!
# Kicks at the start of a thread

`trampoline` brings a context up and kicks its thread, which is to start the monitoring in
INIT. But the kick is a SIGTRAP to the process. A thread in AWAIT_FPE that takes it finds
itself in a surprise state and aborts; one in AWAIT_TRAP ends its single step early; and
kicks of several threads that are pending together are one signal.

A kick reaches its own thread where it is sent while all others block SIGTRAP, and they
go on doing so until it is taken.

The kicks of an abort are not among these; they are sent when FPSpy leaves.
-/
namespace FPSpy

section

variable {A : Arch} {cfg : Config A} {env : Env} {libc : Libc A}

/-- A kick that was taken, with the state of the context it was taken in; none, if the thread has
no context, or SIGTRAP is not FPSpy's. -/
structure HandledKick where
  sender : Nat
  taker : Nat
  state : Option MonitorState
  deriving DecidableEq, Repr

/-- A process, the threads that block SIGTRAP, those whose kicks are pending, and the kicks that
were taken. -/
structure Kicking (A : Arch) extends Masked A where
  pending : List Nat
  handled : List HandledKick

inductive KickEvent where
  /-- What does not concern the kicks. A breakpoint trap is the end of a single step. -/
  | proc (e : ProcEvent)
  /-- Thread `t` takes the pending kicks. -/
  | take (t : Nat) (env : Env)
  /-- Thread `t` blocks SIGTRAP, or unblocks it. -/
  | mask (t : Nat) (b : Bool)

namespace Masked

/-- SIGTRAP goes to FPSpy. -/
def Ours (s : Masked A) : Prop := (s.globals.sigaction .sigtrap).handler = .sigtrapHandler

instance (s : Masked A) : Decidable s.Ours := inferInstanceAs (Decidable (_ = _))

def stateOf (s : Masked A) (t : Nat) : Option MonitorState :=
  (Table.findMonitoringContext t s.table).map (·.state)

/-- The kick of thread `v`, when it is taken, is taken by thread `v`, in INIT. -/
structure Awaits (s : Masked A) (v : Nat) : Prop where
  sole : s.Sole v
  running : ∃ l, s.thread v = some l ∧ l.phase = .running
  state : s.stateOf v = some .init
  ours : s.Ours

/-- The event leaves the pending kick of thread `v` to it: no other thread comes to be able to take
it, FPSpy does not abort, and the thread is not torn down. -/
def Keeps (s : Masked A) (v : Nat) : ProcEvent → Prop
  | .pthreadCreate t u => s.CreateLeaves t u v
  | .trap t (.fpTrap _ _) => s.stateOf t = some .awaitFpe
  | .pthreadExit t | .sigint t => t ≠ v
  | _ => True

instance (s : Masked A) (v : Nat) (e : ProcEvent) : Decidable (s.Keeps v e) :=
  match e with
  | .pthreadCreate t u => inferInstanceAs (Decidable (s.CreateLeaves t u v))
  | .trap t (.fpTrap _ _) => inferInstanceAs (Decidable (s.stateOf t = some .awaitFpe))
  | .pthreadExit t | .sigint t => inferInstanceAs (Decidable (t ≠ v))
  | .trap _ (.brkTrap _) | .trap _ (.expiry _) | .setUp _ _ | .gone _ => isTrue trivial

end Masked

namespace Kicking

def sends (cfg : Config A) (s : Kicking A) : ProcEvent → List Nat
  | .setUp t env => if (Table.bringupMonitoringContext cfg env t s.table).2 then [t] else []
  | _ => []

def Happens (s : Kicking A) : ProcEvent → Prop
  | .trap t (.brkTrap _) => s.stateOf t = some .awaitTrap
  | _ => True

instance (s : Kicking A) (e : ProcEvent) : Decidable (s.Happens e) :=
  match e with
  | .trap t (.brkTrap _) => inferInstanceAs (Decidable (s.stateOf t = some .awaitTrap))
  | .trap _ (.fpTrap _ _) | .trap _ (.expiry _) | .pthreadCreate _ _ | .setUp _ _
  | .pthreadExit _ | .gone _ | .sigint _ => isTrue trivial

def step (cfg : Config A) (libc : Libc A) (s : Kicking A) : KickEvent → Option (Kicking A)
  | .proc e =>
    if s.Happens e then
      (s.toMasked.step cfg libc e).map fun q =>
        { s with toMasked := q, pending := s.pending ++ s.sends cfg e }
    else none
  | .take t env =>
    if s.pending ≠ [] ∧ s.blocks t = false then
      (s.thread t).bind fun l =>
        (if s.Ours then s.toProc.trap cfg t l (.brkTrap env) else some s.toProc).map fun q =>
          { s with
            toProc := q
            pending := []
            handled := s.handled ++ s.pending.map fun v =>
              ⟨v, t, if s.Ours then s.stateOf t else none⟩ }
    else none
  | .mask t b => (s.toMasked.mask t b).map fun q => { s with toMasked := q }

def start (cfg : Config A) (env : Env) (pid : Nat) (blocks : Nat → Bool) (p : Proc A) :
    Kicking A where
  toProc := p.bringup cfg env pid
  blocks := blocks
  pending := if (p.bringup cfg env pid).globals.inited ∧ cfg.kickstart = false then [pid] else []
  handled := []

/-- Every kick was taken by the thread that sent it, in INIT. -/
def TakenByOwn (s : Kicking A) : Prop :=
  ∀ k ∈ s.handled, k.taker = k.sender ∧ k.state = some .init

/-- The condition. A kick is sent while no other thread can take a SIGTRAP, FPSpy handles it and
the thread has no other context; and all events leave it to the thread while it is pending. -/
def Guarded (cfg : Config A) (s : Kicking A) : KickEvent → Prop
  | .proc e => (∀ v ∈ s.pending, s.Keeps v e) ∧
    ∀ t ∈ s.sends cfg e, s.Sole t ∧ s.Ours ∧ s.stateOf t = none
  | .mask t b => ∀ v ∈ s.pending, s.MaskLeaves t b v
  | .take _ _ => True

structure Own (s : Kicking A) : Prop where
  zero : s.thread 0 = none
  handled : s.TakenByOwn
  pending : ∀ v ∈ s.pending, s.Awaits v

end Kicking

namespace Masked

variable {s : Masked A} {blocks : Nat → Bool} {t v : Nat} {l : Live A} {p q : Proc A}

/-- Another thread does something that leaves SIGTRAP alone. -/
theorem Awaits.of_ne (h : s.Awaits v) (hsole : Sole ⟨q, blocks⟩ v)
    (hthread : q.thread v = s.thread v)
    (hfind : Table.findMonitoringContext v q.table = Table.findMonitoringContext v s.table)
    (hours : q.globals.sigaction .sigtrap = s.globals.sigaction .sigtrap) :
    Awaits ⟨q, blocks⟩ v where
  sole := hsole
  running := by
    rw [hthread]
    exact h.running
  state := by
    simp only [stateOf, hfind]
    exact h.state
  ours := by
    simp only [Ours, hours]
    exact h.ours

/-! ## Traps -/

theorem settle_of_ret {r : Flow A × HandlerExit} (hstep : p.settle cfg env t l r = some q)
    (hret : ∀ reason, r.2 ≠ .abortOperation reason) : q = p.put t l r.1 := by
  unfold Proc.settle at hstep
  split at hstep
  · exact (Option.some.inj hstep).symm
  · next reason hexit => exact absurd hexit (hret reason)
  all_goals cases hstep

/-- A trap in a state that is meant for it returns. -/
theorem trap_of_expected {e : ThreadEvent} (hstep : s.toProc.trap cfg t l e = some q)
    (hfp : ∀ env siCode, e = .fpTrap env siCode → s.stateOf t = some .awaitFpe)
    (hbrk : ∀ env, e = .brkTrap env → ∃ state, s.stateOf t = some state ∧ state ≠ .awaitFpe) :
    ∃ g : Flow A, q = s.toProc.put t l g ∧ g.sigaction = s.globals.sigaction := by
  cases Proc.trap_effect hstep with
  | @fpTrap env siCode _ hopen hours hq =>
    refine ⟨_, settle_of_ret hq fun reason hexit => ?_,
      (handlerFrame_fpTrapHandler cfg env siCode _).sameProcess.sigaction⟩
    obtain ⟨mc, hmc, hstate⟩ := Option.map_eq_some_iff.mp (hfp env siCode rfl)
    exact (Proc.fpTrapHandler_aborts hexit).2 mc hmc hstate
  | @brkTrap env _ hours hq =>
    refine ⟨_, settle_of_ret hq fun reason hexit => ?_,
      (handlerFrame_brkTrapHandler cfg env _).sameProcess.sigaction⟩
    obtain ⟨state, hs, hne⟩ := hbrk env rfl
    obtain ⟨mc, hmc, rfl⟩ := Option.map_eq_some_iff.mp hs
    exact hne ((Proc.brkTrapHandler_aborts hexit).2 mc hmc)
  | @expiry env =>
    exact ⟨_, rfl, (handlerFrame_sigalrmHandler cfg env _).sameProcess.sigaction⟩

/-- An expiry leaves a context in INIT. -/
theorem stateOf_expiry (hstep : s.toProc.trap cfg t l (.expiry env) = some q)
    (hstate : s.stateOf t = some .init) : stateOf ⟨q, blocks⟩ t = some .init := by
  obtain ⟨-, -⟩ := Proc.trap_effect hstep
  obtain ⟨mc, hmc, hs⟩ := Option.map_eq_some_iff.mp hstate
  have hflow : (s.toProc.flow t l).mc = some mc := hmc
  simp [stateOf, Proc.put, sigalrmHandler, hflow, hs, Table.find_store_self, hmc]

theorem Awaits.trap {e : ThreadEvent} (h : s.Awaits v) (hl : s.thread t = some l)
    (hstep : s.toProc.trap cfg t l e = some q)
    (hfp : ∀ env siCode, e = .fpTrap env siCode → s.stateOf t = some .awaitFpe)
    (hbrk : ∀ env, e = .brkTrap env → s.stateOf t = some .awaitTrap) :
    Awaits ⟨q, s.blocks⟩ v := by
  obtain ⟨g, rfl, hsig⟩ := trap_of_expected hstep hfp fun env he => ⟨_, hbrk env he, by simp⟩
  have hsole : Sole ⟨s.toProc.put t l g, s.blocks⟩ v :=
    h.sole.mono fun _ => Proc.isSome_of_update hl _
  by_cases hvt : v = t
  · -- a context in INIT only takes an expiry
    subst hvt
    cases e with
    | fpTrap env siCode => simp [h.state] at hfp
    | brkTrap env => simp [h.state] at hbrk
    | expiry env =>
      obtain ⟨l', hl', hphase⟩ := h.running
      obtain rfl := Option.some.inj (hl.symm.trans hl')
      refine ⟨hsole, ⟨_, Function.update_self .., hphase⟩, stateOf_expiry hstep h.state, ?_⟩
      simp only [Ours, Proc.put, hsig]
      exact h.ours
  · exact h.of_ne hsole (Proc.thread_put_of_ne g hvt) (Proc.find_put_of_ne g hvt) (by
      simp only [Proc.put, hsig])

/-! ## Steps -/

theorem Awaits.teardown (h : s.Awaits v) (hv : v ≠ 0) (hvt : v ≠ t) {g : Globals}
    (hsig : g.sigaction = s.globals.sigaction) {thread : Nat → Option (Live A)}
    (hthread : thread v = s.thread v)
    (hlive : ∀ u, (thread u).isSome = true → (s.thread u).isSome = true) :
    Awaits ⟨⟨g, (Table.teardownMonitoringContext cfg t s.table).1, thread⟩, s.blocks⟩ v :=
  h.of_ne (h.sole.mono hlive) hthread (Table.find_teardown_of_ne hvt hv) (by rw [hsig])

theorem Awaits.step {e : ProcEvent} (h : s.Awaits v) (hv : v ≠ 0) (hkeeps : s.Keeps v e)
    (hbrk : ∀ t env, e = .trap t (.brkTrap env) → s.stateOf t = some .awaitTrap)
    (hstep : s.toProc.step cfg libc e = some q) : Awaits ⟨q, s.blocksAfter e⟩ v := by
  obtain ⟨lv, hlv, hphase⟩ := h.running
  cases Proc.step_effect hstep with
  | @trap t e l _ hl hq =>
    refine h.trap hl hq ?_ fun env he => hbrk t env (by rw [he])
    rintro env siCode rfl
    exact hkeeps
  | pthreadCreate hl =>
    exact h.of_ne (h.sole.create hkeeps) (Function.update_of_ne hkeeps.1 _ _) rfl rfl
  | @setUp t env l hl hnew =>
    have hvt : v ≠ t := by
      rintro rfl
      obtain rfl := Option.some.inj (hl.symm.trans hlv)
      simp [hnew] at hphase
    exact h.of_ne (h.sole.mono fun _ => Proc.isSome_of_update hl _)
      (Function.update_of_ne hvt _ _) (Table.find_bringup_of_ne hvt hv) rfl
  | @pthreadExit t l hl hphase' =>
    have hvt : v ≠ t := Ne.symm hkeeps
    exact h.teardown hv hvt rfl (Function.update_of_ne hvt _ _) fun _ =>
      Proc.isSome_of_update hl _
  | @gone t l hl hleft =>
    have hvt : v ≠ t := by
      rintro rfl
      obtain rfl := Option.some.inj (hl.symm.trans hlv)
      simp [hleft] at hphase
    exact h.of_ne (h.sole.mono fun _ => Proc.isSome_of_update hl none)
      (Function.update_of_ne hvt _ _) rfl rfl
  | @sigint t l hl =>
    have hvt : v ≠ t := Ne.symm hkeeps
    unfold Proc.fpspyDeinit
    split_ifs
    · refine h.teardown hv hvt ?_ rfl fun _ => id
      rfl
    · exact h.of_ne (h.sole.mono fun _ => id) rfl rfl rfl

end Masked

namespace Kicking

variable {s u : Kicking A} {t v : Nat} {l : Live A} {p q : Proc A}

/-- The set-up of a thread that had no context leaves one in INIT. -/
theorem awaits_setUp (hl : s.thread t = some l)
    (hup : (Table.bringupMonitoringContext cfg env t s.table).2 = true) (hsole : s.Sole t)
    (hours : s.Ours) (hnone : s.stateOf t = none) :
    Masked.Awaits ⟨s.toProc.setUp cfg env libc t l, s.blocks⟩ t where
  sole := hsole.mono fun _ => Proc.isSome_of_update hl _
  running := ⟨_, Function.update_self .., rfl⟩
  state := by
    obtain ⟨mc, hfind, hstate⟩ := Table.find_bringup_init (Option.map_eq_none_iff.mp hnone) hup
    simp [Masked.stateOf, Proc.setUp, hfind, hstate]
  ours := hours

theorem mem_sends {e : ProcEvent} (h : v ∈ s.sends cfg e) :
    ∃ env, e = .setUp v env ∧ (Table.bringupMonitoringContext cfg env v s.table).2 = true := by
  cases e with
  | setUp t env =>
    simp only [sends] at h
    split_ifs at h with hup
    · obtain rfl := List.mem_singleton.mp h
      exact ⟨env, rfl, hup⟩
    · cases h
  | _ => cases h

theorem Own.ne_zero (h : s.Own) (hv : v ∈ s.pending) : v ≠ 0 := by
  rintro rfl
  obtain ⟨l, hl, -⟩ := (h.pending 0 hv).running
  simp [h.zero] at hl

theorem Own.step {e : KickEvent} (h : s.Own) (hguard : s.Guarded cfg e)
    (hstep : s.step cfg libc e = some u) : u.Own := by
  cases e with
  | proc e =>
    simp only [Kicking.step] at hstep
    split_ifs at hstep with hhappens
    obtain ⟨r, hr, rfl⟩ := Option.map_eq_some_iff.mp hstep
    obtain ⟨q, hq, rfl⟩ := Option.map_eq_some_iff.mp hr
    refine ⟨Proc.zero_of_step hq h.zero, h.handled, fun v hv => ?_⟩
    rcases List.mem_append.mp hv with hv | hv
    · refine (h.pending v hv).step (h.ne_zero hv) (hguard.1 v hv) ?_ hq
      rintro t env rfl
      exact hhappens
    · obtain ⟨hsole, hours, hnone⟩ := hguard.2 v hv
      obtain ⟨env, rfl, hup⟩ := mem_sends hv
      obtain ⟨l, hl, hq⟩ := Option.bind_eq_some_iff.mp hq
      split_ifs at hq
      obtain rfl := Option.some.inj hq
      exact awaits_setUp hl hup hsole hours hnone
  | take t env =>
    obtain ⟨hc, hstep⟩ := Option.ite_none_right_eq_some.mp hstep
    obtain ⟨l, hl, hstep⟩ := Option.bind_eq_some_iff.mp hstep
    obtain ⟨q, hq, rfl⟩ := Option.map_eq_some_iff.mp hstep
    -- whoever can take the signal is the one that sent it
    have hown : ∀ v ∈ s.pending, t = v := fun v hv =>
      (h.pending v hv).sole.eq (by simp [hl]) hc.2
    obtain ⟨v, hv⟩ := List.exists_mem_of_ne_nil _ hc.1
    obtain ⟨-, -, hstate, hours⟩ := hown v hv ▸ h.pending v hv
    rw [if_pos hours] at hq
    have hq : s.toProc.step cfg libc (.trap t (.brkTrap env)) = some q := by
      simp only [Proc.step, hl, Option.bind_some, hq]
    refine ⟨Proc.zero_of_step hq h.zero, fun k hk => ?_, by simp⟩
    rcases List.mem_append.mp hk with hk | hk
    · exact h.handled k hk
    · obtain ⟨v, hv, rfl⟩ := List.mem_map.mp hk
      exact ⟨hown v hv, by rw [if_pos hours, hstate]⟩
  | mask t b =>
    obtain ⟨q, hq, rfl⟩ := Option.map_eq_some_iff.mp hstep
    unfold Masked.mask at hq
    split_ifs at hq
    obtain rfl := Option.some.inj hq
    refine ⟨h.zero, h.handled, fun v hv => ?_⟩
    have hv' := h.pending v hv
    exact ⟨hv'.sole.mask (hguard v hv), hv'.running, hv'.state, hv'.ours⟩

theorem own_start (cfg : Config A) (env : Env) {pid : Nat} (hpid : pid ≠ 0) (maxContexts : Nat)
    (blocks : Nat → Bool) (uc : A.UContext) (inherited : Signal → SigAction) (code : Mem) :
    Own (start cfg env pid blocks (System.fresh maxContexts pid uc inherited code)) where
  zero := by
    simp [start, Proc.bringup_thread, System.fresh, hpid.symm]
  handled k hk := by cases hk
  pending v hv := by
    simp only [start] at hv
    split_ifs at hv with hup
    · obtain rfl := List.mem_singleton.mp hv
      have hok := Proc.ok_of_bringup_inited rfl hup.1
      refine ⟨fun u hu hlive => ?_, ⟨⟨uc, .running⟩, ?_, rfl⟩, ?_, ?_⟩
      · simp [start, Proc.bringup_thread, System.fresh, hu] at hlive
      · simp [start, Proc.bringup_thread, System.fresh]
      · obtain ⟨mc, hfind, hstate⟩ :=
          Table.find_bringup_init (Table.find_initMonitoringContexts _ hpid) hok
        simp [Masked.stateOf, start, Proc.bringup_table, hfind, hstate]
      · simp only [Masked.Ours, start, Proc.bringup_globals hok, (setupSignals_spec cfg _).sigtrap]
        rfl
    · cases hv

/-- In every run that meets the condition, every kick was taken by the thread that sent it, in INIT,
and so will be the one that is pending. -/
theorem run_takenByOwn (cfg : Config A) (libc : Libc A) (env : Env) {pid : Nat} (hpid : pid ≠ 0)
    (maxContexts : Nat) (blocks : Nat → Bool) (uc : A.UContext) (inherited : Signal → SigAction)
    (code : Mem) {es : List KickEvent}
    (hadm : Run.Admits (step cfg libc) (Guarded cfg)
      (start cfg env pid blocks (System.fresh maxContexts pid uc inherited code)) es)
    (hrun : Run.run (step cfg libc)
      (start cfg env pid blocks (System.fresh maxContexts pid uc inherited code)) es = some u) :
    u.TakenByOwn ∧ ∀ v ∈ u.pending, u.Awaits v := by
  have hown : u.Own :=
    Run.invariant_of_admits (I := Own) (fun _ _ _ hs hg hst => hs.step hg hst) hadm
      (own_start cfg env hpid maxContexts blocks uc inherited code) hrun
  exact ⟨hown.handled, hown.pending⟩

/-! ## Testing the condition -/

/-- A test that is enough for `Guarded`, where there are only threads below `n`. -/
def guardedBelow (n : Nat) (cfg : Config A) (s : Kicking A) : KickEvent → Bool
  | .proc e => s.pending.all (fun v => decide (s.Keeps v e)) &&
    (s.sends cfg e).all (fun t => s.soleBelow n t && decide (s.Ours ∧ s.stateOf t = none)) &&
    match e with
    | .pthreadCreate _ u => decide (u < n)
    | _ => true
  | .mask t b => s.pending.all fun v => b == (v != t)
  | .take _ _ => true

variable {n : Nat} {e : KickEvent}

theorem guarded_of_guardedBelow (hn : s.Below n) (h : s.guardedBelow n cfg e = true) :
    s.Guarded cfg e := by
  cases e with
  | proc e =>
    simp only [guardedBelow, Bool.and_eq_true, List.all_eq_true, decide_eq_true_eq] at h
    exact ⟨h.1.1, fun t ht => ⟨Masked.sole_of_soleBelow hn (h.1.2 t ht).1, (h.1.2 t ht).2⟩⟩
  | take t env => trivial
  | mask t b =>
    simp only [guardedBelow, List.all_eq_true, beq_iff_eq] at h
    exact fun v hv => Masked.maskLeaves_of_ne (h v hv)

theorem below_step (hn : s.Below n) (htest : s.guardedBelow n cfg e = true)
    (hstep : s.step cfg libc e = some u) : u.Below n := by
  cases e with
  | proc e =>
    obtain ⟨-, hstep⟩ := Option.ite_none_right_eq_some.mp hstep
    obtain ⟨r, hr, rfl⟩ := Option.map_eq_some_iff.mp hstep
    obtain ⟨q, hq, rfl⟩ := Option.map_eq_some_iff.mp hr
    refine hn.step ?_ hq
    rintro t w rfl
    simp only [guardedBelow, Bool.and_eq_true, decide_eq_true_eq] at htest
    exact htest.2
  | take t env =>
    obtain ⟨-, hstep⟩ := Option.ite_none_right_eq_some.mp hstep
    obtain ⟨l, hl, hstep⟩ := Option.bind_eq_some_iff.mp hstep
    obtain ⟨q, hq, rfl⟩ := Option.map_eq_some_iff.mp hstep
    split_ifs at hq with hours
    · have hq : s.toProc.step cfg libc (.trap t (.brkTrap env)) = some q := by
        simp only [Proc.step, hl, Option.bind_some, hq]
      exact hn.step (by simp) hq
    · exact Option.some.inj hq ▸ hn
  | mask t b =>
    obtain ⟨q, hq, rfl⟩ := Option.map_eq_some_iff.mp hstep
    unfold Masked.mask at hq
    split_ifs at hq
    obtain rfl := Option.some.inj hq
    exact hn

end Kicking
end

/-! ## Two threads on x64 -/

namespace X64

def blockAndCreate : List KickEvent :=
  [.take 1 quietEnv, .proc (.pthreadCreate 1 2), .mask 1 true, .proc (.setUp 2 quietEnv),
    .proc (.trap 1 (.fpTrap quietEnv 0)), .take 2 quietEnv, .proc (.trap 1 (.brkTrap quietEnv)),
    .mask 1 false, .proc (.pthreadExit 2)]

theorem guarded_blockAndCreate :
    Run.Admits (Kicking.step plain libc) (Kicking.Guarded plain)
      (Kicking.start plain quietEnv 1 (fun _ => false) program) blockAndCreate := by
  refine Run.admits_of_check_of_invariant (J := fun s => s.Below 3)
    (fun _ _ _ hn htest hstep => Kicking.below_step hn htest hstep)
    (fun _ _ hn htest => Kicking.guarded_of_guardedBelow hn htest) (fun u hu => ?_) (by decide)
  have hne : u ≠ 1 := by omega
  simp [Kicking.start, Proc.bringup_thread, program, System.fresh, hne]

theorem run_takenByOwn_blockAndCreate :
    ∃ u, Run.run (Kicking.step plain libc)
        (Kicking.start plain quietEnv 1 (fun _ => false) program) blockAndCreate = some u ∧
      u.handled.length = 2 ∧ u.TakenByOwn ∧ ∀ v ∈ u.pending, u.Awaits v := by
  have hrun : (Run.run (Kicking.step plain libc)
      (Kicking.start plain quietEnv 1 (fun _ => false) program) blockAndCreate).map
        (·.handled.length) = some 2 := by decide
  obtain ⟨u, hu, hlength⟩ := Option.map_eq_some_iff.mp hrun
  exact ⟨u, hu, hlength, Kicking.run_takenByOwn plain libc quietEnv (by decide) 4 (fun _ => false)
    _ _ _ guarded_blockAndCreate hu⟩

/-- Thread 1, in AWAIT_FPE, takes the kick of thread 2, and aborts. -/
theorem not_takenByOwn_stolenKick :
    ∃ u, Run.run (Kicking.step plain libc)
        (Kicking.start plain quietEnv 1 (fun _ => false) program)
        [.take 1 quietEnv, .proc (.pthreadCreate 1 2), .proc (.setUp 2 quietEnv),
          .take 1 quietEnv] = some u ∧
      ⟨2, 1, some .awaitFpe⟩ ∈ u.handled ∧ u.globals.aborted = true ∧ ¬ u.TakenByOwn := by
  have hrun : (Run.run (Kicking.step plain libc)
      (Kicking.start plain quietEnv 1 (fun _ => false) program)
      [.take 1 quietEnv, .proc (.pthreadCreate 1 2), .proc (.setUp 2 quietEnv),
        .take 1 quietEnv]).map (fun u => (u.handled, u.globals.aborted)) =
      some ([⟨1, 1, some .init⟩, ⟨2, 1, some .awaitFpe⟩], true) := by decide
  obtain ⟨u, hu, hval⟩ := Option.map_eq_some_iff.mp hrun
  obtain ⟨hhandled, haborted⟩ := Prod.mk.inj hval
  have hmem : ⟨2, 1, some .awaitFpe⟩ ∈ u.handled := by simp [hhandled]
  refine ⟨u, hu, hmem, haborted, fun h => ?_⟩
  exact absurd (h _ hmem).1 (by decide)

end X64
end FPSpy
