import FPSpy.Individual.Process
import FPSpy.Monitor.Bringup
import FPSpy.Monitor.Timer

/-!
# The handlers FPSpy depends on

The statements of `bringup`, the expiries of the timer, traps, and calls of `signal` and
`sigaction`, in any order. The two shims protect the handlers for SIGFPE and SIGTRAP: they
make FPSpy get out of the way, or refuse. The timer's signal has less protection. `bringup`
arms the timer before it installs the handler, so that an early expiry finds what was there
before; and of the three signals a timer can have only SIGVTALRM is watched, and that in
`sigaction` alone.
-/
namespace FPSpy

section

variable {A : Arch} {cfg : Config A} {env : Env} {libc : Libc A}

structure Rising (A : Arch) extends Flow A where
  pc : BringupPc

inductive UpkeepEvent where
  /-- The next statement of `bringup`. -/
  | bringup (env : Env)
  /-- The timer runs out, and its signal is delivered. -/
  | expiry (env : Env)
  /-- An FP trap or a breakpoint trap. -/
  | trap (e : ThreadEvent)
  | signal (env : Env) (sig : Signal) (func : SigHandler)
  | sigaction (env : Env) (sig : Signal) (act : Option SigAction)

namespace Rising

def step (cfg : Config A) (libc : Libc A) (s : Rising A) : UpkeepEvent → Option (Rising A)
  | .bringup env =>
    if s.pc = .done ∨ s.pc = .failed then none
    else
      let r := Bringup.step cfg env false (Flow.kickDelivered cfg env) s.pc s.toFlow
      some ⟨r.2, r.1⟩
  | .expiry env =>
    if s.itimer.armed then
      let f := { s.toFlow with itimer := .expired }
      match (f.sigaction cfg.alarmSig).handler with
      | .sigalrmHandler => some { s with toFlow := sigalrmHandler cfg env f }
      | .dfl => none
      | _ => some { s with toFlow := f }
    else none
  | .trap (.expiry _) => none
  | .trap e => (s.toFlow.step cfg e).map fun g => { s with toFlow := g }
  | .signal env sig func => some { s with
      toFlow := (Shim.signal (Flow.callOps cfg env libc) cfg.aggressive sig
        (Flow.origSigaction sig (some (.ofSignal sig func))) () s.toFlow).1 }
  | .sigaction env sig act => some { s with
      toFlow := (Shim.sigaction (Flow.callOps cfg env libc) cfg.aggressive sig
        (Flow.origSigaction sig act) () s.toFlow).1 }

def start (tid : Nat) (uc : A.UContext) (inherited : Signal → SigAction) (code : Mem) :
    Rising A where
  toGlobals := { Globals.start code with sigaction := inherited }
  toThread := .start tid uc
  pc := .context

def AlarmOurs (cfg : Config A) (f : Flow A) : Prop :=
  (f.sigaction cfg.alarmSig).handler = .sigalrmHandler

/-- Unless FPSpy has aborted, an armed timer has its handler, and after `bringup` SIGFPE and SIGTRAP
have theirs. -/
def KeepsHandlers (cfg : Config A) (s : Rising A) : Prop :=
  s.aborted = false →
    (s.itimer.armed = true → AlarmOurs cfg s.toFlow) ∧
    (s.pc = .done → (s.sigaction .sigfpe).handler = .sigfpeHandler ∧
      (s.sigaction .sigtrap).handler = .sigtrapHandler)

/-- The next breakpoint trap ends a step in which an expiry was noted, and arms the timer. -/
def Noted (f : Flow A) : Prop :=
  ∃ mc ∈ f.mc, mc.state = .awaitTrap ∧ mc.sampler.delayedProcessing = true

/-- `bringup` has armed the timer, and not yet installed its handler. -/
def Opening (pc : BringupPc) : Prop := 1 ≤ pc.index ∧ pc.index ≤ 4

instance (pc : BringupPc) : Decidable (Opening pc) := inferInstanceAs (Decidable (_ ∧ _))

/-- The timer is only armed where its signal goes to FPSpy, and no call that the shims let pass
takes the signal away while it is. If `W` holds, `bringup` is excepted until it has installed
the handler. -/
def Permits (W : Prop) (cfg : Config A) (s : Rising A) : UpkeepEvent → Prop
  | .bringup env =>
    (s.pc = .context → cfg.timers = true → env.draw ≠ 0 → env.Opens cfg →
      AlarmOurs cfg s.toFlow ∨ W) ∧
      (s.pc = .kick → cfg.kickstart = false → Noted s.toFlow → AlarmOurs cfg s.toFlow)
  | .trap (.brkTrap _) => Noted s.toFlow → AlarmOurs cfg s.toFlow
  | .signal _ sig func => s.itimer.armed = true → sig = cfg.alarmSig →
    func = .sigalrmHandler ∨ (W ∧ Opening s.pc)
  | .sigaction _ sig act => s.itimer.armed = true → sig = cfg.alarmSig → sig ≠ .sigvtalrm →
    (∀ a ∈ act, a.handler = .sigalrmHandler) ∨ (W ∧ Opening s.pc)
  | _ => True

/-- The condition: this holds of every step that is taken before FPSpy has aborted. -/
def Guarded (W : Prop) (cfg : Config A) (s : Rising A) (e : UpkeepEvent) : Prop :=
  s.aborted = false → s.Permits W cfg e

instance (f : Flow A) : Decidable (AlarmOurs cfg f) := inferInstanceAs (Decidable (_ = _))

instance (f : Flow A) : Decidable (Noted f) := inferInstanceAs (Decidable (∃ mc ∈ f.mc, _))

instance (W : Prop) [Decidable W] (s : Rising A) (e : UpkeepEvent) :
    Decidable (s.Permits W cfg e) :=
  match e with
  | .bringup _ => inferInstanceAs (Decidable ((_ → _ → _ → _ → _ ∨ _) ∧ (_ → _ → _ → _)))
  | .trap (.brkTrap _) => inferInstanceAs (Decidable (_ → _))
  | .signal _ _ _ => inferInstanceAs (Decidable (_ → _ → _ ∨ (_ ∧ _)))
  | .sigaction _ _ _ => inferInstanceAs (Decidable (_ → _ → _ → (∀ a ∈ _, _) ∨ (_ ∧ _)))
  | .trap (.fpTrap _ _) | .trap (.expiry _) | .expiry _ => isTrue trivial

instance (W : Prop) [Decidable W] (s : Rising A) (e : UpkeepEvent) :
    Decidable (s.Guarded W cfg e) :=
  inferInstanceAs (Decidable (_ = false → s.Permits W cfg e))

structure Alive (W : Prop) (cfg : Config A) (pc : BringupPc) (f : Flow A) : Prop where
  alarm : f.itimer.armed = true → AlarmOurs cfg f ∨ (W ∧ Opening pc)
  timers : f.itimer.armed = true ∨ (∃ mc ∈ f.mc, mc.sampler.delayedProcessing = true) →
    cfg.timers = true
  sigfpe : 2 ≤ pc.index → (f.sigaction .sigfpe).handler = .sigfpeHandler
  sigtrap : 3 ≤ pc.index → (f.sigaction .sigtrap).handler = .sigtrapHandler

def Held (W : Prop) (cfg : Config A) (pc : BringupPc) (f : Flow A) : Prop :=
  f.aborted = false → Alive W cfg pc f

variable {W : Prop} {pc : BringupPc} {f g : Flow A} {mc : MonitoringContext}

/-! ## Handlers -/

theorem Alive.of_same (h : Alive W cfg pc f) (hsame : SameSampler f g) : Alive W cfg pc g where
  alarm := by
    simp only [AlarmOurs, hsame.itimer, hsame.sigaction]
    exact h.alarm
  timers := by
    rw [hsame.itimer]
    rintro (harmed | ⟨mc', hmc', hd⟩)
    · exact h.timers (.inl harmed)
    · obtain ⟨mc, hmc, hsampler, -⟩ := hsame.context mc' hmc'
      exact h.timers (.inr ⟨mc, hmc, hsampler ▸ hd⟩)
  sigfpe := hsame.sigaction ▸ h.sigfpe
  sigtrap := hsame.sigaction ▸ h.sigtrap

/-- A handler that starts the timer, or notes an expiry. -/
theorem Alive.of_started (h : Alive W cfg pc f) (hours : AlarmOurs cfg f)
    (htimers : cfg.timers = true) (hsig : g.sigaction = f.sigaction) : Alive W cfg pc g where
  alarm _ := .inl (by
    simp only [AlarmOurs, hsig]
    exact hours)
  timers _ := htimers
  sigfpe := hsig ▸ h.sigfpe
  sigtrap := hsig ▸ h.sigtrap

theorem Alive.brkTrapHandler (h : Alive W cfg pc f) (hnoted : Noted f → AlarmOurs cfg f) :
    Alive W cfg pc (brkTrapHandler cfg env f).1 := by
  obtain hsame | ⟨mc, hmc, hstate, hd, hsig, -⟩ := brkTrapHandler_sampler cfg env f
  · exact h.of_same hsame
  · exact h.of_started (hnoted ⟨mc, hmc, hstate, hd⟩) (h.timers (.inr ⟨mc, hmc, hd⟩)) hsig

/-- However a handler ends, FPSpy has aborted, or it has only run. -/
theorem held_resume {r : Flow A × HandlerExit} (h : Held W cfg pc r.1)
    (hstep : Flow.resume cfg env r = some g) : Held W cfg pc g := by
  intro ha
  obtain rfl := Flow.eq_of_resume hstep ha
  exact h ha

theorem held_settle {r : Flow A × HandlerExit} (h : Held W cfg pc r.1) :
    Held W cfg pc (Flow.settle cfg env r) := by
  unfold Flow.settle
  cases hr : Flow.resume cfg env r with
  | none => exact h
  | some g => exact held_resume h hr

theorem Held.brkTrapHandler (h : Held W cfg pc f) (hnoted : Noted f → AlarmOurs cfg f) :
    Held W cfg pc (FPSpy.brkTrapHandler cfg env f).1 := by
  intro ha
  rw [(handlerFrame_brkTrapHandler cfg env f).sameProcess.aborted] at ha
  exact (h ha).brkTrapHandler hnoted

theorem Held.fpTrapHandler {siCode : BitVec 32} (h : Held W cfg pc f) :
    Held W cfg pc (FPSpy.fpTrapHandler cfg env siCode f).1 := by
  intro ha
  rw [(handlerFrame_fpTrapHandler cfg env siCode f).sameProcess.aborted] at ha
  exact (h ha).of_same (sameSampler_fpTrapHandler cfg env siCode f)

theorem Held.trap {e : ThreadEvent} (h : Held W cfg pc f) (he : ∀ env, e ≠ .expiry env)
    (hnoted : ∀ env, e = .brkTrap env → Noted f → AlarmOurs cfg f)
    (hstep : f.step cfg e = some g) : Held W cfg pc g := by
  cases Flow.handlerStep_of_step hstep with
  | fpTrap hopen hours hresume => exact held_resume h.fpTrapHandler hresume
  | @brkTrap env _ hours hresume => exact held_resume (h.brkTrapHandler (hnoted env rfl)) hresume
  | @expiry env => exact absurd rfl (he env)

variable (env) in
theorem Held.kickDelivered (h : Held W cfg pc f) (hnoted : Noted f → AlarmOurs cfg f) :
    Held W cfg pc (f.kickDelivered cfg env) := by
  unfold Flow.kickDelivered
  split_ifs
  · exact held_settle (h.brkTrapHandler hnoted)
  · exact h

/-- An expiry that FPSpy's handler takes. -/
theorem Held.expiry (h : Held W cfg pc f) (harmed : f.itimer.armed = true)
    (hours : AlarmOurs cfg f) :
    Held W cfg pc (sigalrmHandler cfg env { f with itimer := .expired }) := by
  intro ha
  have hsame := (handlerFrame_sigalrmHandler cfg env { f with itimer := .expired }).sameProcess
  have halive := h (hsame.aborted ▸ ha)
  exact halive.of_started hours (halive.timers (.inl harmed)) hsame.sigaction

/-- The expiry of a timer whose signal somebody else handles. -/
theorem Alive.expired (h : Alive W cfg pc f) : Alive W cfg pc { f with itimer := .expired } where
  alarm harmed := absurd harmed (by simp [Itimerval.armed, Itimerval.expired])
  timers := by
    rintro (harmed | hd)
    · simp [Itimerval.armed, Itimerval.expired] at harmed
    · exact h.timers (.inr hd)
  sigfpe := h.sigfpe
  sigtrap := h.sigtrap

/-! ## Calls -/

/-- A call that passes the shims. -/
theorem Alive.origSigaction {sig : Signal} {act : Option SigAction} (h : Alive W cfg pc f)
    (hfpe : sig ≠ .sigfpe) (htrap : sig ≠ .sigtrap)
    (halarm : f.itimer.armed = true → sig = cfg.alarmSig →
      (∀ a ∈ act, a.handler = .sigalrmHandler) ∨ (W ∧ Opening pc)) :
    Alive W cfg pc (Flow.origSigaction sig act f).1 := by
  cases act with
  | none => exact h
  | some act =>
    refine ⟨fun harmed => ?_, h.timers, fun hpc => ?_, fun hpc => ?_⟩
    · by_cases hsig : sig = cfg.alarmSig
      · refine (halarm harmed hsig).imp_left fun hours => ?_
        simpa [AlarmOurs, Flow.origSigaction, hsig] using hours
      · refine (h.alarm harmed).imp_left fun hours => ?_
        simpa [AlarmOurs, Flow.origSigaction, Ne.symm hsig] using hours
    · simpa [Flow.origSigaction, hfpe.symm] using h.sigfpe hpc
    · simpa [Flow.origSigaction, htrap.symm] using h.sigtrap hpc

/-- A shim aborts, refuses, or lets a call pass that it does not watch. -/
theorem held_guarded {watched : Bool} {sig : Signal} {act : Option SigAction}
    (h : Held W cfg pc f)
    (hpass : watched = false → Alive W cfg pc f → Alive W cfg pc (Flow.origSigaction sig act f).1) :
    Held W cfg pc (Shim.guarded (Flow.callOps cfg env libc) cfg.aggressive watched
      (Flow.origSigaction sig act) () f).1 := by
  intro ha
  obtain ⟨halive, heq⟩ := Flow.guarded_of_alive ha
  rw [heq]
  split_ifs with hwatched
  · exact h halive
  · exact hpass (by simpa using hwatched) (h halive)

/-! ## The statements of `bringup` -/

/-- A statement that installs a handler, or none. -/
theorem Alive.next {pc' : BringupPc} (h : Alive W cfg pc f) (hitimer : g.itimer = f.itimer)
    (hmc : g.mc = f.mc)
    (halarm : AlarmOurs cfg f ∨ (W ∧ Opening pc) → AlarmOurs cfg g ∨ (W ∧ Opening pc'))
    (hfpe : 2 ≤ pc'.index → (g.sigaction .sigfpe).handler = .sigfpeHandler)
    (htrap : 3 ≤ pc'.index → (g.sigaction .sigtrap).handler = .sigtrapHandler) :
    Alive W cfg pc' g where
  alarm harmed := halarm (h.alarm (hitimer ▸ harmed))
  timers := by
    rw [hitimer, hmc]
    exact h.timers
  sigfpe := hfpe
  sigtrap := htrap

/-- Once the handlers are all installed. -/
theorem Alive.past {pc' : BringupPc} (h : Alive W cfg pc f) (hpc : 5 ≤ pc.index) :
    Alive W cfg pc' f :=
  h.next rfl rfl (.imp_right fun hW => absurd hW.2.2 (by omega))
    (fun _ => h.sigfpe (by omega)) fun _ => h.sigtrap (by omega)

theorem alive_context (h : Alive W cfg .context f)
    (hguard : cfg.timers = true → env.draw ≠ 0 → env.Opens cfg → AlarmOurs cfg f ∨ W) :
    Alive W cfg (Bringup.step cfg env false (Flow.kickDelivered cfg env) .context f).1
      (Bringup.step cfg env false (Flow.kickDelivered cfg env) .context f).2 := by
  have hours : f.itimer.armed = true → AlarmOurs cfg f := fun harmed =>
    (h.alarm harmed).resolve_right fun hW => absurd hW.2.1 (by decide)
  simp only [Bringup.step]
  cases hmc : bringupMonitoringContext cfg env f.tid .zero with
  | none =>
    refine ⟨fun harmed => .inl (hours harmed), ?_, by simp [BringupPc.index],
      by simp [BringupPc.index]⟩
    rintro (harmed | ⟨mc, hmc, -⟩)
    · exact h.timers (.inl harmed)
    · cases hmc
  | some mc =>
    have hopens := opens_of_bringup hmc
    obtain ⟨fd, -, rfl⟩ := Option.map_eq_some_iff.mp hmc
    by_cases htimers : cfg.timers = true
    · refine ⟨fun harmed => ?_, fun _ => htimers, by simp [BringupPc.index],
        by simp [BringupPc.index]⟩
      simp only [htimers, if_true, initSampler, armed_oneShot_iff] at harmed
      exact (hguard htimers harmed hopens).imp_right fun hW => ⟨hW, (by decide : Opening .sigfpe)⟩
    · simp only [htimers]
      refine ⟨fun harmed => .inl (hours harmed), ?_, by simp [BringupPc.index],
        by simp [BringupPc.index]⟩
      rintro (harmed | ⟨mc, hmc, hd⟩)
      · exact h.timers (.inl harmed)
      · obtain rfl := Option.some.inj hmc
        simp [initSampler, htimers, MonitoringContext.zero] at hd

theorem Held.bringup (h : Held W cfg pc f)
    (hcontext : pc = .context → cfg.timers = true → env.draw ≠ 0 → env.Opens cfg →
      AlarmOurs cfg f ∨ W)
    (hkick : pc = .kick → cfg.kickstart = false → Noted f → AlarmOurs cfg f) :
    Held W cfg (Bringup.step cfg env false (Flow.kickDelivered cfg env) pc f).1
      (Bringup.step cfg env false (Flow.kickDelivered cfg env) pc f).2 := by
  obtain ⟨hfpe, htrap⟩ := alarmSig_ne cfg
  have hint := alarmSig_ne_sigint cfg
  cases pc with
  | context =>
    intro ha
    refine alive_context (h ?_) (hcontext rfl)
    simp only [Bringup.step] at ha
    split at ha <;> exact ha
  | sigfpe =>
    intro ha
    refine (h ha).next rfl rfl (.imp ?_ ?_) (fun _ => ?_) (by simp [Bringup.step, BringupPc.index])
    · simp [AlarmOurs, Bringup.step, hfpe]
    · exact fun hW => ⟨hW.1, (by decide : Opening .sigtrap)⟩
    · simp [Bringup.step]
      rfl
  | sigtrap =>
    intro ha
    refine (h ha).next rfl rfl (.imp ?_ ?_) (fun _ => ?_) fun _ => ?_
    · simp [AlarmOurs, Bringup.step, htrap]
    · exact fun hW => ⟨hW.1, (by decide : Opening .sigint)⟩
    · simpa [Bringup.step] using (h ha).sigfpe (by decide)
    · simp [Bringup.step]
      rfl
  | sigint =>
    intro ha
    refine (h ha).next rfl rfl (.imp ?_ ?_) (fun _ => ?_) fun _ => ?_
    · simp [AlarmOurs, Bringup.step, hint]
    · exact fun hW => ⟨hW.1, (by decide : Opening .sigalrm)⟩
    · simpa [Bringup.step] using (h ha).sigfpe (by decide)
    · simpa [Bringup.step] using (h ha).sigtrap (by decide)
  | sigalrm =>
    intro ha
    by_cases htimers : cfg.timers = true
    · simp only [Bringup.step, htimers, if_true] at ha ⊢
      refine (h ha).next rfl rfl (fun _ => .inl ?_) (fun _ => ?_) fun _ => ?_
      · simp [AlarmOurs, sigalrmAction]
      · simpa [hfpe.symm] using (h ha).sigfpe (by decide)
      · simpa [htrap.symm] using (h ha).sigtrap (by decide)
    · simp only [Bringup.step, htimers] at ha ⊢
      have halive := h ha
      exact ⟨fun harmed => absurd (halive.timers (.inl harmed)) htimers, halive.timers,
        fun _ => halive.sigfpe (by decide), fun _ => halive.sigtrap (by decide)⟩
  | kick =>
    intro ha
    by_cases hstart : cfg.kickstart = true
    · simp only [Bringup.step, hstart, if_true] at ha ⊢
      exact (h ha).past (by decide)
    · simp only [Bringup.step, hstart] at ha ⊢
      have hheld := h.kickDelivered env (hkick rfl (by simpa using hstart))
      exact (hheld ha).past (by decide)
  | inited =>
    intro ha
    exact ((h ha).past (by decide)).next rfl rfl id
      (fun _ => (h ha).sigfpe (by decide)) fun _ => (h ha).sigtrap (by decide)
  | done | failed => exact h

/-! ## Runs -/

variable {s u : Rising A}

inductive StepEffect (cfg : Config A) (libc : Libc A) (s : Rising A) :
    UpkeepEvent → Rising A → Prop where
  | bringup {env : Env} : StepEffect cfg libc s (.bringup env)
      ⟨(Bringup.step cfg env false (Flow.kickDelivered cfg env) s.pc s.toFlow).2,
        (Bringup.step cfg env false (Flow.kickDelivered cfg env) s.pc s.toFlow).1⟩
  /-- FPSpy's handler takes the signal, -/
  | expiry {env : Env} (harmed : s.itimer.armed = true) (hours : AlarmOurs cfg s.toFlow) :
      StepEffect cfg libc s (.expiry env)
        { s with toFlow := sigalrmHandler cfg env { s.toFlow with itimer := .expired } }
  /-- or somebody else does. -/
  | expired {env : Env} : StepEffect cfg libc s (.expiry env)
      { s with toFlow := { s.toFlow with itimer := .expired } }
  | trap {e : ThreadEvent} {g : Flow A} (he : ∀ env, e ≠ .expiry env)
      (hg : s.toFlow.step cfg e = some g) : StepEffect cfg libc s (.trap e) { s with toFlow := g }
  | signal {env : Env} {sig : Signal} {func : SigHandler} :
      StepEffect cfg libc s (.signal env sig func) { s with
        toFlow := (Shim.signal (Flow.callOps cfg env libc) cfg.aggressive sig
          (Flow.origSigaction sig (some (.ofSignal sig func))) () s.toFlow).1 }
  | sigaction {env : Env} {sig : Signal} {act : Option SigAction} :
      StepEffect cfg libc s (.sigaction env sig act) { s with
        toFlow := (Shim.sigaction (Flow.callOps cfg env libc) cfg.aggressive sig
          (Flow.origSigaction sig act) () s.toFlow).1 }

theorem step_effect {e : UpkeepEvent} (hstep : s.step cfg libc e = some u) :
    StepEffect cfg libc s e u := by
  cases e with
  | bringup env =>
    obtain ⟨-, hstep⟩ := Option.ite_none_left_eq_some.mp hstep
    exact Option.some.inj hstep ▸ .bringup
  | expiry env =>
    obtain ⟨harmed, hstep⟩ := Option.ite_none_right_eq_some.mp hstep
    dsimp only at hstep
    split at hstep
    · next hours => exact Option.some.inj hstep ▸ .expiry harmed hours
    · cases hstep
    · exact Option.some.inj hstep ▸ .expired
  | trap e =>
    cases e with
    | expiry env => cases hstep
    | fpTrap | brkTrap =>
      obtain ⟨g, hg, rfl⟩ := Option.map_eq_some_iff.mp hstep
      exact .trap (by simp) hg
  | signal => exact Option.some.inj hstep ▸ .signal
  | sigaction => exact Option.some.inj hstep ▸ .sigaction

/-- FPSpy does not come back from an abort. -/
theorem alive_of_step {e : UpkeepEvent} (hstep : s.step cfg libc e = some u)
    (halive : u.aborted = false) : s.aborted = false := by
  cases step_effect hstep with
  | bringup => exact Bringup.alive_of_step (fun _ => Flow.alive_of_kickDelivered) halive
  | @expiry env =>
    have hframe := handlerFrame_sigalrmHandler cfg env { s.toFlow with itimer := .expired }
    exact hframe.sameProcess.aborted.symm.trans halive
  | expired => exact halive
  | trap he hg => exact (Flow.sameProcess_of_step hg halive).aborted.symm.trans halive
  | signal | sigaction => exact (Flow.guarded_of_alive halive).1

theorem held_step {e : UpkeepEvent} (h : Held W cfg s.pc s.toFlow) (hguard : s.Permits W cfg e)
    (hstep : s.step cfg libc e = some u) : Held W cfg u.pc u.toFlow := by
  cases step_effect hstep with
  | bringup => exact h.bringup hguard.1 hguard.2
  | expiry harmed hours => exact h.expiry harmed hours
  | expired => exact fun ha => (h ha).expired
  | trap he hg =>
    refine h.trap he ?_ hg
    rintro env rfl
    exact hguard
  | signal =>
    refine held_guarded h fun hwatched halive => ?_
    obtain ⟨hfpe, htrap⟩ := not_or.mp (of_decide_eq_false hwatched)
    refine halive.origSigaction hfpe htrap fun harmed hsig => ?_
    simpa using hguard harmed hsig
  | @sigaction env sig act =>
    refine held_guarded h fun hwatched halive => ?_
    obtain ⟨hvtalrm, hfpe, htrap⟩ : sig ≠ .sigvtalrm ∧ sig ≠ .sigfpe ∧ sig ≠ .sigtrap := by
      simpa using of_decide_eq_false hwatched
    exact halive.origSigaction hfpe htrap fun harmed hsig => hguard harmed hsig hvtalrm

theorem held_start (tid : Nat) (uc : A.UContext) (inherited : Signal → SigAction) (code : Mem) :
    Held W cfg .context (start tid uc inherited code).toFlow := by
  refine fun _ => ⟨fun harmed => absurd harmed (by simp [start, Globals.start, Itimerval.armed]),
    ?_, by simp [BringupPc.index], by simp [BringupPc.index]⟩
  rintro (harmed | ⟨mc, hmc, -⟩)
  · simp [start, Globals.start, Itimerval.armed] at harmed
  · cases hmc

/-- In every run that meets the condition, the handlers FPSpy depends on are in place in every
state; if `bringup` is excepted, in every state but those in which it has the timer's handler still
to install. -/
theorem run_keepsHandlers (W : Prop) (cfg : Config A) (libc : Libc A) (tid : Nat) (uc : A.UContext)
    (inherited : Signal → SigAction) (code : Mem) {es : List UpkeepEvent}
    (hadm : Run.Admits (step cfg libc) (Guarded W cfg) (start tid uc inherited code) es)
    (hrun : Run.run (step cfg libc) (start tid uc inherited code) es = some u)
    (hpc : W → ¬ Opening u.pc) : u.KeepsHandlers cfg := by
  have hheld : Held W cfg u.pc u.toFlow :=
    Run.invariant_of_admits (I := fun s => Held W cfg s.pc s.toFlow)
      (fun _ _ _ hs hg hst ha => held_step hs (hg (alive_of_step hst ha)) hst ha) hadm
      (held_start tid uc inherited code) hrun
  intro ha
  have halive := hheld ha
  refine ⟨fun harmed => ?_, fun hdone => ⟨halive.sigfpe ?_, halive.sigtrap ?_⟩⟩
  · exact (halive.alarm harmed).resolve_right fun hW => hpc hW.1 hW.2
  · simp [hdone, BringupPc.index]
  · simp [hdone, BringupPc.index]

end Rising
end

/-! ## Timers on x64 -/

namespace X64

def virtualTimer (aggressive : Bool) : Config x64 :=
  { plain with timers := true, timerType := .virtual, aggressive := aggressive }

def secondEnv : Env := ⟨0, 0, 0, 1000000, some 3⟩

def rising : Rising x64 := Rising.start 1 ⟨fun _ => 0, 0x1f80⟩ (fun _ => .zero) fun _ => 0

def bringupAll : List UpkeepEvent := List.replicate 7 (.bringup secondEnv)

def takeOver : List UpkeepEvent :=
  bringupAll ++ [.sigaction secondEnv .sigvtalrm (some .zero), .signal secondEnv .sigfpe .ign,
    .expiry secondEnv, .signal secondEnv (.other 10) (.target 0), .expiry secondEnv]

theorem run_keepsHandlers_takeOver :
    ∃ u, Run.run (Rising.step (virtualTimer true) libc) rising takeOver = some u ∧
      u.aborted = false ∧ u.itimer.armed = true ∧ u.pc = .done ∧
      u.KeepsHandlers (virtualTimer true) := by
  have hrun : (Run.run (Rising.step (virtualTimer true) libc) rising takeOver).map
      (fun u => (u.aborted, u.itimer.armed, u.pc)) = some (false, true, .done) := by decide
  obtain ⟨u, hu, hval⟩ := Option.map_eq_some_iff.mp hrun
  obtain ⟨haborted, harmed, hpc⟩ : u.aborted = false ∧ u.itimer.armed = true ∧ u.pc = .done := by
    simpa using hval
  have hpast : True → ¬ Rising.Opening u.pc := fun _ => by
    rw [hpc]
    decide
  refine ⟨u, hu, haborted, harmed, hpc,
    Rising.run_keepsHandlers True (virtualTimer true) libc 1 _ _ _ ?_ hu hpast⟩
  exact Run.admits_of_check (g := fun s e => decide (Rising.Guarded True (virtualTimer true) s e))
    (fun s e h => of_decide_eq_true h) (by decide)

/-- The timer is armed, and its signal goes elsewhere. -/
theorem not_keepsHandlers {u : Rising x64} {aggressive : Bool} {handler : SigHandler}
    (h : (u.aborted, u.itimer.armed, (u.sigaction .sigvtalrm).handler) = (false, true, handler))
    (hhandler : handler ≠ .sigalrmHandler) :
    u.aborted = false ∧ ¬ u.KeepsHandlers (virtualTimer aggressive) := by
  simp only [Prod.mk.injEq] at h
  obtain ⟨haborted, harmed, hother⟩ := h
  refine ⟨haborted, fun hkeeps => hhandler ?_⟩
  exact hother.symm.trans ((hkeeps haborted).1 harmed)

/-- The first statement of `bringup` arms the timer, and its signal would end the program. -/
theorem not_keepsHandlers_opening :
    ∃ u, Run.run (Rising.step (virtualTimer false) libc) rising [.bringup secondEnv] = some u ∧
      u.aborted = false ∧ ¬ u.KeepsHandlers (virtualTimer false) := by
  have hrun : (Run.run (Rising.step (virtualTimer false) libc) rising [.bringup secondEnv]).map
      (fun u => (u.aborted, u.itimer.armed, (u.sigaction .sigvtalrm).handler)) =
        some (false, true, .dfl) := by decide
  obtain ⟨u, hu, hval⟩ := Option.map_eq_some_iff.mp hrun
  exact ⟨u, hu, not_keepsHandlers hval (by decide)⟩

/-- `signal` does not watch SIGVTALRM. -/
theorem not_keepsHandlers_signal :
    ∃ u, Run.run (Rising.step (virtualTimer false) libc) rising
        (bringupAll ++ [.signal secondEnv .sigvtalrm (.target 0)]) = some u ∧
      u.aborted = false ∧ ¬ u.KeepsHandlers (virtualTimer false) := by
  have hrun : (Run.run (Rising.step (virtualTimer false) libc) rising
      (bringupAll ++ [.signal secondEnv .sigvtalrm (.target 0)])).map
        (fun u => (u.aborted, u.itimer.armed, (u.sigaction .sigvtalrm).handler)) =
          some (false, true, .target 0) := by decide
  obtain ⟨u, hu, hval⟩ := Option.map_eq_some_iff.mp hrun
  exact ⟨u, hu, not_keepsHandlers hval (by decide)⟩

end X64
end FPSpy
