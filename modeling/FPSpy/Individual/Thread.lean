import FPSpy.Lib.Run
import FPSpy.Machine.X64
import FPSpy.Monitor.Effects

/-!
# A monitored thread

The events a thread in individual mode takes, with the conditions under which they can
happen: an FP trap needs an unmasked trap, a timer expiry needs the sampler, and each
handler runs only while its signal has FPSpy's disposition. Between the events the
target runs; it does not touch what is modelled here.
-/
namespace FPSpy

variable {A : Arch}

/-- An event in one thread, with what the outside world supplies to its handler. -/
inductive ThreadEvent where
  | fpTrap (env : Env) (siCode : BitVec 32)
  | brkTrap (env : Env)
  | expiry (env : Env)

namespace Flow

/-- The thread after an event, if the event can happen and the process survives it. A SIGFPE is
that of a floating point trap; the one of an integer division by zero, which comes whatever the
masks are, is left out. -/
def step (cfg : Config A) (f : Flow A) : ThreadEvent → Option (Flow A)
  | .fpTrap env siCode =>
    if f.trapsUnmasked cfg ∧ (f.sigaction .sigfpe).handler = .sigfpeHandler then
      resume cfg env (fpTrapHandler cfg env siCode f)
    else none
  | .brkTrap env =>
    if (f.sigaction .sigtrap).handler = .sigtrapHandler then
      resume cfg env (brkTrapHandler cfg env f)
    else none
  | .expiry env =>
    if cfg.timers ∧ (f.sigaction cfg.alarmSig).handler = .sigalrmHandler then
      some (sigalrmHandler cfg env f)
    else none

/-- The handler that takes an event, with its conditions and the thread after it. -/
inductive HandlerStep (cfg : Config A) (f : Flow A) : ThreadEvent → Flow A → Prop where
  | fpTrap {env : Env} {siCode : BitVec 32} {g : Flow A} (hopen : f.trapsUnmasked cfg = true)
      (hours : (f.sigaction .sigfpe).handler = .sigfpeHandler)
      (hresume : resume cfg env (fpTrapHandler cfg env siCode f) = some g) :
      HandlerStep cfg f (.fpTrap env siCode) g
  | brkTrap {env : Env} {g : Flow A} (hours : (f.sigaction .sigtrap).handler = .sigtrapHandler)
      (hresume : resume cfg env (brkTrapHandler cfg env f) = some g) :
      HandlerStep cfg f (.brkTrap env) g
  | expiry {env : Env} (hours : (f.sigaction cfg.alarmSig).handler = .sigalrmHandler) :
      HandlerStep cfg f (.expiry env) (sigalrmHandler cfg env f)

theorem handlerStep_of_step {cfg : Config A} {f g : Flow A} {e : ThreadEvent}
    (h : f.step cfg e = some g) : HandlerStep cfg f e g := by
  cases e with
  | fpTrap env siCode =>
    obtain ⟨hc, h⟩ := Option.ite_none_right_eq_some.mp h
    exact .fpTrap hc.1 hc.2 h
  | brkTrap env =>
    obtain ⟨hours, h⟩ := Option.ite_none_right_eq_some.mp h
    exact .brkTrap hours h
  | expiry env =>
    obtain ⟨hc, h⟩ := Option.ite_none_right_eq_some.mp h
    exact Option.some.inj h ▸ .expiry hc.2

end Flow

/-- What an event does to a thread whose context is `mc`, one case for each path through the
handlers. -/
inductive Effect (cfg : Config A) (mc : MonitoringContext) (f : Flow A) :
    ThreadEvent → Flow A → Prop where
  | beginStep {env siCode} (buffer written) (hstate : mc.state = .awaitFpe)
      (hopen : f.trapsUnmasked cfg = true) :
      Effect cfg mc f (.fpTrap env siCode)
        (FPSpy.beginStep cfg { mc with traceRecords := buffer }
          (f.sampled cfg env siCode mc written))
  | surpriseFpe {env siCode} (buffer written) (hstate : mc.state ≠ .awaitFpe)
      (hopen : f.trapsUnmasked cfg = true) :
      Effect cfg mc f (.fpTrap env siCode)
        ((standDown cfg { mc with traceRecords := buffer }
          (f.sampled cfg env siCode mc written)).abortInHandler cfg env)
  | aborted {env} (hstate : mc.state = .abort) : Effect cfg mc f (.brkTrap env) (standDown cfg mc f)
  | kick {env} (hstate : mc.state = .init) : Effect cfg mc f (.brkTrap env) (brkInit cfg mc f)
  | endStep {env} (hstate : mc.state = .awaitTrap) :
      Effect cfg mc f (.brkTrap env) (brkAwaitTrap cfg env mc f)
  | surpriseTrap {env} (hstate : mc.state = .awaitFpe) :
      Effect cfg mc f (.brkTrap env)
        ((standDown cfg { mc with abortingInTrap := true } f).abortInHandler cfg env)
  | delay {env} (hstate : mc.state ≠ .awaitFpe) :
      Effect cfg mc f (.expiry env)
        { f with mc := some { mc with sampler := { mc.sampler with delayedProcessing := true } } }
  | flip {env} (hstate : mc.state = .awaitFpe) :
      Effect cfg mc f (.expiry env) (updateSampler cfg env mc f)

/-- These are all the paths. -/
theorem Flow.step_effect {cfg : Config A} {mc : MonitoringContext} {f g : Flow A} {e : ThreadEvent}
    (h : f.step cfg e = some g) (hmc : f.mc = some mc) : Effect cfg mc f e g := by
  cases handlerStep_of_step h with
  | @fpTrap env siCode _ hopen hours h =>
    have hpath := fpTrapHandler_path cfg env siCode f
    generalize fpTrapHandler cfg env siCode f = r at hpath h
    cases hpath with
    | dies hexit => obtain rfl | rfl := hexit <;> cases h
    | bare hmc' => simp [hmc] at hmc'
    | beginStep buffer written hmc' hstate =>
      obtain rfl := Option.some.inj (hmc'.symm.trans hmc)
      obtain rfl := Option.some.inj h
      exact .beginStep buffer written hstate hopen
    | surprise buffer written hmc' hstate =>
      obtain rfl := Option.some.inj (hmc'.symm.trans hmc)
      obtain rfl := Option.some.inj h
      exact .surpriseFpe buffer written hstate hopen
  | @brkTrap env _ hours h =>
    by_cases hstate : mc.state = .awaitFpe
    · rw [brkTrapHandler_awaitFpe env hmc hstate] at h
      obtain rfl := Option.some.inj h
      exact .surpriseTrap hstate
    · simp only [brkTrapHandler, hmc] at h
      cases hs : mc.state <;> rw [hs] at h
      · exact Option.some.inj h ▸ .kick hs
      · exact absurd hs hstate
      · exact Option.some.inj h ▸ .endStep hs
      · exact Option.some.inj h ▸ .aborted hs
  | expiry hours =>
    simp only [sigalrmHandler, hmc]
    split_ifs with hstate
    · exact .delay hstate
    · exact .flip (not_not.mp hstate)

/-- A handler without a context does nothing, or aborts. -/
theorem Flow.step_of_none {cfg : Config A} {f g : Flow A} {e : ThreadEvent}
    (h : f.step cfg e = some g) (hmc : f.mc = none) :
    g.aborted = true ∨ g = f := by
  cases e with
  | fpTrap env siCode =>
    simp only [Flow.step, fpTrapHandler, hmc] at h
    split_ifs at h
    · simp [Flow.resume] at h
    · exact .inl (Option.some.inj h ▸ aborted_abortInHandler cfg env _)
    · simp [Flow.resume] at h
  | brkTrap env =>
    simp only [Flow.step, brkTrapHandler, hmc] at h
    split_ifs at h
    exact .inl (Option.some.inj h ▸ aborted_abortInHandler cfg env _)
  | expiry env =>
    simp only [Flow.step, sigalrmHandler, hmc] at h
    split_ifs at h
    exact .inr (Option.some.inj h).symm

/-- FPSpy does not come back from an abort. -/
theorem Effect.not_aborted {cfg : Config A} {mc : MonitoringContext} {f g : Flow A}
    {e : ThreadEvent} (h : Effect cfg mc f e g) (hnot : g.aborted = false) : f.aborted = false := by
  cases h with
  | beginStep | aborted | kick | delay | flip => exact hnot
  | surpriseFpe => exact absurd hnot (by simp [aborted_abortInHandler])
  | surpriseTrap => exact absurd hnot (by simp [aborted_abortInHandler])
  | endStep =>
    unfold brkAwaitTrap at hnot
    dsimp only at hnot
    split_ifs at hnot <;> exact hnot

/-- What holds after any step in a process that had not aborted before it. If the step aborts,
the dispositions are given back and the thread is disarmed. -/
structure Kept (cfg : Config A) (mc : MonitoringContext) (f g : Flow A) : Prop where
  inited : g.inited = true
  round : A.IsRoundConfig g.origRoundConfig
  oldsaFpe : g.oldsaFpe = f.oldsaFpe
  oldsaTrap : g.oldsaTrap = f.oldsaTrap
  mc : ∃ mc', g.mc = some mc' ∧ (g.aborted = false → mc'.abortingInTrap = mc.abortingInTrap)
  sigaction : g.aborted = false → g.sigaction = f.sigaction
  restored : g.aborted = true →
    g.sigaction .sigfpe = f.oldsaFpe ∧ g.sigaction .sigtrap = f.oldsaTrap ∧ g.Disarmed cfg

/-- Standing down and aborting, in a thread that has a context. -/
theorem standDown_abortInHandler_spec (cfg : Config A) (env : Env) {f : Flow A}
    (mc mc' : MonitoringContext) (hi : f.inited = true) (ha : f.aborted = false)
    (hround : A.IsRoundConfig f.origRoundConfig) :
    Kept cfg mc' f ((standDown cfg mc f).abortInHandler cfg env) := by
  have hspec := abortInHandler_spec cfg env (f := standDown cfg mc f) hi ha rfl
  obtain ⟨buffer, hmc⟩ := hspec.mc
  have hdown := disarmed_standDown cfg hround mc
  have hnot : ¬ ((standDown cfg mc f).abortInHandler cfg env).aborted = false := by
    simp [hspec.aborted]
  exact
    { inited := hspec.inited
      round := hspec.origRoundConfig.symm ▸ hround
      oldsaFpe := hspec.oldsaFpe
      oldsaTrap := hspec.oldsaTrap
      mc := ⟨_, hmc, fun h => absurd h hnot⟩
      sigaction := fun h => absurd h hnot
      restored := by
        refine fun _ => ⟨hspec.sigfpe, hspec.sigtrap, ?_, ?_⟩
        · rw [Flow.trapsUnmasked, hspec.uc]
          exact hdown.1
        · rw [Flow.singleStepping, hspec.uc, hmc]
          exact hdown.2 }

theorem Effect.kept {cfg : Config A} {mc : MonitoringContext} {f g : Flow A} {e : ThreadEvent}
    (h : Effect cfg mc f e g) (hi : f.inited = true) (ha : f.aborted = false)
    (hround : A.IsRoundConfig f.origRoundConfig) : Kept cfg mc f g := by
  have hnot : ¬ f.aborted = true := by simp [ha]
  cases h with
  | beginStep | aborted | delay | flip =>
    exact ⟨hi, hround, rfl, rfl, ⟨_, rfl, fun _ => rfl⟩, fun _ => rfl, fun h => absurd h hnot⟩
  | kick =>
    exact ⟨hi, A.isRoundConfig_get _ _, rfl, rfl, ⟨_, rfl, fun _ => rfl⟩, fun _ => rfl,
      fun h => absurd h hnot⟩
  | @surpriseFpe env siCode buffer written =>
    have h := standDown_abortInHandler_spec cfg env
      (f := f.sampled cfg env siCode mc written) { mc with traceRecords := buffer } mc hi ha hround
    exact ⟨h.inited, h.round, h.oldsaFpe, h.oldsaTrap, h.mc, h.sigaction, h.restored⟩
  | surpriseTrap => exact standDown_abortInHandler_spec cfg _ _ mc hi ha hround
  | @endStep env =>
    obtain ⟨mc', hend⟩ := brkAwaitTrap_spec cfg env hround mc
    exact ⟨hend.same.inited.trans hi, hend.origRoundConfig.symm ▸ hround, hend.same.oldsaFpe,
      hend.same.oldsaTrap, ⟨mc', hend.mc_eq, fun _ => hend.abortingInTrap⟩,
      fun _ => hend.same.sigaction, fun h => absurd (hend.same.aborted ▸ h) hnot⟩

/-! ## The start of a thread -/

def SigAction.Foreign (a : SigAction) : Prop :=
  a.handler ≠ .sigfpeHandler ∧ a.handler ≠ .sigtrapHandler

instance (a : SigAction) : Decidable a.Foreign := inferInstanceAs (Decidable (_ ∧ _))

/-- A thread whose context has just been brought up and waits for its first breakpoint trap. -/
structure Started (cfg : Config A) (mc : MonitoringContext) (f : Flow A) : Prop where
  mc_eq : f.mc = some mc
  state : mc.state = .init
  abortingInTrap : mc.abortingInTrap = false
  count : mc.count = 0
  trapModeState : mc.trapModeState = 0
  sampler : mc.sampler.state = .on
  inited : f.inited = true
  aborted : f.aborted = false
  round : A.IsRoundConfig f.origRoundConfig
  sigfpe : f.sigaction .sigfpe = cfg.sigfpeAction
  sigtrap : f.sigaction .sigtrap = cfg.sigtrapAction
  oldsaFpe : f.oldsaFpe.Foreign
  oldsaTrap : f.oldsaTrap.Foreign
  pushed : f.pushed = []

theorem initSampler_state (cfg : Config A) (env : Env) (s : SamplerState) :
    (initSampler cfg env s).state = .on := by
  unfold initSampler
  dsimp only
  split_ifs <;> rfl

theorem initSampler_delayed (cfg : Config A) (env : Env) (s : SamplerState) :
    (initSampler cfg env s).delayedProcessing = s.delayedProcessing := by
  unfold initSampler
  dsimp only
  split_ifs <;> rfl

/-- `bringup` starts a thread; its kick is the thread's first event. -/
theorem started_bringup {cfg : Config A} {env : Env} {mc : MonitoringContext} {f : Flow A}
    (libc : Libc A) (hmc : bringupMonitoringContext cfg env f.tid .zero = some mc)
    (haborted : f.aborted = false) (hround : A.IsRoundConfig f.origRoundConfig)
    (hfpe : (f.sigaction .sigfpe).Foreign) (htrap : (f.sigaction .sigtrap).Foreign)
    (hpushed : f.pushed = []) : Started cfg mc (bringup cfg env libc id f) := by
  have hset := setupSignals_spec cfg f.toGlobals
  have hnew := newContext_of_bringup hmc
  have hmc_eq : (bringup cfg env libc id f).mc = some mc := by
    simp only [bringup, hmc]
    split_ifs <;> rfl
  simp only [bringup, hmc] at hmc_eq ⊢
  exact
    { mc_eq := hmc_eq
      state := hnew.state
      abortingInTrap := hnew.abortingInTrap
      count := hnew.count
      trapModeState := hnew.trapModeState
      sampler := hnew.sampler ▸ initSampler_state cfg env _
      inited := rfl
      aborted := by split_ifs <;> exact hset.aborted.trans haborted
      round := by split_ifs <;> exact hset.origRoundConfig.symm ▸ hround
      sigfpe := by split_ifs <;> exact hset.sigfpe
      sigtrap := by split_ifs <;> exact hset.sigtrap
      oldsaFpe := by split_ifs <;> exact hset.oldsaFpe.symm ▸ hfpe
      oldsaTrap := by split_ifs <;> exact hset.oldsaTrap.symm ▸ htrap
      pushed := by split_ifs <;> exact hpushed }

/-! ## A process on x64 -/

namespace X64

def freshFlow : Flow x64 where
  toGlobals := .start fun _ => 0
  toThread := .start 1 ⟨fun _ => 0, 0x1f80⟩

def quietEnv : Env := ⟨0, 0, 0, 0, some 3⟩

/-- glibc: `FE_ALL_EXCEPT` is five of the six exceptions. -/
def libc : Libc x64 where
  fedisableexceptAll uc := { uc with mxcsr := uc.mxcsr ||| 0x1e80 }
  feclearexceptAll uc := { uc with mxcsr := uc.mxcsr &&& ~~~0x3d#32 }
  feclearexceptEnabled uc := { uc with mxcsr := uc.mxcsr &&& ~~~0x3d#32 }

def plain : Config x64 := .defaults statics

def monitored (cfg : Config x64) : Flow x64 := bringup cfg quietEnv libc id freshFlow

theorem started_monitored (cfg : Config x64) : ∃ mc, Started cfg mc (monitored cfg) := by
  obtain ⟨mc, hmc⟩ : ∃ mc, bringupMonitoringContext cfg quietEnv freshFlow.tid .zero = some mc := by
    simp only [bringupMonitoringContext, quietEnv]
    split_ifs <;> exact ⟨_, rfl⟩
  exact ⟨mc, started_bringup libc hmc rfl (by decide) (by decide) (by decide) rfl⟩

end X64

end FPSpy
