import FPSpy.Individual.Thread
import FPSpy.Machine.Masking
import FPSpy.Monitor.Timer

/-!
# The sampler and the masks

A thread under the Poisson sampler. The one-shot timer expires at any time while it is
armed; in AWAIT_FPE the expiry switches the sampler and the masks at once, elsewhere it
is noted in `delayed_processing` and made up for at the end of the step.

`Coherent` ties the parts together. A noted expiry has used up the timer, and only a switch
arms it again: so there is never a second one to note, and every expiry is one switch.
-/
namespace FPSpy

variable {A : Arch}

def ThreadEvent.isExpiry : ThreadEvent → Bool
  | .expiry _ => true
  | _ => false

/-- A thread, with the expiries it has taken and how often its sampler has switched. -/
structure Sampled (A : Arch) extends Flow A where
  expiries : Nat
  flips : Nat

namespace Sampled

def switch (f : Flow A) : Option SamplerSwitch := f.mc.map (·.sampler.state)

def taking (s : Sampled A) : ThreadEvent → Flow A
  | .expiry _ => { s.toFlow with itimer := .expired }
  | _ => s.toFlow

/-- The thread after an event. An expiry needs an armed timer. -/
def step (cfg : Config A) (s : Sampled A) (e : ThreadEvent) : Option (Sampled A) :=
  if e.isExpiry ∧ s.itimer.armed = false then none
  else
    ((s.taking e).step cfg e).map fun g =>
      { toFlow := g
        expiries := s.expiries + if e.isExpiry then 1 else 0
        flips := s.flips + if switch g = switch s.toFlow then 0 else 1 }

def start (cfg : Config A) (env : Env) (libc : Libc A) (f : Flow A) : Sampled A where
  toFlow := bringup cfg env libc id f
  expiries := 0
  flips := 0

def MasksAgree (M : Masking A) (cfg : Config A) (f : Flow A) (mc : MonitoringContext) : Prop :=
  match mc.state with
  | .init => mc.sampler.state = .on
  | .awaitFpe =>
    (mc.sampler.state = .on → M.Opened cfg.statics f.uc) ∧
      (mc.sampler.state = .off → f.trapsUnmasked cfg = false)
  | .awaitTrap => mc.sampler.state = .on ∧ f.trapsUnmasked cfg = false
  | .abort => False

structure Coherent (M : Masking A) (cfg : Config A) (s : Sampled A) : Prop where
  inited : s.inited = true
  round : A.IsRoundConfig s.origRoundConfig
  context : ∃ mc, s.mc = some mc ∧ MasksAgree M cfg s.toFlow mc ∧
    s.flips + (if mc.sampler.delayedProcessing then 1 else 0) = s.expiries ∧
    (mc.sampler.delayedProcessing = true → s.itimer.armed = false)

variable {M : Masking A} {cfg : Config A} {mc : MonitoringContext} {f g : Flow A} {e : ThreadEvent}

theorem opened_forceRound {c : BitVec 32} (hc : A.IsRoundConfig c) {uc : A.UContext}
    (h : M.Opened cfg.statics uc) : M.Opened cfg.statics (forceRound cfg c uc) := by
  unfold forceRound
  split_ifs
  · exact M.opened_setRound _ _ _ hc h
  · exact h

theorem opened_brkInit (mc : MonitoringContext) (f : Flow A) :
    M.Opened cfg.statics (brkInit cfg mc f).uc :=
  M.opened_resetTrapMode _ _ _ _
    (opened_forceRound cfg.isRoundConfig_our (M.opened_unmask _ _))

theorem opened_updateSampler {env : Env} (h : mc.sampler.state = .off) (f : Flow A) :
    M.Opened cfg.statics (updateSampler cfg env mc f).uc := by
  simp only [updateSampler, h]
  exact M.opened_resetTrapMode _ _ _ _ (M.opened_unmask _ _)

/-- Without a limit the end of a step unmasks. -/
theorem opened_brkRearm (hmax : cfg.maxcount = -1#32) (mc : MonitoringContext) (f : Flow A) :
    M.Opened cfg.statics (brkRearm cfg mc f).uc := by
  have hreached : reachedMaxcount cfg (mc.count + 1) = false := by simp [reachedMaxcount, hmax]
  simp only [brkRearm, hreached]
  exact M.opened_resetTrapMode _ _ _ _
    (opened_forceRound cfg.isRoundConfig_our (M.opened_unmask _ _))

/-- What an event makes of a context: the masks still agree, a noted expiry has used up the timer,
and the expiries taken are the switches made and the one that is noted. -/
structure Accounted (M : Masking A) (cfg : Config A) (mc mc' : MonitoringContext) (e : ThreadEvent)
    (g : Flow A) : Prop where
  mc_eq : g.mc = some mc'
  agree : MasksAgree M cfg g mc'
  timer : mc'.sampler.delayedProcessing = true → g.itimer.armed = false
  balance : (if mc'.sampler.state = mc.sampler.state then 0 else 1) +
    (if mc'.sampler.delayedProcessing then 1 else 0) =
      (if mc.sampler.delayedProcessing then 1 else 0) + if e.isExpiry then 1 else 0

theorem accounted_updateSampler {env : Env} (mc₀ mc : MonitoringContext)
    (hstate : mc.state = .awaitFpe) (hsampler : mc.sampler = mc₀.sampler)
    (hone : (if mc₀.sampler.delayedProcessing then 1 else 0) + (if e.isExpiry then 1 else 0) = 1)
    (f : Flow A) :
    ∃ mc', Accounted M cfg mc₀ mc' e (updateSampler cfg env mc f) := by
  refine ⟨_, rfl, ?_, nofun, ?_⟩
  · simp only [MasksAgree, hstate]
    cases hs : mc.sampler.state with
    | on => exact ⟨nofun, fun _ => masked_updateSampler_of_on hs⟩
    | off => exact ⟨fun _ => opened_updateSampler hs f, nofun⟩
  · rw [hone, ← hsampler]
    cases mc.sampler.state <;> rfl

/-- Every event is accounted for. -/
theorem accounted_of_effect (h : Effect cfg mc f e g) (hmax : cfg.maxcount = -1#32)
    (hnot : g.aborted = false) (hagree : MasksAgree M cfg f mc)
    (hdelayed : e.isExpiry = true → mc.sampler.delayedProcessing = false)
    (htimer : mc.sampler.delayedProcessing = true ∨ e.isExpiry = true → f.itimer.armed = false) :
    ∃ mc', Accounted M cfg mc mc' e g := by
  cases h with
  | beginStep buffer written hstate hopen =>
    simp only [MasksAgree, hstate] at hagree
    have hon : mc.sampler.state = .on := by
      cases hs : mc.sampler.state with
      | on => rfl
      | off => simp [hagree.2 hs] at hopen
    exact ⟨_, rfl, ⟨hon, masked_beginStep _⟩, fun hd => htimer (.inl hd),
      by simp [ThreadEvent.isExpiry]⟩
  | surpriseFpe => exact absurd hnot (by simp [aborted_abortInHandler])
  | aborted hstate =>
    simp [MasksAgree, hstate] at hagree
  | kick hstate =>
    simp only [MasksAgree, hstate] at hagree
    refine ⟨_, rfl, ⟨fun _ => opened_brkInit mc f, fun hoff => ?_⟩, fun hd => htimer (.inl hd),
      by simp [ThreadEvent.isExpiry]⟩
    cases hagree.symm.trans hoff
  | @endStep env hstate =>
    simp only [MasksAgree, hstate] at hagree
    unfold brkAwaitTrap
    dsimp only
    split_ifs with hd
    · exact accounted_updateSampler mc
        { mc with
          count := mc.count + 1
          trapModeState := (brkRearm cfg mc f).state
          state := .awaitFpe }
        rfl rfl (e := .brkTrap env) (by rw [if_pos hd]; rfl) _
    · refine ⟨_, rfl, ⟨fun _ => opened_brkRearm hmax mc f, fun hoff => ?_⟩,
        fun hd' => absurd hd' hd, by simp [ThreadEvent.isExpiry]⟩
      cases hagree.1.symm.trans hoff
  | surpriseTrap => exact absurd hnot (by simp [aborted_abortInHandler])
  | delay hstate =>
    refine ⟨_, rfl, ?_, fun _ => htimer (.inr rfl), by simp [ThreadEvent.isExpiry, hdelayed rfl]⟩
    cases hs : mc.state with
    | awaitFpe => exact absurd hs hstate
    | abort => simp [MasksAgree, hs] at hagree
    | init | awaitTrap =>
      simp only [MasksAgree, hs] at hagree ⊢
      exact hagree
  | flip hstate =>
    exact accounted_updateSampler mc mc hstate rfl (by simp [ThreadEvent.isExpiry, hdelayed rfl]) f

variable {s t : Sampled A}

theorem switch_eq {mc mc' : MonitoringContext} (hf : f.mc = some mc) (hg : g.mc = some mc') :
    switch g = switch f ↔ mc'.sampler.state = mc.sampler.state := by
  simp [switch, hf, hg]

theorem step_cases (h : s.step cfg e = some t) :
    ¬ (e.isExpiry = true ∧ s.itimer.armed = false) ∧ ∃ g, (s.taking e).step cfg e = some g ∧
      t = { toFlow := g
            expiries := s.expiries + if e.isExpiry then 1 else 0
            flips := s.flips + if switch g = switch s.toFlow then 0 else 1 } := by
  have harmed : ¬ (e.isExpiry = true ∧ s.itimer.armed = false) := by
    intro hidle
    simp [Sampled.step, hidle] at h
  rw [Sampled.step, if_neg harmed] at h
  obtain ⟨g, hg, rfl⟩ := Option.map_eq_some_iff.mp h
  exact ⟨harmed, g, hg, rfl⟩

theorem Coherent.step (h : Coherent M cfg s) (hmax : cfg.maxcount = -1#32)
    (hstep : s.step cfg e = some t) (hnot : t.aborted = false) : Coherent M cfg t := by
  obtain ⟨hi, hround, mc, hmc, hagree, hbalance, htimer⟩ := h
  obtain ⟨harmed, g, hg, rfl⟩ := step_cases hstep
  have hmc' : (s.taking e).mc = some mc := by cases e <;> exact hmc
  have hi' : (s.taking e).inited = true := by cases e <;> exact hi
  have hround' : A.IsRoundConfig (s.taking e).origRoundConfig := by cases e <;> exact hround
  have hagree' : MasksAgree M cfg (s.taking e) mc := by cases e <;> exact hagree
  -- an expiry comes from an armed timer, so none is noted yet
  have hdelayed : e.isExpiry = true → mc.sampler.delayedProcessing = false := by
    intro he
    by_contra hd
    exact harmed ⟨he, htimer (by simpa using hd)⟩
  have htaken : mc.sampler.delayedProcessing = true ∨ e.isExpiry = true →
      (s.taking e).itimer.armed = false := by
    intro hor
    cases e with
    | expiry => rfl
    | fpTrap | brkTrap => exact htimer (hor.resolve_right (by simp [ThreadEvent.isExpiry]))
  have heffect := Flow.step_effect hg hmc'
  have hkept := heffect.kept hi' (heffect.not_aborted hnot) hround'
  obtain ⟨mc', hacc⟩ := accounted_of_effect heffect hmax hnot hagree' hdelayed htaken
  refine ⟨hkept.inited, hkept.round, mc', hacc.mc_eq, hacc.agree, ?_, hacc.timer⟩
  have hflips := hacc.balance
  simp only [switch_eq hmc hacc.mc_eq]
  omega

/-- The state claimed in every run: the masks follow the sampler, and every expiry is one switch or
is noted. -/
structure InStep (M : Masking A) (cfg : Config A) (s : Sampled A) (mc : MonitoringContext) :
    Prop where
  on : mc.state = .awaitFpe → mc.sampler.state = .on → M.Opened cfg.statics s.uc
  off : mc.state = .awaitFpe → mc.sampler.state = .off → s.trapsUnmasked cfg = false
  unmasked_iff : mc.state = .awaitFpe → M.Monitors cfg.statics s.uc →
    (s.trapsUnmasked cfg = true ↔ mc.sampler.state = .on)
  stepping : mc.state = .awaitTrap → s.trapsUnmasked cfg = false
  flips : s.flips + (if mc.sampler.delayedProcessing then 1 else 0) = s.expiries

theorem Coherent.inStep (h : Coherent M cfg s) : ∃ mc, s.mc = some mc ∧ InStep M cfg s mc := by
  obtain ⟨-, -, mc, hmc, hagree, hbalance, -⟩ := h
  have hawait : mc.state = .awaitFpe →
      (mc.sampler.state = .on → M.Opened cfg.statics s.uc) ∧
        (mc.sampler.state = .off → s.trapsUnmasked cfg = false) := by
    intro hstate
    simpa only [MasksAgree, hstate] using hagree
  refine ⟨mc, hmc, fun hs => (hawait hs).1, fun hs => (hawait hs).2, fun hs hmon => ?_,
    fun hs => ?_, hbalance⟩
  · cases hsw : mc.sampler.state with
    | on => exact iff_of_true (M.unmasked_of_opened _ _ hmon ((hawait hs).1 hsw)) rfl
    | off => simp [(hawait hs).2 hsw]
  · simp only [MasksAgree, hs] at hagree
    exact hagree.2

theorem coherent_start {env : Env} {libc : Libc A}
    (hmc : bringupMonitoringContext cfg env f.tid .zero = some mc)
    (hround : A.IsRoundConfig f.origRoundConfig) : Coherent M cfg (start cfg env libc f) := by
  have hset := setupSignals_spec cfg f.toGlobals
  have hnew := newContext_of_bringup hmc
  have hstate := hnew.state
  have hon : mc.sampler.state = .on := hnew.sampler ▸ initSampler_state cfg env _
  have hnone : mc.sampler.delayedProcessing = false := hnew.sampler ▸ initSampler_delayed cfg env _
  have hmc_eq : (start cfg env libc f).mc = some mc := by
    simp only [start, bringup, hmc]
    split_ifs <;> rfl
  refine ⟨?_, ?_, mc, hmc_eq, ?_, ?_, ?_⟩
  · simp only [start, bringup, hmc]
  · simp only [start, bringup, hmc]
    split_ifs <;> exact hset.origRoundConfig.symm ▸ hround
  · simpa only [MasksAgree, hstate] using hon
  · simp [start, hnone]
  · simp [hnone]

theorem monitored_abortInHandler (cfg : Config A) (env : Env) (mc : MonitoringContext)
    (hi : f.inited = true) :
    ((standDown cfg mc f).abortInHandler cfg env).inited = true ∧
      ((standDown cfg mc f).abortInHandler cfg env).mc.isSome = true := by
  cases ha : f.aborted with
  | true =>
    rw [Flow.abortInHandler, abortOperation_of_aborted _ hi ha]
    exact ⟨hi, rfl⟩
  | false =>
    have hspec := abortInHandler_spec cfg env (f := standDown cfg mc f) hi ha rfl
    obtain ⟨buffer, hmc⟩ := hspec.mc
    exact ⟨hspec.inited, by rw [hmc]; rfl⟩

/-- A thread that has a context keeps one. -/
theorem monitored_of_effect (h : Effect cfg mc f e g) (hi : f.inited = true) :
    g.inited = true ∧ g.mc.isSome = true := by
  cases h with
  | beginStep | aborted | kick | delay | flip => exact ⟨hi, rfl⟩
  | surpriseFpe | surpriseTrap => exact monitored_abortInHandler cfg _ _ hi
  | endStep =>
    unfold brkAwaitTrap
    dsimp only
    split_ifs <;> exact ⟨hi, rfl⟩

theorem monitored_step (hi : s.inited = true) (hmc : s.mc.isSome = true)
    (hstep : s.step cfg e = some t) :
    (t.inited = true ∧ t.mc.isSome = true) ∧ (t.aborted = false → s.aborted = false) := by
  obtain ⟨-, g, hg, rfl⟩ := step_cases hstep
  obtain ⟨mc, hmc⟩ := Option.isSome_iff_exists.mp hmc
  have hi' : (s.taking e).inited = true := by cases e <;> exact hi
  have heffect := Flow.step_effect hg (show (s.taking e).mc = some mc by cases e <;> exact hmc)
  refine ⟨monitored_of_effect heffect hi', fun hnot => ?_⟩
  have ha := heffect.not_aborted hnot
  cases e <;> exact ha

/-- In every run of one thread without an abort, the masks follow the sampler. -/
theorem run_inStep (M : Masking A) (cfg : Config A) (env : Env) (libc : Libc A) {f : Flow A}
    (hmax : cfg.maxcount = -1#32) (hup : (bringupMonitoringContext cfg env f.tid .zero).isSome)
    (hround : A.IsRoundConfig f.origRoundConfig) (es : List ThreadEvent)
    (hrun : Run.run (step cfg) (start cfg env libc f) es = some s) (hnot : s.aborted = false) :
    ∃ mc, s.mc = some mc ∧ InStep M cfg s mc := by
  obtain ⟨mc, hmc⟩ := Option.isSome_iff_exists.mp hup
  have hstart : Coherent M cfg (start cfg env libc f) := coherent_start hmc hround
  have hinv : (s.inited = true ∧ s.mc.isSome = true) ∧ (s.aborted = false → Coherent M cfg s) := by
    refine Run.invariant (I := fun s : Sampled A => (s.inited = true ∧ s.mc.isSome = true) ∧
      (s.aborted = false → Coherent M cfg s)) ?_ ?_ hrun
    · rintro s e t ⟨⟨hi, hmc⟩, hcoh⟩ hstep
      obtain ⟨hmon, hback⟩ := monitored_step hi hmc hstep
      exact ⟨hmon, fun hnot => (hcoh (hback hnot)).step hmax hstep hnot⟩
    · obtain ⟨mc, hmc, -⟩ := hstart.context
      exact ⟨⟨hstart.inited, by rw [hmc]; rfl⟩, fun _ => hstart⟩
  exact (hinv.2 hnot).inStep

open X64 in
/-- An expiry during a step over an instruction: noted there, made up for at its end. -/
theorem run_inStep_delayed :
    ∃ cfg : Config x64, cfg.maxcount = -1#32 ∧ cfg.timers = true ∧ ∃ env s mc,
      (bringupMonitoringContext cfg env freshFlow.tid .zero).isSome = true ∧
      x64.IsRoundConfig freshFlow.origRoundConfig ∧
      Run.run (step cfg) (start cfg env libc freshFlow)
        [.brkTrap env, .fpTrap env 1, .expiry env, .brkTrap env] = some s ∧
      s.aborted = false ∧ s.flips = 1 ∧ s.expiries = 1 ∧ s.mc = some mc ∧
      InStep x64Masking cfg s mc := by
  let cfg : Config x64 := { plain with timers := true }
  let env : Env := ⟨0, 0, 0, 5, some 3⟩
  have hrun : (Run.run (step cfg) (start cfg env libc freshFlow)
      [.brkTrap env, .fpTrap env 1, .expiry env, .brkTrap env]).map
        (fun s => (s.aborted, s.flips, s.expiries)) = some (false, 1, 1) := by decide
  obtain ⟨s, hs, hends⟩ := Option.map_eq_some_iff.mp hrun
  obtain ⟨hnot, hflips, hexpiries⟩ : s.aborted = false ∧ s.flips = 1 ∧ s.expiries = 1 := by
    simpa using hends
  have hround : x64.IsRoundConfig freshFlow.origRoundConfig := by decide
  obtain ⟨mc, hmc, hstep⟩ := run_inStep x64Masking cfg env libc rfl rfl hround _ hs hnot
  exact ⟨cfg, rfl, rfl, env, s, mc, rfl, hround, hs, hnot, hflips, hexpiries, hmc, hstep⟩

end Sampled
end FPSpy
