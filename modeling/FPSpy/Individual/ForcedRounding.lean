import FPSpy.Individual.Thread
import FPSpy.Monitor.Rounding

/-!
# Forced rounding along a run

Between the start of a thread and an abort every handler either forces FPSpy's rounding
configuration or leaves the configuration alone, as long as no limit makes it step back.
-/
namespace FPSpy.X64

open FPSpy

inductive RoundingEvent where
  | handler (e : ThreadEvent)
  | run (uc : UContext)

/-- The target raises flags, and does not write MXCSR otherwise. -/
def OnlyRaises (uc vc : UContext) : Prop := vc.mxcsr &&& ~~~0x3f#32 = uc.mxcsr &&& ~~~0x3f#32

instance (uc vc : UContext) : Decidable (OnlyRaises uc vc) := inferInstanceAs (Decidable (_ = _))

namespace ForcedRounding

def step (cfg : Config x64) (f : Flow x64) : RoundingEvent → Option (Flow x64)
  | .handler e => f.step cfg e
  | .run uc => if OnlyRaises f.uc uc then some { f with uc := uc } else none

/-- The one thread of a target with a setting of `FPSPY_FORCE_ROUNDING`, after `bringup` and before
the kick. -/
def start (cfg : Config x64) (buf : List Char) (env : Env) (libc : Libc x64) (tid : Nat)
    (uc : UContext) (inherited : Signal → SigAction) (code : Mem) : Flow x64 :=
  bringup (forced cfg buf uc.mxcsr) env libc id
    { toGlobals := { Globals.start code with
        sigaction := inherited
        origRoundConfig := (configRoundDazFtz buf uc.mxcsr).orig }
      toThread := .start tid uc }

/-- The invariant: once the thread has been started, its configuration is FPSpy's. -/
structure Holds (cfg : Config x64) (f : Flow x64) : Prop where
  round : x64.IsRoundConfig f.origRoundConfig
  forced : ∀ mc, f.mc = some mc → mc.state ≠ .init →
    mc.state ≠ .abort ∧ f.roundConfig cfg = cfg.ourRoundConfig

variable {cfg : Config x64} {f g : Flow x64} {mc : MonitoringContext} {e : ThreadEvent}

/-- Each effect of an event that does not abort keeps the configuration forced. -/
theorem Holds.effect (h : Holds cfg f) (hmax : cfg.maxcount = -1#32)
    (hcontrol : cfg.controlRoundConfig = true) (hmc : f.mc = some mc)
    (heffect : Effect cfg mc f e g) (hnot : g.aborted = false) : Holds cfg g := by
  have hreached : reachedMaxcount cfg (mc.count + 1) = false := by simp [reachedMaxcount, hmax]
  cases heffect with
  | beginStep buffer written =>
    refine ⟨h.round, fun mc' hmc' _ => ?_⟩
    obtain rfl := Option.some.inj hmc'
    exact ⟨by simp, rounding.get_beginStep hcontrol _⟩
  | surpriseFpe => exact absurd hnot (by simp [aborted_abortInHandler])
  | surpriseTrap => exact absurd hnot (by simp [aborted_abortInHandler])
  | aborted hstate => exact absurd hstate (h.forced mc hmc (by simp [hstate])).1
  | kick =>
    refine ⟨x64.isRoundConfig_get cfg.statics _, fun mc' hmc' _ => ?_⟩
    obtain rfl := Option.some.inj hmc'
    exact ⟨by simp, rounding.get_brkInit hcontrol _⟩
  | @endStep env =>
    obtain ⟨mc', hend⟩ := brkAwaitTrap_spec cfg env h.round mc
    have hforced := rounding.get_brkAwaitTrap env hcontrol h.round mc
    rw [hreached] at hforced
    refine ⟨hend.origRoundConfig.symm ▸ h.round, fun mc'' hmc'' _ => ⟨?_, hforced⟩⟩
    obtain rfl := Option.some.inj (hmc''.symm.trans hend.mc_eq)
    simp [hend.state]
  | delay =>
    refine ⟨h.round, fun mc' hmc' hinit => ?_⟩
    obtain rfl := Option.some.inj hmc'
    exact h.forced mc hmc hinit
  | flip hstate =>
    refine ⟨h.round, fun mc' hmc' _ => ?_⟩
    obtain rfl := Option.some.inj hmc'
    have hbefore := h.forced mc hmc (by simp [hstate])
    exact ⟨hbefore.1, (rounding.get_updateSampler mc).trans hbefore.2⟩

/-- Raising flags does not change the configuration. -/
theorem Holds.run (h : Holds cfg f) {uc : UContext} (honly : OnlyRaises f.uc uc) :
    Holds cfg { f with uc := uc } := by
  refine ⟨h.round, fun mc hmc hinit => ⟨(h.forced mc hmc hinit).1, ?_⟩⟩
  have hmask : mxcsrRoundDazFtzMask = ~~~0x3f#32 &&& mxcsrRoundDazFtzMask := by decide
  rw [← (h.forced mc hmc hinit).2]
  simp only [Flow.roundConfig, archGetRoundConfig]
  rw [hmask, ← BitVec.and_assoc, ← BitVec.and_assoc, honly]

/-- One event, whatever it is. -/
theorem step_preserves (hmax : cfg.maxcount = -1#32) (hcontrol : cfg.controlRoundConfig = true)
    {e : RoundingEvent} (h : f.aborted = false → Holds cfg f) (hstep : step cfg f e = some g)
    (hnot : g.aborted = false) : Holds cfg g := by
  cases e with
  | run uc =>
    simp only [step] at hstep
    split_ifs at hstep with honly
    obtain rfl := Option.some.inj hstep
    exact (h hnot).run honly
  | handler e =>
    cases hmc : f.mc with
    | none =>
      rcases Flow.step_of_none hstep hmc with ha | rfl
      · exact absurd ha (by simp [hnot])
      · exact h hnot
    | some mc =>
      have heffect := Flow.step_effect hstep hmc
      exact (h (heffect.not_aborted hnot)).effect hmax hcontrol hmc heffect hnot

theorem origRoundConfig_bringup (cfg : Config x64) (env : Env) (libc : Libc x64) (f : Flow x64) :
    (bringup cfg env libc id f).origRoundConfig = f.origRoundConfig := by
  unfold bringup
  dsimp only
  split
  · rfl
  · split_ifs <;> exact (setupSignals_spec cfg _).origRoundConfig

theorem state_bringup {cfg : Config x64} {env : Env} {libc : Libc x64} {f : Flow x64}
    {mc : MonitoringContext} (h : (bringup cfg env libc id f).mc = some mc) : mc.state = .init := by
  unfold bringup at h
  dsimp only at h
  split at h
  · exact absurd h.symm (Option.some_ne_none mc)
  · next slot hslot =>
    obtain ⟨fd, -, rfl⟩ := Option.map_eq_some_iff.mp hslot
    split_ifs at h <;> exact Option.some.inj h ▸ rfl

/-- A thread that has just been brought up waits to be started. -/
theorem holds_start (cfg : Config x64) (buf : List Char) (env : Env) (libc : Libc x64) (tid : Nat)
    (uc : UContext) (inherited : Signal → SigAction) (code : Mem) :
    Holds (forced cfg buf uc.mxcsr) (start cfg buf env libc tid uc inherited code) := by
  have horig : x64.IsRoundConfig (configRoundDazFtz buf uc.mxcsr).orig := by
    unfold configRoundDazFtz
    cases searchRoundMode buf <;> exact x64.isRoundConfig_get statics uc
  refine ⟨?_, fun mc hmc hinit => absurd (state_bringup hmc) hinit⟩
  rw [start, origRoundConfig_bringup]
  exact horig

/-- In every run without a limit, from the kick until an abort, the context holds exactly what the
user asked for. -/
theorem run_decodes (cfg : Config x64) (hmax : cfg.maxcount = -1#32) {buf : List Char}
    {mode : RoundMode} {dazftz : DazftzMode} (hrequest : Requests buf mode dazftz) (env : Env)
    (libc : Libc x64) (tid : Nat) (uc : UContext) (inherited : Signal → SigAction) (code : Mem)
    (es : List RoundingEvent) {s : Flow x64}
    (hrun : Run.run (step (forced cfg buf uc.mxcsr))
      (start cfg buf env libc tid uc inherited code) es = some s)
    (hnot : s.aborted = false) {mc : MonitoringContext} (hmc : s.mc = some mc)
    (hstarted : mc.state ≠ .init) :
    Decodes (archGetRoundConfig cfg.statics s.uc) mode dazftz := by
  have hconfig := configRoundDazFtz_eq hrequest uc.mxcsr
  have hcontrol : (forced cfg buf uc.mxcsr).controlRoundConfig = true := by simp [forced, hconfig]
  have hours : (forced cfg buf uc.mxcsr).ourRoundConfig = packed mode dazftz := by
    simp [forced, hconfig]
  have hinv : s.aborted = false → Holds (forced cfg buf uc.mxcsr) s := by
    refine Run.invariant (I := fun s : Flow x64 => s.aborted = false →
      Holds (forced cfg buf uc.mxcsr) s) ?_ ?_ hrun
    · exact fun f e g h hstep hnot => step_preserves hmax hcontrol h hstep hnot
    · exact fun _ => holds_start cfg buf env libc tid uc inherited code
  have hforced := ((hinv hnot).forced mc hmc hstarted).2
  rw [hours] at hforced
  rw [show archGetRoundConfig cfg.statics s.uc = packed mode dazftz from hforced]
  exact decodes_packed mode dazftz

def positiveDaz : List Char := "Positive;daz".toList

/-- The kick, a trap with an expiry during its step, the end of the step, the target raising a flag
while the sampler is off, and the next expiry. -/
theorem run_decodes_positiveDaz :
    ∃ (cfg : Config x64) (env : Env) (es : List RoundingEvent) (s : Flow x64)
      (mc : MonitoringContext), cfg.maxcount = -1#32 ∧ es.length = 6 ∧
      Requests positiveDaz .positive .dazNoFtz ∧
      Run.run (step (forced cfg positiveDaz 0x1f80))
        (start cfg positiveDaz env libc 1 ⟨fun _ => 0, 0x1f80⟩ (fun _ => .zero) fun _ => 0) es =
          some s ∧
      s.aborted = false ∧ s.mc = some mc ∧ mc.state ≠ .init ∧
      Decodes (archGetRoundConfig cfg.statics s.uc) .positive .dazNoFtz := by
  let cfg : Config x64 := { plain with timers := true }
  let env : Env := ⟨0, 0, 0, 5, some 3⟩
  let es : List RoundingEvent := [.handler (.brkTrap env), .handler (.fpTrap env 1),
    .handler (.expiry env), .handler (.brkTrap env), .run ⟨fun _ => 0, 0x5fc4⟩,
    .handler (.expiry env)]
  have hrequest : Requests positiveDaz .positive .dazNoFtz := ⟨by decide, by decide⟩
  have hends : (Run.run (step (forced cfg positiveDaz 0x1f80))
      (start cfg positiveDaz env libc 1 ⟨fun _ => 0, 0x1f80⟩ (fun _ => .zero) fun _ => 0) es).map
        (fun s => (s.aborted, s.mc.map (·.state))) = some (false, some .awaitFpe) := by decide
  obtain ⟨s, hs, hstate⟩ := Option.map_eq_some_iff.mp hends
  obtain ⟨hnot, hmc⟩ : s.aborted = false ∧ s.mc.map (·.state) = some .awaitFpe := by
    simpa using hstate
  obtain ⟨mc, hmc, hawait⟩ := Option.map_eq_some_iff.mp hmc
  have hstarted : mc.state ≠ .init := by simp [hawait]
  exact ⟨cfg, env, es, s, mc, rfl, rfl, hrequest, hs, hnot, hmc, hstarted,
    run_decodes cfg rfl hrequest env libc 1 ⟨fun _ => 0, 0x1f80⟩ _ _ es hs hnot hmc hstarted⟩

end ForcedRounding
end FPSpy.X64
