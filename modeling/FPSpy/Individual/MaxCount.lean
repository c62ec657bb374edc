import FPSpy.Individual.Thread
import FPSpy.Machine.X64

/-!
# The count limit

`FPSPY_MAXCOUNT=k` is enforced at the end of a single step: once the count has reached
`k` the traps are left masked. The sampler masks and unmasks on its own, without looking
at the count. When it switches from OFF to ON in a thread that has reached the limit, it
opens the traps again, and the thread goes on recording.

The limit holds in every run in which the timer never expires in AWAIT_FPE with the
sampler OFF and the limit reached. `WithinBudget` is the invariant: a thread with open
traps is below the limit and its sampler is ON.
-/
namespace FPSpy

variable {A : Arch} {cfg : Config A}

/-- The events recorded so far; the abort record is none. -/
def Flow.events (f : Flow A) : Nat := (f.pushed.filter (·.IsEvent)).length

/-- At most `maxcount` events, and no open trap once that many have been handled. -/
def Bounded (cfg : Config A) (f : Flow A) : Prop :=
  f.events ≤ cfg.maxcount.toNat ∧
    ∀ mc, f.mc = some mc → cfg.maxcount.toNat ≤ mc.count.toNat → f.trapsUnmasked cfg = false

/-- The event does not switch the sampler ON in a thread that has reached the limit. -/
def StaysOff (cfg : Config A) (f : Flow A) (e : ThreadEvent) : Prop :=
  ∀ env mc, e = .expiry env → f.mc = some mc → mc.state = .awaitFpe → mc.sampler.state = .off →
    mc.count.toNat < cfg.maxcount.toNat

def WithinBudget (cfg : Config A) (mc : MonitoringContext) (f : Flow A) : Prop :=
  match mc.state with
  | .init => mc.count = 0 ∧ f.events = 0 ∧ mc.sampler.state = .on
  | .awaitFpe => f.events ≤ mc.count.toNat ∧ mc.count.toNat ≤ cfg.maxcount.toNat ∧
      (f.trapsUnmasked cfg = true → mc.count.toNat < cfg.maxcount.toNat ∧ mc.sampler.state = .on)
  | .awaitTrap => f.events ≤ mc.count.toNat + 1 ∧ mc.count.toNat < cfg.maxcount.toNat ∧
      f.trapsUnmasked cfg = false ∧ mc.sampler.state = .on
  | .abort => f.events ≤ cfg.maxcount.toNat ∧ f.trapsUnmasked cfg = false

structure Counts (cfg : Config A) (f : Flow A) : Prop where
  inited : f.inited = true
  round : A.IsRoundConfig f.origRoundConfig
  context : ∃ mc, f.mc = some mc ∧ (f.aborted = true → mc.state = .abort) ∧ WithinBudget cfg mc f

section

variable {mc : MonitoringContext} {f g : Flow A} {e : ThreadEvent} {env : Env}

theorem Counts.bounded (h : Counts cfg f) (hmax : 1 ≤ cfg.maxcount.toInt) : Bounded cfg f := by
  obtain ⟨mc, hmc, -, hb⟩ := h.context
  have hpos : 1 ≤ cfg.maxcount.toNat := by
    have := Bits.toInt_eq_toNat_of_nonneg (show 0 ≤ cfg.maxcount.toInt by omega)
    omega
  have hall : f.events ≤ cfg.maxcount.toNat ∧
      (cfg.maxcount.toNat ≤ mc.count.toNat → f.trapsUnmasked cfg = false) := by
    unfold WithinBudget at hb
    cases hs : mc.state <;> simp only [hs] at hb
    · refine ⟨by omega, fun hle => ?_⟩
      rw [hb.1] at hle
      exact absurd hle (by simp; omega)
    · refine ⟨by omega, fun hle => ?_⟩
      by_contra hopen
      have := (hb.2.2 (by simpa using hopen)).1
      omega
    · exact ⟨by omega, fun _ => hb.2.2.1⟩
    · exact ⟨hb.1, fun _ => hb.2⟩
  refine ⟨hall.1, fun mc' hmc' hle => hall.2 ?_⟩
  rw [hmc] at hmc'
  exact Option.some.inj hmc' ▸ hle

theorem Started.counts (h : Started cfg mc f) : Counts cfg f where
  inited := h.inited
  round := h.round
  context := by
    refine ⟨mc, h.mc_eq, fun ha => by simp [h.aborted] at ha, ?_⟩
    simp [WithinBudget, h.state, h.count, h.sampler, Flow.events, h.pushed]

/-- A trap adds at most one event. -/
theorem events_sampled_le (siCode : BitVec 32) (written : List TraceRecord) :
    (f.sampled cfg env siCode mc written).events ≤ f.events + 1 := by
  simp only [Flow.events, Flow.sampled, List.filter_append, List.length_append]
  split_ifs
  · exact Nat.add_le_add_left (List.length_filter_le _ _) _
  · simp

/-- An abort keeps the count and the masks. -/
theorem counts_abortInHandler (hi : f.inited = true) (ha : f.aborted = false)
    (hround : A.IsRoundConfig f.origRoundConfig) (hmc : f.mc = some mc)
    (hevents : f.events ≤ cfg.maxcount.toNat) (hmasked : f.trapsUnmasked cfg = false) :
    Counts cfg (f.abortInHandler cfg env) := by
  have hspec := abortInHandler_spec cfg env hi ha hmc
  obtain ⟨buffer, hmc'⟩ := hspec.mc
  refine ⟨hspec.inited, hspec.origRoundConfig.symm ▸ hround, _, hmc', fun _ => rfl, ?_, ?_⟩
  · rwa [Flow.events, hspec.pushed]
  · rwa [Flow.trapsUnmasked, hspec.uc]

/-- The end of a step counts it, and leaves the traps open only below the limit. -/
theorem Counts.endStep (h : Counts cfg f) (hmax : 1 ≤ cfg.maxcount.toInt) (hmc : f.mc = some mc)
    (hstate : mc.state = .awaitTrap) : Counts cfg (brkAwaitTrap cfg env mc f) := by
  obtain ⟨mc₀, hmc₀, habort, hb⟩ := h.context
  obtain rfl := Option.some.inj (hmc₀.symm.trans hmc)
  simp only [WithinBudget, hstate] at hb
  obtain ⟨mc', hend⟩ := brkAwaitTrap_spec cfg env h.round mc₀
  have hcount : mc'.count.toNat = mc₀.count.toNat + 1 := by
    have := cfg.maxcount.isLt
    rw [hend.count, BitVec.toNat_add]
    simp
    omega
  refine ⟨hend.same.inited.trans h.inited, hend.origRoundConfig.symm ▸ h.round, mc', hend.mc_eq,
    fun ha => ?_, ?_⟩
  · exact absurd (habort (hend.same.aborted ▸ ha)) (by simp [hstate])
  simp only [WithinBudget, hend.state, hcount]
  refine ⟨?_, hb.2.1, fun hopen => ?_⟩
  · rw [Flow.events, hend.pushed]
    exact hb.1
  cases hd : mc₀.sampler.delayedProcessing with
  | false =>
    refine ⟨?_, by rw [hend.sampler, hd]; exact hb.2.2.2⟩
    by_contra hle
    have hreached : reachedMaxcount cfg (mc₀.count + 1) = true := by
      rw [reachedMaxcount_iff hmax, ← hend.count, hcount]
      omega
    simp [hend.masked_of_reached hd hreached] at hopen
  | true => simp [hend.masked_of_delayed hd hb.2.2.2] at hopen

/-- One event keeps the invariant, if it leaves the sampler OFF where the limit is reached. -/
theorem Counts.step (h : Counts cfg f) (hmax : 1 ≤ cfg.maxcount.toInt) (hoff : StaysOff cfg f e)
    (hstep : f.step cfg e = some g) : Counts cfg g := by
  obtain ⟨mc, hmc, habort, hb⟩ := h.context
  have hnot : mc.state ≠ .abort → f.aborted = false := by
    intro hs
    by_contra ha
    exact hs (habort (by simpa using ha))
  have hpos : 1 ≤ cfg.maxcount.toNat := by
    have := Bits.toInt_eq_toNat_of_nonneg (show 0 ≤ cfg.maxcount.toInt by omega)
    omega
  unfold WithinBudget at hb
  cases Flow.step_effect hstep hmc with
  | beginStep buffer written hstate hopen =>
    simp only [hstate] at hb
    obtain ⟨hlt, hon⟩ := hb.2.2 hopen
    refine ⟨h.inited, h.round, _, rfl, fun ha => ?_, ?_⟩
    · exact absurd (habort ha) (by simp [hstate])
    · refine ⟨?_, hlt, masked_beginStep _, hon⟩
      exact (events_sampled_le _ written).trans (by simpa using hb.1)
  | @surpriseFpe env siCode buffer written hstate hopen =>
    -- in AWAIT_TRAP and ABORT the traps are masked, so this is the first event, in INIT
    have hinit : mc.state = .init := by
      cases hs : mc.state <;> simp_all
    simp only [hinit] at hb
    refine counts_abortInHandler h.inited (hnot (by simp [hinit])) h.round rfl ?_
      (disarmed_standDown cfg h.round _).1
    exact (events_sampled_le siCode written).trans (by omega)
  | aborted hstate =>
    simp only [hstate] at hb
    refine ⟨h.inited, h.round, _, rfl, fun _ => hstate, ?_⟩
    simp only [WithinBudget, hstate]
    exact ⟨hb.1, (disarmed_standDown cfg h.round mc).1⟩
  | kick hstate =>
    simp only [hstate] at hb
    refine ⟨h.inited, A.isRoundConfig_get _ _, _, rfl, fun ha => ?_, ?_⟩
    · exact absurd (habort ha) (by simp [hstate])
    · refine ⟨hb.2.1.trans_le (Nat.zero_le _), ?_, fun _ => ⟨?_, hb.2.2⟩⟩
      · simp [hb.1]
      · simp only [hb.1, BitVec.ofNat_eq_ofNat, BitVec.toNat_ofNat]
        omega
  | @endStep env hstate => exact h.endStep hmax hmc hstate
  | surpriseTrap hstate =>
    simp only [hstate] at hb
    exact counts_abortInHandler h.inited (hnot (by simp [hstate])) h.round rfl
      (hb.1.trans hb.2.1) (disarmed_standDown cfg h.round _).1
  | delay hstate =>
    refine ⟨h.inited, h.round, _, rfl, habort, ?_⟩
    unfold WithinBudget
    cases hs : mc.state <;> simp only [hs] at hb ⊢
    · exact hb
    · exact absurd hs hstate
    · exact hb
    · exact hb
  | flip hstate =>
    simp only [hstate] at hb
    refine ⟨h.inited, h.round, _, rfl, habort, ?_⟩
    simp only [WithinBudget, hstate]
    refine ⟨hb.1, hb.2.1, fun hopen => ?_⟩
    cases hon : mc.sampler.state
    · exact ⟨hoff _ mc rfl hmc hstate hon, by simp [SamplerSwitch.flip]⟩
    · simp [masked_updateSampler_of_on hon] at hopen

/-- `FPSPY_MAXCOUNT` bounds the trace of a thread in every run that never switches the sampler
ON at the limit. -/
theorem run_bounded (hmax : 1 ≤ cfg.maxcount.toInt) (hstart : Started cfg mc f)
    {es : List ThreadEvent} (hoff : Run.Admits (Flow.step cfg) (StaysOff cfg) f es)
    (hrun : Run.run (Flow.step cfg) f es = some g) : Bounded cfg g :=
  (Run.invariant_of_admits (fun _ _ _ h hoff hstep => h.step hmax hoff hstep) hoff hstart.counts
    hrun).bounded hmax

end

/-! ## The sampler at the limit -/

namespace X64

def limitOne : Config x64 := { Config.defaults statics with maxcount := 1, timers := true }

def firstEvent : List ThreadEvent := [.brkTrap quietEnv, .fpTrap quietEnv 0, .brkTrap quietEnv]

theorem run_bounded_firstEvent :
    ∃ g, Run.run (Flow.step limitOne) (monitored limitOne) firstEvent = some g ∧
      Bounded limitOne g := by
  obtain ⟨mc, hstart⟩ := started_monitored limitOne
  have hrun : (Run.run (Flow.step limitOne) (monitored limitOne) firstEvent).isSome = true := by
    decide
  obtain ⟨g, hg⟩ := Option.isSome_iff_exists.mp hrun
  refine ⟨g, hg, run_bounded (by decide) hstart (Run.admits_of_forall ?_ _) hg⟩
  intro e he s env mc' hexp
  subst hexp
  simp [firstEvent] at he

/-- Two expiries later the traps are open again, and a second event is recorded. -/
theorem not_bounded_reopened :
    ∃ g, Run.run (Flow.step limitOne) (monitored limitOne)
      (firstEvent ++ [.expiry quietEnv, .expiry quietEnv, .fpTrap quietEnv 0]) = some g ∧
      ¬ Bounded limitOne g := by
  have hrun : (Run.run (Flow.step limitOne) (monitored limitOne)
      (firstEvent ++ [.expiry quietEnv, .expiry quietEnv, .fpTrap quietEnv 0])).map Flow.events =
        some 2 := by decide
  obtain ⟨g, hg, hevents⟩ := Option.map_eq_some_iff.mp hrun
  refine ⟨g, hg, fun hb => ?_⟩
  have := hb.1
  rw [hevents] at this
  exact absurd this (by decide)

end X64

end FPSpy
