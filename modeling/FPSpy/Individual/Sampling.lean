import FPSpy.Individual.Thread
import FPSpy.Lib.Pick
import FPSpy.Monitor.Numbers

/-!
# The sample period

`FPSPY_SAMPLE=k` means that only every `k`th exception is recorded. The handler tests
`mc->count % sample_period`, where the signed period is converted to the 64 bits of the
counter. The text is never checked: where `atoi` makes 0 of it, the first event divides by
zero. Otherwise the counter is the index of the event modulo `2^64` (`Numbered`), so for a
positive `k` the events are the right ones for as long as the counter does not wrap, and
forever if `k` divides `2^64`.
-/
namespace FPSpy

variable {A : Arch} {cfg : Config A} {f g : Flow A} {mc : MonitoringContext} {n : Nat}

/-- Events are recorded at all: `FPSPY_ABORT` ends the process first, and takes the trace
file away. -/
def Config.tracesEvents (cfg : Config A) : Bool := cfg.createMonitorFile && !cfg.abortOnFpe

def ThreadEvent.isFpTrap : ThreadEvent → Bool
  | .fpTrap _ _ => true
  | _ => false

def fpTraps (es : List ThreadEvent) : Nat := es.countP (·.isFpTrap)

/-- The next instruction may take an FP trap into FPSpy's handler. -/
def Flow.CanTrap (cfg : Config A) (f : Flow A) : Prop :=
  f.trapsUnmasked cfg = true ∧ (f.sigaction .sigfpe).handler = .sigfpeHandler

instance (cfg : Config A) (f : Flow A) : Decidable (f.CanTrap cfg) :=
  inferInstanceAs (Decidable (_ ∧ _))

/-- The event of index `n` is sampled as documented. -/
structure SampledRight (cfg : Config A) (f : Flow A) (n : Nat) (env : Env) (siCode : BitVec 32) :
    Prop where
  survives : (fpTrapHandler cfg env siCode f).2 ≠ .divideError
  recorded : 1 ≤ cfg.samplePeriod.toInt → ∀ mc, f.mc = some mc →
    (fpTrapHandler cfg env siCode f).1.pushed =
      f.pushed ++ if cfg.tracesEvents = true ∧ cfg.samplePeriod.toNat ∣ n then
        [eventRecord cfg env siCode mc f] else []

/-- So is every event of the run `es` from `f`, and any that comes next. -/
def SampledAlong (cfg : Config A) (f : Flow A) (es : List ThreadEvent) : Prop :=
  ∀ pre g, pre <+: es → Run.run (Flow.step cfg) f pre = some g → g.CanTrap cfg →
    ∀ env siCode, SampledRight cfg g (fpTraps pre) env siCode

/-! ## One event -/

section

variable {env : Env} {siCode : BitVec 32}

theorem divideError_iff (hmc : f.mc = some mc) :
    (fpTrapHandler cfg env siCode f).2 = .divideError ↔
      cfg.samplePeriod = 0#32 ∧ cfg.abortOnFpe = false := by
  cases habort : cfg.abortOnFpe with
  | true => simp [fpTrapHandler, habort]
  | false =>
    by_cases hperiod : cfg.samplePeriod = 0#32
    · simp [fpTrapHandler, habort, hmc, hperiod]
    · obtain ⟨buffer, written, heq⟩ := fpTrapHandler_eq cfg env siCode hmc habort hperiod
      rw [heq]
      split_ifs <;> simp [hperiod]

/-- The handler pushes the record of an event that it samples, and no other. -/
theorem pushed_fpTrapHandler (hmc : f.mc = some mc) (hperiod : cfg.samplePeriod ≠ 0#32) :
    (fpTrapHandler cfg env siCode f).1.pushed =
      f.pushed ++ if cfg.abortOnFpe = false ∧ cfg.records mc.count = true then
        [eventRecord cfg env siCode mc f] else [] := by
  cases habort : cfg.abortOnFpe with
  | true => simp [fpTrapHandler, habort]
  | false =>
    obtain ⟨buffer, written, heq⟩ := fpTrapHandler_eq cfg env siCode hmc habort hperiod
    rw [heq]
    split_ifs <;> simp_all [beginStep, standDown, Flow.sampled]

/-- The test of the handler, by the index of the event. -/
theorem records_iff (hk : 1 ≤ cfg.samplePeriod.toInt) (n : Nat) :
    (cfg.abortOnFpe = false ∧ cfg.records (BitVec.ofNat 64 n) = true) ↔
      (cfg.tracesEvents = true ∧ cfg.samplePeriod.toNat ∣ n % 2 ^ 64) := by
  have hmod := count_mod_samplePeriod cfg (show 0 ≤ cfg.samplePeriod.toInt by omega)
    (BitVec.ofNat 64 n)
  rw [BitVec.toNat_ofNat] at hmod
  simp only [Config.records, Config.tracesEvents, Bool.and_eq_true, decide_eq_true_eq, hmod,
    Bool.not_eq_true']
  tauto

/-- An event is sampled as documented exactly if nothing is divided by zero, and a positive
period divides the counter where it divides the index. -/
theorem sampledRight_iff (hmc : f.mc = some mc) (hcount : mc.count = BitVec.ofNat 64 n) :
    SampledRight cfg f n env siCode ↔
      (cfg.samplePeriod = 0#32 → cfg.abortOnFpe = true) ∧
      (1 ≤ cfg.samplePeriod.toInt → cfg.tracesEvents = true →
        (cfg.samplePeriod.toNat ∣ n % 2 ^ 64 ↔ cfg.samplePeriod.toNat ∣ n)) := by
  have hsurvives : (fpTrapHandler cfg env siCode f).2 ≠ .divideError ↔
      (cfg.samplePeriod = 0#32 → cfg.abortOnFpe = true) := by
    rw [Ne, divideError_iff hmc]
    simp
  have hrecorded (hk : 1 ≤ cfg.samplePeriod.toInt) :
      ((fpTrapHandler cfg env siCode f).1.pushed =
        f.pushed ++ if cfg.tracesEvents = true ∧ cfg.samplePeriod.toNat ∣ n then
          [eventRecord cfg env siCode mc f] else []) ↔
      (cfg.tracesEvents = true →
        (cfg.samplePeriod.toNat ∣ n % 2 ^ 64 ↔ cfg.samplePeriod.toNat ∣ n)) := by
    have hperiod : cfg.samplePeriod ≠ 0#32 := by
      intro h
      rw [h] at hk
      exact absurd hk (by decide)
    rw [pushed_fpTrapHandler hmc hperiod, hcount, List.append_cancel_left_eq]
    simp only [records_iff hk]
    split_ifs <;> simp_all
  constructor
  · intro h
    exact ⟨hsurvives.mp h.survives, fun hk => (hrecorded hk).mp (h.recorded hk mc hmc)⟩
  · intro h
    refine ⟨hsurvives.mpr h.1, fun hk mc' hmc' => ?_⟩
    obtain rfl := Option.some.inj (hmc.symm.trans hmc')
    exact (hrecorded hk).mpr (h.2 hk)

end

/-! ## The counter -/

def Tallies (cfg : Config A) (n : Nat) (mc : MonitoringContext) (f : Flow A) : Prop :=
  match mc.state with
  | .init => mc.count = 0 ∧ n = 0
  | .awaitFpe => mc.count = BitVec.ofNat 64 n
  | .awaitTrap => mc.count + 1 = BitVec.ofNat 64 n ∧ f.trapsUnmasked cfg = false
  | .abort => (f.sigaction .sigfpe).handler ≠ .sigfpeHandler

structure Numbered (cfg : Config A) (n : Nat) (f : Flow A) : Prop where
  inited : f.inited = true
  round : A.IsRoundConfig f.origRoundConfig
  oldsaFpe : f.oldsaFpe.Foreign
  context : ∃ mc, f.mc = some mc ∧ (f.aborted = true → mc.state = .abort) ∧ Tallies cfg n mc f

theorem Started.numbered (h : Started cfg mc f) : Numbered cfg 0 f where
  inited := h.inited
  round := h.round
  oldsaFpe := h.oldsaFpe
  context := by
    refine ⟨mc, h.mc_eq, fun ha => by simp [h.aborted] at ha, ?_⟩
    simp [Tallies, h.state, h.count]

/-- Wherever an event can happen, the counter holds its index. -/
theorem Numbered.count_eq (h : Numbered cfg n f) (htrap : f.CanTrap cfg) :
    ∃ mc, f.mc = some mc ∧ mc.count = BitVec.ofNat 64 n := by
  obtain ⟨mc, hmc, -, htally⟩ := h.context
  refine ⟨mc, hmc, ?_⟩
  unfold Tallies at htally
  cases hs : mc.state <;> simp only [hs] at htally
  · rw [htally.1, htally.2]
    rfl
  · exact htally
  · exact absurd htrap.1 (by simp [htally.2])
  · exact absurd htrap.2 htally

/-- An abort takes the handler away, so that the counter matters no more. -/
theorem numbered_abortInHandler {env : Env} (hi : f.inited = true) (ha : f.aborted = false)
    (hround : A.IsRoundConfig f.origRoundConfig) (horig : f.oldsaFpe.Foreign)
    (hmc : f.mc = some mc) : Numbered cfg n (f.abortInHandler cfg env) := by
  have hspec := abortInHandler_spec cfg env hi ha hmc
  obtain ⟨buffer, hmc'⟩ := hspec.mc
  refine ⟨hspec.inited, hspec.origRoundConfig.symm ▸ hround, hspec.oldsaFpe.symm ▸ horig,
    _, hmc', fun _ => rfl, ?_⟩
  simp only [Tallies, hspec.sigfpe]
  exact horig.1

/-- The end of a step counts its event. -/
theorem Numbered.endStep {env : Env} (h : Numbered cfg n f) (hmc : f.mc = some mc)
    (hstate : mc.state = .awaitTrap) : Numbered cfg n (brkAwaitTrap cfg env mc f) := by
  obtain ⟨mc₀, hmc₀, habort, htally⟩ := h.context
  obtain rfl := Option.some.inj (hmc₀.symm.trans hmc)
  simp only [Tallies, hstate] at htally
  obtain ⟨mc', hend⟩ := brkAwaitTrap_spec cfg env h.round mc₀
  refine ⟨hend.same.inited.trans h.inited, hend.origRoundConfig.symm ▸ h.round,
    hend.same.oldsaFpe.symm ▸ h.oldsaFpe, mc', hend.mc_eq, fun ha => ?_, ?_⟩
  · exact absurd (habort (hend.same.aborted ▸ ha)) (by simp [hstate])
  · simp only [Tallies, hend.state, hend.count]
    exact htally.1

/-- An event adds one to the index of the next. -/
theorem Numbered.step {e : ThreadEvent} (h : Numbered cfg n f) (hstep : f.step cfg e = some g) :
    Numbered cfg (n + fpTraps [e]) g := by
  obtain ⟨mc, hmc, habort, htally⟩ := h.context
  have hnot (hs : mc.state ≠ .abort) : f.aborted = false := by
    by_contra ha
    exact hs (habort (by simpa using ha))
  unfold Tallies at htally
  cases Flow.step_effect hstep hmc with
  | beginStep buffer written hstate hopen =>
    simp only [hstate] at htally
    refine ⟨h.inited, h.round, h.oldsaFpe, _, rfl, fun ha => ?_, ?_⟩
    · exact absurd (habort ha) (by simp [hstate])
    · refine ⟨?_, masked_beginStep _⟩
      rw [htally, fpTraps, BitVec.ofNat_add]
      rfl
  | surpriseFpe buffer written hstate hopen =>
    have hlive : mc.state ≠ .abort := by
      intro hs
      simp only [hs] at htally
      simp only [Flow.step, htally, and_false, if_false] at hstep
      cases hstep
    exact numbered_abortInHandler h.inited (hnot hlive) h.round h.oldsaFpe rfl
  | aborted hstate =>
    simp only [hstate] at htally
    refine ⟨h.inited, h.round, h.oldsaFpe, _, rfl, fun _ => hstate, ?_⟩
    simp only [Tallies, hstate]
    exact htally
  | kick hstate =>
    simp only [hstate] at htally
    refine ⟨h.inited, A.isRoundConfig_get _ _, h.oldsaFpe, _, rfl, fun ha => ?_, ?_⟩
    · exact absurd (habort ha) (by simp [hstate])
    · simp only [Tallies, htally.1, htally.2]
      rfl
  | endStep hstate => exact h.endStep hmc hstate
  | surpriseTrap hstate =>
    exact numbered_abortInHandler h.inited (hnot (by simp [hstate])) h.round h.oldsaFpe rfl
  | delay hstate =>
    refine ⟨h.inited, h.round, h.oldsaFpe, _, rfl, habort, ?_⟩
    unfold Tallies
    cases hs : mc.state <;> simp only [hs] at htally ⊢
    · exact htally
    · exact absurd hs hstate
    · exact htally
    · exact htally
  | flip hstate =>
    simp only [hstate] at htally
    refine ⟨h.inited, h.round, h.oldsaFpe, _, rfl, habort, ?_⟩
    simp only [Tallies, hstate]
    exact htally

theorem Numbered.run {es : List ThreadEvent} (h : Numbered cfg n f)
    (hrun : Run.run (Flow.step cfg) f es = some g) : Numbered cfg (n + fpTraps es) g := by
  induction es generalizing f n with
  | nil =>
    cases hrun
    exact h
  | cons e es ih =>
    obtain ⟨f', hstep, hrest⟩ := Run.run_cons.mp hrun
    have hsplit : fpTraps (e :: es) = fpTraps [e] + fpTraps es := by
      rw [fpTraps, ← List.singleton_append, List.countP_append]
      rfl
    rw [hsplit, ← Nat.add_assoc]
    exact ih (h.step hstep) hrest

/-! ## All events -/

theorem canTrap_of_step {e : ThreadEvent} (hstep : f.step cfg e = some g)
    (he : e.isFpTrap = true) : f.CanTrap cfg := by
  cases Flow.handlerStep_of_step hstep with
  | fpTrap hopen hours => exact ⟨hopen, hours⟩
  | brkTrap | expiry => cases he

/-- Every index up to that of the next event is the index of an event. -/
theorem exists_event {es : List ThreadEvent} (hrun : Run.run (Flow.step cfg) f es = some g)
    (htrap : g.CanTrap cfg) (hn : n ≤ fpTraps es) :
    ∃ pre g', pre <+: es ∧ Run.run (Flow.step cfg) f pre = some g' ∧ g'.CanTrap cfg ∧
      fpTraps pre = n := by
  obtain rfl | hlt := Nat.eq_or_lt_of_le hn
  · exact ⟨es, g, List.prefix_rfl, hrun, htrap, rfl⟩
  · obtain ⟨pre, e, post, rfl, he, hcount⟩ := exists_split_of_lt_countP hlt
    obtain ⟨g', hpre, hrest⟩ := Run.run_append.mp hrun
    obtain ⟨t, hstep, -⟩ := Run.run_cons.mp hrest
    exact ⟨pre, g', List.prefix_append _ _, hpre, canTrap_of_step hstep he, hcount⟩

/-- The events of a run are sampled as documented exactly if `atoi` does not make 0 of
`FPSPY_SAMPLE`, and a positive period divides the width of the counter or the run ends before
the counter wraps. -/
theorem sampledAlong_iff (cfg : Config A) (sample : List Char)
    (hstart : Started (cfg.readSample sample) mc f) {es : List ThreadEvent}
    (hrun : Run.run (Flow.step (cfg.readSample sample)) f es = some g)
    (htrap : g.CanTrap (cfg.readSample sample)) :
    SampledAlong (cfg.readSample sample) f es ↔
      (atoi sample = 0#32 → cfg.abortOnFpe = true) ∧
      (1 ≤ (atoi sample).toInt → cfg.tracesEvents = true → 2 ^ 64 ≤ fpTraps es →
        (atoi sample).toNat ∣ 2 ^ 64) := by
  have hevent : ∀ {pre g'}, Run.run (Flow.step (cfg.readSample sample)) f pre = some g' →
      g'.CanTrap (cfg.readSample sample) → ∀ env siCode,
      (SampledRight (cfg.readSample sample) g' (fpTraps pre) env siCode ↔
        (atoi sample = 0#32 → cfg.abortOnFpe = true) ∧
        (1 ≤ (atoi sample).toInt → cfg.tracesEvents = true →
          ((atoi sample).toNat ∣ fpTraps pre % 2 ^ 64 ↔ (atoi sample).toNat ∣ fpTraps pre))) := by
    intro pre g' hpre htrap' env siCode
    obtain ⟨mc', hmc, hcount⟩ := (hstart.numbered.run hpre).count_eq htrap'
    rw [Nat.zero_add] at hcount
    exact sampledRight_iff hmc hcount
  constructor
  · intro h
    have hlast :=
      (hevent hrun htrap ⟨0, 0, 0, 0, none⟩ 0).mp (h es g List.prefix_rfl hrun htrap _ _)
    refine ⟨hlast.1, fun hk htraces hwraps => ?_⟩
    -- the first event after the counter has wrapped: the handler takes its index for 0
    obtain ⟨pre, g', hprefix, hpre, htrap', hn⟩ := exists_event hrun htrap hwraps
    have hfirst := (hevent hpre htrap' ⟨0, 0, 0, 0, none⟩ 0).mp (h pre g' hprefix hpre htrap' _ _)
    have hagree := hfirst.2 hk htraces
    rw [hn, Nat.mod_self] at hagree
    exact hagree.mp (dvd_zero _)
  · rintro ⟨hzero, hwidth⟩ pre g' hprefix hpre htrap' env siCode
    refine (hevent hpre htrap' env siCode).mpr ⟨hzero, fun hk htraces => ?_⟩
    obtain hlt | hwraps := Nat.lt_or_ge (fpTraps es) (2 ^ 64)
    · have hle : fpTraps pre ≤ fpTraps es := hprefix.sublist.countP_le
      rw [Nat.mod_eq_of_lt (hle.trans_lt hlt)]
    · exact Nat.dvd_mod_iff (hwidth hk htraces hwraps)

namespace X64

def everyThird : Config x64 := plain.readSample "3".toList

def everyZeroth : Config x64 := plain.readSample "0".toList

def twoEvents : List ThreadEvent :=
  [.brkTrap quietEnv, .fpTrap quietEnv 0, .brkTrap quietEnv, .fpTrap quietEnv 0, .brkTrap quietEnv]

/-- A thread that has taken two events and may take a third. -/
theorem sampledAlong_twoEvents :
    ∃ g, Run.run (Flow.step everyThird) (monitored everyThird) twoEvents = some g ∧
      g.CanTrap everyThird ∧ SampledAlong everyThird (monitored everyThird) twoEvents := by
  obtain ⟨mc, hstart⟩ := started_monitored everyThird
  have hany : (Run.run (Flow.step everyThird) (monitored everyThird) twoEvents).any
      (fun g => decide (g.CanTrap everyThird)) = true := by decide
  obtain ⟨g, hrun, htrap⟩ := (Option.any_eq_true _ _).mp hany
  have htrap : g.CanTrap everyThird := of_decide_eq_true htrap
  refine ⟨g, hrun, htrap, (sampledAlong_iff plain "3".toList hstart hrun htrap).mpr ⟨?_, ?_⟩⟩
  · intro hzero
    exact absurd hzero (by decide)
  · intro _ _ hwraps
    exact absurd hwraps (by decide)

/-- With a period of 0 the first event divides by zero. -/
theorem not_sampledAlong_zero :
    ∃ g, Run.run (Flow.step everyZeroth) (monitored everyZeroth) [.brkTrap quietEnv] = some g ∧
      (fpTrapHandler everyZeroth quietEnv 0 g).2 = .divideError ∧
      ¬ SampledAlong everyZeroth (monitored everyZeroth) [.brkTrap quietEnv] := by
  have hany : (Run.run (Flow.step everyZeroth) (monitored everyZeroth) [.brkTrap quietEnv]).any
      (fun g => decide (g.CanTrap everyZeroth)) = true := by decide
  obtain ⟨g, hrun, htrap⟩ := (Option.any_eq_true _ _).mp hany
  have htrap : g.CanTrap everyZeroth := of_decide_eq_true htrap
  obtain ⟨mc, hstart⟩ := started_monitored everyZeroth
  obtain ⟨mc', hmc, -⟩ := (hstart.numbered.run hrun).count_eq htrap
  have hdivides : (fpTrapHandler everyZeroth quietEnv 0 g).2 = .divideError :=
    (divideError_iff hmc).mpr ⟨by decide, rfl⟩
  refine ⟨g, hrun, hdivides, fun h => ?_⟩
  exact (h _ g List.prefix_rfl hrun htrap quietEnv 0).survives hdivides

end X64

end FPSpy
