import FPSpy.Individual.Coherence
import FPSpy.Individual.Transparency

/-!
# Watching for events

A thread in AWAIT_FPE watches while its sampler is on, unless its traps are shut: the end of a
step masks them when the limit has been reached, and they stay masked until an expiry switches the
sampler, which pays no regard to the limit. `Waits` is what holds of a waiting thread; each of the
three handlers that lead to AWAIT_FPE establishes it.
-/
namespace FPSpy

open X64 (withinLimit recorded)

variable {A : Arch} {cfg : Config A} {M : Masking A} {mc : MonitoringContext} {f : Flow A}
  {env : Env} {n : Nat}

variable (cfg M) in
structure Waits (mc : MonitoringContext) (shut : Bool) (uc : A.UContext) : Prop where
  opened : mc.sampler.state = .on → shut = false → M.Opened cfg.statics uc
  masked : mc.sampler.state = .off ∨ shut = true → A.trapsUnmasked cfg.statics uc = false

namespace Waits

variable {shut : Bool}

/-- A trap comes only while the thread watches. -/
theorem on (h : Waits cfg M mc shut f.uc) (hopen : f.trapsUnmasked cfg = true) :
    mc.sampler.state = .on ∧ shut = false := by
  constructor
  · cases hs : mc.sampler.state with
    | on => rfl
    | off => exact absurd ((h.masked (.inl hs)).symm.trans hopen) Bool.false_ne_true
  · cases hs : shut with
    | false => rfl
    | true => exact absurd ((h.masked (.inr hs)).symm.trans hopen) Bool.false_ne_true

/-- What leaves the traps alone leaves the thread waiting. -/
theorem congr {uc vc : A.UContext} (h : Waits cfg M mc shut uc)
    (hopened : M.Opened cfg.statics uc → M.Opened cfg.statics vc)
    (hunmasked : A.trapsUnmasked cfg.statics vc = A.trapsUnmasked cfg.statics uc) :
    Waits cfg M mc shut vc where
  opened hon hshut := hopened (h.opened hon hshut)
  masked hor := hunmasked.trans (h.masked hor)

/-- The traps are unmasked exactly while the thread watches. -/
theorem unmasked_iff (h : Waits cfg M mc shut f.uc) (hmon : M.Monitors cfg.statics f.uc) :
    f.trapsUnmasked cfg = true ↔ mc.sampler.state = .on ∧ shut = false :=
  ⟨h.on, fun hw => M.unmasked_of_opened _ _ hmon (h.opened hw.1 hw.2)⟩

end Waits

/-- The kick. -/
theorem waits_brkInit (hon : mc.sampler.state = .on) (f : Flow A) :
    ∃ mc', (brkInit cfg mc f).mc = some mc' ∧ mc'.state = .awaitFpe ∧ mc'.count = mc.count ∧
      Waits cfg M mc' false (brkInit cfg mc f).uc := by
  refine ⟨_, rfl, rfl, rfl, fun _ _ => Sampled.opened_brkInit mc f, ?_⟩
  rintro (hoff | hshut)
  · exact absurd (hon.symm.trans hoff) (by decide)
  · cases hshut

/-- The end of the step over an event: the limit decides. -/
theorem waits_brkAwaitTrap (hround : A.IsRoundConfig f.origRoundConfig)
    (hon : mc.sampler.state = .on) (env : Env) :
    ∃ mc', EndedStep cfg mc mc' f (brkAwaitTrap cfg env mc f) ∧
      Waits cfg M mc' (reachedMaxcount cfg (mc.count + 1)) (brkAwaitTrap cfg env mc f).uc := by
  obtain ⟨mc', hended⟩ := brkAwaitTrap_spec cfg env hround mc
  refine ⟨mc', hended, ?_, ?_⟩
  · intro hstays hgoes
    have hdelay : mc.sampler.delayedProcessing = false := by
      by_contra hd
      rw [hended.sampler, if_pos (by simpa using hd), hon] at hstays
      cases hstays
    have heq : (brkAwaitTrap cfg env mc f).uc = (brkRearm cfg mc f).uc := by
      simp [brkAwaitTrap, hdelay]
    rw [heq]
    simp only [brkRearm, hgoes]
    exact M.opened_resetTrapMode _ _ _ _
      (Sampled.opened_forceRound cfg.isRoundConfig_our (M.opened_unmask _ _))
  · intro hor
    cases hd : mc.sampler.delayedProcessing with
    | true => exact hended.masked_of_delayed hd hon
    | false =>
      have hstill : mc'.sampler.state = .on := by
        rw [hended.sampler, hd, hon]
        rfl
      exact hended.masked_of_reached hd (hor.resolve_left (by simp [hstill]))

/-- An expiry in AWAIT_FPE: what the limit has shut is open again when the sampler is on. -/
theorem waits_updateSampler (env : Env) (mc : MonitoringContext) (f : Flow A) :
    ∃ mc', (updateSampler cfg env mc f).mc = some mc' ∧ mc'.state = mc.state ∧
      mc'.count = mc.count ∧ Waits cfg M mc' false (updateSampler cfg env mc f).uc := by
  refine ⟨_, rfl, rfl, rfl, ?_, ?_⟩
  · intro hon _
    refine Sampled.opened_updateSampler ?_ f
    cases hs : mc.sampler.state with
    | off => rfl
    | on => simp [hs, SamplerSwitch.flip] at hon
  · intro hor
    refine masked_updateSampler_of_on ?_
    cases hs : mc.sampler.state with
    | on => rfl
    | off => simp [hs, SamplerSwitch.flip] at hor

/-! ## Counting to the limit -/

/-- The settings under which every event before the limit is counted. -/
structure Limited (cfg : Config A) : Prop where
  limit : cfg.maxcount = -1#32 ∨ 1 ≤ cfg.maxcount.toInt
  period : 1 ≤ cfg.samplePeriod.toInt
  file : cfg.createMonitorFile = true

/-- The limit test at the end of a step is about the next event. -/
theorem Limited.reached (h : Limited cfg) (hn : withinLimit cfg.maxcount n = true) :
    reachedMaxcount cfg (BitVec.ofNat 64 n + 1) = !withinLimit cfg.maxcount (n + 1) :=
  @X64.reachedMaxcount_succ (.defaults X64.statics) _ 1 h.limit _ hn

theorem Limited.records (h : Limited cfg) (hn : withinLimit cfg.maxcount n = true) :
    cfg.records (BitVec.ofNat 64 n) = recorded cfg.maxcount cfg.samplePeriod n := by
  rw [← @X64.records_eq (.defaults X64.statics) _ _ h.period _ hn, Config.records, h.file]
  rfl

theorem Limited.within_zero (h : Limited cfg) : withinLimit cfg.maxcount 0 = true := by
  rcases h.limit with hm | hm
  · rw [hm]
    rfl
  · have := Bits.toInt_eq_toNat_of_nonneg (show 0 ≤ cfg.maxcount.toInt by omega)
    exact (X64.withinLimit_iff hm 0).mpr (by omega)

end FPSpy
