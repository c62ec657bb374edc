import FPSpy.Monitor.Abort
import FPSpy.Machine.X64

/-!
# The interval timer and the handlers

`setitimer` arms one timer, which expires once. The start of a sampler arms it, and so does
each switch; the handlers of FP and breakpoint traps otherwise leave the timer and the
sampler alone.
-/
namespace FPSpy

variable {A : Arch} {cfg : Config A} {env : Env} {mc : MonitoringContext} {f g : Flow A}

def Itimerval.armed (it : Itimerval) : Bool := it.valueSec != 0 || it.valueUsec != 0

def Itimerval.expired : Itimerval := ⟨0, 0, 0, 0⟩

theorem armed_oneShot {n : BitVec 64} (h : n ≠ 0) : (oneShot n).armed = true := by
  have hn : n.toNat ≠ 0 := fun h0 => h (BitVec.eq_of_toNat_eq h0)
  simp only [Itimerval.armed, oneShot, Bool.or_eq_true, bne_iff_ne, ne_eq, ← BitVec.toNat_inj,
    BitVec.toNat_udiv, BitVec.toNat_umod]
  simp
  omega

theorem armed_oneShot_iff {n : BitVec 64} : (oneShot n).armed = true ↔ n ≠ 0 := by
  refine ⟨?_, armed_oneShot⟩
  rintro h rfl
  exact absurd h (by decide)

theorem nextInterval_ne_zero (hon : cfg.maxUsOn ≠ 0) (hoff : cfg.maxUsOff ≠ 0)
    (state : SamplerSwitch) (draw : BitVec 64) : nextInterval cfg state draw ≠ 0 := by
  unfold nextInterval
  dsimp only
  split_ifs <;> first | assumption | decide

/-! ## Handlers -/

structure SameSampler (f g : Flow A) : Prop where
  itimer : g.itimer = f.itimer
  sigaction : g.sigaction = f.sigaction
  bare : g.mc = none → f.mc = none
  context : ∀ mc', g.mc = some mc' → ∃ mc, f.mc = some mc ∧ mc'.sampler = mc.sampler ∧
    (mc'.state ≠ .abort → mc.state ≠ .abort)

theorem SameSampler.refl (f : Flow A) : SameSampler f f :=
  ⟨rfl, rfl, id, fun mc h => ⟨mc, h, rfl, id⟩⟩

theorem sameSampler_of_some {mc' : MonitoringContext} (hmc : f.mc = some mc)
    (hmc' : g.mc = some mc') (hitimer : g.itimer = f.itimer)
    (hsigaction : g.sigaction = f.sigaction) (hsampler : mc'.sampler = mc.sampler)
    (hlive : mc'.state ≠ .abort → mc.state ≠ .abort) :
    SameSampler f g where
  itimer := hitimer
  sigaction := hsigaction
  bare h := absurd (hmc'.symm.trans h) (Option.some_ne_none mc')
  context _ h := by
    obtain rfl := Option.some.inj (hmc'.symm.trans h)
    exact ⟨mc, hmc, hsampler, hlive⟩

variable (cfg env) in
theorem sameSampler_fpTrapHandler (siCode : BitVec 32) (f : Flow A) :
    SameSampler f (fpTrapHandler cfg env siCode f).1 := by
  have hpath := fpTrapHandler_path cfg env siCode f
  generalize fpTrapHandler cfg env siCode f = r at hpath
  cases hpath with
  | dies => exact .refl f
  | bare hmc => exact ⟨rfl, rfl, fun _ => hmc, fun mc h => ⟨mc, h, rfl, id⟩⟩
  | beginStep buffer written hmc hstate =>
    exact sameSampler_of_some hmc rfl rfl rfl rfl fun _ => by simp [hstate]
  | surprise buffer written hmc => exact sameSampler_of_some hmc rfl rfl rfl rfl id

/-- A breakpoint trap switches the sampler at the end of a step that has an expiry noted, and
otherwise leaves it alone. -/
theorem brkTrapHandler_sampler (cfg : Config A) (env : Env) (f : Flow A) :
    SameSampler f (brkTrapHandler cfg env f).1 ∨
      ∃ mc, f.mc = some mc ∧ mc.state = .awaitTrap ∧ mc.sampler.delayedProcessing = true ∧
        (brkTrapHandler cfg env f).1.sigaction = f.sigaction ∧
        (brkTrapHandler cfg env f).1.itimer =
          oneShot (nextInterval cfg mc.sampler.state env.draw) := by
  unfold brkTrapHandler
  cases hmc : f.mc with
  | none => exact .inl ⟨rfl, rfl, fun _ => hmc, fun mc h => ⟨mc, h, rfl, id⟩⟩
  | some mc =>
    dsimp only
    cases hs : mc.state with
    | init => exact .inl (sameSampler_of_some hmc rfl rfl rfl rfl fun _ => by simp [hs])
    | awaitFpe => exact .inl (sameSampler_of_some hmc rfl rfl rfl rfl fun _ => by simp [hs])
    | abort => exact .inl (sameSampler_of_some hmc rfl rfl rfl rfl id)
    | awaitTrap =>
      simp only [brkAwaitTrap]
      split_ifs with hd
      · exact .inr ⟨mc, rfl, hs, hd, rfl, rfl⟩
      · exact .inl (sameSampler_of_some hmc rfl rfl rfl rfl fun _ => by simp [hs])

variable (cfg env) in
theorem sameSampler_writeAbort (hmc : f.mc = some mc) :
    SameSampler f (f.writeAbort cfg env mc) := by
  unfold Flow.writeAbort
  dsimp only
  split_ifs
  · exact sameSampler_of_some hmc rfl rfl rfl rfl fun h => absurd rfl h
  · exact sameSampler_of_some hmc rfl rfl rfl rfl fun h => absurd rfl h

/-- An expiry switches the sampler, or is noted. -/
theorem sigalrmHandler_sampler (cfg : Config A) (env : Env) (hmc : f.mc = some mc) :
    (mc.state = .awaitFpe ∧ (sigalrmHandler cfg env f).itimer =
        oneShot (nextInterval cfg mc.sampler.state env.draw)) ∨
      (mc.state ≠ .awaitFpe ∧ (sigalrmHandler cfg env f).mc = some
        { mc with sampler := { mc.sampler with delayedProcessing := true } }) := by
  simp only [sigalrmHandler, hmc]
  split_ifs with hs
  · exact .inr ⟨hs, rfl⟩
  · exact .inl ⟨not_not.mp hs, rfl⟩

/-! ## The intervals -/

def Config.maxUs (cfg : Config A) : SamplerSwitch → BitVec 64
  | .on => cfg.maxUsOn
  | .off => cfg.maxUsOff

/-- `it_value` in microseconds; both of its fields are signed. -/
def Itimerval.length (it : Itimerval) : Int := it.valueSec.toInt * 1000000 + it.valueUsec.toInt

/-- A proper interval for a state that lasts `max` microseconds at most, where `draw` was drawn. -/
structure Itimerval.Proper (it : Itimerval) (max draw : BitVec 64) : Prop where
  armed : it.armed = true
  usec : 0 ≤ it.valueUsec.toInt ∧ it.valueUsec.toInt < 1000000
  once : it.intervalSec = 0 ∧ it.intervalUsec = 0
  capped : it.length ≤ max.toNat
  drawn : 1 ≤ draw → draw ≤ max → it.length = draw.toNat

theorem toInt_valueSec_oneShot (n : BitVec 64) :
    (oneShot n).valueSec.toInt = (n.toNat / 1000000 : Nat) := by
  have hlt := n.isLt
  have hdiv : (oneShot n).valueSec.toNat = n.toNat / 1000000 := by
    simp [oneShot, BitVec.toNat_udiv]
  rw [BitVec.toInt_eq_toNat_of_lt (by omega), hdiv]

theorem toInt_valueUsec_oneShot (n : BitVec 64) :
    (oneShot n).valueUsec.toInt = (n.toNat % 1000000 : Nat) := by
  have hmod : (oneShot n).valueUsec.toNat = n.toNat % 1000000 := by
    simp [oneShot, BitVec.toNat_umod]
  rw [BitVec.toInt_eq_toNat_of_lt (by omega), hmod]

@[simp] theorem length_oneShot (n : BitVec 64) : (oneShot n).length = n.toNat := by
  rw [Itimerval.length, toInt_valueSec_oneShot, toInt_valueUsec_oneShot]
  omega

/-- The split into seconds and microseconds is right for every number; what is left is the
number. -/
theorem proper_oneShot_iff {n max draw : BitVec 64} :
    (oneShot n).Proper max draw ↔ n ≠ 0 ∧ n ≤ max ∧ (1 ≤ draw → draw ≤ max → n = draw) := by
  constructor
  · intro h
    refine ⟨armed_oneShot_iff.mp h.armed, ?_, fun hone hmax => ?_⟩
    · have hcapped := h.capped
      rw [length_oneShot] at hcapped
      exact BitVec.le_def.mpr (by omega)
    · have hdrawn := h.drawn hone hmax
      rw [length_oneShot] at hdrawn
      exact BitVec.eq_of_toNat_eq (by omega)
  · rintro ⟨hzero, hmax, hdrawn⟩
    refine ⟨armed_oneShot hzero, ?_, ⟨rfl, rfl⟩, ?_, fun hone hle => ?_⟩
    · rw [toInt_valueUsec_oneShot]
      omega
    · rw [length_oneShot]
      exact_mod_cast BitVec.le_def.mp hmax
    · rw [length_oneShot, hdrawn hone hle]

/-- One of the two caps applies, that of the state that is entered. -/
theorem nextInterval_eq (state : SamplerSwitch) (draw : BitVec 64) :
    nextInterval cfg state draw =
      if cfg.maxUs state.flip < (if draw = 0 then 1 else draw) then cfg.maxUs state.flip
      else if draw = 0 then 1 else draw := by
  cases state <;> simp [nextInterval, SamplerSwitch.flip, Config.maxUs]

theorem nextInterval_le (state : SamplerSwitch) (draw : BitVec 64) :
    nextInterval cfg state draw ≤ cfg.maxUs state.flip := by
  rw [nextInterval_eq]
  split_ifs <;> bv_omega

/-- A draw within the bounds is the interval. -/
theorem nextInterval_of_le {state : SamplerSwitch} {draw : BitVec 64} (hone : 1 ≤ draw)
    (hmax : draw ≤ cfg.maxUs state.flip) : nextInterval cfg state draw = draw := by
  rw [nextInterval_eq]
  split_ifs <;> bv_omega

variable (cfg env) in
/-- `update_sampler` always arms a proper interval, `init_sampler` exactly when it draws one: it
neither replaces a zero nor caps. -/
theorem proper_intervals (htimers : cfg.timers = true) (hon : 1 ≤ cfg.maxUsOn)
    (hoff : 1 ≤ cfg.maxUsOff) :
    (∀ s, (initSampler cfg env s).it.Proper cfg.maxUsOn env.draw ↔
      1 ≤ env.draw ∧ env.draw ≤ cfg.maxUsOn) ∧
    ∀ mc f,
      (updateSampler cfg env mc f).itimer.Proper (cfg.maxUs mc.sampler.state.flip) env.draw := by
  refine ⟨fun s => ?_, fun mc f => ?_⟩
  · have hit : (initSampler cfg env s).it = oneShot env.draw := by simp [initSampler, htimers]
    rw [hit, proper_oneShot_iff]
    constructor
    · rintro ⟨hzero, hmax, -⟩
      exact ⟨by bv_omega, hmax⟩
    · rintro ⟨hone, hmax⟩
      exact ⟨by bv_omega, hmax, fun _ _ => rfl⟩
  · have hit : (updateSampler cfg env mc f).itimer =
        oneShot (nextInterval cfg mc.sampler.state env.draw) := rfl
    have hzero : nextInterval cfg mc.sampler.state env.draw ≠ 0 :=
      nextInterval_ne_zero (by bv_omega) (by bv_omega) _ _
    rw [hit, proper_oneShot_iff]
    exact ⟨hzero, nextInterval_le _ _, nextInterval_of_le⟩

namespace X64

def sampling : Config x64 := { Config.defaults statics with timers := true }

theorem proper_intervals_drawTen :
    (initSampler sampling ⟨0, 0, 0, 10, some 3⟩ MonitoringContext.zero.sampler).it.Proper
      sampling.maxUsOn 10 :=
  ((proper_intervals sampling ⟨0, 0, 0, 10, some 3⟩ rfl (by decide) (by decide)).1
    MonitoringContext.zero.sampler).mpr ⟨by decide, by decide⟩

/-- A draw of zero leaves the timer off, and a long one is not capped. -/
theorem not_proper_initSampler :
    (initSampler sampling ⟨0, 0, 0, 0, some 3⟩ MonitoringContext.zero.sampler).it.armed = false ∧
      ¬ (initSampler sampling ⟨0, 0, 0, 0, some 3⟩ MonitoringContext.zero.sampler).it.Proper
        sampling.maxUsOn 0 ∧
      (initSampler sampling ⟨0, 0, 0, 20000, some 3⟩ MonitoringContext.zero.sampler).it.length =
        20000 ∧
      ¬ (initSampler sampling ⟨0, 0, 0, 20000, some 3⟩ MonitoringContext.zero.sampler).it.Proper
        sampling.maxUsOn 20000 := by
  have hoff : (initSampler sampling ⟨0, 0, 0, 0, some 3⟩ MonitoringContext.zero.sampler).it.armed =
      false := by decide
  have hlong : (initSampler sampling ⟨0, 0, 0, 20000, some 3⟩
      MonitoringContext.zero.sampler).it.length = 20000 := by decide
  refine ⟨hoff, fun h => ?_, hlong, fun h => ?_⟩
  · exact absurd (hoff.symm.trans h.armed) (by decide)
  · exact absurd (hlong ▸ h.capped) (by decide)

end X64
end FPSpy
