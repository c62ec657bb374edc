import FPSpy.Individual.Thread
import FPSpy.Machine.RoundField

/-!
# A rounding configuration that no handler changes

What no operation of the backend changes, no handler changes, and no run of a thread. On
arm64 the rounding configuration is such a part of the context, since setting it stores
nothing: a thread keeps the configuration it started with, whatever the user has asked for.
-/
namespace FPSpy

/-- What the operations keep, an event of a thread keeps. -/
theorem Keeps.step {A : Arch} {cfg : Config A} {P : A.UContext → Prop} {f g : Flow A}
    {e : ThreadEvent} (K : Keeps cfg P) (hstep : f.step cfg e = some g) (h : P f.uc) : P g.uc := by
  cases Flow.handlerStep_of_step hstep with
  | fpTrap hopen hours hresume => exact K.resume_fpTrapHandler hresume (K.shut _ h)
  | brkTrap hours hresume =>
    rw [(Flow.sameCode_resume hresume).uc]
    exact K.brkTrapHandler h
  | expiry => exact K.sigalrmHandler h

/-! ## A thread on arm64 -/

namespace Arm64

/-- FPCR without the trap enables; `none` where there is no FPCR to be found. -/
def fpcrRest (uc : UContext) : Option (BitVec 32) := uc.fpsimd.map (·.fpcr &&& ~~~0x9f00#32)

theorem fpcrRest_clearFpExceptions (st : Statics) (uc : UContext) :
    fpcrRest (archClearFpExceptions st uc) = fpcrRest uc := by
  cases h : uc.fpsimd <;> simp [fpcrRest, archClearFpExceptions, h]

theorem fpcrRest_maskFpTraps (st : Statics) (uc : UContext) :
    fpcrRest (archMaskFpTraps st uc) = fpcrRest uc := by
  have hmask : st.fpcrEnableMask &&& ~~~0x9f00#32 = 0 := st.subset
  cases h : uc.fpsimd with
  | none => simp [fpcrRest, archMaskFpTraps, h]
  | some f =>
    simp only [fpcrRest, archMaskFpTraps, h, Option.map_some,
      Bits.andNot_and_of_disjoint f.fpcr hmask]

theorem fpcrRest_unmaskFpTraps (st : Statics) (uc : UContext) :
    fpcrRest (archUnmaskFpTraps st uc) = fpcrRest uc := by
  have hmask : st.fpcrEnableMask &&& ~~~0x9f00#32 = 0 := st.subset
  cases h : uc.fpsimd with
  | none => simp [fpcrRest, archUnmaskFpTraps, h]
  | some f =>
    simp only [fpcrRest, archUnmaskFpTraps, h, Option.map_some,
      Bits.or_and_of_disjoint f.fpcr hmask]

/-- The handlers change the trap enables of FPCR and nothing else of it. -/
theorem keeps_fpcrRest (cfg : Config arm64) (v : Option (BitVec 32)) :
    Keeps cfg fun uc => fpcrRest uc = v where
  shut uc h := by rw [fpcrRest_maskFpTraps, fpcrRest_clearFpExceptions, h]
  reopen uc h := by rw [fpcrRest_unmaskFpTraps, fpcrRest_clearFpExceptions, h]
  setRound _ _ _ h := h
  setTrapMode _ _ _ h := h
  resetTrapMode _ _ _ h := h
  resetTrapModeNull _ h := h

inductive RoundingEvent where
  | handler (e : ThreadEvent)
  | run (uc : UContext)

/-- The thread after an event; the target does not write FPCR. -/
def roundingStep (cfg : Config arm64) (f : Flow arm64) : RoundingEvent → Option (Flow arm64)
  | .handler e => f.step cfg e
  | .run uc => if fpcrRest uc = fpcrRest f.uc then some { f with uc := uc } else none

/-- The rounding bits of the thread's FPCR are those that were asked for. -/
def Forced (cfg : Config arm64) (uc : UContext) : Prop :=
  ∃ f, uc.fpsimd = some f ∧ f.fpcr &&& fpcrRoundDazFtzMask = cfg.ourRoundConfig

theorem forced_iff {cfg : Config arm64} {uc : UContext} :
    Forced cfg uc ↔ ∃ v, fpcrRest uc = some v ∧ v &&& fpcrRoundDazFtzMask = cfg.ourRoundConfig := by
  have hpart : ∀ v : BitVec 32, v &&& ~~~0x9f00#32 &&& fpcrRoundDazFtzMask =
      v &&& fpcrRoundDazFtzMask := fun v => Bits.andNot_and_of_disjoint v (by decide)
  unfold Forced fpcrRest
  cases h : uc.fpsimd with
  | none => simp
  | some f => simp only [Option.map_some, Option.some.injEq, exists_eq_left', hpart]

/-- No event changes the part of FPCR that has the rounding bits. -/
theorem fpcrRest_roundingStep {cfg : Config arm64} {f g : Flow arm64} {e : RoundingEvent}
    (h : roundingStep cfg f e = some g) : fpcrRest g.uc = fpcrRest f.uc := by
  cases e with
  | handler e => exact (keeps_fpcrRest cfg _).step h rfl
  | run uc =>
    simp only [roundingStep] at h
    split_ifs at h with hrest
    rw [← Option.some.inj h, hrest]

/-- Setting the rounding configuration takes effect exactly where the context has it already;
along a run the thread's rounding bits are those asked for exactly if they were from the start. -/
theorem setsRound_and_forced_iff (st : Statics) (cfg : Config arm64) :
    (∀ (uc : UContext) (f : Fpsimd) (config : BitVec 32), uc.fpsimd = some f →
      (SetsRound st uc f config ↔ f.fpcr &&& fpcrRoundDazFtzMask = config)) ∧
    ∀ (f s : Flow arm64) (es : List RoundingEvent),
      Run.run (roundingStep cfg) f es = some s → (Forced cfg s.uc ↔ Forced cfg f.uc) := by
  refine ⟨fun uc f config hf => setsRound_iff hf config, fun f s es hrun => ?_⟩
  have hrest : fpcrRest s.uc = fpcrRest f.uc :=
    Run.invariant (I := fun g : Flow arm64 => fpcrRest g.uc = fpcrRest f.uc)
      (fun g e t hg hstep => (fpcrRest_roundingStep hstep).trans hg) rfl hrun
  rw [forced_iff, forced_iff, hrest]

def positive : Config arm64 :=
  { Config.defaults statics with
    controlRoundConfig := true
    ourRoundConfig := packed .positive .noDazNoFtz
    isRoundConfig_our := trivial }

def contextOf (fpcr : BitVec 32) : UContext := ⟨fun _ => 0, 0, 0, 0, some ⟨0, fpcr⟩⟩

def startPositive (uc : UContext) : Flow arm64 :=
  bringup positive ⟨0, 0, 0, 0, some 3⟩ .inHandler id
    { toGlobals := .start fun _ => 0, toThread := .start 1 uc }

def kickAndTrap : List RoundingEvent :=
  [.handler (.brkTrap ⟨0, 0, 0, 0, some 3⟩), .handler (.fpTrap ⟨0, 0, 0, 0, some 3⟩ 1)]

/-- A target that rounds to positive anyway. -/
theorem setsRound_and_forced_iff_positive :
    SetsRound statics (contextOf 0x400000) ⟨0, 0x400000⟩ (packed .positive .noDazNoFtz) ∧
      ∃ s, Run.run (roundingStep positive) (startPositive (contextOf 0x400000)) kickAndTrap =
        some s ∧ Forced positive s.uc := by
  have hrun : (Run.run (roundingStep positive) (startPositive (contextOf 0x400000))
      kickAndTrap).isSome = true := by decide
  obtain ⟨s, hs⟩ := Option.isSome_iff_exists.mp hrun
  have hinert := setsRound_and_forced_iff statics positive
  exact ⟨(hinert.1 _ _ _ rfl).mpr (by decide), s, hs,
    (hinert.2 _ s kickAndTrap hs).mpr ⟨_, rfl, by decide⟩⟩

/-- A target that rounds to nearest goes on doing so after the kick, while it is monitored. -/
theorem not_forced_nearest :
    ¬ SetsRound statics (contextOf 0) ⟨0, 0⟩ (packed .positive .noDazNoFtz) ∧
      ∃ s mc, Run.run (roundingStep positive) (startPositive (contextOf 0))
          [.handler (.brkTrap ⟨0, 0, 0, 0, some 3⟩)] = some s ∧
        s.aborted = false ∧ s.mc = some mc ∧ mc.state = .awaitFpe ∧ ¬ Forced positive s.uc := by
  refine ⟨fun h => absurd h.get (by decide), ?_⟩
  have hrun : (Run.run (roundingStep positive) (startPositive (contextOf 0))
      [.handler (.brkTrap ⟨0, 0, 0, 0, some 3⟩)]).map (fun s => (s.aborted, s.mc.map (·.state),
        s.uc.fpsimd.map (·.fpcr &&& fpcrRoundDazFtzMask))) =
      some (false, some .awaitFpe, some 0) := by decide
  obtain ⟨s, hs, hends⟩ := Option.map_eq_some_iff.mp hrun
  obtain ⟨haborted, hmc, hround⟩ : s.aborted = false ∧ s.mc.map (·.state) = some .awaitFpe ∧
      s.uc.fpsimd.map (·.fpcr &&& fpcrRoundDazFtzMask) = some 0 := by simpa using hends
  obtain ⟨mc, hmc, hstate⟩ := Option.map_eq_some_iff.mp hmc
  refine ⟨s, mc, hs, haborted, hmc, hstate, ?_⟩
  rintro ⟨f, hf, hforced⟩
  rw [hf, Option.map_some, hforced] at hround
  exact absurd (Option.some.inj hround) (by decide)

end Arm64
end FPSpy
