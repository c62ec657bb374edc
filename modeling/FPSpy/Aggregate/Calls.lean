import FPSpy.Aggregate.Fenv
import FPSpy.Lib.Bits
import FPSpy.Lib.Outputs
import FPSpy.Monitor.Shims

/-!
# Transparency of aggregate mode

In aggregate mode FPSpy installs no handler and unmasks no exception; it reads the sticky
flags when the target exits. Its `fe*` shims still call `abort_operation`, which clears
the flags and puts back dispositions that were never stashed, so the first such call
resets SIGFPE and SIGTRAP and drops every exception the target has raised.

`Target.Pristine` is what an abort leaves as it is. In every run whose first `fe*` call is
made by a pristine target, all calls answer as without FPSpy.
-/
namespace FPSpy

/-- A target under aggregate mode, with the variables of FPSpy that its calls use. -/
structure Aggregate extends Target where
  inited : Bool
  aborted : Bool
  oldsaFpe : SigAction
  oldsaTrap : SigAction

namespace Aggregate

variable (F : Fenv) (aggressive : Bool)

def orig (call : Target → Target × CallResult) (s : Aggregate) : Aggregate × CallResult :=
  ({ s with toTarget := (call s.toTarget).1 }, (call s.toTarget).2)

/-- A call FPSpy makes for itself. -/
def fe (c : FeCall) (s : Aggregate) : Aggregate := (s.orig (·.origFe F c)).1

/-- A successful `bringup`: `enabled_fp_traps` is `FE_ALL_EXCEPT` in this mode, and
`arch_thread_init` does nothing. -/
def bringup (s : Aggregate) : Aggregate :=
  { s.fe F (.feclearexcept F.allExcept) with inited := true }

def start (t : Target) : Aggregate :=
  bringup F
    { toTarget := t, inited := false, aborted := false, oldsaFpe := .zero, oldsaTrap := .zero }

/-- What `abort_operation` uses in aggregate mode; it makes no use of contexts and kicks. -/
def abortOps : AbortOps Aggregate where
  inited s := s.inited
  aborted s := s.aborted
  mode := .aggregate
  findMonitoringContext _ := none
  fpspyInit := bringup F
  fedisableexcept s := s.fe F (.fedisableexcept F.allExcept)
  feclearexcept s := s.fe F (.feclearexcept F.allExcept)
  restoreSigfpe s := (s.orig (·.origSigaction F .sigfpe (some s.oldsaFpe))).1
  writeAbort _ s := s
  kickSelf s := s
  restoreSigtrap s := (s.orig (·.origSigaction F .sigtrap (some s.oldsaTrap))).1
  setAborted s := { s with aborted := true }

def act (s : Aggregate) : TargetAction → Aggregate × CallResult
  | .fpOp raised => ({ s with toTarget := s.toTarget.raise raised }, .nothing)
  | .fe c => Shim.fe (abortOps F) (orig (·.origFe F c)) s
  | .signal sig func =>
    Shim.signal (abortOps F) aggressive sig (orig (·.origSignal F sig func))
      (.handler (some .dfl)) s
  | .sigaction sig a =>
    Shim.sigaction (abortOps F) aggressive sig (orig (·.origSigaction F sig a)) (.action 0 none) s

end Aggregate

/-- An abort changes nothing: no flag is raised, and the two signals have the action that a zeroed
`struct sigaction` asks for. -/
structure Target.Pristine (F : Fenv) (t : Target) : Prop where
  flags : t.env.flags &&& F.allExcept = 0
  sigfpe : t.sigaction .sigfpe = F.installed .zero
  sigtrap : t.sigaction .sigtrap = F.installed .zero

/-- The first `fe*` call is made by a pristine target. -/
def Aggregate.AbortsPristine (F : Fenv) (s : Aggregate) (a : TargetAction) : Prop :=
  ∀ c, a = .fe c → s.aborted = false → s.toTarget.Pristine F

structure Aggregate.Shadows (F : Fenv) (s : Aggregate) (t : Target) : Prop where
  target : s.toTarget = t
  inited : s.inited = true
  oldsaFpe : s.oldsaFpe = .zero
  oldsaTrap : s.oldsaTrap = .zero
  enables : s.aborted = false → s.env.enables &&& F.allExcept = 0

namespace Aggregate

variable {F : Fenv} {aggressive : Bool} {s : Aggregate} {t : Target}

/-- What an abort does to a target that is in its way for the first time. -/
theorem abortOperation_eq (hi : s.inited = true) (ha : s.aborted = false) :
    abortOperation (abortOps F) s =
      { s with
        env := { s.env with
          flags := s.env.flags &&& ~~~F.allExcept
          enables := s.env.enables &&& ~~~F.allExcept }
        sigaction := Function.update (Function.update s.sigaction .sigfpe
          (F.installed s.oldsaFpe)) .sigtrap (F.installed s.oldsaTrap)
        aborted := true } := by
  simp [abortOperation, abortOps, hi, ha, fe, orig, Target.origFe, FeCall.orig,
    Target.origSigaction, Signal.uncatchable]

/-- The first abort leaves the target as it is exactly if the target is pristine. -/
theorem toTarget_abortOperation_eq_iff (h : Shadows F s t) (ha : s.aborted = false) :
    (abortOperation (abortOps F) s).toTarget = t ↔ t.Pristine F := by
  have htarget := h.target
  subst htarget
  rw [abortOperation_eq h.inited ha, h.oldsaFpe, h.oldsaTrap, Bits.andNot_eq_self (h.enables ha)]
  constructor
  · intro heq
    have hflags : s.env.flags &&& ~~~F.allExcept = s.env.flags :=
      congrArg (·.env.flags) heq
    have hsig := congrArg Target.sigaction heq
    refine ⟨?_, ?_, ?_⟩
    · rw [← hflags, Bits.andNot_and_self]
    · simpa using (congrFun hsig .sigfpe).symm
    · simpa using (congrFun hsig .sigtrap).symm
  · rintro ⟨hflags, hfpe, htrap⟩
    have hfpe' : Function.update s.sigaction .sigfpe (F.installed .zero) = s.sigaction :=
      Function.update_eq_self_iff.mpr hfpe.symm
    have htrap' : Function.update s.sigaction .sigtrap (F.installed .zero) = s.sigaction :=
      Function.update_eq_self_iff.mpr htrap.symm
    rw [Bits.andNot_eq_self hflags, hfpe', htrap']

/-- An abort of a pristine target shows nowhere. -/
theorem Shadows.abortOperation (h : Shadows F s t) (hp : s.aborted = false → t.Pristine F) :
    Shadows F (abortOperation (abortOps F) s) t := by
  by_cases ha : s.aborted = true
  · rwa [abortOperation_of_aborted (abortOps F) h.inited ha]
  have ha' : s.aborted = false := by simpa using ha
  refine ⟨(toTarget_abortOperation_eq_iff h ha').mpr (hp ha'), ?_, ?_, ?_, ?_⟩ <;>
    rw [abortOperation_eq h.inited ha']
  · exact h.inited
  · exact h.oldsaFpe
  · exact h.oldsaTrap
  · nofun

/-- A forwarded call that leaves the environment alone. -/
theorem Shadows.forward (h : Shadows F s t) {call : Target → Target × CallResult}
    (henv : (call t).1.env = t.env) :
    (s.orig call).2 = (call t).2 ∧ Shadows F (s.orig call).1 (call t).1 := by
  have htarget := h.target
  subst htarget
  refine ⟨rfl, rfl, h.inited, h.oldsaFpe, h.oldsaTrap, fun ha => ?_⟩
  have henables := h.enables ha
  simpa only [orig, henv] using henables

theorem env_origSignal (sig : Signal) (func : SigHandler) (t : Target) :
    (t.origSignal F sig func).1.env = t.env := by
  unfold Target.origSignal
  split <;> rfl

theorem env_origSigaction (sig : Signal) (a : Option SigAction) (t : Target) :
    (t.origSigaction F sig a).1.env = t.env := by
  unfold Target.origSigaction
  split
  · rfl
  · split <;> rfl

/-- After an `fe*` call FPSpy is out of the way. -/
theorem aborted_abortOperation (hi : s.inited = true) :
    (abortOperation (abortOps F) s).aborted = true := by
  by_cases ha : s.aborted = true
  · rwa [abortOperation_of_aborted (abortOps F) hi ha]
  · rw [abortOperation_eq hi (by simpa using ha)]

/-- The shims pass an action on as it is, if the abort it may cause shows nowhere. -/
theorem Shadows.act (aggressive : Bool) (h : Shadows F s t) (a : TargetAction)
    (hg : AbortsPristine F s a) :
    (s.act F aggressive a).2 = (t.act F a).2 ∧
      Shadows F (s.act F aggressive a).1 (t.act F a).1 := by
  have htarget := h.target
  cases a with
  | fpOp raised =>
    subst htarget
    exact ⟨rfl, rfl, h.inited, h.oldsaFpe, h.oldsaTrap, h.enables⟩
  | fe c =>
    have hs := h.abortOperation fun ha => htarget ▸ hg c rfl ha
    have haborted := aborted_abortOperation (F := F) h.inited
    simp only [Aggregate.act, Shim.fe, orig, Target.act, hs.target]
    refine ⟨trivial, rfl, hs.inited, hs.oldsaFpe, hs.oldsaTrap, fun ha => ?_⟩
    simp [haborted] at ha
  | signal sig func =>
    simp only [Aggregate.act, Shim.signal, Shim.guarded_of_aggregate (abortOps F) aggressive rfl]
    exact h.forward (env_origSignal sig func t)
  | sigaction sig a =>
    simp only [Aggregate.act, Shim.sigaction,
      Shim.guarded_of_aggregate (abortOps F) aggressive rfl]
    exact h.forward (env_origSigaction sig a t)

end Aggregate

/-! ## On x64 -/

namespace X64

end X64
end FPSpy
