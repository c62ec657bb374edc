import FPSpy.Monitor.Abort

/-!
# Bringing up, statement by statement

`bringup` in individual mode as a sequence of statements, between which signals arrive and
other code runs: the context with its sampler first, which arms the timer; then the
dispositions, that of the timer's signal last; then the kick. With kernel support SIGFPE is
left alone.
-/
namespace FPSpy

variable {A : Arch}

inductive BringupPc where
  | context | sigfpe | sigtrap | sigint | sigalrm | kick | inited
  /-- It has returned 0. -/
  | done
  /-- It has returned -1. -/
  | failed
  deriving DecidableEq, Repr

def BringupPc.index : BringupPc → Nat
  | .context | .failed => 0
  | .sigfpe => 1
  | .sigtrap => 2
  | .sigint => 3
  | .sigalrm => 4
  | .kick => 5
  | .inited => 6
  | .done => 7

namespace Bringup

def step (cfg : Config A) (env : Env) (kernel : Bool) (kickSelf : Flow A → Flow A) :
    BringupPc → Flow A → BringupPc × Flow A
  | .context, f =>
    match bringupMonitoringContext cfg env f.tid .zero with
    | none => (.failed, { f with mc := none })
    | some mc =>
      (.sigfpe, { f with
        mc := some mc
        itimer := if cfg.timers then mc.sampler.it else f.itimer })
  | .sigfpe, f =>
    (.sigtrap, if kernel then f else { f with
      oldsaFpe := f.sigaction .sigfpe
      sigaction := Function.update f.sigaction .sigfpe cfg.sigfpeAction })
  | .sigtrap, f =>
    (.sigint, { f with
      oldsaTrap := f.sigaction .sigtrap
      sigaction := Function.update f.sigaction .sigtrap cfg.sigtrapAction })
  | .sigint, f =>
    (.sigalrm, { f with
      oldsaInt := f.sigaction .sigint
      sigaction := Function.update f.sigaction .sigint cfg.sigintAction })
  | .sigalrm, f =>
    (.kick, if cfg.timers then { f with
      oldsaAlrm := f.sigaction cfg.alarmSig
      sigaction := Function.update f.sigaction cfg.alarmSig sigalrmAction } else f)
  | .kick, f => (.inited, if cfg.kickstart then f else kickSelf f)
  | .inited, f => (.done, { f with inited := true })
  | .done, f => (.done, f)
  | .failed, f => (.failed, f)

/-- No statement of `bringup` takes back that FPSpy has aborted, if the kick does not. -/
theorem alive_of_step {cfg : Config A} {env : Env} {kernel : Bool} {kickSelf : Flow A → Flow A}
    {pc : BringupPc} {f : Flow A}
    (hkick : ∀ f, (kickSelf f).aborted = false → f.aborted = false)
    (halive : (step cfg env kernel kickSelf pc f).2.aborted = false) : f.aborted = false := by
  cases pc with
  | context =>
    simp only [step] at halive
    split at halive <;> exact halive
  | sigfpe | sigalrm =>
    simp only [step] at halive
    split_ifs at halive <;> exact halive
  | kick =>
    simp only [step] at halive
    split_ifs at halive
    · exact halive
    · exact hkick f halive
  | sigtrap | sigint | inited | done | failed => exact halive

def steps (cfg : Config A) (env : Env) (kernel : Bool) (kickSelf : Flow A → Flow A) :
    Nat → BringupPc × Flow A → BringupPc × Flow A
  | 0, s => s
  | n + 1, s => steps cfg env kernel kickSelf n (step cfg env kernel kickSelf s.1 s.2)

/-- Without a break the statements are `bringup`. -/
theorem steps_eq_bringup (cfg : Config A) (env : Env) (libc : Libc A) (kickSelf : Flow A → Flow A)
    (f : Flow A) :
    (steps cfg env false kickSelf 7
      (.context, { f with uc := libc.feclearexceptEnabled f.uc })).2 =
        bringup cfg env libc kickSelf f := by
  unfold bringup
  cases hmc : bringupMonitoringContext cfg env f.tid .zero with
  | none => simp [steps, step, hmc]
  | some mc =>
    by_cases ht : cfg.timers = true
    · simp [steps, step, hmc, setupSignals, ht]
    · simp [steps, step, hmc, setupSignals, ht]

end Bringup
end FPSpy
