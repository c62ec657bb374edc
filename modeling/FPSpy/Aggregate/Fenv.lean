import FPSpy.Monitor.Context

/-!
# The floating point environment and libc's calls on it

What `fenv.h` and `signal.h` specify, on the state a single-threaded target can see: the
sticky exception flags, the enabled exceptions, the rounding direction and the signal
dispositions.
-/
namespace FPSpy

structure FpEnv where
  flags : BitVec 32
  enables : BitVec 32
  round : BitVec 32
  deriving DecidableEq, Repr

def FpEnv.dfl : FpEnv := ⟨0, 0, 0⟩

structure Fenv where
  /-- `FE_ALL_EXCEPT` -/
  allExcept : BitVec 32
  /-- The exceptions `feenableexcept` can enable. -/
  trappable : BitVec 32
  /-- The rounding directions. -/
  roundModes : List (BitVec 32)
  /-- What `sigaction` adds to the flags it is given: `SA_RESTORER`, where the C library has its
  own code for the return from a handler. -/
  restorer : BitVec 32

inductive FeCall where
  | feclearexcept (excepts : BitVec 32)
  | feenableexcept (excepts : BitVec 32)
  | fedisableexcept (excepts : BitVec 32)
  | fegetexcept
  | fegetexceptflag (excepts : BitVec 32)
  | feraiseexcept (excepts : BitVec 32)
  | fesetexceptflag (flagp : BitVec 32) (excepts : BitVec 32)
  | fetestexcept (excepts : BitVec 32)
  | fegetround
  | fesetround (roundingMode : BitVec 32)
  | fegetenv
  | feholdexcept
  | fesetenv (envp : FpEnv)
  | feupdateenv (envp : FpEnv)
  deriving DecidableEq, Repr

/-- What a call gives back: its return value and what it stored through its pointer. -/
inductive CallResult where
  | int (ret : BitVec 32)
  | flag (ret : BitVec 32) (flagp : BitVec 32)
  | env (ret : BitVec 32) (envp : FpEnv)
  /-- `none` is `SIG_ERR`. -/
  | handler (ret : Option SigHandler)
  | action (ret : BitVec 32) (oldact : Option SigAction)
  /-- Not a call. -/
  | nothing
  deriving DecidableEq, Repr

def FeCall.orig (F : Fenv) (e : FpEnv) : FeCall → FpEnv × CallResult
  | .feclearexcept excepts =>
    ({ e with flags := e.flags &&& ~~~(excepts &&& F.allExcept) }, .int 0)
  | .feenableexcept excepts =>
    let wanted := excepts &&& F.allExcept
    ({ e with enables := e.enables ||| (wanted &&& F.trappable) },
      .int (if wanted &&& ~~~F.trappable = 0 then e.enables &&& F.allExcept else -1))
  | .fedisableexcept excepts =>
    ({ e with enables := e.enables &&& ~~~(excepts &&& F.allExcept) },
      .int (e.enables &&& F.allExcept))
  | .fegetexcept => (e, .int (e.enables &&& F.allExcept))
  | .fegetexceptflag excepts => (e, .flag 0 (e.flags &&& (excepts &&& F.allExcept)))
  | .feraiseexcept excepts => ({ e with flags := e.flags ||| (excepts &&& F.allExcept) }, .int 0)
  | .fesetexceptflag flagp excepts =>
    let chosen := excepts &&& F.allExcept
    ({ e with flags := (e.flags &&& ~~~chosen) ||| (flagp &&& chosen) }, .int 0)
  | .fetestexcept excepts => (e, .int (e.flags &&& (excepts &&& F.allExcept)))
  | .fegetround => (e, .int e.round)
  | .fesetround roundingMode =>
    if roundingMode ∈ F.roundModes then ({ e with round := roundingMode }, .int 0) else (e, .int 1)
  | .fegetenv => (e, .env 0 e)
  | .feholdexcept =>
    ({ e with flags := e.flags &&& ~~~F.allExcept, enables := e.enables &&& ~~~F.allExcept },
      .env 0 e)
  | .fesetenv envp => (envp, .int 0)
  | .feupdateenv envp => ({ envp with flags := envp.flags ||| (e.flags &&& F.allExcept) }, .int 0)

inductive TargetAction where
  /-- A floating point operation that raises these exceptions. -/
  | fpOp (raised : BitVec 32)
  | fe (c : FeCall)
  | signal (sig : Signal) (func : SigHandler)
  /-- A null `act` only asks. -/
  | sigaction (sig : Signal) (act : Option SigAction)

structure Target where
  env : FpEnv
  sigaction : Signal → SigAction

def Target.start (inherited : Signal → SigAction) : Target := ⟨.dfl, inherited⟩

/-- SIGKILL and SIGSTOP have no handlers. -/
def Signal.uncatchable (sig : Signal) : Bool := sig = .other 9 ∨ sig = .other 19

/-- The action that is in force once `sigaction` has been given `act`. -/
def Fenv.installed (F : Fenv) (act : SigAction) : SigAction :=
  { act with flags := act.flags ||| F.restorer }

namespace Target

def origSignal (F : Fenv) (sig : Signal) (func : SigHandler) (t : Target) : Target × CallResult :=
  if sig.uncatchable then (t, .handler none)
  else
    ({ t with sigaction := Function.update t.sigaction sig (F.installed (.ofSignal sig func)) },
      .handler (some (t.sigaction sig).handler))

def origSigaction (F : Fenv) (sig : Signal) (act : Option SigAction) (t : Target) :
    Target × CallResult :=
  match act with
  | none => (t, .action 0 (some (t.sigaction sig)))
  | some a =>
    if sig.uncatchable then (t, .action (-1) none)
    else
      ({ t with sigaction := Function.update t.sigaction sig (F.installed a) },
        .action 0 (some (t.sigaction sig)))

def origFe (F : Fenv) (c : FeCall) (t : Target) : Target × CallResult :=
  ({ t with env := (c.orig F t.env).1 }, (c.orig F t.env).2)

/-- An operation sets its flags and clears none. -/
def raise (raised : BitVec 32) (t : Target) : Target :=
  { t with env := { t.env with flags := t.env.flags ||| raised } }

def act (F : Fenv) (t : Target) : TargetAction → Target × CallResult
  | .fpOp raised => (t.raise raised, .nothing)
  | .fe c => t.origFe F c
  | .signal sig func => t.origSignal F sig func
  | .sigaction sig a => t.origSigaction F sig a

end Target
end FPSpy
