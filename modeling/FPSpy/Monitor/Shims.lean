import FPSpy.Monitor.Abort

/-!
# The interposed calls

The target's calls of `signal`, `sigaction` and the `fe*` functions reach FPSpy first. A
shim forwards the call to libc's original, which is `orig` here, and gets FPSpy out of
the way before that where the call would disturb it.
-/
namespace FPSpy.Shim

variable {σ ρ : Type} (O : AbortOps σ) (aggressive : Bool)

/-- Calls that get out of the way only in individual mode, and are refused with 0 in
aggressive mode. -/
def guarded (watched : Bool) (orig : σ → σ × ρ) (refused : ρ) (s : σ) : σ × ρ :=
  if watched ∧ O.mode = .individual ∧ O.aborted s = false then
    if aggressive then (s, refused) else orig (abortOperation O s)
  else orig s

def signal (sig : Signal) (orig : σ → σ × ρ) (refused : ρ) (s : σ) : σ × ρ :=
  guarded O aggressive (sig = .sigfpe ∨ sig = .sigtrap) orig refused s

def sigaction (sig : Signal) (orig : σ → σ × ρ) (refused : ρ) (s : σ) : σ × ρ :=
  guarded O aggressive (sig = .sigvtalrm ∨ sig = .sigfpe ∨ sig = .sigtrap) orig refused s

/-- All fourteen `fe*` functions: get out of the way, then forward. -/
def fe (orig : σ → σ × ρ) (s : σ) : σ × ρ := orig (abortOperation O s)

/-- In aggregate mode a guarded call is only forwarded. -/
theorem guarded_of_aggregate (h : O.mode = .aggregate) (watched : Bool) (orig : σ → σ × ρ)
    (refused : ρ) : guarded O aggressive watched orig refused = orig := by
  funext s
  simp [guarded, h]

end FPSpy.Shim
