import FPSpy.Individual.Thread
import FPSpy.Monitor.Shims

/-!
# Several threads

Threads share the process-wide state; each has its own registers and its own monitoring
context. A handler runs in one thread, on the shared state and that thread's own.
-/
namespace FPSpy

variable {ι : Type} {A : Arch}

structure Process (ι : Type) (A : Arch) where
  globals : Globals
  thread : ι → Thread A

namespace Process

def flow (p : Process ι A) (t : ι) : Flow A := ⟨p.globals, p.thread t⟩

variable [DecidableEq ι]

def put (p : Process ι A) (t : ι) (f : Flow A) : Process ι A :=
  ⟨f.toGlobals, Function.update p.thread t f.toThread⟩

@[simp] theorem globals_put (p : Process ι A) (t : ι) (f : Flow A) :
    (p.put t f).globals = f.toGlobals := rfl

@[simp] theorem flow_put_self (p : Process ι A) (t : ι) (f : Flow A) : (p.put t f).flow t = f := by
  simp [flow, put]

theorem thread_put_of_ne (p : Process ι A) {t u : ι} (f : Flow A) (h : u ≠ t) :
    (p.put t f).thread u = p.thread u := by
  simp [put, h]

theorem disarmed_congr {cfg : Config A} {f g : Flow A} (h : g.toThread = f.toThread) :
    g.Disarmed cfg ↔ f.Disarmed cfg := by
  have huc : g.uc = f.uc := congrArg Thread.uc h
  have hmc : g.mc = f.mc := congrArg Thread.mc h
  simp only [Flow.Disarmed, Flow.trapsUnmasked, Flow.singleStepping, huc, hmc]

/-- A step of one thread leaves the traps of the others alone. -/
theorem disarmed_put_of_ne {cfg : Config A} (p : Process ι A) {t u : ι} (f : Flow A) (h : u ≠ t) :
    ((p.put t f).flow u).Disarmed cfg ↔ (p.flow u).Disarmed cfg :=
  disarmed_congr (p.thread_put_of_ne f h)

end Process

/-- A kick of a thread that does not block SIGTRAP: the handler runs at once. -/
def Flow.kickDelivered (cfg : Config A) (env : Env) (f : Flow A) : Flow A :=
  if (f.sigaction .sigtrap).handler = .sigtrapHandler then
    Flow.settle cfg env (brkTrapHandler cfg env f)
  else f

/-- An intercepted call that makes FPSpy get out of the way. The call itself is then forwarded,
which is the target's own doing. -/
def Flow.interceptedCall (cfg : Config A) (env : Env) (libc : Libc A) (f : Flow A) : Flow A :=
  abortOperation (Flow.abortOps cfg env libc (Flow.kickDelivered cfg env)) f

namespace Flow

def origSigaction (sig : Signal) (act : Option SigAction) (f : Flow A) : Flow A × Unit :=
  match act with
  | none => (f, ())
  | some act => ({ f with sigaction := Function.update f.sigaction sig act }, ())

def callOps (cfg : Config A) (env : Env) (libc : Libc A) : AbortOps (Flow A) :=
  abortOps cfg env libc (kickDelivered cfg env)

theorem aborted_origSigaction (sig : Signal) (act : Option SigAction) (f : Flow A) :
    (origSigaction sig act f).1.aborted = f.aborted := by
  cases act <;> rfl

/-- Without an abort a handler leaves the dispositions and the stashes alone. -/
theorem sameProcess_of_step {cfg : Config A} {f g : Flow A} {e : ThreadEvent}
    (hstep : f.step cfg e = some g) (halive : g.aborted = false) : SameProcess f g := by
  cases handlerStep_of_step hstep with
  | @fpTrap env siCode _ hopen hours hresume =>
    obtain rfl := eq_of_resume hresume halive
    exact (handlerFrame_fpTrapHandler cfg env siCode f).sameProcess
  | @brkTrap env _ hours hresume =>
    obtain rfl := eq_of_resume hresume halive
    exact (handlerFrame_brkTrapHandler cfg env f).sameProcess
  | @expiry env => exact (handlerFrame_sigalrmHandler cfg env f).sameProcess

theorem alive_of_kickDelivered {cfg : Config A} {env : Env} {f : Flow A}
    (halive : (f.kickDelivered cfg env).aborted = false) : f.aborted = false := by
  have hsame := (handlerFrame_brkTrapHandler cfg env f).sameProcess
  unfold kickDelivered at halive
  split_ifs at halive
  · unfold settle at halive
    cases hresume : resume cfg env (brkTrapHandler cfg env f) with
    | none => rwa [hresume, Option.getD_none, hsame.aborted] at halive
    | some g =>
      rw [hresume, Option.getD_some] at halive
      rwa [eq_of_resume hresume halive, hsame.aborted] at halive
  · exact halive

/-- A call after which FPSpy has not aborted has passed, or it was refused. -/
theorem guarded_of_alive {cfg : Config A} {env : Env} {libc : Libc A} {watched : Bool}
    {sig : Signal} {act : Option SigAction} {f : Flow A}
    (halive : (Shim.guarded (callOps cfg env libc) cfg.aggressive watched (origSigaction sig act) ()
      f).1.aborted = false) :
    f.aborted = false ∧ (Shim.guarded (callOps cfg env libc) cfg.aggressive watched
      (origSigaction sig act) () f).1 = if watched then f else (origSigaction sig act f).1 := by
  unfold Shim.guarded at halive ⊢
  cases watched with
  | false => simpa [aborted_origSigaction] using halive
  | true =>
    rw [if_pos rfl]
    split_ifs at halive ⊢ with hguard haggr
    · exact ⟨halive, rfl⟩
    · rw [aborted_origSigaction, callOps, aborted_abortOperation] at halive
      cases halive
    · rw [aborted_origSigaction] at halive
      exact absurd ⟨rfl, rfl, halive⟩ hguard

end Flow

inductive ProcessEvent (ι : Type) where
  | thread (t : ι) (e : ThreadEvent)
  | call (t : ι) (env : Env)

def Process.step [DecidableEq ι] (cfg : Config A) (libc : Libc A) (p : Process ι A) :
    ProcessEvent ι → Option (Process ι A)
  | .thread t e => ((p.flow t).step cfg e).map (p.put t)
  | .call t env => some (p.put t ((p.flow t).interceptedCall cfg env libc))

end FPSpy
