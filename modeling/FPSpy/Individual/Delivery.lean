import FPSpy.Individual.Thread
import FPSpy.Monitor.Shims

/-!
# Delivery of SIGTRAP

A single-threaded target with its blocked signals, a pending SIGTRAP, and a log of what
becomes of the SIGTRAPs that `kick_self` sends. A handler runs with its own signal and
those of its `sa_mask` blocked, besides those that the target blocks itself: it inherits a
mask when it starts, and `sigprocmask` is not intercepted. A kick is taken at once if SIGTRAP
is not blocked, by whatever its disposition is then; otherwise it is pending until SIGTRAP is
unblocked, by the return of the handler or by the target.

`abort_operation` kicks, the kick may run `brk_trap_handler`, and that may call
`abort_operation` again. SIGTRAP is blocked in that handler, so `kickSelf` needs no more
than one level of nesting; its first argument bounds it.
-/
namespace FPSpy

variable {A : Arch}

inductive TrapEvent where
  /-- `kick_self` -/
  | sent
  /-- FPSpy's handler takes a SIGTRAP. -/
  | consumed
  /-- A SIGTRAP is delivered to a disposition that is not FPSpy's. -/
  | diverted
  /-- The previous disposition is put back. -/
  | restored
  deriving DecidableEq, Repr

structure Delivery (A : Arch) extends Flow A where
  blocked : List Signal
  log : List TrapEvent

namespace Delivery

def note (e : TrapEvent) (d : Delivery A) : Delivery A := { d with log := d.log ++ [e] }

def lift (op : Flow A → Flow A) (d : Delivery A) : Delivery A := { d with toFlow := op d.toFlow }

def handling (sig : Signal) (handler : Delivery A → Delivery A) (d : Delivery A) : Delivery A :=
  { handler { d with blocked := sig :: (d.sigaction sig).mask ++ d.blocked } with
    blocked := d.blocked }

def bringup (cfg : Config A) (env : Env) (libc : Libc A) (kick : Delivery A → Delivery A)
    (d : Delivery A) : Delivery A :=
  let d := { d with uc := libc.feclearexceptEnabled d.uc }
  match bringupMonitoringContext cfg env d.tid .zero with
  | none => { d with mc := none }
  | some mc =>
    let g := setupSignals cfg d.toGlobals
    let d := { d with
      toGlobals := { g with itimer := if cfg.timers then mc.sampler.it else g.itimer }
      mc := some mc }
    let d := if cfg.kickstart then d else kick d
    { d with inited := true }

def abortOps (cfg : Config A) (env : Env) (libc : Libc A) (kick : Delivery A → Delivery A) :
    AbortOps (Delivery A) where
  inited d := d.inited
  aborted d := d.aborted
  mode := .individual
  findMonitoringContext d := d.mc
  fpspyInit := bringup cfg env libc kick
  fedisableexcept := lift (Flow.abortOps cfg env libc id).fedisableexcept
  feclearexcept := lift (Flow.abortOps cfg env libc id).feclearexcept
  restoreSigfpe := lift (Flow.abortOps cfg env libc id).restoreSigfpe
  writeAbort mc := lift ((Flow.abortOps cfg env libc id).writeAbort mc)
  kickSelf := kick
  restoreSigtrap d := (d.lift (Flow.abortOps cfg env libc id).restoreSigtrap).note .restored
  setAborted := lift (Flow.abortOps cfg env libc id).setAborted

/-- The end of a handler. -/
def settle (cfg : Config A) (env : Env) (kick : Delivery A → Delivery A)
    (r : Flow A × HandlerExit) (d : Delivery A) : Delivery A :=
  match r.2 with
  | .abortOperation _ => abortOperation (abortOps cfg env .inHandler kick) { d with toFlow := r.1 }
  | _ => { d with toFlow := r.1 }

def takeSigtrap (cfg : Config A) (env : Env) (kick : Delivery A → Delivery A) (d : Delivery A) :
    Delivery A :=
  match (d.sigaction .sigtrap).handler with
  | .sigtrapHandler =>
    handling .sigtrap (fun d => settle cfg env kick (brkTrapHandler cfg env d.toFlow) d)
      { d.note .consumed with trapPending := false }
  | _ => { d.note .diverted with trapPending := false }

def kickSelf (cfg : Config A) (env : Env) : Nat → Delivery A → Delivery A
  | 0, d => { d.note .sent with trapPending := true }
  | n + 1, d =>
    if .sigtrap ∈ d.blocked then { d.note .sent with trapPending := true }
    else takeSigtrap cfg env (kickSelf cfg env n) (d.note .sent)

theorem kickSelf_of_blocked {cfg : Config A} {env : Env} {d : Delivery A} (n : Nat)
    (h : .sigtrap ∈ d.blocked) :
    kickSelf cfg env n d = { d.note .sent with trapPending := true } := by
  cases n with
  | zero => rfl
  | succ n => simp [kickSelf, h]

/-- While SIGTRAP is blocked, how kicks nest does not matter to an abort. -/
theorem abortOperation_of_blocked {cfg : Config A} {env : Env} {libc : Libc A} {d : Delivery A}
    (n : Nat) (h : .sigtrap ∈ d.blocked) :
    abortOperation (abortOps cfg env libc (kickSelf cfg env n)) d =
      abortOperation (abortOps cfg env libc (kickSelf cfg env 0)) d := by
  have hup : bringup cfg env libc (kickSelf cfg env n) d =
      bringup cfg env libc (kickSelf cfg env 0) d := by
    simp [bringup, kickSelf_of_blocked, h]
  have hb : .sigtrap ∈ (bringup cfg env libc (kickSelf cfg env 0) d).blocked := by
    unfold bringup
    dsimp only
    split
    · exact h
    · split_ifs <;> exact h
  cases hi : d.inited with
  | true =>
    simp only [abortOperation, abortOps, hi, if_true]
    cases hmc : d.mc <;> simp [lift, Flow.abortOps, hmc, kickSelf_of_blocked, h]
  | false =>
    simp only [abortOperation, abortOps, hi, Bool.false_eq_true, if_false, hup]
    generalize bringup cfg env libc (kickSelf cfg env 0) d = s at hb
    cases hmc : s.mc <;> simp [lift, Flow.abortOps, hmc, kickSelf_of_blocked, hb]

/-- FPSpy's SIGTRAP handler runs with SIGTRAP blocked, so one level of nesting is enough. -/
theorem kickSelf_succ (cfg : Config A) (env : Env) (n : Nat) :
    kickSelf cfg env (n + 1) = kickSelf cfg env 1 := by
  have htake (d : Delivery A) : takeSigtrap cfg env (kickSelf cfg env n) d =
      takeSigtrap cfg env (kickSelf cfg env 0) d := by
    unfold takeSigtrap handling settle
    split
    · dsimp only
      split
      · rw [abortOperation_of_blocked n (by simp)]
      · rfl
    · rfl
  funext d
  rw [kickSelf, kickSelf, htake]

def returned (cfg : Config A) (env : Env) (kick : Delivery A → Delivery A) (d : Delivery A) :
    Delivery A :=
  if d.trapPending ∧ .sigtrap ∉ d.blocked then takeSigtrap cfg env kick d else d

def fpspyDeinit (d : Delivery A) : Delivery A :=
  { d with mc := if d.inited then none else d.mc, inited := false }

/-- The child of a fork, which goes on in place of its parent. `alloc_monitoring_context` finds
it a slot unless the table is full. -/
def fork (cfg : Config A) (env : Env) (libc : Libc A) (kick : Delivery A → Delivery A) (tid : Nat)
    (slot : Option MonitoringContext) (d : Delivery A) : Delivery A :=
  let d := { d with tid := tid, mc := none, trapPending := false }
  if d.aborted then d
  else
    let d := { d with uc := libc.feclearexceptEnabled d.uc }
    match slot.bind (bringupMonitoringContext cfg env tid) with
    | none => d
    | some mc => kick { d with mc := some mc }

end Delivery

inductive DeliveryEvent (A : Arch) where
  | fpTrap (env : Env) (siCode : BitVec 32)
  | brkTrap (env : Env)
  | expiry (env : Env)
  | sigint
  /-- The target forks; from here on this is the child, which is given `slot`. -/
  | fork (env : Env) (tid : Nat) (slot : Option MonitoringContext)
  /-- A call of one of the `fe*` functions. -/
  | fe (env : Env)
  | signal (env : Env) (sig : Signal) (func : SigHandler)
  | sigaction (env : Env) (sig : Signal) (act : SigAction)
  /-- The target's own instructions, which may write any register. -/
  | target (uc : A.UContext)
  /-- `sigprocmask(SIG_SETMASK, mask)` -/
  | sigmask (env : Env) (mask : List Signal)

namespace Delivery

def origSigaction (sig : Signal) (act : SigAction) (d : Delivery A) : Delivery A × Unit :=
  ({ d with sigaction := Function.update d.sigaction sig act }, ())

/-- The target after an event, if it can happen and the target survives the handler. A trap whose
signal is blocked kills it. -/
def step (cfg : Config A) (libc : Libc A) (n : Nat) (d : Delivery A) :
    DeliveryEvent A → Option (Delivery A)
  | .fpTrap env siCode =>
    let r := fpTrapHandler cfg env siCode d.toFlow
    if .sigfpe ∉ d.blocked ∧ d.trapsUnmasked cfg ∧
        (d.sigaction .sigfpe).handler = .sigfpeHandler ∧
        r.2 ≠ .abort ∧ r.2 ≠ .nullDeref ∧ r.2 ≠ .divideError then
      some (returned cfg env (kickSelf cfg env n)
        (handling .sigfpe (settle cfg env (kickSelf cfg env n) r) d))
    else none
  | .brkTrap env =>
    if .sigtrap ∉ d.blocked ∧ (d.sigaction .sigtrap).handler = .sigtrapHandler then
      some (returned cfg env (kickSelf cfg env n) (takeSigtrap cfg env (kickSelf cfg env n) d))
    else none
  | .expiry env =>
    if cfg.alarmSig ∉ d.blocked ∧ cfg.timers ∧
        (d.sigaction cfg.alarmSig).handler = .sigalrmHandler then
      some (d.lift (sigalrmHandler cfg env))
    else none
  | .sigint =>
    if .sigint ∉ d.blocked ∧ (d.sigaction .sigint).handler = .sigintHandler then
      match d.oldsaInt.handler with
      | .target _ => some d.fpspyDeinit
      | _ => none
    else none
  | .fork env tid slot => some (d.fork cfg env libc (kickSelf cfg env n) tid slot)
  | .fe env => some (Shim.fe (abortOps cfg env libc (kickSelf cfg env n)) (·, ()) d).1
  | .signal env sig func =>
    some (Shim.signal (abortOps cfg env libc (kickSelf cfg env n)) cfg.aggressive sig
      (origSigaction sig (.ofSignal sig func)) () d).1
  | .sigaction env sig act =>
    some (Shim.sigaction (abortOps cfg env libc (kickSelf cfg env n)) cfg.aggressive sig
      (origSigaction sig act) () d).1
  | .target uc => some { d with uc := uc }
  | .sigmask env mask => some (returned cfg env (kickSelf cfg env n) { d with blocked := mask })

inductive StepEffect (cfg : Config A) (libc : Libc A) (n : Nat) (d : Delivery A) :
    DeliveryEvent A → Delivery A → Prop where
  | fpTrap {env siCode} (hopen : d.trapsUnmasked cfg = true)
      (hours : (d.sigaction .sigfpe).handler = .sigfpeHandler)
      (habort : (fpTrapHandler cfg env siCode d.toFlow).2 ≠ .abort)
      (hnull : (fpTrapHandler cfg env siCode d.toFlow).2 ≠ .nullDeref)
      (hdivide : (fpTrapHandler cfg env siCode d.toFlow).2 ≠ .divideError) :
      StepEffect cfg libc n d (.fpTrap env siCode) (returned cfg env (kickSelf cfg env n)
        (handling .sigfpe (settle cfg env (kickSelf cfg env n)
          (fpTrapHandler cfg env siCode d.toFlow)) d))
  | brkTrap {env} (hopen : .sigtrap ∉ d.blocked)
      (hours : (d.sigaction .sigtrap).handler = .sigtrapHandler) :
      StepEffect cfg libc n d (.brkTrap env)
        (returned cfg env (kickSelf cfg env n) (takeSigtrap cfg env (kickSelf cfg env n) d))
  | expiry {env} (hours : (d.sigaction cfg.alarmSig).handler = .sigalrmHandler) :
      StepEffect cfg libc n d (.expiry env) (d.lift (sigalrmHandler cfg env))
  | sigint : StepEffect cfg libc n d .sigint d.fpspyDeinit
  | fork {env tid slot} : StepEffect cfg libc n d (.fork env tid slot)
      (d.fork cfg env libc (kickSelf cfg env n) tid slot)
  | fe {env} : StepEffect cfg libc n d (.fe env)
      (Shim.fe (abortOps cfg env libc (kickSelf cfg env n)) (·, ()) d).1
  | signal {env sig func} : StepEffect cfg libc n d (.signal env sig func)
      (Shim.signal (abortOps cfg env libc (kickSelf cfg env n)) cfg.aggressive sig
        (origSigaction sig (.ofSignal sig func)) () d).1
  | sigaction {env sig act} : StepEffect cfg libc n d (.sigaction env sig act)
      (Shim.sigaction (abortOps cfg env libc (kickSelf cfg env n)) cfg.aggressive sig
        (origSigaction sig act) () d).1
  | target {uc} : StepEffect cfg libc n d (.target uc) { d with uc := uc }
  | sigmask {env mask} : StepEffect cfg libc n d (.sigmask env mask)
      (returned cfg env (kickSelf cfg env n) { d with blocked := mask })

/-- These are all the kinds. -/
theorem step_effect {cfg : Config A} {libc : Libc A} {n : Nat} {d r : Delivery A}
    {e : DeliveryEvent A} (h : d.step cfg libc n e = some r) : StepEffect cfg libc n d e r := by
  cases e with
  | fpTrap env siCode =>
    simp only [step] at h
    split_ifs at h with hc
    obtain ⟨-, hopen, hours, habort, hnull, hdivide⟩ := hc
    exact Option.some.inj h ▸ .fpTrap hopen hours habort hnull hdivide
  | brkTrap env =>
    simp only [step] at h
    split_ifs at h with hc
    exact Option.some.inj h ▸ .brkTrap hc.1 hc.2
  | expiry env =>
    simp only [step] at h
    split_ifs at h with hc
    exact Option.some.inj h ▸ .expiry hc.2.2
  | sigint =>
    simp only [step] at h
    split_ifs at h
    split at h
    · exact Option.some.inj h ▸ .sigint
    · cases h
  | fork => exact Option.some.inj h ▸ .fork
  | fe => exact Option.some.inj h ▸ .fe
  | signal => exact Option.some.inj h ▸ .signal
  | sigaction => exact Option.some.inj h ▸ .sigaction
  | target => exact Option.some.inj h ▸ .target
  | sigmask => exact Option.some.inj h ▸ .sigmask

/-- A target that FPSpy tries to bring up, with the dispositions and the signal mask it has
inherited. -/
def start (cfg : Config A) (env : Env) (libc : Libc A) (n tid : Nat) (uc : A.UContext)
    (inherited : Signal → SigAction) (mask : List Signal) (code : Mem) : Delivery A :=
  bringup cfg env libc (kickSelf cfg env n)
    { toGlobals := { Globals.start code with sigaction := inherited }
      toThread := .start tid uc
      blocked := mask
      log := [] }

end Delivery
end FPSpy
