import FPSpy.Monitor.Handlers

/-!
# Start-up and abort

`bringup` with the signal set-up it makes, and `abort_operation`, which is written
once over what it needs from the program around it: the same text is run by a handler,
by an intercepted call, and by a process in aggregate mode, on different states.
-/
namespace FPSpy

variable {A : Arch}

/-! ## Bringing a thread and a process up -/

def MonitoringContext.zero : MonitoringContext where
  startTime := 0
  state := .init
  abortingInTrap := false
  tid := 0
  fd := 0
  count := 0
  trapModeState := 0
  sampler := ⟨.off, false, 0, 0, 0, ⟨0, 0, 0, 0⟩⟩
  traceRecords := []

/-- `bringup_monitoring_context` on the slot it was given, without kernel support. The
trace buffer and `delayed_processing` keep what the slot held before. -/
def bringupMonitoringContext (cfg : Config A) (env : Env) (tid : Nat)
    (slot : MonitoringContext) : Option MonitoringContext :=
  let c := { slot with tid := tid }
  let opened := if cfg.createMonitorFile then env.openFd.map Int.ofNat else some c.fd
  opened.map fun fd =>
    { c with
      fd := fd
      startTime := env.cycles
      state := .init
      abortingInTrap := false
      count := 0
      trapModeState := 0
      sampler := initSampler cfg env c.sampler }

structure NewContext (cfg : Config A) (env : Env) (tid : Nat) (slot mc : MonitoringContext) :
    Prop where
  startTime : mc.startTime = env.cycles
  state : mc.state = .init
  abortingInTrap : mc.abortingInTrap = false
  tid : mc.tid = tid
  count : mc.count = 0
  trapModeState : mc.trapModeState = 0
  sampler : mc.sampler = initSampler cfg env slot.sampler
  traceRecords : mc.traceRecords = slot.traceRecords

theorem newContext_of_bringup {cfg : Config A} {env : Env} {tid : Nat} {slot mc : MonitoringContext}
    (h : bringupMonitoringContext cfg env tid slot = some mc) : NewContext cfg env tid slot mc := by
  obtain ⟨fd, -, rfl⟩ := Option.map_eq_some_iff.mp h
  exact ⟨rfl, rfl, rfl, rfl, rfl, rfl, rfl, rfl⟩

def Env.Opens (cfg : Config A) (env : Env) : Prop :=
  cfg.createMonitorFile = true → env.openFd.isSome = true

instance (cfg : Config A) (env : Env) : Decidable (env.Opens cfg) :=
  inferInstanceAs (Decidable (_ → _))

theorem opens_of_bringup {cfg : Config A} {env : Env} {tid : Nat} {slot mc : MonitoringContext}
    (h : bringupMonitoringContext cfg env tid slot = some mc) : env.Opens cfg := by
  intro hcreate
  obtain ⟨fd, hfd, -⟩ := Option.map_eq_some_iff.mp h
  simp only [hcreate, if_true] at hfd
  obtain ⟨n, hn, -⟩ := Option.map_eq_some_iff.mp hfd
  simp [hn]

def Config.alarmSig (cfg : Config A) : Signal :=
  match cfg.timerType with
  | .real => .sigalrm
  | .virtual => .sigvtalrm
  | .prof => .sigprof

/-- The alarm signal is only masked where timers are used. -/
def Config.alarmMask (cfg : Config A) : List Signal := if cfg.timers then [cfg.alarmSig] else []

def Config.sigfpeAction (cfg : Config A) : SigAction :=
  ⟨.sigfpeHandler, [.sigint, .sigtrap] ++ cfg.alarmMask, saSiginfo⟩

def Config.sigtrapAction (cfg : Config A) : SigAction :=
  ⟨.sigtrapHandler, [.sigint, .sigtrap] ++ cfg.alarmMask ++ [.sigfpe], saSiginfo⟩

def Config.sigintAction (cfg : Config A) : SigAction :=
  ⟨.sigintHandler, [.sigtrap] ++ cfg.alarmMask, saSiginfo⟩

def sigalrmAction : SigAction := ⟨.sigalrmHandler, [.sigint], saSiginfo⟩

/-- The `sigaction` calls of `bringup`, each stashing what it replaces. -/
def setupSignals (cfg : Config A) (g : Globals) : Globals :=
  let g := { g with
    oldsaFpe := g.sigaction .sigfpe
    sigaction := Function.update g.sigaction .sigfpe cfg.sigfpeAction }
  let g := { g with
    oldsaTrap := g.sigaction .sigtrap
    sigaction := Function.update g.sigaction .sigtrap cfg.sigtrapAction }
  let g := { g with
    oldsaInt := g.sigaction .sigint
    sigaction := Function.update g.sigaction .sigint cfg.sigintAction }
  if cfg.timers then
    { g with
      oldsaAlrm := g.sigaction cfg.alarmSig
      sigaction := Function.update g.sigaction cfg.alarmSig sigalrmAction }
  else g

/-- What libc's calls do to the registers of the thread that makes them. -/
structure Libc (A : Arch) where
  /-- `fedisableexcept(FE_ALL_EXCEPT)` -/
  fedisableexceptAll : A.UContext → A.UContext
  /-- `feclearexcept(FE_ALL_EXCEPT)` -/
  feclearexceptAll : A.UContext → A.UContext
  /-- `feclearexcept(enabled_fp_traps)` -/
  feclearexceptEnabled : A.UContext → A.UContext

/-- Inside a handler the calls act on registers that are dropped when it returns. -/
def Libc.inHandler : Libc A := ⟨id, id, id⟩

/-- `bringup` in individual mode, in the thread that runs it: the context table is wiped,
so the thread's context is a fresh one or none at all. -/
def bringup (cfg : Config A) (env : Env) (libc : Libc A) (kickSelf : Flow A → Flow A)
    (f : Flow A) : Flow A :=
  let f := { f with uc := libc.feclearexceptEnabled f.uc }
  match bringupMonitoringContext cfg env f.tid .zero with
  | none => { f with mc := none }
  | some mc =>
    let g := setupSignals cfg f.toGlobals
    let f := { f with
      toGlobals := { g with itimer := if cfg.timers then mc.sampler.it else g.itimer }
      mc := some mc }
    let f := if cfg.kickstart then f else kickSelf f
    { f with inited := true }

/-! ## Abort -/

structure AbortOps (σ : Type) where
  inited : σ → Bool
  aborted : σ → Bool
  mode : Mode
  findMonitoringContext : σ → Option MonitoringContext
  fpspyInit : σ → σ
  /-- `fedisableexcept(FE_ALL_EXCEPT)` -/
  fedisableexcept : σ → σ
  /-- `feclearexcept(FE_ALL_EXCEPT)` -/
  feclearexcept : σ → σ
  /-- `sigaction(SIGFPE, &oldsa_fpe, 0)` -/
  restoreSigfpe : σ → σ
  /-- `mc->state = ABORT`, and the abort record. -/
  writeAbort : MonitoringContext → σ → σ
  kickSelf : σ → σ
  /-- `sigaction(SIGTRAP, &oldsa_trap, 0)` -/
  restoreSigtrap : σ → σ
  setAborted : σ → σ

def abortOperation {σ : Type} (O : AbortOps σ) (s : σ) : σ :=
  let s := if O.inited s then s else O.fpspyInit s
  if O.aborted s then s
  else
    let s := O.restoreSigfpe (O.feclearexcept (O.fedisableexcept s))
    let s := match O.mode with
      | .aggregate => s
      | .individual =>
        match O.findMonitoringContext s with
        | none => O.kickSelf s
        | some mc =>
          let s := O.writeAbort mc s
          if mc.abortingInTrap then s else O.kickSelf s
    O.setAborted (O.restoreSigtrap s)

/-- What holds once the program is initialised and each operation of an abort keeps gives what
holds at the end, where the program had aborted already or has just been marked. -/
theorem abortOperation_post {σ : Type} {O : AbortOps σ} {P Q : σ → Prop} {s : σ}
    (hstart : P (if O.inited s then s else O.fpspyInit s))
    (haborted : ∀ s, O.aborted s = true → P s → Q s)
    (hfenv : ∀ s, P s → P (O.feclearexcept (O.fedisableexcept s)))
    (hfpe : ∀ s, P s → P (O.restoreSigfpe s))
    (hwrite : ∀ s mc, O.findMonitoringContext s = some mc → P s → P (O.writeAbort mc s))
    (hkick : ∀ s, P s → P (O.kickSelf s)) (htrap : ∀ s, P s → P (O.restoreSigtrap s))
    (hset : ∀ s, P s → Q (O.setAborted s)) : Q (abortOperation O s) := by
  unfold abortOperation
  dsimp only
  generalize (if O.inited s then s else O.fpspyInit s) = s₁ at hstart
  split_ifs with ha
  · exact haborted s₁ ha hstart
  refine hset _ (htrap _ ?_)
  have hmid := hfpe _ (hfenv _ hstart)
  generalize O.restoreSigfpe (O.feclearexcept (O.fedisableexcept s₁)) = s₂ at hmid
  cases O.mode with
  | aggregate => exact hmid
  | individual =>
    dsimp only
    split
    · exact hkick _ hmid
    · next mc hmc =>
      have hwritten := hwrite _ mc hmc hmid
      split_ifs
      · exact hwritten
      · exact hkick _ hwritten

/-- What each operation of an abort keeps, the abort keeps; `fpspy_init` only runs in a program
that is not initialised. -/
theorem abortOperation_invariant {σ : Type} {O : AbortOps σ} {P : σ → Prop} {s : σ}
    (hinit : O.inited s = false → P (O.fpspyInit s))
    (hfenv : ∀ s, P s → P (O.feclearexcept (O.fedisableexcept s)))
    (hfpe : ∀ s, P s → P (O.restoreSigfpe s))
    (hwrite : ∀ s mc, O.findMonitoringContext s = some mc → P s → P (O.writeAbort mc s))
    (hkick : ∀ s, P s → P (O.kickSelf s)) (htrap : ∀ s, P s → P (O.restoreSigtrap s))
    (hset : ∀ s, P s → P (O.setAborted s)) (hs : P s) : P (abortOperation O s) := by
  refine abortOperation_post ?_ (fun _ _ h => h) hfenv hfpe hwrite hkick htrap hset
  split_ifs with hi
  · exact hs
  · exact hinit (by simpa using hi)

/-- Where FPSpy has aborted already an abort does no more than to initialise the program. -/
theorem abortOperation_eq_of_aborted {σ : Type} (O : AbortOps σ) {s t : σ}
    (ht : (if O.inited s then s else O.fpspyInit s) = t) (ha : O.aborted t = true) :
    abortOperation O s = t := by
  simp [abortOperation, ht, ha]

/-- A second abort does nothing. -/
theorem abortOperation_of_aborted {σ : Type} (O : AbortOps σ) {s : σ} (hi : O.inited s = true)
    (ha : O.aborted s = true) : abortOperation O s = s :=
  abortOperation_eq_of_aborted O (if_pos hi) ha

/-- The first abort in individual mode, from the state `t` in which the program is initialised or
has failed to be. -/
theorem abortOperation_of_not_aborted {σ : Type} (O : AbortOps σ) {s t : σ}
    (ht : (if O.inited s then s else O.fpspyInit s) = t) (ha : O.aborted t = false)
    (hmode : O.mode = .individual) :
    abortOperation O s =
      let u := O.restoreSigfpe (O.feclearexcept (O.fedisableexcept t))
      let v := match O.findMonitoringContext u with
        | none => O.kickSelf u
        | some mc =>
          let w := O.writeAbort mc u
          if mc.abortingInTrap then w else O.kickSelf w
      O.setAborted (O.restoreSigtrap v) := by
  simp [abortOperation, ht, ha, hmode]

/-- The first abort of an initialised program in individual mode. -/
theorem abortOperation_individual {σ : Type} (O : AbortOps σ) {s : σ} (hi : O.inited s = true)
    (ha : O.aborted s = false) (hmode : O.mode = .individual) :
    abortOperation O s =
      let u := O.restoreSigfpe (O.feclearexcept (O.fedisableexcept s))
      let v := match O.findMonitoringContext u with
        | none => O.kickSelf u
        | some mc =>
          let w := O.writeAbort mc u
          if mc.abortingInTrap then w else O.kickSelf w
      O.setAborted (O.restoreSigtrap v) :=
  abortOperation_of_not_aborted O (if_pos hi) ha hmode

/-- A program that is not initialised is initialised first. -/
theorem abortOperation_fpspyInit {σ : Type} (O : AbortOps σ) {s : σ} (hi : O.inited s = false)
    (h : O.inited (O.fpspyInit s) = true) :
    abortOperation O s = abortOperation O (O.fpspyInit s) := by
  simp [abortOperation, hi, h]

namespace Flow

/-- `mc->state = ABORT` and the abort record, if a trace file is written. -/
def writeAbort (cfg : Config A) (env : Env) (mc : MonitoringContext) (f : Flow A) : Flow A :=
  let mc := { mc with state := .abort }
  if cfg.createMonitorFile then f.push cfg mc (.abort (env.abortCycles - mc.startTime))
  else { f with mc := some mc }

/-- The operations of an abort in a thread of individual mode. What `kick_self` and
libc's calls do depends on the flow. -/
def abortOps (cfg : Config A) (env : Env) (libc : Libc A) (kickSelf : Flow A → Flow A) :
    AbortOps (Flow A) where
  inited f := f.inited
  aborted f := f.aborted
  mode := .individual
  findMonitoringContext f := f.mc
  fpspyInit := bringup cfg env libc kickSelf
  fedisableexcept f := { f with uc := libc.fedisableexceptAll f.uc }
  feclearexcept f := { f with uc := libc.feclearexceptAll f.uc }
  restoreSigfpe f := { f with sigaction := Function.update f.sigaction .sigfpe f.oldsaFpe }
  writeAbort := writeAbort cfg env
  kickSelf := kickSelf
  restoreSigtrap f := { f with sigaction := Function.update f.sigaction .sigtrap f.oldsaTrap }
  setAborted f := { f with aborted := true }

/-- A kick while SIGTRAP is blocked stays pending. -/
def kickBlocked (f : Flow A) : Flow A := { f with trapPending := true }

def abortInHandler (cfg : Config A) (env : Env) (f : Flow A) : Flow A :=
  abortOperation (abortOps cfg env .inHandler kickBlocked) f

def resume (cfg : Config A) (env : Env) (r : Flow A × HandlerExit) : Option (Flow A) :=
  match r.2 with
  | .ret => some r.1
  | .abortOperation _ => some (r.1.abortInHandler cfg env)
  | .abort | .nullDeref | .divideError => none

def settle (cfg : Config A) (env : Env) (r : Flow A × HandlerExit) : Flow A :=
  (resume cfg env r).getD r.1

end Flow
end FPSpy
