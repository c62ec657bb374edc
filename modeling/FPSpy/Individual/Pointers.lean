import FPSpy.Individual.Process
import FPSpy.Lib.Fatal
import FPSpy.Monitor.Table

/-!
# The pointer to a thread's context

The callers of `find_monitoring_context`, written with the pointer it returns: null, or the
thread's own slot. Every access to a field goes through the pointer and is fatal if that is
null. Where there is no such access, the code does what the handlers do that are given the
context itself; so only the error message that `fp_trap_handler` writes for a thread without
a context is in the way.
-/
namespace FPSpy

variable {A : Arch}

inductive Death where
  | nullDeref | abort | divideError
  deriving DecidableEq, Repr

inductive ContextPtr where
  | null | own
  deriving DecidableEq, Repr

abbrev Checked (A : Arch) := StateT (Flow A) (Except Death)

namespace Checked

open Fatal

/-! ## Accesses -/

def findMonitoringContext : Checked A ContextPtr := do
  return if (← get).mc.isSome then .own else .null

def deref (p : ContextPtr) : Checked A MonitoringContext := do
  match p, (← get).mc with
  | .own, some mc => return mc
  | _, _ => throw .nullDeref

def assign (p : ContextPtr) (change : MonitoringContext → MonitoringContext) :
    Checked A Unit := do
  let mc ← deref p
  modify fun f => { f with mc := some (change mc) }

/-- `!mc || test`: without a context there is nothing to read. -/
def nullOr (p : ContextPtr) (test : MonitoringContext → Bool) : Checked A Bool := do
  if p = .null then pure true else pure (test (← deref p))

def nonnullAnd (p : ContextPtr) (test : MonitoringContext → Bool) : Checked A Bool := do
  if p = .null then pure false else pure (test (← deref p))

def onUc (change : A.UContext → A.UContext) : Checked A Unit :=
  modify fun f => { f with uc := change f.uc }

def onTrapMode (change : A.UContext → Mem → BitVec 64 → TrapMode A.UContext) (p : ContextPtr) :
    Checked A Unit := do
  let mc ← deref p
  let f ← get
  let t := change f.uc f.code mc.trapModeState
  set { f with uc := t.uc, code := t.code }
  assign p fun mc => { mc with trapModeState := t.state }

def pushTraceRecord (cfg : Config A) (p : ContextPtr) (r : TraceRecord) : Checked A Unit := do
  let mc ← deref p
  modify (Flow.push cfg mc r)

/-! ## Aborting -/

def bringup (cfg : Config A) (env : Env) (libc : Libc A) (kickSelf : Checked A Unit) :
    Checked A Unit := do
  onUc libc.feclearexceptEnabled
  match bringupMonitoringContext cfg env (← get).tid .zero with
  | none => modify fun f => { f with mc := none }
  | some mc =>
    modify fun f =>
      let g := setupSignals cfg f.toGlobals
      { f with
        toGlobals := { g with itimer := if cfg.timers then mc.sampler.it else g.itimer }
        mc := some mc }
    guarded (cfg.kickstart = false) kickSelf
    modify fun f => { f with inited := true }

/-- `abort_operation` with a context: its state and the abort record. -/
def writeAbort (cfg : Config A) (env : Env) (mc : ContextPtr) : Checked A Unit := do
  assign mc fun c => { c with state := .abort }
  let r := .abort (env.abortCycles - (← deref mc).startTime)
  guarded (cfg.createMonitorFile = true) (pushTraceRecord cfg mc r)

/-- `if (!mc || !mc->aborting_in_trap) kick_self()` -/
def kickUnlessInTrap (mc : ContextPtr) (kickSelf : Checked A Unit) : Checked A Unit := do
  let kicks ← nullOr mc (!·.abortingInTrap)
  guarded (kicks = true) kickSelf

def getOutOfTheWay (cfg : Config A) (env : Env) (libc : Libc A) (kickSelf : Checked A Unit) :
    Checked A Unit := do
  onUc libc.fedisableexceptAll
  onUc libc.feclearexceptAll
  modify fun f => { f with sigaction := Function.update f.sigaction .sigfpe f.oldsaFpe }
  let mc ← findMonitoringContext
  guarded (mc ≠ .null) (writeAbort cfg env mc)
  kickUnlessInTrap mc kickSelf
  modify fun f => { f with sigaction := Function.update f.sigaction .sigtrap f.oldsaTrap }
  modify fun f => { f with aborted := true }

def abortOperation (cfg : Config A) (env : Env) (libc : Libc A) (kickSelf : Checked A Unit) :
    Checked A Unit := do
  guarded ((← get).inited = false) (bringup cfg env libc kickSelf)
  guarded ((← get).aborted = false) (getOutOfTheWay cfg env libc kickSelf)

/-- `abort_operation` called by a handler that has SIGTRAP blocked. -/
def abortInHandler (cfg : Config A) (env : Env) : Checked A Unit :=
  abortOperation cfg env .inHandler (modify Flow.kickBlocked)

/-! ## The handlers -/

def updateSampler (cfg : Config A) (env : Env) (mc : ContextPtr) : Checked A Unit := do
  if (← deref mc).sampler.state = .on then
    onUc (A.clearFpExceptions cfg.statics)
    onUc (A.maskFpTraps cfg.statics)
    onTrapMode A.resetTrapMode mc
  else
    onUc (A.clearFpExceptions cfg.statics)
    onUc (A.unmaskFpTraps cfg.statics)
    onTrapMode A.resetTrapMode mc
  let n := nextInterval cfg (← deref mc).sampler.state env.draw
  assign mc fun c => { c with sampler := { c.sampler with
    xi := pumpRand c.sampler.xi, it := oneShot n, state := c.sampler.state.flip } }
  if (← deref mc).sampler.delayedProcessing then
    assign mc fun c => { c with sampler := { c.sampler with delayedProcessing := false } }
  let it := (← deref mc).sampler.it
  modify fun f => { f with itimer := it }

/-- The four steps with which a handler steps back from a thread that has a context. -/
def standDown (cfg : Config A) (mc : ContextPtr) : Checked A Unit := do
  onUc (A.clearFpExceptions cfg.statics)
  onUc (A.maskFpTraps cfg.statics)
  onUc (forceRound cfg (← get).origRoundConfig)
  onTrapMode A.resetTrapMode mc

/-- The same with `arch_reset_trap_mode(uc, 0)`. -/
def standDownNull (cfg : Config A) : Checked A Unit := do
  onUc (A.clearFpExceptions cfg.statics)
  onUc (A.maskFpTraps cfg.statics)
  onUc (forceRound cfg (← get).origRoundConfig)
  onUc A.resetTrapModeNull

def brkInit (cfg : Config A) (mc : ContextPtr) : Checked A Unit := do
  modify fun f => { f with origRoundConfig := A.getRoundConfig cfg.statics f.uc }
  onUc (A.clearFpExceptions cfg.statics)
  onUc (A.unmaskFpTraps cfg.statics)
  onUc (forceRound cfg cfg.ourRoundConfig)
  onTrapMode A.resetTrapMode mc
  assign mc fun c => { c with state := .awaitFpe }

def brkAwaitTrap (cfg : Config A) (env : Env) (mc : ContextPtr) : Checked A Unit := do
  assign mc fun c => { c with count := c.count + 1 }
  onUc (A.clearFpExceptions cfg.statics)
  if reachedMaxcount cfg (← deref mc).count then
    onUc (A.maskFpTraps cfg.statics)
    onUc (forceRound cfg (← get).origRoundConfig)
  else
    onUc (A.unmaskFpTraps cfg.statics)
    onUc (forceRound cfg cfg.ourRoundConfig)
  onTrapMode A.resetTrapMode mc
  assign mc fun c => { c with state := .awaitFpe }
  if (← deref mc).sampler.delayedProcessing then updateSampler cfg env mc

def brkTrapHandler (cfg : Config A) (env : Env) : Checked A Unit := do
  let mc ← findMonitoringContext
  if ← nullOr mc (·.state = .abort) then
    if mc = .null then
      standDownNull cfg
      abortInHandler cfg env
    else standDown cfg mc
  else if ← nonnullAnd mc (·.state = .init) then brkInit cfg mc
  else if (← deref mc).state = .awaitTrap then brkAwaitTrap cfg env mc
  else
    standDown cfg mc
    assign mc fun c => { c with abortingInTrap := true }
    abortInHandler cfg env

def recordEvent (cfg : Config A) (env : Env) (siCode : BitVec 32) (mc : ContextPtr) :
    Checked A Unit := do
  if (← deref mc).count % cfg.samplePeriod.signExtend 64 = 0 then
    let r := eventRecord cfg env siCode (← deref mc) (← get)
    guarded (cfg.createMonitorFile = true) (pushTraceRecord cfg mc r)

def beginStep (cfg : Config A) (mc : ContextPtr) : Checked A Unit := do
  onUc (A.clearFpExceptions cfg.statics)
  onUc (A.maskFpTraps cfg.statics)
  onUc (forceRound cfg cfg.ourRoundConfig)
  onTrapMode A.setTrapMode mc
  assign mc fun c => { c with state := .awaitTrap }

/-- `fp_trap_handler`. The message for a thread without a context prints `mc->state`. -/
def fpTrapHandler (cfg : Config A) (env : Env) (siCode : BitVec 32) : Checked A Unit := do
  if cfg.abortOnFpe then throw .abort
  else
    let mc ← findMonitoringContext
    if mc = .null then
      standDownNull cfg
      guarded (cfg.noOutput = false) (discard (deref mc))
      abortInHandler cfg env
    else if cfg.samplePeriod = 0 then throw .divideError
    else
      recordEvent cfg env siCode mc
      if (← deref mc).state = .awaitFpe then beginStep cfg mc
      else
        standDown cfg mc
        abortInHandler cfg env

def sigalrmHandler (cfg : Config A) (env : Env) : Checked A Unit := do
  let mc ← findMonitoringContext
  if mc ≠ .null then
    if (← deref mc).state ≠ .awaitFpe then
      assign mc fun c => { c with sampler := { c.sampler with delayedProcessing := true } }
    else updateSampler cfg env mc

def kickDelivered (cfg : Config A) (env : Env) : Checked A Unit := do
  if ((← get).sigaction .sigtrap).handler = .sigtrapHandler then brkTrapHandler cfg env

def interceptedCall (cfg : Config A) (env : Env) (libc : Libc A) : Checked A Unit :=
  abortOperation cfg env libc (kickDelivered cfg env)

/-- `kbe_estep_handler` with the pointer it has of its own, to see whether it steps over. -/
def kbeEstepHandler (cfg : Config A) (env : Env) : Checked A Bool := do
  let mc ← findMonitoringContext
  let skipEstep ← nonnullAnd mc (·.state = .init)
  brkTrapHandler cfg env
  return skipEstep

def teardownMonitoringContext (cfg : Config A) : Checked A Unit := do
  let mc ← findMonitoringContext
  if mc ≠ .null then
    if cfg.createMonitorFile then
      let p := Trace.flushTraceRecords cfg.traceBuflen (← deref mc).traceRecords
      assign mc fun c => { c with traceRecords := p.buffer }
      modify fun f => { f with written := f.written ++ p.written }
    modify fun f => { f with mc := none }

/-! ## What they do to a thread -/

section Run

variable {cfg : Config A} {env : Env} {f g : Flow A} {mc : MonitoringContext}

theorem run_findMonitoringContext (f : Flow A) :
    findMonitoringContext.run f = .ok (if f.mc.isSome then .own else .null, f) := rfl

theorem run_deref (hmc : f.mc = some mc) : (deref .own).run f = .ok (mc, f) := by
  obtain ⟨g, tid, uc, _⟩ := f
  obtain rfl : _ = some mc := hmc
  rfl

theorem run_assign (hmc : f.mc = some mc) (change : MonitoringContext → MonitoringContext) :
    (assign .own change).run f = .ok ((), { f with mc := some (change mc) }) := by
  obtain ⟨g, tid, uc, _⟩ := f
  obtain rfl : _ = some mc := hmc
  rfl

theorem run_standDown (hmc : f.mc = some mc) :
    (standDown cfg .own).run f = .ok ((), FPSpy.standDown cfg mc f) := by
  obtain ⟨g, tid, uc, _⟩ := f
  obtain rfl : _ = some mc := hmc
  rfl

theorem run_brkInit (hmc : f.mc = some mc) :
    (brkInit cfg .own).run f = .ok ((), FPSpy.brkInit cfg mc f) := by
  obtain ⟨g, tid, uc, _⟩ := f
  obtain rfl : _ = some mc := hmc
  rfl

theorem run_beginStep (hmc : f.mc = some mc) :
    (beginStep cfg .own).run f = .ok ((), FPSpy.beginStep cfg mc f) := by
  obtain ⟨g, tid, uc, _⟩ := f
  obtain rfl : _ = some mc := hmc
  rfl

/-- Whether the sampler is on, and whether an alarm was put off, decides the way. -/
theorem run_updateSampler (hmc : f.mc = some mc) :
    (updateSampler cfg env .own).run f = .ok ((), FPSpy.updateSampler cfg env mc f) := by
  obtain ⟨g, tid, uc, _⟩ := f
  obtain rfl : _ = some mc := hmc
  obtain ⟨_, _, _, _, _, _, _, ⟨state, delayed, _⟩, _⟩ := mc
  cases state <;> cases delayed <;> rfl

theorem run_brkAwaitTrap (hmc : f.mc = some mc) :
    (brkAwaitTrap cfg env .own).run f = .ok ((), FPSpy.brkAwaitTrap cfg env mc f) := by
  obtain ⟨g, tid, uc, _⟩ := f
  obtain rfl : _ = some mc := hmc
  obtain ⟨_, _, _, _, _, count, _, ⟨switch, delayed, _⟩, _⟩ := mc
  unfold brkAwaitTrap FPSpy.brkAwaitTrap FPSpy.brkRearm
  rw [run_bind_ok (run_assign rfl _), run_bind_ok (by rfl), run_bind_ok (run_deref rfl), run_ite]
  by_cases hreached : reachedMaxcount cfg (count + 1) = true
  · simp only [hreached, if_true]
    cases delayed <;> cases switch <;> rfl
  · simp only [hreached]
    cases delayed <;> cases switch <;> rfl

variable (cfg env) in
theorem run_recordEvent (siCode : BitVec 32) (hmc : f.mc = some mc) :
    (recordEvent cfg env siCode .own).run f =
      .ok ((), FPSpy.recordEvent cfg env siCode mc f) := by
  obtain ⟨g, tid, uc, _⟩ := f
  obtain rfl : _ = some mc := hmc
  unfold recordEvent FPSpy.recordEvent Config.records
  rw [run_bind_ok (run_deref rfl), run_ite]
  by_cases hcount : mc.count % cfg.samplePeriod.signExtend 64 = 0
  · rw [if_pos hcount, decide_eq_true hcount]
    cases cfg.createMonitorFile <;> rfl
  · rw [if_neg hcount, decide_eq_false hcount]
    rfl

theorem run_writeAbort (hmc : f.mc = some mc) :
    (writeAbort cfg env .own).run f = .ok ((), f.writeAbort cfg env mc) := by
  obtain ⟨g, tid, uc, _⟩ := f
  obtain rfl : _ = some mc := hmc
  unfold writeAbort Flow.writeAbort
  cases cfg.createMonitorFile <;> rfl

theorem total_bringup {libc : Libc A} {kickSelf : Checked A Unit} {kick : Flow A → Flow A}
    (h : Total kickSelf kick) :
    Total (bringup cfg env libc kickSelf) (FPSpy.bringup cfg env libc kick) := by
  intro f
  unfold bringup FPSpy.bringup
  rw [run_bind_ok (by rfl), run_bind_ok (by rfl)]
  dsimp only
  cases bringupMonitoringContext cfg env f.tid .zero with
  | none => rfl
  | some mc =>
    dsimp only
    rw [run_bind_ok (by rfl)]
    cases cfg.kickstart with
    | true => rfl
    | false => exact h.run_bind _ _

theorem run_kickUnlessInTrap {kickSelf : Checked A Unit} {kick : Flow A → Flow A}
    (h : Total kickSelf kick) (hmc : f.mc = some mc) :
    (kickUnlessInTrap .own kickSelf).run f =
      .ok ((), if mc.abortingInTrap then f else kick f) := by
  unfold kickUnlessInTrap nullOr
  rw [run_bind_ok (run_bind_ok (run_deref hmc) _)]
  obtain ⟨_, _, abortingInTrap, _⟩ := mc
  cases abortingInTrap with
  | true => rfl
  | false => exact h f

/-- The first abort, from whatever state the program is in. -/
theorem run_getOutOfTheWay {libc : Libc A} {kickSelf : Checked A Unit} {kick : Flow A → Flow A}
    (h : Total kickSelf kick) (hi : (if f.inited then f else FPSpy.bringup cfg env libc kick f) = g)
    (ha : g.aborted = false) :
    (getOutOfTheWay cfg env libc kickSelf).run g =
      .ok ((), FPSpy.abortOperation (Flow.abortOps cfg env libc kick) f) := by
  rw [abortOperation_of_not_aborted (Flow.abortOps cfg env libc kick) hi ha rfl]
  clear hi ha
  cases hmc : g.mc with
  | none =>
    obtain ⟨g, tid, uc, _⟩ := g
    obtain rfl : _ = none := hmc
    unfold getOutOfTheWay
    rw [run_bind_ok (by rfl), run_bind_ok (by rfl), run_bind_ok (by rfl),
      run_bind_ok (a := .null) (by rfl), run_bind_ok (by rfl)]
    exact h.run_bind _ _
  | some mc =>
    obtain ⟨buffer, pushed, written, hbegin, -⟩ := beginAbort_eq cfg env g libc mc
    have hwrite : (guarded (ContextPtr.own ≠ .null) (writeAbort cfg env .own)).run
        { g with
          uc := libc.feclearexceptAll (libc.fedisableexceptAll g.uc)
          sigaction := Function.update g.sigaction .sigfpe g.oldsaFpe } =
        .ok ((), g.beginAbort cfg env libc mc) := run_writeAbort hmc
    obtain ⟨g, tid, uc, _⟩ := g
    obtain rfl : _ = some mc := hmc
    unfold getOutOfTheWay
    rw [run_bind_ok (by rfl), run_bind_ok (by rfl), run_bind_ok (by rfl),
      run_bind_ok (a := .own) (by rfl), run_bind_ok hwrite, hbegin]
    rw [run_bind_ok (run_kickUnlessInTrap h rfl), ← hbegin]
    rfl

theorem total_abortOperation {libc : Libc A} {kickSelf : Checked A Unit} {kick : Flow A → Flow A}
    (h : Total kickSelf kick) : Total (abortOperation cfg env libc kickSelf)
      (FPSpy.abortOperation (Flow.abortOps cfg env libc kick)) := by
  intro f
  have hinit : (guarded (f.inited = false) (bringup cfg env libc kickSelf)).run f =
      .ok ((), if f.inited then f else FPSpy.bringup cfg env libc kick f) := by
    unfold guarded
    cases f.inited with
    | true => rfl
    | false => exact total_bringup h f
  unfold abortOperation
  rw [run_bind_ok (a := f) (by rfl), run_bind_ok hinit]
  generalize hi : (if f.inited then f else FPSpy.bringup cfg env libc kick f) = g
  rw [run_bind_ok (a := g) (by rfl), guarded]
  cases ha : g.aborted with
  | true =>
    rw [abortOperation_eq_of_aborted (Flow.abortOps cfg env libc kick) hi ha]
    rfl
  | false => exact run_getOutOfTheWay h hi ha

variable (cfg env) in
theorem total_abortInHandler : Total (abortInHandler cfg env) (Flow.abortInHandler cfg env) :=
  total_abortOperation (total_modify _)

def outcome (cfg : Config A) (env : Env) (r : Flow A × HandlerExit) :
    Except Death (Unit × Flow A) :=
  match r.2 with
  | .ret => .ok ((), r.1)
  | .abortOperation _ => .ok ((), r.1.abortInHandler cfg env)
  | .abort => .error .abort
  | .nullDeref => .error .nullDeref
  | .divideError => .error .divideError

variable (cfg env) in
/-- A breakpoint trap goes through the pointer only where there is a context. -/
theorem run_brkTrapHandler (f : Flow A) :
    (brkTrapHandler cfg env).run f = outcome cfg env (FPSpy.brkTrapHandler cfg env f) := by
  unfold brkTrapHandler FPSpy.brkTrapHandler
  cases hmc : f.mc with
  | none =>
    obtain ⟨g, tid, uc, _⟩ := f
    obtain rfl : _ = none := hmc
    rw [run_bind_ok (run_findMonitoringContext _)]
    exact (total_abortInHandler cfg env _)
  | some mc =>
    have hdown : (standDown cfg .own).run f = .ok ((), FPSpy.standDown cfg mc f) :=
      run_standDown hmc
    have hinit : (brkInit cfg .own).run f = .ok ((), FPSpy.brkInit cfg mc f) := run_brkInit hmc
    have hawait : (brkAwaitTrap cfg env .own).run f = .ok ((), FPSpy.brkAwaitTrap cfg env mc f) :=
      run_brkAwaitTrap hmc
    obtain ⟨g, tid, uc, _⟩ := f
    obtain rfl : _ = some mc := hmc
    obtain ⟨_, state, _⟩ := mc
    cases state with
    | init => exact hinit
    | abort => exact hdown
    | awaitTrap => exact hawait
    | awaitFpe => exact total_abortInHandler cfg env _

variable (cfg env) in
/-- So does an FP trap, but for its message where there is none. -/
theorem run_fpTrapHandler (siCode : BitVec 32) (f : Flow A) :
    (fpTrapHandler cfg env siCode).run f =
      outcome cfg env (FPSpy.fpTrapHandler cfg env siCode f) := by
  unfold fpTrapHandler FPSpy.fpTrapHandler
  cases cfg.abortOnFpe with
  | true => rfl
  | false =>
    cases hmc : f.mc with
    | none =>
      obtain ⟨g, tid, uc, _⟩ := f
      obtain rfl : _ = none := hmc
      cases cfg.noOutput with
      | true => exact total_abortInHandler cfg env _
      | false => rfl
    | some mc =>
      by_cases hperiod : cfg.samplePeriod = 0
      · obtain ⟨g, tid, uc, _⟩ := f
        obtain rfl : _ = some mc := hmc
        simp only [hperiod]
        rfl
      obtain ⟨buffer, written, hrec⟩ := recordEvent_eq cfg env siCode hmc
      have hrun := run_recordEvent cfg env siCode hmc
      rw [hrec] at hrun
      rw [run_ite, if_neg Bool.false_ne_true, if_neg Bool.false_ne_true,
        run_bind_ok (a := ContextPtr.own) (t := f) (by simp [run_findMonitoringContext, hmc]),
        run_ite, if_neg (by decide), run_ite, if_neg hperiod, run_bind_ok hrun]
      dsimp only
      rw [if_neg hperiod, hrec, run_bind_ok (run_deref rfl)]
      obtain ⟨_, state, _⟩ := mc
      cases state with
      | awaitFpe => exact run_beginStep rfl
      | init | awaitTrap | abort =>
        rw [run_ite, if_neg (by simp), run_bind_ok (run_standDown rfl)]
        exact total_abortInHandler cfg env _

/-- An alarm does nothing in a thread without a context. -/
theorem run_sigalrmHandler (f : Flow A) :
    (sigalrmHandler cfg env).run f = .ok ((), FPSpy.sigalrmHandler cfg env f) := by
  unfold sigalrmHandler FPSpy.sigalrmHandler
  cases hmc : f.mc with
  | none =>
    obtain ⟨g, tid, uc, _⟩ := f
    obtain rfl : _ = none := hmc
    rfl
  | some mc =>
    have hupdate : (updateSampler cfg env .own).run f =
        .ok ((), FPSpy.updateSampler cfg env mc f) := run_updateSampler hmc
    obtain ⟨g, tid, uc, _⟩ := f
    obtain rfl : _ = some mc := hmc
    obtain ⟨_, state, _⟩ := mc
    cases state with
    | awaitFpe => exact hupdate
    | init | awaitTrap | abort => rfl

variable (cfg env) in
/-- A thread survives every breakpoint trap. -/
theorem outcome_brkTrapHandler (f : Flow A) :
    outcome cfg env (FPSpy.brkTrapHandler cfg env f) =
      .ok ((), Flow.settle cfg env (FPSpy.brkTrapHandler cfg env f)) := by
  unfold FPSpy.brkTrapHandler
  cases f.mc with
  | none => rfl
  | some mc =>
    dsimp only
    cases mc.state <;> rfl

theorem total_kickDelivered : Total (kickDelivered cfg env) (Flow.kickDelivered cfg env) := by
  intro f
  have hbrk := run_brkTrapHandler cfg env f
  unfold kickDelivered Flow.kickDelivered
  rw [run_bind_ok (a := f) (by rfl), run_ite]
  split_ifs with hours
  · rw [hbrk]
    exact outcome_brkTrapHandler cfg env f
  · rfl

theorem total_interceptedCall (libc : Libc A) :
    Total (interceptedCall cfg env libc) (Flow.interceptedCall cfg env libc) :=
  total_abortOperation total_kickDelivered

variable (cfg env) in
theorem run_kbeEstepHandler (f : Flow A) : ∃ skipEstep,
    (kbeEstepHandler cfg env).run f =
      .ok (skipEstep, Flow.settle cfg env (FPSpy.brkTrapHandler cfg env f)) := by
  have hbrk := (run_brkTrapHandler cfg env f).trans (outcome_brkTrapHandler cfg env f)
  have hskip : ∃ skipEstep, (do
      let mc ← findMonitoringContext
      nonnullAnd mc (·.state = .init) : Checked A Bool).run f = .ok (skipEstep, f) := by
    obtain ⟨g, tid, uc, mc, _⟩ := f
    cases mc <;> exact ⟨_, rfl⟩
  obtain ⟨skipEstep, hskip⟩ := hskip
  refine ⟨skipEstep, ?_⟩
  unfold kbeEstepHandler
  rw [← bind_assoc, run_bind_ok hskip, run_bind_ok hbrk]
  rfl

variable (cfg) in
theorem run_teardownMonitoringContext (f : Flow A) : ∃ written,
    (teardownMonitoringContext cfg).run f =
      .ok ((), { f with mc := none, written := written }) := by
  unfold teardownMonitoringContext
  obtain ⟨g, tid, uc, mc, _⟩ := f
  cases mc with
  | none => exact ⟨_, rfl⟩
  | some mc =>
    cases cfg.createMonitorFile with
    | true => exact ⟨_, rfl⟩
    | false => exact ⟨_, rfl⟩

end Run

end Checked

/-! ## Whatever is delivered to a thread -/

inductive Occasion (A : Arch) where
  | fpTrap (env : Env) (siCode : BitVec 32)
  | brkTrap (env : Env)
  /-- A breakpoint trap that the hardware delivers itself. -/
  | estep (env : Env)
  | alarm (env : Env)
  /-- An intercepted call that aborts. -/
  | call (env : Env) (libc : Libc A)
  | threadExit

namespace Occasion

def code (cfg : Config A) : Occasion A → Checked A Unit
  | fpTrap env siCode => Checked.fpTrapHandler cfg env siCode
  | brkTrap env => Checked.brkTrapHandler cfg env
  | estep env => do let _ ← Checked.kbeEstepHandler cfg env
  | alarm env => Checked.sigalrmHandler cfg env
  | call env libc => Checked.interceptedCall cfg env libc
  | threadExit => Checked.teardownMonitoringContext cfg

def IsFpTrap : Occasion A → Prop
  | fpTrap _ _ => True
  | _ => False

end Occasion

/-- Nothing is read or written through a null pointer, and an FP trap in a thread without a
context is survived, with the traps masked, trap mode off and FPSpy aborted, or else ends in
`abort()`. -/
structure NullSafe (cfg : Config A) (o : Occasion A) (f : Flow A) : Prop where
  noNullDeref : (o.code cfg).run f ≠ .error .nullDeref
  stepsAside : o.IsFpTrap → f.mc = none → (o.code cfg).run f = .error .abort ∨
    ∃ g, (o.code cfg).run f = .ok ((), g) ∧ g.Disarmed cfg ∧ g.aborted = true

variable {cfg : Config A} {env : Env} {f : Flow A} {o : Occasion A}

/-- Only an FP trap can go wrong. -/
theorem nullSafe_of_not_fpTrap (h : ¬ o.IsFpTrap) : NullSafe cfg o f := by
  refine ⟨?_, fun hfp => absurd hfp h⟩
  cases o with
  | fpTrap env siCode => exact absurd trivial h
  | brkTrap env =>
    simp [Occasion.code, Checked.run_brkTrapHandler, Checked.outcome_brkTrapHandler]
  | estep env =>
    obtain ⟨skipEstep, hrun⟩ := Checked.run_kbeEstepHandler cfg env f
    rw [Occasion.code, Fatal.run_bind_ok hrun]
    intro h
    cases h
  | alarm env => simp [Occasion.code, Checked.run_sigalrmHandler]
  | call env libc => simp [Occasion.code, Checked.total_interceptedCall libc f]
  | threadExit =>
    obtain ⟨written, hrun⟩ := Checked.run_teardownMonitoringContext cfg f
    simp [Occasion.code, hrun]

/-- The message reads the state of a context that is not there. -/
theorem run_fpTrap_of_none (siCode : BitVec 32) (hmc : f.mc = none) (hout : cfg.noOutput = false)
    (habort : cfg.abortOnFpe = false) :
    ((Occasion.fpTrap env siCode).code cfg).run f = .error .nullDeref := by
  simp [Occasion.code, Checked.run_fpTrapHandler, fpTrapHandler, hmc, hout, habort,
    Checked.outcome]

/-- In a thread that has a context no FP trap reads through a null pointer. -/
theorem nullSafe_of_some {mc : MonitoringContext} (hmc : f.mc = some mc) : NullSafe cfg o f := by
  by_cases hfp : o.IsFpTrap
  · refine ⟨?_, fun _ hnone => by simp [hmc] at hnone⟩
    cases o with
    | fpTrap env siCode =>
      rw [Occasion.code, Checked.run_fpTrapHandler]
      have hpath := fpTrapHandler_path cfg env siCode f
      generalize fpTrapHandler cfg env siCode f = r at hpath
      cases hpath with
      | dies hexit => obtain rfl | rfl := hexit <;> simp [Checked.outcome]
      | bare hnone => simp [hmc] at hnone
      | beginStep | surprise => simp [Checked.outcome]
    | brkTrap | estep | alarm | call | threadExit => exact hfp.elim
  · exact nullSafe_of_not_fpTrap hfp

/-- With output, no access is to a missing context, and a trap without one is survived, except
where an FP trap arrives in a thread that has no context. Under FPSPY_ABORT that is not looked
for. -/
theorem nullSafe_iff (hout : cfg.noOutput = false) (table : List MonitoringContext) (f : Flow A)
    (o : Occasion A) :
    NullSafe cfg o { f with mc := Table.findMonitoringContext f.tid table } ↔
      (o.IsFpTrap → Table.findMonitoringContext f.tid table ≠ none ∨ cfg.abortOnFpe = true) := by
  constructor
  · intro h hfp
    by_contra hneither
    obtain ⟨hnone, habort⟩ := not_or.mp hneither
    cases o with
    | fpTrap env siCode =>
      have hmc : Table.findMonitoringContext f.tid table = none := not_not.mp hnone
      exact h.noNullDeref (run_fpTrap_of_none siCode hmc hout (by simpa using habort))
    | brkTrap | estep | alarm | call | threadExit => exact hfp
  · intro h
    by_cases hfp : o.IsFpTrap
    · obtain hsome | habort := h hfp
      · obtain ⟨mc, hmc⟩ := Option.ne_none_iff_exists'.mp hsome
        exact nullSafe_of_some hmc
      · cases o with
        | fpTrap env siCode =>
          have hrun : ∀ g, ((Occasion.fpTrap env siCode).code cfg).run g = .error .abort := by
            intro g
            simp [Occasion.code, Checked.run_fpTrapHandler, fpTrapHandler, habort,
              Checked.outcome]
          exact ⟨by simp [hrun], fun _ _ => .inl (hrun _)⟩
        | brkTrap | estep | alarm | call | threadExit => exact hfp.elim
    · exact nullSafe_of_not_fpTrap hfp

namespace X64

/-- A breakpoint trap in a thread whose bringup has found the table full. -/
theorem nullSafe_brkTrap :
    NullSafe plain (.brkTrap quietEnv)
      { freshFlow with
        mc := Table.findMonitoringContext freshFlow.tid
          [{ MonitoringContext.zero with tid := 7 }] } :=
  (nullSafe_iff rfl _ freshFlow (.brkTrap quietEnv)).2 fun h => h.elim

/-- An FP trap there. -/
theorem not_nullSafe_fpTrap : ¬ NullSafe plain (.fpTrap quietEnv 0)
    { freshFlow with
      mc := Table.findMonitoringContext freshFlow.tid
        [{ MonitoringContext.zero with tid := 7 }] } :=
  fun h => h.noNullDeref (run_fpTrap_of_none 0 (by decide) rfl rfl)

end X64
end FPSpy
