import FPSpy.Lib.Bits
import FPSpy.Monitor.Sampler

/-!
# The trap handlers

`fp_trap_handler` and `brk_trap_handler`. Every call of `abort_operation` in them is
the last thing the handler does, so a handler returns the flow together with how it
ended; the abort itself is the caller's business (`FPSpy.Monitor.Abort`).

`arch_thread_init` returns zero on every backend: its failure branch is dead.
-/
namespace FPSpy

variable {A : Arch}

inductive HandlerExit where
  /-- It returns. -/
  | ret
  /-- It calls `abort_operation(reason)` and returns. -/
  | abortOperation (reason : String)
  /-- It calls `abort()`. -/
  | abort
  /-- It reads through a null pointer. -/
  | nullDeref
  /-- It divides by zero. -/
  | divideError
  deriving DecidableEq, Repr

/-- `if (control_round_config) arch_set_round_config(uc, config)` -/
def forceRound (cfg : Config A) (config : BitVec 32) (uc : A.UContext) : A.UContext :=
  if cfg.controlRoundConfig then A.setRoundConfig cfg.statics uc config else uc

/-- The sequence with which a handler steps back: flags cleared, traps masked, the
original rounding restored, trap mode off. -/
def standDown (cfg : Config A) (mc : MonitoringContext) (f : Flow A) : Flow A :=
  let uc := A.maskFpTraps cfg.statics (A.clearFpExceptions cfg.statics f.uc)
  let t := A.resetTrapMode (forceRound cfg f.origRoundConfig uc) f.code mc.trapModeState
  { f with uc := t.uc, code := t.code, mc := some { mc with trapModeState := t.state } }

def standDownNull (cfg : Config A) (f : Flow A) : Flow A :=
  let uc := A.maskFpTraps cfg.statics (A.clearFpExceptions cfg.statics f.uc)
  { f with uc := A.resetTrapModeNull (forceRound cfg f.origRoundConfig uc) }

/-- `maxcount != -1 && mc->count >= maxcount`, in 64-bit unsigned arithmetic. -/
def reachedMaxcount (cfg : Config A) (count : BitVec 64) : Bool :=
  cfg.maxcount != -1#32 && cfg.maxcount.signExtend 64 ≤ count

theorem reachedMaxcount_iff {cfg : Config A} (h : 1 ≤ cfg.maxcount.toInt) (count : BitVec 64) :
    reachedMaxcount cfg count = true ↔ cfg.maxcount.toNat ≤ count.toNat := by
  have hne : cfg.maxcount ≠ -1#32 := by
    rintro heq
    rw [heq] at h
    exact absurd h (by decide)
  have hext := Bits.toNat_signExtend_of_nonneg (show 0 ≤ cfg.maxcount.toInt by omega)
    (show 32 ≤ 64 by decide)
  simp only [reachedMaxcount, Bool.and_eq_true, bne_iff_ne, ne_eq, hne, not_false_eq_true,
    decide_eq_true_eq, true_and, BitVec.le_def, hext]

def brkInit (cfg : Config A) (mc : MonitoringContext) (f : Flow A) : Flow A :=
  let orig := A.getRoundConfig cfg.statics f.uc
  let uc := A.unmaskFpTraps cfg.statics (A.clearFpExceptions cfg.statics f.uc)
  let t := A.resetTrapMode (forceRound cfg cfg.ourRoundConfig uc) f.code mc.trapModeState
  { f with
    origRoundConfig := orig
    uc := t.uc
    code := t.code
    mc := some { mc with trapModeState := t.state, state := .awaitFpe } }

/-- The context at the end of a step: open again, unless the limit is reached. -/
def brkRearm (cfg : Config A) (mc : MonitoringContext) (f : Flow A) : TrapMode A.UContext :=
  let uc := A.clearFpExceptions cfg.statics f.uc
  let uc := if reachedMaxcount cfg (mc.count + 1) then
      forceRound cfg f.origRoundConfig (A.maskFpTraps cfg.statics uc)
    else forceRound cfg cfg.ourRoundConfig (A.unmaskFpTraps cfg.statics uc)
  A.resetTrapMode uc f.code mc.trapModeState

def brkAwaitTrap (cfg : Config A) (env : Env) (mc : MonitoringContext) (f : Flow A) : Flow A :=
  let t := brkRearm cfg mc f
  let mc := { mc with count := mc.count + 1, trapModeState := t.state, state := .awaitFpe }
  let f := { f with uc := t.uc, code := t.code, mc := some mc }
  if mc.sampler.delayedProcessing then updateSampler cfg env mc f else f

def brkTrapHandler (cfg : Config A) (env : Env) (f : Flow A) : Flow A × HandlerExit :=
  match f.mc with
  | none =>
    (standDownNull cfg f,
      .abortOperation "Cannot find monitoring context during brk_trap_handler exec")
  | some mc =>
    match mc.state with
    | .abort => (standDown cfg mc f, .ret)
    | .init => (brkInit cfg mc f, .ret)
    | .awaitTrap => (brkAwaitTrap cfg env mc f, .ret)
    | .awaitFpe =>
      (standDown cfg { mc with abortingInTrap := true } f,
        .abortOperation "Surprise state during sigtrap_handler exec")

/-- A breakpoint trap in AWAIT_FPE makes FPSpy stand down. -/
theorem brkTrapHandler_awaitFpe {cfg : Config A} (env : Env) {mc : MonitoringContext} {f : Flow A}
    (hmc : f.mc = some mc) (hstate : mc.state = .awaitFpe) :
    brkTrapHandler cfg env f = (standDown cfg { mc with abortingInTrap := true } f,
      .abortOperation "Surprise state during sigtrap_handler exec") := by
  simp [brkTrapHandler, hmc, hstate]

def eventRecord (cfg : Config A) (env : Env) (siCode : BitVec 32) (mc : MonitoringContext)
    (f : Flow A) : TraceRecord where
  time := env.cycles - mc.startTime
  rip := A.getIp f.uc
  rsp := A.getSp f.uc
  code := siCode
  mxcsr := (A.getFpCsr cfg.statics f.uc).setWidth 32
  instruction := A.getInstrBytes f.uc f.code
  pad := 0

/-- `!(mc->count % sample_period)`, and there is a file to write to. -/
def Config.records (cfg : Config A) (count : BitVec 64) : Bool :=
  decide (count % cfg.samplePeriod.signExtend 64 = 0) && cfg.createMonitorFile

def recordEvent (cfg : Config A) (env : Env) (siCode : BitVec 32) (mc : MonitoringContext)
    (f : Flow A) : Flow A :=
  if cfg.records mc.count then
    f.push cfg mc (eventRecord cfg env siCode mc f)
  else f

/-- Recording touches the buffer and the records, and nothing else. -/
theorem recordEvent_eq (cfg : Config A) (env : Env) (siCode : BitVec 32) {mc : MonitoringContext}
    {f : Flow A} (h : f.mc = some mc) :
    ∃ buffer written, recordEvent cfg env siCode mc f =
      { f with
        mc := some { mc with traceRecords := buffer }
        pushed := f.pushed ++ if cfg.records mc.count then [eventRecord cfg env siCode mc f] else []
        written := written } := by
  unfold recordEvent
  split_ifs with hc
  · exact ⟨_, _, rfl⟩
  · refine ⟨mc.traceRecords, f.written, ?_⟩
    rw [List.append_nil, ← h]

theorem count_mod_samplePeriod (cfg : Config A) (h : 0 ≤ cfg.samplePeriod.toInt)
    (count : BitVec 64) :
    count % cfg.samplePeriod.signExtend 64 = 0 ↔ cfg.samplePeriod.toNat ∣ count.toNat := by
  rw [← BitVec.toNat_inj, BitVec.toNat_umod, Bits.toNat_signExtend_of_nonneg h (by decide)]
  exact (Nat.dvd_iff_mod_eq_zero).symm

def beginStep (cfg : Config A) (mc : MonitoringContext) (f : Flow A) : Flow A :=
  let uc := A.maskFpTraps cfg.statics (A.clearFpExceptions cfg.statics f.uc)
  let t := A.setTrapMode (forceRound cfg cfg.ourRoundConfig uc) f.code mc.trapModeState
  { f with
    uc := t.uc
    code := t.code
    mc := some { mc with trapModeState := t.state, state := .awaitTrap } }

/-- `fp_trap_handler`. Without a context the error message reads `mc->state`, unless all
output is compiled out. -/
def fpTrapHandler (cfg : Config A) (env : Env) (siCode : BitVec 32) (f : Flow A) :
    Flow A × HandlerExit :=
  if cfg.abortOnFpe then (f, .abort)
  else match f.mc with
    | none =>
      (standDownNull cfg f,
        if cfg.noOutput then
          .abortOperation "Cannot find monitoring context during fp_trap_handler exec"
        else .nullDeref)
    | some mc =>
      if cfg.samplePeriod = 0 then (f, .divideError)
      else
        let f := recordEvent cfg env siCode mc f
        -- the record is pushed before the state is looked at
        let mc := f.mc.getD mc
        match mc.state with
        | .awaitFpe => (beginStep cfg mc f, .ret)
        | _ => (standDown cfg mc f, .abortOperation "Surprise state during fp_trap_handler exec")

/-- The thread once an event has been recorded, if it was sampled; `written` is what reached
the file. -/
def Flow.sampled (cfg : Config A) (env : Env) (siCode : BitVec 32) (mc : MonitoringContext)
    (written : List TraceRecord) (f : Flow A) : Flow A :=
  { f with
    pushed := f.pushed ++ if cfg.records mc.count then [eventRecord cfg env siCode mc f] else []
    written := written }

/-- An FP trap is recorded if it is sampled. In AWAIT_FPE the step over the instruction begins,
in any other state FPSpy stands down. -/
theorem fpTrapHandler_eq (cfg : Config A) (env : Env) (siCode : BitVec 32)
    {mc : MonitoringContext} {f : Flow A} (hmc : f.mc = some mc)
    (habort : cfg.abortOnFpe = false) (hperiod : cfg.samplePeriod ≠ 0#32) :
    ∃ buffer written, fpTrapHandler cfg env siCode f =
      if mc.state = .awaitFpe then
        (beginStep cfg { mc with traceRecords := buffer } (f.sampled cfg env siCode mc written),
          .ret)
      else
        (standDown cfg { mc with traceRecords := buffer } (f.sampled cfg env siCode mc written),
          .abortOperation "Surprise state during fp_trap_handler exec") := by
  obtain ⟨buffer, written, hrec⟩ := recordEvent_eq cfg env siCode hmc
  refine ⟨buffer, written, ?_⟩
  cases hs : mc.state <;>
    simp [fpTrapHandler, habort, hmc, hperiod, hrec, hs, beginStep, standDown, Flow.sampled]

inductive FpTrapPath (cfg : Config A) (env : Env) (siCode : BitVec 32) (f : Flow A) :
    Flow A × HandlerExit → Prop where
  /-- The process dies, before anything is done. -/
  | dies {exit} (hexit : exit = .abort ∨ exit = .divideError) :
      FpTrapPath cfg env siCode f (f, exit)
  | bare {exit} (hmc : f.mc = none) : FpTrapPath cfg env siCode f (standDownNull cfg f, exit)
  | beginStep {mc} (buffer written) (hmc : f.mc = some mc) (hstate : mc.state = .awaitFpe) :
      FpTrapPath cfg env siCode f
        (FPSpy.beginStep cfg { mc with traceRecords := buffer }
          (f.sampled cfg env siCode mc written), .ret)
  | surprise {mc reason} (buffer written) (hmc : f.mc = some mc) (hstate : mc.state ≠ .awaitFpe) :
      FpTrapPath cfg env siCode f
        (standDown cfg { mc with traceRecords := buffer } (f.sampled cfg env siCode mc written),
          .abortOperation reason)

/-- These are all the ways. -/
theorem fpTrapHandler_path (cfg : Config A) (env : Env) (siCode : BitVec 32) (f : Flow A) :
    FpTrapPath cfg env siCode f (fpTrapHandler cfg env siCode f) := by
  by_cases habort : cfg.abortOnFpe = true
  · simp only [fpTrapHandler, habort, if_true]
    exact .dies (.inl rfl)
  cases hmc : f.mc with
  | none =>
    simp only [fpTrapHandler, habort, hmc]
    exact .bare hmc
  | some mc =>
    by_cases hperiod : cfg.samplePeriod = 0#32
    · simp only [fpTrapHandler, habort, hmc, hperiod]
      exact .dies (.inr rfl)
    obtain ⟨buffer, written, heq⟩ :=
      fpTrapHandler_eq cfg env siCode hmc (by simpa using habort) hperiod
    rw [heq]
    split_ifs with hstate
    · exact .beginStep buffer written hmc hstate
    · exact .surprise buffer written hmc hstate

end FPSpy
