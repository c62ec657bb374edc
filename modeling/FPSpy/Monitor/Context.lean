import FPSpy.Machine.Arch

/-!
# Configuration and state of the core

The configuration variables of `fpspy.c`, which do not change after start-up; the
per-thread `monitoring_context_t`; and a `Flow`: what one thread's flow of control
reads and writes, that is the process-wide variables and the thread's own state.
`mc` is the result of `find_monitoring_context(gettid())`.
-/
namespace FPSpy

inductive Signal where
  | sigfpe | sigtrap | sigint | sigalrm | sigvtalrm | sigprof
  | other (n : Nat)
  deriving DecidableEq, Repr

/-- What a disposition calls: one of FPSpy's handlers or something of the target's. -/
inductive SigHandler where
  | dfl | ign
  | sigfpeHandler | sigtrapHandler | sigintHandler | sigalrmHandler
  | target (n : Nat)
  deriving DecidableEq, Repr

/-- `struct sigaction`; the flags are those of `sa_flags`. -/
structure SigAction where
  handler : SigHandler
  mask : List Signal
  flags : BitVec 32
  deriving DecidableEq, Repr

def SigAction.zero : SigAction := ⟨.dfl, [], 0⟩

def saSiginfo : BitVec 32 := 4

def saRestart : BitVec 32 := 0x10000000

/-- What glibc's `signal` asks for. -/
def SigAction.ofSignal (sig : Signal) (func : SigHandler) : SigAction := ⟨func, [sig], saRestart⟩

@[simp] theorem SigAction.handler_ofSignal (sig : Signal) (func : SigHandler) :
    (ofSignal sig func).handler = func := rfl

inductive Mode where
  | aggregate | individual
  deriving DecidableEq, Repr

inductive TimerType where
  | real | virtual | prof
  deriving DecidableEq, Repr

inductive MonitorState where
  | init | awaitFpe | awaitTrap | abort
  deriving DecidableEq, Repr

inductive SamplerSwitch where
  | off | on
  deriving DecidableEq, Repr

structure Itimerval where
  intervalSec : BitVec 64
  intervalUsec : BitVec 64
  valueSec : BitVec 64
  valueUsec : BitVec 64
  deriving DecidableEq, Repr

structure SamplerState where
  state : SamplerSwitch
  delayedProcessing : Bool
  xi : BitVec 64
  onMeanUs : BitVec 64
  offMeanUs : BitVec 64
  it : Itimerval
  deriving DecidableEq

/-- `monitoring_context_t`; the live records are the list `traceRecords`. -/
structure MonitoringContext where
  startTime : BitVec 64
  state : MonitorState
  abortingInTrap : Bool
  tid : Nat
  fd : Int
  count : BitVec 64
  trapModeState : BitVec 64
  sampler : SamplerState
  traceRecords : List TraceRecord
  deriving DecidableEq

/-- Configuration, fixed at start-up. `noOutput` and those after it are compile-time settings. -/
structure Config (A : Arch) where
  statics : A.Statics
  maxcount : BitVec 32
  samplePeriod : BitVec 32
  timers : Bool
  timerType : TimerType
  onMeanUs : BitVec 64
  offMeanUs : BitVec 64
  randomSeed : BitVec 64
  controlRoundConfig : Bool
  ourRoundConfig : BitVec 32
  aggressive : Bool
  kickstart : Bool
  abortOnFpe : Bool
  createMonitorFile : Bool
  noOutput : Bool
  traceBuflen : Nat
  maxUsOn : BitVec 64
  maxUsOff : BitVec 64
  /-- `config_round_daz_ftz` only stores rounding configurations. -/
  isRoundConfig_our : A.IsRoundConfig ourRoundConfig

/-- The initial values of the variables and the defaults of the build options. -/
def Config.defaults {A : Arch} (statics : A.Statics) : Config A where
  statics := statics
  maxcount := -1#32
  samplePeriod := 1
  timers := false
  timerType := .real
  onMeanUs := 0
  offMeanUs := 0
  randomSeed := -1#64
  controlRoundConfig := false
  ourRoundConfig := 0
  aggressive := false
  kickstart := false
  abortOnFpe := false
  createMonitorFile := true
  noOutput := false
  traceBuflen := 1024
  maxUsOn := 10000
  maxUsOff := 1000000
  isRoundConfig_our := A.isRoundConfig_zero

/-- Process-wide variables, signal dispositions, the interval timer and code memory. -/
structure Globals where
  inited : Bool
  aborted : Bool
  origRoundConfig : BitVec 32
  sigaction : Signal → SigAction
  oldsaFpe : SigAction
  oldsaTrap : SigAction
  oldsaInt : SigAction
  oldsaAlrm : SigAction
  itimer : Itimerval
  code : Mem

def Globals.start (code : Mem) : Globals where
  inited := false
  aborted := false
  origRoundConfig := 0
  sigaction _ := .zero
  oldsaFpe := .zero
  oldsaTrap := .zero
  oldsaInt := .zero
  oldsaAlrm := .zero
  itimer := ⟨0, 0, 0, 0⟩
  code := code

/-- One thread: the context it will resume with, its monitoring context, a pending
SIGTRAP, and the records handed to `push_trace_record` and to `write`. -/
structure Thread (A : Arch) where
  tid : Nat
  uc : A.UContext
  mc : Option MonitoringContext
  trapPending : Bool
  pushed : List TraceRecord
  written : List TraceRecord

def Thread.start {A : Arch} (tid : Nat) (uc : A.UContext) : Thread A where
  tid := tid
  uc := uc
  mc := none
  trapPending := false
  pushed := []
  written := []

structure Flow (A : Arch) extends Globals, Thread A

structure Env where
  /-- `arch_cycle_count()`, for an event record or for the start time of a context. -/
  cycles : BitVec 64
  /-- The same, for `init_random`. -/
  seedCycles : BitVec 64
  /-- The same, for an abort record. -/
  abortCycles : BitVec 64
  /-- What `next_exp` draws. -/
  draw : BitVec 64
  /-- The descriptor `open` returns for a trace file, if it succeeds. -/
  openFd : Option Nat

namespace Flow

variable {A : Arch}

def trapsUnmasked (cfg : Config A) (f : Flow A) : Bool := A.trapsUnmasked cfg.statics f.uc

def singleStepping (f : Flow A) : Bool :=
  A.singleStepping f.uc (f.mc.map (·.trapModeState))

def push (cfg : Config A) (mc : MonitoringContext) (r : TraceRecord) (f : Flow A) : Flow A :=
  let p := Trace.pushTraceRecord cfg.traceBuflen mc.traceRecords r
  { f with
    mc := some { mc with traceRecords := p.buffer }
    pushed := f.pushed ++ [r]
    written := f.written ++ p.written }

end Flow
end FPSpy
