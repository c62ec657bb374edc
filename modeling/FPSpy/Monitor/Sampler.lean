import FPSpy.Monitor.Context

/-!
# The Poisson sampler

The sampler switches a context between ON and OFF. Its random walk is the linear
congruential generator of `pump_rand`; the exponential draw made from it is floating
point and comes from the environment.
-/
namespace FPSpy

variable {A : Arch}

def pumpRand (xi : BitVec 64) : BitVec 64 := 0x5deece66d#64 * xi + 0xb#64

def SamplerSwitch.flip : SamplerSwitch → SamplerSwitch
  | .on => .off
  | .off => .on

def oneShot (n : BitVec 64) : Itimerval := ⟨0, 0, n / 1000000, n % 1000000⟩

def initRandom (cfg : Config A) (env : Env) : BitVec 64 :=
  if cfg.randomSeed ≠ -1#64 then cfg.randomSeed else env.seedCycles

/-- `init_sampler`; `delayed_processing` is not touched. -/
def initSampler (cfg : Config A) (env : Env) (s : SamplerState) : SamplerState :=
  let s := { s with
    xi := initRandom cfg env
    onMeanUs := cfg.onMeanUs
    offMeanUs := cfg.offMeanUs
    state := .on }
  if cfg.timers then { s with xi := pumpRand s.xi, it := oneShot env.draw } else s

/-- The interval `update_sampler` arms: never zero, and capped for the state it enters. -/
def nextInterval (cfg : Config A) (state : SamplerSwitch) (draw : BitVec 64) : BitVec 64 :=
  let n := if draw = 0 then 1 else draw
  let n := if state = .off ∧ cfg.maxUsOn < n then cfg.maxUsOn else n
  if state = .on ∧ cfg.maxUsOff < n then cfg.maxUsOff else n

def updateSampler (cfg : Config A) (env : Env) (mc : MonitoringContext) (f : Flow A) : Flow A :=
  let s := mc.sampler
  let uc := A.clearFpExceptions cfg.statics f.uc
  let uc := match s.state with
    | .on => A.maskFpTraps cfg.statics uc
    | .off => A.unmaskFpTraps cfg.statics uc
  let t := A.resetTrapMode uc f.code mc.trapModeState
  let it := oneShot (nextInterval cfg s.state env.draw)
  let s := { s with
    xi := pumpRand s.xi
    it := it
    state := s.state.flip
    delayedProcessing := false }
  { f with
    uc := t.uc
    code := t.code
    itimer := it
    mc := some { mc with trapModeState := t.state, sampler := s } }

def sigalrmHandler (cfg : Config A) (env : Env) (f : Flow A) : Flow A :=
  match f.mc with
  | none => f
  | some mc =>
    if mc.state ≠ .awaitFpe then
      { f with mc := some { mc with sampler := { mc.sampler with delayedProcessing := true } } }
    else updateSampler cfg env mc f

end FPSpy
