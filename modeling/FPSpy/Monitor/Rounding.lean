import FPSpy.Machine.Rounding
import FPSpy.Monitor.Effects
import FPSpy.Monitor.Exceptions

/-!
# Forced rounding

`config_round_daz_ftz`, and what the handlers do to the rounding configuration of a context.
There are three cases. Standing down puts the original configuration back; the start and the
end of a step force FPSpy's, except for a last step at the limit; the sampler changes
nothing.
-/
namespace FPSpy

/-! ## The setting -/

namespace X64

def RoundMode.key : RoundMode → List Char
  | .nearest => ['n', 'e', 'a']
  | .negative => ['n', 'e', 'g']
  | .positive => ['p', 'o', 's']
  | .zero => ['z', 'e', 'r']

def RoundMode.order : List RoundMode := [.positive, .negative, .zero, .nearest]

def dazKey : List Char := ['d', 'a', 'z']
def ftzKey : List Char := ['f', 't', 'z']

/-- `orig_round_config`, `our_round_config` and `control_round_config`. -/
structure RoundControl where
  orig : BitVec 32
  our : BitVec 32
  control : Bool

def searchRoundMode (buf : List Char) : Option RoundMode :=
  if strcasestr buf RoundMode.positive.key then some .positive
  else if strcasestr buf RoundMode.negative.key then some .negative
  else if strcasestr buf RoundMode.zero.key then some .zero
  else if strcasestr buf RoundMode.nearest.key then some .nearest
  else none

def configRoundDazFtz (buf : List Char) (mxcsr : BitVec 32) : RoundControl :=
  let orig := archGetMachineRoundConfig mxcsr
  match searchRoundMode buf with
  | none => ⟨orig, 0, false⟩
  | some mode =>
    let our := archSetRoundMode 0 mode.code
    let which := (if strcasestr buf dazKey then 2 else 0) + if strcasestr buf ftzKey then 1 else 0
    ⟨orig, archSetDazftzMode our which, true⟩

/-- What a user asks for with a setting: the first of the modes that occurs, and the switches. -/
structure Requests (buf : List Char) (mode : RoundMode) (dazftz : DazftzMode) : Prop where
  mode : RoundMode.order.find? (strcasestr buf ·.key) = some mode
  dazftz : dazftz = .of (strcasestr buf dazKey) (strcasestr buf ftzKey)

def Decodes (config : BitVec 32) (mode : RoundMode) (dazftz : DazftzMode) : Prop :=
  archGetRoundMode config = mode.code ∧ archGetDazftzMode config = dazftz

theorem searchRoundMode_eq (buf : List Char) :
    searchRoundMode buf = RoundMode.order.find? (strcasestr buf ·.key) := by
  unfold searchRoundMode RoundMode.order
  simp only [List.find?]
  split_ifs <;> simp_all

def packed (mode : RoundMode) (dazftz : DazftzMode) : BitVec 32 :=
  archSetDazftzMode (archSetRoundMode 0 mode.code) dazftz.code

theorem decodes_packed (mode : RoundMode) (dazftz : DazftzMode) :
    Decodes (packed mode dazftz) mode dazftz := by
  cases mode <;> cases dazftz <;> exact ⟨by decide, by decide⟩

/-- A request is packed, and forced from then on. -/
theorem configRoundDazFtz_eq {buf : List Char} {mode : RoundMode} {dazftz : DazftzMode}
    (h : Requests buf mode dazftz) (mxcsr : BitVec 32) :
    configRoundDazFtz buf mxcsr =
      ⟨mxcsr &&& mxcsrRoundDazFtzMask, packed mode dazftz, true⟩ := by
  have hwhich : ∀ daz ftz : Bool,
      ((if daz then 2 else 0) + if ftz then 1 else 0 : BitVec 32) =
        (DazftzMode.of daz ftz).code := by
    decide
  rw [configRoundDazFtz, searchRoundMode_eq, h.mode]
  simp only [hwhich, ← h.dazftz, archGetMachineRoundConfig, packed]

/-- Whatever the setting, what it makes FPSpy force is a rounding configuration. -/
theorem our_configRoundDazFtz_subset (buf : List Char) (mxcsr : BitVec 32) :
    (configRoundDazFtz buf mxcsr).our &&& ~~~mxcsrRoundDazFtzMask = 0 := by
  have hcode : ∀ mode : RoundMode, ∀ daz ftz : Bool,
      archSetDazftzMode (archSetRoundMode 0 mode.code)
        ((if daz then 2 else 0) + if ftz then 1 else 0) &&& ~~~mxcsrRoundDazFtzMask = 0 := by
    intro mode daz ftz
    cases mode <;> cases daz <;> cases ftz <;> decide
  unfold configRoundDazFtz
  cases searchRoundMode buf with
  | none => exact BitVec.zero_and
  | some mode => exact hcode mode _ _

def forced (cfg : Config x64) (buf : List Char) (mxcsr : BitVec 32) : Config x64 :=
  { cfg with
    controlRoundConfig := (configRoundDazFtz buf mxcsr).control
    ourRoundConfig := (configRoundDazFtz buf mxcsr).our
    isRoundConfig_our := our_configRoundDazFtz_subset buf mxcsr }

end X64

/-! ## The handlers -/

section

variable {A : Arch} {cfg : Config A} {env : Env} {f : Flow A}

def Flow.roundConfig (cfg : Config A) (f : Flow A) : BitVec 32 := A.getRoundConfig cfg.statics f.uc

namespace Rounding

variable (R : Rounding A)
include R

theorem get_forceRound (hcontrol : cfg.controlRoundConfig = true) {c : BitVec 32}
    (hc : A.IsRoundConfig c) (uc : A.UContext) :
    A.getRoundConfig cfg.statics (forceRound cfg c uc) = c := by
  rw [forceRound, if_pos hcontrol, R.get_setRound _ _ _ hc]

/-- Standing down puts the original configuration back. -/
theorem get_standDown (hcontrol : cfg.controlRoundConfig = true)
    (hround : A.IsRoundConfig f.origRoundConfig) (mc : MonitoringContext) :
    (standDown cfg mc f).roundConfig cfg = f.origRoundConfig := by
  simp only [Flow.roundConfig, standDown, R.get_resetTrapMode, R.get_forceRound hcontrol hround]

theorem get_standDownNull (hcontrol : cfg.controlRoundConfig = true)
    (hround : A.IsRoundConfig f.origRoundConfig) :
    (standDownNull cfg f).roundConfig cfg = f.origRoundConfig := by
  simp only [Flow.roundConfig, standDownNull, R.get_resetTrapModeNull,
    R.get_forceRound hcontrol hround]

theorem get_brkInit (hcontrol : cfg.controlRoundConfig = true) (mc : MonitoringContext) :
    (brkInit cfg mc f).roundConfig cfg = cfg.ourRoundConfig := by
  simp only [Flow.roundConfig, brkInit, R.get_resetTrapMode,
    R.get_forceRound hcontrol cfg.isRoundConfig_our]

theorem get_beginStep (hcontrol : cfg.controlRoundConfig = true) (mc : MonitoringContext) :
    (beginStep cfg mc f).roundConfig cfg = cfg.ourRoundConfig := by
  simp only [Flow.roundConfig, beginStep, R.get_setTrapMode,
    R.get_forceRound hcontrol cfg.isRoundConfig_our]

theorem get_updateSampler (mc : MonitoringContext) :
    (updateSampler cfg env mc f).roundConfig cfg = f.roundConfig cfg := by
  cases hs : mc.sampler.state <;>
    simp only [Flow.roundConfig, updateSampler, hs, R.get_resetTrapMode, R.get_mask, R.get_unmask,
      R.get_clear]

/-- The end of a step forces FPSpy's configuration again, or puts the original one back at the
limit. -/
theorem get_brkRearm (hcontrol : cfg.controlRoundConfig = true)
    (hround : A.IsRoundConfig f.origRoundConfig) (mc : MonitoringContext) :
    A.getRoundConfig cfg.statics (brkRearm cfg mc f).uc =
      if reachedMaxcount cfg (mc.count + 1) then f.origRoundConfig else cfg.ourRoundConfig := by
  simp only [brkRearm, R.get_resetTrapMode]
  split_ifs
  · exact R.get_forceRound hcontrol hround _
  · exact R.get_forceRound hcontrol cfg.isRoundConfig_our _

variable (env) in
theorem get_brkAwaitTrap (hcontrol : cfg.controlRoundConfig = true)
    (hround : A.IsRoundConfig f.origRoundConfig) (mc : MonitoringContext) :
    (brkAwaitTrap cfg env mc f).roundConfig cfg =
      if reachedMaxcount cfg (mc.count + 1) then f.origRoundConfig else cfg.ourRoundConfig := by
  rw [← R.get_brkRearm hcontrol hround mc]
  unfold brkAwaitTrap
  dsimp only
  split_ifs with hdelayed
  · exact R.get_updateSampler _
  · rfl

end Rounding

end

end FPSpy
