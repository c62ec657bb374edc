import FPSpy.Individual.Thread
import FPSpy.Monitor.Rounding

/-!
# What the handlers may touch

In a saved context of x64 a handler changes the trap flag of RFLAGS and, of MXCSR, the flags
and the masks of the monitored exceptions. Under rounding control it also changes rounding,
DAZ and FTZ; `arch_set_round_config` ORs its argument in as it is, so this needs that
FPSpy's own configuration and the original one have no other bits. The first comes from
`config_round_daz_ftz`, the second was read from a context.
-/
namespace FPSpy

/-- `config_exceptions` on the configuration of a process in individual mode. -/
def Config.selectExceptions {A : Arch} (cfg : Config A) (buf : List Char) : Config A :=
  { cfg with statics := (configExceptions .individual buf ⟨cfg.statics, fun _ => false⟩).statics }

def Flow.handle {A : Arch} (cfg : Config A) (f : Flow A) : ThreadEvent → Flow A × HandlerExit
  | .fpTrap env siCode => fpTrapHandler cfg env siCode f
  | .brkTrap env => brkTrapHandler cfg env f
  | .expiry env => (sigalrmHandler cfg env f, .ret)

def ThreadEvent.env : ThreadEvent → Env
  | .fpTrap env _ => env
  | .brkTrap env => env
  | .expiry env => env

def ThreadEvent.IsTrap : ThreadEvent → Prop
  | .expiry _ => False
  | _ => True

namespace X64

/-- What a handler may change in MXCSR. -/
def mxcsrTouched (cfg : Config x64) : BitVec 32 :=
  cfg.statics.mxcsrFlagMask ||| cfg.statics.mxcsrMaskMask |||
    if cfg.controlRoundConfig then mxcsrRoundDazFtzMask else 0

/-- `vc` differs from `uc` in nothing that a handler must leave alone. -/
structure Confined (cfg : Config x64) (uc vc : UContext) : Prop where
  gregs : ∀ r, r ≠ .efl → vc.gregs r = uc.gregs r
  efl : vc.gregs .efl &&& ~~~tfBit = uc.gregs .efl &&& ~~~tfBit
  mxcsr : vc.mxcsr &&& ~~~mxcsrTouched cfg = uc.mxcsr &&& ~~~mxcsrTouched cfg

variable {cfg : Config x64} {uc vc : UContext}

theorem Confined.refl (cfg : Config x64) (uc : UContext) : Confined cfg uc uc :=
  ⟨fun _ _ => rfl, rfl, rfl⟩

theorem flagMask_touched (cfg : Config x64) :
    cfg.statics.mxcsrFlagMask &&& ~~~mxcsrTouched cfg = 0 := by
  simp only [mxcsrTouched, BitVec.or_assoc]
  exact Bits.and_not_or_left _ _

theorem maskMask_touched (cfg : Config x64) :
    cfg.statics.mxcsrMaskMask &&& ~~~mxcsrTouched cfg = 0 := by
  simp only [mxcsrTouched, BitVec.or_comm cfg.statics.mxcsrFlagMask, BitVec.or_assoc]
  exact Bits.and_not_or_left _ _

theorem roundMask_touched (h : cfg.controlRoundConfig = true) :
    mxcsrRoundDazFtzMask &&& ~~~mxcsrTouched cfg = 0 := by
  simp only [mxcsrTouched, h, if_true, BitVec.or_comm _ mxcsrRoundDazFtzMask]
  exact Bits.and_not_or_left _ _

/-- Another value of MXCSR is all right if it differs in the right bits. -/
theorem Confined.withMxcsr (h : Confined cfg uc vc) {mxcsr : BitVec 32}
    (hmxcsr : mxcsr &&& ~~~mxcsrTouched cfg = vc.mxcsr &&& ~~~mxcsrTouched cfg) :
    Confined cfg uc { vc with mxcsr := mxcsr } :=
  ⟨h.gregs, h.efl, hmxcsr.trans h.mxcsr⟩

/-- So is another value of RFLAGS. -/
theorem Confined.withEfl (h : Confined cfg uc vc) {efl : BitVec 64}
    (hefl : efl &&& ~~~tfBit = vc.gregs .efl &&& ~~~tfBit) :
    Confined cfg uc { vc with gregs := Function.update vc.gregs .efl efl } where
  gregs r hr := (Function.update_of_ne hr efl vc.gregs).trans (h.gregs r hr)
  efl := by
    simp only [Function.update_self]
    exact hefl.trans h.efl
  mxcsr := h.mxcsr

theorem Confined.resetTrapModeNull (h : Confined cfg uc vc) :
    Confined cfg uc (archResetTrapModeNull vc) := by
  apply h.withEfl
  exact Bits.andNot_and_of_disjoint _ (by decide)

theorem Confined.clearFpExceptions (h : Confined cfg uc vc) :
    Confined cfg uc (archClearFpExceptions cfg.statics vc) :=
  h.withMxcsr (Bits.andNot_and_of_disjoint _ (flagMask_touched cfg))

variable (cfg uc) in
/-- No operation that the handlers use goes beyond its bits. -/
theorem keepsFor_confined : KeepsFor cfg x64.IsRoundConfig (Confined cfg uc) where
  shut vc h :=
    h.clearFpExceptions.withMxcsr (Bits.or_and_of_disjoint _ (maskMask_touched cfg))
  reopen vc h :=
    h.clearFpExceptions.withMxcsr (Bits.andNot_and_of_disjoint _ (maskMask_touched cfg))
  setRound hround vc c hc h := by
    have hmask := roundMask_touched hround
    have hconfig : c &&& ~~~mxcsrTouched cfg = 0 := Bits.disjoint_of_subset hc hmask
    apply h.withMxcsr
    rw [Bits.or_and_of_disjoint _ hconfig, Bits.andNot_and_of_disjoint _ hmask]
  setTrapMode vc code s h := by
    apply h.withEfl
    exact Bits.or_and_of_disjoint _ (by decide)
  resetTrapMode vc code s h := h.resetTrapModeNull
  resetTrapModeNull vc h := h.resetTrapModeNull

/-- Every handler is confined, however it ends. -/
theorem confined_handle {f : Flow x64} (hround : x64.IsRoundConfig f.origRoundConfig)
    (e : ThreadEvent) : Confined cfg f.uc (f.handle cfg e).1.uc := by
  have K := keepsFor_confined cfg f.uc
  have hrefl := Confined.refl cfg f.uc
  cases e with
  | fpTrap env siCode =>
    obtain hkept | ⟨hsame, -⟩ := K.fpTrapHandler env cfg.isRoundConfig_our hround siCode
      (K.shut _ hrefl)
    · exact hkept
    · simp only [Flow.handle, hsame]
      exact hrefl
  | brkTrap env => exact K.brkTrapHandler cfg.isRoundConfig_our hround hrefl
  | expiry env => exact K.sigalrmHandler hrefl

/-- A handler that a thread survives leaves the trap flag set only to wait for a trap. -/
theorem awaitTrap_of_tf {f g : Flow x64} (hround : x64.IsRoundConfig f.origRoundConfig)
    {e : ThreadEvent} (htrap : e.IsTrap) (hg : Flow.resume cfg e.env (f.handle cfg e) = some g)
    (htf : tf g.uc = true) : ∃ mc, g.mc = some mc ∧ mc.state = .awaitTrap := by
  rw [(Flow.sameCode_resume hg).uc] at htf
  cases e with
  | expiry env => exact absurd htrap id
  | brkTrap env =>
    have hoff : tf (brkTrapHandler cfg env f).1.uc = false := stepping_brkTrapHandler cfg env hround
    exact absurd htf (by simp [Flow.handle, hoff])
  | fpTrap env siCode =>
    simp only [Flow.handle] at hg htf
    have hpath := fpTrapHandler_path cfg env siCode f
    generalize fpTrapHandler cfg env siCode f = r at hpath hg htf
    cases hpath with
    | dies hexit => obtain rfl | rfl := hexit <;> cases hg
    | bare hmc =>
      have hoff : tf (standDownNull cfg f).uc = false := tf_resetTrapModeNull _
      exact absurd htf (by simp [hoff])
    | beginStep buffer written =>
      obtain rfl := Option.some.inj hg
      exact ⟨_, rfl, rfl⟩
    | surprise buffer written =>
      have hoff : ∀ (mc : MonitoringContext) (h : Flow x64), tf (standDown cfg mc h).uc = false :=
        fun _ _ => tf_resetTrapModeNull _
      exact absurd htf (by simp [hoff])

/-- In the context that any handler leaves behind, the general registers are unchanged, RFLAGS
differs at most in TF, and MXCSR at most in the flags and masks of the monitored exceptions and,
under rounding control, in the rounding configuration. After a trap handler TF is set only in
AWAIT_TRAP. -/
theorem handlers_confined (cfg : Config x64) (f : Flow x64) (e : ThreadEvent) (uc₀ : UContext)
    (horig : f.origRoundConfig = archGetRoundConfig cfg.statics uc₀) :
    Confined cfg f.uc (f.handle cfg e).1.uc ∧
    ∀ g, Flow.resume cfg e.env (f.handle cfg e) = some g →
      Confined cfg f.uc g.uc ∧
      (e.IsTrap → tf g.uc = true → ∃ mc, g.mc = some mc ∧ mc.state = .awaitTrap) := by
  have hround : x64.IsRoundConfig f.origRoundConfig := by
    rw [horig]
    exact x64.isRoundConfig_get cfg.statics uc₀
  have hconfined : Confined cfg f.uc (f.handle cfg e).1.uc := confined_handle hround e
  refine ⟨hconfined, fun g hg => ⟨?_, fun htrap => awaitTrap_of_tf hround htrap hg⟩⟩
  rw [(Flow.sameCode_resume hg).uc]
  exact hconfined

/-- Divisions by zero are monitored, and rounding is towards plus infinity with DAZ. -/
def divideUpward : Config x64 :=
  forced (plain.selectExceptions "divide".toList) "positive;daz".toList 0x1f80

/-- The first breakpoint trap of a thread. -/
theorem handlers_confined_kick :
    (monitored divideUpward).origRoundConfig =
        archGetRoundConfig divideUpward.statics freshFlow.uc ∧
    Confined divideUpward (monitored divideUpward).uc
      ((monitored divideUpward).handle divideUpward (.brkTrap quietEnv)).1.uc :=
  have horig : (monitored divideUpward).origRoundConfig =
      archGetRoundConfig divideUpward.statics freshFlow.uc := by decide
  ⟨horig, (handlers_confined divideUpward _ (.brkTrap quietEnv) freshFlow.uc horig).1⟩

end X64
end FPSpy
