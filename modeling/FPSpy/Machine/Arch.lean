import FPSpy.Lib.Memory
import FPSpy.Trace.Record

/-!
# The architectural interface

`include/arch.h`: what the core of FPSpy asks of a backend. A backend works on a
saved context (`ucontext_t`, together with the trap-enable register where the
hardware keeps that outside of the context), on code memory, and on the state
word of the trap-mode mechanism. Its file-level static variables are `Statics`.

The second half of the structure is what the core may rely on. It names the two
facts about a context that decide whether a trap can fire, `trapsUnmasked` and
`singleStepping`, and says how each operation changes them.
-/
namespace FPSpy

inductive Fe where
  | invalid | denorm | divbyzero | overflow | underflow | inexact
  deriving DecidableEq, Repr

structure TrapMode (UContext : Type) where
  uc : UContext
  code : Mem
  state : BitVec 64

structure Backend where
  UContext : Type
  Statics : Type
  clearTrapMask : Statics → Statics
  setTrapMask : Fe → Statics → Statics
  clearFpExceptions : Statics → UContext → UContext
  maskFpTraps : Statics → UContext → UContext
  unmaskFpTraps : Statics → UContext → UContext
  getRoundConfig : Statics → UContext → BitVec 32
  setRoundConfig : Statics → UContext → BitVec 32 → UContext
  setTrapMode : UContext → Mem → BitVec 64 → TrapMode UContext
  resetTrapMode : UContext → Mem → BitVec 64 → TrapMode UContext
  /-- `arch_reset_trap_mode(uc, 0)`: no monitoring context, hence no state word. -/
  resetTrapModeNull : UContext → UContext
  getIp : UContext → BitVec 64
  getSp : UContext → BitVec 64
  getFpCsr : Statics → UContext → BitVec 64
  /-- `arch_get_instr_bytes(uc, dest, MAX_INSTR_SIZE)` -/
  getInstrBytes : UContext → Mem → Vector (BitVec 8) maxInstrSize

/-- A backend whose operations act on the traps as `arch.h` describes. -/
structure Arch extends Backend where
  /-- Some monitored FP trap can fire in this context. -/
  trapsUnmasked : Statics → UContext → Bool
  /-- Trap mode is on; the state word is missing for a thread without a context. -/
  singleStepping : UContext → Option (BitVec 64) → Bool
  /-- The rounding configurations a context can hold. -/
  IsRoundConfig : BitVec 32 → Prop
  isRoundConfig_zero : IsRoundConfig 0
  isRoundConfig_get : ∀ st uc, IsRoundConfig (getRoundConfig st uc)
  unmasked_clear : ∀ st uc, trapsUnmasked st (clearFpExceptions st uc) = trapsUnmasked st uc
  unmasked_mask : ∀ st uc, trapsUnmasked st (maskFpTraps st uc) = false
  unmasked_setRound : ∀ st uc c, IsRoundConfig c →
    trapsUnmasked st (setRoundConfig st uc c) = trapsUnmasked st uc
  unmasked_setTrapMode : ∀ st uc code s,
    trapsUnmasked st (setTrapMode uc code s).uc = trapsUnmasked st uc
  unmasked_resetTrapMode : ∀ st uc code s,
    trapsUnmasked st (resetTrapMode uc code s).uc = trapsUnmasked st uc
  unmasked_resetTrapModeNull : ∀ st uc,
    trapsUnmasked st (resetTrapModeNull uc) = trapsUnmasked st uc
  stepping_clear : ∀ st uc s, singleStepping (clearFpExceptions st uc) s = singleStepping uc s
  stepping_mask : ∀ st uc s, singleStepping (maskFpTraps st uc) s = singleStepping uc s
  stepping_unmask : ∀ st uc s, singleStepping (unmaskFpTraps st uc) s = singleStepping uc s
  stepping_setRound : ∀ st uc c s, singleStepping (setRoundConfig st uc c) s = singleStepping uc s
  stepping_resetTrapMode : ∀ uc code s,
    singleStepping (resetTrapMode uc code s).uc (some (resetTrapMode uc code s).state) = false
  stepping_resetTrapModeNull : ∀ uc, singleStepping (resetTrapModeNull uc) none = false

attribute [simp] Arch.unmasked_clear Arch.unmasked_mask Arch.unmasked_setTrapMode
  Arch.unmasked_resetTrapMode Arch.unmasked_resetTrapModeNull Arch.stepping_clear
  Arch.stepping_mask Arch.stepping_unmask Arch.stepping_setRound Arch.stepping_resetTrapMode
  Arch.stepping_resetTrapModeNull

end FPSpy
