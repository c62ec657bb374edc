import FPSpy.Machine.Arm64
import FPSpy.Machine.Riscv64
import FPSpy.Machine.X64

/-!
# Unmasking all monitored traps

`Arch` says when some monitored trap can fire. Here is the other end: `unmaskFpTraps` lets
all of them fire, and what else the handlers do to a context leaves it so.
-/
namespace FPSpy

structure Masking (A : Arch) where
  /-- Every monitored trap can fire. -/
  Opened : A.Statics → A.UContext → Prop
  /-- Some exception is monitored, and the context has the register to trap on it. -/
  Monitors : A.Statics → A.UContext → Prop
  opened_unmask : ∀ st uc, Opened st (A.unmaskFpTraps st uc)
  opened_setRound : ∀ st uc c, A.IsRoundConfig c → Opened st uc →
    Opened st (A.setRoundConfig st uc c)
  opened_resetTrapMode : ∀ st uc code s, Opened st uc → Opened st (A.resetTrapMode uc code s).uc
  unmasked_of_opened : ∀ st uc, Monitors st uc → Opened st uc → A.trapsUnmasked st uc = true

def x64Masking : Masking x64 where
  Opened st uc := uc.mxcsr &&& st.mxcsrMaskMask = 0
  Monitors st _ := st.mxcsrMaskMask ≠ 0
  opened_unmask st uc := Bits.andNot_and_self _ _
  opened_setRound st uc c hc h := by
    have hround : X64.mxcsrRoundDazFtzMask &&& st.mxcsrMaskMask = 0 :=
      st.disjoint_maskMask (by decide)
    simp only [X64.archSetRoundConfig]
    rw [Bits.or_and_of_disjoint _ (Bits.disjoint_of_subset hc hround),
      Bits.andNot_and_of_disjoint _ hround, h]
  opened_resetTrapMode st uc code s h := h
  unmasked_of_opened st uc hmon h := by simpa [X64.trapsUnmasked, h] using Ne.symm hmon

def arm64Masking : Masking arm64 where
  Opened st uc := ∀ f, uc.fpsimd = some f → f.fpcr &&& st.fpcrEnableMask = st.fpcrEnableMask
  Monitors st uc := st.fpcrEnableMask ≠ 0 ∧ uc.fpsimd.isSome
  opened_unmask st uc f hf := by
    obtain ⟨g, -, rfl⟩ := Option.map_eq_some_iff.mp hf
    exact Bits.or_and_self _ _
  opened_setRound st uc c hc h := h
  opened_resetTrapMode st uc code s h := h
  unmasked_of_opened st uc hmon h := by
    obtain ⟨hne, hfp⟩ := hmon
    obtain ⟨f, hf⟩ := Option.isSome_iff_exists.mp hfp
    simpa [Arm64.trapsUnmasked, hf, h f hf] using hne

def riscv64Masking (estep : Bool) : Masking (riscv64 estep) where
  Opened st uc := uc.ften &&& st.ftenBase = st.ftenBase
  Monitors st _ := st.ftenBase ≠ 0
  opened_unmask st uc := Bits.or_and_self _ _
  opened_setRound st uc c hc h := by simpa using h
  opened_resetTrapMode st uc code s h := h
  unmasked_of_opened st uc hmon h := by simpa [Riscv64.trapsUnmasked, h] using hmon

end FPSpy
