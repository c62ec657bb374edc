import Mathlib.Tactic.IntervalCases
import FPSpy.Machine.X64

/-!
# Only monitored exceptions are unmasked

Linux starts a thread with the six exceptions masked. FPSpy masks and unmasks the monitored ones
together, so that a thread has either none of them unmasked or all, and no others.
-/
namespace FPSpy.X64

variable {st : Statics} {uc : UContext}

def OnlyMonitored (st : Statics) (uc : UContext) : Prop :=
  uc.mxcsr &&& 0x1f80#32 ||| st.mxcsrMaskMask = 0x1f80#32

theorem OnlyMonitored.congr {vc : UContext} (h : OnlyMonitored st uc)
    (heq : vc.mxcsr &&& 0x1f80#32 = uc.mxcsr &&& 0x1f80#32) : OnlyMonitored st vc := by
  rw [OnlyMonitored, heq]
  exact h

theorem OnlyMonitored.clear (h : OnlyMonitored st uc) :
    OnlyMonitored st (archClearFpExceptions st uc) := by
  have hflags : st.mxcsrFlagMask &&& 0x1f80#32 = 0 :=
    Bits.disjoint_of_subset st.flagMask_subset (by decide)
  exact h.congr (Bits.andNot_and_of_disjoint _ hflags)

theorem OnlyMonitored.mask (h : OnlyMonitored st uc) :
    OnlyMonitored st (archMaskFpTraps st uc) := by
  simp only [OnlyMonitored, archMaskFpTraps] at h ⊢
  rw [← h]
  ext i hi
  simp only [BitVec.getElem_or, BitVec.getElem_and]
  grind

theorem OnlyMonitored.unmask (h : OnlyMonitored st uc) :
    OnlyMonitored st (archUnmaskFpTraps st uc) := by
  simp only [OnlyMonitored, archUnmaskFpTraps] at h ⊢
  rw [← h]
  ext i hi
  simp only [BitVec.getElem_or, BitVec.getElem_and, BitVec.getElem_not]
  grind

/-- The exceptions whose masks are not among the monitored ones. -/
theorem unmasked_complement (st : Statics) :
    ~~~((0x1f80#32 &&& ~~~st.mxcsrMaskMask) >>> 7) &&& 0x3f#32 = st.mxcsrmaskBase := by
  rw [BitVec.ushiftRight_and_distrib, show 0x1f80#32 >>> 7 = 0x3f#32 by decide,
    BitVec.and_comm 0x3f#32, Bits.not_and_and, ← Bits.and_of_subset st.subset]
  ext i hi
  by_cases hin : i < 25
  · have hshift : 7 + i < 32 := by omega
    simp [Statics.mxcsrMaskMask, hshift]
  · interval_cases i <;> simp

/-- With the monitored traps unmasked an instruction traps if it raises a monitored exception. -/
theorem OnlyMonitored.unmasked_of_opened (h : OnlyMonitored st uc)
    (hopened : uc.mxcsr &&& st.mxcsrMaskMask = 0) : unmasked uc = st.mxcsrmaskBase := by
  -- the masks are the ones that are not monitored
  have hmasks : uc.mxcsr &&& 0x1f80#32 = 0x1f80#32 &&& ~~~st.mxcsrMaskMask := by
    rw [← h]
    ext i hi
    have hbit := congrArg (·[i]) hopened
    simp only [BitVec.getElem_or, BitVec.getElem_and, BitVec.getElem_not] at hbit ⊢
    simp at hbit
    grind
  rw [unmasked_eq, hmasks, unmasked_complement]

/-- With these masked it does not trap. -/
theorem OnlyMonitored.unmasked_of_masked (h : OnlyMonitored st uc)
    (hmasked : trapsUnmasked st uc = false) : unmasked uc = 0 := by
  have hsub : uc.mxcsr &&& st.mxcsrMaskMask = st.mxcsrMaskMask := by
    simpa [trapsUnmasked] using hmasked
  apply X64.unmasked_of_masked
  rw [← h]
  ext i hi
  have hbit := congrArg (·[i]) hsub
  simp only [BitVec.getElem_or, BitVec.getElem_and] at hbit ⊢
  grind

end FPSpy.X64
