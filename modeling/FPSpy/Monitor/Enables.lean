import FPSpy.Machine.Arm64
import FPSpy.Machine.Riscv64
import FPSpy.Monitor.Exceptions

/-!
# Selecting exceptions with enables

arm64 and riscv64 keep the enabled traps in a base that starts with all of them, and
`arch_set_trap_mask` takes one away. After `config_exceptions` the base holds the listed
exceptions, and the backend's operations act on exactly those. riscv64 has no denormal
trap: its bit is zero, so it is neither there nor taken away.
-/
namespace FPSpy

/-- The exceptions that `config_exceptions` does not take away. -/
theorem not_mem_filter_not_listed (items : List Item) :
    (fun e => true && decide (e ∉ Fe.all.filter fun e => !listed items e)) = listed items := by
  funext e
  have hall : e ∈ Fe.all := by cases e <;> decide
  cases hl : listed items e <;> simp [hall, hl]

/-! ## arm64 -/

namespace Arm64

def fpcr (uc : UContext) : BitVec 32 := (uc.fpsimd.map (·.fpcr)).getD 0

def fpsr (uc : UContext) : BitVec 32 := (uc.fpsimd.map (·.fpsr)).getD 0

def enabled (uc : UContext) (e : Fe) : Bool := fpcr uc &&& feBit e != 0

def flagged (uc : UContext) (e : Fe) : Bool := fpsr uc &&& feBit e >>> 8 != 0

/-- The backend acts on exactly the listed exceptions: those are enabled, their flags and no
other bits are cleared, and they are disabled again. -/
structure Selects (st : Statics) (listed : Fe → Bool) (uc : UContext) : Prop where
  unmask : ∀ e, enabled (archUnmaskFpTraps st uc) e = listed e
  unmask_rest : fpcr (archUnmaskFpTraps st uc) &&& ~~~0x9f00#32 = fpcr uc &&& ~~~0x9f00#32
  clear : ∀ e, flagged (archClearFpExceptions st uc) e = (flagged uc e && !listed e)
  clear_rest : ∃ v, v &&& ~~~0x9f#32 = fpsr uc &&& ~~~0x9f#32 ∧
    archClearFpExceptions st uc = { uc with fpsimd := uc.fpsimd.map ({ · with fpsr := v }) }
  mask_again : ∀ e, enabled (archMaskFpTraps st (archUnmaskFpTraps st uc)) e = false

theorem feBit_disjoint (a e : Fe) (h : a ≠ e) : feBit a &&& feBit e = 0 := by
  revert h
  cases a <;> cases e <;> decide

theorem feBit_ne_zero (e : Fe) : (feBit e != 0) = true := by cases e <;> decide

theorem holds_statics : Bits.Holds feBit statics.fpcrEnableBase fun _ => true := by
  intro e
  cases e <;> decide

theorem base_foldl (es : List Fe) (st : Statics) :
    (es.foldl (fun st e => archSetTrapMask e st) st).fpcrEnableBase =
      es.foldl (fun b e => b &&& ~~~feBit e) st.fpcrEnableBase :=
  (List.foldl_hom Statics.fpcrEnableBase fun _ _ => rfl).symm

/-- After `config_exceptions` the base holds the listed exceptions. -/
theorem holds_configExceptions (items : List Item) (t : TrapSelection backend) :
    Bits.Holds feBit (configExceptions .individual (exceptList items) t).statics.fpcrEnableBase
      (listed items) := by
  have hfold := holds_statics.foldl_andNot feBit_disjoint (Fe.all.filter fun e => !listed items e)
  rw [not_mem_filter_not_listed, ← base_foldl] at hfold
  rw [statics_configExceptions]
  exact hfold

variable {st : Statics} {uc : UContext} {listed : Fe → Bool}

theorem fpcr_unmaskFpTraps (hfp : uc.fpsimd.isSome) :
    fpcr (archUnmaskFpTraps st uc) = fpcr uc ||| st.fpcrEnableBase := by
  obtain ⟨f, hf⟩ := Option.isSome_iff_exists.mp hfp
  simp [fpcr, archUnmaskFpTraps, Statics.fpcrEnableMask, hf]

theorem fpcr_maskFpTraps (st : Statics) (uc : UContext) :
    fpcr (archMaskFpTraps st uc) = fpcr uc &&& ~~~st.fpcrEnableBase := by
  cases hf : uc.fpsimd <;> simp [fpcr, archMaskFpTraps, Statics.fpcrEnableMask, hf]

theorem fpsr_clearFpExceptions (st : Statics) (uc : UContext) :
    fpsr (archClearFpExceptions st uc) = fpsr uc &&& ~~~(st.fpcrEnableBase >>> 8) := by
  cases hf : uc.fpsimd <;> simp [fpsr, archClearFpExceptions, Statics.fpsrFlagMask, hf]

theorem selects_of_holds (hbase : Bits.Holds feBit st.fpcrEnableBase listed)
    (hfp : uc.fpsimd.isSome) (huc : ∀ e, enabled uc e = false) : Selects st listed uc := by
  have hnone (e : Fe) : fpcr uc &&& feBit e = 0 := by simpa [enabled] using huc e
  have hflags : (st.fpcrEnableBase >>> 8) &&& ~~~0x9f#32 = 0 :=
    Bits.ushiftRight_subset st.subset 8
  have hunmask (e : Fe) : enabled (archUnmaskFpTraps st uc) e = listed e := by
    rw [enabled, fpcr_unmaskFpTraps hfp, hbase.or_and_ne (hnone e), feBit_ne_zero, Bool.and_true]
  refine ⟨hunmask, ?_, fun e => ?_, ⟨fpsr uc &&& ~~~(st.fpcrEnableBase >>> 8), ?_, ?_⟩,
    fun e => ?_⟩
  · rw [fpcr_unmaskFpTraps hfp, Bits.or_and_of_disjoint _ st.subset]
  · rw [flagged, fpsr_clearFpExceptions, (hbase.ushiftRight 8).andNot_and_ne]
    rfl
  · rw [Bits.andNot_and_of_disjoint _ hflags]
  · obtain ⟨f, hf⟩ := Option.isSome_iff_exists.mp hfp
    simp [archClearFpExceptions, fpsr, Statics.fpsrFlagMask, hf]
  · have hlisted := hunmask e
    rw [enabled] at hlisted
    rw [enabled, fpcr_maskFpTraps, hbase.andNot_and_ne, hlisted, Bool.and_not_self]

end Arm64

/-! ## riscv64 -/

namespace Riscv64

def enabled (uc : UContext) (e : Fe) : Bool := uc.ften &&& feBit e != 0

def flagged (uc : UContext) (e : Fe) : Bool := uc.fcsr &&& feBit e != 0

/-- The same for the five exceptions of riscv64. -/
structure Selects (st : Statics) (listed : Fe → Bool) (uc : UContext) : Prop where
  unmask : ∀ e, enabled (archUnmaskFpTraps st uc) e = (listed e && e != .denorm)
  unmask_rest : (archUnmaskFpTraps st uc).ften &&& ~~~0x1f#32 = uc.ften &&& ~~~0x1f#32
  clear : ∀ e, flagged (archClearFpExceptions st uc) e = (flagged uc e && !listed e)
  clear_rest : ∃ v, v &&& ~~~0x1f#32 = uc.fcsr &&& ~~~0x1f#32 ∧
    archClearFpExceptions st uc = { uc with fcsr := v }
  mask_again : ∀ e, enabled (archMaskFpTraps st (archUnmaskFpTraps st uc)) e = false

theorem feBit_disjoint (a e : Fe) (h : a ≠ e) : feBit a &&& feBit e = 0 := by
  revert h
  cases a <;> cases e <;> decide

theorem feBit_ne_zero (e : Fe) : (feBit e != 0) = (e != .denorm) := by cases e <;> decide

theorem holds_clearTrapMask (st : Statics) :
    Bits.Holds feBit (archClearTrapMask st).ftenBase fun _ => true := by
  have hall : ∀ e, 0x1f#32 &&& feBit e = feBit e := by
    intro e
    cases e <;> decide
  exact hall

theorem base_foldl (es : List Fe) (st : Statics) :
    (es.foldl (fun st e => archSetTrapMask e st) st).ftenBase =
      es.foldl (fun b e => b &&& ~~~feBit e) st.ftenBase :=
  (List.foldl_hom Statics.ftenBase fun _ _ => rfl).symm

theorem whatFp_foldl (es : List Fe) (st : Statics) :
    (es.foldl (fun st e => archSetTrapMask e st) st).whatFp = st.whatFp := by
  induction es generalizing st with
  | nil => rfl
  | cons e es ih => exact ih _

variable {estep : Bool}

/-- After `config_exceptions` the base holds the listed exceptions. -/
theorem holds_configExceptions (items : List Item) (t : TrapSelection (backend estep)) :
    Bits.Holds feBit (configExceptions .individual (exceptList items) t).statics.ftenBase
      (listed items) := by
  have hfold := (holds_clearTrapMask t.statics).foldl_andNot feBit_disjoint
    (Fe.all.filter fun e => !listed items e)
  rw [not_mem_filter_not_listed, ← base_foldl] at hfold
  rw [statics_configExceptions]
  exact hfold

theorem whatFp_configExceptions (items : List Item) (t : TrapSelection (backend estep)) :
    (configExceptions .individual (exceptList items) t).statics.whatFp = t.statics.whatFp := by
  rw [statics_configExceptions]
  exact whatFp_foldl _ _

variable {st : Statics} {uc : UContext} {listed : Fe → Bool}

theorem selects_of_holds (hbase : Bits.Holds feBit st.ftenBase listed) (hfp : st.haveFp = true)
    (huc : ∀ e, enabled uc e = false) : Selects st listed uc := by
  have hnone (e : Fe) : uc.ften &&& feBit e = 0 := by simpa [enabled] using huc e
  have hunmask (e : Fe) : enabled (archUnmaskFpTraps st uc) e = (listed e && e != .denorm) := by
    rw [enabled, archUnmaskFpTraps, hbase.or_and_ne (hnone e), feBit_ne_zero]
  have hclear : archClearFpExceptions st uc = { uc with fcsr := uc.fcsr &&& ~~~st.ftenBase } := by
    simp [archClearFpExceptions, hfp]
  refine ⟨hunmask, Bits.or_and_of_disjoint _ st.subset, fun e => ?_,
    ⟨uc.fcsr &&& ~~~st.ftenBase, Bits.andNot_and_of_disjoint _ st.subset, hclear⟩, fun e => ?_⟩
  · rw [hclear, flagged, hbase.andNot_and_ne]
    rfl
  · have hlisted := hunmask e
    rw [enabled] at hlisted
    rw [enabled, archMaskFpTraps, hbase.andNot_and_ne, hlisted]
    cases listed e <;> simp

end Riscv64

/-! ## Both -/

/-- On arm64 and on riscv64 every documented list selects its exceptions, and riscv64 enables
what arm64 does, less denormals. `what_fp` is set by `arch_process_init`. -/
theorem selects_configExceptions (items : List Item) {estep : Bool}
    (ta : TrapSelection Arm64.backend) (tr : TrapSelection (Riscv64.backend estep))
    (ua : Arm64.UContext) (ur : Riscv64.UContext) (hfpsimd : ua.fpsimd.isSome)
    (hfp : tr.statics.whatFp = .haveDFp) (hua : ∀ e, Arm64.enabled ua e = false)
    (hur : ∀ e, Riscv64.enabled ur e = false) :
    let sa := (configExceptions .individual (exceptList items) ta).statics
    let sr := (configExceptions .individual (exceptList items) tr).statics
    Arm64.Selects sa (listed items) ua ∧ Riscv64.Selects sr (listed items) ur ∧
      ∀ e, Riscv64.enabled (Riscv64.archUnmaskFpTraps sr ur) e =
        (Arm64.enabled (Arm64.archUnmaskFpTraps sa ua) e && e != .denorm) := by
  intro sa sr
  have hwhat : sr.haveFp = true := by
    rw [Riscv64.Statics.haveFp, Riscv64.whatFp_configExceptions, hfp]
    decide
  have harm := Arm64.selects_of_holds (Arm64.holds_configExceptions items ta) hfpsimd hua
  have hriscv := Riscv64.selects_of_holds (Riscv64.holds_configExceptions items tr) hwhat hur
  refine ⟨harm, hriscv, fun e => ?_⟩
  rw [hriscv.unmask, harm.unmask]

def denormInvalid : List Item :=
  [⟨.denorm, "Denorm".toList, by decide⟩, ⟨.invalid, "inVALID".toList, by decide⟩]

theorem selects_denormInvalid :
    let sa := (configExceptions .individual (exceptList denormInvalid)
      (⟨Arm64.statics, fun _ => true⟩ : TrapSelection Arm64.backend)).statics
    let sr := (configExceptions .individual (exceptList denormInvalid)
      (⟨Riscv64.statics, fun _ => true⟩ : TrapSelection (Riscv64.backend false))).statics
    Arm64.Selects sa (listed denormInvalid) ⟨fun _ => 0, 0, 0, 0, some ⟨0x9f, 0⟩⟩ ∧
      Riscv64.Selects sr (listed denormInvalid) ⟨fun _ => 0, 0x1f, 0⟩ := by
  have h := selects_configExceptions denormInvalid ⟨Arm64.statics, fun _ => true⟩
    (⟨Riscv64.statics, fun _ => true⟩ : TrapSelection (Riscv64.backend false))
    ⟨fun _ => 0, 0, 0, 0, some ⟨0x9f, 0⟩⟩ ⟨fun _ => 0, 0x1f, 0⟩ rfl rfl
    (by intro e; cases e <;> decide) (by intro e; cases e <;> decide)
  exact ⟨h.1, h.2.1⟩

end FPSpy
