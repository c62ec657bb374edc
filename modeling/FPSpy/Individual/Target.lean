import Mathlib.Logic.Function.Iterate
import FPSpy.Machine.X64

/-!
# A target program on x64

A program is any deterministic instruction function that neither reads nor writes the
exception flags and masks of MXCSR and the trap flag. Its native run commits one
instruction after the other and accumulates what they raise in the sticky flags.
`visible` is the state with the bits outside the program's sight removed; the record of
a commit is made of visible states, so two runs with different masks can be compared.
-/
namespace FPSpy.X64

def statusMask : BitVec 32 := 0x1fbf

structure Cpu where
  uc : UContext
  mem : Mem

/-- What the target can tell. -/
def UContext.visible (uc : UContext) : UContext where
  gregs := Function.update uc.gregs .efl (uc.gregs .efl &&& ~~~tfBit)
  mxcsr := uc.mxcsr &&& ~~~statusMask

def Cpu.visible (c : Cpu) : Cpu := ⟨c.uc.visible, c.mem⟩

structure Program where
  exec : Cpu → Cpu
  raises : Cpu → BitVec 32
  exec_visible : ∀ c d, c.visible = d.visible → (exec c).visible = (exec d).visible
  raises_visible : ∀ c d, c.visible = d.visible → raises c = raises d
  exec_status : ∀ c, (exec c).uc.mxcsr &&& statusMask = c.uc.mxcsr &&& statusMask
  exec_tf : ∀ c, (exec c).uc.gregs .efl &&& tfBit = c.uc.gregs .efl &&& tfBit
  raises_subset : ∀ c, raises c &&& ~~~0x3f#32 = 0

/-- One committed instruction: the state before it, what it raised, the state after it. -/
structure Commit where
  before : Cpu
  raised : BitVec 32
  after : Cpu

namespace Program

variable (P : Program)

def commit (c : Cpu) : Cpu :=
  let d := P.exec c
  { d with uc := { d.uc with mxcsr := d.uc.mxcsr ||| P.raises c } }

def entry (c : Cpu) : Commit := ⟨c.visible, P.raises c, (P.commit c).visible⟩

def native (c : Cpu) (n : Nat) : List Commit :=
  (List.range n).map fun i => P.entry (P.commit^[i] c)

def events (cs : List Commit) : List Commit := cs.filter fun k => k.raised != 0

theorem native_succ (c : Cpu) (n : Nat) :
    P.native c (n + 1) = P.native c n ++ [P.entry (P.commit^[n] c)] := by
  simp [native, List.range_succ]

@[simp] theorem length_native (c : Cpu) (n : Nat) : (P.native c n).length = n := by
  simp [native]

/-- A flag or a mask bit is invisible. -/
theorem visible_or {x m : BitVec 32} (h : m &&& ~~~statusMask = 0) :
    (x ||| m) &&& ~~~statusMask = x &&& ~~~statusMask :=
  Bits.or_and_of_disjoint x h

theorem visible_commit (c : Cpu) : (P.commit c).visible = (P.exec c).visible := by
  have h : P.raises c &&& ~~~statusMask = 0 :=
    Bits.disjoint_of_subset (P.raises_subset c) (by decide)
  simp only [commit, Cpu.visible, UContext.visible, visible_or h]

/-- Runs from states that look the same stay that way. -/
theorem visible_commit_congr {c d : Cpu} (h : c.visible = d.visible) :
    (P.commit c).visible = (P.commit d).visible := by
  rw [visible_commit, visible_commit, P.exec_visible c d h]

theorem entry_congr {c d : Cpu} (h : c.visible = d.visible) : P.entry c = P.entry d := by
  simp only [entry, h, P.raises_visible c d h, P.visible_commit_congr h]

/-- Committing leaves the masks alone. -/
theorem commit_masks (c : Cpu) :
    (P.commit c).uc.mxcsr &&& 0x1f80#32 = c.uc.mxcsr &&& 0x1f80#32 := by
  have hr : P.raises c &&& 0x1f80#32 = 0 :=
    Bits.disjoint_of_subset (P.raises_subset c) (by decide)
  have hs : ∀ x : BitVec 32, x &&& 0x1f80#32 = (x &&& statusMask) &&& 0x1f80#32 := by
    intro x
    rw [BitVec.and_assoc]
    rfl
  simp only [commit]
  rw [Bits.or_and_of_disjoint _ hr, hs, P.exec_status, ← hs]

theorem commit_maskMask (st : Statics) (c : Cpu) :
    (P.commit c).uc.mxcsr &&& st.mxcsrMaskMask = c.uc.mxcsr &&& st.mxcsrMaskMask := by
  have hsub : 0x1f80#32 &&& st.mxcsrMaskMask = st.mxcsrMaskMask := by
    rw [BitVec.and_comm]
    exact Bits.and_of_subset st.maskMask_subset
  rw [← hsub, ← BitVec.and_assoc, ← BitVec.and_assoc, P.commit_masks]

/-- Committing leaves the trap flag alone. -/
theorem commit_tf (c : Cpu) : tf (P.commit c).uc = tf c.uc := by
  simp only [tf, commit, P.exec_tf c]

end Program

/-! ## The operations of the backend are invisible -/

section Visible

variable (st : Statics) (uc : UContext)

theorem flagMask_invisible : st.mxcsrFlagMask &&& ~~~statusMask = 0 :=
  Bits.disjoint_of_subset st.flagMask_subset (by decide)

theorem maskMask_invisible : st.mxcsrMaskMask &&& ~~~statusMask = 0 :=
  Bits.disjoint_of_subset st.maskMask_subset (by decide)

@[simp] theorem visible_clearFpExceptions :
    (archClearFpExceptions st uc).visible = uc.visible := by
  simp only [UContext.visible, archClearFpExceptions,
    Bits.andNot_and_of_disjoint _ (flagMask_invisible st)]

@[simp] theorem visible_maskFpTraps : (archMaskFpTraps st uc).visible = uc.visible := by
  simp only [UContext.visible, archMaskFpTraps, Bits.or_and_of_disjoint _ (maskMask_invisible st)]

@[simp] theorem visible_unmaskFpTraps : (archUnmaskFpTraps st uc).visible = uc.visible := by
  simp only [UContext.visible, archUnmaskFpTraps,
    Bits.andNot_and_of_disjoint _ (maskMask_invisible st)]

theorem tfBit_invisible : tfBit &&& ~~~tfBit = 0 := by decide

@[simp] theorem visible_setTrapMode (code : Mem) (s : BitVec 64) :
    (archSetTrapMode uc code s).uc.visible = uc.visible := by
  simp [UContext.visible, archSetTrapMode,
    Bits.or_and_of_disjoint (uc.gregs .efl) tfBit_invisible]

@[simp] theorem visible_resetTrapModeNull :
    (archResetTrapModeNull uc).visible = uc.visible := by
  simp [UContext.visible, archResetTrapModeNull,
    Bits.andNot_and_of_disjoint (uc.gregs .efl) tfBit_invisible]

@[simp] theorem visible_resetTrapMode (code : Mem) (s : BitVec 64) :
    (archResetTrapMode uc code s).uc.visible = uc.visible := visible_resetTrapModeNull uc

end Visible

end FPSpy.X64
