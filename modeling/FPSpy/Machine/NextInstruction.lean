import FPSpy.Machine.Riscv64

/-!
# Where the riscv64 breakpoint lands

Trap mode has to stop the thread at the instruction that follows the current one, so the
backend works out how long the current one is. RISC-V encodes that in the two low bits of the
first half-word: all patterns but `11` are compressed instructions of two bytes. `insn_len`
takes only `00` for compressed. Where the low bits are `01` or `10`, the breakpoint comes two
bytes too late, and the thread runs past the place where it was to be caught.
-/
namespace FPSpy

namespace Breakpoint

/-- The breakpoint is at `target`, the state word holds what it replaced, and no other byte of
code memory is changed. -/
structure PlantedAt (brkInstr : BitVec 32) (target : Addr) (code : Mem) (p : Patched) : Prop where
  written : p.code.read32 target = brkInstr
  saved : instr p.state = code.read32 target
  on : flag p.state = trapModeOn
  frame : ∀ a, 4 ≤ (a - target).toNat → p.code a = code a

variable {brkInstr : BitVec 32} {target : Addr} {code : Mem} {p : Patched}

theorem plantedAt_set (brkInstr : BitVec 32) (target : Addr) (code : Mem) :
    PlantedAt brkInstr target code (set brkInstr target code) where
  written := Mem.read32_write32 code target brkInstr
  saved := instr_set brkInstr target code
  on := flag_set brkInstr target code
  frame _ ha := Mem.write32_of_le code brkInstr ha

/-- A half-word outside. -/
theorem PlantedAt.read16 (h : PlantedAt brkInstr target code p) {a : Addr}
    (h0 : 4 ≤ (a - target).toNat) (h1 : 4 ≤ (a + 1#64 - target).toNat) :
    p.code.read16 a = code.read16 a := by
  simp only [Mem.read16, h.frame _ h0, h.frame _ h1]

theorem PlantedAt.halves (h : PlantedAt brkInstr target code p) :
    p.code.read16 target = brkInstr.extractLsb' 0 16 ∧
      p.code.read16 (target + 2#64) = brkInstr.extractLsb' 16 16 :=
  (Mem.read32_eq_iff _ _ _).mp h.written

/-- Over a breakpoint that is there already nothing changes. -/
theorem set_code_of_planted (h : code.read32 target = brkInstr) :
    (set brkInstr target code).code = code := by
  subst h
  exact Mem.write32_self code target

/-- The breakpoint was put two bytes behind `target`. That makes no difference in one case: its
halves are the same, and the three half-words from `target` on are that half already. -/
theorem plantedAt_set_late_iff :
    PlantedAt brkInstr target code (set brkInstr (target + 2#64) code) ↔
    brkInstr.extractLsb' 0 16 = brkInstr.extractLsb' 16 16 ∧
      code.read16 target = brkInstr.extractLsb' 0 16 ∧
      code.read16 (target + 2#64) = brkInstr.extractLsb' 0 16 ∧
      code.read16 (target + 4#64) = brkInstr.extractLsb' 0 16 := by
  have hfour : target + 2#64 + 2#64 = target + 4#64 := by grind
  constructor
  · intro h
    have hlate := plantedAt_set brkInstr (target + 2#64) code
    obtain ⟨h0, h2⟩ := h.halves
    obtain ⟨h2', h4⟩ := hlate.halves
    have hbefore := hlate.read16 (a := target) (by bv_omega) (by bv_omega)
    have hbehind := h.read16 (a := target + 4#64) (by bv_omega) (by bv_omega)
    have hsame : code.read16 (target + 2#64) = code.read16 target := by
      have hword : code.read32 (target + 2#64) = code.read32 target :=
        hlate.saved.symm.trans h.saved
      rw [← Mem.extract_low_read32, hword, Mem.extract_low_read32]
    grind
  · rintro ⟨hhalves, h0, h2, h4⟩
    have hat : code.read32 target = brkInstr :=
      (Mem.read32_eq_iff _ _ _).mpr ⟨h0, h2.trans hhalves⟩
    have hlate : code.read32 (target + 2#64) = brkInstr :=
      (Mem.read32_eq_iff _ _ _).mpr ⟨h2, by rw [hfour, h4, hhalves]⟩
    have hcode := set_code_of_planted hlate
    refine ⟨?_, ?_, flag_set _ _ _, ?_⟩
    · rw [hcode, hat]
    · rw [instr_set, hlate, hat]
    · intro a _
      rw [hcode]

end Breakpoint

namespace Riscv64

/-- The length of an instruction as the encoding defines it, from its first half-word. -/
def encodedLen (half : BitVec 16) : BitVec 64 := if half &&& 3 = 3 then 4 else 2

def following (code : Mem) (a : Addr) : Addr := a + encodedLen (code.read16 a)

/-- `insn_len` is wrong about these. -/
def Misread (half : BitVec 16) : Prop := half &&& 3 ≠ 0 ∧ half &&& 3 ≠ 3

instance (half : BitVec 16) : Decidable (Misread half) := inferInstanceAs (Decidable (_ ∧ _))

/-- The two low bits of a word are those of its first half. -/
theorem and_three_eq_zero_iff (code : Mem) (a : Addr) :
    code.read32 a &&& 3 = 0 ↔ code.read16 a &&& 3 = 0 := by
  have hword : code.read32 a &&& 3#32 = 0#32 ↔ (code.read32 a).toNat % 4 = 0 := by
    rw [← BitVec.toNat_inj]
    exact Eq.congr (Nat.and_two_pow_sub_one_eq_mod _ 2) rfl
  have hhalf : code.read16 a &&& 3#16 = 0#16 ↔ (code.read16 a).toNat % 4 = 0 := by
    rw [← BitVec.toNat_inj]
    exact Eq.congr (Nat.and_two_pow_sub_one_eq_mod _ 2) rfl
  have hlow : (code.read16 a).toNat = (code.read32 a).toNat % 2 ^ 16 := by
    rw [← Mem.extract_low_read32, BitVec.extractLsb'_toNat, Nat.shiftRight_zero]
  apply hword.trans (Iff.trans _ hhalf.symm)
  omega

/-- `insn_len` by the first half-word. -/
theorem insnLen_eq (code : Mem) (a : Addr) :
    insnLen code a = if code.read16 a &&& 3 = 0 then 2 else 4 := by
  simp only [insnLen, ne_eq, and_three_eq_zero_iff, ite_not]

theorem insnLen_of_not_misread {code : Mem} {a : Addr} (h : ¬ Misread (code.read16 a)) :
    a + insnLen code a = following code a := by
  rw [insnLen_eq, following, encodedLen]
  unfold Misread at h
  split_ifs <;> simp_all

theorem insnLen_of_misread {code : Mem} {a : Addr} (h : Misread (code.read16 a)) :
    a + insnLen code a = following code a + 2#64 := by
  rw [insnLen_eq, if_neg h.1, following, encodedLen, if_neg h.2]
  bv_omega

def EbreaksAt (code : Mem) (a : Addr) : Prop :=
  code.read16 a = 0x9002 ∧ code.read16 (a + 2#64) = 0x9002 ∧ code.read16 (a + 4#64) = 0x9002

/-- The breakpoint is at the following instruction exactly if the low bits of the current one are
`00` or `11`, or if there is nothing to be seen of a breakpoint. -/
theorem plantedAt_following_iff (estep : Bool) (uc : UContext) (code : Mem) (state : BitVec 64) :
    Breakpoint.PlantedAt (brkInstr estep) (following code (pc uc)) code
        ⟨(archSetTrapMode estep uc code state).code, (archSetTrapMode estep uc code state).state⟩ ↔
      code.read16 (pc uc) &&& 3 = 0 ∨ code.read16 (pc uc) &&& 3 = 3 ∨
        estep = false ∧ EbreaksAt code (pc uc + 2#64) := by
  change Breakpoint.PlantedAt _ _ _
    (Breakpoint.set (brkInstr estep) (pc uc + insnLen code (pc uc)) code) ↔ _
  by_cases h : Misread (code.read16 (pc uc))
  · have hfollowing : following code (pc uc) = pc uc + 2#64 := by
      rw [following, encodedLen, if_neg h.2]
      rfl
    have hestep : (brkInstr estep).extractLsb' 0 16 = (brkInstr estep).extractLsb' 16 16 ↔
        estep = false := by cases estep <;> decide
    rw [insnLen_of_misread h, Breakpoint.plantedAt_set_late_iff, hestep, hfollowing]
    rw [or_iff_right h.1, or_iff_right h.2]
    apply and_congr_right
    rintro rfl
    rfl
  · rw [insnLen_of_not_misread h]
    simp only [Breakpoint.plantedAt_set, true_iff]
    unfold Misread at h
    tauto

def nops : Mem := fun a => if a.toNat % 2 = 0 then 1 else 0

/-- The `c.nop` behind the current one stays. -/
theorem not_plantedAt_nops :
    ¬ Breakpoint.PlantedAt (brkInstr false) (following nops 0) nops
      ⟨(archSetTrapMode false ⟨fun _ => 0, 0, 0⟩ nops 1).code,
        (archSetTrapMode false ⟨fun _ => 0, 0, 0⟩ nops 1).state⟩ := by
  intro h
  exact absurd h.written (by decide)

/-- What is fetched at an address is the breakpoint, `estep` or the first `ebreak`. -/
def Catches (estep : Bool) (code : Mem) (a : Addr) : Prop :=
  if estep then code.read32 a = brkInstr true else code.read16 a = 0x9002

/-- A thread that goes on to the following instruction is stopped there only if the length was read
right, or if it would have been stopped anyway. -/
theorem catches_following_iff (estep : Bool) (uc : UContext) (code : Mem) (state : BitVec 64) :
    Catches estep (archSetTrapMode estep uc code state).code (following code (pc uc)) ↔
      ¬ Misread (code.read16 (pc uc)) ∨
        estep = false ∧ code.read16 (following code (pc uc)) = 0x9002 := by
  change Catches estep
    (Breakpoint.set (brkInstr estep) (pc uc + insnLen code (pc uc)) code).code _ ↔ _
  by_cases h : Misread (code.read16 (pc uc))
  · rw [insnLen_of_misread h]
    generalize following code (pc uc) = a
    have hlate := Breakpoint.plantedAt_set (brkInstr estep) (a + 2#64) code
    have hbefore := hlate.read16 (a := a) (by bv_omega) (by bv_omega)
    cases estep with
    | false => simp [Catches, hbefore, h]
    | true =>
      have hne : (brkInstr true).extractLsb' 0 16 ≠ (brkInstr true).extractLsb' 16 16 := by decide
      simp [Catches, Mem.read32_eq_iff, hlate.halves.1, hne, h]
  · rw [insnLen_of_not_misread h]
    have hplanted := Breakpoint.plantedAt_set (brkInstr estep) (following code (pc uc)) code
    simp only [h, not_false_eq_true, true_or, iff_true]
    cases estep with
    | false => exact hplanted.halves.1
    | true => exact hplanted.written

end Riscv64
end FPSpy
