import Mathlib.Data.BitVec

/-!
# Bit fields of a machine word

A control register is read and written through masks: `x &&& k` is the field `k`
of `x`, `x ||| m` sets the field `m` and `x &&& ~~~m` clears it. The lemmas say
what a set or a clear does to the same field and to a disjoint one, so that a
backend only has to check that two mask constants do not meet.
-/
namespace FPSpy.Bits

variable {w : Nat}

/-- Two masks without a common bit, read bit by bit. -/
theorem getLsbD_of_disjoint {m k : BitVec w} (h : m &&& k = 0) (i : Nat) :
    (m.getLsbD i && k.getLsbD i) = false := by
  rw [← BitVec.getLsbD_and, h]
  exact BitVec.getLsbD_zero

/-- Setting a field makes it all ones. -/
@[simp] theorem or_and_self (x m : BitVec w) : (x ||| m) &&& m = m := by
  apply BitVec.eq_of_getLsbD_eq
  intro i hi
  simp only [BitVec.getLsbD_and, BitVec.getLsbD_or]
  cases x.getLsbD i <;> cases m.getLsbD i <;> rfl

/-- Clearing a field makes it zero. -/
@[simp] theorem andNot_and_self (x m : BitVec w) : (x &&& ~~~m) &&& m = 0 := by
  apply BitVec.eq_of_getLsbD_eq
  intro i hi
  simp only [BitVec.getLsbD_and, BitVec.getLsbD_not, hi, decide_true, Bool.true_and]
  cases x.getLsbD i <;> cases m.getLsbD i <;> simp

/-- Setting a field leaves a disjoint one alone. -/
theorem or_and_of_disjoint (x : BitVec w) {m k : BitVec w} (h : m &&& k = 0) :
    (x ||| m) &&& k = x &&& k := by
  apply BitVec.eq_of_getLsbD_eq
  intro i hi
  have hd := getLsbD_of_disjoint h i
  simp only [BitVec.getLsbD_and, BitVec.getLsbD_or]
  cases hx : x.getLsbD i <;> cases hm : m.getLsbD i <;> simp_all

/-- Clearing a field leaves a disjoint one alone. -/
theorem andNot_and_of_disjoint (x : BitVec w) {m k : BitVec w} (h : m &&& k = 0) :
    (x &&& ~~~m) &&& k = x &&& k := by
  apply BitVec.eq_of_getLsbD_eq
  intro i hi
  have hd := getLsbD_of_disjoint h i
  simp only [BitVec.getLsbD_and, BitVec.getLsbD_not, hi, decide_true, Bool.true_and]
  cases hx : x.getLsbD i <;> cases hm : m.getLsbD i <;> simp_all

/-- There is nothing to clear in a field that is zero. -/
theorem andNot_eq_self {x m : BitVec w} (h : x &&& m = 0) : x &&& ~~~m = x := by
  apply BitVec.eq_of_getLsbD_eq
  intro i hi
  have hd := getLsbD_of_disjoint h i
  simp only [BitVec.getLsbD_and, BitVec.getLsbD_not, hi, decide_true, Bool.true_and]
  cases hx : x.getLsbD i <;> cases hm : m.getLsbD i <;> simp_all

/-! ## Submasks -/

/-- Clearing a field clears every part of it. -/
theorem andNot_and_of_subset (x : BitVec w) {m k : BitVec w} (h : m &&& k = k) :
    (x &&& ~~~m) &&& k = 0 := by
  rw [← h, ← BitVec.and_assoc, andNot_and_self]
  simp

/-- A submask of `k` is disjoint from whatever `k` is disjoint from. -/
theorem disjoint_of_subset {m k j : BitVec w} (hm : m &&& ~~~k = 0) (hk : k &&& j = 0) :
    m &&& j = 0 := by
  apply BitVec.eq_of_getLsbD_eq
  intro i hi
  have h₁ := getLsbD_of_disjoint hm i
  have h₂ := getLsbD_of_disjoint hk i
  simp only [BitVec.getLsbD_not, hi, decide_true, Bool.true_and] at h₁
  simp only [BitVec.getLsbD_and]
  cases hm : m.getLsbD i <;> cases hj : j.getLsbD i <;> simp_all

/-- Shifting keeps the submask relation. -/
theorem shiftLeft_subset {m k : BitVec w} (h : m &&& ~~~k = 0) (n : Nat) :
    (m <<< n) &&& ~~~(k <<< n) = 0 := by
  apply BitVec.eq_of_getLsbD_eq
  intro i hi
  have hd := getLsbD_of_disjoint h (i - n)
  have hi' : i - n < w := by omega
  simp only [BitVec.getLsbD_not, hi', decide_true, Bool.true_and] at hd
  simp only [BitVec.getLsbD_and, BitVec.getLsbD_not, BitVec.getLsbD_shiftLeft, hi, decide_true,
    Bool.true_and]
  by_cases hn : i < n <;> simp_all

theorem ushiftRight_subset {m k : BitVec w} (h : m &&& ~~~k = 0) (n : Nat) :
    (m >>> n) &&& ~~~(k >>> n) = 0 := by
  apply BitVec.eq_of_getLsbD_eq
  intro i hi
  have hd := getLsbD_of_disjoint h (n + i)
  simp only [BitVec.getLsbD_and, BitVec.getLsbD_not, BitVec.getLsbD_ushiftRight, hi, decide_true,
    Bool.true_and]
  by_cases hn : n + i < w <;> simp_all

/-- A submask of `k` is its own field `k`. -/
theorem and_of_subset {m k : BitVec w} (h : m &&& ~~~k = 0) : m &&& k = m := by
  apply BitVec.eq_of_getLsbD_eq
  intro i hi
  have hd := getLsbD_of_disjoint h i
  simp only [BitVec.getLsbD_not, hi, decide_true, Bool.true_and] at hd
  simp only [BitVec.getLsbD_and]
  cases hm : m.getLsbD i <;> simp_all

/-- Only the field itself matters for its complement. -/
theorem not_and_and (x k : BitVec w) : ~~~(x &&& k) &&& k = ~~~x &&& k := by
  apply BitVec.eq_of_getLsbD_eq
  intro i hi
  simp only [BitVec.getLsbD_and, BitVec.getLsbD_not, hi, decide_true, Bool.true_and]
  cases x.getLsbD i <;> cases k.getLsbD i <;> rfl

theorem or_subset {m n k : BitVec w} (hm : m &&& ~~~k = 0) (hn : n &&& ~~~k = 0) :
    (m ||| n) &&& ~~~k = 0 := by
  rw [or_and_of_disjoint m hn, hm]

/-- A mask is part of its union with another. -/
theorem and_not_or_left (m n : BitVec w) : m &&& ~~~(m ||| n) = 0 := by
  rw [BitVec.not_or, ← BitVec.and_assoc, BitVec.and_not_self]
  exact BitVec.zero_and

/-- Setting what is set already. -/
theorem or_eq_of_subset {m x : BitVec w} (h : x &&& m = m) : m ||| x = x := by
  apply BitVec.eq_of_getLsbD_eq
  intro i hi
  have hbit := congrArg (·.getLsbD i) h
  simp only [BitVec.getLsbD_and] at hbit
  simp only [BitVec.getLsbD_or]
  cases hx : x.getLsbD i <;> simp_all

/-- A bit that is not clear is set. -/
theorem and_twoPow_of_ne_zero {x : BitVec w} {i : Nat} (h : x &&& BitVec.twoPow w i ≠ 0) :
    x &&& BitVec.twoPow w i = BitVec.twoPow w i := by
  rw [BitVec.and_twoPow] at h ⊢
  split_ifs at h ⊢ with hbit
  · rfl
  · exact absurd rfl h

/-! ## Sets of fields

A word holds a set of fields if each field of the set is all ones in it and each other one
is zero. -/

section Holds

variable {ι : Type*} {bit : ι → BitVec w} {base : BitVec w} {set : ι → Bool}

def Holds (bit : ι → BitVec w) (base : BitVec w) (set : ι → Bool) : Prop :=
  ∀ e, base &&& bit e = if set e then bit e else 0

/-- Setting the word's fields in a register that has none of them. -/
theorem Holds.or_and_ne (h : Holds bit base set) {x : BitVec w} {e : ι} (hx : x &&& bit e = 0) :
    ((x ||| base) &&& bit e != 0) = (set e && bit e != 0) := by
  have hor : (x ||| base) &&& bit e = base &&& bit e := by
    rw [BitVec.and_comm, BitVec.and_or_distrib_left, BitVec.and_comm (bit e) x, hx,
      BitVec.and_comm (bit e)]
    simp
  rw [hor, h e]
  cases set e <;> simp

/-- Clearing the word's fields clears those of the set and leaves the others alone. -/
theorem Holds.andNot_and_ne (h : Holds bit base set) (x : BitVec w) (e : ι) :
    ((x &&& ~~~base) &&& bit e != 0) = (x &&& bit e != 0 && !set e) := by
  have he := h e
  cases hs : set e with
  | true =>
    rw [andNot_and_of_subset x (by simpa [hs] using he)]
    simp
  | false =>
    rw [andNot_and_of_disjoint x (by simpa [hs] using he)]
    simp

theorem Holds.ushiftRight (h : Holds bit base set) (n : Nat) :
    Holds (bit · >>> n) (base >>> n) set := by
  intro e
  rw [← BitVec.ushiftRight_and_distrib, h e]
  split_ifs <;> simp

/-- Fields that do not meet are taken away one by one. -/
theorem Holds.foldl_andNot [DecidableEq ι] (hdisjoint : ∀ a e, a ≠ e → bit a &&& bit e = 0)
    (h : Holds bit base set) (es : List ι) :
    Holds bit (es.foldl (fun b a => b &&& ~~~bit a) base) fun e => set e && decide (e ∉ es) := by
  induction es generalizing base set with
  | nil => simpa using h
  | cons a es ih =>
    have hstep : Holds bit (base &&& ~~~bit a) fun e => set e && decide (e ≠ a) := by
      intro e
      by_cases hea : e = a
      · subst hea
        simp
      · rw [andNot_and_of_disjoint _ (hdisjoint a e (Ne.symm hea)), h e]
        simp [hea]
    simpa [Bool.and_assoc] using ih hstep

end Holds

/-! ## Signed values -/

/-- A non-negative number keeps its value when it is extended. -/
theorem toNat_signExtend_of_nonneg {v : Nat} {x : BitVec w} (h : 0 ≤ x.toInt) (hv : w ≤ v) :
    (x.signExtend v).toNat = x.toNat := by
  have hmsb : x.msb = false := by rw [BitVec.msb_eq_toInt]; simpa using h
  rw [BitVec.signExtend_eq_setWidth_of_msb_false hmsb, BitVec.toNat_setWidth]
  exact Nat.mod_eq_of_lt (lt_of_lt_of_le x.isLt (Nat.pow_le_pow_right (by decide) hv))

theorem toInt_eq_toNat_of_nonneg {x : BitVec w} (h : 0 ≤ x.toInt) : x.toInt = x.toNat :=
  BitVec.toInt_eq_toNat_of_msb (by rw [BitVec.msb_eq_toInt]; simpa using h)

end FPSpy.Bits
