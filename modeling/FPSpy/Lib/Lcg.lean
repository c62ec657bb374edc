import Mathlib.Algebra.Ring.GeomSum
import Mathlib.Data.BitVec
import Mathlib.Dynamics.PeriodicPts.Lemmas
import Mathlib.Tactic.Ring

/-!
# Linear congruential generators

`n` steps of `x ↦ a * x + c` add a geometric sum times a number that does not depend on `n`.
Modulo `2 ^ w` that number is odd, and the sum of `n` powers of a multiplier that is 1 modulo
4 has as many factors 2 as `n`. So the generator comes back to where it was after `2 ^ w`
steps and not before, from wherever it starts.
-/
namespace FPSpy.Lcg

open Finset Function

def step {R : Type*} [Add R] [Mul R] (a c x : R) : R := a * x + c

theorem iterate_sub {R : Type*} [CommRing R] (a c x : R) (n : ℕ) :
    (step a c)^[n] x - x = (∑ i ∈ range n, a ^ i) * ((a - 1) * x + c) := by
  induction n with
  | zero => simp
  | succ n ih =>
    have hn : (step a c)^[n] x = (∑ i ∈ range n, a ^ i) * ((a - 1) * x + c) + x := by
      rw [← ih, sub_add_cancel]
    rw [iterate_succ_apply', step, hn, geom_sum_succ]
    ring

/-! ## Factors of two in a geometric sum -/

theorem odd_geomSum_iff {a : ℕ} (ha : Odd a) (n : ℕ) :
    Odd (∑ i ∈ range n, a ^ i) ↔ Odd n := by
  induction n with
  | zero => simp
  | succ n ih =>
    rw [geom_sum_succ, Nat.odd_add_one, Nat.odd_add_one, Nat.odd_mul, ih]
    simp [ha]

/-- A sum of twice as many powers has one more factor 2. -/
theorem geomSum_double {a : ℕ} (ha : a % 4 = 1) (m : ℕ) :
    ∃ v, ∑ i ∈ range (m + m), a ^ i = (∑ i ∈ range m, a ^ i) * (2 * v + 1) * 2 := by
  have hpow : a ^ m % 4 = 1 := by
    rw [Nat.pow_mod, ha, one_pow]
    rfl
  refine ⟨a ^ m / 4, ?_⟩
  have hsum : a ^ m + 1 = (2 * (a ^ m / 4) + 1) * 2 := by omega
  rw [sum_range_add]
  simp only [pow_add]
  rw [← mul_sum, mul_assoc, ← hsum]
  ring

theorem two_pow_dvd_geomSum_iff {a : ℕ} (ha : a % 4 = 1) (k n : ℕ) :
    2 ^ k ∣ ∑ i ∈ range n, a ^ i ↔ 2 ^ k ∣ n := by
  induction k generalizing n with
  | zero => simp
  | succ k ih =>
    rcases Nat.even_or_odd n with ⟨m, rfl⟩ | hodd
    · obtain ⟨v, hv⟩ := geomSum_double ha m
      have hcoprime : Nat.Coprime (2 ^ k) (2 * v + 1) :=
        Nat.Coprime.pow_left k (Nat.coprime_two_left.mpr ⟨v, rfl⟩)
      rw [hv, pow_succ, Nat.mul_dvd_mul_iff_right two_pos, hcoprime.dvd_mul_right, ih, ← mul_two,
        Nat.mul_dvd_mul_iff_right two_pos]
    · have haodd : Odd a := Nat.odd_iff.mpr (by omega)
      have heven : ∀ {j : ℕ}, Odd j → ¬ 2 ^ (k + 1) ∣ j := by
        intro j hj hdvd
        exact Nat.not_even_iff_odd.mpr hj
          (even_iff_two_dvd.mpr (dvd_trans (dvd_pow_self 2 (Nat.succ_ne_zero k)) hdvd))
      have hsum := heven ((odd_geomSum_iff haodd n).mpr hodd)
      simp only [hsum, heven hodd]

/-! ## The cycle modulo a power of two -/

section Cycle

variable {w : ℕ} {a c : BitVec w}

theorem natCast_eq_zero_iff (n : ℕ) : (n : BitVec w) = 0 ↔ 2 ^ w ∣ n := by
  rw [← BitVec.toNat_inj, BitVec.natCast_eq_ofNat, BitVec.toNat_ofNat]
  exact (Nat.dvd_iff_mod_eq_zero).symm

theorem natCast_toNat (x : BitVec w) : (x.toNat : BitVec w) = x := by
  rw [BitVec.natCast_eq_ofNat, BitVec.ofNat_toNat, BitVec.setWidth_eq]

variable (ha : a.toNat % 4 = 1) (hc : c.toNat % 2 = 1)
include ha hc

theorem iterate_eq_self_iff (x : BitVec w) (n : ℕ) : (step a c)^[n] x = x ↔ 2 ^ w ∣ n := by
  have hpred : ((a.toNat - 1 : ℕ) : BitVec w) = a - 1 := by
    rw [Nat.cast_sub (by omega), natCast_toNat, Nat.cast_one]
  have hcast : (∑ i ∈ range n, a ^ i) * ((a - 1) * x + c) =
      (((∑ i ∈ range n, a.toNat ^ i) * ((a.toNat - 1) * x.toNat + c.toNat) : ℕ) : BitVec w) := by
    push_cast
    rw [hpred, natCast_toNat, natCast_toNat, natCast_toNat]
  have hodd : Odd ((a.toNat - 1) * x.toNat + c.toNat) := by
    have heven : Even ((a.toNat - 1) * x.toNat) := Even.mul_right (Nat.even_iff.mpr (by omega)) _
    exact heven.add_odd (Nat.odd_iff.mpr hc)
  have hcoprime : Nat.Coprime (2 ^ w) ((a.toNat - 1) * x.toNat + c.toNat) :=
    Nat.Coprime.pow_left w (Nat.coprime_two_left.mpr hodd)
  rw [← sub_eq_zero, iterate_sub, hcast, natCast_eq_zero_iff, hcoprime.dvd_mul_right,
    two_pow_dvd_geomSum_iff ha]

theorem minimalPeriod_step (x : BitVec w) : minimalPeriod (step a c) x = 2 ^ w := by
  apply Nat.dvd_antisymm
  · apply IsPeriodicPt.minimalPeriod_dvd
    exact (iterate_eq_self_iff ha hc x _).mpr (dvd_refl _)
  · exact (iterate_eq_self_iff ha hc x _).mp (isPeriodicPt_minimalPeriod _ _)

/-- The generator is where it was exactly after whole periods. -/
theorem iterate_eq_iterate_iff (x : BitVec w) (m n : ℕ) :
    (step a c)^[m] x = (step a c)^[n] x ↔ m ≡ n [MOD 2 ^ w] := by
  have hperiod := minimalPeriod_step ha hc x
  have hpos : 0 < minimalPeriod (step a c) x := hperiod ▸ Nat.two_pow_pos w
  rw [← iterate_mod_minimalPeriod_eq (n := m), ← iterate_mod_minimalPeriod_eq (n := n),
    iterate_eq_iterate_iff_of_lt_minimalPeriod (Nat.mod_lt _ hpos) (Nat.mod_lt _ hpos), hperiod]
  exact Iff.rfl

/-- From any word every word is reached, once in a period. -/
theorem existsUnique_iterate (x y : BitVec w) : ∃! i, i < 2 ^ w ∧ (step a c)^[i] x = y := by
  have hinj : Injective fun i : Fin (2 ^ w) => ((step a c)^[i] x).toFin := by
    intro i j hij
    have hmod : i.val ≡ j.val [MOD 2 ^ w] :=
      (iterate_eq_iterate_iff ha hc x _ _).mp (BitVec.toFin_injective hij)
    exact Fin.ext (hmod.eq_of_lt_of_lt i.isLt j.isLt)
  obtain ⟨i, hi⟩ := Finite.surjective_of_injective hinj y.toFin
  replace hi : (step a c)^[i] x = y := BitVec.toFin_injective hi
  refine ⟨i, ⟨i.isLt, hi⟩, ?_⟩
  rintro j ⟨hj, hjy⟩
  have hmod : j ≡ i.val [MOD 2 ^ w] := (iterate_eq_iterate_iff ha hc x _ _).mp (hjy.trans hi.symm)
  exact hmod.eq_of_lt_of_lt hj i.isLt

end Cycle
end FPSpy.Lcg
