import Mathlib.Data.List.TakeWhile

/-!
# Letter case

A test that treats a capital letter like its small letter is blind to the case. What a scanner
built from such tests does to a text does not depend on the case of the letters in it.
-/
namespace FPSpy.LetterCase

def lower (s : List Char) : List Char := s.map Char.toLower

@[simp] theorem lower_nil : lower [] = [] := rfl

@[simp] theorem lower_cons (c : Char) (s : List Char) : lower (c :: s) = c.toLower :: lower s := rfl

@[simp] theorem lower_eq_nil {s : List Char} : lower s = [] ↔ s = [] := List.map_eq_nil_iff

/-- Only capital letters have another letter for their small one. -/
theorem toLower_cases (c : Char) : c.toLower = c ∨ ∃ n < 26, c = Char.ofNat (65 + n) := by
  by_cases h : c.val ≥ 'A'.val ∧ c.val ≤ 'Z'.val
  · obtain ⟨hlow, hhigh⟩ : 65 ≤ c.toNat ∧ c.toNat ≤ 90 :=
      ⟨UInt32.le_iff_toNat_le.mp h.1, UInt32.le_iff_toNat_le.mp h.2⟩
    refine .inr ⟨c.toNat - 65, by omega, ?_⟩
    rw [Nat.add_sub_cancel' hlow, Char.ofNat_toNat]
  · exact .inl (dif_neg h)

def Blind (p : Char → Bool) : Prop := ∀ c, p c.toLower = p c

theorem blind_of_capitals {p : Char → Bool}
    (h : ∀ n < 26, p (Char.ofNat (65 + n)).toLower = p (Char.ofNat (65 + n))) : Blind p := by
  intro c
  rcases toLower_cases c with hc | ⟨n, hn, rfl⟩
  · rw [hc]
  · exact h n hn

theorem blind_isDigit : Blind Char.isDigit := blind_of_capitals (by decide)

@[simp] theorem toLower_toLower (c : Char) : c.toLower.toLower = c.toLower := by
  rcases toLower_cases c with hc | ⟨n, hn, rfl⟩
  · rw [hc, hc]
  · revert n
    decide

@[simp] theorem lower_lower (s : List Char) : lower (lower s) = lower s := by
  simp [lower]

section Scan

variable {p : Char → Bool} (hp : Blind p)
include hp

theorem Blind.dropWhile_lower (s : List Char) :
    (lower s).dropWhile p = lower (s.dropWhile p) := by
  induction s with
  | nil => rfl
  | cons c s ih =>
    rw [lower_cons, List.dropWhile_cons, List.dropWhile_cons, hp c]
    split_ifs
    · exact ih
    · rfl

theorem Blind.takeWhile_lower (s : List Char) :
    (lower s).takeWhile p = lower (s.takeWhile p) := by
  induction s with
  | nil => rfl
  | cons c s ih =>
    rw [lower_cons, List.takeWhile_cons, List.takeWhile_cons, hp c]
    split_ifs
    · rw [ih, lower_cons]
    · rfl

theorem Blind.any_head?_lower (s : List Char) : (lower s).head?.any p = s.head?.any p := by
  cases s with
  | nil => rfl
  | cons c s => exact hp c

end Scan

/-- Digits have no case. -/
theorem lower_of_isDigit {s : List Char} (h : ∀ c ∈ s, c.isDigit = true) : lower s = s := by
  refine (List.map_congr_left fun c hc => ?_).trans s.map_id
  rcases toLower_cases c with hlow | ⟨n, hn, rfl⟩
  · exact hlow
  · have hnone : ∀ n < 26, (Char.ofNat (65 + n)).isDigit = false := by decide
    exact absurd ((hnone n hn).symm.trans (h _ hc)) Bool.false_ne_true

end FPSpy.LetterCase
