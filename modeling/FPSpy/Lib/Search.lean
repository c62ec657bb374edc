import Mathlib.Data.List.Infix

/-!
# Substring search in separated lists

A key without the separator occurs in a separated list exactly when it occurs in
one of the pieces: no occurrence can run across a separator.
-/
namespace FPSpy.Search

variable {α : Type*}

/-- An occurrence that avoids `c` lies on one side of it. -/
theorem infix_append_cons_iff {c : α} {p : List α} (hc : c ∉ p) (x y : List α) :
    p <:+: x ++ c :: y ↔ p <:+: x ∨ p <:+: y := by
  have hpre : ∀ {q : List α}, q <:+: p → q <+: c :: y → q = [] := by
    intro q hq h
    rcases List.prefix_cons_iff.mp h with rfl | ⟨t, rfl, -⟩
    · rfl
    · exact absurd (hq.subset List.mem_cons_self) hc
  constructor
  · intro h
    rcases List.infix_append_iff.mp h with h | h | ⟨l₁, l₂, rfl, h₁, h₂⟩
    · exact .inl h
    · rcases List.infix_cons_iff.mp h with h | h
      · exact .inl (hpre (List.infix_refl p) h ▸ List.nil_infix)
      · exact .inr h
    · -- a part of the occurrence behind `x` would have to start with `c`
      obtain rfl := hpre (List.suffix_append l₁ l₂).isInfix h₂
      exact .inl (by simpa using h₁.isInfix)
  · rintro (h | h)
    · exact h.trans (List.prefix_append x (c :: y)).isInfix
    · exact h.trans ((List.suffix_cons c y).trans (List.suffix_append x (c :: y))).isInfix

/-- What stands behind the last separator is determined. -/
theorem append_cons_inj {c : α} {x x' y y' : List α} (hy : c ∉ y) (hy' : c ∉ y')
    (h : x ++ c :: y = x' ++ c :: y') : x = x' ∧ y = y' := by
  rcases List.append_eq_append_iff.mp h with ⟨z, rfl, hz⟩ | ⟨z, rfl, hz⟩
  all_goals
    cases z with
    | nil => simpa [eq_comm] using hz
    | cons d z =>
      obtain ⟨-, rfl⟩ := List.cons_eq_cons.mp hz
      simp at hy hy'

/-- A key occurs in a separated list when it occurs in one of its pieces. -/
theorem infix_intercalate_iff {c : α} {p : List α} (hc : c ∉ p) (hp : p ≠ [])
    (xs : List (List α)) : p <:+: [c].intercalate xs ↔ ∃ x ∈ xs, p <:+: x := by
  induction xs with
  | nil => simp [hp]
  | cons x xs ih =>
    cases xs with
    | nil => simp
    | cons y ys =>
      rw [List.intercalate_cons_cons, List.append_assoc, List.singleton_append,
        infix_append_cons_iff hc, ih]
      simp

theorem map_intercalate {β : Type*} (f : α → β) (sep : List α) (xs : List (List α)) :
    (sep.intercalate xs).map f = (sep.map f).intercalate (xs.map (List.map f)) := by
  induction xs with
  | nil => rfl
  | cons x xs ih =>
    cases xs with
    | nil => simp
    | cons y ys =>
      simp only [List.map_cons] at ih
      simp only [List.intercalate_cons_cons, List.map_append, List.map_cons, ih]

/-- One more piece at the end. -/
theorem intercalate_concat (sep : List α) (xs : List (List α)) (hxs : xs ≠ []) (x : List α) :
    sep.intercalate (xs ++ [x]) = sep.intercalate xs ++ (sep ++ x) := by
  induction xs with
  | nil => exact absurd rfl hxs
  | cons y ys ih =>
    cases ys with
    | nil => simp
    | cons z zs =>
      have hrest := ih (List.cons_ne_nil z zs)
      rw [List.cons_append, List.intercalate_cons_of_ne_nil (by simp), hrest,
        List.intercalate_cons_of_ne_nil (List.cons_ne_nil z zs)]
      simp only [List.append_assoc]

/-- With one more separator, each piece has its own. -/
theorem cons_intercalate (c : α) {xs : List (List α)} (hxs : xs ≠ []) :
    c :: [c].intercalate xs = xs.flatMap (c :: ·) := by
  induction xs with
  | nil => exact absurd rfl hxs
  | cons y ys ih =>
    cases ys with
    | nil => simp
    | cons z zs =>
      rw [List.intercalate_cons_cons, List.flatMap_cons, ← ih (List.cons_ne_nil z zs)]
      simp

end FPSpy.Search
