import Mathlib.Data.List.Induction

/-!
# Picking the elements of a list by their position
-/
namespace FPSpy

variable {α β : Type*}

/-- The elements whose index satisfies `keep`, in order. -/
def pick (keep : Nat → Bool) (xs : List α) : List α :=
  (xs.zipIdx.filter fun x => keep x.2).map Prod.fst

@[simp] theorem pick_nil (keep : Nat → Bool) : pick keep ([] : List α) = [] := rfl

/-- A new last element is picked by the old length. -/
theorem pick_concat (keep : Nat → Bool) (xs : List α) (x : α) :
    pick keep (xs ++ [x]) = pick keep xs ++ if keep xs.length then [x] else [] := by
  simp only [pick, List.zipIdx_append, List.filter_append, List.map_append, Nat.zero_add]
  congr 1
  cases h : keep xs.length <;> simp [h]

theorem pick_concat_of_keep {keep : Nat → Bool} {xs : List α} (x : α)
    (h : keep xs.length = true) : pick keep (xs ++ [x]) = pick keep xs ++ [x] := by
  simp [pick_concat, h]

theorem pick_concat_of_not {keep : Nat → Bool} {xs : List α} (x : α)
    (h : keep xs.length = false) : pick keep (xs ++ [x]) = pick keep xs := by
  simp [pick_concat, h]

/-- Only the positions inside the list matter. -/
theorem pick_congr {keep keep' : Nat → Bool} {xs : List α}
    (h : ∀ i < xs.length, keep i = keep' i) : pick keep xs = pick keep' xs := by
  induction xs using List.reverseRecOn with
  | nil => rfl
  | append_singleton xs x ih =>
    rw [pick_concat, pick_concat, ih fun i hi => h i (by simp; omega), h xs.length (by simp)]

theorem pick_all (xs : List α) : pick (fun _ => true) xs = xs := by
  rw [pick, List.filter_eq_self.mpr fun _ _ => rfl, List.zipIdx_map_fst]

/-- The element of a given index among those that satisfy `p`. -/
theorem exists_split_of_lt_countP {p : α → Bool} {xs : List α} {n : Nat} (h : n < xs.countP p) :
    ∃ pre x post, xs = pre ++ x :: post ∧ p x = true ∧ pre.countP p = n := by
  induction xs generalizing n with
  | nil => simp at h
  | cons x xs ih =>
    by_cases hx : p x = true
    · rw [List.countP_cons_of_pos hx] at h
      cases n with
      | zero => exact ⟨[], x, xs, rfl, hx, rfl⟩
      | succ n =>
        obtain ⟨pre, y, post, rfl, hy, hcount⟩ := ih (Nat.lt_of_succ_lt_succ h)
        exact ⟨x :: pre, y, post, rfl, hy, by rw [List.countP_cons_of_pos hx, hcount]⟩
    · rw [List.countP_cons_of_neg hx] at h
      obtain ⟨pre, y, post, rfl, hy, hcount⟩ := ih h
      exact ⟨x :: pre, y, post, rfl, hy, by rw [List.countP_cons_of_neg hx, hcount]⟩

end FPSpy
