import Mathlib.Data.List.Basic

/-!
# Reading lines into a buffer

A buffer takes a line up to its end or until it is full; what is left of a long line is then read
as if it were a line of its own.
-/
namespace FPSpy.LineBuffer

variable {α : Type*} [DecidableEq α] (eol : α) (size : Nat)

/-- What is read piece by piece; `acc` is in the buffer already. -/
def pieces (acc : List α) : List α → List (List α)
  | [] => if acc.isEmpty then [] else [acc]
  | c :: s =>
    if c = eol ∨ acc.length + 1 = size then (acc ++ [c]) :: pieces [] s else pieces (acc ++ [c]) s

variable {eol size}

@[simp] theorem pieces_nil : pieces eol size [] [] = [] := rfl

/-- Nothing is left in the buffer at the end of a line. -/
theorem pieces_append {l : List α} (hl : eol ∉ l) (acc s : List α) :
    pieces eol size acc (l ++ eol :: s) =
      pieces eol size acc (l ++ [eol]) ++ pieces eol size [] s := by
  induction l generalizing acc with
  | nil => simp [pieces]
  | cons c l ih =>
    have hc : c ≠ eol := fun h => hl (h ▸ List.mem_cons_self)
    have htail : eol ∉ l := fun h => hl (List.mem_cons_of_mem _ h)
    by_cases hfull : acc.length + 1 = size
    · simp [pieces, hfull, ih htail]
    · simp [pieces, hc, hfull, ih htail]

theorem pieces_flatMap {β : Type*} {text : β → List α} {xs : List β}
    (h : ∀ x ∈ xs, eol ∉ text x) :
    pieces eol size [] (xs.flatMap fun x => text x ++ [eol]) =
      xs.flatMap fun x => pieces eol size [] (text x ++ [eol]) := by
  induction xs with
  | nil => rfl
  | cons x xs ih =>
    rw [List.flatMap_cons, List.flatMap_cons, List.append_assoc, List.singleton_append,
      pieces_append (h x List.mem_cons_self), ih fun y hy => h y (List.mem_cons_of_mem _ hy)]

/-- The first piece of a line is as much of it as the buffer takes. -/
theorem pieces_line {l : List α} (hl : eol ∉ l) {acc : List α} (hacc : acc.length < size) :
    pieces eol size acc (l ++ [eol]) = (acc ++ (l ++ [eol]).take (size - acc.length)) ::
      pieces eol size [] ((l ++ [eol]).drop (size - acc.length)) := by
  obtain ⟨k, hk⟩ : ∃ k, size - acc.length = k + 1 := ⟨size - acc.length - 1, by omega⟩
  induction l generalizing acc k with
  | nil => simp [pieces, hk]
  | cons c l ih =>
    have hc : c ≠ eol := fun h => hl (h ▸ List.mem_cons_self)
    have htail : eol ∉ l := fun h => hl (List.mem_cons_of_mem _ h)
    by_cases hfull : acc.length + 1 = size
    · obtain rfl : k = 0 := by omega
      simp [pieces, hfull, hk]
    · obtain ⟨j, rfl⟩ : ∃ j, k = j + 1 := ⟨k - 1, by omega⟩
      have hroom : size - (acc ++ [c]).length = j + 1 := by simp; omega
      have hlen : (acc ++ [c]).length < size := by simp; omega
      have hnext := ih htail hlen j hroom
      rw [hroom] at hnext
      simp [pieces, hc, hfull, hk, hnext]

end FPSpy.LineBuffer
