import Mathlib.Logic.Function.Basic
import Mathlib.Tactic.SplitIfs

/-!
# Buffered logs

Logs named by `ι` write records of type `ρ` to files named by `φ`. A log that is open has a
file of its own and a buffer; `pushed` is all that was ever handed to the log of a file.
The state is consistent if each file followed by the buffer of its log is what was pushed,
so that nothing is lost or repeated once every log is closed.
-/
namespace FPSpy

structure Journals (ι φ ρ : Type*) where
  /-- The file and the buffer of each open log. -/
  log : ι → Option (φ × List ρ)
  content : φ → List ρ
  pushed : φ → List ρ

namespace Journals

variable {ι φ ρ : Type*} {j : Journals ι φ ρ} {i k : ι} {x y : φ} {b c : List ρ}

structure Consistent (j : Journals ι φ ρ) : Prop where
  held : ∀ i x b, j.log i = some (x, b) → j.content x ++ b = j.pushed x
  own : ∀ i k x b c, j.log i = some (x, b) → j.log k = some (x, c) → i = k
  rest : ∀ x, (∀ i b, j.log i ≠ some (x, b)) → j.content x = j.pushed x

/-- Another log has another file. -/
theorem Consistent.ne_file (h : j.Consistent) (hi : j.log i = some (x, b)) (hk : k ≠ i)
    (hlog : j.log k = some (y, c)) : y ≠ x := by
  rintro rfl
  exact hk (h.own k i y c b hlog hi)

def drop (j : Journals ι φ ρ) (p : ι → Prop) [DecidablePred p] : Journals ι φ ρ :=
  { j with log := fun i => if p i then none else j.log i }

/-- This loses nothing if the buffers are empty. -/
theorem Consistent.drop (h : j.Consistent) (p : ι → Prop) [DecidablePred p]
    (hempty : ∀ i x b, p i → j.log i = some (x, b) → b = []) : (j.drop p).Consistent := by
  have hlog : ∀ {i x b}, (j.drop p).log i = some (x, b) → j.log i = some (x, b) := by
    intro i x b hi
    simp only [Journals.drop] at hi
    split_ifs at hi
    exact hi
  refine ⟨fun i x b hi => h.held i x b (hlog hi),
    fun i k x b c hi hk => h.own i k x b c (hlog hi) (hlog hk), fun x hx => ?_⟩
  by_cases hopen : ∃ i b, j.log i = some (x, b)
  · obtain ⟨i, b, hi⟩ := hopen
    have hp : p i := by
      by_contra hp
      exact hx i b (by simp [Journals.drop, hp, hi])
    have hheld := h.held i x b hi
    rwa [hempty i x b hp hi, List.append_nil] at hheld
  · exact h.rest x fun i b hi => hopen ⟨i, b, hi⟩

variable [DecidableEq ι]

def start (j : Journals ι φ ρ) (i : ι) (x : φ) : Journals ι φ ρ :=
  { j with log := Function.update j.log i (some (x, [])) }

theorem Consistent.start (h : j.Consistent) (hi : j.log i = none)
    (hx : ∀ k b, j.log k ≠ some (x, b)) : (j.start i x).Consistent := by
  have hlog : ∀ {k y b}, (j.start i x).log k = some (y, b) →
      (k = i ∧ y = x ∧ b = []) ∨ (k ≠ i ∧ j.log k = some (y, b)) := by
    intro k y b hk
    by_cases hki : k = i
    · subst hki
      simp only [Journals.start, Function.update_self, Option.some.injEq, Prod.mk.injEq] at hk
      exact .inl ⟨rfl, hk.1.symm, hk.2.symm⟩
    · simp only [Journals.start, Function.update_of_ne hki] at hk
      exact .inr ⟨hki, hk⟩
  refine ⟨fun k y b hk => ?_, fun k l y b c hk hl => ?_, fun y hy => h.rest y fun k b hk => ?_⟩
  · rcases hlog hk with ⟨-, rfl, rfl⟩ | ⟨-, hk⟩
    · rw [List.append_nil]
      exact h.rest y hx
    · exact h.held k y b hk
  · rcases hlog hk with ⟨rfl, rfl, -⟩ | ⟨-, hk'⟩ <;> rcases hlog hl with ⟨rfl, hyx, -⟩ | ⟨-, hl'⟩
    · rfl
    · exact absurd hl' (hx l c)
    · exact absurd (hyx ▸ hk') (hx k b)
    · exact h.own k l y b c hk' hl'
  · have hki : k ≠ i := by
      rintro rfl
      simp [hi] at hk
    exact hy k b (by simp only [Journals.start, Function.update_of_ne hki, hk])

variable [DecidableEq φ]

def write (j : Journals ι φ ρ) (i : ι) (x : φ) (written : List ρ) (buffer : Option (List ρ)) :
    Journals ι φ ρ where
  log := Function.update j.log i (buffer.map fun b => (x, b))
  content := Function.update j.content x (j.content x ++ written)
  pushed := j.pushed

def push (j : Journals ι φ ρ) (i : ι) (x : φ) (r : ρ) (written buffer : List ρ) :
    Journals ι φ ρ :=
  { j.write i x written (some buffer) with
    pushed := Function.update j.pushed x (j.pushed x ++ [r]) }

theorem Consistent.push (h : j.Consistent) (hi : j.log i = some (x, b)) {r : ρ}
    {written buffer : List ρ} (hw : written ++ buffer = b ++ [r]) :
    (j.push i x r written buffer).Consistent := by
  have hlog : ∀ {k y c}, (j.push i x r written buffer).log k = some (y, c) →
      (k = i ∧ y = x ∧ c = buffer) ∨ (k ≠ i ∧ y ≠ x ∧ j.log k = some (y, c)) := by
    intro k y c hk
    by_cases hki : k = i
    · subst hki
      simp only [Journals.push, write, Function.update_self, Option.map_some, Option.some.injEq,
        Prod.mk.injEq] at hk
      exact .inl ⟨rfl, hk.1.symm, hk.2.symm⟩
    · simp only [Journals.push, write, Function.update_of_ne hki] at hk
      exact .inr ⟨hki, h.ne_file hi hki hk, hk⟩
  refine ⟨fun k y c hk => ?_, fun k l y c d hk hl => ?_, fun y hy => ?_⟩
  · rcases hlog hk with ⟨-, rfl, rfl⟩ | ⟨-, hy, hk⟩
    · simp only [Journals.push, write, Function.update_self]
      rw [List.append_assoc, hw, ← List.append_assoc, h.held i y b hi]
    · simp only [Journals.push, write, Function.update_of_ne hy]
      exact h.held k y c hk
  · rcases hlog hk with ⟨rfl, rfl, -⟩ | ⟨-, hy, hk'⟩ <;>
      rcases hlog hl with ⟨rfl, hyx, -⟩ | ⟨-, hy', hl'⟩
    · rfl
    · exact absurd rfl hy'
    · exact absurd hyx hy
    · exact h.own k l y c d hk' hl'
  · have hyx : y ≠ x := by
      rintro rfl
      exact hy i buffer (by simp [Journals.push, write])
    simp only [Journals.push, write, Function.update_of_ne hyx]
    refine h.rest y fun k c hk => hy k c ?_
    have hki : k ≠ i := by
      rintro rfl
      rw [hi] at hk
      exact hyx (Prod.mk.inj (Option.some.inj hk)).1.symm
    simp only [Journals.push, write, Function.update_of_ne hki, hk]

/-- Write the buffer of a log and close it. -/
theorem Consistent.close (h : j.Consistent) (hi : j.log i = some (x, b)) :
    (j.write i x b none).Consistent := by
  have hlog : ∀ {k y c}, (j.write i x b none).log k = some (y, c) →
      y ≠ x ∧ j.log k = some (y, c) := by
    intro k y c hk
    by_cases hki : k = i
    · subst hki
      simp [write] at hk
    · simp only [write, Function.update_of_ne hki] at hk
      exact ⟨h.ne_file hi hki hk, hk⟩
  refine ⟨fun k y c hk => ?_, fun k l y c d hk hl => h.own k l y c d (hlog hk).2 (hlog hl).2,
    fun y hy => ?_⟩
  · obtain ⟨hy, hk⟩ := hlog hk
    simp only [write, Function.update_of_ne hy]
    exact h.held k y c hk
  · by_cases hyx : y = x
    · subst hyx
      simp only [write, Function.update_self]
      exact h.held i y b hi
    · simp only [write, Function.update_of_ne hyx]
      refine h.rest y fun k c hk => hy k c ?_
      have hki : k ≠ i := by
        rintro rfl
        rw [hi] at hk
        exact hyx (Prod.mk.inj (Option.some.inj hk)).1.symm
      simp only [write, Function.update_of_ne hki, hk]

end Journals
end FPSpy
