import Mathlib.Data.List.Pairwise

/-!
# Arrays of slots

An array is searched from its start, and what is found is changed in place:
`modifyFirst p f` applies `f` to the first slot that satisfies `p`, and does nothing if there
is none. A search for other slots does not see the change.
-/
namespace FPSpy.Slots

variable {α : Type*} {p q : α → Bool} {f : α → α} {l : List α}

def modifyFirst (p : α → Bool) (f : α → α) (l : List α) : List α :=
  l.replaceF fun a => if p a then some (f a) else none

theorem modifyFirst_cons_of_pos {a : α} (h : p a = true) :
    modifyFirst p f (a :: l) = f a :: l := by
  simp [modifyFirst, h]

theorem modifyFirst_cons_of_neg {a : α} (h : p a = false) :
    modifyFirst p f (a :: l) = a :: modifyFirst p f l := by
  simp [modifyFirst, h]

theorem modifyFirst_of_findIdx?_none (h : l.findIdx? p = none) : modifyFirst p f l = l := by
  rw [List.findIdx?_eq_none_iff] at h
  induction l with
  | nil => rfl
  | cons a l ih =>
    rw [modifyFirst_cons_of_neg (h a List.mem_cons_self),
      ih fun b hb => h b (List.mem_cons_of_mem a hb)]

/-- The slot that is changed is the one that a search gives. -/
theorem modifyFirst_of_findIdx? {i : Nat} (h : l.findIdx? p = some i) :
    modifyFirst p f l = l.modify i f := by
  induction l generalizing i with
  | nil => simp at h
  | cons a l ih =>
    rw [List.findIdx?_cons] at h
    cases ha : p a with
    | true =>
      obtain rfl : 0 = i := by simpa [ha] using h
      rw [modifyFirst_cons_of_pos ha, List.modify_zero_cons]
    | false =>
      obtain ⟨j, hj, rfl⟩ : ∃ j, l.findIdx? p = some j ∧ j + 1 = i := by simpa [ha] using h
      rw [modifyFirst_cons_of_neg ha, ih hj, List.modify_succ_cons]

/-- A part of every slot is changed as the slots are. -/
theorem map_modifyFirst {β : Type*} {g : α → β} {r : β → Bool} {h : β → β}
    (hp : ∀ a, p a = r (g a)) (hf : ∀ a, g (f a) = h (g a)) :
    (modifyFirst p f l).map g = modifyFirst r h (l.map g) := by
  induction l with
  | nil => rfl
  | cons a l ih =>
    cases ha : p a with
    | true =>
      rw [modifyFirst_cons_of_pos ha, List.map_cons, List.map_cons,
        modifyFirst_cons_of_pos ((hp a).symm.trans ha), hf]
    | false =>
      rw [modifyFirst_cons_of_neg ha, List.map_cons, List.map_cons,
        modifyFirst_cons_of_neg ((hp a).symm.trans ha), ih]

/-- The slot that was changed is found, if it still satisfies `p`. -/
theorem find?_modifyFirst_self (hp : ∀ a, p a = true → p (f a) = true) :
    (modifyFirst p f l).find? p = (l.find? p).map f := by
  induction l with
  | nil => rfl
  | cons a l ih =>
    by_cases h : p a = true
    · rw [modifyFirst_cons_of_pos h, List.find?_cons_of_pos h, List.find?_cons_of_pos (hp a h)]
      rfl
    · rw [modifyFirst_cons_of_neg (by simpa using h), List.find?_cons_of_neg h,
        List.find?_cons_of_neg h, ih]

/-- A search for something else finds what it found before. -/
theorem find?_modifyFirst_of_disjoint (hp : ∀ a, p a = true → q a = false ∧ q (f a) = false) :
    (modifyFirst p f l).find? q = l.find? q := by
  induction l with
  | nil => rfl
  | cons a l ih =>
    by_cases h : p a = true
    · obtain ⟨ha, hfa⟩ := hp a h
      rw [modifyFirst_cons_of_pos h, List.find?_cons_of_neg (by simp [hfa]),
        List.find?_cons_of_neg (by simp [ha])]
    · rw [modifyFirst_cons_of_neg (by simpa using h)]
      by_cases hq : q a = true
      · rw [List.find?_cons_of_pos hq, List.find?_cons_of_pos hq]
      · rw [List.find?_cons_of_neg hq, List.find?_cons_of_neg hq, ih]

/-- A slot that is given a new meaning is found under it, if nothing was before. -/
theorem find?_modifyFirst_new (hnone : l.find? q = none) (hfind : ∃ a, l.find? p = some a)
    (hf : ∀ a, q (f a) = true) : (modifyFirst p f l).find? q = (l.find? p).map f := by
  induction l with
  | nil => simp at hfind
  | cons a l ih =>
    have hqa : ¬ q a = true := by
      intro h
      simp [List.find?_cons_of_pos h] at hnone
    rw [List.find?_cons_of_neg hqa] at hnone
    by_cases h : p a = true
    · rw [modifyFirst_cons_of_pos h, List.find?_cons_of_pos (hf a), List.find?_cons_of_pos h]
      rfl
    · rw [List.find?_cons_of_neg h] at hfind
      rw [modifyFirst_cons_of_neg (by simpa using h), List.find?_cons_of_neg hqa,
        List.find?_cons_of_neg h, ih hnone hfind]

/-- The slot that was found is there as it was changed. -/
theorem modifyFirst_mem {a : α} (h : l.find? p = some a) : f a ∈ modifyFirst p f l := by
  induction l with
  | nil => simp at h
  | cons b l ih =>
    by_cases hb : p b = true
    · rw [List.find?_cons_of_pos hb] at h
      rw [modifyFirst_cons_of_pos hb, Option.some.inj h]
      exact List.mem_cons_self
    · rw [List.find?_cons_of_neg hb] at h
      rw [modifyFirst_cons_of_neg (by simpa using hb)]
      exact List.mem_cons_of_mem b (ih h)

/-- Every slot is an old one, or the one that was changed. -/
theorem mem_modifyFirst {c : α} (h : c ∈ modifyFirst p f l) :
    c ∈ l ∨ ∃ a ∈ l, p a = true ∧ c = f a := by
  induction l with
  | nil => simp [modifyFirst] at h
  | cons a l ih =>
    by_cases hp : p a = true
    · rw [modifyFirst_cons_of_pos hp, List.mem_cons] at h
      rcases h with rfl | h
      · exact .inr ⟨a, List.mem_cons_self, hp, rfl⟩
      · exact .inl (List.mem_cons_of_mem a h)
    · rw [modifyFirst_cons_of_neg (by simpa using hp), List.mem_cons] at h
      rcases h with rfl | h
      · exact .inl List.mem_cons_self
      · rcases ih h with h | ⟨b, hb, hpb, rfl⟩
        · exact .inl (List.mem_cons_of_mem a h)
        · exact .inr ⟨b, List.mem_cons_of_mem a hb, hpb, rfl⟩

/-- A relation between all slots survives a change that keeps it for the changed slot. -/
theorem pairwise_modifyFirst {r : α → α → Prop} (h : l.Pairwise r)
    (hleft : ∀ a b, b ∈ l → p a = true → r a b → r (f a) b)
    (hright : ∀ a b, a ∈ l → p b = true → r a b → r a (f b)) :
    (modifyFirst p f l).Pairwise r := by
  induction l with
  | nil => exact h
  | cons a l ih =>
    obtain ⟨ha, hl⟩ := List.pairwise_cons.mp h
    by_cases hp : p a = true
    · rw [modifyFirst_cons_of_pos hp, List.pairwise_cons]
      exact ⟨fun b hb => hleft a b (List.mem_cons_of_mem a hb) hp (ha b hb), hl⟩
    · rw [modifyFirst_cons_of_neg (by simpa using hp), List.pairwise_cons]
      refine ⟨fun b hb => ?_, ih hl (fun c b hb => hleft c b (List.mem_cons_of_mem a hb))
        fun c b hc => hright c b (List.mem_cons_of_mem a hc)⟩
      rcases mem_modifyFirst hb with hb | ⟨c, hc, hpc, rfl⟩
      · exact ha b hb
      · exact hright a c List.mem_cons_self hpc (ha c hc)

/-- A search does not see a change of the slots it passes over. -/
theorem find?_map_of_disjoint (hq : ∀ a, q a = true → f a = a)
    (hf : ∀ a, q a = false → q (f a) = false) : (l.map f).find? q = l.find? q := by
  induction l with
  | nil => rfl
  | cons a l ih =>
    by_cases h : q a = true
    · rw [List.map_cons, hq a h, List.find?_cons_of_pos h, List.find?_cons_of_pos h]
    · have hfa := hf a (by simpa using h)
      rw [List.map_cons, List.find?_cons_of_neg (by simp [hfa]), List.find?_cons_of_neg h, ih]

end FPSpy.Slots
