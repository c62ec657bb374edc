import Mathlib.Data.List.Nodup
import Mathlib.Data.Set.Card

/-!
# Finite maps in slots

An array in which each slot holds a key, or is free, is a partial map from keys to slots: the
slot of a key is the one that holds it. A key that is put into a free slot is added to the
map, a key that is wiped from all slots is taken out of it, and the map has as many keys as
slots are in use.
-/
namespace FPSpy.SlotMap

variable {κ : Type*} {free k : κ} {keys : List κ} {owner : κ → Option Nat}

/-- The slots hold just the keys of the map, each where the map says. -/
structure Represents (free : κ) (keys : List κ) (owner : κ → Option Nat) : Prop where
  free_none : owner free = none
  slot_iff : ∀ k i, k ≠ free → (owner k = some i ↔ keys[i]? = some k)

theorem represents_replicate (free : κ) (n : Nat) :
    Represents free (List.replicate n free) fun _ => none where
  free_none := rfl
  slot_iff k i hk := by
    rw [List.getElem?_replicate]
    split_ifs
    · simp [Ne.symm hk]
    · simp

namespace Represents

variable (h : Represents free keys owner)
include h

theorem ne_free {i : Nat} (hk : owner k = some i) : k ≠ free := by
  rintro rfl
  rw [h.free_none] at hk
  cases hk

/-- No slot has two keys. -/
theorem injective {j : κ} {i : Nat} (hj : owner j = some i) (hk : owner k = some i) : j = k := by
  have hkeyj := (h.slot_iff j i (h.ne_free hj)).mp hj
  have hkeyk := (h.slot_iff k i (h.ne_free hk)).mp hk
  exact Option.some.inj (hkeyj.symm.trans hkeyk)

variable [DecidableEq κ]

/-- A search from the start finds the slot of a key. -/
theorem find (hk : k ≠ free) : keys.findIdx? (· = k) = owner k := by
  cases hfind : keys.findIdx? (· = k) with
  | none =>
    rw [List.findIdx?_eq_none_iff] at hfind
    cases howner : owner k with
    | none => rfl
    | some i =>
      have hmem := List.mem_of_getElem? ((h.slot_iff k i hk).mp howner)
      simpa using hfind k hmem
  | some i =>
    obtain ⟨hi, hki, -⟩ := List.findIdx?_eq_some_iff_getElem.mp hfind
    refine ((h.slot_iff k i hk).mpr ?_).symm
    rw [List.getElem?_eq_getElem hi]
    simpa using hki

/-- A new key in a free slot. -/
theorem set (hk : k ≠ free) (hnew : owner k = none) {i : Nat} (hi : keys[i]? = some free) :
    Represents free (keys.set i k) (Function.update owner k (some i)) where
  free_none := by rw [Function.update_of_ne hk.symm, h.free_none]
  slot_iff j n hj := by
    have hlt : i < keys.length := (List.getElem?_eq_some_iff.mp hi).1
    rw [List.getElem?_set]
    by_cases hjk : j = k
    · subst hjk
      rw [Function.update_self]
      by_cases hin : i = n
      · simp [← hin, hlt]
      · have hnot : keys[n]? ≠ some j := by
          intro hn
          rw [(h.slot_iff j n hj).mpr hn] at hnew
          cases hnew
        simp [hin, hnot]
    · rw [Function.update_of_ne hjk, h.slot_iff j n hj]
      by_cases hin : i = n
      · subst hin
        rw [hi]
        simp [hlt, Ne.symm hjk, Ne.symm hj]
      · simp [hin]

/-- A key that is wiped from its slot. -/
theorem clear {i : Nat} (hk : owner k = some i) :
    Represents free (keys.set i free) (Function.update owner k none) where
  free_none := by rw [Function.update_of_ne (h.ne_free hk).symm, h.free_none]
  slot_iff j n hj := by
    have hi := (h.slot_iff k i (h.ne_free hk)).mp hk
    have hlt : i < keys.length := (List.getElem?_eq_some_iff.mp hi).1
    rw [List.getElem?_set]
    by_cases hjk : j = k
    · subst hjk
      rw [Function.update_self]
      by_cases hin : i = n
      · simp [← hin, hlt, Ne.symm hj]
      · have hnot : keys[n]? ≠ some j := by
          intro hn
          have hslot := (h.slot_iff j n hj).mpr hn
          exact hin (Option.some.inj (hk.symm.trans hslot))
        simp [hin, hnot]
    · rw [Function.update_of_ne hjk, h.slot_iff j n hj]
      by_cases hin : i = n
      · subst hin
        rw [hi]
        simp [hlt, Ne.symm hjk, Ne.symm hj]
      · simp [hin]

/-- A key that is wiped from every slot. -/
theorem erase (hk : k ≠ free) :
    Represents free (keys.map fun x => if x = k then free else x)
      (Function.update owner k none) where
  free_none := by rw [Function.update_of_ne hk.symm, h.free_none]
  slot_iff j n hj := by
    rw [List.getElem?_map]
    by_cases hjk : j = k
    · subst hjk
      rw [Function.update_self]
      cases hn : keys[n]? with
      | none => simp
      | some x =>
        simp only [Option.map_some, Option.some.injEq, reduceCtorEq, false_iff]
        split_ifs with hx
        · exact hk.symm
        · exact hx
    · rw [Function.update_of_ne hjk, h.slot_iff j n hj]
      cases hn : keys[n]? with
      | none => simp
      | some x =>
        simp only [Option.map_some, Option.some.injEq]
        split_ifs with hx
        · simp [hx, Ne.symm hjk, Ne.symm hj]
        · rfl

/-- The keys in use are the keys of the map, and none is there twice. -/
theorem mem_filter_iff : k ∈ keys.filter (· ≠ free) ↔ owner k ≠ none := by
  rw [List.mem_filter, List.mem_iff_getElem?]
  constructor
  · rintro ⟨⟨i, hi⟩, hk⟩
    rw [(h.slot_iff k i (by simpa using hk)).mpr hi]
    simp
  · intro hk
    obtain ⟨i, hi⟩ := Option.ne_none_iff_exists'.mp hk
    exact ⟨⟨i, (h.slot_iff k i (h.ne_free hi)).mp hi⟩, by simpa using h.ne_free hi⟩

theorem nodup_filter : (keys.filter (· ≠ free)).Nodup := by
  have hpair : keys.Pairwise fun a b => a = b → a = free := by
    rw [List.pairwise_iff_getElem]
    intro i j hi hj hij heq
    by_contra hne
    have hslot := (h.slot_iff keys[i] i hne).mpr (List.getElem?_eq_getElem hi)
    rw [(h.slot_iff keys[i] j hne).mpr (by rw [List.getElem?_eq_getElem hj, heq])] at hslot
    have := Option.some.inj hslot
    omega
  refine List.Pairwise.filter _ hpair |>.imp_of_mem ?_
  intro a b ha _ hab heq
  have hne : a ≠ free := by simpa using (List.mem_filter.mp ha).2
  exact hne (hab heq)

/-- All slots are in use exactly if the map has as many keys as there are slots. -/
theorem ncard_eq_length_iff : {k | owner k ≠ none}.ncard = keys.length ↔ free ∉ keys := by
  have hset : {k | owner k ≠ none} = ((keys.filter (· ≠ free)).toFinset : Set κ) := by
    ext k
    rw [Set.mem_ofPred_eq, Finset.mem_coe, List.mem_toFinset, h.mem_filter_iff]
  rw [hset, Set.ncard_coe_finset, List.toFinset_card_of_nodup h.nodup_filter,
    List.length_filter_eq_length_iff]
  constructor
  · intro hall hmem
    simpa using hall free hmem
  · intro hnot k hmem
    simp only [ne_eq, decide_not, Bool.not_eq_eq_eq_not, Bool.not_true, decide_eq_false_iff_not]
    rintro rfl
    exact hnot hmem

end Represents
end FPSpy.SlotMap
