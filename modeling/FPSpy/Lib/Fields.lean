import FPSpy.Lib.Bits

/-!
# Packed fields

A field of a word is where it lies, how a value is packed into it, and how it is read back.
Everything else follows: what is set is read, nothing outside changes, a second setting
replaces the first, and fields that do not meet are independent of each other.
-/
namespace FPSpy

structure PackedField (w : Nat) (α : Type*) where
  mask : BitVec w
  pack : α → BitVec w
  get : BitVec w → α
  pack_subset : ∀ a, pack a &&& ~~~mask = 0
  get_congr : ∀ x y, x &&& mask = y &&& mask → get x = get y
  get_pack : ∀ a, get (pack a) = a

namespace PackedField

variable {w : Nat} {α β : Type*} (F : PackedField w α) {G : PackedField w β}

def set (x : BitVec w) (a : α) : BitVec w := (x &&& ~~~F.mask) ||| F.pack a

/-- The field holds the value that was set. -/
theorem set_and_mask (x : BitVec w) (a : α) : F.set x a &&& F.mask = F.pack a := by
  rw [set, BitVec.and_comm, BitVec.and_or_distrib_left, BitVec.and_comm _ (x &&& _),
    Bits.andNot_and_self, BitVec.and_comm, Bits.and_of_subset (F.pack_subset a)]
  exact BitVec.zero_or

/-- A part of the word that does not meet the field stays as it was. -/
theorem set_and_of_disjoint (x : BitVec w) (a : α) {k : BitVec w} (h : F.mask &&& k = 0) :
    F.set x a &&& k = x &&& k := by
  have hpack : F.pack a &&& k = 0 := Bits.disjoint_of_subset (F.pack_subset a) h
  rw [set, Bits.or_and_of_disjoint _ hpack, Bits.andNot_and_of_disjoint _ h]

theorem set_outside (x : BitVec w) (a : α) : F.set x a &&& ~~~F.mask = x &&& ~~~F.mask := by
  apply F.set_and_of_disjoint
  simp

theorem get_set (x : BitVec w) (a : α) : F.get (F.set x a) = a := by
  have hfield : F.set x a &&& F.mask = F.pack a &&& F.mask := by
    rw [set_and_mask, Bits.and_of_subset (F.pack_subset a)]
  rw [F.get_congr _ _ hfield, F.get_pack]

/-- The second setting overrides the first. -/
theorem set_set (x : BitVec w) (a b : α) : F.set (F.set x a) b = F.set x b := by
  have houtside := F.set_outside x a
  rw [set, houtside, ← set]

/-- A field that does not meet this one is read as before. -/
theorem get_set_of_disjoint (h : F.mask &&& G.mask = 0) (x : BitVec w) (a : α) :
    G.get (F.set x a) = G.get x := by
  apply G.get_congr
  exact F.set_and_of_disjoint x a h

/-- Fields that do not meet are set in either order. -/
theorem set_comm (h : F.mask &&& G.mask = 0) (x : BitVec w) (a : α) (b : β) :
    F.set (G.set x b) a = G.set (F.set x a) b := by
  have hpack : G.pack b &&& F.mask = 0 :=
    Bits.disjoint_of_subset (G.pack_subset b) (by rwa [BitVec.and_comm])
  have hpack' : F.pack a &&& G.mask = 0 := Bits.disjoint_of_subset (F.pack_subset a) h
  have hkeep : ∀ {y p m : BitVec w}, p &&& m = 0 → (y ||| p) &&& ~~~m = (y &&& ~~~m) ||| p := by
    intro y p m hpm
    rw [BitVec.and_comm, BitVec.and_or_distrib_left, BitVec.and_comm, BitVec.and_comm _ p,
      Bits.andNot_eq_self hpm]
  simp only [set, hkeep hpack, hkeep hpack']
  rw [BitVec.or_assoc, BitVec.or_assoc, BitVec.or_comm (G.pack b), BitVec.and_assoc,
    BitVec.and_assoc, BitVec.and_comm (~~~G.mask)]

end PackedField
end FPSpy
