import Mathlib.Data.BitVec

/-!
# Byte memory and 32-bit words

Memory is a function from 64-bit addresses to bytes. A word is four bytes,
little-endian, at any address; addresses wrap. Two words are `Apart` when they
share no byte. A word write is undone by writing back the word that was read. A word
is two half-words, which may lie at any address as well.
-/
namespace FPSpy

abbrev Addr := BitVec 64

abbrev Mem := Addr → BitVec 8

namespace Mem

def read32 (m : Mem) (a : Addr) : BitVec 32 :=
  m (a + 3#64) ++ m (a + 2#64) ++ m (a + 1#64) ++ m a

def write32 (m : Mem) (a : Addr) (v : BitVec 32) : Mem := fun x =>
  if (x - a).toNat < 4 then v.extractLsb' (8 * (x - a).toNat) 8 else m x

def Apart (a b : Addr) : Prop := 4 ≤ (a - b).toNat ∧ 4 ≤ (b - a).toNat

instance (a b : Addr) : Decidable (Apart a b) := inferInstanceAs (Decidable (_ ∧ _))

theorem Apart.symm {a b : Addr} (h : Apart a b) : Apart b a := ⟨h.2, h.1⟩

/-- A word and the one that follows it. -/
theorem apart_next (a : Addr) : Apart (a + 4#64) a := by
  have ha := a.isLt
  simp only [Apart, BitVec.toNat_sub, BitVec.toNat_add, BitVec.toNat_ofNat]
  omega

/-- A byte of the word at `b` is not a byte of the word at `a`. -/
theorem Apart.not_mem {a b : Addr} (h : Apart a b) {k : Nat} (hk : k < 4) :
    ¬ (b + BitVec.ofNat 64 k - a).toNat < 4 := by
  obtain ⟨h₁, h₂⟩ := h
  have ha := a.isLt
  have hb := b.isLt
  simp only [BitVec.toNat_sub, BitVec.toNat_add, BitVec.toNat_ofNat] at *
  omega

theorem read32_congr {m n : Mem} {a : Addr}
    (h : ∀ k < 4, m (a + BitVec.ofNat 64 k) = n (a + BitVec.ofNat 64 k)) :
    read32 m a = read32 n a := by
  have h0 := h 0 (by omega)
  have h1 := h 1 (by omega)
  have h2 := h 2 (by omega)
  have h3 := h 3 (by omega)
  simp only [BitVec.add_zero] at h0
  simp only [read32, h0, h1, h2, h3]

theorem read32_write32_of_apart (m : Mem) {a b : Addr} (v : BitVec 32) (h : Apart a b) :
    read32 (write32 m a v) b = read32 m b := by
  apply read32_congr
  intro k hk
  simp only [write32, if_neg (h.not_mem hk)]

/-- The four bytes of a word put together again. -/
theorem extract_append (v : BitVec 32) :
    v.extractLsb' 24 8 ++ v.extractLsb' 16 8 ++ v.extractLsb' 8 8 ++ v.extractLsb' 0 8 = v := by
  apply BitVec.eq_of_getLsbD_eq
  intro i hi
  simp only [BitVec.getLsbD_append, BitVec.getLsbD_extractLsb']
  split_ifs with h₁ h₂ h₃ <;> simp <;> grind

@[simp] theorem read32_write32 (m : Mem) (a : Addr) (v : BitVec 32) :
    read32 (write32 m a v) a = v := by
  have h : ∀ k : Nat, k < 4 → (a + BitVec.ofNat 64 k - a).toNat = k := by
    intro k hk
    have ha := a.isLt
    simp only [BitVec.toNat_sub, BitVec.toNat_add, BitVec.toNat_ofNat]
    omega
  have h0 := h 0 (by omega)
  have h1 := h 1 (by omega)
  have h2 := h 2 (by omega)
  have h3 := h 3 (by omega)
  simp only [BitVec.add_zero] at h0
  simp only [read32, write32, h0, h1, h2, h3]
  exact extract_append v

theorem extract_read32 (m : Mem) (a : Addr) {k : Nat} (hk : k < 4) :
    (read32 m a).extractLsb' (8 * k) 8 = m (a + BitVec.ofNat 64 k) := by
  apply BitVec.eq_of_getLsbD_eq
  intro i hi
  have h : k = 0 ∨ k = 1 ∨ k = 2 ∨ k = 3 := by omega
  rcases h with rfl | rfl | rfl | rfl <;>
    simp only [read32, BitVec.getLsbD_append, BitVec.getLsbD_extractLsb', hi, decide_true,
      Bool.true_and, BitVec.add_zero] <;> grind

theorem write32_of_le (m : Mem) {a x : Addr} (v : BitVec 32) (h : 4 ≤ (x - a).toNat) :
    write32 m a v x = m x := if_neg (by omega)

/-- A word copied from another memory, byte by byte. -/
theorem write32_read32 (m n : Mem) (a x : Addr) :
    write32 m a (read32 n a) x = if (x - a).toNat < 4 then n x else m x := by
  unfold write32
  split_ifs with h
  · rw [extract_read32 n a h, BitVec.ofNat_toNat, BitVec.setWidth_eq, BitVec.add_comm,
      BitVec.sub_add_cancel]
  · rfl

/-- Writing back the word that a write replaced undoes the write. -/
@[simp] theorem write32_restore (m : Mem) (a : Addr) (v : BitVec 32) :
    write32 (write32 m a v) a (read32 m a) = m := by
  funext x
  rw [write32_read32]
  split_ifs with h
  · rfl
  · exact write32_of_le m v (by omega)

/-- The word that a write replaced is written back somewhere else. Memory is what it was exactly if
that place held the same word, and each byte of the write that stays is the one it replaced. -/
theorem write32_elsewhere_iff (m : Mem) (a b : Addr) (v : BitVec 32) :
    write32 (write32 m a v) b (read32 m a) = m ↔
      read32 m b = read32 m a ∧ ∀ k < 4, 4 ≤ (a + BitVec.ofNat 64 k - b).toNat →
        v.extractLsb' (8 * k) 8 = m (a + BitVec.ofNat 64 k) := by
  have hoffset : ∀ k < 4, (a + BitVec.ofNat 64 k - a).toNat = k := by
    intro k hk
    rw [BitVec.add_comm, BitVec.add_sub_cancel, BitVec.toNat_ofNat]
    omega
  constructor
  · intro h
    refine ⟨?_, fun k hk hout => ?_⟩
    · have hword := congrArg (read32 · b) h
      rw [read32_write32] at hword
      exact hword.symm
    · have hbyte := congrFun h (a + BitVec.ofNat 64 k)
      rw [write32_of_le _ _ hout] at hbyte
      rw [← hbyte, write32, hoffset k hk, if_pos hk]
  · rintro ⟨hword, hbytes⟩
    funext x
    rw [← hword, write32_read32]
    split_ifs with hin
    · rfl
    · by_cases hx : (x - a).toNat < 4
      · have hx' : a + BitVec.ofNat 64 (x - a).toNat = x := by
          rw [BitVec.ofNat_toNat, BitVec.setWidth_eq, BitVec.add_comm, BitVec.sub_add_cancel]
        have hbyte := hbytes _ hx (by rw [hx']; omega)
        rw [hx'] at hbyte
        rw [write32, if_pos hx, hbyte]
      · exact write32_of_le m v (by omega)

/-! ## Half-words -/

def read16 (m : Mem) (a : Addr) : BitVec 16 := m (a + 1#64) ++ m a

theorem extract_low_read32 (m : Mem) (a : Addr) :
    (read32 m a).extractLsb' 0 16 = read16 m a := by
  apply BitVec.eq_of_getLsbD_eq
  intro i hi
  grind [read32, read16]

theorem extract_high_read32 (m : Mem) (a : Addr) :
    (read32 m a).extractLsb' 16 16 = read16 m (a + 2#64) := by
  have hthree : a + 2#64 + 1#64 = a + 3#64 := by grind
  apply BitVec.eq_of_getLsbD_eq
  intro i hi
  grind [read32, read16]

theorem eq_of_halves {v w : BitVec 32} (hlow : v.extractLsb' 0 16 = w.extractLsb' 0 16)
    (hhigh : v.extractLsb' 16 16 = w.extractLsb' 16 16) : v = w := by
  apply BitVec.eq_of_getLsbD_eq
  intro i hi
  have hl := congrArg (·.getLsbD i) hlow
  have hh := congrArg (·.getLsbD (i - 16)) hhigh
  grind

/-- A word is its two halves. -/
theorem read32_eq_iff (m : Mem) (a : Addr) (w : BitVec 32) :
    read32 m a = w ↔
      read16 m a = w.extractLsb' 0 16 ∧ read16 m (a + 2#64) = w.extractLsb' 16 16 := by
  rw [← extract_low_read32, ← extract_high_read32]
  constructor
  · rintro rfl
    exact ⟨rfl, rfl⟩
  · rintro ⟨hlow, hhigh⟩
    exact eq_of_halves hlow hhigh

/-- Writing what is there already changes nothing. -/
theorem write32_self (m : Mem) (a : Addr) : write32 m a (read32 m a) = m := by
  funext x
  rw [write32_read32]
  split_ifs <;> rfl

end Mem
end FPSpy
