import Mathlib.Data.BitVec

/-!
# Byte strings

Words in little-endian order, and byte strings that are a sequence of chunks of one size.
-/
namespace FPSpy.Bytes

abbrev Byte := BitVec 8

def leBytes : Nat → Nat → List Byte
  | 0, _ => []
  | k + 1, n => BitVec.ofNat 8 n :: leBytes k (n / 256)

def leNat : List Byte → Nat
  | [] => 0
  | b :: bs => b.toNat + 256 * leNat bs

@[simp] theorem length_leBytes (k n : Nat) : (leBytes k n).length = k := by
  induction k generalizing n with
  | zero => rfl
  | succ k ih => simp [leBytes, ih]

theorem leNat_leBytes {k n : Nat} (h : n < 256 ^ k) : leNat (leBytes k n) = n := by
  induction k generalizing n with
  | zero =>
    simp only [Nat.pow_zero, Nat.lt_one_iff] at h
    simp [leBytes, leNat, h]
  | succ k ih =>
    have hdiv : n / 256 < 256 ^ k := by
      rw [Nat.pow_succ] at h
      exact Nat.div_lt_of_lt_mul (by omega)
    simp only [leBytes, leNat, ih hdiv, BitVec.toNat_ofNat]
    omega

/-- A word of `k` bytes is what its bytes say. -/
theorem ofNat_leNat_leBytes {w k : Nat} (hw : w = 8 * k) (v : BitVec w) :
    BitVec.ofNat w (leNat (leBytes k v.toNat)) = v := by
  have hv : v.toNat < 256 ^ k := lt_of_lt_of_eq v.isLt (by rw [hw, Nat.pow_mul])
  rw [leNat_leBytes hv]
  simp

theorem leNat_lt (bs : List Byte) : leNat bs < 256 ^ bs.length := by
  induction bs with
  | nil => simp [leNat]
  | cons b bs ih =>
    have hb := b.isLt
    simp only [leNat, List.length_cons, Nat.pow_succ]
    omega

/-- Bytes are those of their number. -/
theorem leBytes_leNat (bs : List Byte) : leBytes bs.length (leNat bs) = bs := by
  induction bs with
  | nil => rfl
  | cons b bs ih =>
    have hb := b.isLt
    have hdiv : (b.toNat + 256 * leNat bs) / 256 = leNat bs := by omega
    have hmod : BitVec.ofNat 8 (b.toNat + 256 * leNat bs) = b := by
      apply BitVec.eq_of_toNat_eq
      rw [BitVec.toNat_ofNat]
      omega
    simp only [leNat, List.length_cons, leBytes, hdiv, hmod, ih]

/-- The bytes of a word that was made from as many bytes. -/
theorem leBytes_ofNat_leNat {w k : Nat} (hw : w = 8 * k) {bs : List Byte} (h : bs.length = k) :
    leBytes k (BitVec.ofNat w (leNat bs)).toNat = bs := by
  have hlt : leNat bs < 2 ^ w := by
    rw [hw, Nat.pow_mul, ← h]
    exact leNat_lt bs
  rw [BitVec.toNat_ofNat, Nat.mod_eq_of_lt hlt, ← h, leBytes_leNat]

/-! ## Chunks -/

section Chunks

variable {α β : Type*} {f : α → List β} {k : Nat}

theorem length_flatMap_of_length (hf : ∀ a, (f a).length = k) (as : List α) :
    (as.flatMap f).length = k * as.length := by
  induction as with
  | nil => simp
  | cons a as ih => simp [List.flatMap_cons, hf, ih, Nat.mul_succ, Nat.add_comm]

/-- The `i`-th chunk of a sequence of chunks. -/
theorem take_drop_flatMap (hf : ∀ a, (f a).length = k) (as : List α) {i : Nat}
    (hi : i < as.length) : ((as.flatMap f).drop (k * i)).take k = f as[i] := by
  induction as generalizing i with
  | nil => simp at hi
  | cons a as ih =>
    cases i with
    | zero => simp [List.flatMap_cons, ← hf a]
    | succ i =>
      have hdrop : (f a ++ as.flatMap f).drop (k * (i + 1)) = (as.flatMap f).drop (k * i) := by
        rw [Nat.mul_succ, Nat.add_comm, ← List.drop_drop]
        simp [← hf a]
      simpa [List.flatMap_cons, hdrop] using ih (by simpa using hi)

theorem take_flatMap (hf : ∀ a, (f a).length = k) (as : List α) (i : Nat) :
    (as.flatMap f).take (k * i) = (as.take i).flatMap f := by
  induction as generalizing i with
  | nil => simp
  | cons a as ih =>
    cases i with
    | zero => simp
    | succ i =>
      have htake : k * (i + 1) = (f a).length + k * i := by rw [hf, Nat.mul_succ, Nat.add_comm]
      simp [List.flatMap_cons, htake, List.take_append, ih]

end Chunks
end FPSpy.Bytes
