import FPSpy.Lib.Memory

/-!
# Words of a stack

Little-endian reads and writes of any number of bits, and a window of 8-byte slots that
does not wrap. Seen through a window, memory is a sequence of words: a write to a slot
replaces the low bits of that word and leaves the others, and no write to a slot
reaches memory above the window.
-/
namespace FPSpy

namespace Mem

def read : (k : Nat) → Mem → Addr → BitVec (8 * k)
  | 0, _, _ => 0#0
  | k + 1, m, a => read k m (a + 1#64) ++ m a

def write {w : Nat} (m : Mem) (a : Addr) (v : BitVec w) : Mem := fun x =>
  if 8 * (x - a).toNat < w then v.extractLsb' (8 * (x - a).toNat) 8 else m x

theorem getLsbD_read {k i : Nat} (m : Mem) (a : Addr) (h : i < 8 * k) :
    (read k m a).getLsbD i = (m (a + BitVec.ofNat 64 (i / 8))).getLsbD (i % 8) := by
  induction k generalizing a i with
  | zero => omega
  | succ k ih =>
    rw [read, BitVec.getLsbD_append]
    split_ifs with hi
    · rw [Nat.div_eq_of_lt hi, Nat.mod_eq_of_lt hi, BitVec.add_zero]
    · have hnext : a + 1#64 + BitVec.ofNat 64 ((i - 8) / 8) = a + BitVec.ofNat 64 (i / 8) := by
        rw [BitVec.add_assoc, ← BitVec.ofNat_add, show 1 + (i - 8) / 8 = i / 8 by omega]
      rw [ih (a + 1#64) (by omega), hnext, show (i - 8) % 8 = i % 8 by omega]

/-- A write leaves what lies above it. -/
theorem write_of_le {w : Nat} (m : Mem) {a x : Addr} (v : BitVec w) (h8 : 8 ∣ w)
    (h : a.toNat + w / 8 ≤ x.toNat) : m.write a v x = m x := by
  have hx := x.isLt
  rw [write, if_neg]
  rw [BitVec.toNat_sub]
  omega

end Mem

/-- The word `u` with its low bits replaced by `v`. -/
def overlay {w : Nat} (v : BitVec w) (u : BitVec 64) : BitVec 64 :=
  u >>> w <<< w ||| v.setWidth 64

theorem getLsbD_overlay {w i : Nat} (v : BitVec w) (u : BitVec 64) (h : i < 64) :
    (overlay v u).getLsbD i = if i < w then v.getLsbD i else u.getLsbD i := by
  simp only [overlay, BitVec.getLsbD_or, BitVec.getLsbD_shiftLeft, BitVec.getLsbD_ushiftRight,
    BitVec.getLsbD_setWidth, h, decide_true, Bool.true_and]
  split_ifs with hi
  · simp [hi]
  · rw [BitVec.getLsbD_of_ge v i (by omega)]
    simp [hi, show w + (i - w) = i by omega]

@[simp] theorem overlay_word (v u : BitVec 64) : overlay v u = v := by
  apply BitVec.eq_of_getLsbD_eq
  intro i hi
  rw [getLsbD_overlay v u hi, if_pos hi]

@[simp] theorem setWidth_overlay {w : Nat} (v : BitVec w) (u : BitVec 64) (h : w ≤ 64) :
    (overlay v u).setWidth w = v := by
  apply BitVec.eq_of_getLsbD_eq
  intro i hi
  rw [BitVec.getLsbD_setWidth, getLsbD_overlay v u (by omega), if_pos hi]
  simp [hi]

structure Window (n : Nat) where
  base : Addr
  fits : base.toNat + 8 * n ≤ 2 ^ 64

namespace Window

variable {n : Nat} (W : Window n)

def slot (k : Nat) : Addr := W.base + BitVec.ofNat 64 (8 * k)

def word (m : Mem) (k : Nat) : BitVec 64 := Mem.read 8 m (W.slot k)

def top : Nat := W.base.toNat + 8 * n

theorem toNat_slot {k : Nat} (h : k < n) : (W.slot k).toNat = W.base.toNat + 8 * k := by
  have hfits := W.fits
  rw [slot, BitVec.toNat_add, BitVec.toNat_ofNat]
  omega

/-- A displacement from one slot to another. -/
theorem slot_add {d e : Nat} {disp : Int} (h : (8 * e : Int) = 8 * d + disp) :
    W.slot d + BitVec.ofInt 64 disp = W.slot e := by
  have hdisp : BitVec.ofInt 64 (8 * d + disp) = BitVec.ofNat 64 (8 * e) := by
    rw [← h, ← BitVec.ofInt_natCast]
    rfl
  rw [slot, slot, BitVec.add_assoc, ← hdisp, BitVec.ofInt_add]
  congr 2

theorem slot_add_ofNat (d k : Nat) : W.slot d + BitVec.ofNat 64 (8 * k) = W.slot (d + k) := by
  rw [slot, slot, BitVec.add_assoc, ← BitVec.ofNat_add, ← Nat.mul_add]

theorem slot_succ {d : Nat} : W.slot d + 8#64 = W.slot (d + 1) := W.slot_add_ofNat d 1

theorem slot_sub {d : Nat} : W.slot (d + 1) - 8#64 = W.slot d := by
  rw [← W.slot_succ, BitVec.add_sub_cancel]

/-- How far a byte of slot `j` lies above the start of slot `k`. -/
theorem toNat_slot_sub {j k b : Nat} (hj : j < n) (hk : k < n) (hb : b < 8) :
    (W.slot j + BitVec.ofNat 64 b - W.slot k).toNat =
      if k ≤ j then 8 * (j - k) + b else 2 ^ 64 - 8 * (k - j) + b := by
  have hfits := W.fits
  rw [BitVec.toNat_sub, BitVec.toNat_add, BitVec.toNat_ofNat, W.toNat_slot hj, W.toNat_slot hk]
  split_ifs <;> omega

/-- A write to a slot replaces low bits of that word and no other word. -/
theorem word_write {w : Nat} (m : Mem) (v : BitVec w) {j k : Nat} (hj : j < n)
    (hk : k < n) (hw : w ≤ 64) (h8 : 8 ∣ w) :
    W.word (m.write (W.slot k) v) j =
      if j = k then overlay v (W.word m k) else W.word m j := by
  apply BitVec.eq_of_getLsbD_eq
  intro i hi
  have hfits := W.fits
  have hbyte := W.toNat_slot_sub hj hk (show i / 8 < 8 by omega)
  rw [word, Mem.getLsbD_read _ _ hi, Mem.write]
  split_ifs with hin heq heq
  · subst heq
    rw [if_pos le_rfl] at hbyte
    rw [getLsbD_overlay _ _ hi, if_pos (by omega), BitVec.getLsbD_extractLsb', hbyte]
    simp [Nat.mod_lt, Nat.div_add_mod]
  · split_ifs at hbyte <;> omega
  · subst heq
    rw [if_pos le_rfl] at hbyte
    rw [getLsbD_overlay _ _ hi, if_neg (by omega), word, Mem.getLsbD_read _ _ hi]
  · rw [word, Mem.getLsbD_read _ _ hi]

/-- Memory above the window is not written. -/
theorem write_above {w : Nat} (m : Mem) (v : BitVec w) {k : Nat} {x : Addr} (hk : k < n)
    (hw : w ≤ 64) (h8 : 8 ∣ w) (hx : W.top ≤ x.toNat) : m.write (W.slot k) v x = m x := by
  apply Mem.write_of_le m v h8
  rw [W.toNat_slot hk]
  rw [top] at hx
  omega

end Window
end FPSpy
