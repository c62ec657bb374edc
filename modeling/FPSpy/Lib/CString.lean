import Mathlib.Data.Nat.Log
import Mathlib.Data.BitVec

/-!
# Strings in arrays of fixed size

A string is the list of its bytes before the terminating zero. `Buf cap` is a `char` array of `cap`
bytes that holds one, so the string is shorter than the array. `strcpy`, `strcat` and `sprintf` do
not look at the size; here they are `none` where they would write behind the end. Since strings
only grow, a chain of appends overruns exactly if its result does not fit.

`sprintf` knows the directives `%s`, `%lu` and `%d`.
-/
namespace FPSpy.CString

structure Buf (cap : Nat) where
  str : List Char
  fits : str.length < cap

def strcpy (cap : Nat) (s : List Char) : Option (Buf cap) :=
  if h : s.length < cap then some ⟨s, h⟩ else none

variable {cap : Nat} {s : List Char}

def Buf.strcat (b : Buf cap) (s : List Char) : Option (Buf cap) := strcpy cap (b.str ++ s)

theorem isSome_strcpy_iff : (strcpy cap s).isSome = true ↔ s.length + 1 ≤ cap := by
  unfold strcpy
  grind

/-- Copying and appending is copying all at once. -/
theorem strcpy_bind_strcat (s t : List Char) :
    (strcpy cap s).bind (·.strcat t) = strcpy cap (s ++ t) := by
  by_cases hs : s.length < cap
  · simp [strcpy, hs, Buf.strcat]
  · have hst : ¬ (s ++ t).length < cap := by grind
    simp only [strcpy, dif_neg hs, dif_neg hst, Option.bind_none]

theorem Buf.strcat_bind_strcat (b : Buf cap) (s t : List Char) :
    (b.strcat s).bind (·.strcat t) = b.strcat (s ++ t) := by
  simp only [Buf.strcat, ← List.append_assoc]
  exact strcpy_bind_strcat _ _

/-! ## Formatted output -/

inductive Arg where
  | s (text : List Char)
  | lu (v : BitVec 64)
  | d (v : BitVec 32)

def Arg.directive : Arg → List Char
  | .s _ => "%s".toList
  | .lu _ => "%lu".toList
  | .d _ => "%d".toList

def Arg.text : Arg → List Char
  | .s text => text
  | .lu v => Nat.toDigits 10 v.toNat
  | .d v => (if v.toInt < 0 then ['-'] else []) ++ Nat.toDigits 10 v.toInt.natAbs

/-- The text that a format and its arguments describe; `none` if they do not match. -/
def format : List Char → List Arg → Option (List Char)
  | fmt, [] => if '%' ∈ fmt then none else some fmt
  | fmt, arg :: args =>
    let rest := fmt.dropWhile (· ≠ '%')
    if arg.directive <+: rest then
      (format (rest.drop arg.directive.length) args).map
        (fmt.takeWhile (· ≠ '%') ++ arg.text ++ ·)
    else none

/-- A literal part without directives, and one directive. -/
theorem format_cons {lit : List Char} (hlit : '%' ∉ lit) (arg : Arg) (fmt : List Char)
    (args : List Arg) :
    format (lit ++ arg.directive ++ fmt) (arg :: args) =
      (format fmt args).map (lit ++ arg.text ++ ·) := by
  have hall : ∀ c ∈ lit, (decide (c ≠ '%')) = true := by
    intro c hc
    grind
  obtain ⟨cs, hcs⟩ : ∃ cs, arg.directive = '%' :: cs := by
    cases arg <;> exact ⟨_, rfl⟩
  have htake : (lit ++ arg.directive ++ fmt).takeWhile (· ≠ '%') = lit := by
    rw [List.append_assoc, List.takeWhile_append_of_pos hall, hcs]
    simp
  have hdrop : (lit ++ arg.directive ++ fmt).dropWhile (· ≠ '%') = arg.directive ++ fmt := by
    rw [List.append_assoc, List.dropWhile_append_of_pos hall, hcs]
    simp
  simp only [format, htake, hdrop, List.prefix_append, if_true, List.drop_left]

theorem format_nil {fmt : List Char} (h : '%' ∉ fmt) : format fmt [] = some fmt := if_neg h

def sprintf (cap : Nat) (fmt : List Char) (args : List Arg) : Option (Buf cap) :=
  (format fmt args).bind (strcpy cap)

theorem isSome_sprintf_iff {fmt : List Char} {args : List Arg} :
    (sprintf cap fmt args).isSome = true ↔ ∃ s, format fmt args = some s ∧ s.length + 1 ≤ cap := by
  unfold sprintf
  cases format fmt args <;> simp [isSome_strcpy_iff]

/-! ## Decimal numbers -/

theorem length_toDigits (n : Nat) : (Nat.toDigits 10 n).length = Nat.log 10 n + 1 := by
  have hpos := Nat.length_toDigits_pos (b := 10) (n := n)
  have hle : ∀ k, (Nat.toDigits 10 n).length ≤ k + 1 ↔ Nat.log 10 n ≤ k := by
    intro k
    rw [Nat.length_toDigits_le_iff (by decide) (by omega), ← Nat.lt_succ_iff]
    rcases Nat.eq_zero_or_pos n with rfl | hn
    · apply iff_of_true (Nat.pow_pos (by decide))
      rw [Nat.log_zero_right]
      omega
    · rw [Nat.log_lt_iff_lt_pow (by decide) (by omega)]
  have hlow := hle (Nat.log 10 n)
  have hhigh := hle ((Nat.toDigits 10 n).length - 1)
  omega

/-- How many bytes a number takes: its digits, and a sign if it is negative. -/
def decimalWidth (n : Int) : Nat := (if n < 0 then 1 else 0) + (Nat.log 10 n.natAbs + 1)

theorem length_text_lu (v : BitVec 64) : (Arg.lu v).text.length = decimalWidth v.toNat := by
  have hsign : ¬ (v.toNat : Int) < 0 := by omega
  rw [Arg.text, length_toDigits, decimalWidth, if_neg hsign, Int.natAbs_natCast, Nat.zero_add]

theorem length_text_d (v : BitVec 32) : (Arg.d v).text.length = decimalWidth v.toInt := by
  rw [Arg.text, List.length_append, length_toDigits, decimalWidth]
  split_ifs <;> rfl

theorem decimalWidth_le {n : Int} {k : Nat} (hn : n.natAbs < 10 ^ (k + 1)) :
    decimalWidth n ≤ (if n < 0 then 1 else 0) + (k + 1) := by
  have hlog := Nat.log_lt_of_lt_pow' (by omega) hn
  unfold decimalWidth
  omega

end FPSpy.CString
