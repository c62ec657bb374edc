import FPSpy.Monitor.Originals

/-!
# Numeric settings

`fpspy_init` hands the text of `FPSPY_SAMPLE` to `atoi` and keeps whatever comes out. In glibc
that is `strtol`, which stops at the largest and at the smallest `long`, cut down to an `int`.
So every text has a value; one that starts with no number has the value 0.
-/
namespace FPSpy

open Setting (isspace)

def strtol (s : List Char) : Int :=
  let s := s.dropWhile isspace
  let negative := s.head? = some '-'
  let s := match s with
    | '+' :: rest | '-' :: rest => rest
    | s => s
  let value : Int := Nat.ofDigitChars 10 (s.takeWhile Char.isDigit) 0
  if negative then max (-value) (-2 ^ 63) else min value (2 ^ 63 - 1)

def atoi (s : List Char) : BitVec 32 := BitVec.ofInt 32 (strtol s)

example : atoi " -0012x".toList = -12#32 := by decide

example : atoi "4294967296".toList = 0#32 := by decide

def Config.readSample {A : Arch} (cfg : Config A) (s : List Char) : Config A :=
  { cfg with samplePeriod := atoi s }

/-- A digit is no blank. -/
theorem not_isspace_of_isDigit {c : Char} (h : c.isDigit = true) : isspace c = false := by
  have hle : 48 ≤ c.toNat := by
    simp only [Char.isDigit, Bool.and_eq_true, decide_eq_true_eq, ge_iff_le] at h
    exact UInt32.le_iff_toNat_le.mp h.1
  have hblank : c ≠ ' ' := by
    rintro rfl
    exact absurd h (by decide)
  simp only [isspace, hblank, false_or, decide_eq_false_iff_not]
  omega

end FPSpy
