import Mathlib.Algebra.Group.Nat.Defs
import Mathlib.Data.List.TakeWhile
import Mathlib.Logic.Function.Basic

/-!
# Lines and columns

A text is cut into words at its runs of blanks and into lines at its newlines. Numbers of a
known width are printed with all their digits, so that a column stands for one number.
-/
namespace FPSpy.Columns

/-! ## Runs -/

section Runs

variable {α : Type*} {p : α → Bool} {w rest : List α}

/-- A run ends where what follows does not belong to it. -/
theorem takeWhile_run (hw : ∀ c ∈ w, p c = true) (hrest : ∀ c ∈ rest.head?, p c = false) :
    (w ++ rest).takeWhile p = w := by
  rw [List.takeWhile_append_of_pos hw]
  cases rest with
  | nil => simp
  | cons c rest => simp [hrest c rfl]

theorem dropWhile_run (hw : ∀ c ∈ w, p c = true) (hrest : ∀ c ∈ rest.head?, p c = false) :
    (w ++ rest).dropWhile p = rest := by
  rw [List.dropWhile_append_of_pos hw]
  cases rest with
  | nil => simp
  | cons c rest => simp [hrest c rfl]

end Runs

/-! ## Words -/

section Words

variable {α : Type*} (blank : α → Bool)

/-- The words between the runs of blanks. A text that starts or ends with a blank has an empty word
there. -/
def split (s : List α) : List (List α) :=
  match _hs : s.dropWhile (!blank ·) with
  | [] => [s]
  | _ :: rest => s.takeWhile (!blank ·) :: split (rest.dropWhile blank)
termination_by s.length
decreasing_by
  have hlen := List.length_dropWhile_le (!blank ·) s
  have hrest := List.length_dropWhile_le blank rest
  simp only [_hs, List.length_cons] at hlen
  omega

variable {blank} {w sep s : List α}

/-- A text without blanks is one word. -/
theorem split_word (hw : ∀ c ∈ w, blank c = false) : split blank w = [w] := by
  have hnone : w.dropWhile (!blank ·) = [] :=
    List.dropWhile_eq_nil_iff.mpr fun c hc => by simp [hw c hc]
  rw [split]
  split
  · rfl
  · next hsome => simp [hnone] at hsome

/-- A word, a run of blanks, and the other words. -/
theorem split_append (hw : ∀ c ∈ w, blank c = false) (hsep : ∀ c ∈ sep, blank c = true)
    (hne : sep ≠ []) (hs : ∀ c ∈ s.head?, blank c = false) :
    split blank (w ++ (sep ++ s)) = w :: split blank s := by
  obtain ⟨b, bs, rfl⟩ := List.exists_cons_of_ne_nil hne
  have hb : blank b = true := hsep b List.mem_cons_self
  have hwords : ∀ c ∈ w, (!blank c) = true := fun c hc => by simp [hw c hc]
  have hstop : ∀ c ∈ (b :: bs ++ s).head?, (!blank c) = false := by simp [hb]
  have htake : (w ++ (b :: bs ++ s)).takeWhile (!blank ·) = w := takeWhile_run hwords hstop
  have hdrop : (w ++ (b :: bs ++ s)).dropWhile (!blank ·) = b :: (bs ++ s) :=
    dropWhile_run hwords hstop
  have hrest : (bs ++ s).dropWhile blank = s :=
    dropWhile_run (fun c hc => hsep c (List.mem_cons_of_mem _ hc)) hs
  rw [split]
  split
  · next hnone =>
    rw [hdrop] at hnone
    cases hnone
  · next hsome =>
    rw [hdrop] at hsome
    obtain ⟨-, rfl⟩ := List.cons.inj hsome
    rw [htake, hrest]

theorem mem_intercalate {ws : List (List α)} {c : α} (h : c ∈ sep.intercalate ws) :
    c ∈ sep ∨ ∃ w ∈ ws, c ∈ w := by
  induction ws with
  | nil => simp [List.intercalate] at h
  | cons w ws ih =>
    cases ws with
    | nil => exact .inr ⟨w, List.mem_cons_self, by simpa [List.intercalate] using h⟩
    | cons v ws =>
      rw [List.intercalate_cons_cons, List.append_assoc, List.mem_append, List.mem_append] at h
      rcases h with h | h | h
      · exact .inr ⟨w, List.mem_cons_self, h⟩
      · exact .inl h
      · exact (ih h).imp_right fun ⟨u, hu, hc⟩ => ⟨u, List.mem_cons_of_mem _ hu, hc⟩

/-- The words come back from a line that is made of them. -/
theorem split_intercalate (hsep : ∀ c ∈ sep, blank c = true) (hne : sep ≠ []) {ws : List (List α)}
    (hws : ∀ w ∈ ws, w ≠ [] ∧ ∀ c ∈ w, blank c = false) (hnil : ws ≠ []) :
    split blank (sep.intercalate ws) = ws := by
  induction ws with
  | nil => exact absurd rfl hnil
  | cons w ws ih =>
    obtain ⟨hfirst, hrest⟩ := List.forall_mem_cons.mp hws
    cases ws with
    | nil => simpa [List.intercalate] using split_word hfirst.2
    | cons v ws =>
      obtain ⟨⟨hv, hvblank⟩, -⟩ := List.forall_mem_cons.mp hrest
      obtain ⟨c, cs, rfl⟩ := List.exists_cons_of_ne_nil hv
      rw [List.intercalate_cons_cons, List.append_assoc, split_append hfirst.2 hsep hne,
        ih hrest (List.cons_ne_nil _ _)]
      intro d hd
      apply hvblank
      cases ws <;> simp_all [List.intercalate]

end Words

/-! ## Lines -/

def lines (s : List Char) : List (List Char) :=
  match _hs : s.dropWhile (· ≠ '\n') with
  | [] => if s = [] then [] else [s]
  | _ :: rest => s.takeWhile (· ≠ '\n') :: lines rest
termination_by s.length
decreasing_by
  have hlen := List.length_dropWhile_le (· ≠ '\n') s
  simp only [_hs, List.length_cons] at hlen
  omega

theorem lines_cons {l : List Char} (hl : '\n' ∉ l) (s : List Char) :
    lines (l ++ '\n' :: s) = l :: lines s := by
  have hall : ∀ c ∈ l, (decide (c ≠ '\n')) = true := by
    intro c hc
    simp only [ne_eq, decide_eq_true_eq]
    rintro rfl
    exact hl hc
  have hstop : ∀ c ∈ ('\n' :: s).head?, (decide (c ≠ '\n')) = false := by simp
  have htake : (l ++ '\n' :: s).takeWhile (· ≠ '\n') = l := takeWhile_run hall hstop
  have hdrop : (l ++ '\n' :: s).dropWhile (· ≠ '\n') = '\n' :: s := dropWhile_run hall hstop
  rw [lines]
  split
  · next hnone =>
    rw [hdrop] at hnone
    cases hnone
  · next hsome =>
    rw [hdrop] at hsome
    obtain ⟨-, rfl⟩ := List.cons.inj hsome
    rw [htake]

/-- What is printed line by line is read line by line. -/
theorem lines_flatMap {β : Type*} {text : β → List Char} {xs : List β}
    (h : ∀ x ∈ xs, '\n' ∉ text x) : lines (xs.flatMap fun x => text x ++ ['\n']) = xs.map text := by
  induction xs with
  | nil => simp [lines]
  | cons x xs ih =>
    rw [List.flatMap_cons, List.append_assoc, List.map_cons, List.singleton_append,
      lines_cons (h x List.mem_cons_self), ih fun y hy => h y (List.mem_cons_of_mem _ hy)]

/-! ## Numbers -/

def hexDigits : Nat → Nat → List Char
  | 0, _ => []
  | k + 1, n => hexDigits k (n / 16) ++ [Nat.digitChar (n % 16)]

theorem digitChar_inj : ∀ a < 16, ∀ b < 16, Nat.digitChar a = Nat.digitChar b → a = b := by decide

@[simp] theorem length_hexDigits (k n : Nat) : (hexDigits k n).length = k := by
  induction k generalizing n with
  | zero => rfl
  | succ k ih => simp [hexDigits, ih]

/-- A number of at most `k` digits is known by them. -/
theorem hexDigits_inj {k m n : Nat} (hm : m < 16 ^ k) (hn : n < 16 ^ k)
    (h : hexDigits k m = hexDigits k n) : m = n := by
  induction k generalizing m n with
  | zero => simp at hm hn; omega
  | succ k ih =>
    obtain ⟨hhigh, hlow⟩ := List.append_inj' h rfl
    rw [Nat.pow_succ] at hm hn
    have hdiv := ih (by omega) (by omega) hhigh
    have hmod := digitChar_inj _ (Nat.mod_lt _ (by decide)) _ (Nat.mod_lt _ (by decide))
      (List.singleton_inj.mp hlow)
    omega

theorem mem_hexDigits {k n : Nat} {c : Char} (h : c ∈ hexDigits k n) :
    ∃ d < 16, c = Nat.digitChar d := by
  induction k generalizing n with
  | zero => cases h
  | succ k ih =>
    rcases List.mem_append.mp h with h | h
    · exact ih h
    · exact ⟨_, Nat.mod_lt _ (by decide), List.mem_singleton.mp h⟩

def isxdigit (c : Char) : Bool := c.isDigit || ('a' ≤ c && c ≤ 'f') || ('A' ≤ c && c ≤ 'F')

def digitValue (c : Char) : Nat :=
  if c.isDigit then c.toNat - 48 else if 'a' ≤ c then c.toNat - 87 else c.toNat - 55

def hexValue (s : List Char) : Nat := s.foldl (fun n c => 16 * n + digitValue c) 0

theorem digitValue_digitChar : ∀ d < 16, digitValue (Nat.digitChar d) = d := by decide

theorem isxdigit_of_mem_hexDigits {k n : Nat} {c : Char} (h : c ∈ hexDigits k n) :
    isxdigit c = true := by
  have hdigit : ∀ d < 16, isxdigit (Nat.digitChar d) = true := by decide
  obtain ⟨d, hd, rfl⟩ := mem_hexDigits h
  exact hdigit d hd

/-- A number of at most `k` digits is read back from them. -/
theorem hexValue_hexDigits {k n : Nat} (hn : n < 16 ^ k) : hexValue (hexDigits k n) = n := by
  induction k generalizing n with
  | zero =>
    simp at hn
    simp [hexDigits, hexValue, hn]
  | succ k ih =>
    have hhigh : hexValue (hexDigits k (n / 16)) = n / 16 := ih (by rw [Nat.pow_succ] at hn; omega)
    have hlow := digitValue_digitChar (n % 16) (Nat.mod_lt _ (by decide))
    rw [hexValue] at hhigh
    rw [hexDigits, hexValue, List.foldl_append, hhigh, List.foldl_cons, List.foldl_nil, hlow]
    omega

/-! ## Counting -/

def tally {κ : Type*} [DecidableEq κ] (h : κ → Nat) (k : κ) : κ → Nat :=
  Function.update h k (h k + 1)

/-- What is tallied one by one has been counted. -/
theorem foldl_tally {κ β : Type*} [DecidableEq κ] (key : β → κ) (xs : List β) (h : κ → Nat)
    (k : κ) : xs.foldl (fun h x => tally h (key x)) h k = h k + xs.countP (key · = k) := by
  induction xs generalizing h with
  | nil => rfl
  | cons x xs ih =>
    rw [List.foldl_cons, ih, List.countP_cons, tally, Function.update_apply]
    by_cases hx : k = key x
    · simp [hx]
      omega
    · simp [hx, Ne.symm hx]

end FPSpy.Columns
