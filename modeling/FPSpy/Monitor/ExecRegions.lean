import Mathlib.Data.Nat.Log
import FPSpy.Lib.Columns
import FPSpy.Lib.LineBuffer
import FPSpy.Lib.Memory
import FPSpy.Monitor.Configuration

/-!
# Making code writeable

On arm64 and riscv64 FPSpy single-steps with breakpoint instructions, so `arch_process_init` reads
`/proc/self/maps` and asks for write access to every executable region that has none. A line of
more than 255 bytes is read in pieces, and a piece of a path that looks like a region is taken for
one; without such a path FPSpy asks for the right regions and no others, and stops at the first
refusal.
-/
namespace FPSpy.ExecRegions

open Columns (hexDigits hexValue isxdigit)
open FPSpy.Configuration (unsigned unsigned_cons)
open LineBuffer (pieces)
open Setting (isspace)

/-! ## The address space -/

structure Perms where
  read : Bool
  write : Bool
  exec : Bool
  deriving DecidableEq, Repr

abbrev Space := Addr → Option Perms

/-- `mprotect(s, len, PROT_READ | PROT_WRITE | PROT_EXEC)`; whether it is granted is up to the
kernel. -/
def mprotect (grants : Addr → BitVec 64 → Space → Bool) (s : Addr) (len : BitVec 64) (m : Space) :
    Option Space :=
  if grants s len m then
    some fun a => if (a - s).toNat < len.toNat then (m a).map fun _ => ⟨true, true, true⟩ else m a
  else none

/-! ## `make_my_exec_regions_writeable` -/

def strip0x : List Char → List Char
  | '0' :: c :: s => if c = 'x' ∨ c = 'X' then s else '0' :: c :: s
  | s => s

/-- `%lx`: the value, and what follows. -/
def scanLx (s : List Char) : Option (BitVec 64 × List Char) :=
  let s := s.dropWhile isspace
  let negative := s.head? = some '-'
  let s := strip0x (unsigned s)
  if s.head?.any isxdigit then
    let value := hexValue (s.takeWhile isxdigit)
    some (if 2 ^ 64 ≤ value then BitVec.allOnes 64
      else if negative then -BitVec.ofNat 64 value else BitVec.ofNat 64 value,
      s.dropWhile isxdigit)
  else none

/-- `sscanf(line_buf, "%lx-%lx %s\n", &start, &end, flags)`, where it is 3. -/
def sscanfRegion (line : List Char) : Option (BitVec 64 × BitVec 64 × List Char) :=
  match scanLx line with
  | some (start, '-' :: rest) =>
    match scanLx rest with
    | some (stop, rest) =>
      let word := (rest.dropWhile isspace).takeWhile fun c => !isspace c
      if word.isEmpty then none else some (start, stop, word)
    | none => none
  | _ => none

/-- The loop over what `fgets` reads. `flags` holds five characters and keeps them from one line
to the next; a longer word would go beyond it. -/
def visit (grants : Addr → BitVec 64 → Space → Bool) :
    List (List Char) → List Char → Space → Option (Int × Space)
  | [], _, m => some (0, m)
  | line :: lines, flags, m =>
    match sscanfRegion line with
    | none => visit grants lines flags m
    | some (start, stop, word) =>
      if 5 ≤ word.length then none
      else
        let flags := word ++ '\x00' :: flags.drop (word.length + 1)
        if flags[2]? = some 'x' ∧ flags[0]? = some 'r' ∧ flags[1]? ≠ some 'w' then
          match mprotect grants start (stop - start) m with
          | none => some (-1, m)
          | some m => visit grants lines flags m
        else visit grants lines flags m

/-- What the function returns and leaves behind. `content` is that of `/proc/self/maps` where it
can be opened, `flags` what is on the stack. -/
def makeMyExecRegionsWriteable (grants : Addr → BitVec 64 → Space → Bool)
    (content : Option (List Char)) (flags : List Char) (m : Space) : Option (Int × Space) :=
  match content with
  | none => some (-1, m)
  | some content => visit grants (pieces '\n' 255 [] content) flags m

/-! ## `/proc/self/maps` -/

structure Region where
  start : Addr
  stop : Addr
  perms : Perms
  shared : Bool
  rest : List Char
  le : start.toNat ≤ stop.toNat
  line : '\n' ∉ rest

def hex8 (a : Addr) : List Char := hexDigits (max 8 (Nat.log 16 a.toNat + 1)) a.toNat

namespace Region

def flags (v : Region) : List Char :=
  [if v.perms.read then 'r' else '-', if v.perms.write then 'w' else '-',
    if v.perms.exec then 'x' else '-', if v.shared then 's' else 'p']

def header (v : Region) : List Char := hex8 v.start ++ '-' :: hex8 v.stop ++ ' ' :: v.flags ++ [' ']

def text (v : Region) : List Char := v.header ++ v.rest

def contains (v : Region) (a : Addr) : Bool :=
  v.start.toNat ≤ a.toNat && a.toNat < v.stop.toNat

def wanted (v : Region) : Bool := v.perms.exec && v.perms.read && !v.perms.write

/-- No piece of the path behind the first 255 bytes of the line looks like a region. -/
def Harmless (v : Region) : Prop :=
  ∀ piece ∈ pieces '\n' 255 [] ((v.text ++ ['\n']).drop 255), sscanfRegion piece = none

end Region

structure Maps where
  regions : List Region
  apart : regions.Pairwise fun v w => v.stop.toNat ≤ w.start.toNat

namespace Maps

def content (maps : Maps) : List Char := maps.regions.flatMap fun v => v.text ++ ['\n']

def space (maps : Maps) : Space := fun a =>
  (maps.regions.find? fun v => v.contains a).map (·.perms)

end Maps

def Perms.opened (p : Perms) : Perms := if p.read && p.exec then { p with write := true } else p

def openedBelow (k : Nat) (m : Space) : Space := fun a =>
  if a.toNat < k then (m a).map Perms.opened else m a

/-- The kernel grants what is asked for this region, after those below it. -/
def Maps.granted (maps : Maps) (grants : Addr → BitVec 64 → Space → Bool) (v : Region) : Bool :=
  grants v.start (v.stop - v.start) (openedBelow v.start.toNat maps.space)

/-! ## Reading a line -/

theorem le_toNat_of_isxdigit {c : Char} (h : isxdigit c = true) : 48 ≤ c.toNat := by
  simp only [isxdigit, Char.isDigit, Bool.or_eq_true, Bool.and_eq_true, decide_eq_true_eq] at h
  rcases h with (h | h) | h
  · exact UInt32.le_iff_toNat_le.mp h.1
  · have : 'a'.toNat ≤ c.toNat := UInt32.le_iff_toNat_le.mp h.1
    have : 'a'.toNat = 97 := rfl
    omega
  · have : 'A'.toNat ≤ c.toNat := UInt32.le_iff_toNat_le.mp h.1
    have : 'A'.toNat = 65 := rfl
    omega

theorem not_isspace_of_isxdigit {c : Char} (h : isxdigit c = true) : isspace c = false := by
  have hle := le_toNat_of_isxdigit h
  have hblank : c ≠ ' ' := by
    rintro rfl
    exact absurd hle (by decide)
  simp only [isspace, hblank, false_or, decide_eq_false_iff_not]
  omega

/-- Digits have no `0x` in front. -/
theorem strip0x_run {w rest : List Char} (hw : ∀ c ∈ w, isxdigit c = true) (hne : w ≠ [])
    (hrest : ∀ c ∈ rest.head?, c ≠ 'x' ∧ c ≠ 'X') : strip0x (w ++ rest) = w ++ rest := by
  obtain ⟨d, ds, rfl⟩ := List.exists_cons_of_ne_nil hne
  have hx : ∀ c ∈ (ds ++ rest).head?, c ≠ 'x' ∧ c ≠ 'X' := by
    intro c hc
    cases ds with
    | nil => exact hrest c hc
    | cons e ds =>
      obtain rfl : e = c := by simpa using hc
      have he := hw e (by simp)
      constructor <;> rintro rfl <;> exact absurd he (by decide)
  rw [List.cons_append]
  unfold strip0x
  split
  · next heq =>
    obtain ⟨rfl, hs⟩ := List.cons.inj heq
    rw [hs] at hx
    simp [hx _ rfl, hs]
  · rfl

/-- A number ends where its digits end. -/
theorem scanLx_digits {w rest : List Char} (hw : ∀ c ∈ w, isxdigit c = true) (hne : w ≠ [])
    (hrest : ∀ c ∈ rest.head?, isxdigit c = false ∧ c ≠ 'x' ∧ c ≠ 'X')
    (hvalue : hexValue w < 2 ^ 64) :
    scanLx (w ++ rest) = some (BitVec.ofNat 64 (hexValue w), rest) := by
  obtain ⟨d, ds, rfl⟩ := List.exists_cons_of_ne_nil hne
  have hd := hw d List.mem_cons_self
  have hle := le_toNat_of_isxdigit hd
  have hplus : d ≠ '+' := by
    rintro rfl
    exact absurd hle (by decide)
  have hminus : d ≠ '-' := by
    rintro rfl
    exact absurd hle (by decide)
  have hblank : (d :: ds ++ rest).dropWhile isspace = d :: ds ++ rest := by
    simp [not_isspace_of_isxdigit hd]
  have hsign : unsigned (d :: ds ++ rest) = d :: ds ++ rest := unsigned_cons hplus hminus _
  have hstrip : strip0x (d :: ds ++ rest) = d :: ds ++ rest :=
    strip0x_run hw hne fun c hc => (hrest c hc).2
  have hdigits : ∀ c ∈ rest.head?, isxdigit c = false := fun c hc => (hrest c hc).1
  have htake : (d :: ds ++ rest).takeWhile isxdigit = d :: ds := Columns.takeWhile_run hw hdigits
  have hdrop : (d :: ds ++ rest).dropWhile isxdigit = rest := Columns.dropWhile_run hw hdigits
  have hhead : (d :: ds ++ rest).head? ≠ some '-' := by simpa using hminus
  have hany : (d :: ds ++ rest).head?.any isxdigit = true := by simpa using hd
  simp only [scanLx, hblank, hsign, hstrip, htake, hdrop, hhead, hany, if_true, if_false,
    Nat.not_le.mpr hvalue]

theorem length_hex8_le (a : Addr) : (hex8 a).length ≤ 16 := by
  have hlog : Nat.log 16 a.toNat < 16 := by
    rcases Nat.eq_zero_or_pos a.toNat with hzero | hpos
    · simp [hzero]
    · exact Nat.log_lt_of_lt_pow hpos.ne' (show a.toNat < 16 ^ 16 from a.isLt)
  rw [hex8, Columns.length_hexDigits]
  omega

/-- An address is read back. -/
theorem scanLx_hex8 (a : Addr) {rest : List Char}
    (hrest : ∀ c ∈ rest.head?, isxdigit c = false ∧ c ≠ 'x' ∧ c ≠ 'X') :
    scanLx (hex8 a ++ rest) = some (a, rest) := by
  have hfits : a.toNat < 16 ^ max 8 (Nat.log 16 a.toNat + 1) :=
    (Nat.lt_pow_succ_log_self (by decide) _).trans_le
      (Nat.pow_le_pow_right (by decide) (Nat.le_max_right ..))
  have hvalue : hexValue (hex8 a) = a.toNat := Columns.hexValue_hexDigits hfits
  have hne : hex8 a ≠ [] := by
    rw [← List.length_pos_iff, hex8, Columns.length_hexDigits]
    omega
  have hall : ∀ c ∈ hex8 a, isxdigit c = true := fun c => Columns.isxdigit_of_mem_hexDigits
  rw [scanLx_digits hall hne hrest (by rw [hvalue]; exact a.isLt), hvalue, BitVec.ofNat_toNat,
    BitVec.setWidth_eq]

/-- The fields of a line that the function looks at, whatever follows. -/
theorem sscanfRegion_header (v : Region) (rest : List Char) :
    sscanfRegion (v.header ++ rest) = some (v.start, v.stop, v.flags) := by
  have hstart : scanLx (v.header ++ rest) =
      some (v.start, '-' :: (hex8 v.stop ++ ' ' :: v.flags ++ [' '] ++ rest)) := by
    rw [Region.header, ← scanLx_hex8 v.start (by simp; decide)]
    simp
  have hstop : scanLx (hex8 v.stop ++ ' ' :: v.flags ++ [' '] ++ rest) =
      some (v.stop, ' ' :: v.flags ++ [' '] ++ rest) := by
    rw [← scanLx_hex8 v.stop (by simp; decide)]
    simp
  have hword : ((' ' :: v.flags ++ [' '] ++ rest).dropWhile isspace).takeWhile
      (fun c => !isspace c) = v.flags := by
    have hspace : isspace ' ' = true := by decide
    have hflags : ∀ c ∈ v.flags, (!isspace c) = true := by
      intro c hc
      simp only [Region.flags, List.mem_cons, List.not_mem_nil, or_false] at hc
      rcases hc with rfl | rfl | rfl | rfl <;> split_ifs <;> decide
    have hfirst : (v.flags ++ [' '] ++ rest).dropWhile isspace = v.flags ++ [' '] ++ rest := by
      have := hflags _ List.mem_cons_self
      simp only [Bool.not_eq_true'] at this
      simp [Region.flags, this]
    rw [List.cons_append, List.cons_append, List.dropWhile_cons_of_pos hspace, hfirst,
      List.append_assoc, Columns.takeWhile_run hflags (by simp [hspace])]
  have hne : v.flags.isEmpty = false := rfl
  rw [sscanfRegion, hstart]
  simp only [hstop, hword, hne, Bool.false_eq_true, if_false]

theorem newline_not_mem (v : Region) : '\n' ∉ v.text := by
  have hdigit : ∀ a, '\n' ∉ hex8 a := by
    intro a ha
    exact absurd (Columns.isxdigit_of_mem_hexDigits ha) (by decide)
  have hflags : '\n' ∉ v.flags := by
    simp only [Region.flags, List.mem_cons, List.not_mem_nil, or_false]
    rintro (h | h | h | h) <;> split_ifs at h <;> simp at h
  simp [Region.text, Region.header, hdigit, hflags, v.line]

/-- The first piece of a line has all that is looked at. -/
theorem pieces_text (v : Region) : ∃ rest, pieces '\n' 255 [] (v.text ++ ['\n']) =
    (v.header ++ rest) :: pieces '\n' 255 [] ((v.text ++ ['\n']).drop 255) := by
  have hlen : v.header.length ≤ 255 := by
    have := length_hex8_le v.start
    have := length_hex8_le v.stop
    simp [Region.header, Region.flags]
    omega
  refine ⟨(v.rest ++ ['\n']).take (255 - v.header.length), ?_⟩
  rw [LineBuffer.pieces_line (newline_not_mem v) (by decide), List.nil_append, List.length_nil,
    Nat.sub_zero]
  congr 1
  rw [Region.text, List.append_assoc, List.take_append, List.take_of_length_le hlen]

variable {grants : Addr → BitVec 64 → Space → Bool} {v : Region} {m : Space}

theorem visit_harmless {ps : List (List Char)} (h : ∀ p ∈ ps, sscanfRegion p = none)
    (lines : List (List Char)) (flags : List Char) :
    visit grants (ps ++ lines) flags m = visit grants lines flags m := by
  induction ps with
  | nil => rfl
  | cons p ps ih =>
    rw [List.cons_append, visit, h p List.mem_cons_self]
    exact ih fun q hq => h q (List.mem_cons_of_mem _ hq)

/-- A region is asked for if it is wanted, and `flags` never overflows. -/
theorem visit_text (grants : Addr → BitVec 64 → Space → Bool) (m : Space) (h : v.Harmless)
    (lines : List (List Char)) (flags : List Char) :
    ∃ flags', visit grants (pieces '\n' 255 [] (v.text ++ ['\n']) ++ lines) flags m =
      if v.wanted then
        match mprotect grants v.start (v.stop - v.start) m with
        | none => some (-1, m)
        | some m => visit grants lines flags' m
      else visit grants lines flags' m := by
  obtain ⟨rest, hpieces⟩ := pieces_text v
  refine ⟨v.flags ++ '\x00' :: flags.drop 5, ?_⟩
  have hlen : v.flags.length = 4 := rfl
  have hwanted : ((v.flags ++ '\x00' :: flags.drop 5)[2]? = some 'x' ∧
      (v.flags ++ '\x00' :: flags.drop 5)[0]? = some 'r' ∧
      (v.flags ++ '\x00' :: flags.drop 5)[1]? ≠ some 'w') ↔ v.wanted = true := by
    obtain ⟨_, _, ⟨r, w, x⟩, _, _, _, _⟩ := v
    cases r <;> cases w <;> cases x <;> simp [Region.flags, Region.wanted]
  rw [hpieces, List.cons_append, visit, sscanfRegion_header]
  simp only [hlen, hwanted, visit_harmless h]
  rfl

/-! ## What it comes to -/

theorem contains_iff {a : Addr} :
    v.contains a = true ↔ v.start.toNat ≤ a.toNat ∧ a.toNat < v.stop.toNat := by
  simp [Region.contains]

theorem offset_lt_iff {a : Addr} : (a - v.start).toNat < (v.stop - v.start).toNat ↔
    v.start.toNat ≤ a.toNat ∧ a.toNat < v.stop.toNat := by
  have hle := v.le
  have ha := a.isLt
  have hstart := v.start.isLt
  have hstop := v.stop.isLt
  rw [BitVec.toNat_sub, BitVec.toNat_sub]
  omega

def frontier (post : List Region) : Nat := (post.head?.map fun v => v.start.toNat).getD (2 ^ 64)

namespace Maps

variable {maps : Maps} {pre post : List Region}

/-- Around a region. -/
theorem around (h : maps.regions = pre ++ v :: post) :
    (∀ w ∈ pre, w.stop.toNat ≤ v.start.toNat) ∧ v.stop.toNat ≤ frontier post ∧
      ∀ w ∈ post, frontier post ≤ w.start.toNat := by
  have hapart := maps.apart
  rw [h, List.pairwise_append, List.pairwise_cons] at hapart
  obtain ⟨-, ⟨hv, hpost⟩, hpre⟩ := hapart
  refine ⟨fun w hw => hpre w hw v List.mem_cons_self, ?_⟩
  cases post with
  | nil => exact ⟨v.stop.isLt.le, nofun⟩
  | cons u post =>
    refine ⟨hv u List.mem_cons_self, fun w hw => ?_⟩
    rcases List.mem_cons.mp hw with rfl | hw
    · exact Nat.le_refl _
    · exact u.le.trans ((List.pairwise_cons.mp hpost).1 w hw)

theorem space_of_contains (h : maps.regions = pre ++ v :: post) {a : Addr}
    (ha : v.contains a = true) : maps.space a = some v.perms := by
  have hnone : pre.find? (fun w => w.contains a) = none := by
    rw [List.find?_eq_none]
    intro w hw hin
    have := (around h).1 w hw
    rw [contains_iff] at ha hin
    omega
  simp [space, h, List.find?_append, hnone, ha]

theorem space_gap (h : maps.regions = pre ++ v :: post) {a : Addr} (hstop : v.stop.toNat ≤ a.toNat)
    (hnext : a.toNat < frontier post) : maps.space a = none := by
  have hnone : maps.regions.find? (fun w => w.contains a) = none := by
    rw [List.find?_eq_none]
    intro w hw hin
    obtain ⟨hpre, -, hpost⟩ := around h
    have hle := v.le
    rw [h] at hw
    rw [contains_iff] at hin
    rcases List.mem_append.mp hw with hw | hw
    · have := hpre w hw
      omega
    · rcases List.mem_cons.mp hw with rfl | hw
      · omega
      · have := hpost w hw
        omega
  simp [space, hnone]

theorem space_below {a : Addr} (h : a.toNat < frontier maps.regions) : maps.space a = none := by
  cases hregions : maps.regions with
  | nil => rw [space, hregions]; rfl
  | cons v post =>
    have hnone : maps.regions.find? (fun w => w.contains a) = none := by
      rw [hregions] at h
      have hlow : a.toNat < v.start.toNat := h
      obtain ⟨-, hstop, hpost⟩ := around (show maps.regions = [] ++ v :: post from hregions)
      have hle := v.le
      rw [List.find?_eq_none]
      intro w hw hin
      rw [hregions] at hw
      rw [contains_iff] at hin
      rcases List.mem_cons.mp hw with rfl | hw
      · omega
      · have := hpost w hw
        omega
    simp [space, hnone]

/-- After a region that is left alone or has been opened. -/
theorem openedBelow_frontier (h : maps.regions = pre ++ v :: post) (a : Addr) :
    openedBelow (frontier post) maps.space a =
      if v.contains a then some v.perms.opened
      else openedBelow v.start.toNat maps.space a := by
  obtain ⟨-, hstop, -⟩ := around h
  have hle := v.le
  by_cases ha : v.contains a = true
  · have hin := contains_iff.mp ha
    rw [if_pos ha, openedBelow, if_pos (by omega), space_of_contains h ha, Option.map_some]
  · rw [if_neg ha]
    rw [contains_iff] at ha
    by_cases hlow : a.toNat < v.start.toNat
    · rw [openedBelow, openedBelow, if_pos (by omega), if_pos hlow]
    · by_cases hnext : a.toNat < frontier post
      · have hgap := space_gap h (a := a) (by omega) hnext
        simp [openedBelow, hgap]
      · rw [openedBelow, openedBelow, if_neg hnext, if_neg hlow]

theorem openedBelow_of_contains (h : maps.regions = pre ++ v :: post) {a : Addr}
    (ha : v.contains a = true) : openedBelow v.start.toNat maps.space a = some v.perms := by
  have hin := contains_iff.mp ha
  rw [openedBelow, if_neg (by omega), space_of_contains h ha]

theorem openedBelow_of_not_wanted (h : maps.regions = pre ++ v :: post) (hv : v.wanted = false) :
    openedBelow v.start.toNat maps.space = openedBelow (frontier post) maps.space := by
  funext a
  rw [openedBelow_frontier h]
  split_ifs with ha
  · rw [openedBelow_of_contains h ha]
    obtain ⟨_, _, ⟨r, w, x⟩, _, _, _, _⟩ := v
    cases r <;> cases w <;> cases x <;> first | rfl | cases hv
  · rfl

theorem mprotect_of_granted (h : maps.regions = pre ++ v :: post) (hv : v.wanted = true)
    (hgranted : maps.granted grants v = true) :
    mprotect grants v.start (v.stop - v.start) (openedBelow v.start.toNat maps.space) =
      some (openedBelow (frontier post) maps.space) := by
  rw [Maps.granted] at hgranted
  rw [mprotect, if_pos hgranted]
  congr 1
  funext a
  rw [openedBelow_frontier h]
  by_cases ha : v.contains a = true
  · rw [if_pos ha, if_pos (offset_lt_iff.mpr (contains_iff.mp ha)), openedBelow_of_contains h ha]
    obtain ⟨_, _, ⟨r, w, x⟩, _, _, _, _⟩ := v
    cases r <;> cases w <;> cases x <;> first | rfl | cases hv
  · rw [if_neg ha, if_neg fun hlt => ha (contains_iff.mpr (offset_lt_iff.mp hlt))]

end Maps

/-- The first region that the kernel does not let FPSpy write to. -/
def Maps.refusal (maps : Maps) (grants : Addr → BitVec 64 → Space → Bool) : Option Region :=
  maps.regions.find? fun v => v.wanted && !maps.granted grants v

/-- The loop, from some region on: the induction is on the regions to come, and those below have
been seen to. -/
theorem visit_regions (grants : Addr → BitVec 64 → Space → Bool) {maps : Maps}
    {pre post : List Region} (h : maps.regions = pre ++ post)
    (hharmless : ∀ v ∈ post, v.Harmless) (flags : List Char) :
    visit grants (post.flatMap fun v => pieces '\n' 255 [] (v.text ++ ['\n'])) flags
        (openedBelow (frontier post) maps.space) =
      match post.find? fun v => v.wanted && !maps.granted grants v with
      | none => some (0, openedBelow (2 ^ 64) maps.space)
      | some v => some (-1, openedBelow v.start.toNat maps.space) := by
  induction post generalizing pre flags with
  | nil => rfl
  | cons v post ih =>
    have hnext : maps.regions = (pre ++ [v]) ++ post := by rw [h]; simp
    obtain ⟨flags', hvisit⟩ := visit_text grants (openedBelow v.start.toNat maps.space)
      (hharmless v List.mem_cons_self)
      (post.flatMap fun v => pieces '\n' 255 [] (v.text ++ ['\n'])) flags
    have hrest := ih hnext (fun w hw => hharmless w (List.mem_cons_of_mem _ hw)) flags'
    rw [List.flatMap_cons, show frontier (v :: post) = v.start.toNat from rfl, hvisit]
    cases hv : v.wanted with
    | false =>
      rw [if_neg Bool.false_ne_true, Maps.openedBelow_of_not_wanted h hv, hrest,
        List.find?_cons_of_neg (by simp [hv])]
    | true =>
      rw [if_pos rfl]
      cases hgranted : maps.granted grants v with
      | false =>
        have hrefused : mprotect grants v.start (v.stop - v.start)
            (openedBelow v.start.toNat maps.space) = none :=
          if_neg (by rw [Maps.granted] at hgranted; simp [hgranted])
        rw [hrefused, List.find?_cons_of_pos (by simp [hv, hgranted])]
      | true =>
        rw [Maps.mprotect_of_granted h hv hgranted,
          List.find?_cons_of_neg (by simp [hv, hgranted])]
        exact hrest

/-- A line that fits has no other pieces. -/
theorem harmless_of_short (h : v.text.length < 255) : v.Harmless := by
  have hnone : (v.text ++ ['\n']).drop 255 = [] := List.drop_of_length_le (by simp; omega)
  rw [Region.Harmless, hnone]
  exact fun _ hpiece => absurd hpiece List.not_mem_nil

theorem opened_write {p : Perms} :
    p.opened.read = true → p.opened.exec = true → p.opened.write = true := by
  obtain ⟨r, w, x⟩ := p
  cases r <;> cases x <;> simp [Perms.opened]

def Space.Patchable (m : Space) : Prop :=
  ∀ a p, m a = some p → p.read = true → p.exec = true → p.write = true

/-- Whatever the regions are and whatever the kernel grants, FPSpy opens the readable executable
regions and changes nothing else. It fails at the first refusal, with the regions below it open;
otherwise the code can be patched. -/
theorem makeMyExecRegionsWriteable_eq (maps : Maps) (hharmless : ∀ v ∈ maps.regions, v.Harmless)
    (grants : Addr → BitVec 64 → Space → Bool) (flags : List Char) :
    makeMyExecRegionsWriteable grants (some maps.content) flags maps.space =
        (match maps.refusal grants with
        | none => some (0, fun a => (maps.space a).map Perms.opened)
        | some v => some (-1, openedBelow v.start.toNat maps.space)) ∧
      ∀ m, makeMyExecRegionsWriteable grants (some maps.content) flags maps.space = some (0, m) →
        m.Patchable := by
  have hlines : ∀ v ∈ maps.regions, '\n' ∉ v.text := fun v _ => newline_not_mem v
  have hfirst : openedBelow (frontier maps.regions) maps.space = maps.space := by
    funext a
    unfold openedBelow
    split_ifs with hlow
    · rw [maps.space_below hlow, Option.map_none]
    · rfl
  have hall : openedBelow (2 ^ 64) maps.space = fun a => (maps.space a).map Perms.opened := by
    funext a
    rw [openedBelow, if_pos a.isLt]
  have hrun := visit_regions grants (List.nil_append maps.regions).symm hharmless flags
  rw [hfirst, hall] at hrun
  have heq : makeMyExecRegionsWriteable grants (some maps.content) flags maps.space =
      (match maps.refusal grants with
      | none => some (0, fun a => (maps.space a).map Perms.opened)
      | some v => some (-1, openedBelow v.start.toNat maps.space)) := by
    rw [makeMyExecRegionsWriteable, Maps.content, LineBuffer.pieces_flatMap hlines]
    exact hrun
  refine ⟨heq, fun m hm a p hp => ?_⟩
  rw [heq] at hm
  cases hrefusal : maps.refusal grants with
  | none =>
    rw [hrefusal] at hm
    obtain ⟨-, rfl⟩ := Prod.mk.inj (Option.some.inj hm)
    obtain ⟨q, -, rfl⟩ := Option.map_eq_some_iff.mp hp
    exact opened_write
  | some v =>
    rw [hrefusal] at hm
    cases (Prod.mk.inj (Option.some.inj hm)).1

def threeRegions : Maps where
  regions := [
    ⟨0x400000, 0x401000, ⟨true, false, true⟩, false, "00000000 08:02 173521 /bin/ls".toList,
      by decide, by decide⟩,
    ⟨0x401000, 0x402000, ⟨true, false, false⟩, false, "00001000 08:02 173521 /bin/ls".toList,
      by decide, by decide⟩,
    ⟨0xaaaae0000000, 0xaaaae0021000, ⟨true, true, false⟩, false,
      "00000000 00:00 0          [heap]".toList, by decide, by decide⟩]
  apart := by decide

/-- The program becomes writeable. -/
theorem makeMyExecRegionsWriteable_threeRegions :
    (∀ v ∈ threeRegions.regions, v.Harmless) ∧
      makeMyExecRegionsWriteable (fun _ _ _ => true) (some threeRegions.content) []
          threeRegions.space =
        some (0, fun a => (threeRegions.space a).map Perms.opened) :=
  have hharmless : ∀ v ∈ threeRegions.regions, v.Harmless := by
    intro v hv
    apply harmless_of_short
    revert v
    decide
  ⟨hharmless, (makeMyExecRegionsWriteable_eq threeRegions hharmless (fun _ _ _ => true) []).1⟩

end FPSpy.ExecRegions
