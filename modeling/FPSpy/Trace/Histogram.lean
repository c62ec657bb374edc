import Mathlib.Data.List.DropRight
import FPSpy.Lib.Columns
import FPSpy.Monitor.Numbers
import FPSpy.Trace.Decoders

/-!
# Histograms of a trace

`scripts/analyze_individual.pl` runs `parse_individual.pl`, cuts the lines it prints into
columns, and counts the events by type, address, MXCSR and instruction. The text between the two
scripts loses nothing: no column has a blank in it, and the numbers have all their digits. So
the counts are those of the records in the file.
-/
namespace FPSpy.Perl

open Columns (hexDigits tally)
open Bytes (Byte)
open Setting (isspace)

/-! ## What `parse_individual.pl` prints -/

def ld16 (n : Nat) : List Char :=
  let i := (BitVec.ofNat 64 n).toInt
  let s := (if i < 0 then ['-'] else []) ++ Nat.toDigits 10 i.natAbs
  s ++ List.replicate (16 - s.length) ' '

def hexBytes (instr : List Byte) : List Char := instr.flatMap fun b => hexDigits 2 b.toNat

def Line.text (l : Line) : List Char :=
  ld16 l.time ++ '\t' :: (l.dec ++ l.suffix).toList ++ '\t' :: hexDigits 16 l.rip ++
    '\t' :: hexDigits 16 l.rsp ++ '\t' :: hexDigits 8 l.code ++ '\t' :: hexDigits 8 l.mxcsr ++
    '\t' :: hexBytes l.instr

def printIndividual (myarch : String) (raw : List Byte) : List Char :=
  (parseIndividual myarch raw).flatMap fun l => l.text ++ ['\n']

/-! ## `analyze_individual.pl` -/

/-- `split(/\s+/)`: empty fields at the end are dropped. -/
def splitBlank (s : List Char) : List (List Char) :=
  (Columns.split isspace s).rdropWhile (·.isEmpty)

/-- `$n` and the hashes; a key that was never counted is at zero. -/
structure Histograms where
  n : Nat
  types : List Char → Nat
  mxcsrs : List Char → Nat
  rips : List Char → Nat
  insts : List Char → Nat

/-- The body of the loop. A column that is not there counts as the empty string. -/
def countLine (h : Histograms) (line : List Char) : Histograms :=
  let cols := splitBlank line
  { types := tally h.types (cols.getD 1 [])
    mxcsrs := tally h.mxcsrs (cols.getD 5 [])
    rips := tally h.rips (cols.getD 2 [])
    insts := tally h.insts (cols.getD 6 [])
    n := h.n + 1 }

def analyzeIndividual (output : List Char) : Histograms :=
  (Columns.lines output).foldl countLine ⟨0, fun _ => 0, fun _ => 0, fun _ => 0, fun _ => 0⟩

/-! ## The columns of a line -/

theorem isspace_digitChar : ∀ d < 16, isspace (Nat.digitChar d) = false := by decide

theorem isspace_of_mem_hexDigits {k n : Nat} {c : Char} (h : c ∈ hexDigits k n) :
    isspace c = false := by
  obtain ⟨d, hd, rfl⟩ := Columns.mem_hexDigits h
  exact isspace_digitChar d hd

theorem hexDigits_ne_nil {k : Nat} (hk : 0 < k) (n : Nat) : hexDigits k n ≠ [] := by
  rw [← List.length_pos_iff, Columns.length_hexDigits]
  exact hk

/-- The number of `ld16`, without the blanks behind it. -/
theorem exists_ld16 (n : Nat) : ∃ w k, ld16 n = w ++ List.replicate k ' ' ∧ w ≠ [] ∧
    ∀ c ∈ w, isspace c = false := by
  refine ⟨_, _, rfl, by simp, fun c hc => ?_⟩
  rcases List.mem_append.mp hc with hsign | hdigit
  · split_ifs at hsign
    · obtain rfl := List.mem_singleton.mp hsign
      decide
    · cases hsign
  · exact not_isspace_of_isDigit (Nat.isDigit_of_mem_toDigits (by decide) (by decide) hdigit)

theorem isspace_of_all {s : String} (h : (s.toList.all fun c => !isspace c) = true) :
    ∀ c ∈ s.toList, isspace c = false := by
  simpa using h

/-- Every name, with its suffix. -/
theorem isspace_of_mem_name {l : Line} (hdec : ∃ n, l.dec = (decode n).getD "UNDEF")
    (hsuffix : l.suffix = "" ∨ l.suffix = "-FPE_DENORM") :
    (l.dec ++ l.suffix).toList ≠ [] ∧ ∀ c ∈ (l.dec ++ l.suffix).toList, isspace c = false := by
  obtain ⟨n, hn⟩ := hdec
  have hall : ((decode n).getD "UNDEF").toList ≠ [] ∧
      ∀ c ∈ ((decode n).getD "UNDEF").toList, isspace c = false := by
    unfold decode
    split <;> exact ⟨by decide, isspace_of_all (by decide)⟩
  rw [hn, String.toList_append]
  refine ⟨by simp [hall.1], fun c hc => ?_⟩
  have hdenorm : ∀ c ∈ "-FPE_DENORM".toList, isspace c = false :=
    isspace_of_all (by decide)
  rcases List.mem_append.mp hc with hc | hc
  · exact hall.2 c hc
  · rcases hsuffix with h | h <;> rw [h] at hc
    · cases hc
    · exact hdenorm c hc

structure Printed (l : Line) : Prop where
  dec : ∃ n, l.dec = (decode n).getD "UNDEF"
  suffix : l.suffix = "" ∨ l.suffix = "-FPE_DENORM"
  instr : l.instr ≠ []

def columns (l : Line) : List (List Char) :=
  [(l.dec ++ l.suffix).toList, hexDigits 16 l.rip, hexDigits 16 l.rsp, hexDigits 8 l.code,
    hexDigits 8 l.mxcsr, hexBytes l.instr]

theorem isspace_of_mem_columns {l : Line} (h : Printed l) :
    ∀ w ∈ columns l, w ≠ [] ∧ ∀ c ∈ w, isspace c = false := by
  have hhex : ∀ k n, 0 < k → hexDigits k n ≠ [] ∧ ∀ c ∈ hexDigits k n, isspace c = false :=
    fun k n hk => ⟨hexDigits_ne_nil hk n, fun _ => isspace_of_mem_hexDigits⟩
  have hinstr : hexBytes l.instr ≠ [] ∧ ∀ c ∈ hexBytes l.instr, isspace c = false := by
    constructor
    · obtain ⟨b, bs, hb⟩ := List.exists_cons_of_ne_nil h.instr
      simp [hb, hexBytes, hexDigits_ne_nil]
    · intro c hc
      obtain ⟨b, -, hb⟩ := List.mem_flatMap.mp hc
      exact isspace_of_mem_hexDigits hb
  simp only [columns, List.forall_mem_cons]
  exact ⟨isspace_of_mem_name h.dec h.suffix, hhex _ _ (by decide), hhex _ _ (by decide),
    hhex _ _ (by decide), hhex _ _ (by decide), hinstr, nofun⟩

theorem isspace_of_mem_blanks {k : Nat} :
    ∀ c ∈ List.replicate k ' ' ++ ['\t'], isspace c = true ∧ c ≠ '\n' := by
  intro c hc
  rcases List.mem_append.mp hc with hc | hc
  · rw [List.eq_of_mem_replicate hc]
    decide
  · rw [List.mem_singleton.mp hc]
    decide

/-- A line is the time, some blanks, and the columns between tabs. -/
theorem exists_text (l : Line) : ∃ time k, (∀ c ∈ time, isspace c = false) ∧
    l.text = time ++ ((List.replicate k ' ' ++ ['\t']) ++ ['\t'].intercalate (columns l)) := by
  obtain ⟨time, k, htime, -, hblank⟩ := exists_ld16 l.time
  exact ⟨time, k, hblank, by simp [Line.text, columns, htime, List.intercalate]⟩

/-- The columns are what was printed. -/
theorem splitBlank_text {l : Line} (h : Printed l) :
    ∃ time, splitBlank l.text = time :: columns l := by
  obtain ⟨time, k, hblank, htext⟩ := exists_text l
  have hwords := isspace_of_mem_columns h
  refine ⟨time, ?_⟩
  rw [splitBlank, htext,
    Columns.split_append hblank (fun c hc => (isspace_of_mem_blanks c hc).1) (by simp),
    Columns.split_intercalate (by simp [isspace]) (by simp) hwords (List.cons_ne_nil _ _)]
  · -- the last column is not empty
    have hlast : ¬ (hexBytes l.instr).isEmpty = true := by
      simpa using (hwords (hexBytes l.instr) (by simp [columns])).1
    exact List.rdropWhile_concat_neg _ (time :: (columns l).dropLast) _ hlast
  · intro c hc
    obtain ⟨hne, hname⟩ := hwords (l.dec ++ l.suffix).toList (by simp [columns])
    obtain ⟨d, ds, hd⟩ := List.exists_cons_of_ne_nil hne
    obtain rfl : d = c := by simpa [columns, hd, List.intercalate] using hc
    exact hname d (by simp [hd])

/-- No line is broken. -/
theorem newline_not_mem_text {l : Line} (h : Printed l) : '\n' ∉ l.text := by
  obtain ⟨time, k, hblank, htext⟩ := exists_text l
  have hspace : isspace '\n' = true := by decide
  rw [htext, List.mem_append, List.mem_append]
  rintro (hin | hin | hin)
  · simp [hblank _ hin] at hspace
  · exact (isspace_of_mem_blanks _ hin).2 rfl
  · rcases Columns.mem_intercalate hin with hin | ⟨w, hw, hin⟩
    · exact absurd hin (by decide)
    · simp [(isspace_of_mem_columns h w hw).2 _ hin] at hspace

/-! ## The events of a file -/

def lineOf (myarch : String) (r : TraceRecord) : Line :=
  line myarch (words r) r.instruction.toList

def eventName (myarch : String) (r : TraceRecord) : String :=
  (decode r.code.toNat).getD "UNDEF" ++
    if myarch = "x64" ∧ r.code.toNat ≠ 0xffffffff ∧ r.mxcsr.toNat &&& 0x2 ≠ 0 then "-FPE_DENORM"
    else ""

theorem lineOf_eq (myarch : String) (r : TraceRecord) : ∃ suffix,
    lineOf myarch r = ⟨r.time.toNat, (decode r.code.toNat).getD "UNDEF", suffix, r.rip.toNat,
      r.rsp.toNat, r.code.toNat, r.mxcsr.toNat, r.instruction.toList⟩ ∧
    suffix = if myarch = "x64" ∧ r.code.toNat ≠ 0xffffffff ∧ r.mxcsr.toNat &&& 0x2 ≠ 0 then
      "-FPE_DENORM" else "" := by
  obtain ⟨suffix, hline⟩ := line_words myarch r
  have hsuffix : (lineOf myarch r).suffix = if myarch = "x64" ∧
      (lineOf myarch r).code ≠ 0xffffffff ∧ (lineOf myarch r).mxcsr &&& 0x2 ≠ 0 then
      "-FPE_DENORM" else "" := rfl
  rw [lineOf, hline] at hsuffix
  exact ⟨suffix, hline, hsuffix⟩

theorem printed_lineOf (myarch : String) (r : TraceRecord) : Printed (lineOf myarch r) := by
  obtain ⟨suffix, hline, hsuffix⟩ := lineOf_eq myarch r
  rw [hline]
  refine ⟨⟨_, rfl⟩, ?_, ?_⟩
  · rw [hsuffix]
    split_ifs
    · exact .inr rfl
    · exact .inl rfl
  · simp [maxInstrSize]

theorem parseIndividual_eq (myarch : String) (rs : List TraceRecord) {tail : List Byte}
    (h : tail.length < recordSize) :
    parseIndividual myarch (encodeAll rs ++ tail) = rs.map (lineOf myarch) := by
  induction rs with
  | nil => exact parseIndividual_of_short myarch h
  | cons r rs ih =>
    have hcons : encodeAll (r :: rs) ++ tail = r.encode ++ (encodeAll rs ++ tail) := by
      simp [encodeAll]
    have hread := readRecord_encode r (encodeAll rs ++ tail)
    rw [hcons, parseIndividual]
    split
    · next hnone => simp [hread] at hnone
    · next rec instr rest hsome =>
      obtain ⟨rfl, rfl, rfl⟩ : words r = rec ∧ r.instruction.toList = instr ∧
          encodeAll rs ++ tail = rest := by simpa [hread] using hsome
      rw [ih]
      rfl

/-! ## The counts -/

structure CountsOf (myarch : String) (rs : List TraceRecord) (h : Histograms) : Prop where
  n : h.n = rs.length
  types : ∀ name : String, h.types name.toList = rs.countP (eventName myarch · = name)
  mxcsrs : ∀ m : BitVec 32, h.mxcsrs (hexDigits 8 m.toNat) = rs.countP (·.mxcsr = m)
  rips : ∀ a : BitVec 64, h.rips (hexDigits 16 a.toNat) = rs.countP (·.rip = a)
  insts : ∀ i : Vector Byte maxInstrSize,
    h.insts (hexBytes i.toList) = rs.countP (·.instruction = i)

/-- One round of the loop, on a line that was printed. -/
theorem countLine_text {l : Line} (hl : Printed l) (h : Histograms) :
    countLine h l.text =
      { types := tally h.types (l.dec ++ l.suffix).toList
        mxcsrs := tally h.mxcsrs (hexDigits 8 l.mxcsr)
        rips := tally h.rips (hexDigits 16 l.rip)
        insts := tally h.insts (hexBytes l.instr)
        n := h.n + 1 } := by
  obtain ⟨time, hsplit⟩ := splitBlank_text hl
  simp [countLine, hsplit, columns]

/-- The loop is five loops, one a table. -/
theorem foldl_countLine {ls : List Line} (hls : ∀ l ∈ ls, Printed l) (h : Histograms) :
    (ls.map Line.text).foldl countLine h =
      { types := ls.foldl (fun t l => tally t (l.dec ++ l.suffix).toList) h.types
        mxcsrs := ls.foldl (fun t l => tally t (hexDigits 8 l.mxcsr)) h.mxcsrs
        rips := ls.foldl (fun t l => tally t (hexDigits 16 l.rip)) h.rips
        insts := ls.foldl (fun t l => tally t (hexBytes l.instr)) h.insts
        n := h.n + ls.length } := by
  induction ls generalizing h with
  | nil => rfl
  | cons l ls ih =>
    obtain ⟨hl, hls⟩ := List.forall_mem_cons.mp hls
    rw [List.map_cons, List.foldl_cons, countLine_text hl, ih hls]
    simp only [List.foldl_cons, List.length_cons, Histograms.mk.injEq, and_true]
    omega

/-- What the second script makes of the lines of the first. -/
theorem analyzeIndividual_eq (myarch : String) (rs : List TraceRecord) {tail : List Byte}
    (h : tail.length < recordSize) :
    analyzeIndividual (printIndividual myarch (encodeAll rs ++ tail)) =
      ((rs.map (lineOf myarch)).map Line.text).foldl countLine
        ⟨0, fun _ => 0, fun _ => 0, fun _ => 0, fun _ => 0⟩ := by
  rw [analyzeIndividual, printIndividual, parseIndividual_eq myarch rs h, Columns.lines_flatMap]
  intro l hl
  obtain ⟨r, -, rfl⟩ := List.mem_map.mp hl
  exact newline_not_mem_text (printed_lineOf myarch r)

/-- Two instructions of one length print alike only if they are the same. -/
theorem hexBytes_inj {i j : List Byte} (hlen : i.length = j.length)
    (h : hexBytes i = hexBytes j) : i = j := by
  induction i generalizing j with
  | nil => exact (List.length_eq_zero_iff.mp hlen.symm).symm
  | cons b i ih =>
    cases j with
    | nil => cases hlen
    | cons c j =>
      obtain ⟨hhead, htail⟩ := List.append_inj h (by simp)
      have hb := Columns.hexDigits_inj (k := 2) b.isLt c.isLt hhead
      rw [BitVec.eq_of_toNat_eq hb, ih (by simpa using hlen) htail]

/-- A table by a key that is printed in full. -/
theorem tally_lines {κ : Type*} [DecidableEq κ] (myarch : String) (rs : List TraceRecord)
    (column : Line → List Char) (key : TraceRecord → κ) (print : κ → List Char)
    (hcolumn : ∀ r, column (lineOf myarch r) = print (key r)) (hprint : print.Injective) (k : κ) :
    (rs.map (lineOf myarch)).foldl (fun t l => tally t (column l)) (fun _ => 0) (print k) =
      rs.countP (key · = k) := by
  rw [Columns.foldl_tally, Nat.zero_add, List.countP_map]
  congr 1
  funext r
  simp [hcolumn, hprint.eq_iff]

/-- The counts are those of the whole records of the file, whatever is torn behind them. -/
theorem countsOf_analyzeIndividual (myarch : String) (rs : List TraceRecord) {tail : List Byte}
    (h : tail.length < recordSize) :
    CountsOf myarch rs (analyzeIndividual (printIndividual myarch (encodeAll rs ++ tail))) := by
  have hprinted : ∀ l ∈ rs.map (lineOf myarch), Printed l := by
    intro l hl
    obtain ⟨r, -, rfl⟩ := List.mem_map.mp hl
    exact printed_lineOf myarch r
  have hbits : ∀ {w k : Nat}, 2 ^ w = 16 ^ k →
      Function.Injective fun b : BitVec w => hexDigits k b.toNat := by
    intro w k hwk a b hab
    exact BitVec.eq_of_toNat_eq
      (Columns.hexDigits_inj (hwk ▸ a.isLt) (hwk ▸ b.isLt) hab)
  have hinstr : Function.Injective fun i : Vector Byte maxInstrSize => hexBytes i.toList :=
    fun i j hij => Vector.toList_inj.mp (hexBytes_inj (by simp) hij)
  have hfields := lineOf_eq myarch
  rw [analyzeIndividual_eq myarch rs h, foldl_countLine hprinted]
  constructor
  · simp
  · refine tally_lines myarch rs _ (eventName myarch) String.toList (fun r => ?_) fun _ _ =>
      String.toList_inj.mp
    obtain ⟨suffix, hline, hsuffix⟩ := hfields r
    rw [hline, eventName, hsuffix]
  · refine tally_lines myarch rs _ (·.mxcsr) _ (fun r => ?_) (hbits (by decide))
    obtain ⟨suffix, hline, -⟩ := hfields r
    rw [hline]
  · refine tally_lines myarch rs _ (·.rip) _ (fun r => ?_) (hbits (by decide))
    obtain ⟨suffix, hline, -⟩ := hfields r
    rw [hline]
  · refine tally_lines myarch rs _ (·.instruction) _ (fun r => ?_) hinstr
    obtain ⟨suffix, hline, -⟩ := hfields r
    rw [hline]

/-- Two inexact additions at one address, another at the next, and half of an abort record. -/
theorem countsOf_analyzeIndividual_torn :
    let at' (rip : BitVec 64) : TraceRecord :=
      { TraceRecord.abort 7 with rip := rip, code := 6, mxcsr := 0x1f80, pad := 0 }
    (analyzeIndividual (printIndividual "x64"
      (encodeAll [at' 0x401000, at' 0x401004, at' 0x401000] ++ List.replicate 32 0xff))).rips
        (hexDigits 16 0x401000) = 2 := by
  intro at'
  have hlen : (List.replicate 32 0xff : List Byte).length < recordSize := by decide
  exact (countsOf_analyzeIndividual "x64" [at' 0x401000, at' 0x401004, at' 0x401000] hlen).rips
    0x401000

end FPSpy.Perl
