import FPSpy.Trace.Reader

/-!
# Two decoders for one format

`scripts/parse_individual.pl` reads a trace with three reads for each record and takes the
words apart with `unpack`; `libtrace.c` maps the file as an array of records. Perl's numbers
are unsigned where C's `code` is an `int`. A record that is cut off ends the script's loop,
whichever of the three reads comes up short.
-/
namespace FPSpy

open Bytes (Byte leBytes leNat)

/-! ## The script -/

namespace Perl

/-- What is printed for one record: the event's name, in two parts, and the fields. -/
structure Line where
  time : Nat
  dec : String
  suffix : String
  rip : Nat
  rsp : Nat
  code : Nat
  mxcsr : Nat
  instr : List Byte
  deriving DecidableEq

def decode : Nat → Option String
  | 1 => some "FPE_INTDIV"
  | 2 => some "FPE_INTOVF"
  | 3 => some "FPE_FLTDIV"
  | 4 => some "FPE_FLTOVF"
  | 5 => some "FPE_FLTUND"
  | 6 => some "FPE_FLTRES"
  | 7 => some "FPE_FLTINV"
  | 8 => some "FPE_FLTSUB"
  | 0xffffffff => some "***ABORT!!"
  | _ => none

/-- `read(RAW, $buf, n)`: the bytes read, and what is left of the file. -/
def read (raw : List Byte) (n : Nat) : List Byte × List Byte := (raw.take n, raw.drop n)

/-- The three reads for one record, each of which ends the loop if it comes up short: the words,
the instruction, and what is left of the file. -/
def readRecord (raw : List Byte) : Option (List Byte × List Byte × List Byte) :=
  let r := read raw 32
  if r.1.length ≠ 32 then none
  else
    let i := read r.2 15
    if i.1.length ≠ 15 then none
    else
      let j := read i.2 1
      if j.1.length ≠ 1 then none else some (r.1, i.1, j.2)

theorem readRecord_of_length {raw : List Byte} (h : recordSize ≤ raw.length) :
    readRecord raw = some (raw.take 32, (raw.drop 32).take 15, raw.drop recordSize) := by
  have hle : 48 ≤ raw.length := h
  simp only [readRecord, read, List.length_take, List.length_drop, List.drop_drop]
  split_ifs
  · omega
  · omega
  · omega
  · rfl

theorem readRecord_of_short {raw : List Byte} (h : raw.length < recordSize) :
    readRecord raw = none := by
  have hlt : raw.length < 48 := h
  simp only [readRecord, read, List.length_take, List.length_drop, List.drop_drop]
  split_ifs
  · rfl
  · rfl
  · rfl
  · omega

theorem length_of_readRecord {raw rec instr rest : List Byte}
    (h : readRecord raw = some (rec, instr, rest)) : rest.length < raw.length := by
  rcases Nat.lt_or_ge raw.length recordSize with hlt | hle
  · rw [readRecord_of_short hlt] at h
    cases h
  · rw [readRecord_of_length hle] at h
    obtain ⟨-, -, rfl⟩ : _ ∧ _ ∧ raw.drop recordSize = rest := by simpa using h
    rw [List.length_drop]
    have : recordSize = 48 := rfl
    omega

/-- `unpack("QQQLL", $rec)` and the rest of the loop's body. -/
def line (myarch : String) (rec instr : List Byte) : Line :=
  let time := leNat (rec.take 8)
  let rip := leNat ((rec.drop 8).take 8)
  let rsp := leNat ((rec.drop 16).take 8)
  let code := leNat ((rec.drop 24).take 4)
  let mxcsr := leNat ((rec.drop 28).take 4)
  let suffix :=
    if myarch = "x64" ∧ code ≠ 0xffffffff ∧ mxcsr &&& 0x2 ≠ 0 then "-FPE_DENORM" else ""
  ⟨time, (decode code).getD "UNDEF", suffix, rip, rsp, code, mxcsr, instr⟩

/-- The main loop of `parse_individual.pl` on what is left of the file. -/
def parseIndividual (myarch : String) (raw : List Byte) : List Line :=
  match _hread : readRecord raw with
  | none => []
  | some (rec, instr, rest) => line myarch rec instr :: parseIndividual myarch rest
termination_by raw.length
decreasing_by exact length_of_readRecord ‹_›

end Perl

/-! ## The library -/

def printOp (code : BitVec 32) : String :=
  if code.toInt = 1 then "FPE_INTDIV"
  else if code.toInt = 2 then "FPE_INTOVF"
  else if code.toInt = 3 then "FPE_FLTDIV"
  else if code.toInt = 4 then "FPE_FLTOVF"
  else if code.toInt = 5 then "FPE_FLTUND"
  else if code.toInt = 6 then "FPE_FLTRES"
  else if code.toInt = 7 then "FPE_FLTINV"
  else if code.toInt = 8 then "FPE_FLTSUB"
  else if code.toInt = -1 then "***ABORT!!"
  else "***UNKNOWN"

/-- The script prints what the library reads. The names agree for the codes that have one. -/
structure Agree (r : TraceRecord) (l : Perl.Line) : Prop where
  time : l.time = r.time.toNat
  rip : l.rip = r.rip.toNat
  rsp : l.rsp = r.rsp.toNat
  code : l.code = r.code.toNat
  mxcsr : l.mxcsr = r.mxcsr.toNat
  instr : l.instr = r.instruction.toList
  name : (1 ≤ r.code.toNat ∧ r.code.toNat ≤ 8) ∨ r.code = .allOnes 32 → l.dec = printOp r.code

/-! ## Records in a file -/

def wholeRecords (bytes : List Byte) : List TraceRecord :=
  (List.range (bytes.length / recordSize)).map fun i =>
    .load ((bytes.drop (recordSize * i)).take recordSize)

/-- Up to less than a record, a file is the bytes of its whole records. -/
theorem encodeAll_wholeRecords (bytes : List Byte) :
    encodeAll (wholeRecords bytes) =
      bytes.take (recordSize * (bytes.length / recordSize)) := by
  have hprefix : ∀ n, recordSize * n ≤ bytes.length →
      encodeAll ((List.range n).map fun i =>
        .load ((bytes.drop (recordSize * i)).take recordSize)) = bytes.take (recordSize * n) := by
    intro n
    induction n with
    | zero => simp [encodeAll]
    | succ n ih =>
      intro hle
      rw [Nat.mul_succ] at hle ⊢
      have hchunk : ((bytes.drop (recordSize * n)).take recordSize).length = recordSize := by
        rw [List.length_take, List.length_drop]
        omega
      rw [List.range_succ, List.map_append, encodeAll_append, ih (by omega), List.take_add]
      simp [encodeAll, TraceRecord.encode_load hchunk]
  exact hprefix _ (Nat.mul_div_le _ _)

/-- Every file is the bytes of some records, and a tail that is shorter than a record. -/
theorem exists_eq_encodeAll_append (bytes : List Byte) :
    ∃ tail, bytes = encodeAll (wholeRecords bytes) ++ tail ∧
      tail.length = bytes.length % recordSize := by
  refine ⟨bytes.drop (recordSize * (bytes.length / recordSize)), ?_, ?_⟩
  · rw [encodeAll_wholeRecords, List.take_append_drop]
  · rw [List.length_drop, Nat.mod_def]

/-! ## The script's loop -/

namespace Perl

/-- A record that is cut off is not printed. -/
theorem parseIndividual_of_short (myarch : String) {raw : List Byte}
    (h : raw.length < recordSize) : parseIndividual myarch raw = [] := by
  rw [parseIndividual]
  split
  · rfl
  · next hread => simp [readRecord_of_short h] at hread

def words (r : TraceRecord) : List Byte :=
  leBytes 8 r.time.toNat ++ leBytes 8 r.rip.toNat ++ leBytes 8 r.rsp.toNat ++
    leBytes 4 r.code.toNat ++ leBytes 4 r.mxcsr.toNat

theorem readRecord_encode (r : TraceRecord) (raw : List Byte) :
    readRecord (r.encode ++ raw) = some (words r, r.instruction.toList, raw) := by
  have hwords : (words r).length = 32 := by simp [words]
  have hinstr : r.instruction.toList.length = 15 := by simp [maxInstrSize]
  have hencode : r.encode ++ raw = words r ++ (r.instruction.toList ++ ([r.pad] ++ raw)) := by
    simp [TraceRecord.encode, words]
  have hdrop : (r.encode ++ raw).drop recordSize = raw :=
    List.drop_left' (TraceRecord.length_encode r)
  rw [readRecord_of_length (by simp), hdrop, hencode, List.take_left' hwords,
    List.drop_left' hwords, List.take_left' hinstr]

/-- What `unpack` makes of the words of a record. -/
theorem line_words (myarch : String) (r : TraceRecord) :
    ∃ suffix, line myarch (words r) r.instruction.toList =
      ⟨r.time.toNat, (decode r.code.toNat).getD "UNDEF", suffix, r.rip.toNat, r.rsp.toNat,
        r.code.toNat, r.mxcsr.toNat, r.instruction.toList⟩ := by
  have hword : ∀ (offset : Nat) {k n : Nat}, TraceRecord.field (words r) offset k = leBytes k n →
      n < 256 ^ k → leNat (((words r).drop offset).take k) = n := by
    intro offset k n hfield hn
    rw [← Bytes.leNat_leBytes hn, ← hfield]
    rfl
  have htime : leNat ((words r).take 8) = r.time.toNat :=
    hword 0 (by simp [words, TraceRecord.field_take]) r.time.isLt
  have hrip : leNat (((words r).drop 8).take 8) = r.rip.toNat :=
    hword _ (by simp [words, TraceRecord.field_skip, TraceRecord.field_take]) r.rip.isLt
  have hrsp : leNat (((words r).drop 16).take 8) = r.rsp.toNat :=
    hword _ (by simp [words, TraceRecord.field_skip, TraceRecord.field_take]) r.rsp.isLt
  have hcode : leNat (((words r).drop 24).take 4) = r.code.toNat :=
    hword _ (by simp [words, TraceRecord.field_skip, TraceRecord.field_take]) r.code.isLt
  have hmxcsr : leNat (((words r).drop 28).take 4) = r.mxcsr.toNat := by
    refine hword _ ?_ r.mxcsr.isLt
    have hlast : TraceRecord.field (leBytes 4 r.mxcsr.toNat ++ []) 0 4 = leBytes 4 r.mxcsr.toNat :=
      TraceRecord.field_take (Bytes.length_leBytes _ _) []
    rw [List.append_nil] at hlast
    simpa [words, TraceRecord.field_skip] using hlast
  rw [line, htime, hrip, hrsp, hcode, hmxcsr]
  exact ⟨_, rfl⟩

theorem decode_eq_printOp {code : BitVec 32}
    (h : (1 ≤ code.toNat ∧ code.toNat ≤ 8) ∨ code = .allOnes 32) :
    (decode code.toNat).getD "UNDEF" = printOp code := by
  have hfpe : ∀ n < 9, 1 ≤ n → (decode n).getD "UNDEF" = printOp (BitVec.ofNat 32 n) := by decide
  rcases h with ⟨hlow, hhigh⟩ | rfl
  · have hname := hfpe code.toNat (by omega) hlow
    rwa [BitVec.ofNat_toNat, BitVec.setWidth_eq] at hname
  · decide

/-- A whole record is printed as the library reads it, and the loop goes on behind it. -/
theorem parseIndividual_encode (myarch : String) (r : TraceRecord) (raw : List Byte) :
    ∃ l, Agree r l ∧
      parseIndividual myarch (r.encode ++ raw) = l :: parseIndividual myarch raw := by
  obtain ⟨suffix, hline⟩ := line_words myarch r
  refine ⟨line myarch (words r) r.instruction.toList, ?_, ?_⟩
  · rw [hline]
    exact ⟨rfl, rfl, rfl, rfl, rfl, rfl, decode_eq_printOp⟩
  · rw [parseIndividual]
    split
    · next hnone => simp [readRecord_encode] at hnone
    · next rec instr rest hsome =>
      rw [readRecord_encode] at hsome
      obtain ⟨rfl, rfl, rfl⟩ : words r = rec ∧ r.instruction.toList = instr ∧ raw = rest := by
        simpa using hsome
      rfl

/-- The script prints the whole records of a file and nothing of a torn one. -/
theorem agree_parseIndividual (myarch : String) (rs : List TraceRecord) {tail : List Byte}
    (h : tail.length < recordSize) :
    List.Forall₂ Agree rs (parseIndividual myarch (encodeAll rs ++ tail)) := by
  induction rs with
  | nil =>
    rw [show encodeAll [] ++ tail = tail from rfl, parseIndividual_of_short myarch h]
    exact .nil
  | cons r rs ih =>
    obtain ⟨l, hl, hparse⟩ := parseIndividual_encode myarch r (encodeAll rs ++ tail)
    have hcons : encodeAll (r :: rs) ++ tail = r.encode ++ (encodeAll rs ++ tail) := by
      simp [encodeAll]
    rw [hcons, hparse]
    exact .cons hl ih

end Perl

/-! ## Agreement -/

/-- A file whose length is not that of whole records is rejected. -/
theorem traceAttach_of_torn (env : ReaderEnv) {file : TraceFile}
    (h : ¬ recordSize ∣ file.bytes.length) : traceAttach env file = none := by
  have hlt := file.size_lt
  have hmod : BitVec.ofNat 64 file.bytes.length % BitVec.ofNat 64 recordSize ≠ 0 := by
    intro hzero
    have htoNat : (BitVec.ofNat 64 file.bytes.length).toNat = file.bytes.length := by
      rw [BitVec.toNat_ofNat, Nat.mod_eq_of_lt (by omega)]
    have hdvd := congrArg BitVec.toNat hzero
    rw [BitVec.toNat_umod, htoNat] at hdvd
    exact h (Nat.dvd_of_mod_eq_zero hdvd)
  unfold traceAttach
  dsimp only
  rw [if_pos hmod]
  split_ifs <;> rfl

structure DecodersAgree (env : ReaderEnv) (myarch : String) (file : TraceFile) : Prop where
  /-- Of whole records both make the same. -/
  whole : file.bytes ≠ [] → recordSize ∣ file.bytes.length → ∃ rs, ReadsAs env file rs ∧
    List.Forall₂ Agree rs (Perl.parseIndividual myarch file.bytes)
  /-- The library refuses a torn file; the script prints all it has before the torn record. -/
  torn : ¬ recordSize ∣ file.bytes.length → traceAttach env file = none ∧
    ∃ rs tail, file.bytes = encodeAll rs ++ tail ∧ tail.length < recordSize ∧
      List.Forall₂ Agree rs (Perl.parseIndividual myarch file.bytes)

theorem decodersAgree {env : ReaderEnv} (h : env.Ready) (myarch : String) (file : TraceFile) :
    DecodersAgree env myarch file := by
  obtain ⟨tail, hbytes, hlen⟩ := exists_eq_encodeAll_append file.bytes
  have htail : tail.length < recordSize := hlen ▸ Nat.mod_lt _ (by decide)
  have hagree := Perl.agree_parseIndividual myarch (wholeRecords file.bytes) htail
  rw [← hbytes] at hagree
  constructor
  · intro hne hdvd
    have hnil : tail = [] := by
      rw [← List.length_eq_zero_iff, hlen]
      exact Nat.mod_eq_zero_of_dvd hdvd
    rw [hnil, List.append_nil] at hbytes
    refine ⟨_, (readsAs_iff h hbytes).mpr ?_, hagree⟩
    intro hrs
    exact hne (by rw [hbytes, hrs]; rfl)
  · intro htorn
    exact ⟨traceAttach_of_torn env htorn, _, tail, hbytes, htail, hagree⟩

/-- On three whole records, and on these with the first 20 bytes of another one behind them. -/
theorem decodersAgree_abortedRun :
    DecodersAgree readyEnv "x64" ⟨encodeAll abortedRun, by rw [length_encodeAll]; decide⟩ ∧
      DecodersAgree readyEnv "x64"
        ⟨encodeAll abortedRun ++ (TraceRecord.abort 30).encode.take 20, by
          rw [List.length_append, length_encodeAll]
          decide⟩ :=
  ⟨decodersAgree ready_readyEnv "x64" _, decodersAgree ready_readyEnv "x64" _⟩

end FPSpy
