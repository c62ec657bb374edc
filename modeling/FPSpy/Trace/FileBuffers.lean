import Mathlib.Data.List.Flatten
import FPSpy.Aggregate.Report
import FPSpy.Individual.FileNames
import FPSpy.Lib.CString

/-!
# The buffers of names and reports

The names of the trace files are formatted by `sprintf` into arrays of 80 bytes, and the text of
the aggregate report is put together by `strcat` in one of them. The report has 71 bytes at most.
Of a name, the format and the terminating zero leave 57 bytes to the program, the second and the
thread. A program's name of 26 bytes always fits; Linux allows 255.
-/
namespace FPSpy

open CString

namespace Report

variable {cap : Nat}

/-! ## The report in its buffer -/

/-- `FE_HANDLE(e)` for an exception that is raised, on `buf` and `have`. -/
def handleIn (b : Buf cap × Bool) (e : Fe) : Option (Buf cap × Bool) :=
  (b.1.strcat (if b.2 then ' ' :: e.macroName else e.macroName)).map (·, true)

/-- The same for `FE_DENORM`: the space is appended by itself. -/
def handleDenormIn (b : Buf cap × Bool) : Option (Buf cap × Bool) :=
  (if b.2 then b.1.strcat [' '] else some b.1).bind fun buf =>
    (buf.strcat Fe.denorm.macroName).map (·, true)

def finishIn (b : Buf cap × Bool) : Option (Buf cap) :=
  if !b.2 then strcpy cap noExceptionsRecorded else some b.1

/-- `stringify_current_fe_exceptions`, on an array of `cap` bytes -/
def stringifyIn (cap : Nat) (S : StatusRegister) (status : BitVec 32) : Option (Buf cap) :=
  (strcpy cap []).bind fun buf =>
    ((Fe.standard.foldlM
      (fun b e => if S.fetestexcept status e then handleIn b e else some b) (buf, false)).bind
      fun b => if S.archHaveSpecialFpCsrException status .denorm then handleDenormIn b
        else some b).bind finishIn

/-- A text, if the array holds it, and whether there is a name in it. -/
def Buffer.hold (cap : Nat) (b : Buffer) : Option (Buf cap × Bool) :=
  (strcpy cap b.buf).map (·, b.noted)

theorem hold_bind_handleIn (b : Buffer) (e : Fe) :
    (b.hold cap).bind (handleIn · e) = (b.handle e).hold cap := by
  have happend : ∀ s : List Char,
      (strcpy cap b.buf).bind (fun buf => (buf.strcat s).map (·, true)) =
        (strcpy cap (b.buf ++ s)).map (·, true) := by
    intro s
    rw [← strcpy_bind_strcat, Option.map_bind]
    rfl
  unfold Buffer.hold Buffer.handle handleIn
  rw [Option.bind_map]
  cases b.noted
  · exact happend _
  · exact happend _

/-- Two appends for one. -/
theorem handleDenormIn_eq (b : Buf cap × Bool) : handleDenormIn b = handleIn b .denorm := by
  obtain ⟨buf, noted⟩ := b
  cases noted with
  | false => rfl
  | true =>
    have hspace := buf.strcat_bind_strcat [' '] Fe.denorm.macroName
    simp only [handleDenormIn, handleIn, if_true]
    exact Option.map_bind.symm.trans (congrArg (Option.map (·, true)) hspace)

/-- The loop over the exceptions, in the array and out of it. -/
theorem hold_bind_foldlM (test : Fe → Bool) (xs : List Fe) (b : Buffer) :
    (b.hold cap).bind (xs.foldlM fun b e => if test e then handleIn b e else some b) =
      (xs.foldl (fun b e => if test e then b.handle e else b) b).hold cap := by
  induction xs generalizing b with
  | nil => cases h : b.hold cap <;> exact h.symm
  | cons x xs ih =>
    rw [List.foldl_cons, ← ih]
    by_cases hx : test x = true
    · simp only [List.foldlM_cons, if_pos hx, ← hold_bind_handleIn]
      exact (Option.bind_assoc _ _ _).symm
    · simp only [List.foldlM_cons, if_neg hx]
      rfl

theorem hold_bind_denorm (c : Prop) [Decidable c] (b : Buffer) :
    (b.hold cap).bind (fun b => if c then handleDenormIn b else some b) =
      (if c then b.handle .denorm else b).hold cap := by
  split_ifs
  · simp only [handleDenormIn_eq, hold_bind_handleIn]
  · exact Option.bind_fun_some _

theorem hold_bind_finishIn (hcap : 0 < cap) (es : List Fe) :
    ((Buffer.of es).hold cap).bind finishIn = strcpy cap (listing es) := by
  have hempty : strcpy cap [] = some ⟨[], hcap⟩ := dif_pos hcap
  cases es with
  | nil => simp [Buffer.of, Buffer.hold, finishIn, listing, hempty]
  | cons e es =>
    rw [Buffer.hold, Option.bind_map]
    exact Option.bind_fun_some _

/-- The chain of appends stays in its array exactly if the finished text does. -/
theorem stringifyIn_eq (hcap : 0 < cap) (S : StatusRegister) (status : BitVec 32) :
    stringifyIn cap S status = strcpy cap (stringifyCurrentFeExceptions S status) := by
  have hstart : strcpy cap [] = some ⟨[], hcap⟩ := dif_pos hcap
  have hhold : (⟨[], false⟩ : Buffer).hold cap = some (⟨[], hcap⟩, false) := by
    rw [Buffer.hold, hstart]
    rfl
  have hfold := @hold_bind_foldlM cap (S.fetestexcept status) Fe.standard ⟨[], false⟩
  rw [hhold, Option.bind_some] at hfold
  have hall := foldl_handle_special S status
  dsimp only at hall
  rw [stringifyIn, hstart, Option.bind_some, hfold, hold_bind_denorm, hall,
    hold_bind_finishIn hcap, stringify_eq]

/-- All six names with their spaces, the newline and the zero are 71 bytes. -/
theorem length_report_le {S : StatusRegister} {createMonitorFile opened aborted : Bool}
    {status : BitVec 32} {text : List Char}
    (h : handleAggregateThreadExit S createMonitorFile opened aborted status = some text) :
    text.length + 1 ≤ 71 := by
  have hlisting : (listing (detected S status)).length ≤ 69 := by
    unfold listing
    split_ifs with hes
    · decide
    · have hnames : (detected S status).map Fe.macroName ≠ [] := mt List.map_eq_nil_iff.mp hes
      have hlength := congrArg List.length (Search.cons_intercalate ' ' hnames)
      have hsublist := (((detected_sublist S status).map Fe.macroName).flatMap (' ' :: ·)).length_le
      have hall : (((Fe.standard ++ [Fe.denorm]).map Fe.macroName).flatMap (' ' :: ·)).length =
          70 := by decide
      rw [List.length_cons] at hlength
      omega
  unfold handleAggregateThreadExit at h
  split_ifs at h with _ _ haborted <;> obtain rfl := Option.some.inj h
  · rw [stringify_eq, List.length_append, List.length_singleton]
    omega
  · decide

end Report

/-! ## The names -/

/-- A file name of Linux, as `program_invocation_short_name`: 255 bytes at most, none of them zero
or a slash. A character stands for a byte. -/
structure ShortName where
  chars : List Char
  legal : ∀ c ∈ chars, c.toNat < 256 ∧ c ≠ Char.ofNat 0 ∧ c ≠ '/'
  length_le : chars.length ≤ 255

def bufSize : Nat := 80

def individualFormat : List Char := "__%s.%lu.%d.individual.fpemon".toList

def aggregateFormat : List Char := "__%s.%lu.%d.aggregate.fpemon".toList

def nameArgs (prog : List Char) (time : BitVec 64) (tid : BitVec 32) : List Arg :=
  [.s prog, .lu time, .d tid]

def fpemonName (prog : List Char) (time : BitVec 64) (tid : BitVec 32) (suffix : List Char) :
    List Char :=
  "__".toList ++ prog ++ '.' :: (Arg.lu time).text ++ '.' :: (Arg.d tid).text ++ suffix

variable (prog : List Char) (time : BitVec 64) (tid : BitVec 32)

theorem format_fpemon {suffix : List Char} (hsuffix : '%' ∉ suffix) :
    format ("__%s.%lu.%d".toList ++ suffix) (nameArgs prog time tid) =
      some (fpemonName prog time tid suffix) := by
  have hfmt : "__%s.%lu.%d".toList ++ suffix =
      "__".toList ++ (Arg.s prog).directive ++
        (['.'] ++ (Arg.lu time).directive ++ (['.'] ++ (Arg.d tid).directive ++ suffix)) := rfl
  rw [hfmt, nameArgs, format_cons (by decide), format_cons (by decide), format_cons (by decide),
    format_nil hsuffix]
  simp [fpemonName, Arg.text]

theorem format_individual : format individualFormat (nameArgs prog time tid) =
    some (fpemonName prog time tid ".individual.fpemon".toList) := by
  have hfmt : individualFormat = "__%s.%lu.%d".toList ++ ".individual.fpemon".toList := by decide
  rw [hfmt, format_fpemon prog time tid (by decide)]

theorem format_aggregate : format aggregateFormat (nameArgs prog time tid) =
    some (fpemonName prog time tid ".aggregate.fpemon".toList) := by
  have hfmt : aggregateFormat = "__%s.%lu.%d".toList ++ ".aggregate.fpemon".toList := by decide
  rw [hfmt, format_fpemon prog time tid (by decide)]

/-- The name of an opening is what is formatted. -/
theorem format_individual_name (o : FileOpening) (htime : o.time < 2 ^ 64) (htid : o.tid < 2 ^ 31) :
    format individualFormat (nameArgs o.programInvocationShortName (BitVec.ofNat 64 o.time)
      (BitVec.ofNat 32 o.tid)) = some o.name := by
  have hint : (BitVec.ofNat 32 o.tid).toInt = (o.tid : Int) := by
    rw [BitVec.toInt_eq_toNat_of_lt] <;> rw [BitVec.toNat_ofNat] <;> omega
  have htext : (Arg.d (BitVec.ofNat 32 o.tid)).text = Nat.toDigits 10 o.tid := by
    simp [Arg.text, hint]
  have htext' : (Arg.lu (BitVec.ofNat 64 o.time)).text = Nat.toDigits 10 o.time := by
    rw [Arg.text, BitVec.toNat_ofNat, Nat.mod_eq_of_lt htime]
  rw [format_individual, fpemonName, htext, htext', FileOpening.name]

/-- A name and its terminating zero are in the buffer. -/
theorem fpemonName_le_bufSize_iff {fmt suffix : List Char}
    (hfmt : format fmt (nameArgs prog time tid) = some (fpemonName prog time tid suffix)) :
    (∃ s, format fmt (nameArgs prog time tid) = some s ∧ s.length + 1 ≤ bufSize) ↔
      prog.length + decimalWidth time.toNat + decimalWidth tid.toInt + suffix.length ≤ 75 := by
  have hlength : (fpemonName prog time tid suffix).length =
      prog.length + decimalWidth time.toNat + decimalWidth tid.toInt + suffix.length + 4 := by
    have hstart : "__".toList.length = 2 := rfl
    simp only [fpemonName, List.length_append, List.length_cons, length_text_lu, length_text_d,
      hstart]
    omega
  simp only [hfmt, Option.some.injEq, exists_eq_left', hlength, bufSize]
  omega

theorem individual_le_bufSize_iff :
    (∃ s, format individualFormat (nameArgs prog time tid) = some s ∧ s.length + 1 ≤ bufSize) ↔
      prog.length + decimalWidth time.toNat + decimalWidth tid.toInt ≤ 57 :=
  (fpemonName_le_bufSize_iff prog time tid (format_individual prog time tid)).trans
    Nat.add_le_add_iff_right

theorem aggregate_le_bufSize_iff :
    (∃ s, format aggregateFormat (nameArgs prog time tid) = some s ∧ s.length + 1 ≤ bufSize) ↔
      prog.length + decimalWidth time.toNat + decimalWidth tid.toInt ≤ 58 :=
  (fpemonName_le_bufSize_iff prog time tid (format_aggregate prog time tid)).trans
    Nat.add_le_add_iff_right

/-! ## What fits -/

/-- All that is put into the two buffers, with its terminating zero, has 80 bytes at most. -/
structure Fits (prog : ShortName) (time : BitVec 64) (tid : BitVec 32) : Prop where
  individual : ∃ s, format individualFormat (nameArgs prog.chars time tid) = some s ∧
    s.length + 1 ≤ bufSize
  aggregate : ∃ s, format aggregateFormat (nameArgs prog.chars time tid) = some s ∧
    s.length + 1 ≤ bufSize
  report : ∀ S createMonitorFile opened aborted status text,
    Report.handleAggregateThreadExit S createMonitorFile opened aborted status = some text →
      text.length + 1 ≤ bufSize

theorem fits_of_individual {prog : ShortName} {time : BitVec 64} {tid : BitVec 32}
    (h : ∃ s, format individualFormat (nameArgs prog.chars time tid) = some s ∧
      s.length + 1 ≤ bufSize) : Fits prog time tid where
  individual := h
  aggregate := by
    rw [individual_le_bufSize_iff] at h
    rw [aggregate_le_bufSize_iff]
    omega
  report S createMonitorFile opened aborted status text htext :=
    (Report.length_report_le htext).trans (by decide)

/-- The report always fits. The names do if the program's name, the second and the thread have 57
bytes at most together. -/
theorem fits_iff (prog : ShortName) (time : BitVec 64) (tid : BitVec 32) :
    Fits prog time tid ↔
      prog.chars.length + decimalWidth time.toNat + decimalWidth tid.toInt ≤ 57 := by
  rw [← individual_le_bufSize_iff]
  exact ⟨Fits.individual, fits_of_individual⟩

def longName : ShortName where
  chars := List.replicate 60 'a'
  legal c hc := by
    obtain rfl := List.eq_of_mem_replicate hc
    decide
  length_le := by
    rw [List.length_replicate]
    decide

theorem not_fits_longName : ¬ Fits longName 1700000000 4242 := by
  intro h
  have hwidth := (individual_le_bufSize_iff _ _ _).mp h.individual
  have hname : longName.chars.length = 60 := List.length_replicate
  omega

/-- The names that fit at every time in every thread. -/
theorem fits_always_iff (prog : ShortName) :
    (∀ time tid, Fits prog time tid) ↔ prog.chars.length ≤ 26 := by
  constructor
  · intro h
    have hworst := (individual_le_bufSize_iff _ _ _).mp
      (h (BitVec.allOnes 64) (BitVec.intMin 32)).individual
    have htime : decimalWidth (BitVec.allOnes 64).toNat = 20 := by decide
    have htid : decimalWidth (BitVec.intMin 32).toInt = 11 := by decide
    omega
  · intro h time tid
    have htime : decimalWidth time.toNat ≤ 20 := by
      have hle := decimalWidth_le (n := time.toNat) (k := 19) (by have := time.isLt; omega)
      split_ifs at hle <;> omega
    have htid : decimalWidth tid.toInt ≤ 11 := by
      have hle := decimalWidth_le (n := tid.toInt) (k := 9)
        (by have := tid.isLt; grind [BitVec.toInt_eq_toNat_cond])
      split_ifs at hle <;> omega
    apply fits_of_individual
    rw [individual_le_bufSize_iff]
    omega

/-! ## The code on its buffers -/

variable (S : StatusRegister) (createMonitorFile aborted : Bool) (opens : List Char → Bool)
  (status : BitVec 32)

/-- `handle_aggregate_thread_exit`: the text replaces the name in `buf`. -/
def handleAggregateThreadExitIn : Option (Option (List Char)) :=
  if createMonitorFile then
    (sprintf bufSize aggregateFormat (nameArgs prog time tid)).bind fun name =>
      if opens name.str then
        (if !aborted then (Report.stringifyIn bufSize S status).bind (·.strcat ['\n'])
          else strcpy bufSize "ABORTED\n".toList).map fun buf => some buf.str
      else some none
  else some none

/-- The name can run over the end of the buffer, the text cannot. -/
theorem handleAggregateThreadExitIn_eq {s : List Char}
    (h : format aggregateFormat (nameArgs prog time tid) = some s) :
    handleAggregateThreadExitIn prog time tid S createMonitorFile aborted opens status =
      if createMonitorFile = true ∧ bufSize ≤ s.length then none
      else
        some (Report.handleAggregateThreadExit S createMonitorFile (opens s) aborted status) := by
  rw [handleAggregateThreadExitIn, sprintf, h, Option.bind_some]
  cases createMonitorFile with
  | false => rfl
  | true =>
    rw [if_pos rfl]
    by_cases hs : s.length < bufSize
    · have hcap : 0 < bufSize := by decide
      have hin : ¬ (true = true ∧ bufSize ≤ s.length) := fun h => absurd h.2 (by omega)
      rw [strcpy, dif_pos hs, Option.bind_some, if_neg hin]
      cases hopens : opens s with
      | false => rfl
      | true =>
        have hkept : ∀ text,
            Report.handleAggregateThreadExit S true true aborted status = some text →
              (strcpy bufSize text).map (fun buf => some buf.str) = some (some text) := by
          intro text htext
          have hlength := (Report.length_report_le htext).trans (by decide : 71 ≤ bufSize)
          rw [strcpy, dif_pos (by omega)]
          rfl
        rw [if_pos rfl, Report.stringifyIn_eq hcap, strcpy_bind_strcat]
        cases aborted with
        | false => exact hkept _ rfl
        | true => exact hkept _ rfl
    · have hout : true = true ∧ bufSize ≤ s.length := ⟨rfl, by omega⟩
      rw [strcpy, dif_neg hs, if_pos hout]
      rfl

/-- Nothing is written behind the buffers exactly if the names fit. -/
theorem fits_iff_no_overrun (prog : ShortName) (time : BitVec 64) (tid : BitVec 32) :
    Fits prog time tid ↔
      (sprintf bufSize individualFormat (nameArgs prog.chars time tid)).isSome = true ∧
        ∀ S createMonitorFile aborted opens status,
          (handleAggregateThreadExitIn prog.chars time tid S createMonitorFile aborted opens
            status).isSome = true := by
  rw [isSome_sprintf_iff]
  constructor
  · intro h
    refine ⟨h.individual, fun S createMonitorFile aborted opens status => ?_⟩
    obtain ⟨s, hs, hlength⟩ := h.aggregate
    rw [handleAggregateThreadExitIn_eq _ _ _ _ _ _ _ _ hs, if_neg (by omega)]
    rfl
  · exact fun h => fits_of_individual h.1

end FPSpy
