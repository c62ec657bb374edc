import FPSpy.Lib.Search
import FPSpy.Machine.Status

/-!
# The aggregate report

When a thread exits in aggregate mode, the flags of its status register are written out as
text. The report is exact on x64 and riscv64. On arm64 the backend looks for the flag of
denormal operands in the wrong bit, so that the report is exact as long as no operation
raises it.
-/
namespace FPSpy

def Fe.macroName : Fe → List Char
  | .divbyzero => "FE_DIVBYZERO".toList
  | .inexact => "FE_INEXACT".toList
  | .invalid => "FE_INVALID".toList
  | .overflow => "FE_OVERFLOW".toList
  | .underflow => "FE_UNDERFLOW".toList
  | .denorm => "FE_DENORM".toList

def noExceptionsRecorded : List Char := "NO_EXCEPTIONS_RECORDED".toList

namespace Report

/-! ## The text -/

structure Buffer where
  buf : List Char
  noted : Bool

/-- One name is added, after a space unless it is the first. -/
def Buffer.handle (b : Buffer) (e : Fe) : Buffer :=
  if b.noted then ⟨b.buf ++ ' ' :: e.macroName, true⟩ else ⟨b.buf ++ e.macroName, true⟩

def stringifyCurrentFeExceptions (S : StatusRegister) (status : BitVec 32) : List Char :=
  let b : Buffer := Fe.standard.foldl
    (fun b e => if S.fetestexcept status e then b.handle e else b) ⟨[], false⟩
  let b := if S.archHaveSpecialFpCsrException status .denorm then b.handle .denorm else b
  if !b.noted then noExceptionsRecorded else b.buf

/-- `handle_aggregate_thread_exit`: what is written, if a file is to be written and can be
opened. -/
def handleAggregateThreadExit (S : StatusRegister) (createMonitorFile opened aborted : Bool)
    (status : BitVec 32) : Option (List Char) :=
  if createMonitorFile then
    if opened then
      some (if !aborted then stringifyCurrentFeExceptions S status ++ ['\n']
        else "ABORTED\n".toList)
    else none
  else none

def detected (S : StatusRegister) (status : BitVec 32) : List Fe :=
  Fe.standard.filter (S.fetestexcept status) ++
    if S.archHaveSpecialFpCsrException status .denorm then [.denorm] else []

def listing (es : List Fe) : List Char :=
  if es = [] then noExceptionsRecorded else [' '].intercalate (es.map Fe.macroName)

/-- A text lists exactly the exceptions of a set, each once. -/
def Lists (set : Fe → Prop) (text : List Char) : Prop :=
  ∃ es : List Fe, es.Nodup ∧ (∀ e, e ∈ es ↔ set e) ∧ text = listing es ++ ['\n']

def Buffer.of (es : List Fe) : Buffer := ⟨[' '].intercalate (es.map Fe.macroName), !es.isEmpty⟩

theorem Buffer.handle_of (es : List Fe) (e : Fe) :
    (Buffer.of es).handle e = Buffer.of (es ++ [e]) := by
  cases es with
  | nil => simp [Buffer.handle, Buffer.of]
  | cons a es =>
    have hconcat := Search.intercalate_concat [' '] ((a :: es).map Fe.macroName) (by simp)
      e.macroName
    simp only [List.map_cons, List.cons_append, List.nil_append] at hconcat
    simp [Buffer.handle, Buffer.of, hconcat]

theorem foldl_handle (test : Fe → Bool) (xs es : List Fe) :
    xs.foldl (fun b e => if test e then b.handle e else b) (Buffer.of es) =
      Buffer.of (es ++ xs.filter test) := by
  induction xs generalizing es with
  | nil => simp
  | cons x xs ih =>
    rw [List.foldl_cons]
    by_cases hx : test x = true
    · rw [if_pos hx, Buffer.handle_of, ih, List.filter_cons_of_pos hx, List.append_assoc,
        List.singleton_append]
    · rw [if_neg hx, ih, List.filter_cons_of_neg hx]

/-- All names that are added. -/
theorem foldl_handle_special (S : StatusRegister) (status : BitVec 32) :
    (let b : Buffer := Fe.standard.foldl
        (fun b e => if S.fetestexcept status e then b.handle e else b) ⟨[], false⟩
      if S.archHaveSpecialFpCsrException status .denorm then b.handle .denorm else b) =
      Buffer.of (detected S status) := by
  have hstandard := foldl_handle (S.fetestexcept status) Fe.standard []
  have hnil : Buffer.of [] = ⟨[], false⟩ := by simp [Buffer.of]
  rw [hnil, List.nil_append] at hstandard
  dsimp only
  rw [hstandard]
  unfold detected
  split_ifs
  · exact Buffer.handle_of _ _
  · rw [List.append_nil]

/-- The text is the listing of what is detected. -/
theorem stringify_eq (S : StatusRegister) (status : BitVec 32) :
    stringifyCurrentFeExceptions S status = listing (detected S status) := by
  have hall := foldl_handle_special S status
  unfold stringifyCurrentFeExceptions
  dsimp only at hall ⊢
  rw [hall]
  cases h : detected S status <;> simp [Buffer.of, listing]

/-! ## Reading a listing -/

/-- A name occurs in itself only. -/
theorem macroName_infix_iff (e n : Fe) : e.macroName <:+: n.macroName ↔ n = e := by
  cases e <;> cases n <;> decide

theorem macroName_infix_listing (e : Fe) (es : List Fe) :
    e.macroName <:+: listing es ++ ['\n'] ↔ e ∈ es := by
  have hline : '\n' ∉ e.macroName := by cases e <;> decide
  have hspace : ' ' ∉ e.macroName := by cases e <;> decide
  have hne : e.macroName ≠ [] := by cases e <;> decide
  have hnone : ¬ e.macroName <:+: noExceptionsRecorded := by cases e <;> decide
  rw [Search.infix_append_cons_iff hline]
  unfold listing
  split_ifs with hes
  · simp [hes, hnone, hne]
  · rw [Search.infix_intercalate_iff hspace hne]
    simp [macroName_infix_iff, hne]

/-- A listing lists what is on it, and no other set. -/
theorem lists_iff {set : Fe → Prop} {es : List Fe} (hes : es.Nodup) :
    Lists set (listing es ++ ['\n']) ↔ ∀ e, e ∈ es ↔ set e := by
  constructor
  · rintro ⟨fs, -, hfs, htext⟩ e
    rw [← macroName_infix_listing, htext, macroName_infix_listing, hfs]
  · exact fun h => ⟨es, hes, h, rfl⟩

theorem detected_sublist (S : StatusRegister) (status : BitVec 32) :
    List.Sublist (detected S status) (Fe.standard ++ [.denorm]) := by
  unfold detected
  apply List.Sublist.append List.filter_sublist
  split_ifs
  · exact List.Sublist.refl _
  · exact List.nil_sublist _

theorem nodup_detected (S : StatusRegister) (status : BitVec 32) : (detected S status).Nodup := by
  have hstandard : (Fe.standard ++ [Fe.denorm]).Nodup := by decide
  exact hstandard.sublist (detected_sublist S status)

theorem mem_detected (S : StatusRegister) (status : BitVec 32) (e : Fe) :
    e ∈ detected S status ↔
      if e = .denorm then S.archHaveSpecialFpCsrException status .denorm = true
      else S.fetestexcept status e = true := by
  unfold detected
  cases e <;> by_cases h : S.archHaveSpecialFpCsrException status .denorm = true <;>
    simp [h, Fe.standard]

/-- The report of a thread that exits is a listing of what its register shows. -/
theorem lists_report_iff {S : StatusRegister} {status : BitVec 32} {set : Fe → Prop}
    {text : List Char} (htext : handleAggregateThreadExit S true true false status = some text) :
    Lists set text ↔ ∀ e, (if e = .denorm then
      S.archHaveSpecialFpCsrException status .denorm = true
        else S.fetestexcept status e = true) ↔ set e := by
  obtain rfl := Option.some.inj htext
  simp only [Bool.not_false, if_true, stringify_eq, lists_iff (nodup_detected S status),
    mem_detected]

/-! ## A run -/

/-- The register after some operations of a target that makes no intercepted call: `bringup` clears
the flags once. -/
def registerAfter (S : StatusRegister) (ops : List (List Fe)) : BitVec 32 :=
  S.execute (S.feclearexceptAll S.startup) ops

theorem fetestexcept_registerAfter (S : StatusRegister) (ops : List (List Fe)) (e : Fe) :
    S.fetestexcept (registerAfter S ops) e = true ↔ S.Recorded ops e := by
  have hstart : S.fetestexcept S.startup e = false := by
    simp [StatusRegister.fetestexcept, S.startup_clear]
  rw [registerAfter, S.fetestexcept_execute, S.fetestexcept_feclearexceptAll, hstart]
  simp

/-- IDC is bit 7 of FPSR: no operation ever sets the bit that the source tests. -/
theorem archHaveSpecial_arm64 (ops : List (List Fe)) :
    Isa.arm64.status.archHaveSpecialFpCsrException (registerAfter Isa.arm64.status ops) .denorm =
      false := by
  have hbit : registerAfter Arm64.status ops &&& 0x100 = 0 := by
    rw [registerAfter, Arm64.status.execute_and_of_disjoint (by intro e; cases e <;> decide)]
    decide
  change Arm64.archHaveSpecialFpCsrException (registerAfter Arm64.status ops) .denorm = false
  rw [Arm64.archHaveSpecialFpCsrException, hbit]
  rfl

/-- The backend's test for denormal operands sees the flag, except on arm64. -/
theorem archHaveSpecial_registerAfter (isa : Isa) (ops : List (List Fe)) :
    isa.status.archHaveSpecialFpCsrException (registerAfter isa.status ops) .denorm = true ↔
      isa ≠ .arm64 ∧ isa.status.Recorded ops .denorm := by
  cases isa with
  | x64 =>
    rw [← fetestexcept_registerAfter]
    simp [Isa.status, X64.status, X64.archHaveSpecialFpCsrException, StatusRegister.fetestexcept,
      X64.feBit]
  | arm64 => simp [archHaveSpecial_arm64 ops]
  | riscv64 =>
    simp [Isa.status, Riscv64.status, Riscv64.archHaveSpecialFpCsrException,
      StatusRegister.Recorded, Riscv64.statusBit]

/-- The report is written, and it is exact unless an operation raises the flag of denormal operands
on arm64. -/
theorem report_exact_iff (isa : Isa) (ops : List (List Fe)) :
    ∃ text, handleAggregateThreadExit isa.status true true false (registerAfter isa.status ops) =
        some text ∧
      (Lists (isa.status.Recorded ops) text ↔
        ¬ (isa = .arm64 ∧ ∃ op ∈ ops, Fe.denorm ∈ op)) := by
  refine ⟨_, rfl, ?_⟩
  rw [lists_report_iff rfl]
  have hidc : isa = .arm64 → isa.status.bit .denorm ≠ 0 := by
    rintro rfl
    decide
  constructor
  · rintro h ⟨harm, hraised⟩
    have hdenorm := h .denorm
    rw [if_pos rfl, archHaveSpecial_registerAfter] at hdenorm
    exact (hdenorm.mpr ⟨hidc harm, hraised⟩).1 harm
  · intro h e
    by_cases he : e = .denorm
    · subst he
      rw [if_pos rfl, archHaveSpecial_registerAfter]
      exact ⟨And.right, fun hrec => ⟨fun harm => h ⟨harm, hrec.2⟩, hrec⟩⟩
    · rw [if_neg he]
      exact fetestexcept_registerAfter isa.status ops e

/-- On arm64 an operation with a denormal operand and an inexact result is reported as inexact
only. -/
theorem not_exact_arm64 :
    handleAggregateThreadExit Arm64.status true true false
        (registerAfter Arm64.status [[.denorm, .inexact]]) = some "FE_INEXACT\n".toList ∧
      ¬ Lists (Arm64.status.Recorded [[.denorm, .inexact]]) "FE_INEXACT\n".toList := by
  have htext : handleAggregateThreadExit Arm64.status true true false
      (registerAfter Arm64.status [[.denorm, .inexact]]) = some "FE_INEXACT\n".toList := by decide
  refine ⟨htext, fun h => ?_⟩
  have hdenorm := ((lists_report_iff htext).mp h .denorm).mpr
    ⟨by decide, [.denorm, .inexact], by simp, by simp⟩
  exact absurd hdenorm (by decide)

end Report
end FPSpy
