import Mathlib.Data.BitVec

/-!
# Trace records and their buffer

`struct individual_trace_record` and the two functions that buffer records in a
monitoring context. The live part of `trace_records` is a list, so that
`trace_record_count` is its length. Both functions return what they hand to
`writeall`; whether the write succeeds is decided by the system that owns the file.
-/
namespace FPSpy

abbrev maxInstrSize : Nat := 15

/-- One record. `code` is `si_code`; `mxcsr` is the low half of the FP control register. -/
structure TraceRecord where
  time : BitVec 64
  rip : BitVec 64
  rsp : BitVec 64
  code : BitVec 32
  mxcsr : BitVec 32
  instruction : Vector (BitVec 8) maxInstrSize
  pad : BitVec 8
  deriving DecidableEq

namespace TraceRecord

/-- `memset(&r, 0xff, sizeof(r))`, then the time. -/
def abort (time : BitVec 64) : TraceRecord where
  time := time
  rip := .allOnes 64
  rsp := .allOnes 64
  code := .allOnes 32
  mxcsr := .allOnes 32
  instruction := Vector.replicate maxInstrSize (.allOnes 8)
  pad := .allOnes 8

/-- Events are written with a zero pad, the abort record with all bits set. -/
def IsEvent (r : TraceRecord) : Prop := r.pad = 0

instance (r : TraceRecord) : Decidable r.IsEvent := inferInstanceAs (Decidable (_ = _))

theorem not_isEvent_abort (time : BitVec 64) : ¬ (abort time).IsEvent := by
  simp only [IsEvent, abort]; decide

end TraceRecord

namespace Trace

/-- The buffer left behind and the records handed to `writeall`. -/
structure Flushed where
  buffer : List TraceRecord
  written : List TraceRecord
  deriving DecidableEq

/-- `flush_trace_records`, with `CONFIG_TRACE_BUFLEN` as an argument. -/
def flushTraceRecords (buflen : Nat) (buffer : List TraceRecord) : Flushed :=
  if buflen = 0 then ⟨buffer, []⟩
  else if 0 < buffer.length then ⟨[], buffer⟩
  else ⟨buffer, []⟩

def pushTraceRecord (buflen : Nat) (buffer : List TraceRecord) (r : TraceRecord) : Flushed :=
  if buflen = 0 then ⟨buffer, [r]⟩
  else
    let buffer := buffer ++ [r]
    if buflen ≤ buffer.length then flushTraceRecords buflen buffer else ⟨buffer, []⟩

/-- A push writes a prefix of what is buffered, in order, and keeps the rest. -/
theorem push_written_append (buflen : Nat) (buffer : List TraceRecord) (r : TraceRecord)
    (h : buflen = 0 → buffer = []) :
    (pushTraceRecord buflen buffer r).written ++ (pushTraceRecord buflen buffer r).buffer =
      buffer ++ [r] := by
  unfold pushTraceRecord
  by_cases h₀ : buflen = 0
  · simp [h₀, h h₀]
  · simp only [h₀, if_false]
    split_ifs with h₁
    · simp [flushTraceRecords, h₀]
    · rfl

/-- A flush empties the buffer; without buffering there is nothing in it. -/
theorem flush_eq (buflen : Nat) {buffer : List TraceRecord} (h : buflen = 0 → buffer = []) :
    flushTraceRecords buflen buffer = ⟨[], buffer⟩ := by
  unfold flushTraceRecords
  split_ifs with h₀ h₁
  · simp [h h₀]
  · rfl
  · simp [List.eq_nil_of_length_eq_zero (Nat.eq_zero_of_not_pos h₁)]

/-- A push leaves a buffer only where there is buffering. -/
theorem push_buffer_eq_nil {buflen : Nat} (hbuf : buflen = 0) {buffer : List TraceRecord}
    (h : buffer = []) (r : TraceRecord) : (pushTraceRecord buflen buffer r).buffer = [] := by
  simp [pushTraceRecord, hbuf, h]

end Trace
end FPSpy
