import FPSpy.Trace.Encoding

/-!
# Writing a trace

`writeall`, `flush_trace_records` and `push_trace_record` on bytes, with the array
`trace_records` and a system whose `write` may take any part of what it is asked to. It
refines the buffer of `FPSpy.Trace.Record`, which holds the live records as a list and
takes a write to be whole: what that model hands over ends up in the file, in order.
-/
namespace FPSpy

open Bytes (Byte)

/-- What the `k`-th `write` returns when it is asked for `n` bytes. -/
abbrev WriteResult := Nat → Nat → Int

/-- Writes may be short, but they make progress and do not fail. -/
def ShortWrites (w : WriteResult) : Prop := ∀ k n, 0 < n → 1 ≤ w k n ∧ w k n ≤ n

structure OutFile where
  bytes : List Byte
  calls : Nat

/-- An `int` as the `size_t` it is converted to. -/
def sizeT (n : Int) : Nat := (BitVec.ofInt 64 n).toNat

/-- `writeall`; nothing if it has not returned after `fuel` rounds. `buf` is the memory behind the
pointer. -/
def writeall (w : WriteResult) : Nat → OutFile → List Byte → Int → Option (Int × OutFile)
  | 0, _, _, _ => none
  | fuel + 1, file, buf, left =>
    let n := w file.calls (sizeT left)
    if n < 0 then some (-1, { file with calls := file.calls + 1 })
    else
      let file := ⟨file.bytes ++ buf.take n.toNat, file.calls + 1⟩
      if 0 < left - n then writeall w fuel file (buf.drop n.toNat) (left - n) else some (0, file)

theorem sizeT_of_nonneg {n : Nat} (h : n < 2 ^ 31) : sizeT n = n := by
  simp only [sizeT, BitVec.ofInt_natCast, BitVec.toNat_ofNat]
  omega

/-- However short the writes are, everything is written once. -/
theorem writeall_eq {w : WriteResult} (hw : ShortWrites w) {fuel : Nat} (left : Nat)
    (hfuel : left ≤ fuel) (hpos : 0 < left) (hint : left < 2 ^ 31) (file : OutFile)
    (buf : List Byte) (hbuf : left ≤ buf.length) :
    ∃ calls, writeall w fuel file buf left = some (0, ⟨file.bytes ++ buf.take left, calls⟩) := by
  induction fuel generalizing left file buf with
  | zero => omega
  | succ fuel ih =>
    obtain ⟨hlow, hhigh⟩ := hw file.calls left hpos
    obtain ⟨n, hn⟩ := Int.eq_ofNat_of_zero_le (show 0 ≤ w file.calls left by omega)
    rw [hn] at hlow hhigh
    have hnle : n ≤ left := by omega
    simp only [writeall, sizeT_of_nonneg hint, hn, Int.toNat_natCast]
    rw [if_neg (by omega)]
    split_ifs with hmore
    · have hleft : (left : Int) - n = ((left - n : Nat) : Int) := by omega
      obtain ⟨calls, hcalls⟩ := ih (left - n) (by omega) (by omega) (by omega)
        ⟨file.bytes ++ buf.take n, file.calls + 1⟩ (buf.drop n) (by rw [List.length_drop]; omega)
      refine ⟨calls, ?_⟩
      rw [hleft, hcalls]
      simp only [List.append_assoc, ← List.take_add, Nat.add_sub_cancel' hnle]
    · have hall : n = left := by omega
      exact ⟨file.calls + 1, by rw [hall]⟩

/-! ## The buffer -/

/-- The part of a monitoring context that buffers records, and its file. -/
structure Writer (buflen : Nat) where
  traceRecords : Vector TraceRecord buflen
  traceRecordCount : Nat
  file : OutFile

namespace Writer

variable {buflen : Nat}

/-- `flush_trace_records`; the length is converted to an `int`. -/
def flushTraceRecords (w : WriteResult) (fuel : Nat) (c : Writer buflen) :
    Option (Int × Writer buflen) :=
  if buflen = 0 then some (0, c)
  else if 0 < c.traceRecordCount then do
    let (rc, file) ← writeall w fuel c.file (encodeAll c.traceRecords.toList)
      (BitVec.ofNat 32 (c.traceRecordCount * recordSize)).toInt
    some (rc, { c with traceRecordCount := 0, file := file })
  else some (0, c)

/-- `push_trace_record`; nothing if it stores out of range. -/
def pushTraceRecord (w : WriteResult) (fuel : Nat) (c : Writer buflen) (r : TraceRecord) :
    Option (Int × Writer buflen) :=
  if buflen = 0 then do
    let (rc, file) ← writeall w fuel c.file r.encode recordSize
    some (rc, { c with file := file })
  else if h : c.traceRecordCount < buflen then
    let c := { c with
      traceRecords := c.traceRecords.set c.traceRecordCount r h
      traceRecordCount := c.traceRecordCount + 1 }
    if buflen ≤ c.traceRecordCount then c.flushTraceRecords w fuel else some (0, c)
  else none

def pushAll (w : WriteResult) (fuel : Nat) (c : Writer buflen) (rs : List TraceRecord) :
    Option (Writer buflen) :=
  rs.foldlM (fun c r => (c.pushTraceRecord w fuel r).map (·.2)) c

def session (w : WriteResult) (fuel : Nat) (c : Writer buflen) (rs : List TraceRecord) :
    Option (Writer buflen) := do
  let c ← c.pushAll w fuel rs
  (c.flushTraceRecords w fuel).map (·.2)

/-- A context that has just been brought up; the array holds whatever the slot held before. -/
def fresh (slots : Vector TraceRecord buflen) : Writer buflen := ⟨slots, 0, ⟨[], 0⟩⟩

def buffer (c : Writer buflen) : List TraceRecord := c.traceRecords.toList.take c.traceRecordCount

def InRange (c : Writer buflen) : Prop :=
  (0 < buflen → c.traceRecordCount < buflen) ∧ (buflen = 0 → c.traceRecordCount = 0)

theorem InRange.le {c : Writer buflen} (h : c.InRange) : c.traceRecordCount ≤ buflen := by
  obtain ⟨hrange, hzero⟩ := h
  omega

theorem length_buffer {c : Writer buflen} (h : c.traceRecordCount ≤ buflen) :
    c.buffer.length = c.traceRecordCount := by
  simp [buffer, h]

/-! ## The buffer of records -/

/-- The length a flush of `n` records passes: an `int`. -/
def asked (n : Nat) : Int := (BitVec.ofNat 32 (n * recordSize)).toInt

/-- What becomes of the records given to `writeall`: the file before, what is returned, and the file
after. -/
abbrev Handling := List TraceRecord → OutFile → Int → OutFile → Prop

variable {w : WriteResult} {fuel : Nat} {R : Handling}

/-- `writeall` does that with any records that the buffer has room for, and where there are none
it has been done. -/
structure Handles (buflen : Nat) (w : WriteResult) (fuel : Nat) (R : Handling) : Prop where
  empty : ∀ file, R [] file 0 file
  given : ∀ file rs rest, rs ≠ [] → rs.length ≤ max buflen 1 → ∃ rc file',
    writeall w fuel file (encodeAll (rs ++ rest)) (asked rs.length) = some (rc, file') ∧
      R rs file rc file'

/-- A context does what the buffer of records does: it holds the same records, and what that writes
out has been given to `writeall`. -/
structure Hands (R : Handling) (c : Writer buflen) (rc : Int) (c' : Writer buflen)
    (f : Trace.Flushed) : Prop where
  inRange : c'.InRange
  buffer : c'.buffer = f.buffer
  file : R f.written c.file rc c'.file

/-- A flush empties the buffer. -/
theorem flush_hands (h : Handles buflen w fuel R) {c : Writer buflen}
    (hcount : c.traceRecordCount ≤ buflen) :
    ∃ rc c', c.flushTraceRecords w fuel = some (rc, c') ∧
      Hands R c rc c' (Trace.flushTraceRecords buflen c.buffer) := by
  have hlength := length_buffer hcount
  unfold flushTraceRecords Trace.flushTraceRecords
  by_cases hbuf : buflen = 0
  · simp only [hbuf, if_true]
    exact ⟨0, c, rfl, ⟨by omega, fun _ => by omega⟩, rfl, h.empty _⟩
  by_cases hpos : 0 < c.traceRecordCount
  · have hne : c.buffer ≠ [] := by
      rw [← List.length_pos_iff, hlength]
      exact hpos
    obtain ⟨rc, file, hwrite, hfile⟩ := h.given c.file c.buffer
      (c.traceRecords.toList.drop c.traceRecordCount) hne (by omega)
    rw [buffer, List.take_append_drop, ← buffer, hlength, asked] at hwrite
    simp only [hbuf, hpos, hlength, if_true, if_false, hwrite, Option.bind_eq_bind,
      Option.bind_some]
    exact ⟨rc, _, rfl, ⟨fun h => h, fun _ => rfl⟩, by simp [buffer], hfile⟩
  · simp only [hbuf, hpos, hlength, if_false]
    exact ⟨0, c, rfl, ⟨fun _ => by omega, fun _ => by omega⟩, rfl, h.empty _⟩

/-- A push buffers its record, or hands it over with all that came before it. -/
theorem push_hands (h : Handles buflen w fuel R) {c : Writer buflen} (hc : c.InRange)
    (r : TraceRecord) :
    ∃ rc c', c.pushTraceRecord w fuel r = some (rc, c') ∧
      Hands R c rc c' (Trace.pushTraceRecord buflen c.buffer r) := by
  obtain ⟨hrange, hzero⟩ := hc
  unfold pushTraceRecord Trace.pushTraceRecord
  by_cases hbuf : buflen = 0
  · obtain ⟨rc, file, hwrite, hfile⟩ := h.given c.file [r] [] (by simp) (by simp)
    have hone : encodeAll ([r] ++ []) = r.encode := by simp [encodeAll]
    have hasked : asked [r].length = (recordSize : Int) := show asked 1 = _ by decide
    rw [hone, hasked] at hwrite
    simp only [hbuf, if_true, hwrite, Option.bind_eq_bind, Option.bind_some]
    exact ⟨rc, _, rfl, ⟨fun h => absurd hbuf (by omega), hzero⟩, rfl, hfile⟩
  have hlt := hrange (by omega)
  simp only [hbuf, hlt, if_false, dif_pos]
  set c₁ : Writer buflen := { c with
    traceRecords := c.traceRecords.set c.traceRecordCount r hlt
    traceRecordCount := c.traceRecordCount + 1 } with hc₁
  have hbuffer : c₁.buffer = c.buffer ++ [r] := by
    simp [buffer, hc₁, List.take_add_one, hlt, Vector.toList_set, List.take_set_of_le]
  have hcount : c₁.traceRecordCount = c.traceRecordCount + 1 := rfl
  have hlength : (c.buffer ++ [r]).length = c.traceRecordCount + 1 := by
    simp [length_buffer hlt.le]
  rw [hlength, ← hcount, ← hbuffer]
  split_ifs with hfull
  · obtain ⟨rc, c', hflush, hhands⟩ := flush_hands h (c := c₁) (Nat.succ_le_of_lt hlt)
    exact ⟨rc, c', hflush, hhands.inRange, hhands.buffer, hhands.file⟩
  · exact ⟨0, c₁, rfl, ⟨fun _ => by omega, fun h => absurd h hbuf⟩, rfl, h.empty _⟩

/-! ## Short writes -/

/-- A context does what the buffer of records does: it holds the same records, and has written
out the same. -/
structure Refines (c c' : Writer buflen) (f : Trace.Flushed) : Prop where
  inRange : c'.InRange
  buffer : c'.buffer = f.buffer
  bytes : c'.file.bytes = c.file.bytes ++ encodeAll f.written

/-- Everything is written, and 0 is returned. -/
theorem handles_of_shortWrites (hw : ShortWrites w) (hint : recordSize * buflen < 2 ^ 31)
    (hfuel : recordSize * (buflen + 1) ≤ fuel) :
    Handles buflen w fuel fun rs file rc file' =>
      rc = 0 ∧ file'.bytes = file.bytes ++ encodeAll rs := by
  refine ⟨fun file => ⟨rfl, by simp [encodeAll]⟩, fun file rs rest hne hroom => ?_⟩
  have hpos := List.length_pos_iff.mpr hne
  have hsize : recordSize * rs.length < 2 ^ 31 ∧ recordSize * rs.length ≤ fuel := by
    simp only [recordSize] at hint hfuel ⊢
    omega
  have hasked : asked rs.length = ((recordSize * rs.length : Nat) : Int) := by
    rw [asked, Nat.mul_comm, BitVec.toInt_eq_toNat_of_lt] <;> rw [BitVec.toNat_ofNat] <;> omega
  have hall : recordSize * rs.length ≤ (encodeAll (rs ++ rest)).length := by
    rw [length_encodeAll, List.length_append]
    exact Nat.mul_le_mul_left _ (Nat.le_add_right _ _)
  obtain ⟨calls, hcalls⟩ := writeall_eq hw (recordSize * rs.length) hsize.2
    (Nat.mul_pos (by decide) hpos) hsize.1 file (encodeAll (rs ++ rest)) hall
  rw [take_encodeAll, List.take_left'] at hcalls
  · exact ⟨0, _, hasked ▸ hcalls, rfl, rfl⟩
  · rfl

/-- The whole buffer is written, and is empty afterwards. -/
theorem flush_refines (hw : ShortWrites w) (hint : recordSize * buflen < 2 ^ 31)
    (hfuel : recordSize * (buflen + 1) ≤ fuel) {c : Writer buflen}
    (hcount : c.traceRecordCount ≤ buflen) :
    ∃ c', c.flushTraceRecords w fuel = some (0, c') ∧
      Refines c c' (Trace.flushTraceRecords buflen c.buffer) := by
  obtain ⟨rc, c', hflush, hhands⟩ := flush_hands (handles_of_shortWrites hw hint hfuel) hcount
  obtain ⟨rfl, hbytes⟩ := hhands.file
  exact ⟨c', hflush, hhands.inRange, hhands.buffer, hbytes⟩

/-- A push buffers its record, or writes it out with all that came before it. -/
theorem push_refines (hw : ShortWrites w) (hint : recordSize * buflen < 2 ^ 31)
    (hfuel : recordSize * (buflen + 1) ≤ fuel) {c : Writer buflen} (hc : c.InRange)
    (r : TraceRecord) :
    ∃ c', c.pushTraceRecord w fuel r = some (0, c') ∧
      Refines c c' (Trace.pushTraceRecord buflen c.buffer r) := by
  obtain ⟨rc, c', hpush, hhands⟩ := push_hands (handles_of_shortWrites hw hint hfuel) hc r
  obtain ⟨rfl, hbytes⟩ := hhands.file
  exact ⟨c', hpush, hhands.inRange, hhands.buffer, hbytes⟩

structure Pushed (rs : List TraceRecord) (c : Writer buflen) : Prop where
  inRange : c.InRange
  bytes : c.file.bytes ++ encodeAll c.buffer = encodeAll rs

theorem pushed_fresh (slots : Vector TraceRecord buflen) : Pushed [] (fresh slots) :=
  ⟨⟨fun h => h, fun _ => rfl⟩, rfl⟩

theorem Pushed.push (hw : ShortWrites w) (hint : recordSize * buflen < 2 ^ 31)
    (hfuel : recordSize * (buflen + 1) ≤ fuel) {c : Writer buflen} {rs : List TraceRecord}
    (h : Pushed rs c) (r : TraceRecord) :
    ∃ c', c.pushTraceRecord w fuel r = some (0, c') ∧ Pushed (rs ++ [r]) c' := by
  obtain ⟨c', hc', href⟩ := push_refines hw hint hfuel h.inRange r
  have hempty : buflen = 0 → c.buffer = [] := fun hbuf => by simp [buffer, h.inRange.2 hbuf]
  refine ⟨c', hc', href.inRange, ?_⟩
  rw [href.bytes, href.buffer, List.append_assoc, ← encodeAll_append,
    Trace.push_written_append _ _ _ hempty, encodeAll_append, ← List.append_assoc, h.bytes,
    encodeAll_append]

theorem Pushed.pushAll (hw : ShortWrites w) (hint : recordSize * buflen < 2 ^ 31)
    (hfuel : recordSize * (buflen + 1) ≤ fuel) {c : Writer buflen} {rs : List TraceRecord}
    (h : Pushed rs c) (ss : List TraceRecord) :
    ∃ c', c.pushAll w fuel ss = some c' ∧ Pushed (rs ++ ss) c' := by
  induction ss generalizing c rs with
  | nil => exact ⟨c, rfl, by simpa using h⟩
  | cons r ss ih =>
    obtain ⟨c₁, hc₁, h₁⟩ := h.push hw hint hfuel r
    obtain ⟨c₂, hc₂, h₂⟩ := ih h₁
    refine ⟨c₂, ?_, by simpa using h₂⟩
    simpa [Writer.pushAll, hc₁] using hc₂

theorem session_spec (hw : ShortWrites w) (hint : recordSize * buflen < 2 ^ 31)
    (hfuel : recordSize * (buflen + 1) ≤ fuel) (slots : Vector TraceRecord buflen)
    (rs : List TraceRecord) :
    ∃ c, (fresh slots).session w fuel rs = some c ∧ c.file.bytes = encodeAll rs ∧
      c.traceRecordCount = 0 := by
  obtain ⟨c, hc, hpushed⟩ := (pushed_fresh slots).pushAll hw hint hfuel rs
  have hzero := hpushed.inRange.2
  obtain ⟨c', hc', href⟩ := flush_refines hw hint hfuel hpushed.inRange.le
  have hflush : Trace.flushTraceRecords buflen c.buffer = ⟨[], c.buffer⟩ :=
    Trace.flush_eq buflen fun hbuf => by simp [buffer, hzero hbuf]
  rw [hflush] at href
  refine ⟨c', by simp [session, hc, hc'], ?_, ?_⟩
  · simpa [href.bytes] using hpushed.bytes
  · simpa [href.buffer] using (length_buffer href.inRange.le).symm

/-- The file holds the records pushed, in order, whatever the length of the buffer and however
short the writes are, and is the same without a buffer. Between the pushes the next store is in
range. -/
theorem session_eq (slots : Vector TraceRecord buflen) (rs : List TraceRecord)
    (hint : recordSize * buflen < 2 ^ 31) (hw : ShortWrites w)
    (hfuel : recordSize * (buflen + 1) ≤ fuel) {w₀ : WriteResult} {fuel₀ : Nat}
    (hw₀ : ShortWrites w₀) (hfuel₀ : recordSize ≤ fuel₀) :
    (∀ k, ∃ c, (fresh slots).pushAll w fuel (rs.take k) = some c ∧
      (0 < buflen → c.traceRecordCount < buflen)) ∧
    ∃ c u, (fresh slots).session w fuel rs = some c ∧ (fresh #v[]).session w₀ fuel₀ rs = some u ∧
      c.file.bytes = encodeAll rs ∧ c.traceRecordCount = 0 ∧ u.file.bytes = c.file.bytes := by
  refine ⟨fun k => ?_, ?_⟩
  · obtain ⟨c, hc, hpushed⟩ := (pushed_fresh slots).pushAll hw hint hfuel (rs.take k)
    exact ⟨c, hc, hpushed.inRange.1⟩
  · obtain ⟨c, hc, hbytes, hcount⟩ := session_spec hw hint hfuel slots rs
    obtain ⟨u, hu, hbytes₀, -⟩ := session_spec hw₀ (by decide) hfuel₀ #v[] rs
    exact ⟨c, u, hc, hu, hbytes, hcount, hbytes₀.trans hbytes.symm⟩

/-- Two slots, and every write takes one byte. -/
theorem session_eq_bytewise :
    ∃ c u, (fresh (Vector.replicate 2 (.abort 0))).session (fun _ _ => 1) 144
        [.abort 1, .abort 2, .abort 3] = some c ∧
      (fresh #v[]).session (fun _ n => n) 48 [.abort 1, .abort 2, .abort 3] = some u ∧
      c.file.bytes = encodeAll [.abort 1, .abort 2, .abort 3] ∧ c.traceRecordCount = 0 ∧
      u.file.bytes = c.file.bytes :=
  (session_eq (Vector.replicate 2 (.abort 0)) [.abort 1, .abort 2, .abort 3] (by decide)
    (fun _ n hn => by omega) (by decide) (fun _ n hn => by omega) (by decide)).2

end Writer
end FPSpy
