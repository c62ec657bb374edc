import FPSpy.Trace.Reader
import FPSpy.Trace.Writer

/-!
# Writes that fail

`writeall` gives up at the first write that fails, after earlier ones may have taken part of
what it was given, and `flush_trace_records` empties the buffer all the same. What reaches
the file of a flush is a prefix of the buffer's bytes, and the next flush goes on from there.
How long the prefix is depends on the writes alone, not on the records.
-/
namespace FPSpy

open Bytes (Byte)

/-- A write fails, or takes some of the bytes it is asked to, at least one if there is any. What
does not fit in a `ssize_t` is refused. -/
def Outcomes (w : WriteResult) : Prop :=
  ∀ k n, w k n < 0 ∨ w k n ≤ n ∧ n < 2 ^ 63 ∧ (0 < n → 1 ≤ w k n)

/-- The bytes that the writes of a `writeall` take, and the number of the next write. -/
def accept (w : WriteResult) : Nat → Nat → Int → Nat × Nat
  | 0, calls, _ => (0, calls)
  | fuel + 1, calls, left =>
    let n := w calls (sizeT left)
    if n < 0 then (0, calls + 1)
    else if 0 < left - n then
      let a := accept w fuel (calls + 1) (left - n)
      (n.toNat + a.1, a.2)
    else (n.toNat, calls + 1)

theorem sizeT_of_neg {left : Int} (hneg : left < 0) (hlow : -2 ^ 31 ≤ left) :
    2 ^ 63 ≤ sizeT left := by
  rw [sizeT, BitVec.toNat_ofInt]
  omega

/-- What is written of the bytes is a prefix. -/
theorem file_writeall {w : WriteResult} {fuel : Nat} {file file' : OutFile} {buf : List Byte}
    {left rc : Int} (h : writeall w fuel file buf left = some (rc, file')) :
    file' = ⟨file.bytes ++ buf.take (accept w fuel file.calls left).1,
      (accept w fuel file.calls left).2⟩ := by
  induction fuel generalizing file buf left with
  | zero => cases h
  | succ fuel ih =>
    simp only [writeall, accept] at h ⊢
    split_ifs at h ⊢ with hfail hmore
    · obtain ⟨-, rfl⟩ := Prod.mk.inj (Option.some.inj h)
      simp
    · rw [ih h, List.append_assoc, ← List.take_add]
    · obtain ⟨-, rfl⟩ := Prod.mk.inj (Option.some.inj h)
      rfl

section Outcomes

variable {w : WriteResult} (hw : Outcomes w)
include hw

/-- One write of a `writeall`: it fails, or takes some of what is left. -/
theorem Outcomes.one (calls : Nat) {left : Int} (hlow : -2 ^ 31 ≤ left) (hhigh : left < 2 ^ 31) :
    w calls (sizeT left) < 0 ∨ 0 ≤ left ∧ 0 ≤ w calls (sizeT left) ∧ w calls (sizeT left) ≤ left ∧
      (0 < left → 1 ≤ w calls (sizeT left)) := by
  rcases hw calls (sizeT left) with hfail | ⟨hle, hsize, hsome⟩
  · exact .inl hfail
  by_cases hneg : left < 0
  · have hhuge := sizeT_of_neg hneg hlow
    omega
  obtain ⟨n, rfl⟩ := Int.eq_ofNat_of_zero_le (not_lt.mp hneg)
  have hn : sizeT (n : Int) = n := sizeT_of_nonneg (by omega)
  rw [hn] at hle hsome ⊢
  by_cases hfail : w calls n < 0
  · exact .inl hfail
  · exact .inr ⟨by omega, by omega, hle, fun hpos => hsome (by omega)⟩

/-- `writeall` comes back. -/
theorem Outcomes.writeall_isSome {fuel : Nat} (left : Int) (hlow : -2 ^ 31 ≤ left)
    (hhigh : left < 2 ^ 31) (hfuel : left ≤ fuel) (hpos : 0 < fuel) (file : OutFile)
    (buf : List Byte) : (writeall w fuel file buf left).isSome = true := by
  induction fuel generalizing left file buf with
  | zero => omega
  | succ fuel ih =>
    rw [writeall]
    split_ifs with hfail hmore
    · rfl
    · obtain ⟨-, hn, -, hsome⟩ := (hw.one file.calls hlow hhigh).resolve_left hfail
      have hpos := hsome (by omega)
      exact ih _ (by omega) (by omega) (by omega) (by omega) _ _
    · rfl

/-- No more than asked for is written. -/
theorem Outcomes.accept_le (fuel calls : Nat) (left : Int) (hlow : -2 ^ 31 ≤ left)
    (hhigh : left < 2 ^ 31) : (accept w fuel calls left).1 ≤ left.toNat := by
  induction fuel generalizing calls left with
  | zero => exact Nat.zero_le _
  | succ fuel ih =>
    simp only [accept]
    split_ifs with hfail hmore
    · exact Nat.zero_le _
    · obtain ⟨-, hn, -⟩ := (hw.one calls hlow hhigh).resolve_left hfail
      have hrest := ih (calls + 1) (left - w calls (sizeT left)) (by omega) (by omega)
      omega
    · obtain ⟨hleft, hn, hle, -⟩ := (hw.one calls hlow hhigh).resolve_left hfail
      omega

end Outcomes

/-! ## A session -/

namespace Writer

/-- The bytes that the writes of `n` records take, and the number of the next write. Without
records there is no write. -/
def fate (w : WriteResult) (fuel calls n : Nat) : Nat × Nat :=
  if n = 0 then (0, calls) else accept w fuel calls (asked n)

theorem asked_bounds (n : Nat) :
    -2 ^ 31 ≤ asked n ∧ asked n < 2 ^ 31 ∧ asked n ≤ (recordSize * n : Nat) := by
  rw [asked, Nat.mul_comm n]
  generalize recordSize * n = m
  rw [BitVec.toInt_eq_toNat_cond, BitVec.toNat_ofNat]
  split_ifs <;> omega

variable {buflen fuel : Nat} {w : WriteResult}

theorem fate_le (hw : Outcomes w) (fuel calls n : Nat) :
    (fate w fuel calls n).1 ≤ recordSize * n := by
  obtain ⟨hlow, hhigh, hle⟩ := asked_bounds n
  unfold fate
  split_ifs
  · exact Nat.zero_le _
  · have haccept := hw.accept_le fuel calls (asked n) hlow hhigh
    omega

/-- Of the records handed over only a prefix of the bytes reaches the file. -/
def Loses (w : WriteResult) (fuel : Nat) : Handling := fun rs file _ file' =>
  file' = ⟨file.bytes ++ (encodeAll rs).take (fate w fuel file.calls rs.length).1,
    (fate w fuel file.calls rs.length).2⟩

theorem handles_of_outcomes (hw : Outcomes w) (hfuel : recordSize * (buflen + 1) ≤ fuel) :
    Handles buflen w fuel (Loses w fuel) := by
  refine ⟨fun file => by simp [Loses, fate, encodeAll], fun file rs rest hne hroom => ?_⟩
  have hpos := List.length_pos_iff.mpr hne
  obtain ⟨hlow, hhigh, hle⟩ := asked_bounds rs.length
  have hsize : recordSize * rs.length ≤ fuel ∧ 0 < fuel := by
    simp only [recordSize] at hfuel ⊢
    omega
  have hsome : (writeall w fuel file (encodeAll (rs ++ rest)) (asked rs.length)).isSome = true :=
    hw.writeall_isSome _ hlow hhigh (by omega) hsize.2 _ _
  obtain ⟨⟨rc, file'⟩, hwrite⟩ := Option.isSome_iff_exists.mp hsome
  have hfate : fate w fuel file.calls rs.length = accept w fuel file.calls (asked rs.length) :=
    if_neg hpos.ne'
  have htake : (encodeAll (rs ++ rest)).take (fate w fuel file.calls rs.length).1 =
      (encodeAll rs).take (fate w fuel file.calls rs.length).1 := by
    rw [encodeAll_append, List.take_append_of_le_length]
    simpa using fate_le hw fuel file.calls rs.length
  refine ⟨rc, file', hwrite, ?_⟩
  rw [Loses, ← htake, hfate]
  exact file_writeall hwrite

def batches (buflen : Nat) : List TraceRecord → List TraceRecord → List (List TraceRecord)
  | buffer, [] => [(Trace.flushTraceRecords buflen buffer).written]
  | buffer, r :: rs =>
    let f := Trace.pushTraceRecord buflen buffer r
    f.written :: batches buflen f.buffer rs

def emitted (w : WriteResult) (fuel : Nat) : Nat → List (List TraceRecord) → List Byte
  | _, [] => []
  | calls, b :: bs =>
    (encodeAll b).take (fate w fuel calls b.length).1 ++
      emitted w fuel (fate w fuel calls b.length).2 bs

/-- A context is torn down with the prefixes of its batches in the file. -/
theorem session_loses (h : Handles buflen w fuel (Loses w fuel)) {c : Writer buflen}
    (hc : c.InRange) (rs : List TraceRecord) :
    ∃ c', c.session w fuel rs = some c' ∧
      c'.file.bytes = c.file.bytes ++ emitted w fuel c.file.calls (batches buflen c.buffer rs) := by
  induction rs generalizing c with
  | nil =>
    obtain ⟨rc, c', hflush, hhands⟩ := flush_hands h hc.le
    refine ⟨c', by simp [session, pushAll, hflush], ?_⟩
    rw [hhands.file, batches, emitted, emitted, List.append_nil]
  | cons r rs ih =>
    obtain ⟨rc, c₁, hpush, hhands⟩ := push_hands h hc r
    obtain ⟨c', hsession, hbytes⟩ := ih hhands.inRange
    refine ⟨c', ?_, ?_⟩
    · simpa [session, pushAll, hpush] using hsession
    · rw [hbytes, hhands.file, hhands.buffer, batches, emitted, List.append_assoc]

/-! ## Whole records -/

/-- The sizes of the batches of `k` pushes, from a buffer with `count` records. -/
def batchSizes (buflen : Nat) : Nat → Nat → List Nat
  | count, 0 => [if buflen = 0 then 0 else count]
  | count, k + 1 =>
    if buflen = 0 then 1 :: batchSizes buflen count k
    else if buflen ≤ count + 1 then (count + 1) :: batchSizes buflen 0 k
    else 0 :: batchSizes buflen (count + 1) k

/-- What the writes take of each batch is a number of whole records. -/
def Aligned (w : WriteResult) (fuel : Nat) : Nat → List Nat → Prop
  | _, [] => True
  | calls, n :: ns =>
    recordSize ∣ (fate w fuel calls n).1 ∧ Aligned w fuel (fate w fuel calls n).2 ns

instance decidableAligned (w : WriteResult) (fuel : Nat) :
    ∀ calls ns, Decidable (Aligned w fuel calls ns)
  | _, [] => inferInstanceAs (Decidable True)
  | calls, n :: ns =>
    have := decidableAligned w fuel (fate w fuel calls n).2 ns
    inferInstanceAs (Decidable (_ ∧ _))

variable (buflen) in
theorem map_length_batches (buffer rs : List TraceRecord) :
    (batches buflen buffer rs).map List.length = batchSizes buflen buffer.length rs.length := by
  induction rs generalizing buffer with
  | nil =>
    simp only [batches, List.length_nil, batchSizes, List.map_cons, List.map_nil,
      Trace.flushTraceRecords]
    split_ifs with hbuf hpos
    · rfl
    · rfl
    · rw [Nat.eq_zero_of_not_pos hpos]
      rfl
  | cons r rs ih =>
    simp only [batches, batchSizes, List.map_cons, List.length_cons, ih, Trace.pushTraceRecord,
      Trace.flushTraceRecords]
    split_ifs <;> simp_all

/-- Together the batches are what is pushed, in order. -/
theorem flatten_batches {buffer : List TraceRecord} (h : buflen = 0 → buffer = [])
    (rs : List TraceRecord) : (batches buflen buffer rs).flatten = buffer ++ rs := by
  induction rs generalizing buffer with
  | nil => simp [batches, Trace.flush_eq buflen h]
  | cons r rs ih =>
    have hnext : buflen = 0 → (Trace.pushTraceRecord buflen buffer r).buffer = [] := fun hbuf =>
      Trace.push_buffer_eq_nil hbuf (h hbuf) r
    rw [batches, List.flatten_cons, ih hnext, ← List.append_assoc,
      Trace.push_written_append buflen buffer r h, List.append_assoc, List.singleton_append]

/-- Whole records of each batch are some of the records, in order. -/
theorem emitted_of_aligned {calls : Nat} {bs : List (List TraceRecord)}
    (h : Aligned w fuel calls (bs.map List.length)) :
    ∃ ss, ss.Sublist bs.flatten ∧ emitted w fuel calls bs = encodeAll ss := by
  induction bs generalizing calls with
  | nil => exact ⟨[], List.Sublist.refl _, rfl⟩
  | cons b bs ih =>
    obtain ⟨⟨q, hq⟩, hrest⟩ := h
    obtain ⟨ss, hsub, hemitted⟩ := ih hrest
    refine ⟨b.take q ++ ss, (List.take_sublist q b).append hsub, ?_⟩
    rw [emitted, hemitted, hq, take_encodeAll, encodeAll_append]

/-! ### Telling torn records -/

def tick : TraceRecord := ⟨1, 0, 0, 0, 0, Vector.replicate maxInstrSize 0, 0⟩

/-- Bytes that could be some ticks: the ones are where records start. -/
def Ticks (bytes : List Byte) : Prop :=
  recordSize ∣ bytes.length ∧ ∀ i, bytes[i]? = some 1 → recordSize ∣ i

theorem ticks_encodeAll (n : Nat) : Ticks (encodeAll (List.replicate n tick)) := by
  refine ⟨by rw [length_encodeAll]; exact dvd_mul_right _ _, ?_⟩
  induction n with
  | zero => simp [encodeAll]
  | succ n ih =>
    intro i hi
    rw [List.replicate_succ, encodeAll, List.flatMap_cons] at hi
    by_cases hlt : i < recordSize
    · rw [List.getElem?_append_left (by simpa using hlt)] at hi
      have hfirst : ∀ j < recordSize, tick.encode[j]? = some 1 → recordSize ∣ j := by decide
      exact hfirst i hlt hi
    · rw [List.getElem?_append_right (by simpa using not_lt.mp hlt),
        TraceRecord.length_encode] at hi
      have hdvd := ih _ hi
      rwa [Nat.dvd_sub_iff_left (not_lt.mp hlt) (dvd_refl _)] at hdvd

/-- A batch of ticks starts with a one, if anything of it is written. -/
theorem take_ticks_head {n a : Nat} (ha : 0 < a) (hle : a ≤ recordSize * n) (rest : List Byte) :
    ((encodeAll (List.replicate n tick)).take a ++ rest)[0]? = some 1 := by
  cases n with
  | zero => omega
  | succ n =>
    have hhead : tick.encode[0]? = some 1 := by decide
    rw [List.getElem?_append_left (by simpa using ⟨ha, by simp [recordSize]⟩),
      List.getElem?_take_of_lt ha, List.replicate_succ, encodeAll, List.flatMap_cons,
      List.getElem?_append_left (by simp [recordSize]), hhead]

/-- Where only ticks are pushed, the sizes of the batches say it all. -/
theorem batches_ticks (buflen k : Nat) : batches buflen [] (List.replicate k tick) =
    (batchSizes buflen 0 k).map fun n => List.replicate n tick := by
  have hsizes := map_length_batches buflen [] (List.replicate k tick)
  rw [List.length_nil, List.length_replicate] at hsizes
  rw [← hsizes, List.map_map]
  refine (List.map_id _).symm.trans (List.map_congr_left fun b hb => ?_)
  refine List.eq_replicate_iff.mpr ⟨rfl, fun r hr => ?_⟩
  have hmem : r ∈ (batches buflen [] (List.replicate k tick)).flatten :=
    List.mem_flatten.mpr ⟨b, hb, hr⟩
  rw [flatten_batches (fun _ => rfl), List.nil_append] at hmem
  exact List.eq_of_mem_replicate hmem

/-- Once a record is torn, the rest does not put it right. -/
theorem not_ticks_of_torn (hw : Outcomes w) {calls : Nat} {ns : List Nat} {before : List Byte}
    (htorn : ¬ recordSize ∣ before.length) :
    ¬ Ticks (before ++ emitted w fuel calls (ns.map fun n => List.replicate n tick)) := by
  induction ns generalizing calls before with
  | nil => exact fun h => htorn (by simpa [emitted] using h.1)
  | cons n ns ih =>
    rw [List.map_cons, emitted, List.length_replicate]
    have hle := fate_le hw fuel calls n
    generalize fate w fuel calls n = a at hle
    by_cases ha : a.1 = 0
    · rw [ha, List.take_zero, List.nil_append]
      exact ih htorn
    · intro h
      refine htorn (h.2 before.length ?_)
      rw [List.getElem?_append_right le_rfl, Nat.sub_self]
      exact take_ticks_head (Nat.pos_of_ne_zero ha) hle _

/-- Ticks come out whole only if the writes keep to whole records. -/
theorem aligned_of_ticks (hw : Outcomes w) {calls : Nat} {ns : List Nat} {before : List Byte}
    (hwhole : recordSize ∣ before.length)
    (h : Ticks (before ++ emitted w fuel calls (ns.map fun n => List.replicate n tick))) :
    Aligned w fuel calls ns := by
  induction ns generalizing calls before with
  | nil => trivial
  | cons n ns ih =>
    have hle := fate_le hw fuel calls n
    rw [List.map_cons, emitted, List.length_replicate, ← List.append_assoc] at h
    have hlength : (before ++ (encodeAll (List.replicate n tick)).take
        (fate w fuel calls n).1).length = before.length + (fate w fuel calls n).1 := by
      simp [Nat.min_eq_left hle]
    by_cases hdvd : recordSize ∣ (fate w fuel calls n).1
    · exact ⟨hdvd, ih (hlength ▸ Nat.dvd_add hwhole hdvd) h⟩
    · refine absurd h (not_ticks_of_torn hw ?_)
      rw [hlength, Nat.dvd_add_right hwhole]
      exact hdvd

/-- The session of a fresh context ends with a file of whole records: some of those pushed, in
order, which are read back if there are any. -/
def Untorn (w : WriteResult) (fuel : Nat) (slots : Vector TraceRecord buflen)
    (rs : List TraceRecord) : Prop :=
  ∃ c ss, (fresh slots).session w fuel rs = some c ∧ ss.Sublist rs ∧
    c.file.bytes = encodeAll ss ∧ ∀ env file, env.Ready → file.bytes = c.file.bytes → ss ≠ [] →
      ReadsAs env file ss

/-- However many bytes the writes take before they fail: `k` records, whatever they are, leave
whole records behind exactly if each flush gets rid of whole records. -/
theorem untorn_iff (hw : Outcomes w) (hfuel : recordSize * (buflen + 1) ≤ fuel) (k : Nat) :
    (∀ (slots : Vector TraceRecord buflen) (rs : List TraceRecord), rs.length = k →
      Untorn w fuel slots rs) ↔ Aligned w fuel 0 (batchSizes buflen 0 k) := by
  have hrange (slots : Vector TraceRecord buflen) : (fresh slots).InRange :=
    (pushed_fresh slots).inRange
  have hempty (slots : Vector TraceRecord buflen) : (fresh slots).buffer = [] := by
    simp [buffer, fresh]
  constructor
  · intro h
    let slots := Vector.replicate buflen tick
    obtain ⟨c, ss, hsession, hsub, hbytes, -⟩ := h slots (List.replicate k tick)
      List.length_replicate
    obtain ⟨c', hsession', hloses⟩ := session_loses (handles_of_outcomes hw hfuel)
      (hrange slots) (List.replicate k tick)
    obtain rfl := Option.some.inj (hsession.symm.trans hsession')
    have hss : ss = List.replicate ss.length tick :=
      List.eq_replicate_iff.mpr ⟨rfl, fun r hr => List.eq_of_mem_replicate (hsub.subset hr)⟩
    have hticks := ticks_encodeAll ss.length
    rw [← hss, ← hbytes, hloses, hempty, batches_ticks] at hticks
    exact aligned_of_ticks hw (dvd_zero _) hticks
  · intro haligned slots rs hlength
    obtain ⟨c, hsession, hloses⟩ := session_loses (handles_of_outcomes hw hfuel) (hrange slots) rs
    rw [hempty] at hloses
    have hsizes := map_length_batches buflen [] rs
    rw [List.length_nil, hlength] at hsizes
    obtain ⟨ss, hsub, hemitted⟩ := emitted_of_aligned (hsizes ▸ haligned)
    rw [flatten_batches (fun _ => rfl) rs, List.nil_append] at hsub
    have hbytes : c.file.bytes = encodeAll ss := hloses.trans hemitted
    refine ⟨c, ss, hsession, hsub, hbytes, fun env file hready hfile hne => ?_⟩
    exact (readsAs_iff hready (hfile.trans hbytes)).mpr hne

def failsOnce : WriteResult := fun k n => if k = 1 ∨ 2 ^ 63 ≤ n then -1 else n

def failsMidway : WriteResult := fun k n =>
  if k = 1 ∨ 2 ^ 63 ≤ n then -1 else if k = 0 then min n 20 else n

/-- The second record is lost as a whole. -/
theorem untorn_iff_failsOnce : Untorn failsOnce 96 #v[.abort 0] [.abort 1, .abort 2, .abort 3] := by
  have hw : Outcomes failsOnce := by
    intro k n
    unfold failsOnce
    split_ifs with h <;> omega
  exact (untorn_iff hw (by decide) 3).mpr (by decide) _ _ rfl

/-- The first record is torn, and what follows is out of step. -/
theorem not_untorn_failsMidway :
    Outcomes failsMidway ∧ ¬ Untorn failsMidway 96 #v[.abort 0] [.abort 1, .abort 2] := by
  constructor
  · intro k n
    unfold failsMidway
    split_ifs with h <;> omega
  · rintro ⟨c, ss, hsession, -, hbytes, -⟩
    have hlength : ((fresh #v[.abort 0]).session failsMidway 96 [.abort 1, .abort 2]).map
        (·.file.bytes.length) = some 68 := by decide
    rw [hsession, Option.map_some, hbytes, length_encodeAll] at hlength
    have heq : 48 * ss.length = 68 := Option.some.inj hlength
    omega

end Writer
end FPSpy
