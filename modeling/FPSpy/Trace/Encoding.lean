import FPSpy.Lib.Bytes
import FPSpy.Trace.Record

/-!
# The bytes of a trace record

`struct individual_trace_record` is packed and little-endian, so a record is its fields one
after the other in 48 bytes. `load` reads the fields at their offsets, as the C compiler
does for an access through a pointer.
-/
namespace FPSpy

open Bytes (Byte leBytes leNat)

def recordSize : Nat := 48

namespace TraceRecord

def encode (r : TraceRecord) : List Byte :=
  leBytes 8 r.time.toNat ++ leBytes 8 r.rip.toNat ++ leBytes 8 r.rsp.toNat ++
    leBytes 4 r.code.toNat ++ leBytes 4 r.mxcsr.toNat ++ r.instruction.toList ++ [r.pad]

def field (bytes : List Byte) (offset n : Nat) : List Byte := (bytes.drop offset).take n

def load (bytes : List Byte) : TraceRecord where
  time := BitVec.ofNat 64 (leNat (field bytes 0 8))
  rip := BitVec.ofNat 64 (leNat (field bytes 8 8))
  rsp := BitVec.ofNat 64 (leNat (field bytes 16 8))
  code := BitVec.ofNat 32 (leNat (field bytes 24 4))
  mxcsr := BitVec.ofNat 32 (leNat (field bytes 28 4))
  instruction := Vector.ofFn fun i => bytes.getD (32 + i) 0
  pad := bytes.getD 47 0

@[simp] theorem length_encode (r : TraceRecord) : r.encode.length = recordSize := by
  simp [encode, recordSize, maxInstrSize]

theorem field_skip {a : List Byte} {offset : Nat} (h : a.length ≤ offset) (b : List Byte)
    (n : Nat) : field (a ++ b) offset n = field b (offset - a.length) n := by
  rw [field, List.drop_append, List.drop_eq_nil_of_le h, List.nil_append]
  rfl

theorem field_take {a : List Byte} {n : Nat} (h : a.length = n) (b : List Byte) :
    field (a ++ b) 0 n = a := by
  simp [field, ← h]

/-- A record is read back from its bytes. -/
@[simp] theorem load_encode (r : TraceRecord) : load r.encode = r := by
  obtain ⟨time, rip, rsp, code, mxcsr, instruction, pad⟩ := r
  simp only [load, encode, List.append_assoc, mk.injEq]
  refine ⟨?_, ?_, ?_, ?_, ?_, ?_, ?_⟩
  · simpa [field_take] using Bytes.ofNat_leNat_leBytes (k := 8) rfl time
  · simpa [field_skip, field_take] using Bytes.ofNat_leNat_leBytes (k := 8) rfl rip
  · simpa [field_skip, field_take] using Bytes.ofNat_leNat_leBytes (k := 8) rfl rsp
  · simpa [field_skip, field_take] using Bytes.ofNat_leNat_leBytes (k := 4) rfl code
  · simpa [field_skip, field_take] using Bytes.ofNat_leNat_leBytes (k := 4) rfl mxcsr
  · refine Vector.ext fun i hi => ?_
    have hoffset : 32 + i - 8 - 8 - 8 - 4 - 4 = i := by omega
    have hword : ¬ 32 + i < 8 ∧ ¬ 32 + i - 8 < 8 ∧ ¬ 32 + i - 8 - 8 < 8 ∧
        ¬ 32 + i - 8 - 8 - 8 < 4 ∧ ¬ 32 + i - 8 - 8 - 8 - 4 < 4 := by omega
    simp [List.getElem?_append, hoffset, hword, hi]
  · simp [maxInstrSize]

theorem length_field {bytes : List Byte} {offset n : Nat} (h : offset + n ≤ bytes.length) :
    (field bytes offset n).length = n := by
  rw [field, List.length_take, List.length_drop]
  omega

theorem take_append_field (bytes : List Byte) (offset n : Nat) :
    bytes.take offset ++ field bytes offset n = bytes.take (offset + n) :=
  List.take_add.symm

/-- Any 48 bytes are those of the record that is read from them. -/
theorem encode_load {bytes : List Byte} (h : bytes.length = recordSize) :
    (load bytes).encode = bytes := by
  have hlen : bytes.length = 48 := h
  have hinstr : (load bytes).instruction.toList = field bytes 32 15 := by
    have hfield : (field bytes 32 15).length = 15 := length_field (by omega)
    apply List.ext_getElem
    · simp [maxInstrSize, hfield]
    · intro i hi hi'
      have hbound : 32 + i < bytes.length := by omega
      simp [load, field, List.getD, hbound]
  have hpad : [(load bytes).pad] = field bytes 47 1 := by
    have hfield : (field bytes 47 1).length = 1 := length_field (by omega)
    apply List.ext_getElem
    · simp [hfield]
    · intro i hi hi'
      have hzero : i = 0 := by simpa using hi
      have hbound : 47 < bytes.length := by omega
      simp [load, field, List.getD, hbound, hzero]
  have hword : ∀ {w k : Nat} (offset : Nat), w = 8 * k → offset + k ≤ 48 →
      leBytes k (BitVec.ofNat w (leNat (field bytes offset k))).toNat = field bytes offset k := by
    intro w k offset hw hle
    exact Bytes.leBytes_ofNat_leNat hw (length_field (by omega))
  have hstart : field bytes 0 8 = bytes.take 8 := by simp [field]
  rw [encode, hinstr, hpad]
  simp only [load]
  rw [hword 0 rfl (by omega), hword 8 rfl (by omega), hword 16 rfl (by omega),
    hword 24 rfl (by omega), hword 28 rfl (by omega), hstart]
  simp only [take_append_field]
  rw [List.take_of_length_le (by omega)]

end TraceRecord

def encodeAll (rs : List TraceRecord) : List Byte := rs.flatMap TraceRecord.encode

theorem encodeAll_append (rs ss : List TraceRecord) :
    encodeAll (rs ++ ss) = encodeAll rs ++ encodeAll ss :=
  List.flatMap_append

@[simp] theorem length_encodeAll (rs : List TraceRecord) :
    (encodeAll rs).length = recordSize * rs.length :=
  Bytes.length_flatMap_of_length TraceRecord.length_encode rs

theorem take_encodeAll (rs : List TraceRecord) (n : Nat) :
    (encodeAll rs).take (recordSize * n) = encodeAll (rs.take n) :=
  Bytes.take_flatMap TraceRecord.length_encode rs n

end FPSpy
