import FPSpy.Trace.Encoding

/-!
# Reading a trace back

`src/libtrace.c`. `trace_attach` opens a file, checks its length and maps it; `trace_map`
calls a filter on each record of the mapping. A mapping of length zero is refused by the
system, so a file without records, which is what a thread without FP events leaves
behind, is not read as a trace of no records: `trace_map` fails on it.
-/
namespace FPSpy

open Bytes (Byte)

structure TraceFile where
  bytes : List Byte
  size_lt : bytes.length < 2 ^ 63

structure ReaderEnv where
  /-- `open(file, O_RDONLY, 0666)` succeeds. -/
  opens : Bool
  /-- `malloc(sizeof(trace_t))` succeeds. -/
  mallocs : Bool
  /-- `fstat` succeeds. -/
  fstats : Bool
  /-- There is room for a mapping. -/
  maps : Bool

structure ReaderEnv.Ready (env : ReaderEnv) : Prop where
  opens : env.opens = true
  mallocs : env.mallocs = true
  fstats : env.fstats = true
  maps : env.maps = true

structure Trace where
  numrecs : BitVec 64
  recs : List Byte

/-- `mmap(0, len, PROT_READ, MAP_SHARED, fd, 0)`: a length of zero is invalid. -/
def mmap (env : ReaderEnv) (len : BitVec 64) (file : TraceFile) : Option (List Byte) :=
  if len = 0 then none else if env.maps then some (file.bytes.take len.toNat) else none

def traceAttach (env : ReaderEnv) (file : TraceFile) : Option Trace :=
  if !env.opens then none
  else if !env.mallocs then none
  else if !env.fstats then none
  else
    let len := BitVec.ofNat 64 file.bytes.length
    if len % BitVec.ofNat 64 recordSize ≠ 0 then none
    else
      let numrecs := len / BitVec.ofNat 64 recordSize
      match mmap env len file with
      | none => none
      | some recs => some ⟨numrecs, recs⟩

/-- `t->rec[i]` -/
def Trace.get (t : Trace) (i : Nat) : TraceRecord :=
  .load ((t.recs.drop (recordSize * i)).take recordSize)

/-- `trace_map`: the return value and the state the filter is left with. -/
def traceMap {σ : Type} (env : ReaderEnv) (file : TraceFile) (filter : TraceRecord → σ → σ)
    (state : σ) : Int × σ :=
  match traceAttach env file with
  | none => (-1, state)
  | some t => (0, (List.range t.numrecs.toNat).foldl (fun s i => filter (t.get i) s) state)

/-- A file is read as the records `rs`: all are there, and a filter is called on each of them
once, in order. -/
structure ReadsAs (env : ReaderEnv) (file : TraceFile) (rs : List TraceRecord) : Prop where
  numrecs : ∃ t, traceAttach env file = some t ∧ t.numrecs.toNat = rs.length
  map : ∀ (σ : Type) (filter : TraceRecord → σ → σ) (state : σ),
    traceMap env file filter state = (0, rs.foldl (fun s r => filter r s) state)

variable {env : ReaderEnv} {file : TraceFile} {rs : List TraceRecord}

theorem traceAttach_of_ready (h : env.Ready) (hbytes : file.bytes = encodeAll rs) (hrs : rs ≠ []) :
    ∃ t, traceAttach env file = some t ∧ t.numrecs.toNat = rs.length ∧ t.recs = encodeAll rs := by
  have hlen : file.bytes.length = 48 * rs.length := by rw [hbytes, length_encodeAll]; rfl
  have hlt := file.size_lt
  have hpos : 0 < rs.length := List.length_pos_iff.mpr hrs
  have htoNat : (BitVec.ofNat 64 file.bytes.length).toNat = 48 * rs.length := by
    rw [BitVec.toNat_ofNat, hlen, Nat.mod_eq_of_lt (by omega)]
  have hne : BitVec.ofNat 64 file.bytes.length ≠ 0 := by
    intro hzero
    have h₀ : 48 * rs.length = 0 := htoNat.symm.trans (congrArg BitVec.toNat hzero)
    omega
  have hmod : BitVec.ofNat 64 file.bytes.length % BitVec.ofNat 64 recordSize = 0 := by
    apply BitVec.eq_of_toNat_eq
    rw [BitVec.toNat_umod, htoNat]
    simp [recordSize]
  refine ⟨⟨BitVec.ofNat 64 file.bytes.length / BitVec.ofNat 64 recordSize, file.bytes⟩, ?_, ?_,
    hbytes⟩
  · have hmmap : mmap env (BitVec.ofNat 64 file.bytes.length) file = some file.bytes := by
      rw [mmap, if_neg hne, if_pos h.maps, htoNat, ← hlen, List.take_length]
    simp only [traceAttach, h.opens, h.mallocs, h.fstats, hmmap]
    simp [hmod]
  · rw [BitVec.toNat_udiv, htoNat]
    simp [recordSize]

/-- On the bytes of some records the mapping holds these records. -/
theorem map_get_range {t : Trace} (hrecs : t.recs = encodeAll rs) :
    (List.range rs.length).map t.get = rs := by
  refine List.ext_getElem (by simp) fun i hi hi' => ?_
  have hchunk : ((encodeAll rs).drop (recordSize * i)).take recordSize = rs[i].encode :=
    Bytes.take_drop_flatMap TraceRecord.length_encode rs hi'
  simp [Trace.get, hrecs, hchunk]

theorem traceAttach_of_nil (hbytes : file.bytes = []) : traceAttach env file = none := by
  unfold traceAttach
  split_ifs
  · rfl
  · rfl
  · rfl
  · simp [mmap, hbytes]

/-- A trace is read back exactly if it has a record. -/
theorem readsAs_iff (h : env.Ready) (hbytes : file.bytes = encodeAll rs) :
    ReadsAs env file rs ↔ rs ≠ [] := by
  constructor
  · rintro ⟨⟨t, ht, -⟩, -⟩ rfl
    rw [traceAttach_of_nil hbytes] at ht
    cases ht
  · intro hrs
    obtain ⟨t, ht, hnum, hrecs⟩ := traceAttach_of_ready h hbytes hrs
    refine ⟨⟨t, ht, hnum⟩, fun σ filter state => ?_⟩
    have hfold : (List.range rs.length).foldl (fun s i => filter (t.get i) s) state =
        ((List.range rs.length).map t.get).foldl (fun s r => filter r s) state := by
      rw [List.foldl_map]
    rw [map_get_range hrecs] at hfold
    simp only [traceMap, ht, hnum, hfold]

def readyEnv : ReaderEnv := ⟨true, true, true, true⟩

theorem ready_readyEnv : readyEnv.Ready := ⟨rfl, rfl, rfl, rfl⟩

/-- What a thread leaves that divides by zero, adds inexactly and then gets out of the way. -/
def abortedRun : List TraceRecord :=
  let add : Vector (BitVec 8) maxInstrSize :=
    #v[0xf2, 0x0f, 0x58, 0xc1, 0, 0, 0, 0, 0, 0, 0, 0, 0, 0, 0]
  [⟨10, 0x401000, 0x7fff0000, 3, 0x1f84, add.set 2 0x5e, 0⟩,
    ⟨20, 0x401004, 0x7ffeff80, 6, 0x1fa0, add, 0⟩, .abort 25]

theorem readsAs_abortedRun :
    ReadsAs readyEnv ⟨encodeAll abortedRun, by rw [length_encodeAll]; decide⟩ abortedRun :=
  (readsAs_iff ready_readyEnv rfl).mpr (by simp [abortedRun])

def idleFile : TraceFile := ⟨[], by decide⟩

theorem not_readsAs_idle :
    idleFile.bytes = encodeAll [] ∧ (traceMap readyEnv idleFile (fun _ n => n + 1) 0).1 = -1 ∧
      ¬ ReadsAs readyEnv idleFile [] := by
  refine ⟨rfl, by decide, ?_⟩
  rintro ⟨⟨t, ht, -⟩, -⟩
  rw [traceAttach_of_nil rfl] at ht
  cases ht

end FPSpy
