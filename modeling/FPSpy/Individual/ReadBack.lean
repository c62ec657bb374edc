import FPSpy.Individual.Transparency
import FPSpy.Trace.Histogram
import FPSpy.Trace.Reader
import FPSpy.Trace.Writer

/-!
# From the target to its report

The records of a monitored thread go through the buffer of its context into a file, and the file
is read in two ways: by a program that uses `src/libtrace.c`, and by
`scripts/analyze_individual.pl`. Both get the events of the native run, those that the sample
period and the limit select.
-/
namespace FPSpy

open Columns (hexDigits)
open Perl (analyzeIndividual printIndividual hexBytes)

/-! ## The file -/

/-- The file of a context that has pushed `rs` and has been torn down: with a buffer of any length,
whatever was in it, and writes however short. -/
def LeftBy (rs : List TraceRecord) (file : TraceFile) : Prop :=
  ∃ (buflen : Nat) (slots : Vector TraceRecord buflen) (w : WriteResult) (fuel : Nat)
    (c : Writer buflen), ShortWrites w ∧ recordSize * buflen < 2 ^ 31 ∧
      recordSize * (buflen + 1) ≤ fuel ∧ (Writer.fresh slots).session w fuel rs = some c ∧
      file.bytes = c.file.bytes

section File

variable {rs : List TraceRecord} {file : TraceFile} {env : ReaderEnv}

theorem LeftBy.bytes (h : LeftBy rs file) : file.bytes = encodeAll rs := by
  obtain ⟨buflen, slots, w, fuel, c, hw, hint, hfuel, hsession, hfile⟩ := h
  obtain ⟨c', hc', hbytes, -⟩ := Writer.session_spec hw hint hfuel slots rs
  obtain rfl := Option.some.inj (hsession.symm.trans hc')
  rw [hfile, hbytes]

/-- The library calls the filter on each record, in order; it fails on the empty file. -/
theorem traceMap_of_bytes (h : env.Ready) (hbytes : file.bytes = encodeAll rs) {σ : Type}
    (filter : TraceRecord → σ → σ) (state : σ) : traceMap env file filter state =
      if rs = [] then (-1, state) else (0, rs.foldl (fun s r => filter r s) state) := by
  split_ifs with hrs
  · subst hrs
    rw [traceMap, traceAttach_of_nil hbytes]
  · obtain ⟨t, ht, hnum, hrecs⟩ := traceAttach_of_ready h hbytes hrs
    have hfold : (List.range rs.length).foldl (fun s i => filter (t.get i) s) state =
        ((List.range rs.length).map t.get).foldl (fun s r => filter r s) state := by
      rw [List.foldl_map]
    rw [map_get_range hrecs] at hfold
    simp only [traceMap, ht, hnum, hfold]

/-- The script counts the records. -/
theorem countsOf_of_bytes (myarch : String) (hbytes : file.bytes = encodeAll rs) :
    Perl.CountsOf myarch rs (analyzeIndividual (printIndividual myarch file.bytes)) := by
  have hnone : ([] : List Bytes.Byte).length < recordSize := by decide
  have hcounts := Perl.countsOf_analyzeIndividual myarch rs hnone
  rwa [List.append_nil, ← hbytes] at hcounts

end File

/-! ## The events -/

namespace X64

/-- What the readers of a file get are these events. -/
structure Reports (env : ReaderEnv) (file : TraceFile) (events : List Commit) : Prop where
  /-- A filter that looks at the sites. -/
  map : ∀ (σ : Type) (filter : Site → σ → σ) (state : σ),
    traceMap env file (fun r => filter (siteOfRecord r)) state =
      if events = [] then (-1, state)
      else (0, events.foldl (fun s k => filter (siteOfCommit k) s) state)
  n : (analyzeIndividual (printIndividual "x64" file.bytes)).n = events.length
  rips : ∀ a : BitVec 64,
    (analyzeIndividual (printIndividual "x64" file.bytes)).rips (hexDigits 16 a.toNat) =
      events.countP fun k => (siteOfCommit k).rip = a
  insts : ∀ i : Vector (BitVec 8) maxInstrSize,
    (analyzeIndividual (printIndividual "x64" file.bytes)).insts (hexBytes i.toList) =
      events.countP fun k => (siteOfCommit k).instruction = i

theorem reports_of_bytes {env : ReaderEnv} (h : env.Ready) {file : TraceFile}
    {rs : List TraceRecord} {events : List Commit} (hbytes : file.bytes = encodeAll rs)
    (hsites : rs.map siteOfRecord = events.map siteOfCommit) : Reports env file events := by
  have hcounts := countsOf_of_bytes "x64" hbytes
  have hlen : rs.length = events.length := by simpa using congrArg List.length hsites
  have hcount : ∀ p : Site → Bool,
      rs.countP (fun r => p (siteOfRecord r)) = events.countP fun k => p (siteOfCommit k) := by
    intro p
    have hmap := congrArg (List.countP p) hsites
    rwa [List.countP_map, List.countP_map] at hmap
  constructor
  · intro σ filter state
    have hfold := congrArg (List.foldl (fun s e => filter e s) state) hsites
    rw [List.foldl_map, List.foldl_map] at hfold
    have hnil : rs = [] ↔ events = [] := by
      rw [← List.length_eq_zero_iff, hlen, List.length_eq_zero_iff]
    simp only [traceMap_of_bytes h hbytes, hfold, hnil]
  · exact hcounts.n.trans hlen
  · exact fun a => (hcounts.rips a).trans (hcount fun e => e.rip = a)
  · exact fun i => (hcounts.insts i).trans (hcount fun e => e.instruction = i)

/-- A program is run under FPSpy on x64, and its file is read: what the readers get are the events
of the native run, those that the sample period and the limit select. The last of them may be an
instruction that is just being stepped over. -/
theorem run_reports (P : Program) (base : Config x64) {m p : BitVec 32}
    (hm : m = -1#32 ∨ 1 ≤ m.toInt) (hp : 1 ≤ p.toInt) {env : Env} {tid : Nat}
    {mc : MonitoringContext}
    (hmc : bringupMonitoringContext (individualConfig base m p) env tid .zero = some mc)
    (f : Flow x64) (env' : Env) (is : List Input) {s : Supervised}
    (hs : s = (kicked (individualConfig base m p) env' mc f).run (individualConfig base m p) P is)
    {file : TraceFile} (hfile : LeftBy s.flow.pushed file) {renv : ReaderEnv} (h : renv.Ready) :
    ∃ n seen, s.commits = P.native (cpuOf f) n ∧ (seen = n ∨ seen = n + 1) ∧
      Reports renv file (pick (recorded m p) (Program.events (P.native (cpuOf f) seen))) := by
  obtain ⟨mc', hkicked⟩ := tracks_kicked (P := P) f hmc hm env'
  obtain ⟨phase, n, mc'', hrun, -⟩ := tracks_run hkicked hm hp is
  rw [← hs] at hrun
  refine ⟨n, phase.seen n, hrun.commits, ?_, reports_of_bytes h hfile.bytes hrun.pushed⟩
  cases phase with
  | watching | done => exact .inl rfl
  | stepping => exact .inr rfl

/-- Any records have a file, when they are not too many. -/
theorem exists_leftBy {rs : List TraceRecord} (hlen : (encodeAll rs).length < 2 ^ 63) :
    ∃ file, LeftBy rs file := by
  have hshort : ShortWrites fun _ _ => 1 := fun _ n hn => ⟨le_refl 1, Int.ofNat_le.mpr hn⟩
  obtain ⟨c, hc, hbytes, -⟩ := Writer.session_spec hshort (by decide) (Nat.le_refl _)
    (#v[.abort 0, .abort 0, .abort 0] : Vector TraceRecord 3) rs
  exact ⟨⟨c.file.bytes, hbytes ▸ hlen⟩, 3, _, _, _, c, hshort, by decide, Nat.le_refl _, hc, rfl⟩

/-- Four events of the ten steps are inside the limit; the first and the last are recorded. -/
theorem run_reports_ten :
    let s := (kicked (startConfig 4 3) quietEnv (startContext 4 3) freshFlow).run (startConfig 4 3)
      alwaysInexact (List.replicate 10 ⟨quietEnv, 0⟩)
    ∃ file, LeftBy s.flow.pushed file ∧
      ∃ n seen, s.commits = alwaysInexact.native (cpuOf freshFlow) n ∧ (seen = n ∨ seen = n + 1) ∧
        Reports readyEnv file
          (pick (recorded 4 3) (Program.events (alwaysInexact.native (cpuOf freshFlow) seen))) := by
  intro s
  have hpushed : s.flow.pushed.length = 2 := by decide +kernel
  have hlen : (encodeAll s.flow.pushed).length = 96 := by
    rw [length_encodeAll, hpushed]
    rfl
  obtain ⟨file, hfile⟩ := exists_leftBy (show (encodeAll s.flow.pushed).length < 2 ^ 63 by omega)
  have hs : s = (kicked (startConfig 4 3) quietEnv (startContext 4 3) freshFlow).run
      (startConfig 4 3) alwaysInexact (List.replicate 10 ⟨quietEnv, 0⟩) := rfl
  exact ⟨file, hfile, run_reports alwaysInexact _ (.inr (by decide)) (by decide)
    (bringup_startContext 4 3) freshFlow quietEnv _ hs hfile ready_readyEnv⟩

end X64
end FPSpy
