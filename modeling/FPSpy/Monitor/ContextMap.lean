import FPSpy.Lib.Run
import FPSpy.Lib.SlotMap
import FPSpy.Machine.X64
import FPSpy.Monitor.Table

/-!
# The table of contexts as a map

Over any sequence of allocations and frees `context[]` is a partial map from the threads that
are live to slots, with room for CONFIG_MAX_CONTEXTS threads. A slot is handed on as it is, so
what a thread leaves in its buffer would be found in the trace of the next one. None is left:
a record is only pushed where a file is written, and there a teardown flushes.
-/
namespace FPSpy.Table

variable {A : Arch} {cfg : Config A} {env : Env} {table : List MonitoringContext} {t u : Nat}

/-- The slot behind the pointer that `find_monitoring_context` returns. -/
def findSlot (tid : Nat) (table : List MonitoringContext) : Option Nat :=
  table.findIdx? (·.tid = tid)

/-- `alloc_monitoring_context`, and the slot behind the pointer it returns. -/
def allocMonitoringContext (tid : Nat) (table : List MonitoringContext) :
    List MonitoringContext × Option Nat :=
  match findSlot 0 table with
  | none => (table, none)
  | some i => (table.modify i fun c => { c with tid := tid }, some i)

theorem findMonitoringContext_eq (tid : Nat) (table : List MonitoringContext) :
    findMonitoringContext tid table = (findSlot tid table).bind (table[·]?) :=
  List.find?_eq_bind_findIdx?_getElem?

/-- Allocating is filling the first free slot, as a bringup does. -/
theorem fst_allocMonitoringContext (tid : Nat) (table : List MonitoringContext) :
    (allocMonitoringContext tid table).1 =
      Slots.modifyFirst (·.tid = 0) (fun c => { c with tid := tid }) table := by
  unfold allocMonitoringContext
  cases hslot : findSlot 0 table with
  | none => exact (Slots.modifyFirst_of_findIdx?_none hslot).symm
  | some i => exact (Slots.modifyFirst_of_findIdx? hslot).symm

/-! ## Allocations and frees -/

/-- The table, and the slot that each live thread has been given. -/
structure Allocated where
  table : List MonitoringContext
  slotOf : Nat → Option Nat

inductive SlotOp where
  | alloc (tid : Nat)
  | free (tid : Nat)

namespace Allocated

/-- One call. Thread ids are not zero, and no thread is given a second slot while it is live. -/
def step (s : Allocated) : SlotOp → Option Allocated
  | .alloc tid =>
    if tid ≠ 0 ∧ s.slotOf tid = none then
      let r := allocMonitoringContext tid s.table
      some ⟨r.1, Function.update s.slotOf tid r.2⟩
    else none
  | .free tid =>
    if tid ≠ 0 then
      some ⟨freeMonitoringContext tid s.table, Function.update s.slotOf tid none⟩
    else none

def start (table : List MonitoringContext) : Allocated :=
  ⟨initMonitoringContexts table, fun _ => none⟩

/-- The table is the map from live threads to slots, with room for `n` of them. -/
structure IsMap (n : Nat) (s : Allocated) : Prop where
  find : ∀ t, t ≠ 0 → findSlot t s.table = s.slotOf t
  distinct : ∀ t u i, s.slotOf t = some i → s.slotOf u = some i → t = u
  alloc_none_iff : ∀ t, (allocMonitoringContext t s.table).2 = none ↔
    {u | s.slotOf u ≠ none}.ncard = n
  alloc_failed : ∀ t, (allocMonitoringContext t s.table).2 = none →
    (allocMonitoringContext t s.table).1 = s.table
  free_other : ∀ t i, t ≠ 0 → s.slotOf t ≠ some i →
    (freeMonitoringContext t s.table)[i]? = s.table[i]?

structure Inv (n : Nat) (s : Allocated) : Prop where
  length : s.table.length = n
  represents : SlotMap.Represents 0 (s.table.map (·.tid)) s.slotOf

theorem findSlot_eq_tids (t : Nat) (table : List MonitoringContext) :
    findSlot t table = (table.map (·.tid)).findIdx? (· = t) := by
  rw [List.findIdx?_map]
  rfl

theorem tids_freeMonitoringContext (t : Nat) (table : List MonitoringContext) :
    (freeMonitoringContext t table).map (·.tid) =
      (table.map (·.tid)).map fun u => if u = t then 0 else u := by
  rw [freeMonitoringContext, List.map_map, List.map_map]
  apply List.map_congr_left
  intro c _
  by_cases hc : c.tid = t <;> simp [hc]

theorem inv_start (table : List MonitoringContext) : Inv table.length (start table) where
  length := by simp [start, initMonitoringContexts]
  represents := by
    have htids : (initMonitoringContexts table).map (·.tid) = List.replicate table.length 0 := by
      rw [initMonitoringContexts, List.map_map, ← List.map_const']
      rfl
    rw [start, htids]
    exact SlotMap.represents_replicate 0 table.length

variable {n : Nat} {s s' : Allocated}

theorem Inv.alloc (h : Inv n s) (ht : t ≠ 0) (hnew : s.slotOf t = none) :
    Inv n ⟨(allocMonitoringContext t s.table).1,
      Function.update s.slotOf t (allocMonitoringContext t s.table).2⟩ := by
  unfold allocMonitoringContext
  cases hslot : findSlot 0 s.table with
  | none =>
    have hsame : Function.update s.slotOf t none = s.slotOf := by
      rw [← hnew, Function.update_eq_self]
    exact ⟨h.length, by rw [hsame]; exact h.represents⟩
  | some i =>
    obtain ⟨hi, hzero, -⟩ := List.findIdx?_eq_some_iff_getElem.mp hslot
    have hfree : (s.table.map (·.tid))[i]? = some 0 := by
      rw [List.getElem?_map, List.getElem?_eq_getElem hi]
      simpa using hzero
    have htids : (s.table.modify i fun c => { c with tid := t }).map (·.tid) =
        (s.table.map (·.tid)).set i t := by
      apply List.ext_getElem?
      intro j
      rw [List.getElem?_map, List.getElem?_modify, List.getElem?_set, List.getElem?_map]
      by_cases hij : i = j
      · subst hij
        simp [hi]
      · simp [hij]
    refine ⟨by simpa using h.length, ?_⟩
    rw [htids]
    exact h.represents.set ht hnew hfree

theorem Inv.free (h : Inv n s) (ht : t ≠ 0) :
    Inv n ⟨freeMonitoringContext t s.table, Function.update s.slotOf t none⟩ where
  length := by simpa [freeMonitoringContext] using h.length
  represents := by
    rw [tids_freeMonitoringContext]
    exact h.represents.erase ht

theorem Inv.step (h : Inv n s) {op : SlotOp} (hstep : s.step op = some s') : Inv n s' := by
  cases op with
  | alloc tid =>
    simp only [Allocated.step] at hstep
    split_ifs at hstep with hguard
    obtain rfl := Option.some.inj hstep
    exact h.alloc hguard.1 hguard.2
  | free tid =>
    simp only [Allocated.step] at hstep
    split_ifs at hstep with hguard
    obtain rfl := Option.some.inj hstep
    exact h.free hguard

theorem Inv.isMap (h : Inv n s) : IsMap n s where
  find t ht := by
    rw [findSlot_eq_tids, h.represents.find ht]
  distinct t u i ht hu := h.represents.injective ht hu
  alloc_none_iff t := by
    have hfull := h.represents.ncard_eq_length_iff
    rw [List.length_map, h.length] at hfull
    rw [hfull]
    unfold allocMonitoringContext
    cases hslot : findSlot 0 s.table with
    | none =>
      rw [findSlot_eq_tids, List.findIdx?_eq_none_iff] at hslot
      refine iff_of_true rfl fun hmem => ?_
      simpa using hslot 0 hmem
    | some i =>
      rw [findSlot_eq_tids] at hslot
      obtain ⟨hi, hzero, -⟩ := List.findIdx?_eq_some_iff_getElem.mp hslot
      refine iff_of_false (by simp) fun hnot => hnot ?_
      have hmem := List.getElem_mem hi
      rwa [of_decide_eq_true hzero] at hmem
  alloc_failed t hnone := by
    unfold allocMonitoringContext at hnone ⊢
    cases hslot : findSlot 0 s.table with
    | none => rfl
    | some i => simp [hslot] at hnone
  free_other t i ht hne := by
    have hkey := (h.represents.slot_iff t i ht).not.mp hne
    rw [List.getElem?_map] at hkey
    rw [freeMonitoringContext, List.getElem?_map]
    cases hi : s.table[i]? with
    | none => rfl
    | some c =>
      have hc : c.tid ≠ t := by simpa [hi] using hkey
      simp [hc]

/-- After every sequence of calls the table is the map of the live threads. -/
theorem isMap_of_run (table : List MonitoringContext) {ops : List SlotOp}
    (hrun : Run.run step (start table) ops = some s) : IsMap table.length s :=
  (Run.invariant (fun _ _ _ h hstep => h.step hstep) (inv_start table) hrun).isMap

end Allocated

/-! ## Buffers -/

/-- What `bringup_monitoring_context` has done when the kernel refuses the thread's registration:
the slot is taken and its file is open. -/
def refusedMonitoringContext (cfg : Config A) (env : Env) (tid : Nat)
    (table : List MonitoringContext) : List MonitoringContext :=
  let r := allocMonitoringContext tid table
  match r.2 with
  | none => table
  | some i =>
    if cfg.createMonitorFile then
      match env.openFd with
      | none => freeMonitoringContext tid (r.1.modify i fun c => { c with fd := -1 })
      | some fd => r.1.modify i fun c => { c with fd := fd }
    else r.1

/-- A push as `fp_trap_handler` and `abort_operation` make it: into a context that is there, and
where there is a file. -/
def pushRecord (cfg : Config A) (tid : Nat) (r : TraceRecord) (table : List MonitoringContext) :
    List MonitoringContext :=
  match findMonitoringContext tid table with
  | none => table
  | some mc =>
    if cfg.createMonitorFile then
      let p := Trace.pushTraceRecord cfg.traceBuflen mc.traceRecords r
      store tid { mc with traceRecords := p.buffer } table
    else table

inductive ContextOp where
  | bringup (env : Env) (tid : Nat)
  | refused (env : Env) (tid : Nat)
  | push (tid : Nat) (r : TraceRecord)
  | teardown (tid : Nat)

/-- One call. No thread that has a context is brought up again. -/
def contextStep (cfg : Config A) (table : List MonitoringContext) :
    ContextOp → Option (List MonitoringContext)
  | .bringup env tid =>
    if tid ≠ 0 ∧ findMonitoringContext tid table = none then
      some (bringupMonitoringContext cfg env tid table).1
    else none
  | .refused env tid =>
    if tid ≠ 0 ∧ findMonitoringContext tid table = none then
      some (refusedMonitoringContext cfg env tid table)
    else none
  | .push tid r => if tid ≠ 0 then some (pushRecord cfg tid r table) else none
  | .teardown tid =>
    if tid ≠ 0 then some (teardownMonitoringContext cfg tid table).1 else none

/-- Contexts are distinct, free slots are drained, and without files all slots are. -/
structure Clean (cfg : Config A) (table : List MonitoringContext) : Prop where
  distinct : Distinct table
  drained : Drained cfg.traceBuflen table
  unused : cfg.createMonitorFile = false → ∀ c ∈ table, c.traceRecords = []

namespace Clean

theorem init (cfg : Config A) (table : List MonitoringContext) :
    Clean cfg (initMonitoringContexts table) where
  distinct := distinct_initMonitoringContexts table
  drained := by
    intro c hc _
    obtain ⟨_, _, rfl⟩ := List.mem_map.mp hc
    rfl
  unused := by
    intro _ c hc
    obtain ⟨_, _, rfl⟩ := List.mem_map.mp hc
    rfl

section

variable {i : Nat} {f : MonitoringContext → MonitoringContext}
  (htid : ∀ c, (f c).tid = c.tid) (hbuf : ∀ c, (f c).traceRecords = c.traceRecords)
include htid hbuf

theorem view_modify : (table.modify i f).map (fun c => (c.tid, c.traceRecords)) =
    table.map fun c => (c.tid, c.traceRecords) := by
  apply List.ext_getElem?
  intro j
  rw [List.getElem?_map, List.getElem?_map, List.getElem?_modify]
  cases table[j]? with
  | none => rfl
  | some c =>
    by_cases hij : i = j
    · simp [hij, htid, hbuf]
    · simp [hij]

theorem mem_modify {c : MonitoringContext} (hc : c ∈ table.modify i f) :
    ∃ d ∈ table, d.tid = c.tid ∧ d.traceRecords = c.traceRecords := by
  have hview := List.mem_map_of_mem (f := fun c => (c.tid, c.traceRecords)) hc
  rw [view_modify htid hbuf] at hview
  obtain ⟨d, hd, heq⟩ := List.mem_map.mp hview
  exact ⟨d, hd, congrArg Prod.fst heq, congrArg Prod.snd heq⟩

/-- Whether a table is clean is a matter of the ids and the buffers. -/
theorem modify (h : Clean cfg table) : Clean cfg (table.modify i f) where
  distinct := by
    have hpair : (table.map fun c => (c.tid, c.traceRecords)).Pairwise
        fun a b => a.1 = b.1 → a.1 = 0 := List.pairwise_map.mpr h.distinct
    rw [← view_modify htid hbuf] at hpair
    exact List.pairwise_map.mp hpair
  drained := by
    intro c hc hfree
    obtain ⟨d, hd, hdt, hdb⟩ := mem_modify htid hbuf hc
    rw [← hdb]
    exact h.drained d hd (hdt ▸ hfree)
  unused := by
    intro hfile c hc
    obtain ⟨d, hd, -, hdb⟩ := mem_modify htid hbuf hc
    rw [← hdb]
    exact h.unused hfile d hd

end

/-- Filling a free slot and leaving its buffer empty. -/
theorem fill (h : Clean cfg table) (hnone : findMonitoringContext t table = none)
    {f : MonitoringContext → MonitoringContext} (htid : ∀ c, (f c).tid = t)
    (hbuf : ∀ c ∈ table, c.tid = 0 → (f c).traceRecords = []) :
    Clean cfg (Slots.modifyFirst (·.tid = 0) f table) where
  distinct := h.distinct.fill hnone htid
  drained := by
    intro c hc hfree
    rcases Slots.mem_modifyFirst hc with hc | ⟨a, ha, hzero, rfl⟩
    · exact h.drained c hc hfree
    · exact hbuf a ha (by simpa using hzero)
  unused := by
    intro hfile c hc
    rcases Slots.mem_modifyFirst hc with hc | ⟨a, ha, hzero, rfl⟩
    · exact h.unused hfile c hc
    · exact hbuf a ha (by simpa using hzero)

/-- The slot that was filled is empty. -/
theorem empty_of_fill (hnone : findMonitoringContext t table = none)
    {f : MonitoringContext → MonitoringContext} {c : MonitoringContext}
    (hc : c ∈ Slots.modifyFirst (·.tid = 0) f table)
    (hbuf : ∀ c ∈ table, c.tid = 0 → (f c).traceRecords = []) (htid : c.tid = t) :
    c.traceRecords = [] := by
  rcases Slots.mem_modifyFirst hc with hc | ⟨a, ha, hzero, rfl⟩
  · exact absurd (by simpa using htid) (List.find?_eq_none.mp hnone c hc)
  · exact hbuf a ha (by simpa using hzero)

theorem free (h : Clean cfg table) (hbuf : ∀ c ∈ table, c.tid = t → c.traceRecords = []) :
    Clean cfg (freeMonitoringContext t table) where
  distinct := h.distinct.free
  drained := h.drained.free hbuf
  unused := by
    intro hfile c hc
    obtain ⟨d, hd, rfl⟩ := List.mem_map.mp hc
    split_ifs
    · exact h.unused hfile d hd
    · exact h.unused hfile d hd

theorem store (h : Clean cfg table) (ht : t ≠ 0) {mc : MonitoringContext}
    (hbuf : cfg.traceBuflen = 0 ∨ cfg.createMonitorFile = false → mc.traceRecords = []) :
    Clean cfg (Table.store t mc table) where
  distinct := h.distinct.store mc
  drained := h.drained.store ht fun hzero => hbuf (.inl hzero)
  unused := by
    intro hfile c hc
    rcases Slots.mem_modifyFirst hc with hc | ⟨-, -, -, rfl⟩
    · exact h.unused hfile c hc
    · exact hbuf (.inr hfile)

/-- Free slots are empty. -/
theorem free_slot (h : Clean cfg table) : ∀ c ∈ table, c.tid = 0 → c.traceRecords = [] :=
  fun c hc hfree => h.drained c hc (.inl hfree)

theorem bringup (h : Clean cfg table) (hnone : findMonitoringContext t table = none) :
    Clean cfg (bringupMonitoringContext cfg env t table).1 := by
  obtain ⟨-, heq⟩ | ⟨slot, mc, hslot, hmc, heq⟩ | ⟨-, heq⟩ := bringup_cases cfg env table t <;>
    rw [heq]
  · exact h
  · refine h.fill hnone (fun _ => (newContext_of_bringup hmc).tid) fun _ _ _ => ?_
    rw [(newContext_of_bringup hmc).traceRecords]
    exact h.free_slot slot (List.mem_of_find?_eq_some hslot) (by simpa using List.find?_some hslot)
  · have hfill : Clean cfg
        (Slots.modifyFirst (·.tid = 0) (fun c => { c with tid := t, fd := -1 }) table) :=
      h.fill hnone (fun _ => rfl) h.free_slot
    exact hfill.free fun c hc htid => empty_of_fill hnone hc h.free_slot htid

theorem refused (h : Clean cfg table) (hnone : findMonitoringContext t table = none) :
    Clean cfg (refusedMonitoringContext cfg env t table) := by
  have hfill : Clean cfg (allocMonitoringContext t table).1 := by
    rw [fst_allocMonitoringContext]
    exact h.fill hnone (fun _ => rfl) h.free_slot
  have hempty : ∀ c ∈ (allocMonitoringContext t table).1, c.tid = t → c.traceRecords = [] := by
    rw [fst_allocMonitoringContext]
    exact fun c hc => empty_of_fill hnone hc h.free_slot
  unfold refusedMonitoringContext
  dsimp only
  split
  · exact h
  · split_ifs
    · split
      · have hfd : ∀ i, Clean cfg
            ((allocMonitoringContext t table).1.modify i fun c => { c with fd := -1 }) :=
          fun i => modify (fun _ => rfl) (fun _ => rfl) hfill
        refine (hfd _).free fun c hc htid => ?_
        obtain ⟨d, hd, hdt, hdb⟩ :=
          mem_modify (f := fun c => { c with fd := -1 }) (fun _ => rfl) (fun _ => rfl) hc
        rw [← hdb]
        exact hempty d hd (hdt.trans htid)
      · exact modify (fun _ => rfl) (fun _ => rfl) hfill
    · exact hfill

theorem push (h : Clean cfg table) (ht : t ≠ 0) (r : TraceRecord) :
    Clean cfg (pushRecord cfg t r table) := by
  unfold pushRecord
  cases hmc : findMonitoringContext t table with
  | none => exact h
  | some mc =>
    dsimp only
    split_ifs with hfile
    · refine h.store ht fun hbuf => ?_
      have hzero : cfg.traceBuflen = 0 := hbuf.resolve_right (by simp [hfile])
      exact Trace.push_buffer_eq_nil hzero
        (h.drained mc (List.mem_of_find?_eq_some hmc) (.inr hzero)) r
    · exact h

/-- A teardown flushes what it frees. -/
theorem teardown (h : Clean cfg table) (ht : t ≠ 0) :
    Clean cfg (teardownMonitoringContext cfg t table).1 := by
  unfold teardownMonitoringContext
  cases hmc : findMonitoringContext t table with
  | none => exact h
  | some mc =>
    dsimp only
    split_ifs with hfile
    · have hmem : mc ∈ table := List.mem_of_find?_eq_some hmc
      have hflush := Trace.flush_eq cfg.traceBuflen fun hzero => h.drained mc hmem (.inr hzero)
      have hstore : Clean cfg (Table.store t { mc with traceRecords := [] } table) :=
        h.store ht fun _ => rfl
      have hfind : findMonitoringContext t (Table.store t { mc with traceRecords := [] } table) =
          some { mc with traceRecords := [], tid := t } := by
        rw [find_store_self, hmc, Option.map_some]
      rw [hflush]
      refine hstore.free fun c hc htid => ?_
      rw [hstore.distinct.eq_of_mem hc (List.mem_of_find?_eq_some hfind) htid rfl ht]
    · exact h.free fun c hc _ => h.unused (by simpa using hfile) c hc

theorem step (h : Clean cfg table) {op : ContextOp} {table' : List MonitoringContext}
    (hstep : contextStep cfg table op = some table') : Clean cfg table' := by
  cases op with
  | bringup env tid =>
    simp only [contextStep] at hstep
    split_ifs at hstep with hguard
    exact Option.some.inj hstep ▸ h.bringup hguard.2
  | refused env tid =>
    simp only [contextStep] at hstep
    split_ifs at hstep with hguard
    exact Option.some.inj hstep ▸ h.refused hguard.2
  | push tid r =>
    simp only [contextStep] at hstep
    split_ifs at hstep with hguard
    exact Option.some.inj hstep ▸ h.push hguard r
  | teardown tid =>
    simp only [contextStep] at hstep
    split_ifs at hstep with hguard
    exact Option.some.inj hstep ▸ h.teardown hguard

/-- A context that is brought up has nothing in its buffer. -/
theorem find_bringup (h : Clean cfg table) (hnone : findMonitoringContext t table = none)
    (hok : (bringupMonitoringContext cfg env t table).2 = true) :
    ∃ mc, findMonitoringContext t (bringupMonitoringContext cfg env t table).1 = some mc ∧
      mc.traceRecords = [] := by
  obtain ⟨-, heq⟩ | ⟨slot, mc, hslot, hmc, heq⟩ | ⟨-, heq⟩ := bringup_cases cfg env table t <;>
    rw [heq] at hok ⊢
  · simp at hok
  · have hnew := newContext_of_bringup hmc
    have hfound := Slots.find?_modifyFirst_new (f := fun _ => mc) hnone ⟨slot, hslot⟩ fun _ => by
      simp [hnew.tid]
    have hslot' := hslot
    rw [findMonitoringContext] at hslot'
    rw [hslot', Option.map_some] at hfound
    refine ⟨mc, hfound, hnew.traceRecords.trans ?_⟩
    exact h.free_slot slot (List.mem_of_find?_eq_some hslot) (by simpa using List.find?_some hslot)
  · simp at hok

end Clean

/-- The table is the map of the live threads after every sequence of allocations and frees. After
every sequence of bringups, pushes and teardowns its free slots are empty, and so is the buffer
of the next context that is brought up. -/
theorem contexts_isMap_and_clean (table : List MonitoringContext) :
    (∀ ops s, Run.run Allocated.step (Allocated.start table) ops = some s →
      Allocated.IsMap table.length s) ∧
    ∀ (cfg : Config A) ops table',
      Run.run (contextStep cfg) (initMonitoringContexts table) ops = some table' →
      (∀ c ∈ table', c.tid = 0 → c.traceRecords.length = 0) ∧
      ∀ env t, findMonitoringContext t table' = none →
        (bringupMonitoringContext cfg env t table').2 = true →
        ∃ mc, findMonitoringContext t (bringupMonitoringContext cfg env t table').1 = some mc ∧
          mc.traceRecords = [] := by
  refine ⟨fun ops s hrun => Allocated.isMap_of_run table hrun, fun cfg ops table' hrun => ?_⟩
  have hclean : Clean cfg table' :=
    Run.invariant (fun _ _ _ h hstep => h.step hstep) (Clean.init cfg table) hrun
  refine ⟨fun c hc hfree => ?_, fun env t hnone hok => hclean.find_bringup hnone hok⟩
  rw [hclean.free_slot c hc hfree, List.length_nil]

/-- Two slots: the second thread's is given to the fourth, and the third gets none. -/
theorem isMap_twoSlots : ∃ s,
    Run.run Allocated.step (Allocated.start [.zero, .zero])
      [.alloc 5, .alloc 6, .alloc 7, .free 6, .alloc 8] = some s ∧
    (s.slotOf 5, s.slotOf 7, s.slotOf 8) = (some 0, none, some 1) ∧ Allocated.IsMap 2 s := by
  have hslots : (Run.run Allocated.step (Allocated.start [.zero, .zero])
      [.alloc 5, .alloc 6, .alloc 7, .free 6, .alloc 8]).map
        (fun s => (s.slotOf 5, s.slotOf 7, s.slotOf 8)) = some (some 0, none, some 1) := by
    decide
  obtain ⟨s, hrun, hslotOf⟩ := Option.map_eq_some_iff.1 hslots
  exact ⟨s, hrun, hslotOf, (contexts_isMap_and_clean (A := x64) [.zero, .zero]).1 _ s hrun⟩

end FPSpy.Table
