import FPSpy.Lib.Slots
import FPSpy.Monitor.Abort

/-!
# The table of monitoring contexts

`context[]` is a list whose length is CONFIG_MAX_CONTEXTS; a slot whose `tid` is zero is
free. The functions are those of `fpspy.c`: a search from the start finds the first
context of a thread, an allocation takes the first free slot, and freeing a thread's
context frees every slot that carries its id.
-/
namespace FPSpy.Table

variable {A : Arch} {cfg : Config A} {env : Env} {table : List MonitoringContext} {t u : Nat}

def initMonitoringContexts (table : List MonitoringContext) : List MonitoringContext :=
  table.map fun _ => .zero

def findMonitoringContext (tid : Nat) (table : List MonitoringContext) :
    Option MonitoringContext :=
  table.find? (·.tid = tid)

/-- Write a context through the pointer that `find_monitoring_context` returns. Nothing that
does so changes the id. -/
def store (tid : Nat) (mc : MonitoringContext) (table : List MonitoringContext) :
    List MonitoringContext :=
  Slots.modifyFirst (·.tid = tid) (fun _ => { mc with tid := tid }) table

def freeMonitoringContext (tid : Nat) (table : List MonitoringContext) : List MonitoringContext :=
  table.map fun c => if c.tid = tid then { c with tid := 0 } else c

/-- `bringup_monitoring_context`, and whether it returns 0. A failed `open` leaves -1 in the
slot, which is then freed along with all others that carry the id. -/
def bringupMonitoringContext (cfg : Config A) (env : Env) (tid : Nat)
    (table : List MonitoringContext) : List MonitoringContext × Bool :=
  match findMonitoringContext 0 table with
  | none => (table, false)
  | some slot =>
    match FPSpy.bringupMonitoringContext cfg env tid slot with
    | some mc => (Slots.modifyFirst (·.tid = 0) (fun _ => mc) table, true)
    | none =>
      (freeMonitoringContext tid
        (Slots.modifyFirst (·.tid = 0) (fun c => { c with tid := tid, fd := -1 }) table), false)

def teardownMonitoringContext (cfg : Config A) (tid : Nat) (table : List MonitoringContext) :
    List MonitoringContext × List TraceRecord :=
  match findMonitoringContext tid table with
  | none => (table, [])
  | some mc =>
    if cfg.createMonitorFile then
      let p := Trace.flushTraceRecords cfg.traceBuflen mc.traceRecords
      (freeMonitoringContext tid (store tid { mc with traceRecords := p.buffer } table), p.written)
    else (freeMonitoringContext tid table, [])

/-! ## Other threads' contexts -/

theorem find_store_of_ne (mc : MonitoringContext) (h : u ≠ t) :
    findMonitoringContext u (store t mc table) = findMonitoringContext u table := by
  apply Slots.find?_modifyFirst_of_disjoint
  intro c hc
  have hct : c.tid = t := by simpa using hc
  simp [hct, Ne.symm h]

theorem find_store_self (mc : MonitoringContext) :
    findMonitoringContext t (store t mc table) =
      (findMonitoringContext t table).map fun _ => { mc with tid := t } := by
  apply Slots.find?_modifyFirst_self
  intro c _
  simp

theorem find_free_of_ne (h : u ≠ t) (hu : u ≠ 0) :
    findMonitoringContext u (freeMonitoringContext t table) = findMonitoringContext u table := by
  apply Slots.find?_map_of_disjoint
  · intro c hc
    have hcu : c.tid = u := by simpa using hc
    simp [hcu, h]
  · intro c hc
    have hcu : c.tid ≠ u := by simpa using hc
    by_cases hct : c.tid = t
    · simp [hct, hu.symm]
    · simp [hct, hcu]

/-- Filling the first free slot for thread `t`. -/
theorem find_fill_of_ne {f : MonitoringContext → MonitoringContext} (hf : ∀ c, (f c).tid = t)
    (h : u ≠ t) (hu : u ≠ 0) :
    findMonitoringContext u (Slots.modifyFirst (·.tid = 0) f table) =
      findMonitoringContext u table := by
  apply Slots.find?_modifyFirst_of_disjoint
  intro c hc
  have hc0 : c.tid = 0 := by simpa using hc
  simp [hc0, hu.symm, hf, h.symm]

variable (cfg env t table) in
/-- A bringup finds no free slot, or fills one, or fails to open its file and frees it again. -/
theorem bringup_cases :
    (findMonitoringContext 0 table = none ∧
      bringupMonitoringContext cfg env t table = (table, false)) ∨
    (∃ slot mc, findMonitoringContext 0 table = some slot ∧
      FPSpy.bringupMonitoringContext cfg env t slot = some mc ∧
      bringupMonitoringContext cfg env t table =
        (Slots.modifyFirst (·.tid = 0) (fun _ => mc) table, true)) ∨
    ((∃ slot, findMonitoringContext 0 table = some slot) ∧
      bringupMonitoringContext cfg env t table =
        (freeMonitoringContext t
          (Slots.modifyFirst (·.tid = 0) (fun c => { c with tid := t, fd := -1 }) table),
          false)) := by
  unfold bringupMonitoringContext
  cases hslot : findMonitoringContext 0 table with
  | none => exact .inl ⟨rfl, rfl⟩
  | some slot =>
    dsimp only
    cases hmc : FPSpy.bringupMonitoringContext cfg env t slot with
    | none => exact .inr (.inr ⟨⟨slot, rfl⟩, rfl⟩)
    | some mc => exact .inr (.inl ⟨slot, mc, rfl, hmc, rfl⟩)

theorem opens_of_bringup (h : (bringupMonitoringContext cfg env t table).2 = true) :
    env.Opens cfg := by
  obtain ⟨-, heq⟩ | ⟨slot, mc, -, hmc, -⟩ | ⟨-, heq⟩ := bringup_cases cfg env table t
  · simp [heq] at h
  · exact FPSpy.opens_of_bringup hmc
  · simp [heq] at h

theorem find_bringup_of_ne (h : u ≠ t) (hu : u ≠ 0) :
    findMonitoringContext u (bringupMonitoringContext cfg env t table).1 =
      findMonitoringContext u table := by
  obtain ⟨-, heq⟩ | ⟨slot, mc, -, hmc, heq⟩ | ⟨-, heq⟩ := bringup_cases cfg env table t <;> rw [heq]
  · exact find_fill_of_ne (fun _ => (newContext_of_bringup hmc).tid) h hu
  · rw [find_free_of_ne h hu]
    exact find_fill_of_ne (fun _ => rfl) h hu

theorem find_teardown_of_ne (h : u ≠ t) (hu : u ≠ 0) :
    findMonitoringContext u (teardownMonitoringContext cfg t table).1 =
      findMonitoringContext u table := by
  unfold teardownMonitoringContext
  split
  · rfl
  · split_ifs
    · rw [find_free_of_ne h hu, find_store_of_ne _ h]
    · exact find_free_of_ne h hu

/-- Storing a context takes and frees no slot. -/
theorem tids_store (mc : MonitoringContext) :
    (store t mc table).map (·.tid) = table.map (·.tid) := by
  unfold store
  induction table with
  | nil => rfl
  | cons c table ih =>
    by_cases hc : c.tid = t
    · rw [Slots.modifyFirst_cons_of_pos (by simpa using hc)]
      simp [hc]
    · rw [Slots.modifyFirst_cons_of_neg (by simpa using hc)]
      simpa using ih

/-- Taking a slot shows. -/
theorem tids_fill_ne {f : MonitoringContext → MonitoringContext} (hf : ∀ c, (f c).tid = t)
    (ht : t ≠ 0) {slot : MonitoringContext} (hslot : findMonitoringContext 0 table = some slot) :
    (Slots.modifyFirst (·.tid = 0) f table).map (·.tid) ≠ table.map (·.tid) := by
  unfold findMonitoringContext at hslot
  induction table with
  | nil => simp at hslot
  | cons c table ih =>
    by_cases hc : c.tid = 0
    · rw [Slots.modifyFirst_cons_of_pos (by simpa using hc)]
      simp [hf, hc, ht]
    · rw [List.find?_cons_of_neg (by simpa using hc)] at hslot
      rw [Slots.modifyFirst_cons_of_neg (by simpa using hc)]
      simpa using ih hslot

variable (table) in
/-- Freeing shows, unless the thread has no slot. -/
theorem free_eq_self_iff (ht : t ≠ 0) :
    freeMonitoringContext t table = table ↔ ∀ c ∈ table, c.tid ≠ t := by
  have hfree : ∀ c : MonitoringContext,
      (if c.tid = t then { c with tid := 0 } else c) = c ↔ c.tid ≠ t := by
    intro c
    split_ifs with hc
    · refine ⟨fun h => ?_, fun h => absurd hc h⟩
      exact absurd (hc.symm.trans (congrArg MonitoringContext.tid h).symm) ht
    · simp [hc]
  unfold freeMonitoringContext
  induction table with
  | nil => simp
  | cons c table ih => simp only [List.map_cons, List.cons.injEq, hfree, ih, List.forall_mem_cons]

/-- A slot that is taken and freed again is what it was exactly if its descriptor was -1 and no
slot was the thread's. -/
theorem free_fill_eq_iff (ht : t ≠ 0) {slot : MonitoringContext}
    (hslot : findMonitoringContext 0 table = some slot) :
    freeMonitoringContext t
        (Slots.modifyFirst (·.tid = 0) (fun c => { c with tid := t, fd := -1 }) table) = table ↔
      (∀ c ∈ table, c.tid ≠ t) ∧ slot.fd = -1 := by
  unfold findMonitoringContext at hslot
  induction table with
  | nil => simp at hslot
  | cons c table ih =>
    by_cases hc : c.tid = 0
    · rw [List.find?_cons_of_pos (by simpa using hc)] at hslot
      obtain rfl := Option.some.inj hslot
      have hhead : { c with tid := 0, fd := -1 } = c ↔ c.fd = -1 := by
        constructor
        · exact fun h => (congrArg MonitoringContext.fd h).symm
        · intro hfd
          rw [← hc, ← hfd]
      rw [Slots.modifyFirst_cons_of_pos (by simpa using hc)]
      have htail := free_eq_self_iff table ht
      simp only [freeMonitoringContext] at htail
      simp only [freeMonitoringContext, List.map_cons, if_true, List.cons.injEq, hhead, htail,
        List.forall_mem_cons, hc, ne_eq, ht.symm, not_false_eq_true, true_and]
      exact and_comm
    · rw [List.find?_cons_of_neg (by simpa using hc)] at hslot
      have hhead := free_eq_self_iff [c] ht
      simp only [freeMonitoringContext, List.map_cons, List.map_nil, List.cons.injEq, and_true,
        List.forall_mem_singleton] at hhead
      have htail := ih hslot
      simp only [freeMonitoringContext] at htail
      rw [Slots.modifyFirst_cons_of_neg (by simpa using hc)]
      simp only [freeMonitoringContext, List.map_cons, List.cons.injEq, hhead, htail,
        List.forall_mem_cons, and_assoc]

/-! ## A thread's own context -/

theorem find_free_self (ht : t ≠ 0) :
    findMonitoringContext t (freeMonitoringContext t table) = none := by
  simp only [findMonitoringContext, freeMonitoringContext, List.find?_eq_none, List.mem_map]
  rintro _ ⟨c, -, rfl⟩
  by_cases hc : c.tid = t
  · simp [hc, ht.symm]
  · simp [hc]

theorem find_teardown_self (ht : t ≠ 0) :
    findMonitoringContext t (teardownMonitoringContext cfg t table).1 = none := by
  unfold teardownMonitoringContext
  split
  · assumption
  · split_ifs <;> exact find_free_self ht

/-- A thread that had no context has one after a bringup that succeeds, with a descriptor for
its file and the buffer of the slot it was given. -/
theorem find_bringup_self (hfile : cfg.createMonitorFile = true)
    (hnone : findMonitoringContext t table = none)
    (hok : (bringupMonitoringContext cfg env t table).2 = true) :
    ∃ slot mc n, findMonitoringContext 0 table = some slot ∧ env.openFd = some n ∧
      findMonitoringContext t (bringupMonitoringContext cfg env t table).1 = some mc ∧
      mc.fd = n ∧ mc.traceRecords = slot.traceRecords := by
  obtain ⟨-, heq⟩ | ⟨slot, mc, hslot, hmc, heq⟩ | ⟨-, heq⟩ := bringup_cases cfg env table t <;>
    rw [heq] at hok ⊢
  · simp at hok
  · obtain ⟨fd, hfd, hval⟩ := Option.map_eq_some_iff.mp hmc
    rw [if_pos hfile] at hfd
    obtain ⟨n, hn, rfl⟩ := Option.map_eq_some_iff.mp hfd
    refine ⟨slot, mc, n, hslot, hn, ?_, hval ▸ rfl, hval ▸ rfl⟩
    have hfound := Slots.find?_modifyFirst_new (f := fun _ => mc) hnone ⟨slot, hslot⟩ fun _ => by
      simp [(newContext_of_bringup hmc).tid]
    rw [findMonitoringContext] at hslot
    rwa [hslot, Option.map_some] at hfound
  · simp at hok

theorem find_bringup_of_failed (ht : t ≠ 0) (hnone : findMonitoringContext t table = none)
    (hfail : (bringupMonitoringContext cfg env t table).2 = false) :
    findMonitoringContext t (bringupMonitoringContext cfg env t table).1 = none := by
  obtain ⟨-, heq⟩ | ⟨slot, mc, -, -, heq⟩ | ⟨-, heq⟩ := bringup_cases cfg env table t <;>
    rw [heq] at hfail ⊢
  · exact hnone
  · simp at hfail
  · exact find_free_self ht

/-- A table that has been wiped is empty. -/
theorem find_initMonitoringContexts (table : List MonitoringContext) (ht : t ≠ 0) :
    findMonitoringContext t (initMonitoringContexts table) = none := by
  simp [findMonitoringContext, initMonitoringContexts, MonitoringContext.zero, ht.symm]

/-- A context that has just been brought up is in INIT. -/
theorem find_bringup_init (hnone : findMonitoringContext t table = none)
    (hok : (bringupMonitoringContext cfg env t table).2 = true) :
    ∃ mc, findMonitoringContext t (bringupMonitoringContext cfg env t table).1 = some mc ∧
      mc.state = .init := by
  obtain ⟨-, heq⟩ | ⟨slot, mc, hslot, hmc, heq⟩ | ⟨-, heq⟩ := bringup_cases cfg env table t <;>
    rw [heq] at hok ⊢
  · simp at hok
  · have hfound := Slots.find?_modifyFirst_new (f := fun _ => mc) hnone ⟨slot, hslot⟩ fun _ => by
      simp [(newContext_of_bringup hmc).tid]
    rw [findMonitoringContext] at hslot
    rw [hslot, Option.map_some] at hfound
    exact ⟨mc, hfound, (newContext_of_bringup hmc).state⟩
  · simp at hok

/-- A bringup that fails leaves no context that was not there. -/
theorem find_of_bringup_failed {mc : MonitoringContext} (ht : t ≠ 0)
    (hfail : (bringupMonitoringContext cfg env t table).2 = false)
    (hfind : findMonitoringContext t (bringupMonitoringContext cfg env t table).1 = some mc) :
    findMonitoringContext t table = some mc := by
  obtain ⟨-, heq⟩ | ⟨slot, mc, -, -, heq⟩ | ⟨-, heq⟩ := bringup_cases cfg env table t <;>
    rw [heq] at hfail hfind
  · exact hfind
  · simp at hfail
  · rw [find_free_self ht] at hfind
    cases hfind

/-! ## Distinct contexts -/

def Distinct (table : List MonitoringContext) : Prop :=
  table.Pairwise fun c d => c.tid = d.tid → c.tid = 0

theorem Distinct.eq_of_mem (h : Distinct table) {c d : MonitoringContext} (hc : c ∈ table)
    (hd : d ∈ table) (hct : c.tid = t) (hdt : d.tid = t) (ht : t ≠ 0) : c = d := by
  by_contra hne
  have hsymm : Std.Symm fun c d : MonitoringContext => c.tid = d.tid → c.tid = 0 :=
    ⟨fun a b hab heq => heq.trans (hab heq.symm)⟩
  exact ht (hct ▸ h.forall hc hd hne (hct.trans hdt.symm))

theorem distinct_initMonitoringContexts (table : List MonitoringContext) :
    Distinct (initMonitoringContexts table) := by
  simp [Distinct, initMonitoringContexts, MonitoringContext.zero]

theorem Distinct.store (h : Distinct table) (mc : MonitoringContext) :
    Distinct (store t mc table) := by
  apply Slots.pairwise_modifyFirst h
  · intro a b _ ha hab
    have hat : a.tid = t := by simpa using ha
    simpa [← hat] using hab
  · intro a b _ hb hab
    have hbt : b.tid = t := by simpa using hb
    simpa [← hbt] using hab

theorem Distinct.free (h : Distinct table) : Distinct (freeMonitoringContext t table) := by
  refine List.Pairwise.map _ (fun c d hcd => ?_) h
  by_cases hc : c.tid = t <;> by_cases hd : d.tid = t
  · simp [hc, hd]
  · simp [hc]
  · simp only [hc, hd, if_false, if_true]
    exact id
  · simpa [hc, hd] using hcd

/-- Filling a free slot for a thread that has none. -/
theorem Distinct.fill (h : Distinct table) (hnone : findMonitoringContext t table = none)
    {f : MonitoringContext → MonitoringContext} (hf : ∀ c, (f c).tid = t) :
    Distinct (Slots.modifyFirst (·.tid = 0) f table) := by
  have hne : ∀ c ∈ table, c.tid ≠ t := fun c hc htid =>
    absurd (by simpa using htid) (List.find?_eq_none.mp hnone c hc)
  apply Slots.pairwise_modifyFirst h
  · intro a b hb _ _ heq
    exact absurd (heq.symm.trans (hf a)) (hne b hb)
  · intro a b ha _ _ heq
    exact absurd (heq.trans (hf b)) (hne a ha)

theorem Distinct.bringup (h : Distinct table) (hnone : findMonitoringContext t table = none) :
    Distinct (bringupMonitoringContext cfg env t table).1 := by
  obtain ⟨-, heq⟩ | ⟨slot, mc, -, hmc, heq⟩ | ⟨-, heq⟩ := bringup_cases cfg env table t <;> rw [heq]
  · exact h
  · exact h.fill hnone fun _ => (newContext_of_bringup hmc).tid
  · exact (h.fill hnone fun _ => rfl).free

theorem Distinct.teardown (h : Distinct table) :
    Distinct (teardownMonitoringContext cfg t table).1 := by
  unfold teardownMonitoringContext
  split
  · exact h
  · split_ifs
    · exact (h.store _).free
    · exact h.free

/-! ## Buffers -/

/-- Free slots have nothing in their buffers, and without buffering no slot has. -/
def Drained (buflen : Nat) (table : List MonitoringContext) : Prop :=
  ∀ c ∈ table, c.tid = 0 ∨ buflen = 0 → c.traceRecords = []

variable {buflen : Nat}

theorem Drained.store (h : Drained buflen table) (ht : t ≠ 0) {mc : MonitoringContext}
    (hmc : buflen = 0 → mc.traceRecords = []) : Drained buflen (store t mc table) := by
  intro c hc hfree
  rcases Slots.mem_modifyFirst hc with hc | ⟨-, -, -, rfl⟩
  · exact h c hc hfree
  · exact hmc (hfree.resolve_left ht)

/-- Freeing a slot whose buffer is empty. -/
theorem Drained.free (h : Drained buflen table)
    (ht : ∀ c ∈ table, c.tid = t → c.traceRecords = []) :
    Drained buflen (freeMonitoringContext t table) := by
  intro c hc hfree
  obtain ⟨c, hc', rfl⟩ := List.mem_map.mp hc
  by_cases htid : c.tid = t
  · simpa [htid] using ht c hc' htid
  · simp only [htid, if_false] at hfree ⊢
    exact h c hc' hfree

/-- A bringup for a thread that has no context. -/
theorem Drained.bringup (h : Drained buflen table)
    (hnone : findMonitoringContext t table = none) :
    Drained buflen (bringupMonitoringContext cfg env t table).1 := by
  obtain ⟨-, heq⟩ | ⟨slot, mc, hslot, hmc, heq⟩ | ⟨-, heq⟩ := bringup_cases cfg env table t <;>
    rw [heq]
  · exact h
  · intro c hc hfree
    rcases Slots.mem_modifyFirst hc with hc | ⟨-, -, -, rfl⟩
    · exact h c hc hfree
    · exact (newContext_of_bringup hmc).traceRecords.trans <|
        h slot (List.mem_of_find?_eq_some hslot) (.inl (by simpa using List.find?_some hslot))
  · have hempty : ∀ c ∈ Slots.modifyFirst (·.tid = 0)
        (fun c : MonitoringContext => { c with tid := t, fd := -1 }) table,
        c.tid = t ∨ c.tid = 0 ∨ buflen = 0 → c.traceRecords = [] := by
      intro c hc hfree
      rcases Slots.mem_modifyFirst hc with hc | ⟨a, ha, hzero, rfl⟩
      · refine h c hc (hfree.resolve_left fun htid => ?_)
        exact absurd (by simpa using htid) (List.find?_eq_none.mp hnone c hc)
      · exact h a ha (.inl (by simpa using hzero))
    exact Drained.free (fun c hc hfree => hempty c hc (.inr hfree))
      fun c hc htid => hempty c hc (.inl htid)

theorem Drained.teardown (h : Drained cfg.traceBuflen table) (hdistinct : Distinct table)
    (ht : t ≠ 0) (hfile : cfg.createMonitorFile = true) :
    Drained cfg.traceBuflen (teardownMonitoringContext cfg t table).1 := by
  unfold teardownMonitoringContext
  cases hmc : findMonitoringContext t table with
  | none => exact h
  | some mc =>
    have hmem : mc ∈ table := List.mem_of_find?_eq_some hmc
    have hflush := Trace.flush_eq cfg.traceBuflen fun hbuf => h mc hmem (.inr hbuf)
    simp only [hfile, if_true, hflush]
    have hstored : findMonitoringContext t (Table.store t { mc with traceRecords := [] } table) =
        some { mc with traceRecords := [], tid := t } := by
      rw [find_store_self, hmc, Option.map_some]
    refine Drained.free (h.store ht fun _ => rfl) fun c hc htid => ?_
    rw [(hdistinct.store _).eq_of_mem hc (List.mem_of_find?_eq_some hstored) htid rfl ht]

end FPSpy.Table
