import FPSpy.Monitor.Table

/-!
# The lock of the context table, step by step

`find_monitoring_context`, `alloc_monitoring_context` and `free_monitoring_context` at the
grain at which threads interleave: each compare-and-swap, each unlock and each access to a
`context[i].tid` is one step. What the table holds besides the ids plays no part here.

Run alone, the three functions do what `FPSpy.Monitor.Table` says. `free` does not return when
it has found its slot and unlocked: it goes on with the scan, and unlocks again at the end.
-/
namespace FPSpy

inductive ContextFn where
  | find | alloc | free
  deriving DecidableEq, Repr

inductive ContextPc where
  /-- The compare-and-swap of `lock_contexts`. -/
  | lock
  /-- The test of `context[i].tid`, if there is such a slot. -/
  | test (i : Nat)
  /-- The assignment to `context[i].tid`. -/
  | write (i : Nat)
  /-- `unlock_contexts` in the loop. -/
  | unlockAt (i : Nat)
  /-- `unlock_contexts` after the loop. -/
  | unlockEnd
  deriving DecidableEq, Repr

structure ContextCall where
  fn : ContextFn
  tid : Nat
  pc : ContextPc
  deriving DecidableEq, Repr

structure ContextWords where
  locked : Bool
  tids : List Nat
  deriving DecidableEq, Repr

/-- How a call goes on: `ret` is its return, with the index of the slot it found. -/
inductive ContextNext where
  | goto (pc : ContextPc)
  | ret (slot : Option Nat)
  deriving DecidableEq, Repr

namespace ContextFn

def wants (fn : ContextFn) (tid found : Nat) : Bool :=
  match fn with
  | find | free => found = tid
  | alloc => found = 0

def hit (fn : ContextFn) (i : Nat) : ContextPc :=
  match fn with
  | find => .unlockAt i
  | alloc | free => .write i

def value (fn : ContextFn) (tid : Nat) : Nat :=
  match fn with
  | free => 0
  | find | alloc => tid

def leave (fn : ContextFn) (i : Nat) : ContextNext :=
  match fn with
  | find | alloc => .ret (some i)
  | free => .goto (.test (i + 1))

end ContextFn

namespace ContextCall

def start (fn : ContextFn) (tid : Nat) : ContextCall := ⟨fn, tid, .lock⟩

def step (w : ContextWords) (c : ContextCall) : ContextWords × ContextNext :=
  match c.pc with
  | .lock => if w.locked then (w, .goto .lock) else ({ w with locked := true }, .goto (.test 0))
  | .test i =>
    match w.tids[i]? with
    | none => (w, .goto .unlockEnd)
    | some found => (w, .goto (if c.fn.wants c.tid found then c.fn.hit i else .test (i + 1)))
  | .write i => ({ w with tids := w.tids.set i (c.fn.value c.tid) }, .goto (.unlockAt i))
  | .unlockAt i => ({ w with locked := false }, c.fn.leave i)
  | .unlockEnd => ({ w with locked := false }, .ret none)

def next (c : ContextCall) : ContextNext → Option ContextCall
  | .goto pc => some { c with pc := pc }
  | .ret _ => none

def acquires (w : ContextWords) (c : ContextCall) : Bool := c.pc = .lock ∧ w.locked = false

def unlocks (c : ContextCall) : Bool :=
  match c.pc with
  | .unlockAt _ | .unlockEnd => true
  | _ => false

def accesses (w : ContextWords) (c : ContextCall) : Bool :=
  match c.pc with
  | .test i => i < w.tids.length
  | .write _ => true
  | _ => false

/-- The next step is the test at which `free_monitoring_context` finds its slot. -/
def frees (w : ContextWords) (c : ContextCall) : Bool :=
  match c.fn, c.pc with
  | .free, .test i => w.tids[i]? = some c.tid
  | _, _ => false

theorem fn_of_next {c c' : ContextCall} {n : ContextNext} (h : c.next n = some c') :
    c'.fn = c.fn := by
  cases n with
  | goto pc =>
    obtain rfl := Option.some.inj h
    rfl
  | ret slot => cases h

inductive Moves (w : ContextWords) (c : ContextCall) : ContextWords → ContextNext → Prop where
  /-- A compare-and-swap that fails is tried again. -/
  | spin (hpc : c.pc = .lock) (hw : w.locked = true) : Moves w c w (.goto .lock)
  | acquire (hpc : c.pc = .lock) (hw : w.locked = false) :
      Moves w c { w with locked := true } (.goto (.test 0))
  | inside {w' pc} (hpc : c.pc ≠ .lock) (hunlock : c.unlocks = false)
      (hw : w'.locked = w.locked) (hnext : pc ≠ .lock) : Moves w c w' (.goto pc)
  | unlock {next} (hunlock : c.unlocks = true) (hnext : ∀ pc, next = .goto pc → pc ≠ .lock) :
      Moves w c { w with locked := false } next

theorem moves_step (w : ContextWords) (c : ContextCall) : Moves w c (c.step w).1 (c.step w).2 := by
  obtain ⟨fn, tid, pc⟩ := c
  cases pc with
  | lock =>
    cases hw : w.locked with
    | true =>
      simp only [step, hw, if_true]
      exact .spin rfl hw
    | false =>
      simp only [step, hw, Bool.false_eq_true, if_false]
      exact .acquire rfl hw
  | test i =>
    simp only [step]
    split
    · exact .inside nofun rfl rfl nofun
    · refine .inside nofun rfl rfl ?_
      cases fn <;> split_ifs <;> simp [ContextFn.hit]
  | write i => exact .inside nofun rfl rfl nofun
  | unlockAt i =>
    refine .unlock rfl ?_
    cases fn <;> rintro pc ⟨⟩
    nofun
  | unlockEnd => exact .unlock rfl nofun

theorem not_lock_of_unlocks {c : ContextCall} (h : c.unlocks = true) : c.pc ≠ .lock := by
  intro hpc
  simp [unlocks, hpc] at h

theorem not_lock_of_accesses {w : ContextWords} {c : ContextCall} (h : c.accesses w = true) :
    c.pc ≠ .lock := by
  intro hpc
  simp [accesses, hpc] at h

/-! ## A call on its own -/

/-- A call from here to its return, with no other step in between. -/
inductive Returns : ContextWords → ContextCall → ContextWords → Option Nat → Prop where
  | ret {w w' c slot} (h : step w c = (w', .ret slot)) : Returns w c w' slot
  | goto {w w' w'' c pc slot} (h : step w c = (w', .goto pc))
      (hret : Returns w' { c with pc := pc } w'' slot) : Returns w c w'' slot

variable {tid : Nat} {fn : ContextFn} {locked : Bool} {pre rest : List Nat} {found : Nat}

theorem step_test_of_wants (h : fn.wants tid found = true) :
    step ⟨locked, pre ++ found :: rest⟩ ⟨fn, tid, .test pre.length⟩ =
      (⟨locked, pre ++ found :: rest⟩, .goto (fn.hit pre.length)) := by
  simp [step, h]

theorem step_test_of_not_wants (h : fn.wants tid found = false) :
    step ⟨locked, pre ++ found :: rest⟩ ⟨fn, tid, .test pre.length⟩ =
      (⟨locked, pre ++ found :: rest⟩, .goto (.test (pre.length + 1))) := by
  simp [step, h]

theorem step_write_append :
    step ⟨locked, pre ++ found :: rest⟩ ⟨fn, tid, .write pre.length⟩ =
      (⟨locked, pre ++ fn.value tid :: rest⟩, .goto (.unlockAt pre.length)) := by
  simp [step]

/-- The scan past a slot that is not wanted. -/
theorem Returns.skip {w : ContextWords} {slot : Option Nat} (hmiss : fn.wants tid found = false)
    (h : Returns ⟨locked, (pre ++ [found]) ++ rest⟩ ⟨fn, tid, .test (pre ++ [found]).length⟩ w
      slot) :
    Returns ⟨locked, pre ++ found :: rest⟩ ⟨fn, tid, .test pre.length⟩ w slot := by
  refine .goto (step_test_of_not_wants hmiss) ?_
  simpa using h

variable (tid) in
/-- The scan that has come to the end. -/
theorem Returns.last (fn : ContextFn) (locked : Bool) (pre : List Nat) :
    Returns ⟨locked, pre⟩ ⟨fn, tid, .test pre.length⟩ ⟨false, pre⟩ none := by
  have htest : step ⟨locked, pre⟩ ⟨fn, tid, .test pre.length⟩ =
      (⟨locked, pre⟩, .goto .unlockEnd) := by
    simp [step]
  exact .goto htest (.ret rfl)

variable (tid) in
theorem returns_find_scan (pre rest : List Nat) :
    Returns ⟨true, pre ++ rest⟩ ⟨.find, tid, .test pre.length⟩ ⟨false, pre ++ rest⟩
      ((rest.findIdx? (· = tid)).map (· + pre.length)) := by
  induction rest generalizing pre with
  | nil => simpa using Returns.last tid .find true pre
  | cons found rest ih =>
    by_cases hfound : found = tid
    · have hslot : ((found :: rest).findIdx? (· = tid)).map (· + pre.length) = some pre.length := by
        simp [List.findIdx?_cons, hfound]
      rw [hslot]
      exact .goto (step_test_of_wants (by simp [ContextFn.wants, hfound])) (.ret rfl)
    · have hih := ih (pre ++ [found])
      refine .skip (by simp [ContextFn.wants, hfound]) ?_
      convert hih using 1
      · simp
      · simp only [List.findIdx?_cons, hfound, decide_false, Bool.false_eq_true, if_false,
          Option.map_map, List.length_append, List.length_singleton]
        congr 1
        funext k
        simp only [Function.comp]
        omega

variable (tid) in
theorem returns_alloc_scan (pre rest : List Nat) :
    ∃ slot, Returns ⟨true, pre ++ rest⟩ ⟨.alloc, tid, .test pre.length⟩
      ⟨false, pre ++ Slots.modifyFirst (· = 0) (fun _ => tid) rest⟩ slot := by
  induction rest generalizing pre with
  | nil => exact ⟨none, by simpa [Slots.modifyFirst] using Returns.last tid .alloc true pre⟩
  | cons found rest ih =>
    by_cases hfound : found = 0
    · rw [Slots.modifyFirst_cons_of_pos (by simp [hfound])]
      exact ⟨some pre.length, .goto (step_test_of_wants (by simp [ContextFn.wants, hfound]))
        (.goto step_write_append (.ret rfl))⟩
    · obtain ⟨slot, hslot⟩ := ih (pre ++ [found])
      refine ⟨slot, .skip (by simp [ContextFn.wants, hfound]) ?_⟩
      rw [Slots.modifyFirst_cons_of_neg (by simp [hfound])]
      simpa using hslot

variable (tid) in
/-- Freed slots are left behind with the lock open. -/
theorem returns_free_scan (locked : Bool) (pre rest : List Nat) :
    Returns ⟨locked, pre ++ rest⟩ ⟨.free, tid, .test pre.length⟩
      ⟨false, pre ++ rest.map fun found => if found = tid then 0 else found⟩ none := by
  induction rest generalizing pre locked with
  | nil => simpa using Returns.last tid .free locked pre
  | cons found rest ih =>
    by_cases hfound : found = tid
    · have hih := ih false (pre ++ [0])
      refine .goto (step_test_of_wants (by simp [ContextFn.wants, hfound]))
        (.goto step_write_append (.goto rfl ?_))
      simpa [hfound, ContextFn.value] using hih
    · have hih := ih locked (pre ++ [found])
      refine .skip (by simp [ContextFn.wants, hfound]) ?_
      simpa [hfound] using hih

/-! ## The functions of the table -/

variable {table : List MonitoringContext}

theorem Returns.acquire {tids : List Nat} {w : ContextWords} {slot : Option Nat}
    (h : Returns ⟨true, tids⟩ ⟨fn, tid, .test 0⟩ w slot) :
    Returns ⟨false, tids⟩ (start fn tid) w slot :=
  .goto rfl h

variable (tid table) in
/-- `find_monitoring_context` returns the slot of the table's search, and writes nothing. -/
theorem returns_find :
    ∃ slot, Returns ⟨false, table.map (·.tid)⟩ (start .find tid) ⟨false, table.map (·.tid)⟩ slot ∧
      slot.bind (table[·]?) = Table.findMonitoringContext tid table := by
  refine ⟨_, .acquire (returns_find_scan tid [] _), ?_⟩
  rw [Table.findMonitoringContext, List.find?_eq_bind_findIdx?_getElem?, List.findIdx?_map]
  simp only [List.length_nil, Nat.add_zero, Option.map_id']
  rfl

variable (tid table) in
/-- `alloc_monitoring_context` takes the first free slot. -/
theorem returns_alloc :
    ∃ slot, Returns ⟨false, table.map (·.tid)⟩ (start .alloc tid)
      ⟨false, (Slots.modifyFirst (·.tid = 0) (fun c => { c with tid := tid }) table).map (·.tid)⟩
      slot := by
  obtain ⟨slot, hslot⟩ := returns_alloc_scan tid [] (table.map (·.tid))
  refine ⟨slot, .acquire ?_⟩
  rw [Slots.map_modifyFirst (r := (· = 0)) (h := fun _ => tid) (fun _ => rfl) (fun _ => rfl)]
  exact hslot

variable (tid table) in
/-- `free_monitoring_context` clears every slot that carries the id. -/
theorem returns_free :
    Returns ⟨false, table.map (·.tid)⟩ (start .free tid)
      ⟨false, (Table.freeMonitoringContext tid table).map (·.tid)⟩ none := by
  have htids : (Table.freeMonitoringContext tid table).map (·.tid) =
      (table.map (·.tid)).map fun found => if found = tid then 0 else found := by
    simp only [Table.freeMonitoringContext, List.map_map]
    refine List.map_congr_left fun c _ => ?_
    simp only [Function.comp]
    split_ifs <;> rfl
  rw [htids]
  exact .acquire (returns_free_scan tid true [] _)

end ContextCall
end FPSpy
