import FPSpy.Lib.SlotMap
import FPSpy.Monitor.Exclusion

/-!
# Calls that overlap

`free_monitoring_context` gives up a lock that it no longer holds, so calls can overlap in the
table. Each thread works on its own id, and so only two allocations get in each other's way: while
no allocation takes the lock inside another one, every call is right, in whatever order the steps
of all threads come. A search returns the slot of the thread; an allocation takes a free slot, or
the table was full when it took the lock; a free gives back the slot of the thread and no other.
-/
namespace FPSpy

/-- The callers, with the map of the threads to their slots, which changes with the writes, and the
ids in the table when the call of a thread took the lock. -/
structure Overlapping where
  callers : Callers Nat
  slotOf : Nat → Option Nat
  atLock : Nat → List Nat

namespace Overlapping

abbrev call (s : Overlapping) (t : Nat) : Option ContextCall := s.callers.call t

abbrev tids (s : Overlapping) : List Nat := s.callers.words.tids

def written (fn : ContextFn) (i : Nat) : Option Nat :=
  match fn with
  | .free => none
  | .find | .alloc => some i

def slotAfter (s : Overlapping) (t : Nat) (c : ContextCall) : Nat → Option Nat :=
  match c.pc with
  | .write i => Function.update s.slotOf t (written c.fn i)
  | _ => s.slotOf

def seenAfter (s : Overlapping) (t : Nat) (c : ContextCall) : Nat → List Nat :=
  if c.acquires s.callers.words then Function.update s.atLock t s.tids else s.atLock

def step (s : Overlapping) (e : CallerEvent Nat) : Option Overlapping :=
  (s.callers.step e).map fun callers =>
    match e with
    | .enter _ _ _ => { s with callers := callers }
    | .step t =>
      { callers := callers
        slotOf := (s.call t).elim s.slotOf (s.slotAfter t)
        atLock := (s.call t).elim s.atLock (s.seenAfter t) }

def start (n : Nat) : Overlapping := ⟨.start (List.replicate n 0), fun _ => none, fun _ => []⟩

def Allocating (s : Overlapping) (t : Nat) : Prop :=
  ∃ c, s.call t = some c ∧ c.fn = .alloc ∧ c.pc ≠ .lock

/-- Each thread works on its own id, and has no slot when it asks for one. An allocation does not
take the lock inside another one. -/
def Allowed (s : Overlapping) : CallerEvent Nat → Prop
  | .enter t fn tid => tid = t ∧ t ≠ 0 ∧ (fn = .alloc → s.slotOf t = none)
  | .step t => ∀ c, s.call t = some c → c.fn = .alloc → c.acquires s.callers.words = true →
      ∀ u, ¬ s.Allocating u

def Right (s : Overlapping) (t : Nat) (fn : ContextFn) (slot : Option Nat) : Prop :=
  match fn with
  | .find => slot = s.slotOf t
  | .alloc => slot = s.slotOf t ∧ (slot = none → 0 ∉ s.atLock t)
  | .free => s.slotOf t = none

def Own (s : Overlapping) (t : Nat) (fn : ContextFn) (i : Nat) : Prop :=
  match fn with
  | .find => False
  | .alloc => s.slotOf t = none ∧ s.tids[i]? = some 0
  | .free => s.slotOf t = some i

/-- The table is the map, and every call does what it is for. -/
structure Serves (s : Overlapping) : Prop where
  map : SlotMap.Represents 0 s.tids s.slotOf
  returns : ∀ t c slot, s.call t = some c → (c.step s.callers.words).2 = .ret slot →
    s.Right t c.fn slot
  writes : ∀ t c i, s.call t = some c → c.pc = .write i → s.Own t c.fn i

/-! ## Between the steps of a call -/

/-- What a call knows at its program point: of the ids in the table, its thread's slot, and the
ids when it took the lock. -/
def Knows (tids seen : List Nat) (slot : Option Nat) (t : Nat) (c : ContextCall) : Prop :=
  match c.fn, c.pc with
  | .find, .lock => True
  | .find, .test i => ∀ k < i, tids[k]? ≠ some t
  | .find, .write _ => False
  | .find, .unlockAt i => slot = some i
  | .find, .unlockEnd => slot = none
  | .alloc, .lock => slot = none
  | .alloc, .test i => slot = none ∧ (∀ k : Nat, seen[k]? = some 0 → tids[k]? = some 0) ∧
      ∀ k < i, seen[k]? ≠ some 0
  | .alloc, .write i => slot = none ∧ tids[i]? = some 0
  | .alloc, .unlockAt i => slot = some i
  | .alloc, .unlockEnd => slot = none ∧ 0 ∉ seen
  | .free, .lock => True
  | .free, .test i => ∀ k < i, tids[k]? ≠ some t
  | .free, .write i => slot = some i
  | .free, .unlockAt _ => slot = none
  | .free, .unlockEnd => slot = none

structure Inv (s : Overlapping) : Prop where
  map : SlotMap.Represents 0 s.tids s.slotOf
  own : ∀ t c, s.call t = some c → c.tid = t ∧ t ≠ 0
  knows : ∀ t c, s.call t = some c → Knows s.tids (s.atLock t) (s.slotOf t) t c
  apart : ∀ t u, s.Allocating t → s.Allocating u → t = u

theorem inv_start (n : Nat) : Inv (start n) where
  map := SlotMap.represents_replicate 0 n
  own := nofun
  knows := nofun
  apart := by rintro t u ⟨c, hc, -⟩; cases hc

/-- What a call knows is enough for its next step. -/
theorem Inv.serves {s : Overlapping} (h : Inv s) : Serves s where
  map := h.map
  returns t c slot hc hret := by
    have hknows := h.knows t c hc
    obtain ⟨fn, tid, pc⟩ := c
    cases pc with
    | lock =>
      simp only [ContextCall.step] at hret
      split_ifs at hret
    | test i =>
      simp only [ContextCall.step] at hret
      split at hret <;> cases hret
    | write i => cases hret
    | unlockAt i =>
      cases fn with
      | find =>
        cases hret
        exact hknows.symm
      | alloc =>
        cases hret
        exact ⟨hknows.symm, fun hnone => by cases hnone⟩
      | free => cases hret
    | unlockEnd =>
      cases hret
      cases fn with
      | find => exact hknows.symm
      | alloc => exact ⟨hknows.1.symm, fun _ => hknows.2⟩
      | free => exact hknows
  writes t c i hc hpc := by
    have hknows := h.knows t c hc
    obtain ⟨fn, tid, pc⟩ := c
    obtain rfl : pc = .write i := hpc
    cases fn with
    | find => exact hknows
    | alloc => exact hknows
    | free => exact hknows

/-! ## Steps -/

variable {s s' : Overlapping} {t u : Nat} {c c' : ContextCall}

/-- Writes of other threads make no difference to what a call knows: they leave its id alone, and
free slots as well if it is an allocation. -/
theorem Knows.congr {tids tids' seen : List Nat} {slot : Option Nat}
    (h : Knows tids seen slot t c) (hmine : ∀ k : Nat, tids'[k]? = some t → tids[k]? = some t)
    (hfree : c.fn = .alloc → c.pc ≠ .lock → ∀ k : Nat, tids[k]? = some 0 → tids'[k]? = some 0) :
    Knows tids' seen slot t c := by
  obtain ⟨fn, tid, pc⟩ := c
  cases fn with
  | find =>
    cases pc with
    | test i => exact fun k hk hin => h k hk (hmine k hin)
    | lock | write | unlockAt | unlockEnd => exact h
  | alloc =>
    have hzero := hfree rfl
    cases pc with
    | test i => exact ⟨h.1, fun k hk => hzero nofun k (h.2.1 k hk), h.2.2⟩
    | write i => exact ⟨h.1, hzero nofun i h.2⟩
    | lock | unlockAt | unlockEnd => exact h
  | free =>
    cases pc with
    | test i => exact fun k hk hin => h k hk (hmine k hin)
    | lock | write | unlockAt | unlockEnd => exact h

/-- Only a write changes the ids. -/
theorem tids_step (w : ContextWords) (c : ContextCall) : (c.step w).1.tids =
    match c.pc with
    | .write i => w.tids.set i (c.fn.value c.tid)
    | _ => w.tids := by
  obtain ⟨fn, tid, pc⟩ := c
  cases pc with
  | lock => simp only [ContextCall.step]; split_ifs <;> rfl
  | test i => simp only [ContextCall.step]; split <;> rfl
  | write | unlockAt | unlockEnd => rfl

namespace Inv

theorem mem_iff (h : Inv s) (hc : s.call t = some c) (k : Nat) :
    s.slotOf t = some k ↔ s.tids[k]? = some t := h.map.slot_iff t k (h.own t c hc).2

/-- A thread without a slot is nowhere in the table. -/
theorem absent (h : Inv s) (hc : s.call t = some c) (hslot : s.slotOf t = none) (k : Nat) :
    s.tids[k]? ≠ some t := fun hk => by
  rw [(h.mem_iff hc k).mpr hk] at hslot
  cases hslot

/-- A scan to the end has found nothing. -/
theorem slot_none (h : Inv s) (hc : s.call t = some c) {i : Nat} (hend : s.tids[i]? = none)
    (hscan : ∀ k < i, s.tids[k]? ≠ some t) : s.slotOf t = none := by
  cases hslot : s.slotOf t with
  | none => rfl
  | some k =>
    have hk := (h.mem_iff hc k).mp hslot
    have hlt := (List.getElem?_eq_some_iff.mp hk).1
    have hlen := List.getElem?_eq_none_iff.mp hend
    exact absurd hk (hscan k (by omega))

theorem scan_succ {tids : List Nat} {i a : Nat} (hscan : ∀ k < i, tids[k]? ≠ some a)
    (hi : tids[i]? ≠ some a) : ∀ k < i + 1, tids[k]? ≠ some a := by
  intro k hk
  rcases Nat.lt_succ_iff_lt_or_eq.mp hk with hlt | rfl
  · exact hscan k hlt
  · exact hi

/-- The map follows the table. -/
theorem map_step (h : Inv s) (hc : s.call t = some c) :
    SlotMap.Represents 0 (c.step s.callers.words).1.tids (s.slotAfter t c) := by
  obtain ⟨htid, ht⟩ := h.own t c hc
  have hknows := h.knows t c hc
  rw [tids_step]
  obtain ⟨fn, tid, pc⟩ := c
  obtain rfl : tid = t := htid
  cases pc with
  | write i =>
    cases fn with
    | find => exact absurd hknows id
    | alloc => exact h.map.set ht hknows.1 hknows.2
    | free => exact h.map.clear hknows
  | lock | test | unlockAt | unlockEnd => exact h.map

/-- A try at the lock; an allocation that gets it has seen the table. -/
theorem knows_lock {fn : ContextFn} {tid : Nat}
    (hknows : Knows s.tids (s.atLock t) (s.slotOf t) t ⟨fn, tid, .lock⟩)
    (hnext : (⟨fn, tid, .lock⟩ : ContextCall).next
      (ContextCall.step s.callers.words ⟨fn, tid, .lock⟩).2 = some c') :
    Knows s.tids (s.seenAfter t ⟨fn, tid, .lock⟩ t) (s.slotOf t) t c' := by
  cases hw : s.callers.words.locked with
  | true =>
    simp only [ContextCall.step, hw, if_true] at hnext
    obtain rfl := Option.some.inj hnext
    cases fn <;> exact hknows
  | false =>
    simp only [ContextCall.step, hw, Bool.false_eq_true, if_false] at hnext
    obtain rfl := Option.some.inj hnext
    cases fn with
    | find | free => exact fun k hk => absurd hk (Nat.not_lt_zero k)
    | alloc =>
      have hseen : s.seenAfter t ⟨.alloc, tid, .lock⟩ t = s.tids := by
        simp [seenAfter, ContextCall.acquires, hw]
      rw [hseen]
      exact ⟨hknows, fun _ => id, fun k hk => absurd hk (Nat.not_lt_zero k)⟩

/-- A look at a slot: it is the one wanted, the scan goes on, or it is over. -/
theorem knows_test (h : Inv s) {fn : ContextFn} {i : Nat} (hc : s.call t = some ⟨fn, t, .test i⟩)
    (hnext : (⟨fn, t, .test i⟩ : ContextCall).next
      (ContextCall.step s.callers.words ⟨fn, t, .test i⟩).2 = some c') :
    Knows s.tids (s.atLock t) (s.slotOf t) t c' := by
  have hknows := h.knows t _ hc
  simp only [ContextCall.step] at hnext
  split at hnext
  · next hnone =>
    obtain rfl := Option.some.inj hnext
    cases fn with
    | find | free => exact h.slot_none hc hnone hknows
    | alloc =>
      refine ⟨hknows.1, fun hzero => ?_⟩
      obtain ⟨k, hk⟩ := List.mem_iff_getElem?.mp hzero
      have hlt := (List.getElem?_eq_some_iff.mp (hknows.2.1 k hk)).1
      have hlen : s.tids.length ≤ i := List.getElem?_eq_none_iff.mp hnone
      exact hknows.2.2 k (by omega) hk
  · next found hfound =>
    obtain rfl := Option.some.inj hnext
    cases fn with
    | find | free =>
      by_cases hhit : found = t
      · subst hhit
        simp only [ContextFn.wants, decide_true, if_true]
        exact (h.mem_iff hc i).mpr hfound
      · simp only [ContextFn.wants, hhit, decide_false, Bool.false_eq_true, if_false]
        refine scan_succ hknows fun hin => hhit ?_
        exact Option.some.inj (hfound.symm.trans hin)
    | alloc =>
      by_cases hhit : found = 0
      · subst hhit
        exact ⟨hknows.1, hfound⟩
      · simp only [ContextFn.wants, hhit, decide_false, Bool.false_eq_true, if_false]
        refine ⟨hknows.1, hknows.2.1, scan_succ hknows.2.2 fun hin => hhit ?_⟩
        exact Option.some.inj (hfound.symm.trans (hknows.2.1 i hin))

/-- A call knows after its step what it needs there. -/
theorem knows_step (h : Inv s) (hc : s.call t = some c)
    (hnext : c.next (c.step s.callers.words).2 = some c') :
    Knows (c.step s.callers.words).1.tids (s.seenAfter t c t) (s.slotAfter t c t) t c' := by
  obtain ⟨htid, ht⟩ := h.own t c hc
  have hknows := h.knows t c hc
  rw [tids_step]
  obtain ⟨fn, tid, pc⟩ := c
  obtain rfl : tid = t := htid
  cases pc with
  | lock => exact knows_lock hknows hnext
  | test i => exact h.knows_test hc hnext
  | write i =>
    obtain rfl := Option.some.inj hnext
    cases fn with
    | find => exact absurd hknows id
    | alloc | free => exact Function.update_self ..
  | unlockAt i =>
    cases fn with
    | find | alloc => cases hnext
    | free =>
      obtain rfl := Option.some.inj hnext
      exact fun k _ => h.absent hc hknows k
  | unlockEnd => cases hnext

/-- The other calls know what they knew. -/
theorem knows_other (h : Inv s) (hc : s.call t = some c) (hu : s.call u = some c') (hne : u ≠ t) :
    Knows (c.step s.callers.words).1.tids (s.seenAfter t c u) (s.slotAfter t c u) u c' := by
  obtain ⟨htid, ht⟩ := h.own t c hc
  have hu0 := (h.own u c' hu).2
  have hseen : s.seenAfter t c u = s.atLock u := by
    unfold seenAfter
    split_ifs <;> simp [hne]
  have hslot : s.slotAfter t c u = s.slotOf u := by
    cases hpc : c.pc <;> simp [slotAfter, hpc, hne]
  have hknows := h.knows t c hc
  have hapart : c.fn = .alloc → c.pc ≠ .lock → c'.fn = .alloc → c'.pc ≠ .lock → u = t :=
    fun hfn hpc hfn' hpc' => h.apart u t ⟨c', hu, hfn', hpc'⟩ ⟨c, hc, hfn, hpc⟩
  rw [hseen, hslot, tids_step]
  obtain ⟨fn, tid, pc⟩ := c
  obtain rfl : tid = t := htid
  cases pc with
  | lock | test | unlockAt | unlockEnd => exact h.knows u c' hu
  | write i =>
    refine (h.knows u c' hu).congr (fun k hk => ?_) fun hfn' hpc' k hk => ?_
    · simp only [List.getElem?_set] at hk
      split_ifs at hk
      · cases fn with
        | find => exact absurd hknows id
        | alloc => exact absurd (Option.some.inj hk).symm hne
        | free => exact absurd (Option.some.inj hk).symm hu0
      · exact hk
    · cases fn with
      | find => exact absurd hknows id
      | alloc => exact absurd (hapart rfl nofun hfn' hpc') hne
      | free =>
        have hlt : k < s.tids.length := (List.getElem?_eq_some_iff.mp hk).1
        by_cases hik : i = k
        · subst hik
          exact List.getElem?_set_self hlt
        · rwa [List.getElem?_set_ne hik]

/-- An allocation that is inside after a step was so before, or has just taken the lock. -/
theorem allocating_of_update (hc : s.call t = some c) {d : ContextCall}
    (hd : Function.update s.callers.call t (c.next (c.step s.callers.words).2) u = some d)
    (hfn : d.fn = .alloc) (hpc : d.pc ≠ .lock) :
    s.Allocating u ∨ u = t ∧ c.fn = .alloc ∧ c.acquires s.callers.words = true := by
  by_cases hut : u = t
  · subst hut
    rw [Function.update_self] at hd
    have hcfn : c.fn = .alloc := (ContextCall.fn_of_next hd).symm.trans hfn
    by_cases hlock : c.pc = .lock
    · refine .inr ⟨rfl, hcfn, ?_⟩
      cases hw : s.callers.words.locked with
      | false => simp [ContextCall.acquires, hlock, hw]
      | true =>
        simp only [ContextCall.step, hlock, hw, if_true] at hd
        obtain rfl := Option.some.inj hd
        exact absurd rfl hpc
    · exact .inl ⟨c, hc, hcfn, hlock⟩
  · rw [Function.update_of_ne hut] at hd
    exact .inl ⟨d, hd, hfn, hpc⟩

/-- One thread has taken a step of its call. -/
theorem move (h : Inv s) (hc : s.call t = some c) (hallowed : s.Allowed (.step t))
    {callers : Callers Nat} (hstep : s.callers.step (.step t) = some callers) :
    Inv { callers := callers, slotOf := s.slotAfter t c, atLock := s.seenAfter t c } := by
  obtain ⟨d, hd, rfl⟩ := Option.map_eq_some_iff.mp hstep
  obtain rfl : c = d := Option.some.inj (hc.symm.trans hd)
  refine ⟨h.map_step hc, fun u d hd => ?_, fun u d hd => ?_, fun u v hu hv => ?_⟩
  · by_cases hut : u = t
    · subst hut
      simp only [call, Function.update_self] at hd
      cases hn : (c.step s.callers.words).2 with
      | ret slot =>
        rw [hn] at hd
        cases hd
      | goto pc =>
        rw [hn] at hd
        obtain rfl := Option.some.inj hd
        exact h.own u c hc
    · exact h.own u d (by simpa [call, hut] using hd)
  · by_cases hut : u = t
    · subst hut
      exact h.knows_step hc (by simpa [call] using hd)
    · exact h.knows_other hc (by simpa [call, hut] using hd) hut
  · obtain ⟨d, hd, hdfn, hdpc⟩ := hu
    obtain ⟨e, he, hefn, hepc⟩ := hv
    rcases allocating_of_update hc hd hdfn hdpc with hu' | ⟨rfl, hfn, hacq⟩
    · rcases allocating_of_update hc he hefn hepc with hv' | ⟨rfl, hfn, hacq⟩
      · exact h.apart u v hu' hv'
      · exact absurd hu' (hallowed c hc hfn hacq u)
    · rcases allocating_of_update hc he hefn hepc with hv' | ⟨rfl, -, -⟩
      · exact absurd hv' (hallowed c hc hfn hacq v)
      · rfl

theorem step {e : CallerEvent Nat} (h : Inv s) (hallowed : s.Allowed e)
    (hstep : s.step e = some s') : Inv s' := by
  obtain ⟨callers, hcallers, rfl⟩ := Option.map_eq_some_iff.mp hstep
  cases e with
  | step t =>
    obtain ⟨c, hc, -⟩ := Option.map_eq_some_iff.mp hcallers
    have hmove := h.move hc hallowed hcallers
    simpa only [call, hc, Option.elim_some] using hmove
  | enter t fn tid =>
    obtain ⟨rfl, ht, halloc⟩ := hallowed
    simp only [Callers.step] at hcallers
    split_ifs at hcallers with hidle
    obtain rfl := Option.some.inj hcallers
    have hold : ∀ u d, Function.update s.callers.call tid (some (.start fn tid)) u = some d →
        s.call u = some d ∨ u = tid ∧ d = .start fn tid := by
      intro u d hd
      by_cases hut : u = tid
      · subst hut
        rw [Function.update_self] at hd
        exact .inr ⟨rfl, (Option.some.inj hd).symm⟩
      · rw [Function.update_of_ne hut] at hd
        exact .inl hd
    have hinside : ∀ u, (∃ d, Function.update s.callers.call tid (some (.start fn tid)) u = some d ∧
        d.fn = .alloc ∧ d.pc ≠ .lock) → s.Allocating u := by
      rintro u ⟨d, hd, hfn, hpc⟩
      rcases hold u d hd with hd | ⟨-, rfl⟩
      · exact ⟨d, hd, hfn, hpc⟩
      · exact absurd rfl hpc
    refine ⟨h.map, fun u d hd => ?_, fun u d hd => ?_, fun u v hu hv =>
      h.apart u v (hinside u hu) (hinside v hv)⟩
    · rcases hold u d hd with hd | ⟨rfl, rfl⟩
      · exact h.own u d hd
      · exact ⟨rfl, ht⟩
    · rcases hold u d hd with hd | ⟨rfl, rfl⟩
      · exact h.knows u d hd
      · cases fn with
        | find | free => trivial
        | alloc => exact halloc rfl

end Inv

/-- In every run in which no allocation takes the lock inside another one, the table is the map of
the threads to their slots, and every call does what it is for. -/
theorem run_serves (n : Nat) {es : List (CallerEvent Nat)}
    (hallowed : Run.Admits step Allowed (start n) es) (hrun : Run.run step (start n) es = some s) :
    Serves s :=
  (Run.invariant_of_admits (fun _ _ _ h hallowed hstep => Inv.step h hallowed hstep) hallowed
    (inv_start n) hrun).serves

/-! ## Threads 1, 2 and 3 -/

def allowedBelow (n : Nat) (s : Overlapping) : CallerEvent Nat → Bool
  | .enter t fn tid =>
    decide (t < n) && decide (tid = t) && decide (t ≠ 0) &&
      (decide (fn ≠ .alloc) || decide (s.slotOf t = none))
  | .step t => (s.call t).all fun c => !(decide (c.fn = .alloc) && c.acquires s.callers.words) ||
      (List.range n).all fun u => (s.call u).all fun d =>
        decide (d.fn ≠ .alloc) || decide (d.pc = .lock)

def Below (n : Nat) (s : Overlapping) : Prop := ∀ u, n ≤ u → s.call u = none

theorem Below.allowed {n : Nat} (h : s.Below n) {e : CallerEvent Nat}
    (he : s.allowedBelow n e = true) : s.Allowed e := by
  cases e with
  | enter t fn tid =>
    simp only [allowedBelow, Bool.and_eq_true, Bool.or_eq_true, decide_eq_true_eq] at he
    obtain ⟨⟨⟨-, htid⟩, ht⟩, halloc⟩ := he
    exact ⟨htid, ht, fun hfn => halloc.resolve_left (not_not.mpr hfn)⟩
  | step t =>
    rintro c hc hfn hacq u ⟨d, hd, hfn', hpc⟩
    have hlt : u < n := by
      by_contra hle
      rw [h u (by omega)] at hd
      cases hd
    simp only [allowedBelow, hc, Option.all_some, hfn, hacq, decide_true, Bool.true_and,
      Bool.not_true, Bool.false_or, List.all_eq_true, List.mem_range] at he
    have hfree := he u hlt
    simp [hd, hfn', hpc] at hfree

theorem Below.step {n : Nat} (h : s.Below n) {e : CallerEvent Nat}
    (he : s.allowedBelow n e = true) (hstep : s.step e = some s') : s'.Below n := by
  obtain ⟨callers, hcallers, rfl⟩ := Option.map_eq_some_iff.mp hstep
  intro u hu
  cases e with
  | enter t fn tid =>
    simp only [allowedBelow, Bool.and_eq_true, decide_eq_true_eq] at he
    simp only [Callers.step] at hcallers
    split_ifs at hcallers
    obtain rfl := Option.some.inj hcallers
    have hne : u ≠ t := by omega
    simpa [call, hne] using h u hu
  | step t =>
    obtain ⟨c, hc, rfl⟩ := Option.map_eq_some_iff.mp hcallers
    have hne : u ≠ t := by
      rintro rfl
      cases (h u hu).symm.trans hc
    simpa [call, hne] using h u hu

/-- Thread 1 has its slot. It frees it while thread 2 looks itself up, and its second unlock lets
thread 3 in, which takes the slot. -/
def overlappingEvents : List (CallerEvent Nat) :=
  .enter 1 .alloc 1 :: List.replicate 4 (.step 1) ++
    .enter 1 .free 1 :: List.replicate 4 (.step 1) ++
    [.enter 2 .find 2, .step 2, .step 2, .step 1, .step 1, .step 1] ++
    .enter 3 .alloc 3 :: List.replicate 4 (.step 3)

theorem run_serves_overlapping : ∃ s, Run.run step (start 2) overlappingEvents = some s ∧
    s.callers.holds 2 = true ∧ s.slotOf 3 = some 0 ∧ Serves s := by
  have hallowed : Run.Admits step Allowed (start 2) overlappingEvents :=
    Run.admits_of_check_of_invariant (J := Below 4)
      (fun _ _ _ h he hstep => h.step he hstep) (fun _ _ h he => h.allowed he)
      (fun _ _ => rfl) (by decide)
  exact ⟨_, rfl, rfl, rfl, run_serves 2 hallowed rfl⟩

/-- The condition is needed: let in by the second unlock of thread 1, thread 3 takes the slot that
thread 2 is about to write to. -/
theorem not_serves_twoAllocations : ∃ s, Run.run step (start 2)
    (.enter 1 .alloc 1 :: List.replicate 4 (.step 1) ++
      .enter 1 .free 1 :: List.replicate 4 (.step 1) ++
      [.enter 2 .alloc 2, .step 2, .step 2, .step 1, .step 1, .step 1, .enter 3 .alloc 3, .step 3,
        .step 3, .step 2, .step 3]) = some s ∧
    s.slotOf 2 = some 0 ∧ s.slotOf 3 = some 0 ∧ ¬ Serves s := by
  refine ⟨_, rfl, rfl, rfl, fun h => ?_⟩
  exact absurd (h.map.injective (j := 2) (k := 3) (i := 0) rfl rfl) (by decide)

end Overlapping
end FPSpy
