import FPSpy.Lib.Run
import FPSpy.Monitor.ContextLock

/-!
# Mutual exclusion in the context table

Any number of threads, each in at most one of the three functions at a time, and their steps
in any order. `holds` is a history variable: a thread holds the lock from its compare-and-swap
to its unlock.

`free_monitoring_context` breaks the discipline whenever it finds what it is looking for: it
has unlocked then, and goes on reading, writing and unlocking. Without such a hit every call
is a critical section, and the lock does its work.
-/
namespace FPSpy

structure Callers (T : Type) where
  words : ContextWords
  call : T → Option ContextCall
  holds : T → Bool

inductive CallerEvent (T : Type) where
  /-- A thread calls a function with this id. -/
  | enter (t : T) (fn : ContextFn) (tid : Nat)
  /-- A thread takes the next step of its call. -/
  | step (t : T)

namespace Callers

variable {T : Type}

def start (tids : List Nat) : Callers T := ⟨⟨false, tids⟩, fun _ => none, fun _ => false⟩

def step [DecidableEq T] (s : Callers T) : CallerEvent T → Option (Callers T)
  | .enter t fn tid =>
    if s.call t = none then
      some { s with call := Function.update s.call t (some (.start fn tid)) }
    else none
  | .step t =>
    (s.call t).map fun c =>
      { words := (c.step s.words).1
        call := Function.update s.call t (c.next (c.step s.words).2)
        holds := Function.update s.holds t
          (if c.acquires s.words then true else if c.unlocks then false else s.holds t) }

structure Exclusive (s : Callers T) : Prop where
  one : ∀ t u, s.holds t = true → s.holds u = true → t = u
  unlocks : ∀ t c, s.call t = some c → c.unlocks = true → s.holds t = true
  accesses : ∀ t c, s.call t = some c → c.accesses s.words = true → s.holds t = true

/-- The condition on a step: it is not a test at which `free_monitoring_context` finds its slot. -/
def misses (s : Callers T) : CallerEvent T → Bool
  | .enter _ _ _ => true
  | .step t => (s.call t).all fun c => !c.frees s.words

def Clean (c : ContextCall) : Prop := c.fn = .free → ∀ i, c.pc ≠ .write i ∧ c.pc ≠ .unlockAt i

/-- The invariant: the calls past their compare-and-swap are those of the one holder. -/
structure Orderly (s : Callers T) : Prop where
  clean : ∀ t c, s.call t = some c → Clean c
  holds_iff : ∀ t, s.holds t = true ↔ ∃ c, s.call t = some c ∧ c.pc ≠ .lock
  locked_iff : s.words.locked = true ↔ ∃ t, s.holds t = true
  one : ∀ t u, s.holds t = true → s.holds u = true → t = u

theorem Orderly.exclusive {s : Callers T} (h : Orderly s) : Exclusive s where
  one := h.one
  unlocks t c hc hunlock := (h.holds_iff t).mpr ⟨c, hc, ContextCall.not_lock_of_unlocks hunlock⟩
  accesses t c hc hacc := (h.holds_iff t).mpr ⟨c, hc, ContextCall.not_lock_of_accesses hacc⟩

theorem orderly_start (tids : List Nat) : Orderly (start tids : Callers T) where
  clean := nofun
  holds_iff t := by simp [start]
  locked_iff := by simp [start]
  one := nofun

/-- Without a hit of `free` a clean call stays clean. -/
theorem Clean.step {w : ContextWords} {c c' : ContextCall} (h : Clean c)
    (hmiss : c.frees w = false) (hnext : c.next (c.step w).2 = some c') : Clean c' := by
  intro hfree i
  have hfn : c.fn = .free := (ContextCall.fn_of_next hnext).symm.trans hfree
  cases hpc : c.pc with
  | lock =>
    simp only [ContextCall.step, hpc] at hnext
    split_ifs at hnext <;> (cases hnext; exact ⟨by simp, by simp⟩)
  | test j =>
    simp only [ContextCall.step, hpc] at hnext
    split at hnext
    · cases hnext
      exact ⟨by simp, by simp⟩
    · next found hfound =>
      have hne : found ≠ c.tid := by
        rintro rfl
        simp [ContextCall.frees, hfn, hpc, hfound] at hmiss
      simp only [hfn, ContextFn.wants, hne] at hnext
      cases hnext
      exact ⟨by simp, by simp⟩
  | write j => exact absurd hpc (h hfn j).1
  | unlockAt j => exact absurd hpc (h hfn j).2
  | unlockEnd =>
    simp only [ContextCall.step, hpc] at hnext
    cases hnext

/-- A clean call returns with its unlock. -/
theorem Clean.next_of_unlocks {w : ContextWords} {c : ContextCall} (h : Clean c)
    (hunlock : c.unlocks = true) : c.next (c.step w).2 = none := by
  cases hpc : c.pc with
  | lock | test | write => simp [ContextCall.unlocks, hpc] at hunlock
  | unlockEnd =>
    simp only [ContextCall.step, hpc]
    rfl
  | unlockAt j =>
    simp only [ContextCall.step, hpc]
    cases hfn : c.fn with
    | find | alloc => rfl
    | free => exact absurd hpc (h hfn j).2

variable [DecidableEq T] {s s' : Callers T} {t : T}

theorem Orderly.enter {fn : ContextFn} {tid : Nat} (h : Orderly s)
    (hstep : s.step (.enter t fn tid) = some s') : Orderly s' := by
  simp only [step] at hstep
  split_ifs at hstep with hidle
  obtain rfl := Option.some.inj hstep
  refine ⟨?_, ?_, h.locked_iff, h.one⟩
  · intro u c hc
    by_cases hu : u = t
    · subst hu
      obtain rfl := by simpa using hc
      exact fun _ i => ⟨nofun, nofun⟩
    · exact h.clean u c (by simpa [hu] using hc)
  · intro u
    by_cases hu : u = t
    · subst hu
      have hnot : ¬ s.holds u = true := fun hold => by simpa [hidle] using (h.holds_iff u).mp hold
      simp [hnot, ContextCall.start]
    · simpa [hu] using h.holds_iff u

/-- One thread has taken a step, and the others have not. -/
theorem Orderly.update {w : ContextWords} {n : Option ContextCall} {b : Bool} (h : Orderly s)
    (hclean : ∀ c, n = some c → Clean c) (hb : b = true ↔ ∃ c, n = some c ∧ c.pc ≠ .lock)
    (hlocked : w.locked = true ↔ b = true ∨ ∃ u, u ≠ t ∧ s.holds u = true)
    (hone : b = true → ∀ u, s.holds u = true → u = t) :
    Orderly ⟨w, Function.update s.call t n, Function.update s.holds t b⟩ where
  clean u c hc := by
    by_cases hu : u = t
    · exact hclean c (by simpa [hu] using hc)
    · exact h.clean u c (by simpa [hu] using hc)
  holds_iff u := by
    by_cases hu : u = t
    · simpa [hu] using hb
    · simpa [hu] using h.holds_iff u
  locked_iff := by
    rw [hlocked]
    constructor
    · rintro (hb | ⟨u, hu, hold⟩)
      · exact ⟨t, by simpa using hb⟩
      · exact ⟨u, by simpa [hu] using hold⟩
    · rintro ⟨u, hold⟩
      by_cases hu : u = t
      · exact .inl (by simpa [hu] using hold)
      · exact .inr ⟨u, hu, by simpa [hu] using hold⟩
  one u v hu hv := by
    by_cases hut : u = t <;> by_cases hvt : v = t
    · rw [hut, hvt]
    · exact absurd (hone (by simpa [hut] using hu) v (by simpa [hvt] using hv)) hvt
    · exact absurd (hone (by simpa [hvt] using hv) u (by simpa [hut] using hu)) hut
    · exact h.one u v (by simpa [hut] using hu) (by simpa [hvt] using hv)

theorem Orderly.call (h : Orderly s) (hmiss : s.misses (.step t) = true)
    (hstep : s.step (.step t) = some s') : Orderly s' := by
  obtain ⟨c, hc, rfl⟩ := Option.map_eq_some_iff.mp hstep
  have hmine := h.clean t c hc
  have hclean : ∀ c', c.next (c.step s.words).2 = some c' → Clean c' := fun c' hc' =>
    hmine.step (by simpa [misses, hc] using hmiss) hc'
  have hreturn : c.unlocks = true → c.next (c.step s.words).2 = none := hmine.next_of_unlocks
  -- what the thread holds before the step is read off its call
  have hholds : s.holds t = true ↔ c.pc ≠ .lock := by simpa [hc] using h.holds_iff t
  have hmoves := ContextCall.moves_step s.words c
  generalize (c.step s.words).1 = w' at hmoves
  generalize (c.step s.words).2 = n at hmoves hclean hreturn
  cases hmoves with
  | spin hpc hw =>
    have hnot : s.holds t = false := by simpa [hpc] using hholds
    have hval : (if c.acquires s.words then true else if c.unlocks then false else s.holds t) =
        false := by simp [ContextCall.acquires, hw, hnot]
    obtain ⟨u, hu⟩ := h.locked_iff.mp hw
    have hut : u ≠ t := fun heq => by simp [heq, hnot] at hu
    rw [hval]
    exact h.update hclean (by simp [ContextCall.next]) (by simpa [hw] using ⟨u, hut, hu⟩) nofun
  | acquire hpc hw =>
    have hnone : ∀ u, ¬ s.holds u = true := fun u hold => by
      simp [h.locked_iff.mpr ⟨u, hold⟩] at hw
    have hval : (if c.acquires s.words then true else if c.unlocks then false else s.holds t) =
        true := by simp [ContextCall.acquires, hpc, hw]
    rw [hval]
    exact h.update hclean (by simp [ContextCall.next]) (by simp) fun _ u hold =>
      absurd hold (hnone u)
  | inside hpc hunlock hw hnext =>
    have hold : s.holds t = true := hholds.mpr hpc
    have hval : (if c.acquires s.words then true else if c.unlocks then false else s.holds t) =
        true := by simp [hunlock, hold]
    rw [hval]
    exact h.update hclean (by simp [ContextCall.next, hnext])
      (by simp [hw, h.locked_iff.mpr ⟨t, hold⟩]) fun _ u hu => h.one u t hu hold
  | unlock hunlock hnext =>
    have hpc := ContextCall.not_lock_of_unlocks hunlock
    have hold : s.holds t = true := hholds.mpr hpc
    have hval : (if c.acquires s.words then true else if c.unlocks then false else s.holds t) =
        false := by simp [ContextCall.acquires, hpc, hunlock]
    have hothers : ¬ ∃ u, u ≠ t ∧ s.holds u = true := fun ⟨u, hut, hu⟩ => hut (h.one u t hu hold)
    rw [hval]
    exact h.update hclean (by simp [hreturn hunlock]) (by simpa using hothers) nofun

theorem Orderly.step {e : CallerEvent T} (h : Orderly s) (hmiss : s.misses e = true)
    (hstep : s.step e = some s') : Orderly s' := by
  cases e with
  | enter => exact h.enter hstep
  | step => exact h.call hmiss hstep

/-- Mutual exclusion, in every run in which `free_monitoring_context` finds nothing. -/
theorem run_exclusive (tids : List Nat) (es : List (CallerEvent T))
    (hmiss : Run.Admits step (fun s e => s.misses e = true) (start tids) es)
    (hrun : Run.run step (start tids) es = some s) : Exclusive s :=
  (Run.invariant_of_admits (fun _ _ _ h hm hstep => Orderly.step h hm hstep) hmiss
    (orderly_start tids) hrun).exclusive

def orderlyEvents : List (CallerEvent Nat) :=
  [.enter 1 .find 1, .step 1, .enter 2 .free 2, .step 2, .step 1, .step 1, .step 2, .step 2]

theorem run_exclusive_orderly :
    ∃ s : Callers Nat, Run.run step (start [1]) orderlyEvents = some s ∧ s.holds 2 = true ∧
      Exclusive s := by
  have hadmits : Run.Admits step (fun s e => s.misses e = true) (start [1]) orderlyEvents :=
    Run.admits_of_check (fun _ _ h => h) (by decide)
  exact ⟨_, rfl, rfl, run_exclusive [1] orderlyEvents hadmits rfl⟩

/-- Thread 1 frees its context. When it unlocks for the second time, thread 2 is in the table, and
thread 3 joins it there. -/
theorem not_exclusive_freed :
    ∃ s : Callers Nat, Run.run step (start [1])
        [.enter 1 .free 1, .step 1, .step 1, .step 1, .step 1, .enter 2 .find 2, .step 2,
          .step 1, .step 1, .enter 3 .find 3, .step 3] = some s ∧
      s.holds 2 = true ∧ s.holds 3 = true ∧ ¬ Exclusive s :=
  ⟨_, rfl, rfl, rfl, fun h => absurd (h.one 2 3 rfl rfl) (by decide)⟩

end Callers
end FPSpy
