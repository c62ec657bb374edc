import FPSpy.Lib.Run
import FPSpy.Machine.X64
import FPSpy.Monitor.ContextLock

/-!
# Interrupted and forked holders of the context lock

Each thread of a process is a stack of flows of control: its ordinary code, and on top of it
FPSpy's signal handlers, each interrupting the one below. Only the top one runs. A run follows
one process, and goes on with the child where a thread forks: the child has that thread alone,
and a copy of the memory with `context_lock` in it.

`holder` is a history variable, the flow whose compare-and-swap has set the lock. A flow that
waits for a holder it has interrupted, or for one that is in another process, waits for ever.
Nothing in `fpspy.c` keeps a signal or a fork out of the few steps between the
compare-and-swap and the unlock; where none falls into them, every holder is the running
flow of its thread.
-/
namespace FPSpy

/-- The signals blocked while FPSpy handles a signal, if it does. -/
def Config.handlerMask {A : Arch} (cfg : Config A) : Signal → Option (List Signal)
  | .sigfpe => some cfg.sigfpeAction.mask
  | .sigtrap => some cfg.sigtrapAction.mask
  | .sigint => some cfg.sigintAction.mask
  | sig => if cfg.timers ∧ sig = cfg.alarmSig then some sigalrmAction.mask else none

structure CodeFlow where
  call : Option ContextCall
  blocked : List Signal

inductive LockHolder (T : Type) where
  /-- The flow of thread `t` that has `depth` others below it. -/
  | flow (t : T) (depth : Nat)
  /-- A flow of the process that this one was forked from. -/
  | elsewhere
  deriving DecidableEq

/-- A process: a thread is the stack of its flows, and is not there if that is empty. -/
structure FlowStacks (T : Type) where
  words : ContextWords
  stack : T → List CodeFlow
  holder : Option (LockHolder T)

inductive FlowEvent (T : Type) where
  /-- A new thread starts, with some signals blocked. -/
  | start (t : T) (blocked : List Signal)
  /-- A thread ends, outside the context functions. -/
  | finish (t : T)
  /-- The running flow of a thread calls a context function. -/
  | enter (t : T) (fn : ContextFn) (tid : Nat)
  /-- It takes the next step of that call. -/
  | step (t : T)
  /-- A signal interrupts it. -/
  | deliver (t : T) (sig : Signal)
  /-- A handler returns. -/
  | ret (t : T)
  /-- A thread forks; from here on this is the child. -/
  | fork (t : T)
  /-- `init_monitoring_contexts` -/
  | init (t : T)

namespace FlowStacks

variable {T : Type}

def empty (tids : List Nat) : FlowStacks T := ⟨⟨false, tids⟩, fun _ => [], none⟩

def inherit [DecidableEq T] (t : T) : LockHolder T → LockHolder T
  | .flow u depth => if u = t then .flow u depth else .elsewhere
  | .elsewhere => .elsewhere

variable [DecidableEq T]

/-- One step of a call: who takes the lock is its holder, and an unlock opens it whoever that
is. -/
def stepCall (s : FlowStacks T) (t : T) (f : CodeFlow) (rest : List CodeFlow) (c : ContextCall) :
    FlowStacks T where
  words := (c.step s.words).1
  stack := Function.update s.stack t ({ f with call := c.next (c.step s.words).2 } :: rest)
  holder := if c.acquires s.words then some (.flow t rest.length)
    else if c.unlocks then none else s.holder

def step {A : Arch} (cfg : Config A) (s : FlowStacks T) : FlowEvent T → Option (FlowStacks T)
  | .start t blocked =>
    if (s.stack t).isEmpty then
      some { s with stack := Function.update s.stack t [⟨none, blocked⟩] }
    else none
  | .finish t =>
    match s.stack t with
    | [⟨none, _⟩] => some { s with stack := Function.update s.stack t [] }
    | _ => none
  | .enter t fn tid =>
    match s.stack t with
    | ⟨none, blocked⟩ :: rest =>
      some { s with stack := Function.update s.stack t (⟨some (.start fn tid), blocked⟩ :: rest) }
    | _ => none
  | .step t =>
    match s.stack t with
    | ⟨some c, blocked⟩ :: rest => some (s.stepCall t ⟨some c, blocked⟩ rest c)
    | _ => none
  | .deliver t sig =>
    match s.stack t, cfg.handlerMask sig with
    | f :: rest, some mask =>
      if sig ∈ f.blocked then none
      else some { s with
        stack := Function.update s.stack t (⟨none, sig :: mask ++ f.blocked⟩ :: f :: rest) }
    | _, _ => none
  | .ret t =>
    match s.stack t with
    | ⟨none, _⟩ :: f :: rest => some { s with stack := Function.update s.stack t (f :: rest) }
    | _ => none
  | .fork t =>
    match s.stack t with
    | ⟨none, blocked⟩ :: rest =>
      some { s with
        stack := Function.update (fun _ => []) t (⟨none, blocked⟩ :: rest)
        holder := s.holder.map (inherit t) }
    | _ => none
  | .init t =>
    match s.stack t with
    | ⟨none, _⟩ :: _ =>
      some { s with words := ⟨false, s.words.tids.map fun _ => 0⟩, holder := none }
    | _ => none

/-- The running flow of a thread spins in `lock_contexts`, and the holder is below it or is not in
the process. -/
def Wedged (s : FlowStacks T) : Prop :=
  ∃ t f rest c, s.stack t = f :: rest ∧ f.call = some c ∧ c.pc = .lock ∧ s.words.locked = true ∧
    ((∃ depth, s.holder = some (.flow t depth) ∧ depth < rest.length) ∨
      ∀ u depth, s.holder = some (.flow u depth) → (s.stack u).length ≤ depth)

/-- The condition on a step: a signal does not interrupt a thread that holds the lock, and a
thread does not fork while another one holds it. -/
def timely (s : FlowStacks T) : FlowEvent T → Bool
  | .deliver t _ => s.holder.all fun h => match h with
    | .flow u _ => u ≠ t
    | .elsewhere => true
  | .fork t => s.holder.all fun h => match h with
    | .flow u _ => u = t
    | .elsewhere => true
  | _ => true

/-- The invariant: a holder is the running flow of its thread, past its compare-and-swap. -/
structure Held (s : FlowStacks T) : Prop where
  locked : s.words.locked = s.holder.isSome
  running : ∀ h, s.holder = some h → ∃ t f rest c, h = .flow t rest.length ∧
    s.stack t = f :: rest ∧ f.call = some c ∧ c.pc ≠ .lock

variable {A : Arch} {cfg : Config A} {s s' : FlowStacks T} {t : T}

omit [DecidableEq T] in
theorem Held.not_wedged (h : Held s) : ¬ Wedged s := by
  rintro ⟨t, f, rest, c, hstack, hcall, hpc, hlocked, hholder⟩
  obtain ⟨o, ho⟩ := Option.isSome_iff_exists.mp (h.locked.symm.trans hlocked)
  obtain ⟨u, g, below, c', rfl, hu, -, -⟩ := h.running o ho
  rcases hholder with ⟨depth, hdepth, hlt⟩ | hgone
  · -- the holder would be the running flow of the same thread
    obtain ⟨rfl, rfl⟩ : u = t ∧ below.length = depth := by simpa [ho] using hdepth
    obtain ⟨-, rfl⟩ : f = g ∧ rest = below := by simpa [hstack] using hu
    omega
  · have hlen := hgone u below.length ho
    rw [hu, List.length_cons] at hlen
    omega

omit [DecidableEq T] in
/-- A thread whose running flow is in no call does not hold the lock. -/
theorem Held.ne_of_idle (h : Held s) (hidle : ∀ f rest, s.stack t = f :: rest → f.call = none)
    (depth : Nat) : s.holder ≠ some (.flow t depth) := by
  intro ho
  obtain ⟨u, f, rest, c, heq, hstack, hcall, -⟩ := h.running _ ho
  obtain ⟨rfl, -⟩ : t = u ∧ depth = rest.length := by simpa using heq
  cases hcall.symm.trans (hidle f rest hstack)

omit [DecidableEq T] in
theorem Held.ne_of_stack {blocked : List Signal} {rest : List CodeFlow} (h : Held s)
    (hstack : s.stack t = ⟨none, blocked⟩ :: rest) (depth : Nat) :
    s.holder ≠ some (.flow t depth) := by
  refine h.ne_of_idle (fun f below hf => ?_) depth
  cases hstack.symm.trans hf
  rfl

/-- What a thread does that does not hold the lock. -/
theorem Held.update (h : Held s) (hnot : ∀ depth, s.holder ≠ some (.flow t depth))
    (flows : List CodeFlow) : Held { s with stack := Function.update s.stack t flows } := by
  refine ⟨h.locked, fun o ho => ?_⟩
  obtain ⟨u, f, rest, c, rfl, hstack, hcall, hpc⟩ := h.running o ho
  have hne : u ≠ t := by
    rintro rfl
    exact hnot _ ho
  exact ⟨u, f, rest, c, rfl, by simpa [hne] using hstack, hcall, hpc⟩

theorem Held.stepCall {f : CodeFlow} {rest : List CodeFlow} {c : ContextCall} (h : Held s)
    (hstack : s.stack t = f :: rest) (hcall : f.call = some c) : Held (s.stepCall t f rest c) := by
  have hmoves := ContextCall.moves_step s.words c
  unfold FlowStacks.stepCall
  generalize (c.step s.words).1 = w at hmoves
  generalize (c.step s.words).2 = n at hmoves
  cases hmoves with
  | spin hpc hw =>
    have hnot : ∀ depth, s.holder ≠ some (.flow t depth) := by
      intro depth ho
      obtain ⟨u, g, below, c', heq, hu, hcall', hpc'⟩ := h.running _ ho
      obtain ⟨rfl, -⟩ : t = u ∧ depth = below.length := by simpa using heq
      obtain ⟨rfl, -⟩ : f = g ∧ rest = below := by simpa [hstack] using hu
      obtain rfl := Option.some.inj (hcall.symm.trans hcall')
      exact hpc' hpc
    simpa [ContextCall.acquires, ContextCall.unlocks, hpc, hw] using h.update hnot _
  | acquire hpc hw =>
    refine ⟨by simp [ContextCall.acquires, hpc, hw], fun o ho => ?_⟩
    obtain rfl : LockHolder.flow t rest.length = o := by
      simpa [ContextCall.acquires, hpc, hw] using ho
    exact ⟨t, _, rest, _, rfl, Function.update_self t _ s.stack, rfl, by simp⟩
  | inside hpc hunlock hw hnext =>
    have hkeep : (if c.acquires s.words then some (.flow t rest.length)
        else if c.unlocks then none else s.holder) = s.holder := by
      simp [ContextCall.acquires, hpc, hunlock]
    rw [hkeep]
    refine ⟨hw.trans h.locked, fun o ho => ?_⟩
    obtain ⟨u, g, below, c', rfl, hu, hcall', hpc'⟩ := h.running o ho
    by_cases hut : u = t
    · subst hut
      obtain ⟨-, rfl⟩ : f = g ∧ rest = below := by simpa [hstack] using hu
      exact ⟨u, _, rest, _, rfl, Function.update_self u _ s.stack, rfl, hnext⟩
    · exact ⟨u, g, below, c', rfl, by simpa [hut] using hu, hcall', hpc'⟩
  | unlock hunlock hnext =>
    have hpc := ContextCall.not_lock_of_unlocks hunlock
    have hnone : (if c.acquires s.words then some (.flow t rest.length)
        else if c.unlocks then none else s.holder) = none := by
      simp [ContextCall.acquires, hpc, hunlock]
    rw [hnone]
    exact ⟨rfl, by simp⟩

/-- A timely fork is one of an open lock: a holder would be in the forking thread, which is in no
call. -/
theorem Held.holder_of_fork (h : Held s) (htimely : s.timely (.fork t) = true)
    (hidle : ∀ depth, s.holder ≠ some (.flow t depth)) : s.holder = none := by
  by_contra hsome
  obtain ⟨o, ho⟩ := Option.ne_none_iff_exists'.mp hsome
  obtain ⟨u, f, rest, c, rfl, -⟩ := h.running o ho
  have hut : u = t := by simpa [timely, ho] using htimely
  exact hidle rest.length (hut ▸ ho)

theorem Held.step {e : FlowEvent T} (h : Held s) (htimely : s.timely e = true)
    (hstep : s.step cfg e = some s') : Held s' := by
  cases e with
  | start t blocked =>
    simp only [FlowStacks.step] at hstep
    split_ifs at hstep with hempty
    obtain rfl := Option.some.inj hstep
    refine h.update (h.ne_of_idle fun f rest hstack => ?_) _
    simp [hstack] at hempty
  | finish t =>
    simp only [FlowStacks.step] at hstep
    split at hstep
    · next hstack =>
      obtain rfl := Option.some.inj hstep
      exact h.update (h.ne_of_stack hstack) _
    · cases hstep
  | enter t fn tid =>
    simp only [FlowStacks.step] at hstep
    split at hstep
    · next hstack =>
      obtain rfl := Option.some.inj hstep
      exact h.update (h.ne_of_stack hstack) _
    · cases hstep
  | step t =>
    simp only [FlowStacks.step] at hstep
    split at hstep
    · next hstack =>
      obtain rfl := Option.some.inj hstep
      exact h.stepCall hstack rfl
    · cases hstep
  | deliver t sig =>
    have hnot : ∀ depth, s.holder ≠ some (.flow t depth) := by
      intro depth ho
      simp [timely, ho] at htimely
    simp only [FlowStacks.step] at hstep
    split at hstep
    · split_ifs at hstep
      obtain rfl := Option.some.inj hstep
      exact h.update hnot _
    · cases hstep
  | ret t =>
    simp only [FlowStacks.step] at hstep
    split at hstep
    · next hstack =>
      obtain rfl := Option.some.inj hstep
      exact h.update (h.ne_of_stack hstack) _
    · cases hstep
  | fork t =>
    simp only [FlowStacks.step] at hstep
    split at hstep
    · next hstack =>
      obtain rfl := Option.some.inj hstep
      have hfree := h.holder_of_fork htimely (h.ne_of_stack hstack)
      refine ⟨?_, ?_⟩
      · simpa [hfree] using h.locked
      · simp [hfree]
    · cases hstep
  | init t =>
    simp only [FlowStacks.step] at hstep
    split at hstep
    · obtain rfl := Option.some.inj hstep
      exact ⟨rfl, nofun⟩
    · cases hstep

/-- No flow waits for ever on the lock, in every run whose steps are timely. -/
theorem run_not_wedged (cfg : Config A) (tids : List Nat) (es : List (FlowEvent T))
    (htimely : Run.Admits (step cfg) (fun s e => s.timely e = true) (empty tids) es)
    (hrun : Run.run (step cfg) (empty tids) es = some s) : ¬ Wedged s := by
  have hempty : Held (empty tids : FlowStacks T) := ⟨rfl, nofun⟩
  exact (Run.invariant_of_admits (fun _ _ _ h ht hstep => h.step ht hstep) htimely hempty
    hrun).not_wedged

/-! ## With the sampler's timer -/

def alarmed : Config x64 := { Config.defaults X64.statics with timers := true }

def timelyEvents : List (FlowEvent Nat) :=
  [.start 1 [], .enter 1 .find 1, .step 1, .step 1, .step 1, .deliver 1 .sigalrm,
    .enter 1 .find 1, .step 1, .step 1, .step 1, .ret 1, .fork 1, .enter 1 .alloc 2]

theorem run_not_wedged_alarm :
    ∃ s, Run.run (step alarmed) (empty [1]) timelyEvents = some s ∧ ¬ Wedged s := by
  have hadmits : Run.Admits (step alarmed) (fun s e => s.timely e = true) (empty [1])
      timelyEvents :=
    Run.admits_of_check (fun _ _ h => h) (by decide)
  exact ⟨_, rfl, run_not_wedged alarmed [1] timelyEvents hadmits rfl⟩

/-- An alarm between the compare-and-swap and the unlock of `find_monitoring_context`; and a fork
while another thread is there. -/
theorem wedged_alarm :
    (∃ s, Run.run (step alarmed) (empty [1])
        [.start 1 [], .enter 1 .find 1, .step 1, .deliver 1 .sigalrm, .enter 1 .find 1] = some s ∧
      Wedged s) ∧
    ∃ s, Run.run (step alarmed) (empty [1, 2])
        [.start 1 [], .start 2 [], .enter 2 .find 2, .step 2, .fork 1, .enter 1 .alloc 3] = some s ∧
      Wedged s := by
  refine ⟨⟨_, rfl, 1, _, _, _, rfl, rfl, rfl, rfl, .inl ⟨0, rfl, ?_⟩⟩,
    ⟨_, rfl, 1, _, _, _, rfl, rfl, rfl, rfl, .inr ?_⟩⟩
  · decide
  · rintro u depth ⟨⟩

end FlowStacks
end FPSpy
