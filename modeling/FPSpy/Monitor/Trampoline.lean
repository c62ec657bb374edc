import FPSpy.Lib.Run
import Mathlib.Data.BitVec
import Mathlib.Logic.Function.Basic

/-!
# The trampoline of new threads

The interposed `pthread_create` hands a new thread its start routine and argument through a
`tramp_context` in its own stack frame: it waits until the thread has copied them, and then
the frame is gone. Threads call it at any time, also from signal handlers. A frame is free
memory before the call and after it, and what is there then is no one's business; so every
access has to come from the call that has the frame, or from the thread which that call has
created. Once FPSpy has aborted, threads are created without the trampoline.
-/
namespace FPSpy.Trampoline

variable {S A : Type}

structure TrampContext (S A : Type) where
  start : S
  arg : A
  done : BitVec 32

inductive CreatePc where
  | checkAborted | storeStart | storeArg | storeDone | create | spin
  /-- The call is passed on as it is. -/
  | createDirect
  | returned
  deriving DecidableEq, Repr

/-- A call of `pthread_create`; `frame` is the address of its `c`. -/
structure Call (S A : Type) where
  creator : Nat
  start : S
  arg : A
  frame : Nat
  pc : CreatePc

inductive Phase (S A : Type) where
  | loadStart (c : Nat)
  | loadArg (c : Nat) (start : S)
  | setDone (c : Nat) (start : S) (arg : A)
  /-- From `feclearexcept` to the kick. -/
  | setUp (start : S) (arg : A)
  | callStart (start : S) (arg : A)
  /-- In the start routine. -/
  | body
  | ended

/-- A thread, the call that created it, and the calls it has made of start routines. -/
structure NewThread (S A : Type) where
  origin : Option Nat
  phase : Phase S A
  called : List (S × A)

/-- The threads of a process, the calls of `pthread_create` there have been, and the memory
in which they have their frames. `owner` is the call to which the frame at an address belongs,
`stack` the calls a thread is in, the innermost first. -/
structure State (S A : Type) where
  aborted : Bool
  context : Nat → TrampContext S A
  owner : Nat → Option Nat
  call : Nat → Option (Call S A)
  thread : Nat → Option (NewThread S A)
  stack : Nat → List Nat

inductive Event (S A : Type) where
  /-- Thread `t` calls `pthread_create`; this is call `k`. -/
  | enter (t k frame : Nat) (start : S) (arg : A)
  /-- The next step of call `k`. -/
  | caller (k : Nat)
  /-- What libc does in call `k`: it starts thread `t`, or fails. -/
  | create (k : Nat) (outcome : Option Nat)
  /-- The next step of thread `t` in `trampoline`. -/
  | thread (t : Nat)
  | exit (t : Nat)
  | abort
  /-- Free memory is written. -/
  | overwrite (a : Nat) (c : TrampContext S A)

namespace State

def goTo (s : State S A) (k : Nat) (c : Call S A) (pc : CreatePc) (x : TrampContext S A) :
    State S A :=
  { s with
    call := Function.update s.call k (some { c with pc := pc })
    context := Function.update s.context c.frame x }

def ret (s : State S A) (k : Nat) (c : Call S A) (x : TrampContext S A) : State S A :=
  { s.goTo k c .returned x with
    owner := Function.update s.owner c.frame none
    stack := Function.update s.stack c.creator (s.stack c.creator).tail }

def setThread (s : State S A) (t : Nat) (th : NewThread S A) : State S A :=
  { s with thread := Function.update s.thread t (some th) }

def spawn (s : State S A) (t k : Nat) (phase : Phase S A) : State S A :=
  s.setThread t ⟨some k, phase, []⟩

def callerStep (s : State S A) (k : Nat) (c : Call S A) : Option (State S A) :=
  let x := s.context c.frame
  match c.pc with
  | .checkAborted => some (s.goTo k c (if s.aborted then .createDirect else .storeStart) x)
  | .storeStart => some (s.goTo k c .storeArg { x with start := c.start })
  | .storeArg => some (s.goTo k c .storeDone { x with arg := c.arg })
  | .storeDone => some (s.goTo k c .create { x with done := 0 })
  | .spin =>
    let y := { x with done := x.done &&& 1 }
    some (if x.done = 0 then s.goTo k c .spin y else s.ret k c y)
  | .create | .createDirect | .returned => none

/-- `orig_pthread_create`, with `trampoline` or with the caller's own routine. -/
def createStep (s : State S A) (k : Nat) (c : Call S A) (outcome : Option Nat) :
    Option (State S A) :=
  let x := s.context c.frame
  match c.pc, outcome with
  | .create, some t =>
    if (s.thread t).isNone then
      some ((s.spawn t k (.loadStart c.frame)).goTo k c .spin x)
    else none
  | .createDirect, some t =>
    if (s.thread t).isNone then
      some ((s.spawn t k (.callStart c.start c.arg)).ret k c x)
    else none
  | .create, none | .createDirect, none => some (s.ret k c x)
  | _, _ => none

def threadStep (s : State S A) (t : Nat) (th : NewThread S A) : Option (State S A) :=
  match th.phase with
  | .loadStart c => some (s.setThread t { th with phase := .loadArg c (s.context c).start })
  | .loadArg c start => some (s.setThread t { th with phase := .setDone c start (s.context c).arg })
  | .setDone c start arg =>
    let x := { s.context c with done := (s.context c).done ||| 1 }
    let s := s.setThread t { th with phase := .setUp start arg }
    some { s with context := Function.update s.context c x }
  | .setUp start arg => some (s.setThread t { th with phase := .callStart start arg })
  | .callStart start arg =>
    some (s.setThread t { th with phase := .body, called := th.called ++ [(start, arg)] })
  | .body | .ended => none

def Runs (s : State S A) (t : Nat) : Prop :=
  match s.thread t with
  | none => False
  | some th => match th.phase with
    | .ended => False
    | _ => True

instance (s : State S A) (t : Nat) : Decidable (s.Runs t) := by
  unfold Runs
  split
  · exact instDecidableFalse
  · split
    · exact instDecidableFalse
    · exact instDecidableTrue

/-- One step of the process. A thread that is in a call, or in several, steps in the innermost. -/
def step (s : State S A) : Event S A → Option (State S A)
  | .enter t k frame start arg =>
    if s.Runs t ∧ (s.call k).isNone ∧ (s.owner frame).isNone then
      some { s with
        call := Function.update s.call k (some ⟨t, start, arg, frame, .checkAborted⟩)
        owner := Function.update s.owner frame (some k)
        stack := Function.update s.stack t (k :: s.stack t) }
    else none
  | .caller k => (s.call k).bind fun c =>
    if (s.stack c.creator).head? = some k then s.callerStep k c else none
  | .create k outcome => (s.call k).bind fun c =>
    if (s.stack c.creator).head? = some k then s.createStep k c outcome else none
  | .thread t => (s.thread t).bind fun th =>
    if s.stack t = [] then s.threadStep t th else none
  | .exit t => (s.thread t).bind fun th =>
    match th.phase with
    | .body => if s.stack t = [] then some (s.setThread t { th with phase := .ended }) else none
    | _ => none
  | .abort => some { s with aborted := true }
  | .overwrite a c =>
    if (s.owner a).isNone then some { s with context := Function.update s.context a c } else none

def start (context : Nat → TrampContext S A) : State S A where
  aborted := false
  context := context
  owner _ := none
  call _ := none
  thread t := if t = 0 then some ⟨none, .body, []⟩ else none
  stack _ := []

end State

/-! ## The invariant -/

def Call.Holds (c : Call S A) (x : TrampContext S A) : Prop :=
  match c.pc with
  | .storeArg => x.start = c.start
  | .storeDone | .spin => x.start = c.start ∧ x.arg = c.arg
  | .create => x.start = c.start ∧ x.arg = c.arg ∧ x.done = 0
  | .checkAborted | .storeStart | .createDirect | .returned => True

/-- A thread that call `c` has created: what it has copied is right, and while it has not set
`done` the call waits. -/
def NewThread.Ok (th : NewThread S A) (c : Call S A) (x : TrampContext S A) : Prop :=
  (c.pc = .spin ∨ c.pc = .returned) ∧
  match th.phase with
  | .loadStart a => c.pc = .spin ∧ a = c.frame ∧ x.done = 0 ∧ th.called = []
  | .loadArg a start => c.pc = .spin ∧ a = c.frame ∧ x.done = 0 ∧ start = c.start ∧ th.called = []
  | .setDone a start arg =>
    c.pc = .spin ∧ a = c.frame ∧ x.done = 0 ∧ start = c.start ∧ arg = c.arg ∧ th.called = []
  | .setUp start arg | .callStart start arg => start = c.start ∧ arg = c.arg ∧ th.called = []
  | .body | .ended => th.called = [(c.start, c.arg)]

structure Inv (s : State S A) : Prop where
  live : ∀ k c, s.call k = some c → c.pc ≠ .returned →
    s.owner c.frame = some k ∧ c.Holds (s.context c.frame)
  created : ∀ t th k, s.thread t = some th → th.origin = some k →
    ∃ c, s.call k = some c ∧ th.Ok c (s.context c.frame)
  initial : ∀ t th, s.thread t = some th → th.origin = none → th.phase = .body ∨ th.phase = .ended
  unique : ∀ t u th uh k, s.thread t = some th → s.thread u = some uh → th.origin = some k →
    uh.origin = some k → t = u

/-- Only a thread for which its call waits looks at the frame. -/
theorem NewThread.Ok.congr {th : NewThread S A} {c : Call S A} {x y : TrampContext S A}
    (h : th.Ok c x) (hxy : c.pc = .spin → y = x) : th.Ok c y := by
  obtain ⟨hpc, hphase⟩ := h
  refine ⟨hpc, ?_⟩
  cases hp : th.phase <;> simp only [hp] at hphase ⊢ <;> grind

/-- A thread for which its call waits no more does not look at the frame again. -/
theorem NewThread.Ok.returned {th : NewThread S A} {c : Call S A} {x : TrampContext S A}
    (h : th.Ok c x) (hdone : x.done ≠ 0) (y : TrampContext S A) :
    th.Ok { c with pc := .returned } y := by
  obtain ⟨hpc, hphase⟩ := h
  refine ⟨.inr rfl, ?_⟩
  cases hp : th.phase <;> simp only [hp] at hphase ⊢ <;> grind

theorem inv_start (context : Nat → TrampContext S A) : Inv (State.start context) := by
  constructor <;> simp only [State.start] <;> grind

variable {s s' : State S A} {t k : Nat} {c : Call S A} {th : NewThread S A} {x : TrampContext S A}

/-- A live call and the threads that it has created move, and leave `x` in its frame; nobody else
is concerned. -/
theorem Inv.act (h : Inv s) (hc : s.call k = some c) (hlive : c.pc ≠ .returned) {pc : CreatePc}
    {owner : Nat → Option Nat} {thread : Nat → Option (NewThread S A)} (stack : Nat → List Nat)
    (howner : ∀ a, a ≠ c.frame ∨ pc ≠ .returned → owner a = s.owner a)
    (hholds : pc ≠ .returned → Call.Holds { c with pc := pc } x)
    (hown : ∀ t th, thread t = some th → th.origin = some k → th.Ok { c with pc := pc } x)
    (hother : ∀ t th, thread t = some th → th.origin ≠ some k → s.thread t = some th)
    (hunique : ∀ t u th uh, thread t = some th → thread u = some uh → th.origin = some k →
      uh.origin = some k → t = u) :
    Inv { s with
      call := Function.update s.call k (some { c with pc := pc })
      context := Function.update s.context c.frame x
      owner := owner
      thread := thread
      stack := stack } := by
  -- the frames of two live calls are different
  have hframe : ∀ k' c', k' ≠ k → s.call k' = some c' → c'.pc ≠ .returned → c'.frame ≠ c.frame := by
    intro k' c' hk hc' hlive' heq
    have h₁ := (h.live k c hc hlive).1
    have h₂ := (h.live k' c' hc' hlive').1
    rw [heq, h₁] at h₂
    exact hk (Option.some.inj h₂).symm
  constructor
  · intro k' c' hc' hlive'
    by_cases hk : k' = k
    · subst hk
      obtain rfl : { c with pc := pc } = c' := by simpa using hc'
      have hpc : pc ≠ .returned := hlive'
      simp only [Function.update_self]
      exact ⟨(howner _ (.inr hpc)).trans (h.live _ c hc hlive).1, hholds hpc⟩
    · simp only [Function.update_of_ne hk] at hc'
      have hne := hframe k' c' hk hc' hlive'
      simp only [Function.update_of_ne hne]
      obtain ⟨hown', hholds'⟩ := h.live k' c' hc' hlive'
      exact ⟨(howner _ (.inl hne)).trans hown', hholds'⟩
  · intro t th k' hth horigin
    by_cases hk : k' = k
    · subst hk
      exact ⟨_, Function.update_self .., by
        simp only [Function.update_self]
        exact hown t th hth horigin⟩
    · have hold := hother t th hth (by simpa [horigin] using hk)
      obtain ⟨c', hc', hok⟩ := h.created t th k' hold horigin
      refine ⟨c', by simpa [Function.update_of_ne hk] using hc', hok.congr fun hspin => ?_⟩
      have hne := hframe k' c' hk hc' (by simp [hspin])
      simp only [Function.update_of_ne hne]
  · intro t th hth horigin
    exact h.initial t th (hother t th hth (by simp [horigin])) horigin
  · intro t u th uh k' hth huh horigin horigin'
    by_cases hk : k' = k
    · subst hk
      exact hunique t u th uh hth huh horigin horigin'
    · exact h.unique t u th uh k' (hother t th hth (by simpa [horigin] using hk))
        (hother u uh huh (by simpa [horigin'] using hk)) horigin horigin'

/-- Until libc is called no thread comes from a call. -/
theorem Inv.no_thread (h : Inv s) (hc : s.call k = some c) (hspin : c.pc ≠ .spin)
    (hlive : c.pc ≠ .returned) : ∀ t th, s.thread t = some th → th.origin ≠ some k := by
  intro t th hth horigin
  obtain ⟨c', hc', hok⟩ := h.created t th k hth horigin
  obtain rfl := Option.some.inj (hc.symm.trans hc')
  exact hok.1.elim hspin hlive

/-- A call that has created no thread goes on. -/
theorem Inv.goTo (h : Inv s) (hc : s.call k = some c) (hspin : c.pc ≠ .spin)
    (hlive : c.pc ≠ .returned) {pc : CreatePc} (hholds : Call.Holds { c with pc := pc } x) :
    Inv (s.goTo k c pc x) := by
  have hno := h.no_thread hc hspin hlive
  exact h.act hc hlive s.stack (fun _ _ => rfl) (fun _ => hholds)
    (fun t th hth horigin => absurd horigin (hno t th hth)) (fun _ _ hth _ => hth)
    (fun t _ th _ hth _ horigin _ => absurd horigin (hno t th hth))

/-- A call returns once its thread, if there is one, has set `done`. -/
theorem Inv.ret (h : Inv s) (hc : s.call k = some c) (hlive : c.pc ≠ .returned)
    (hdone : c.pc = .spin → (s.context c.frame).done ≠ 0) (x : TrampContext S A) :
    Inv (s.ret k c x) := by
  refine h.act hc hlive _ (fun a ha => ?_) (fun hpc => absurd rfl hpc) (fun t th hth horigin => ?_)
    (fun _ _ hth _ => hth) (fun t u th uh => h.unique t u th uh k)
  · have hne : a ≠ c.frame := by simpa using ha
    exact Function.update_of_ne hne _ _
  · obtain ⟨c', hc', hok⟩ := h.created t th k hth horigin
    obtain rfl := Option.some.inj (hc.symm.trans hc')
    have hspin : c.pc = .spin := hok.1.resolve_right hlive
    exact hok.returned (hdone hspin) x

theorem State.thread_setThread (s : State S A) {th' uh : NewThread S A} {u : Nat}
    (huh : (s.setThread t th').thread u = some uh) :
    (u = t ∧ uh = th') ∨ (u ≠ t ∧ s.thread u = some uh) := by
  by_cases hut : u = t
  · subst hut
    exact .inl ⟨rfl, by simpa [State.setThread] using huh.symm⟩
  · exact .inr ⟨hut, by simpa [State.setThread, hut] using huh⟩

theorem Inv.setThread (h : Inv s) (hth : s.thread t = some th) {th' : NewThread S A}
    (horigin : th'.origin = th.origin)
    (hok : ∀ k c, th.origin = some k → s.call k = some c → th.Ok c (s.context c.frame) →
      th'.Ok c (s.context c.frame))
    (hinitial : th.origin = none → th'.phase = .body ∨ th'.phase = .ended) :
    Inv (s.setThread t th') := by
  refine ⟨h.live, fun u uh k huh hk => ?_, fun u uh huh hk => ?_,
    fun u v uh vh k huh hvh hk hk' => ?_⟩
  · obtain ⟨rfl, rfl⟩ | ⟨-, huh⟩ := s.thread_setThread huh
    · obtain ⟨c, hc, hthok⟩ := h.created u th k hth (horigin ▸ hk)
      exact ⟨c, hc, hok k c (horigin ▸ hk) hc hthok⟩
    · exact h.created u uh k huh hk
  · obtain ⟨rfl, rfl⟩ | ⟨-, huh⟩ := s.thread_setThread huh
    · exact hinitial (horigin ▸ hk)
    · exact h.initial u uh huh hk
  · have horigins : ∀ u uh, (s.setThread t th').thread u = some uh →
        ∃ uh', s.thread u = some uh' ∧ uh'.origin = uh.origin := by
      intro u uh huh
      obtain ⟨rfl, rfl⟩ | ⟨-, huh⟩ := s.thread_setThread huh
      · exact ⟨th, hth, horigin.symm⟩
      · exact ⟨uh, huh, rfl⟩
    obtain ⟨uh', huh', hu⟩ := horigins u uh huh
    obtain ⟨vh', hvh', hv⟩ := horigins v vh hvh
    exact h.unique u v uh' vh' k huh' hvh' (hu.trans hk) (hv.trans hk')

theorem State.goTo_self (s : State S A) (hc : s.call k = some c) {pc : CreatePc}
    (hpc : c.pc = pc) : s.goTo k c pc (s.context c.frame) = s := by
  subst hpc
  simp only [State.goTo, ← hc, Function.update_eq_self]

theorem Inv.callerStep (h : Inv s) (hc : s.call k = some c) (hstep : s.callerStep k c = some s') :
    Inv s' := by
  unfold State.callerStep at hstep
  cases hpc : c.pc with
  | checkAborted =>
    simp only [hpc, Option.some.injEq] at hstep
    subst hstep
    refine h.goTo hc (by simp [hpc]) (by simp [hpc]) ?_
    cases s.aborted <;> trivial
  | storeStart =>
    simp only [hpc, Option.some.injEq] at hstep
    subst hstep
    exact h.goTo hc (by simp [hpc]) (by simp [hpc]) rfl
  | storeArg =>
    have hholds := (h.live k c hc (by simp [hpc])).2
    simp only [Call.Holds, hpc, Option.some.injEq] at hstep hholds
    subst hstep
    exact h.goTo hc (by simp [hpc]) (by simp [hpc]) ⟨hholds, rfl⟩
  | storeDone =>
    have hholds := (h.live k c hc (by simp [hpc])).2
    simp only [Call.Holds, hpc, Option.some.injEq] at hstep hholds
    subst hstep
    exact h.goTo hc (by simp [hpc]) (by simp [hpc]) ⟨hholds.1, hholds.2, rfl⟩
  | spin =>
    have hholds := (h.live k c hc (by simp [hpc])).2
    simp only [Call.Holds, hpc, Option.some.injEq] at hstep hholds
    subst hstep
    split_ifs with hdone
    · have hsame : { s.context c.frame with done := (s.context c.frame).done &&& 1 } =
          s.context c.frame := by
        rw [show (s.context c.frame).done &&& 1 = (s.context c.frame).done by rw [hdone]; rfl]
      rw [hsame, s.goTo_self hc hpc]
      exact h
    · exact h.ret hc (by simp [hpc]) (fun _ => hdone) _
  | create | createDirect | returned => simp [hpc] at hstep

/-- libc starts a thread for a call that has none. -/
theorem Inv.spawn (h : Inv s) (ht : s.thread t = none)
    (hno : ∀ u uh, s.thread u = some uh → uh.origin ≠ some k) (hc : s.call k = some c)
    (hlive : c.pc ≠ .returned) {phase : Phase S A} {pc : CreatePc} {owner : Nat → Option Nat}
    (stack : Nat → List Nat) (howner : ∀ a, a ≠ c.frame ∨ pc ≠ .returned → owner a = s.owner a)
    (hholds : pc ≠ .returned → Call.Holds { c with pc := pc } (s.context c.frame))
    (hok : NewThread.Ok ⟨some k, phase, []⟩ { c with pc := pc } (s.context c.frame)) :
    Inv { (s.spawn t k phase).goTo k c pc (s.context c.frame) with
      owner := owner
      stack := stack } := by
  have hold : ∀ u uh, (s.spawn t k phase).thread u = some uh →
      (u = t ∧ uh = ⟨some k, phase, []⟩) ∨ s.thread u = some uh := fun u uh huh =>
    (s.thread_setThread huh).imp_right And.right
  refine h.act hc hlive stack howner hholds (fun u uh huh hk => ?_) (fun u uh huh hk => ?_)
    (fun u v uh vh huh hvh hk hk' => ?_)
  · obtain ⟨-, rfl⟩ | huh := hold u uh huh
    · exact hok
    · exact absurd hk (hno u uh huh)
  · obtain ⟨-, rfl⟩ | huh := hold u uh huh
    · exact absurd rfl hk
    · exact huh
  · obtain ⟨rfl, -⟩ | huh := hold u uh huh
    · obtain ⟨rfl, -⟩ | hvh := hold v vh hvh
      · rfl
      · exact absurd hk' (hno v vh hvh)
    · exact absurd hk (hno u uh huh)

theorem Inv.createStep (h : Inv s) (hc : s.call k = some c) {outcome : Option Nat}
    (hstep : s.createStep k c outcome = some s') : Inv s' := by
  unfold State.createStep at hstep
  cases hpc : c.pc with
  | create =>
    have hno := h.no_thread hc (by simp [hpc]) (by simp [hpc])
    have hholds := (h.live k c hc (by simp [hpc])).2
    simp only [Call.Holds, hpc] at hstep hholds
    cases outcome with
    | none =>
      obtain rfl := Option.some.inj hstep
      exact h.ret hc (by simp [hpc]) (by simp [hpc]) _
    | some t =>
      obtain ⟨ht, hstep⟩ := Option.ite_none_right_eq_some.mp hstep
      obtain rfl := Option.some.inj hstep
      exact h.spawn (by simpa using ht) hno hc (by simp [hpc]) s.stack (fun _ _ => rfl)
        (fun _ => ⟨hholds.1, hholds.2.1⟩) ⟨.inl rfl, rfl, rfl, hholds.2.2, rfl⟩
  | createDirect =>
    have hno := h.no_thread hc (by simp [hpc]) (by simp [hpc])
    simp only [hpc] at hstep
    cases outcome with
    | none =>
      obtain rfl := Option.some.inj hstep
      exact h.ret hc (by simp [hpc]) (by simp [hpc]) _
    | some t =>
      obtain ⟨ht, hstep⟩ := Option.ite_none_right_eq_some.mp hstep
      obtain rfl := Option.some.inj hstep
      refine h.spawn (by simpa using ht) hno hc (by simp [hpc]) _ (fun a ha => ?_)
        (fun hpc => absurd rfl hpc) ⟨.inr rfl, rfl, rfl, rfl⟩
      have hne : a ≠ c.frame := by simpa using ha
      exact Function.update_of_ne hne _ _
  | checkAborted | storeStart | storeArg | storeDone | spin | returned => simp [hpc] at hstep

/-- A thread writes to the frame of the call that waits for it, where start routine and argument
stay as they are. -/
theorem Inv.letGo (h : Inv s) (hth : s.thread t = some th) (horigin : th.origin = some k)
    (hc : s.call k = some c) (hspin : c.pc = .spin)
    (hx : x.start = (s.context c.frame).start ∧ x.arg = (s.context c.frame).arg)
    {th' : NewThread S A} (horigin' : th'.origin = some k) (hok : th'.Ok c x) :
    Inv { s.setThread t th' with context := Function.update s.context c.frame x } := by
  have hlive : c.pc ≠ .returned := by simp [hspin]
  have hholds := (h.live k c hc hlive).2
  simp only [Call.Holds, hspin] at hholds
  have hpc : { c with pc := .spin } = c := by rw [← hspin]
  -- no other thread comes from this call
  have hother : ∀ u uh, u ≠ t → s.thread u = some uh → uh.origin ≠ some k := fun u uh hu huh hk =>
    hu (h.unique u t uh th k huh hth hk horigin)
  have hact : Inv { s.setThread t th' with
      call := Function.update s.call k (some { c with pc := .spin })
      context := Function.update s.context c.frame x } := by
    refine h.act hc hlive s.stack (fun _ _ => rfl) (fun _ => ?_) (fun u uh huh hk => ?_)
      (fun u uh huh hk => ?_) (fun u v uh vh huh hvh hk hk' => ?_)
    · exact ⟨hx.1.trans hholds.1, hx.2.trans hholds.2⟩
    · obtain ⟨-, rfl⟩ | ⟨hu, huh⟩ := s.thread_setThread huh
      · rw [hpc]
        exact hok
      · exact absurd hk (hother u uh hu huh)
    · obtain ⟨-, rfl⟩ | ⟨-, huh⟩ := s.thread_setThread huh
      · exact absurd horigin' hk
      · exact huh
    · obtain ⟨rfl, -⟩ | ⟨hu, huh⟩ := s.thread_setThread huh
      · obtain ⟨rfl, -⟩ | ⟨hv, hvh⟩ := s.thread_setThread hvh
        · rfl
        · exact absurd hk' (hother v vh hv hvh)
      · exact absurd hk (hother u uh hu huh)
  rw [hpc, ← hc, Function.update_eq_self] at hact
  exact hact

/-- `trampoline` keeps to what its thread was created for, and lets its call go only when it has
copied everything. -/
theorem Inv.threadStep (h : Inv s) (hth : s.thread t = some th)
    (hstep : s.threadStep t th = some s') : Inv s' := by
  unfold State.threadStep at hstep
  cases horigin : th.origin with
  | none =>
    obtain hphase | hphase := h.initial t th hth horigin <;> simp [hphase] at hstep
  | some k =>
    obtain ⟨c, hc, hok⟩ := h.created t th k hth horigin
    have hcall : ∀ k' c', th.origin = some k' → s.call k' = some c' → c' = c := by
      intro k' c' hk' hc'
      obtain rfl := Option.some.inj (horigin.symm.trans hk')
      exact Option.some.inj (hc'.symm.trans hc)
    have hsome : th.origin ≠ none := by simp [horigin]
    cases hphase : th.phase with
    | loadStart a =>
      simp only [hphase, Option.some.injEq] at hstep
      subst hstep
      obtain ⟨hpc, hspin, ha, hdone, hcalled⟩ : _ ∧ _ := by
        simpa only [NewThread.Ok, hphase] using hok
      have hholds := (h.live k c hc (by simp [hspin])).2
      simp only [Call.Holds, hspin] at hholds
      refine h.setThread hth rfl (fun k' c' hk' hc' _ => ?_) (fun hnone => absurd hnone hsome)
      rw [hcall k' c' hk' hc', ha]
      exact ⟨hpc, hspin, rfl, hdone, hholds.1, hcalled⟩
    | loadArg a start =>
      simp only [hphase, Option.some.injEq] at hstep
      subst hstep
      obtain ⟨hpc, hspin, ha, hdone, hstart, hcalled⟩ : _ ∧ _ := by
        simpa only [NewThread.Ok, hphase] using hok
      have hholds := (h.live k c hc (by simp [hspin])).2
      simp only [Call.Holds, hspin] at hholds
      refine h.setThread hth rfl (fun k' c' hk' hc' _ => ?_) (fun hnone => absurd hnone hsome)
      rw [hcall k' c' hk' hc', ha]
      exact ⟨hpc, hspin, rfl, hdone, hstart, hholds.2, hcalled⟩
    | setDone a start arg =>
      simp only [hphase, Option.some.injEq] at hstep
      subst hstep
      obtain ⟨hpc, hspin, rfl, hdone, hstart, harg, hcalled⟩ : _ ∧ _ := by
        simpa only [NewThread.Ok, hphase] using hok
      have hok' : NewThread.Ok { th with phase := .setUp start arg } c
          { s.context c.frame with done := (s.context c.frame).done ||| 1 } :=
        ⟨hpc, hstart, harg, hcalled⟩
      refine h.letGo hth horigin hc hspin ?_ ?_ hok'
      · exact ⟨rfl, rfl⟩
      · exact horigin
    | setUp start arg =>
      simp only [hphase, Option.some.injEq] at hstep
      subst hstep
      refine h.setThread hth rfl (fun k' c' hk' hc' hok => ?_) (fun hnone => absurd hnone hsome)
      simpa only [NewThread.Ok, hphase] using hok
    | callStart start arg =>
      simp only [hphase, Option.some.injEq] at hstep
      subst hstep
      refine h.setThread hth rfl (fun k' c' hk' hc' hok => ?_) (fun hnone => absurd hnone hsome)
      obtain ⟨hpc, rfl, rfl, hcalled⟩ : _ ∧ _ := by simpa only [NewThread.Ok, hphase] using hok
      exact ⟨hpc, by simp [hcalled]⟩
    | body | ended => simp [hphase] at hstep

/-- A new call takes a frame that nobody has. -/
theorem Inv.enter {frame : Nat} {start : S} {arg : A} (h : Inv s)
    (hstep : s.step (.enter t k frame start arg) = some s') : Inv s' := by
  obtain ⟨⟨-, hk, hframe⟩, hstep⟩ := Option.ite_none_right_eq_some.mp hstep
  obtain rfl := Option.some.inj hstep
  have hnew : ∀ k' c, s.call k' = some c → k' ≠ k := by
    rintro k' c hc rfl
    simp [hc] at hk
  refine ⟨fun k' c hc hlive => ?_, fun u uh k' huh horigin => ?_, h.initial, h.unique⟩
  · by_cases hkk : k' = k
    · subst hkk
      obtain rfl : _ = c := by simpa using hc
      exact ⟨Function.update_self .., trivial⟩
    · simp only [Function.update_of_ne hkk] at hc
      obtain ⟨howner, hholds⟩ := h.live k' c hc hlive
      have hne : c.frame ≠ frame := by
        rintro rfl
        simp [howner] at hframe
      exact ⟨(Function.update_of_ne hne _ _).trans howner, hholds⟩
  · obtain ⟨c, hc, hok⟩ := h.created u uh k' huh horigin
    exact ⟨c, (Function.update_of_ne (hnew k' c hc) _ _).trans hc, hok⟩

/-- What happens to free memory is of no consequence. -/
theorem Inv.overwrite {a : Nat} (h : Inv s) (hstep : s.step (.overwrite a x) = some s') :
    Inv s' := by
  obtain ⟨ha, hstep⟩ := Option.ite_none_right_eq_some.mp hstep
  obtain rfl := Option.some.inj hstep
  have hne : ∀ k c, s.call k = some c → c.pc ≠ .returned → c.frame ≠ a := by
    rintro k c hc hlive rfl
    simp [(h.live k c hc hlive).1] at ha
  refine ⟨fun k c hc hlive => ?_, fun u uh k huh horigin => ?_, h.initial, h.unique⟩
  · simp only [Function.update_of_ne (hne k c hc hlive)]
    exact h.live k c hc hlive
  · obtain ⟨c, hc, hok⟩ := h.created u uh k huh horigin
    refine ⟨c, hc, hok.congr fun hspin => ?_⟩
    exact Function.update_of_ne (hne k c hc (by simp [hspin])) _ _

theorem Inv.step {e : Event S A} (h : Inv s) (hstep : s.step e = some s') : Inv s' := by
  cases e with
  | enter t k frame start arg => exact h.enter hstep
  | caller k =>
    obtain ⟨c, hc, hstep⟩ := Option.bind_eq_some_iff.mp hstep
    exact h.callerStep hc (Option.ite_none_right_eq_some.mp hstep).2
  | create k outcome =>
    obtain ⟨c, hc, hstep⟩ := Option.bind_eq_some_iff.mp hstep
    exact h.createStep hc (Option.ite_none_right_eq_some.mp hstep).2
  | thread t =>
    obtain ⟨th, hth, hstep⟩ := Option.bind_eq_some_iff.mp hstep
    exact h.threadStep hth (Option.ite_none_right_eq_some.mp hstep).2
  | exit t =>
    obtain ⟨th, hth, hstep⟩ := Option.bind_eq_some_iff.mp hstep
    cases hphase : th.phase with
    | body =>
      rw [hphase] at hstep
      obtain ⟨-, hstep⟩ := Option.ite_none_right_eq_some.mp hstep
      obtain rfl := Option.some.inj hstep
      refine h.setThread hth rfl (fun _ _ _ _ hok => ?_) (fun _ => .inr rfl)
      simpa only [NewThread.Ok, hphase] using hok
    | loadStart | loadArg | setDone | setUp | callStart | ended => simp [hphase] at hstep
  | abort =>
    obtain rfl := Option.some.inj hstep
    exact ⟨h.live, h.created, h.initial, h.unique⟩
  | overwrite a x => exact h.overwrite hstep

/-! ## Threads and frames -/

/-- The steps a thread has to make until it calls its start routine. -/
def Phase.left : Phase S A → Nat
  | .loadStart _ => 5
  | .loadArg _ _ => 4
  | .setDone _ _ _ => 3
  | .setUp _ _ => 2
  | .callStart _ _ => 1
  | .body | .ended => 0

/-- The `tramp_context` that an event reads or writes: the call it belongs to, and the address. -/
def State.access (s : State S A) : Event S A → Option (Nat × Nat)
  | .caller k => (s.call k).bind fun c =>
    match c.pc with
    | .storeStart | .storeArg | .storeDone | .spin => some (k, c.frame)
    | _ => none
  | .thread t => (s.thread t).bind fun th =>
    match th.phase with
    | .loadStart a | .loadArg a _ | .setDone a _ _ => th.origin.map (·, a)
    | _ => none
  | _ => none

/-- What has been called is what the creating call was given, once and not twice. -/
theorem Inv.called (h : Inv s) (hth : s.thread t = some th) (horigin : th.origin = some k) :
    ∃ c, s.call k = some c ∧ th.called = if th.phase.left = 0 then [(c.start, c.arg)] else [] := by
  obtain ⟨c, hc, -, hphase⟩ := h.created t th k hth horigin
  refine ⟨c, hc, ?_⟩
  cases hp : th.phase <;> simp only [hp, Phase.left] at hphase ⊢ <;> grind

/-- Nothing keeps a thread from its start routine. -/
theorem exists_threadStep (s : State S A) (hth : s.thread t = some th) (hleft : th.phase.left ≠ 0)
    (hstack : s.stack t = []) :
    ∃ s' th', s.step (.thread t) = some s' ∧ s'.thread t = some th' ∧ th'.origin = th.origin ∧
      th'.phase.left + 1 = th.phase.left := by
  simp only [State.step, hth, Option.bind_some, hstack, if_true, State.threadStep]
  cases hphase : th.phase with
  | loadStart | loadArg | setDone | setUp | callStart =>
    exact ⟨_, _, rfl, Function.update_self .., rfl, rfl⟩
  | body | ended => simp [hphase, Phase.left] at hleft

/-- A context is only accessed while its call has not returned. -/
theorem Inv.access (h : Inv s) {e : Event S A} {a : Nat} (haccess : s.access e = some (k, a)) :
    s.owner a = some k ∧ ∃ c, s.call k = some c ∧ c.pc ≠ .returned := by
  cases e with
  | caller k' =>
    obtain ⟨c, hc, haccess⟩ := Option.bind_eq_some_iff.mp haccess
    have hlive : c.pc ≠ .returned ∧ k' = k ∧ c.frame = a := by
      cases hpc : c.pc <;> simp_all
    obtain ⟨hlive, rfl, rfl⟩ := hlive
    exact ⟨(h.live k' c hc hlive).1, c, hc, hlive⟩
  | thread t =>
    obtain ⟨th, hth, haccess⟩ := Option.bind_eq_some_iff.mp haccess
    have horigin : th.origin = some k := by
      cases hp : th.phase <;> simp_all
    obtain ⟨c, hc, hpc, hphase⟩ := h.created t th k hth horigin
    have hwait : c.pc = .spin ∧ a = c.frame := by
      cases hp : th.phase <;> simp_all
    obtain ⟨hspin, rfl⟩ := hwait
    have hlive : c.pc ≠ .returned := by simp [hspin]
    exact ⟨(h.live k c hc hlive).1, c, hc, hlive⟩
  | enter | create | exit | abort | overwrite => cases haccess

theorem State.call_goTo (s : State S A) {k' : Nat} {c' : Call S A} (hc' : s.call k' = some c')
    (hc : s.call k = some c) (pc : CreatePc) (x : TrampContext S A) :
    ∃ d, (s.goTo k' c' pc x).call k = some d ∧ d.start = c.start ∧ d.arg = c.arg := by
  by_cases hk : k = k'
  · subst hk
    obtain rfl := Option.some.inj (hc.symm.trans hc')
    exact ⟨_, Function.update_self .., rfl, rfl⟩
  · exact ⟨c, (Function.update_of_ne hk _ _).trans hc, rfl, rfl⟩

theorem State.call_ret (s : State S A) {k' : Nat} {c' : Call S A} (hc' : s.call k' = some c')
    (hc : s.call k = some c) (x : TrampContext S A) :
    ∃ d, (s.ret k' c' x).call k = some d ∧ d.start = c.start ∧ d.arg = c.arg :=
  s.call_goTo hc' hc .returned x

theorem State.call_callerStep {k' : Nat} {c' : Call S A} (hc' : s.call k' = some c')
    (hstep : s.callerStep k' c' = some s') (hc : s.call k = some c) :
    ∃ d, s'.call k = some d ∧ d.start = c.start ∧ d.arg = c.arg := by
  unfold State.callerStep at hstep
  cases hpc : c'.pc <;> simp only [hpc, Option.some.injEq, reduceCtorEq] at hstep
  case spin =>
    subst hstep
    split_ifs
    · exact s.call_goTo hc' hc _ _
    · exact s.call_ret hc' hc _
  all_goals
    subst hstep
    exact s.call_goTo hc' hc _ _

theorem State.call_createStep {k' : Nat} {c' : Call S A} (hc' : s.call k' = some c')
    {outcome : Option Nat} (hstep : s.createStep k' c' outcome = some s')
    (hc : s.call k = some c) : ∃ d, s'.call k = some d ∧ d.start = c.start ∧ d.arg = c.arg := by
  unfold State.createStep at hstep
  split at hstep
  · obtain ⟨-, hstep⟩ := Option.ite_none_right_eq_some.mp hstep
    obtain rfl := Option.some.inj hstep
    exact (s.spawn _ k' _).call_goTo hc' hc _ _
  · obtain ⟨-, hstep⟩ := Option.ite_none_right_eq_some.mp hstep
    obtain rfl := Option.some.inj hstep
    exact (s.spawn _ k' _).call_ret hc' hc _
  · obtain rfl := Option.some.inj hstep
    exact s.call_ret hc' hc _
  · obtain rfl := Option.some.inj hstep
    exact s.call_ret hc' hc _
  · cases hstep

/-- What a call was given stays what it is. -/
theorem call_step {e : Event S A} (hstep : s.step e = some s') (hc : s.call k = some c) :
    ∃ d, s'.call k = some d ∧ d.start = c.start ∧ d.arg = c.arg := by
  cases e with
  | enter t k' frame start arg =>
    obtain ⟨⟨-, hk, -⟩, hstep⟩ := Option.ite_none_right_eq_some.mp hstep
    obtain rfl := Option.some.inj hstep
    have hne : k ≠ k' := by
      rintro rfl
      simp [hc] at hk
    exact ⟨c, (Function.update_of_ne hne _ _).trans hc, rfl, rfl⟩
  | caller k' =>
    obtain ⟨c', hc', hstep⟩ := Option.bind_eq_some_iff.mp hstep
    exact State.call_callerStep hc' (Option.ite_none_right_eq_some.mp hstep).2 hc
  | create k' outcome =>
    obtain ⟨c', hc', hstep⟩ := Option.bind_eq_some_iff.mp hstep
    exact State.call_createStep hc' (Option.ite_none_right_eq_some.mp hstep).2 hc
  | thread t =>
    obtain ⟨th, -, hstep⟩ := Option.bind_eq_some_iff.mp hstep
    have hstep := (Option.ite_none_right_eq_some.mp hstep).2
    unfold State.threadStep at hstep
    cases hp : th.phase <;> simp only [hp, Option.some.injEq, reduceCtorEq] at hstep
    all_goals
      subst hstep
      exact ⟨c, hc, rfl, rfl⟩
  | exit t =>
    obtain ⟨th, -, hstep⟩ := Option.bind_eq_some_iff.mp hstep
    split at hstep
    · obtain ⟨-, hstep⟩ := Option.ite_none_right_eq_some.mp hstep
      exact Option.some.inj hstep ▸ ⟨c, hc, rfl, rfl⟩
    · cases hstep
  | abort => exact Option.some.inj hstep ▸ ⟨c, hc, rfl, rfl⟩
  | overwrite a x =>
    obtain ⟨-, hstep⟩ := Option.ite_none_right_eq_some.mp hstep
    exact Option.some.inj hstep ▸ ⟨c, hc, rfl, rfl⟩

/-- In every state that any interleaving reaches: a thread calls what the `pthread_create` that
created it was given, exactly once by the time it has got there, and it gets there; a call creates
one thread at most and keeps what it was given; and whoever accesses a `tramp_context` does so
before its call returns. -/
theorem trampoline_handsOver (context : Nat → TrampContext S A) (es : List (Event S A))
    (s : State S A) (hrun : Run.run State.step (State.start context) es = some s) :
    (∀ t th k, s.thread t = some th → th.origin = some k → ∃ c, s.call k = some c ∧
      th.called = if th.phase.left = 0 then [(c.start, c.arg)] else []) ∧
    (∀ t th, s.thread t = some th → th.phase.left ≠ 0 → s.stack t = [] →
      ∃ s' th', s.step (.thread t) = some s' ∧ s'.thread t = some th' ∧
        th'.origin = th.origin ∧ th'.phase.left + 1 = th.phase.left) ∧
    (∀ t u th uh k, s.thread t = some th → s.thread u = some uh → th.origin = some k →
      uh.origin = some k → t = u) ∧
    (∀ e s' k c, s.step e = some s' → s.call k = some c →
      ∃ d, s'.call k = some d ∧ d.start = c.start ∧ d.arg = c.arg) ∧
    ∀ e s' k a, s.step e = some s' → s.access e = some (k, a) →
      s.owner a = some k ∧ ∃ c, s.call k = some c ∧ c.pc ≠ .returned := by
  have h : Inv s := Run.invariant (fun _ _ _ h hstep => h.step hstep) (inv_start context) hrun
  exact ⟨fun t th k hth horigin => h.called hth horigin,
    fun t th hth hleft hstack => exists_threadStep s hth hleft hstack, h.unique,
    fun e s' k c hstep hc => call_step hstep hc, fun e s' k a _ haccess => h.access haccess⟩

/-- Thread 0 creates thread 1, which copies 7 and 8 while its creator waits, and then thread 2
from the same frame before thread 1 has come to its start routine. -/
def twoThreads : List (Event Nat Nat) :=
  [.enter 0 0 100 7 8, .caller 0, .caller 0, .caller 0, .caller 0, .create 0 (some 1),
    .thread 1, .caller 0, .thread 1, .thread 1, .caller 0, .overwrite 100 ⟨0, 0, 5⟩,
    .enter 0 1 100 9 3, .caller 1, .caller 1, .caller 1, .caller 1, .create 1 (some 2),
    .thread 1, .thread 2, .thread 1]

theorem trampoline_handsOver_twoThreads : ∃ s th,
    Run.run State.step (State.start fun _ => ⟨0, 0, 0⟩) twoThreads = some s ∧
    s.thread 1 = some th ∧ th.origin = some 0 ∧ ∃ c, s.call 0 = some c ∧
      th.called = if th.phase.left = 0 then [(c.start, c.arg)] else [] := by
  have hrun : (Run.run State.step (State.start fun _ => ⟨0, 0, 0⟩) twoThreads).bind
      (fun s => (s.thread 1).map (·.origin)) = some (some 0) := by
    decide
  obtain ⟨s, hs, hthread⟩ := Option.bind_eq_some_iff.1 hrun
  obtain ⟨th, hth, horigin⟩ := Option.map_eq_some_iff.1 hthread
  exact ⟨s, th, hs, hth, horigin, (trampoline_handsOver _ twoThreads s hs).1 1 th 0 hth horigin⟩

end FPSpy.Trampoline
