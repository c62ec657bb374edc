import Mathlib.Data.List.Nodup
import FPSpy.Lib.Run
import FPSpy.Lib.Search

/-!
# The names of trace files

The file of a context is named after the program, the second and the thread, and opened
without O_EXCL or O_TRUNC. A thread id names one thread at a time, but a process keeps its
id when it executes another program, and the id of a thread that has ended is given out
again. Within a second neither leaves a trace in the name.
-/
namespace FPSpy

structure FileOpening where
  programInvocationShortName : List Char
  time : Nat
  tid : Nat
  deriving DecidableEq

/-- `"__%s.%lu.%d.individual.fpemon"`, in a buffer that is long enough. -/
def FileOpening.name (o : FileOpening) : List Char :=
  "__".toList ++ o.programInvocationShortName ++ '.' :: Nat.toDigits 10 o.time ++
    '.' :: Nat.toDigits 10 o.tid ++ ".individual.fpemon".toList

theorem dot_not_mem_toDigits (n : Nat) : '.' ∉ Nat.toDigits 10 n := by
  intro h
  have hdigit := Nat.isDigit_of_mem_toDigits (by decide) (by decide) h
  exact absurd hdigit (by decide)

theorem toDigits_injective {m n : Nat} (h : Nat.toDigits 10 m = Nat.toDigits 10 n) : m = n := by
  rw [← Nat.ofDigitChars_ten_toDigits (n := m), h, Nat.ofDigitChars_ten_toDigits]

/-- A name tells the program, the second and the thread. -/
theorem FileOpening.name_injective {o p : FileOpening} (h : o.name = p.name) : o = p := by
  obtain ⟨prog, time, tid⟩ := o
  obtain ⟨prog', time', tid'⟩ := p
  have hbody := List.append_cancel_right h
  obtain ⟨hfront, htid⟩ := Search.append_cons_inj (dot_not_mem_toDigits tid)
    (dot_not_mem_toDigits tid') hbody
  obtain ⟨hprog, htime⟩ := Search.append_cons_inj (dot_not_mem_toDigits time)
    (dot_not_mem_toDigits time') hfront
  obtain rfl := toDigits_injective htid
  obtain rfl := toDigits_injective htime
  obtain rfl := List.append_cancel_left hprog
  rfl

/-! ## Threads and programs -/

structure LiveThread where
  pid : Nat
  programInvocationShortName : List Char

/-- All threads of a machine, what FPSpy has opened so far, and for every byte of a file the opening
through which it was written. -/
structure Lifetimes where
  now : Nat
  thread : Nat → Option LiveThread
  openings : List FileOpening
  content : List Char → List Nat
  offset : Nat → Nat

/-- `tracked` says whether a context is brought up: FPSpy is loaded, has not aborted, and the file
opens. -/
inductive LifeEvent where
  /-- Time passes. -/
  | tick (seconds : Nat)
  /-- A program is started in a new process. -/
  | start (pid : Nat) (prog : List Char) (tracked : Bool)
  | pthreadCreate (t u : Nat) (tracked : Bool)
  | fork (t u : Nat) (tracked : Bool)
  /-- The other threads of the process are gone, and the constructor runs again. -/
  | exec (t : Nat) (prog : List Char) (tracked : Bool)
  | exit (t : Nat)
  /-- An abort before FPSpy is initialised starts it up once more. -/
  | startAgain (t : Nat)
  /-- `n` bytes through the `k`-th opening. -/
  | write (k n : Nat)

namespace Lifetimes

def boot (now : Nat) : Lifetimes := ⟨now, fun _ => none, [], fun _ => [], fun _ => 0⟩

/-- The thread and the program for which an event calls `bringup_monitoring_context`. -/
def brings (s : Lifetimes) : LifeEvent → Option (Nat × List Char)
  | .start pid prog tracked => if tracked then some (pid, prog) else none
  | .pthreadCreate t u tracked | .fork t u tracked =>
    if tracked then (s.thread t).map fun l => (u, l.programInvocationShortName) else none
  | .exec t prog tracked => if tracked then (s.thread t).map fun l => (l.pid, prog) else none
  | .startAgain t => (s.thread t).map fun l => (t, l.programInvocationShortName)
  | .tick _ | .exit _ | .write _ _ => none

def spawn (s : Lifetimes) (t : Nat) (l : LiveThread) : Option Lifetimes :=
  if (s.thread t).isNone then some { s with thread := Function.update s.thread t (some l) }
  else none

def writeFile (s : Lifetimes) (k n : Nat) (o : FileOpening) : Lifetimes :=
  let old := s.content o.name
  { s with
    content := Function.update s.content o.name
      (old.take (s.offset k) ++ List.replicate n k ++ old.drop (s.offset k + n))
    offset := Function.update s.offset k (s.offset k + n) }

def proceed (s : Lifetimes) : LifeEvent → Option Lifetimes
  | .tick seconds => some { s with now := s.now + seconds }
  | .start pid prog _ => s.spawn pid ⟨pid, prog⟩
  | .pthreadCreate t u _ => (s.thread t).bind fun l => s.spawn u l
  | .fork t u _ => (s.thread t).bind fun l => s.spawn u { l with pid := u }
  | .exec t prog _ => (s.thread t).map fun l => { s with
      thread := fun u =>
        if u = l.pid then some ⟨l.pid, prog⟩
        else (s.thread u).filter fun other => other.pid ≠ l.pid }
  | .exit t => (s.thread t).map fun _ => { s with thread := Function.update s.thread t none }
  | .startAgain t => (s.thread t).map fun _ => s
  | .write k n => s.openings[k]?.map (s.writeFile k n)

/-- `open` creates the file or finds it; the offset is zero. -/
def openFile (s : Lifetimes) (b : Option (Nat × List Char)) : Lifetimes :=
  match b with
  | none => s
  | some (t, prog) => { s with openings := s.openings ++ [⟨prog, s.now, t⟩] }

def step (s : Lifetimes) (e : LifeEvent) : Option Lifetimes :=
  (s.proceed e).map (openFile · (s.brings e))

/-- If the event brings up a context, no thread of that id has been brought up in this second in a
program of that name. -/
def Fresh (s : Lifetimes) (e : LifeEvent) : Prop :=
  ∀ b ∈ s.brings e, ∀ o ∈ s.openings, o.time = s.now →
    o.programInvocationShortName = b.2 → o.tid ≠ b.1

instance (s : Lifetimes) (e : LifeEvent) : Decidable (Fresh s e) :=
  inferInstanceAs (Decidable (∀ b ∈ s.brings e, _))

/-- No file was opened in the future, and what is in a file was written through an opening of it. -/
structure Sound (s : Lifetimes) : Prop where
  past : ∀ o ∈ s.openings, o.time ≤ s.now
  written : ∀ x, ∀ k ∈ s.content x, ∃ o, s.openings[k]? = some o ∧ o.name = x

variable {s u : Lifetimes} {e : LifeEvent}

theorem sound_boot (now : Nat) : Sound (boot now) where
  past _ h := by cases h
  written _ _ h := by cases h

theorem spawn_eq {t : Nat} {l : LiveThread} (h : s.spawn t l = some u) :
    u = { s with thread := u.thread } := by
  unfold spawn at h
  split_ifs at h
  rw [← Option.some.inj h]

/-- Before the bringup nothing is opened, time passes only where nothing is brought up, and only a
write adds to a file. -/
theorem proceed_effect (h : s.proceed e = some u) :
    u.openings = s.openings ∧ s.now ≤ u.now ∧ ((s.brings e).isSome = true → u.now = s.now) ∧
      (u.content = s.content ∨ ∃ k n o, s.openings[k]? = some o ∧ u = s.writeFile k n o) := by
  cases e with
  | tick seconds =>
    obtain rfl := Option.some.inj h
    exact ⟨rfl, Nat.le_add_right _ _, fun hb => absurd hb Bool.false_ne_true, .inl rfl⟩
  | start pid prog tracked =>
    rw [spawn_eq h]
    exact ⟨rfl, le_rfl, fun _ => rfl, .inl rfl⟩
  | pthreadCreate t v tracked | fork t v tracked =>
    obtain ⟨l, -, hl⟩ := Option.bind_eq_some_iff.mp h
    rw [spawn_eq hl]
    exact ⟨rfl, le_rfl, fun _ => rfl, .inl rfl⟩
  | exec t prog tracked =>
    obtain ⟨l, -, rfl⟩ := Option.map_eq_some_iff.mp h
    exact ⟨rfl, le_rfl, fun _ => rfl, .inl rfl⟩
  | exit t | startAgain t =>
    obtain ⟨l, -, rfl⟩ := Option.map_eq_some_iff.mp h
    exact ⟨rfl, le_rfl, fun _ => rfl, .inl rfl⟩
  | write k n =>
    obtain ⟨o, ho, rfl⟩ := Option.map_eq_some_iff.mp h
    exact ⟨rfl, le_rfl, fun _ => rfl, .inr ⟨k, n, o, ho, rfl⟩⟩

/-- A byte of a file is an old one or has just been written. -/
theorem mem_content_writeFile {k n j : Nat} {o : FileOpening} {x : List Char}
    (hj : j ∈ (s.writeFile k n o).content x) : j ∈ s.content x ∨ j = k ∧ x = o.name := by
  simp only [writeFile, Function.update_apply] at hj
  split_ifs at hj with hx
  · subst hx
    rcases List.mem_append.mp hj with hj | hj
    · rcases List.mem_append.mp hj with hj | hj
      · exact .inl (List.mem_of_mem_take hj)
      · exact .inr ⟨List.eq_of_mem_replicate hj, rfl⟩
    · exact .inl (List.mem_of_mem_drop hj)
  · exact .inl hj

theorem Sound.proceed (hs : s.Sound) (h : s.proceed e = some u) : u.Sound := by
  obtain ⟨hopenings, hnow, -, hcontent⟩ := proceed_effect h
  refine ⟨fun o ho => (hs.past o (hopenings ▸ ho)).trans hnow, fun x j hj => ?_⟩
  rw [hopenings]
  rcases hcontent with hsame | ⟨k, n, o, ho, rfl⟩
  · exact hs.written x j (hsame ▸ hj)
  · rcases mem_content_writeFile hj with hj | ⟨rfl, rfl⟩
    · exact hs.written x j hj
    · exact ⟨o, ho, rfl⟩

/-- One step: what is opened is there already, or is new in this second. -/
theorem step_spec (hs : s.Sound) (h : s.step e = some u) :
    u.Sound ∧ ((u.openings.map (·.name)).Nodup ↔ (s.openings.map (·.name)).Nodup ∧ s.Fresh e) := by
  obtain ⟨v, hv, rfl⟩ := Option.map_eq_some_iff.mp h
  obtain ⟨hopenings, -, hnow, -⟩ := proceed_effect hv
  have hsound := hs.proceed hv
  unfold Fresh
  cases hb : s.brings e with
  | none => simpa [openFile, hopenings] using hsound
  | some b =>
    obtain ⟨t, prog⟩ := b
    have hnow' : v.now = s.now := hnow (by simp [hb])
    refine ⟨⟨?_, ?_⟩, ?_⟩
    · intro o ho
      rcases List.mem_append.mp ho with ho | ho
      · exact hsound.past o ho
      · rw [List.mem_singleton.mp ho]
        exact le_rfl
    · intro x k hk
      obtain ⟨o, ho, hname⟩ := hsound.written x k hk
      obtain ⟨hlt, -⟩ := List.getElem?_eq_some_iff.mp ho
      exact ⟨o, by rw [openFile, List.getElem?_append_left hlt, ho], hname⟩
    · simp only [openFile, hopenings, hnow', List.map_append, List.map_cons, List.map_nil]
      rw [List.nodup_append_comm, List.singleton_append, List.nodup_cons, and_comm]
      refine and_congr_right fun _ => ?_
      simp only [Option.mem_some_iff, forall_eq', List.mem_map, not_exists, not_and]
      constructor
      · rintro hnew o ho htime rfl rfl
        exact hnew o ho (by rw [← htime])
      · intro hfresh o ho hname
        obtain rfl := FileOpening.name_injective hname
        exact hfresh _ ho rfl rfl rfl

/-- The names of a run are distinct exactly if every bringup is the first one of its second for that
thread and program. -/
theorem nodup_run_iff {es : List LifeEvent} (hs : s.Sound) (hrun : Run.run step s es = some u) :
    (u.openings.map (·.name)).Nodup ↔
      (s.openings.map (·.name)).Nodup ∧ Run.Admits step Fresh s es := by
  induction es generalizing s with
  | nil =>
    obtain rfl := Option.some.inj hrun
    exact (and_iff_left trivial).symm
  | cons e es ih =>
    obtain ⟨v, hv, hu⟩ := Run.run_cons.mp hrun
    obtain ⟨hsound, hstep⟩ := step_spec hs hv
    rw [ih hsound hu, hstep, and_assoc]
    refine and_congr_right fun _ => and_congr_right fun _ => ⟨fun h t ht => ?_, fun h => h v hv⟩
    obtain rfl := Option.some.inj (hv.symm.trans ht)
    exact h

/-- A file belongs to one opening if the names are distinct. -/
theorem Sound.owner (hs : s.Sound) (h : (s.openings.map (·.name)).Nodup) {x : List Char} {j k : Nat}
    (hj : j ∈ s.content x) (hk : k ∈ s.content x) : j = k := by
  obtain ⟨o, ho, hname⟩ := hs.written x j hj
  obtain ⟨p, hp, hname'⟩ := hs.written x k hk
  obtain ⟨hlt, -⟩ := List.getElem?_eq_some_iff.mp ho
  refine (List.getElem?_inj (by simpa using hlt) h).mp ?_
  rw [List.getElem?_map, List.getElem?_map, ho, hp, Option.map_some, Option.map_some, hname, hname']

/-- All bringups of a run have files of their own exactly if none of them comes in the same second
as an earlier one for the same thread id and program name; then no file has bytes of two. -/
theorem distinct_iff {now : Nat} {es : List LifeEvent}
    (hrun : Run.run step (boot now) es = some u) :
    ((u.openings.map (·.name)).Nodup ↔ Run.Admits step Fresh (boot now) es) ∧
    (Run.Admits step Fresh (boot now) es →
      ∀ x, ∀ j ∈ u.content x, ∀ k ∈ u.content x, j = k) := by
  have hiff := nodup_run_iff (sound_boot now) hrun
  rw [show (boot now).openings = [] from rfl, List.map_nil] at hiff
  have hnodup := hiff.trans (and_iff_right List.nodup_nil)
  have hsound : u.Sound := Run.invariant (I := Sound) (fun s e t hs h => (step_spec hs h).1)
    (sound_boot now) hrun
  exact ⟨hnodup, fun h x j hj k hk => hsound.owner (hnodup.mpr h) hj hk⟩

def testFpspy : List Char := "test_fpspy".toList

def patient : List LifeEvent :=
  [.start 100 testFpspy true, .pthreadCreate 100 101 true, .write 1 48, .fork 100 102 true,
    .write 2 48, .tick 1, .exec 102 testFpspy true, .write 3 48]

def hasty : List LifeEvent :=
  [.start 100 testFpspy true, .fork 100 101 true, .write 1 96, .exec 101 testFpspy true,
    .write 2 48]

theorem distinct_iff_patient : ∃ u, Run.run step (boot 0) patient = some u ∧
    (u.openings.map (·.name)).Nodup ∧ ∀ x, ∀ j ∈ u.content x, ∀ k ∈ u.content x, j = k := by
  obtain ⟨u, hu⟩ := Option.isSome_iff_exists.mp
    (by decide : (Run.run step (boot 0) patient).isSome = true)
  have hadm : Run.Admits step Fresh (boot 0) patient :=
    Run.admits_of_check (g := fun s e => decide (Fresh s e)) (fun _ _ h => of_decide_eq_true h)
      (by decide)
  exact ⟨u, hu, (distinct_iff hu).1.mpr hadm, (distinct_iff hu).2 hadm⟩

/-- Child and program executed share a file. -/
theorem not_distinct_hasty : ∃ u x, Run.run step (boot 0) hasty = some u ∧
    ¬ (u.openings.map (·.name)).Nodup ∧ 1 ∈ u.content x ∧ 2 ∈ u.content x := by
  obtain ⟨u, hu⟩ := Option.isSome_iff_exists.mp
    (by decide : (Run.run step (boot 0) hasty).isSome = true)
  have hends : (Run.run step (boot 0) hasty).map (fun u =>
      (decide (u.openings.map (·.name)).Nodup, decide (1 ∈ u.content (FileOpening.name
        ⟨testFpspy, 0, 101⟩)), decide (2 ∈ u.content (FileOpening.name ⟨testFpspy, 0, 101⟩)))) =
      some (false, true, true) := by decide
  rw [hu] at hends
  simp only [Option.map_some, Option.some.injEq, Prod.mk.injEq, decide_eq_false_iff_not,
    decide_eq_true_eq] at hends
  exact ⟨u, _, hu, hends⟩

end Lifetimes
end FPSpy
