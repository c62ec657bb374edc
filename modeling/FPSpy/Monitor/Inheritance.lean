import FPSpy.Monitor.Configuration

/-!
# Programs that are executed

The environment goes on to the programs that a process executes, and FPSpy is loaded into each
of them. `fpspy_init` rewrites FPSPY_KICKSTART, so that only the first waits.
-/
namespace FPSpy.Configuration

def Environment.started (e : Environment) : Environment :=
  Function.update e .fpspyKickstart (some ['n'])

def Settings.started (s : Settings) : Settings :=
  { s with config := { s.config with kickstart := false } }

section Exec

variable (e : Environment) (s : Settings)

/-- Only the kick-start reads its variable. -/
theorem readVariables_started : readVariables e.started s = readVariables e s := by
  have hdebug : readDebugLevel e.started = readDebugLevel e := rfl
  have htrace : readEnableTrace e.started = readEnableTrace e := rfl
  have hmode : readMode e.started = readMode e := rfl
  have hmaxcount : readMaxcount e.started = readMaxcount e := rfl
  have haggressive : readAggressive e.started = readAggressive e := rfl
  have hpthreads : readDisablePthreads e.started = readDisablePthreads e := rfl
  have hsample : readSample e.started = readSample e := rfl
  have hkernel : readKernel e.started = readKernel e := rfl
  have hpoisson : readPoisson e.started = readPoisson e := rfl
  have htimer : readTimer e.started = readTimer e := rfl
  have hseed : readSeed e.started = readSeed e := rfl
  have hexcept : readExceptList e.started = readExceptList e := rfl
  simp only [readVariables, hdebug, htrace, hmode, hmaxcount, haggressive, hpthreads, hsample,
    hkernel, hpoisson, htimer, hseed, hexcept]

theorem exists_of_bind_eq_ok {ε α β : Type} {x : Except ε α} {f : α → Except ε β} {b : β}
    (h : (x >>= f) = .ok b) : ∃ a, x = .ok a ∧ f a = .ok b := by
  cases x with
  | error _ => cases h
  | ok a => exact ⟨a, rfl, h⟩

variable {e s} in
/-- A reader of one variable keeps what both its branches keep. -/
theorem elim_keeps {β : Type} (K : Settings → β) {o : Option (List Char)} {s₀ t : Settings}
    {f : List Char → Except Stop Settings} (h : o.elim (.ok s₀) f = .ok t) (hnone : K s₀ = K s)
    (hsome : ∀ x t, f x = .ok t → K t = K s) : K t = K s := by
  cases o with
  | none => rw [← Except.ok.inj h, hnone]
  | some x => exact hsome x t h

section

variable {e s} {t : Settings}

theorem kickstart_readDebugLevel (h : readDebugLevel e s = .ok t) :
    t.config.kickstart = s.config.kickstart := by
  refine elim_keeps (·.config.kickstart) h rfl fun x t hx => ?_
  split_ifs at hx
  cases hx
  rfl

theorem kickstart_readMode (h : readMode e s = .ok t) :
    t.config.kickstart = s.config.kickstart := by
  refine elim_keeps (·.config.kickstart) h rfl fun x t hx => ?_
  split_ifs at hx <;> cases hx <;> rfl

theorem kickstart_readPoisson (h : readPoisson e s = .ok t) :
    t.config.kickstart = s.config.kickstart := by
  refine elim_keeps (·.config.kickstart) h rfl fun x t hx => ?_
  dsimp only at hx
  split_ifs at hx
  cases hx
  rfl

theorem kickstart_readTimer (h : readTimer e s = .ok t) :
    t.config.kickstart = s.config.kickstart := by
  refine elim_keeps (·.config.kickstart) h rfl fun x t hx => ?_
  split_ifs at hx <;> cases hx <;> rfl

end

theorem kickstart_readEnableTrace :
    (readEnableTrace e s).config.kickstart = s.config.kickstart := by
  unfold readEnableTrace
  split_ifs <;> rfl

/-- From FPSPY_MAXCOUNT to FPSPY_KERNEL. -/
theorem kickstart_readKernel : (readKernel e (readSample e (readDisablePthreads e
    (readAggressive e (readMaxcount e s))))).config.kickstart = s.config.kickstart := by
  unfold readKernel readSample readDisablePthreads readAggressive readMaxcount
  cases e .fpspyMaxcount <;> cases e .fpspySample <;> split_ifs <;> rfl

theorem kickstart_readExceptList :
    (readExceptList e (readSeed e s)).config.kickstart = s.config.kickstart := by
  unfold readExceptList
  cases e .fpspyExceptList <;> rfl

variable {e s} in
/-- No other variable is about the kick-start. -/
theorem kickstart_readVariables {t : Settings} (h : readVariables e s = .ok t) :
    t.config.kickstart = s.config.kickstart := by
  obtain ⟨s₁, h₁, h⟩ := exists_of_bind_eq_ok h
  obtain ⟨s₂, h₂, h⟩ := exists_of_bind_eq_ok h
  obtain ⟨s₃, h₃, h⟩ := exists_of_bind_eq_ok h
  obtain ⟨s₄, h₄, h⟩ := exists_of_bind_eq_ok h
  obtain rfl := Except.ok.inj h
  rw [kickstart_readExceptList, kickstart_readTimer h₄, kickstart_readPoisson h₃,
    kickstart_readKernel, kickstart_readMode h₂, kickstart_readEnableTrace,
    kickstart_readDebugLevel h₁]

theorem kickstart_readForceRounding (mxcsr : BitVec 32) :
    (readForceRounding e s mxcsr).config.kickstart = s.config.kickstart := by
  unfold readForceRounding
  cases e .fpspyForceRounding <;> rfl

theorem kickstart_readAbort : (readAbort e s).config.kickstart = s.config.kickstart := by
  unfold readAbort
  split_ifs <;> rfl

theorem started_readAbort : (readAbort e s).started = readAbort e s.started := by
  unfold readAbort
  split_ifs <;> rfl

variable {s}

theorem started_eq (h : s.config.kickstart = false) : s.started = s :=
  (congrArg (fun b => { s with config := { s.config with kickstart := b } }) h).symm

theorem started_readKickstart (h : s.config.kickstart = false) :
    (readKickstart e s).started = s := by
  unfold readKickstart
  split_ifs <;> exact started_eq h

/-- With the variable rewritten the settings are the same, but for the kick-start. -/
theorem fpspyInit_started (h : s.config.kickstart = false) (mxcsr : BitVec 32) :
    fpspyInit e.started s mxcsr = (fpspyInit e s mxcsr).map Settings.started := by
  rw [fpspyInit, fpspyInit, readVariables_started]
  cases ht : readVariables e s with
  | error => rfl
  | ok t =>
    have hround :=
      ((kickstart_readForceRounding e t mxcsr).trans (kickstart_readVariables ht)).trans h
    show Except.ok (readAbort e (readForceRounding e t mxcsr)) =
      Except.ok (readAbort e (readKickstart e (readForceRounding e t mxcsr))).started
    rw [started_readAbort, started_readKickstart e hround]

/-- The variable is rewritten, or the settings have no kick-start. -/
theorem environAfter_cases (h : s.config.kickstart = false) (mxcsr : BitVec 32) :
    environAfter e s mxcsr = e.started ∨ environAfter e s mxcsr = e ∧
      ∀ m, (fpspyInit e s m).map Settings.started = fpspyInit e s m := by
  cases ht : readVariables e s with
  | error stop =>
    have hinit : ∀ m, fpspyInit e s m = .error stop := fun m => by
      rw [fpspyInit, ht]
      rfl
    refine .inr ⟨by rw [environAfter, hinit], fun m => ?_⟩
    rw [hinit]
    rfl
  | ok t =>
    have hkick : ∀ m, (readForceRounding e t m).config.kickstart = false := fun m =>
      ((kickstart_readForceRounding e t m).trans (kickstart_readVariables ht)).trans h
    have hinit : ∀ m, fpspyInit e s m =
        .ok (readAbort e (readKickstart e (readForceRounding e t m))) := fun m => by
      rw [fpspyInit, ht]
      rfl
    by_cases hasked : e.startsWith .fpspyKickstart 'y' = true
    · have hgranted : (readAbort e (readKickstart e
          (readForceRounding e t mxcsr))).config.kickstart = true := by
        rw [kickstart_readAbort, readKickstart, if_pos hasked]
      exact .inl (by simp only [environAfter, hinit, hgranted, if_true, Environment.started])
    · have hnone : ∀ m, (readAbort e (readKickstart e (readForceRounding e t m))).config.kickstart =
          false := fun m => by
        rw [kickstart_readAbort, readKickstart, if_neg hasked, hkick]
      refine .inr ⟨by simp [environAfter, hinit, hnone], fun m => ?_⟩
      rw [hinit]
      exact congrArg Except.ok (started_eq (hnone m))

end Exec

/-- The environment of the `n`-th program of a chain in which each executes the next; `mxcsr` is
what each of them starts with. -/
def generation (build : Config x64) (mxcsr : Nat → BitVec 32) (e : Environment) : Nat → Environment
  | 0 => e
  | n + 1 => environAfter (generation build mxcsr e n) (.initial build) (mxcsr n)

/-- One more program does not change it further. -/
theorem generation_cases (build : Config x64) (mxcsr : Nat → BitVec 32) (e : Environment)
    (n : Nat) : generation build mxcsr e (n + 1) = e.started ∨
      generation build mxcsr e (n + 1) = e ∧ ∀ m,
        (fpspyInit e (.initial build) m).map Settings.started = fpspyInit e (.initial build) m := by
  have hstep := fun e n => environAfter_cases (s := .initial build) e rfl (mxcsr n)
  induction n with
  | zero => exact hstep e 0
  | succ n ih =>
    rw [generation]
    rcases ih with hstarted | ⟨hsame, -⟩
    · have hagain : e.started.started = e.started := Function.update_idem _ _ _
      left
      rw [hstarted]
      rcases hstep e.started (n + 1) with hnext | ⟨hnext, -⟩
      · rw [hnext, hagain]
      · exact hnext
    · rw [hsame]
      exact hstep e (n + 1)

/-- All programs of a chain are configured alike, but only the first waits to be kick-started. -/
theorem fpspyInit_generation (build : Config x64) (mxcsr : Nat → BitVec 32) (e : Environment)
    (n : Nat) (m : BitVec 32) :
    fpspyInit (generation build mxcsr e (n + 1)) (.initial build) m =
      (fpspyInit e (.initial build) m).map Settings.started := by
  rcases generation_cases build mxcsr e n with hstarted | ⟨hsame, hnone⟩
  · rw [hstarted]
    exact fpspyInit_started e rfl m
  · rw [hsame, hnone]

end FPSpy.Configuration
