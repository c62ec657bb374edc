import FPSpy.Individual.ManyThreads

/-!
# Dying of the first event

With `FPSPY_ABORT=y` the handler of an FP trap calls `abort` before it does anything else. Up to
then the threads of a target on x64 do what they do without that setting, since no handler that
differs has run; so what `FPSpy.Individual.ManyThreads` has about them holds here as well.

No watched instruction raises a monitored exception and lives: the process dies in the first such
step, in whatever thread, and in no other.
-/
namespace FPSpy.X64

variable {ι : Type}

/-- The configuration without the setting. -/
def surviving (cfg : Config x64) : Config x64 := { cfg with abortOnFpe := false }

namespace Crew

structure Unstepped (s : Crew ι) : Prop where
  state : ∀ t, s.live t = true → s.state t ≠ some .awaitTrap
  due : ∀ t, s.live t = true → s.due t = false
  turns : ∀ k ∈ s.turns, k.stepped = false

theorem singled_mine [DecidableEq ι] {s : Crew ι} (h : s.Unstepped) (t : ι) :
    singled (s.mine t) = [] := by
  simp only [singled, mine, List.map_eq_nil_iff, List.filter_filter, List.filter_eq_nil_iff]
  intro k hk
  simp [h.turns k hk]

end Crew

section Steps

variable [DecidableEq ι] {cfg : Config x64} {libc : Libc x64} {P : Program} {a : Alone ι}
  {s s' : Crew ι} {mc : MonitoringContext} {f g : Flow x64} {env : Env}

/-- A trap is the end. -/
theorem fpTrap_of_abort (habort : cfg.abortOnFpe = true) (siCode : BitVec 32) :
    f.step cfg (.fpTrap env siCode) = none := by
  simp [Flow.step, fpTrapHandler, habort, Flow.resume]

namespace Crew

/-- What one thread's handler leaves of the others. -/
theorem Unstepped.handle {t : ι} {due shut : Bool} {ks : List ι} (h : s.Unstepped)
    (hstate : f.mc.map (·.state) ≠ some .awaitTrap) (hdue : due = false) :
    Unstepped { s.handle t due shut f with kicks := ks } where
  state u hu := by
    by_cases hut : u = t
    · subst hut
      simpa [Crew.state, Crew.handle, Process.put] using hstate
    · simpa [Crew.state, Crew.handle, Process.put, hut] using h.state u hu
  due u hu := by
    by_cases hut : u = t
    · subst hut
      simpa [Crew.handle] using hdue
    · simpa [Crew.handle, hut] using h.due u hu
  turns := h.turns

theorem Unstepped.commit {t : ι} (h : s.Unstepped) (ht : s.live t = true)
    (hflag : tf (s.cpu t).uc = false) : (s.commit P t).Unstepped where
  state u hu := by
    by_cases hut : u = t
    · subst hut
      simpa [Crew.state, Crew.commit, Process.put, Process.flow] using h.state u ht
    · simpa [Crew.state, Crew.commit, Process.put, hut] using h.state u hu
  due u hu := by
    by_cases hut : u = t
    · subst hut
      simpa [Crew.commit] using hflag
    · simpa [Crew.commit, hut] using h.due u hu
  turns k hk := by
    rcases List.mem_append.mp hk with hk | hk
    · exact h.turns k hk
    · obtain rfl := List.mem_singleton.mp hk
      simp [nextTurn, h.state t ht]

/-- A new thread is in INIT. -/
theorem Unstepped.create {t u : ι} {tid : Nat} {gregs : Greg → BitVec 64} (h : s.Unstepped)
    (halive : s.process.globals.aborted = false) :
    (s.create cfg libc t u tid gregs env).Unstepped where
  state v hv := by
    by_cases hvu : v = u
    · subst hvu
      cases hmc : bringupMonitoringContext cfg env tid .zero with
      | none => simp [Crew.state, Crew.create, halive, hmc]
      | some mc => simp [Crew.state, Crew.create, halive, hmc, (newContext_of_bringup hmc).state]
    · have hlive : s.live v = true := by simpa [Crew.create, hvu] using hv
      simpa [Crew.state, Crew.create, hvu] using h.state v hlive
  due v hv := by
    by_cases hvu : v = u
    · simp [Crew.create, hvu]
    · have hlive : s.live v = true := by simpa [Crew.create, hvu] using hv
      simpa [Crew.create, hvu] using h.due v hlive
  turns := h.turns

/-- What a run shows: the threads commit what they would commit alone, nothing is recorded, and no
watched instruction has raised a monitored exception. The next step of a thread is the end of the
process if it watches and its instruction raises one, and only then. -/
structure Dies (cfg : Config x64) (libc : Libc x64) (P : Program) (a : Alone ι) (s : Crew ι) :
    Prop where
  commits : s.turns.map (fun k => (k.thread, k.commit)) = a.native P s.schedule
  pushed : ∀ t, s.live t = true → (s.process.thread t).pushed = []
  quiet : ∀ k ∈ s.turns, k.watched = true → k.commit.raised &&& cfg.statics.mxcsrmaskBase = 0
  dies : ∀ t, s.live t = true → t ∉ s.kicks → ∀ env siCode,
    s.step cfg libc P (.cpu t env siCode) = none ↔
      s.watches t = true ∧ P.raises (s.cpu t) &&& cfg.statics.mxcsrmaskBase ≠ 0

theorem Holds.dies (h : Holds (surviving cfg) P a s) (hun : s.Unstepped)
    (habort : cfg.abortOnFpe = true) : Dies cfg libc P a s where
  commits := h.commits
  pushed t ht := by
    obtain ⟨mc, hm⟩ := h.member t ht
    have hne : mc.state ≠ .awaitTrap := by
      simpa [Crew.state, hm.mc_eq] using hun.state t ht
    have hpushed := hm.pushed_of_ne hne
    rw [singled_mine hun, pick_nil] at hpushed
    exact List.map_eq_nil_iff.mp hpushed
  quiet _ := h.missed
  dies t ht hkick env siCode := by
    have hunmasked : unmasked (s.cpu t).uc =
        if s.watches t then cfg.statics.mxcsrmaskBase else 0 := h.unmasked_eq ht hkick
    simp only [Crew.step, ht, if_true, hun.due t ht, Bool.false_eq_true, if_false,
      fpTrap_of_abort habort, Option.map_none, hunmasked]
    cases s.watches t <;> simp

end Crew

end Steps

end FPSpy.X64
