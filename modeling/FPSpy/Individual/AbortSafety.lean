import FPSpy.Individual.Process

/-!
# Abort and the other threads

`aborted` and the dispositions belong to the process, masks and trap mode to a thread.
An abort disarms the thread it runs in; what the others have armed stays armed, with the
handlers gone. Later a timer can still switch a sampler ON: `sigalrm_handler` stays
installed and does not look at `aborted`.

An abort is safe for every thread in every run in which the others are disarmed when it
comes, and no sampler is switched ON after it.
-/
namespace FPSpy

section

variable {ι : Type} {A : Arch} {cfg : Config A} {libc : Libc A}

/-- Once the process has aborted, every thread is disarmed. -/
def Process.AbortSafe (cfg : Config A) (p : Process ι A) : Prop :=
  p.globals.aborted = true → ∀ t, (p.flow t).Disarmed cfg

def Process.OthersDisarmed (cfg : Config A) (p : Process ι A) (t : ι) : Prop :=
  ∀ u, u ≠ t → (p.flow u).Disarmed cfg

/-- The step that aborts finds the other threads disarmed, and no step after it switches a
sampler ON. A trap aborts when it comes in a state that does not expect it. -/
def Process.Harmless (cfg : Config A) (p : Process ι A) : ProcessEvent ι → Prop
  | .call t _ => p.globals.aborted = false → p.OthersDisarmed cfg t
  | .thread t (.fpTrap _ _) =>
    (∃ mc, (p.thread t).mc = some mc ∧ mc.state ≠ .awaitFpe) → p.OthersDisarmed cfg t
  | .thread t (.brkTrap _) =>
    (∃ mc, (p.thread t).mc = some mc ∧ mc.state = .awaitFpe) → p.OthersDisarmed cfg t
  | .thread t (.expiry _) => p.globals.aborted = true →
    ¬ ∃ mc, (p.thread t).mc = some mc ∧ mc.state = .awaitFpe ∧ mc.sampler.state = .off

/-- The invariant: before the abort the dispositions are FPSpy's, after it they are not. -/
structure Process.Guarded (cfg : Config A) (p : Process ι A) : Prop where
  inited : p.globals.inited = true
  round : A.IsRoundConfig p.globals.origRoundConfig
  oldsaFpe : p.globals.oldsaFpe.Foreign
  oldsaTrap : p.globals.oldsaTrap.Foreign
  contexts : ∀ t, ∃ mc, (p.thread t).mc = some mc ∧
    (p.globals.aborted = false → mc.abortingInTrap = false)
  ours : p.globals.aborted = false → p.globals.sigaction .sigtrap = cfg.sigtrapAction
  restored : p.globals.aborted = true →
    (p.globals.sigaction .sigfpe).Foreign ∧ (p.globals.sigaction .sigtrap).Foreign
  safe : p.AbortSafe cfg

variable (libc) in
/-- An intercepted call disarms its own thread. -/
theorem interceptedCall_spec (env : Env) {mc : MonitoringContext} {f : Flow A}
    (hi : f.inited = true) (ha : f.aborted = false) (hround : A.IsRoundConfig f.origRoundConfig)
    (hmc : f.mc = some mc) (htrap : mc.abortingInTrap = false)
    (hours : f.sigaction .sigtrap = cfg.sigtrapAction) :
    Kept cfg mc f (f.interceptedCall cfg env libc) ∧
      (f.interceptedCall cfg env libc).aborted = true := by
  obtain ⟨buffer, pushed, written, hbegin, -⟩ :=
    beginAbort_eq cfg env f libc mc
  rw [Flow.interceptedCall, abortOperation_eq _ _ hi ha hmc, hbegin, htrap]
  simp only [Bool.false_eq_true, if_false]
  -- the kick finds the context in ABORT and stands down
  have hhandler : (Function.update f.sigaction .sigfpe f.oldsaFpe .sigtrap).handler =
      .sigtrapHandler := by
    simp [hours, Config.sigtrapAction]
  simp only [Flow.kickDelivered, hhandler, if_true, brkTrapHandler, Flow.settle, Flow.resume,
    Option.getD_some]
  have hdown := disarmed_standDown cfg
    (f := { f with
      uc := libc.feclearexceptAll (libc.fedisableexceptAll f.uc)
      sigaction := Function.update f.sigaction .sigfpe f.oldsaFpe
      mc := some { mc with state := .abort, abortingInTrap := false, traceRecords := buffer }
      pushed := pushed
      written := written })
    hround { mc with state := .abort, abortingInTrap := false, traceRecords := buffer }
  refine ⟨⟨hi, hround, rfl, rfl, ⟨_, rfl, by simp⟩, by simp, fun _ => ⟨?_, ?_, hdown⟩⟩, trivial⟩
  · simp [standDown]
  · simp [standDown]

variable {p q : Process ι A}

variable [DecidableEq ι]

/-- A step in thread `t` of a process that had not aborted. -/
theorem Process.Guarded.of_kept {t : ι} {mc : MonitoringContext} {g : Flow A}
    (h : p.Guarded cfg) (ha : p.globals.aborted = false) (htrap : mc.abortingInTrap = false)
    (hkept : Kept cfg mc (p.flow t) g) (hothers : g.aborted = true → p.OthersDisarmed cfg t) :
    (p.put t g).Guarded cfg where
  inited := hkept.inited
  round := hkept.round
  oldsaFpe := hkept.oldsaFpe.symm ▸ h.oldsaFpe
  oldsaTrap := hkept.oldsaTrap.symm ▸ h.oldsaTrap
  contexts := by
    intro u
    by_cases hu : u = t
    · subst hu
      obtain ⟨mc', hmc', hkeep⟩ := hkept.mc
      refine ⟨mc', ?_, fun ha' => (hkeep ha').trans htrap⟩
      simpa [put] using hmc'
    · obtain ⟨mc', hmc', hkeep⟩ := h.contexts u
      refine ⟨mc', ?_, fun _ => hkeep ha⟩
      rwa [p.thread_put_of_ne g hu]
  ours := fun ha' => (congrFun (hkept.sigaction ha') _).trans (h.ours ha)
  restored := by
    intro ha'
    obtain ⟨hfpe, htrap, -⟩ := hkept.restored ha'
    exact ⟨hfpe.symm ▸ h.oldsaFpe, htrap.symm ▸ h.oldsaTrap⟩
  safe := by
    intro ha' u
    by_cases hu : u = t
    · subst hu
      rw [flow_put_self]
      exact (hkept.restored ha').2.2
    · rw [p.disarmed_put_of_ne g hu]
      exact hothers ha' u hu

/-- After the abort only a timer can reach FPSpy, and it finds nothing to switch ON. -/
theorem Process.Guarded.expiry {t : ι} {env : Env} {g : Flow A} (h : p.Guarded cfg)
    (ha : p.globals.aborted = true) (hsafe : p.Harmless cfg (.thread t (.expiry env)))
    (hstep : (p.flow t).step cfg (.expiry env) = some g) : (p.put t g).Guarded cfg := by
  obtain ⟨mc, hmc, -⟩ := h.contexts t
  obtain ⟨hsame, hround, hcontext, hdisarmed⟩ : SameProcess (p.flow t) g ∧
      g.origRoundConfig = (p.flow t).origRoundConfig ∧ (∃ mc', g.mc = some mc') ∧
      g.Disarmed cfg := by
    have hbefore := h.safe ha t
    cases Flow.step_effect hstep hmc with
    | delay hstate =>
      refine ⟨⟨rfl, rfl, rfl, rfl, rfl, rfl⟩, rfl, ⟨_, rfl⟩, hbefore.1, ?_⟩
      have := hbefore.2
      rw [Flow.singleStepping, show (p.flow t).mc = some mc from hmc] at this
      exact this
    | flip hstate =>
      have hon : mc.sampler.state = .on := by
        cases hs : mc.sampler.state
        · exact absurd ⟨mc, hmc, hstate, hs⟩ (hsafe ha)
        · rfl
      exact ⟨sameProcess_updateSampler mc, rfl, ⟨_, rfl⟩, masked_updateSampler_of_on hon,
        stepping_updateSampler _⟩
  exact
    { inited := hsame.inited.trans h.inited
      round := hround.symm ▸ h.round
      oldsaFpe := hsame.oldsaFpe.symm ▸ h.oldsaFpe
      oldsaTrap := hsame.oldsaTrap.symm ▸ h.oldsaTrap
      contexts := by
        have ha' : g.aborted = true := hsame.aborted.trans ha
        intro u
        by_cases hu : u = t
        · subst hu
          obtain ⟨mc', hmc'⟩ := hcontext
          exact ⟨mc', by simpa [put] using hmc', by simp [ha']⟩
        · obtain ⟨mc', hmc', -⟩ := h.contexts u
          exact ⟨mc', by rwa [p.thread_put_of_ne g hu], by simp [ha']⟩
      ours := fun hn => absurd (hsame.aborted.symm.trans hn) (by simp [Process.flow, ha])
      restored := fun _ => by
        rw [globals_put, hsame.sigaction]
        exact h.restored ha
      safe := by
        intro _ u
        by_cases hu : u = t
        · subst hu
          rwa [flow_put_self]
        · rw [p.disarmed_put_of_ne g hu]
          exact h.safe ha u }

/-- One step keeps the invariant. -/
theorem Process.Guarded.step {e : ProcessEvent ι} (h : p.Guarded cfg) (hsafe : p.Harmless cfg e)
    (hstep : p.step cfg libc e = some q) : q.Guarded cfg := by
  cases ha : p.globals.aborted with
  | false =>
    cases e with
    | call t env =>
      obtain rfl := Option.some.inj hstep
      obtain ⟨mc, hmc, htrap⟩ := h.contexts t
      obtain ⟨hkept, -⟩ := interceptedCall_spec libc env (f := p.flow t) h.inited
        ha h.round hmc (htrap ha) (h.ours ha)
      exact h.of_kept ha (htrap ha) hkept fun _ => hsafe ha
    | thread t e =>
      obtain ⟨g, hg, rfl⟩ := Option.map_eq_some_iff.mp hstep
      obtain ⟨mc, hmc, htrap⟩ := h.contexts t
      have heff := Flow.step_effect hg hmc
      refine h.of_kept ha (htrap ha) (heff.kept h.inited ha h.round) fun hga => ?_
      -- only the two surprise paths abort
      cases heff with
      | surpriseFpe buffer written hstate hopen => exact hsafe ⟨mc, hmc, hstate⟩
      | surpriseTrap hstate => exact hsafe ⟨mc, hmc, hstate⟩
      | @endStep env hstate =>
        obtain ⟨mc', hend⟩ := brkAwaitTrap_spec cfg env (f := p.flow t) h.round mc
        exact absurd (hend.same.aborted.symm.trans hga) (by simp [Process.flow, ha])
      | beginStep | aborted | kick | delay | flip =>
        exact absurd (show p.globals.aborted = true from hga) (by simp [ha])
  | true =>
    cases e with
    | call t env =>
      obtain rfl := Option.some.inj hstep
      have hsame : (p.flow t).interceptedCall cfg env libc = p.flow t :=
        abortOperation_of_aborted _ h.inited ha
      have hput : p.put t (p.flow t) = p := by
        simp [Process.put, Process.flow]
      rwa [hsame, hput]
    | thread t e =>
      obtain ⟨g, hg, rfl⟩ := Option.map_eq_some_iff.mp hstep
      cases Flow.handlerStep_of_step hg with
      | fpTrap hopen hours => exact absurd hours (h.restored ha).1.1
      | brkTrap hours => exact absurd hours (h.restored ha).2.2
      | expiry => exact h.expiry ha hsafe hg

end

/-! ## Two threads on x64 -/

namespace X64

def twoThreads (cfg : Config x64) : Process Bool x64 where
  globals := (monitored cfg).toGlobals
  thread _ := (monitored cfg).toThread

theorem started_twoThreads (cfg : Config x64) (t : Bool) :
    ∃ mc, Started cfg mc ((twoThreads cfg).flow t) := started_monitored cfg

end X64

end FPSpy
