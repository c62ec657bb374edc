import FPSpy.Individual.Lifetime
import FPSpy.Machine.X64

/-!
# Traps are unmasked under supervision

A thread whose traps are unmasked should have a monitoring context, or its next FP trap
finds nobody to handle it. Masks are inherited, contexts are not: a thread created or
forked by one with open traps runs with open traps before `trampoline` or `fork` brings its
context up, and for good if that fails. Teardown removes the context and leaves the masks,
on thread exit and in `fpspy_deinit`; and an abort after `fpspy_deinit` initialises FPSpy
again, which wipes the contexts of all other threads.

Where none of that meets an open trap, every state of every run is supervised.
-/
namespace FPSpy

section

variable {A : Arch} {cfg : Config A} {env : Env} {libc : Libc A}

/-- libc's `feclearexcept` clears sticky flags and no mask. -/
def Libc.ClearsFlagsOnly (cfg : Config A) (libc : Libc A) : Prop :=
  ∀ uc, A.trapsUnmasked cfg.statics (libc.feclearexceptEnabled uc) = A.trapsUnmasked cfg.statics uc

namespace Proc

variable {p q : Proc A} {t u : Nat} {l : Live A} {f : Flow A}

/-- Every thread with an open trap has a context that is not in ABORT. -/
def Supervised (cfg : Config A) (p : Proc A) : Prop :=
  ∀ t l, p.thread t = some l → A.trapsUnmasked cfg.statics l.uc = true →
    ∃ mc, Table.findMonitoringContext t p.table = some mc ∧ mc.state ≠ .abort

def Masked (cfg : Config A) (p : Proc A) (t : Nat) : Prop :=
  ∀ l, p.thread t = some l → A.trapsUnmasked cfg.statics l.uc = false

/-- A step that may take a context away, or pass masks on, is not made with open traps: by
the thread itself, or, if it makes an abort initialise FPSpy again, by any other. -/
def Careful (cfg : Config A) (p : Proc A) : ProcEvent → Prop
  | .trap t (.fpTrap _ _) => p.globals.inited = false →
    (∀ mc, Table.findMonitoringContext t p.table = some mc → mc.state ≠ .awaitFpe) →
      ∀ u, u ≠ t → p.Masked cfg u
  | .trap t (.brkTrap _) => p.globals.inited = false →
    (∀ mc, Table.findMonitoringContext t p.table = some mc → mc.state = .awaitFpe) →
      ∀ u, u ≠ t → p.Masked cfg u
  | .trap _ (.expiry _) => True
  | .pthreadCreate t _ => p.Masked cfg t
  | .setUp t _ => p.Masked cfg t
  | .pthreadExit t => p.Masked cfg t
  | .gone _ => True
  | .sigint t => p.globals.inited = true → p.Masked cfg t

structure Sound (cfg : Config A) (p : Proc A) : Prop where
  zero : p.thread 0 = none
  round : A.IsRoundConfig p.globals.origRoundConfig
  supervised : p.Supervised cfg

/-! ## Handlers -/

def Watched (cfg : Config A) (f g : Flow A) : Prop :=
  A.IsRoundConfig g.origRoundConfig ∧
    (g.trapsUnmasked cfg = true →
      ∃ mc mc', f.mc = some mc ∧ g.mc = some mc' ∧ mc'.state ≠ .abort)

theorem watched_of_masked {f g : Flow A} (hround : A.IsRoundConfig g.origRoundConfig)
    (h : g.trapsUnmasked cfg = false) : Watched cfg f g :=
  ⟨hround, fun hopen => by simp [h] at hopen⟩

theorem watched_brkTrapHandler (hround : A.IsRoundConfig f.origRoundConfig) :
    Watched cfg f (brkTrapHandler cfg env f).1 := by
  unfold brkTrapHandler
  cases hmc : f.mc with
  | none => exact watched_of_masked hround (disarmed_standDownNull cfg hround hmc).1
  | some mc =>
    dsimp only
    cases hs : mc.state with
    | init => exact ⟨A.isRoundConfig_get _ _, fun _ => ⟨mc, _, hmc, rfl, by simp⟩⟩
    | awaitFpe => exact watched_of_masked hround (disarmed_standDown cfg hround _).1
    | abort => exact watched_of_masked hround (disarmed_standDown cfg hround _).1
    | awaitTrap =>
      obtain ⟨mc', hend⟩ := brkAwaitTrap_spec cfg env hround mc
      refine ⟨hend.origRoundConfig.symm ▸ hround, fun _ => ⟨mc, mc', hmc, hend.mc_eq, ?_⟩⟩
      simp [hend.state]

/-- An FP trap that is survived leaves the traps masked. -/
theorem masked_fpTrapHandler {siCode : BitVec 32} (hround : A.IsRoundConfig f.origRoundConfig)
    (hlives : (fpTrapHandler cfg env siCode f).2 = .ret ∨
      ∃ reason, (fpTrapHandler cfg env siCode f).2 = .abortOperation reason) :
    A.IsRoundConfig (fpTrapHandler cfg env siCode f).1.origRoundConfig ∧
      (fpTrapHandler cfg env siCode f).1.trapsUnmasked cfg = false := by
  have hpath := fpTrapHandler_path cfg env siCode f
  generalize fpTrapHandler cfg env siCode f = r at hpath hlives ⊢
  cases hpath with
  | dies hexit => obtain rfl | rfl := hexit <;> simp at hlives
  | bare hmc => exact ⟨hround, (disarmed_standDownNull cfg hround hmc).1⟩
  | beginStep => exact ⟨hround, masked_beginStep _⟩
  | surprise => exact ⟨hround, (disarmed_standDown cfg hround _).1⟩

/-- A breakpoint trap aborts where there is no context, and in AWAIT_FPE. -/
theorem brkTrapHandler_aborts {reason : String}
    (h : (brkTrapHandler cfg env f).2 = .abortOperation reason) :
    (brkTrapHandler cfg env f).1.inited = f.inited ∧
      ∀ mc, f.mc = some mc → mc.state = .awaitFpe := by
  unfold brkTrapHandler at h ⊢
  cases hmc : f.mc with
  | none => exact ⟨rfl, fun mc hnone => absurd hnone.symm (Option.some_ne_none mc)⟩
  | some mc =>
    simp only [hmc] at h ⊢
    cases hs : mc.state <;> simp only [hs] at h ⊢ <;> cases h
    refine ⟨rfl, fun mc' hmc' => ?_⟩
    exact Option.some.inj hmc' ▸ hs

/-- Before it aborts, the traps are masked. -/
theorem masked_brkTrapHandler {reason : String}
    (h : (brkTrapHandler cfg env f).2 = .abortOperation reason)
    (hround : A.IsRoundConfig f.origRoundConfig) :
    (brkTrapHandler cfg env f).1.trapsUnmasked cfg = false := by
  cases hmc : f.mc with
  | none =>
    have hdown := (disarmed_standDownNull cfg hround hmc).1
    simp only [brkTrapHandler, hmc]
    exact hdown
  | some mc =>
    rw [brkTrapHandler_awaitFpe env hmc ((brkTrapHandler_aborts h).2 mc hmc)]
    exact (disarmed_standDown cfg hround _).1

/-- An FP trap aborts where there is no context, and in the other states. -/
theorem fpTrapHandler_aborts {siCode : BitVec 32} {reason : String}
    (h : (fpTrapHandler cfg env siCode f).2 = .abortOperation reason) :
    (fpTrapHandler cfg env siCode f).1.inited = f.inited ∧
      ∀ mc, f.mc = some mc → mc.state ≠ .awaitFpe := by
  refine ⟨(handlerFrame_fpTrapHandler cfg env siCode f).sameProcess.inited, fun mc' hmc' => ?_⟩
  have hpath := fpTrapHandler_path cfg env siCode f
  generalize fpTrapHandler cfg env siCode f = r at hpath h
  cases hpath with
  | dies hexit => obtain rfl | rfl := hexit <;> cases h
  | bare hmc => exact absurd (hmc.symm.trans hmc') (Option.some_ne_none mc').symm
  | beginStep => cases h
  | surprise buffer written hmc hstate => exact Option.some.inj (hmc.symm.trans hmc') ▸ hstate

theorem watched_sigalrmHandler (hround : A.IsRoundConfig f.origRoundConfig)
    (h : f.trapsUnmasked cfg = true → ∃ mc, f.mc = some mc ∧ mc.state ≠ .abort) :
    Watched cfg f (sigalrmHandler cfg env f) := by
  unfold sigalrmHandler
  cases hmc : f.mc with
  | none =>
    refine ⟨hround, fun hopen => ?_⟩
    obtain ⟨mc, hmc', -⟩ := h hopen
    simp [hmc] at hmc'
  | some mc =>
    dsimp only
    split_ifs with hs
    · refine ⟨hround, fun hopen => ⟨mc, _, hmc, rfl, ?_⟩⟩
      obtain ⟨mc', hmc', hstate⟩ := h hopen
      rw [hmc] at hmc'
      exact Option.some.inj hmc' ▸ hstate
    · refine ⟨hround, fun _ => ⟨mc, _, hmc, rfl, ?_⟩⟩
      simp [not_not.mp hs]

theorem Sound.put (h : p.Sound cfg) (hl : p.thread t = some l)
    (hw : Watched cfg (p.flow t l) f) : (p.put t l f).Sound cfg where
  zero := by
    rw [thread_put_of_ne f, h.zero]
    rintro rfl
    simp [h.zero] at hl
  round := hw.1
  supervised := by
    intro u l' hl' hopen
    by_cases hu : u = t
    · subst hu
      have huc : l'.uc = f.uc := by
        simp only [Proc.put, Function.update_self, Option.some.injEq] at hl'
        exact hl' ▸ rfl
      rw [huc] at hopen
      obtain ⟨mc, mc', hmc, hmc', hstate⟩ := hw.2 hopen
      have hfind : Table.findMonitoringContext u p.table = some mc := hmc
      refine ⟨{ mc' with tid := u }, ?_, hstate⟩
      simp [Proc.put, hmc', Table.find_store_self, hfind]
    · rw [thread_put_of_ne f hu] at hl'
      rw [find_put_of_ne f hu]
      exact h.supervised u l' hl' hopen

/-! ## Aborts -/

/-- An abort in a thread whose traps are masked. -/
theorem Sound.abortOperation (h : p.Sound cfg) (hmasked : p.Masked cfg t)
    (hothers : p.globals.inited = false → ∀ u, u ≠ t → p.Masked cfg u) :
    (abortOperation (abortOps cfg env t) p).Sound cfg := by
  have hkept := keptByAbort_abortOperation cfg env t p
  refine ⟨hkept.thread ▸ h.zero, hkept.round.symm ▸ h.round, fun u l hl hopen => ?_⟩
  rw [hkept.thread] at hl
  by_cases hu : u = t
  · subst hu
    simp [hmasked l hl] at hopen
  by_cases hi : p.globals.inited = true
  · rw [hkept.find hi u hu]
    exact h.supervised u l hl hopen
  · have := hothers (by simpa using hi) u hu l hl
    simp [this] at hopen

/-! ## Steps -/

theorem masked_put (hmasked : f.trapsUnmasked cfg = false) : (p.put t l f).Masked cfg t := by
  intro l' hl'
  simp only [put, Function.update_self, Option.some.injEq] at hl'
  exact hl' ▸ hmasked

/-- A handler that stands down may abort. -/
theorem Sound.settle {r : Flow A × HandlerExit} (h : p.Sound cfg) (hl : p.thread t = some l)
    (hw : Watched cfg (p.flow t l) r.1)
    (hmasked : ∀ reason, r.2 = .abortOperation reason → r.1.trapsUnmasked cfg = false ∧
      (r.1.inited = false → ∀ u, u ≠ t → p.Masked cfg u))
    (hstep : p.settle cfg env t l r = some q) : q.Sound cfg := by
  unfold Proc.settle at hstep
  split at hstep
  · obtain rfl := Option.some.inj hstep
    exact h.put hl hw
  · next reason hexit =>
    obtain rfl := Option.some.inj hstep
    obtain ⟨hm, hothers⟩ := hmasked reason hexit
    refine (h.put hl hw).abortOperation (masked_put hm) fun hi u hu l' hl' => ?_
    rw [thread_put_of_ne _ hu] at hl'
    exact hothers hi u hu l' hl'
  all_goals cases hstep

theorem Sound.trap {e : ThreadEvent} (h : p.Sound cfg) (hl : p.thread t = some l)
    (hcareful : p.Careful cfg (.trap t e)) (hstep : p.trap cfg t l e = some q) : q.Sound cfg := by
  have hround : A.IsRoundConfig (p.flow t l).origRoundConfig := h.round
  cases trap_effect hstep with
  | fpTrap hopen hours hq =>
    obtain ⟨hround', hmasked⟩ := masked_fpTrapHandler hround (settle_lives hq)
    refine h.settle hl (watched_of_masked hround' hmasked) (fun reason hexit => ?_) hq
    obtain ⟨hinited, hstate⟩ := fpTrapHandler_aborts hexit
    exact ⟨hmasked, fun hi => hcareful (hinited.symm.trans hi) hstate⟩
  | brkTrap hours hq =>
    refine h.settle hl (watched_brkTrapHandler hround) (fun reason hexit => ?_) hq
    obtain ⟨hinited, hstate⟩ := brkTrapHandler_aborts hexit
    exact ⟨masked_brkTrapHandler hexit hround, fun hi => hcareful (hinited.symm.trans hi) hstate⟩
  | expiry => exact h.put hl (watched_sigalrmHandler hround (h.supervised t l hl))

/-- A step that only concerns thread `t`, whose traps are masked after it. -/
theorem Sound.of_masked (h : p.Sound cfg) (hzero : q.thread 0 = none)
    (hround : q.globals.origRoundConfig = p.globals.origRoundConfig) (ht : q.Masked cfg t)
    (hothers : ∀ u, u ≠ t → u ≠ 0 → q.thread u = p.thread u ∧
      Table.findMonitoringContext u q.table = Table.findMonitoringContext u p.table) :
    q.Sound cfg := by
  refine ⟨hzero, hround.symm ▸ h.round, fun u l hl hopen => ?_⟩
  by_cases hu : u = t
  · subst hu
    simp [ht l hl] at hopen
  have hu₀ : u ≠ 0 := by
    rintro rfl
    simp [hzero] at hl
  obtain ⟨hthread, hfind⟩ := hothers u hu hu₀
  rw [hfind]
  exact h.supervised u l (hthread ▸ hl) hopen

theorem Sound.fpspyDeinit (h : p.Sound cfg) (hmasked : p.globals.inited = true → p.Masked cfg t) :
    (p.fpspyDeinit cfg t).Sound cfg := by
  by_cases hi : p.globals.inited = true
  · refine h.of_masked (t := t) h.zero rfl (hmasked hi) fun u hu hu₀ => ⟨rfl, ?_⟩
    simp only [Proc.fpspyDeinit, hi, if_true]
    exact Table.find_teardown_of_ne hu hu₀
  · refine ⟨h.zero, h.round, fun u l hl hopen => ?_⟩
    simp only [Proc.fpspyDeinit, hi]
    exact h.supervised u l hl hopen

theorem Sound.step {e : ProcEvent} (hlibc : libc.ClearsFlagsOnly cfg) (h : p.Sound cfg)
    (hcareful : p.Careful cfg e) (hstep : p.step cfg libc e = some q) : q.Sound cfg := by
  have hne : ∀ {t l}, p.thread t = some l → t ≠ 0 := by
    rintro t l hl rfl
    simp [h.zero] at hl
  cases Proc.step_effect hstep with
  | trap hl hq => exact h.trap hl hcareful hq
  | @pthreadCreate t u l hl hphase hu hnew =>
    refine h.of_masked (t := u) ?_ rfl ?_ fun v hv _ => ⟨by simp [hv], rfl⟩
    · simp [hu.symm, h.zero]
    · intro l' hl'
      simp only [Function.update_self, Option.some.injEq] at hl'
      exact hl' ▸ hcareful l hl
  | @setUp t env l hl hphase =>
    refine h.of_masked (t := t) ?_ rfl ?_ fun v hv hv₀ => ⟨by simp [setUp, hv], ?_⟩
    · simp [setUp, (hne hl).symm, h.zero]
    · intro l' hl'
      simp only [setUp, Function.update_self, Option.some.injEq] at hl'
      rw [← hl']
      exact (hlibc l.uc).trans (hcareful l hl)
    · exact Table.find_bringup_of_ne hv hv₀
  | @pthreadExit t l hl hphase =>
    refine h.of_masked (t := t) ?_ rfl ?_ fun v hv hv₀ => ⟨by simp [Proc.pthreadExit, hv], ?_⟩
    · simp [Proc.pthreadExit, (hne hl).symm, h.zero]
    · intro l' hl'
      simp only [Proc.pthreadExit, Function.update_self, Option.some.injEq] at hl'
      exact hl' ▸ hcareful l hl
    · exact Table.find_teardown_of_ne hv hv₀
  | @gone t l hl hphase =>
    refine h.of_masked (t := t) ?_ rfl ?_ fun v hv _ => ⟨by simp [hv], rfl⟩
    · simp [(hne hl).symm, h.zero]
    · intro l' hl'
      simp at hl'
  | sigint => exact h.fpspyDeinit hcareful

end Proc

namespace System

variable {s u : System A}

def Careful (cfg : Config A) (s : System A) : SystemEvent → Prop
  | .proc pid e => ∀ p, s pid = some p → p.Careful cfg e
  | .fork pid t _ => ∀ p, s pid = some p → p.Masked cfg t
  | .die _ => True

def Sound (cfg : Config A) (s : System A) : Prop := ∀ pid p, s pid = some p → p.Sound cfg

theorem Sound.step {e : SystemEvent} (hlibc : libc.ClearsFlagsOnly cfg) (h : Sound cfg s)
    (hcareful : Careful cfg s e) (hstep : s.step cfg libc e = some u) : Sound cfg u := by
  apply forall_of_step hstep h
  · rintro pid e' p q rfl hp hq
    exact (h pid p hp).step hlibc (hcareful p hp) hq
  · rintro pid t child p l rfl hp hl hchild
    refine ⟨by simp [hchild.symm], (h pid p hp).round, fun v l' hl' hopen => ?_⟩
    -- the only thread of the child has its parent's masks
    by_cases hv : v = child
    · subst hv
      simp only [Function.update_self, Option.some.injEq] at hl'
      have hmasked := hcareful p hp l hl
      rw [← hl'] at hopen
      simp [Proc.child, hmasked] at hopen
    · simp [hv] at hl'

theorem sound_start {pid maxContexts : Nat} {uc : A.UContext} {inherited : Signal → SigAction}
    {code : Mem} (hpid : pid ≠ 0) (huc : A.trapsUnmasked cfg.statics uc = false) :
    Sound cfg (start cfg env pid (fresh maxContexts pid uc inherited code)) := by
  intro i p hp
  by_cases hi : i = pid
  · subst hi
    simp only [start, Function.update_self, Option.some.injEq] at hp
    have hkept := Proc.keptByAbort_bringup cfg env i
      (p := fresh maxContexts i uc inherited code) rfl
    rw [hp] at hkept
    refine ⟨?_, ?_, fun t l hl hopen => ?_⟩
    · rw [hkept.thread]
      simp [fresh, hpid.symm]
    · rw [hkept.round]
      exact A.isRoundConfig_zero
    · rw [hkept.thread] at hl
      by_cases ht : t = i
      · subst ht
        simp only [fresh, Function.update_self, Option.some.injEq] at hl
        rw [← hl] at hopen
        simp [huc] at hopen
      · simp [fresh, ht] at hl
  · simp [start, hi] at hp

/-- In every run whose steps are careful, a thread with an open trap has a context that is not
in ABORT, in every process. A program starts with all traps masked. -/
theorem run_supervised (hlibc : libc.ClearsFlagsOnly cfg) (maxContexts : Nat) {pid : Nat}
    (hpid : pid ≠ 0) {uc : A.UContext} (huc : A.trapsUnmasked cfg.statics uc = false)
    (inherited : Signal → SigAction) (code : Mem) {es : List SystemEvent}
    (hadm : Run.Admits (step cfg libc) (Careful cfg)
      (start cfg env pid (fresh maxContexts pid uc inherited code)) es)
    (hrun : Run.run (step cfg libc) (start cfg env pid (fresh maxContexts pid uc inherited code))
      es = some u) {i : Nat} {p : Proc A} (hp : u i = some p) : p.Supervised cfg :=
  (Run.invariant_of_admits (I := Sound cfg) (fun _ _ _ hs hg hst => hs.step hlibc hg hst) hadm
    (sound_start hpid huc) hrun i p hp).supervised

end System

end

/-! ## Thread creation on x64 -/

namespace X64

def startup : UContext := ⟨fun _ => 0, 0x1f80⟩

theorem masked_startup : x64.trapsUnmasked plain.statics startup = false := by decide

def program : Proc x64 := System.fresh 4 1 startup (fun _ => .zero) fun _ => 0

def noFileEnv : Env := ⟨0, 0, 0, 0, none⟩

theorem clearsFlagsOnly_libc : libc.ClearsFlagsOnly plain := by
  intro uc
  exact trapsUnmasked_congr (Bits.andNot_and_of_disjoint _ (by decide))

def createMasked : List SystemEvent :=
  [.proc 1 (.pthreadCreate 1 2), .proc 1 (.setUp 2 quietEnv), .proc 1 (.trap 2 (.brkTrap quietEnv))]

theorem masked_of_eval {s : System x64} {t : Nat}
    (h : ((s 1).bind (·.thread t)).map (fun l => x64.trapsUnmasked plain.statics l.uc) =
      some false) : ∀ p, s 1 = some p → p.Masked plain t := by
  intro p hp l hl
  simpa [hp, hl] using h

theorem careful_createMasked :
    Run.Admits (System.step plain libc) (System.Careful plain)
      (System.start plain quietEnv 1 program) createMasked := by
  refine ⟨masked_of_eval (by decide), fun s₁ h₁ => ⟨masked_of_eval ?_, fun s₂ h₂ =>
    ⟨fun p hp hi => ?_, fun _ _ => trivial⟩⟩⟩
  · have hmasked : ((System.step plain libc (System.start plain quietEnv 1 program)
        (.proc 1 (.pthreadCreate 1 2))).bind fun s => ((s 1).bind (·.thread 2)).map
          fun l => x64.trapsUnmasked plain.statics l.uc) = some false := by decide
    rwa [h₁] at hmasked
  · have hinited : ((Run.run (System.step plain libc) (System.start plain quietEnv 1 program)
        [.proc 1 (.pthreadCreate 1 2), .proc 1 (.setUp 2 quietEnv)]).bind
          fun s => (s 1).map (·.globals.inited)) = some true := by decide
    rw [Run.run_cons.mpr ⟨s₁, h₁, Run.run_cons.mpr ⟨s₂, h₂, rfl⟩⟩] at hinited
    simp [hp, hi] at hinited

theorem run_supervised_createMasked :
    ∃ u p, Run.run (System.step plain libc) (System.start plain quietEnv 1 program)
        createMasked = some u ∧ u 1 = some p ∧ p.Supervised plain := by
  have hrun : ((Run.run (System.step plain libc) (System.start plain quietEnv 1 program)
      createMasked).bind (· 1)).isSome = true := by decide
  obtain ⟨p, hp⟩ := Option.isSome_iff_exists.mp hrun
  obtain ⟨u, hu, hp⟩ := Option.bind_eq_some_iff.mp hp
  exact ⟨u, p, hu, hp, System.run_supervised clearsFlagsOnly_libc 4 (by decide) masked_startup _ _
    careful_createMasked hu hp⟩

/-- A thread with open traps creates another, whose trace file cannot be opened: it goes on
with open traps and no context. -/
theorem not_supervised_failedBringup :
    ∃ u p, Run.run (System.step plain libc) (System.start plain quietEnv 1 program)
        [.proc 1 (.trap 1 (.brkTrap quietEnv)), .proc 1 (.pthreadCreate 1 2),
          .proc 1 (.setUp 2 noFileEnv)] = some u ∧ u 1 = some p ∧ ¬ p.Supervised plain := by
  have hrun : (((Run.run (System.step plain libc) (System.start plain quietEnv 1 program)
      [.proc 1 (.trap 1 (.brkTrap quietEnv)), .proc 1 (.pthreadCreate 1 2),
        .proc 1 (.setUp 2 noFileEnv)]).bind (· 1)).map fun p =>
          ((p.thread 2).map fun l => (x64.trapsUnmasked plain.statics l.uc, l.phase),
            Table.findMonitoringContext 2 p.table)) = some (some (true, .running), none) := by
    decide
  obtain ⟨p, hp, hval⟩ := Option.map_eq_some_iff.mp hrun
  obtain ⟨u, hu, hp⟩ := Option.bind_eq_some_iff.mp hp
  obtain ⟨hthread, hfind⟩ := Prod.mk.inj hval
  obtain ⟨l, hl, hopen⟩ := Option.map_eq_some_iff.mp hthread
  refine ⟨u, p, hu, hp, fun h => ?_⟩
  obtain ⟨mc, hmc, -⟩ := h 2 l hl (Prod.mk.inj hopen).1
  simp [hfind] at hmc

end X64
end FPSpy
