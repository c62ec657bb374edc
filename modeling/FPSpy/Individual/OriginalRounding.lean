import FPSpy.Lib.Run
import FPSpy.Individual.Lifetime
import FPSpy.Monitor.Rounding

/-!
# The original rounding configuration

`orig_round_config` is one variable of the process. It is noted at start-up, and again at the
start of every thread, from the context the thread is started in. A thread inherits its
creator's MXCSR, so a thread that is created by one in which FPSpy's configuration is
already in force replaces the original by it, and from then on that is what is put back.

In every run whose threads are all started in a context with the configuration of start-up,
the configuration of start-up is put back.
-/
namespace FPSpy

section

variable {A : Arch} {cfg : Config A} {env : Env} {libc : Libc A}

namespace Proc

def onThread (t : Nat) (op : A.UContext → A.UContext) (p : Proc A) : Proc A :=
  match p.thread t with
  | none => p
  | some l => { p with thread := Function.update p.thread t (some { l with uc := op l.uc }) }

/-- `kick_self` in a thread that takes the signal at once -/
def kicked (cfg : Config A) (env : Env) (t : Nat) (p : Proc A) : Proc A :=
  ((p.thread t).bind fun l => p.trap cfg t l (.brkTrap env)).getD p

/-- An abort in a call of thread `t`: libc's calls act on its registers, and SIGTRAP is not
blocked. -/
def callOps (cfg : Config A) (env : Env) (libc : Libc A) (t : Nat) : AbortOps (Proc A) :=
  { abortOps cfg env t with
    fedisableexcept := onThread t libc.fedisableexceptAll
    feclearexcept := onThread t libc.feclearexceptAll
    kickSelf := kicked cfg env t }

/-- An intercepted call of thread `t` that makes FPSpy get out of the way, once FPSpy is
initialised. -/
def call (cfg : Config A) (env : Env) (libc : Libc A) (t : Nat) (p : Proc A) : Option (Proc A) :=
  if p.globals.inited ∧ (p.thread t).isSome then some (abortOperation (callOps cfg env libc t) p)
  else none

end Proc

inductive RoundEvent (A : Arch) where
  | sys (e : SystemEvent)
  | call (pid t : Nat) (env : Env)
  /-- The thread's own instructions, which may write any register. -/
  | run (pid t : Nat) (uc : A.UContext)

namespace OriginalRounding

def step (cfg : Config A) (libc : Libc A) (s : System A) : RoundEvent A → Option (System A)
  | .sys e => s.step cfg libc e
  | .call pid t env => (s pid).bind fun p =>
    (p.call cfg env libc t).map fun q => Function.update s pid (some q)
  | .run pid t uc => (s pid).bind fun p => (p.thread t).map fun l =>
    Function.update s pid (some
      { p with thread := Function.update p.thread t (some { l with uc := uc }) })

def start (cfg : Config A) (env : Env) (maxContexts pid : Nat) (uc : A.UContext)
    (inherited : Signal → SigAction) (code : Mem) : System A :=
  let p := System.fresh maxContexts pid uc inherited code
  System.start cfg env pid
    { p with globals := { p.globals with origRoundConfig := A.getRoundConfig cfg.statics uc } }

/-- The event starts a thread: its kick arrives in INIT. -/
def Starts (p : Proc A) (t : Nat) : ThreadEvent → Prop
  | .brkTrap _ => ∃ mc, Table.findMonitoringContext t p.table = some mc ∧ mc.state = .init
  | _ => False

/-- Threads are started in a context whose rounding configuration is `c`. -/
def StartsIn (cfg : Config A) (c : BitVec 32) (s : System A) (e : RoundEvent A) : Prop :=
  ∀ pid t e', e = .sys (.proc pid (.trap t e')) → ∀ p l, s pid = some p → p.thread t = some l →
    Starts p t e' → A.getRoundConfig cfg.statics l.uc = c

/-- The handler puts the original configuration back: it has no context, is in a state it does not
expect, completes an abort, or ends the last step. -/
def PutsBack (cfg : Config A) (p : Proc A) (t : Nat) : ThreadEvent → Prop
  | .fpTrap _ _ => ∀ mc, Table.findMonitoringContext t p.table = some mc → mc.state ≠ .awaitFpe
  | .brkTrap _ => ∀ mc, Table.findMonitoringContext t p.table = some mc → mc.state ≠ .init ∧
    (mc.state = .awaitTrap → reachedMaxcount cfg (mc.count + 1) = true)
  | .expiry _ => False

def CallPutsBack (p : Proc A) (t : Nat) : Prop :=
  p.globals.aborted = false ∧ (p.globals.sigaction .sigtrap).handler = .sigtrapHandler ∧
    ∀ mc, Table.findMonitoringContext t p.table = some mc → mc.abortingInTrap = false

def Restores (cfg : Config A) (s : System A) (pid t : Nat) (e : RoundEvent A) : Prop :=
  ∃ p, s pid = some p ∧
    ((∃ e', e = .sys (.proc pid (.trap t e')) ∧ PutsBack cfg p t e') ∨
      (∃ env, e = .call pid t env ∧ CallPutsBack p t))

/-! ## One handler -/

section

variable {p q : Proc A} {t u : Nat} {l : Live A} {f : Flow A} {c : BitVec 32} {e : ThreadEvent}

theorem origRoundConfig_fpTrapHandler (cfg : Config A) (env : Env) (siCode : BitVec 32)
    (f : Flow A) : (fpTrapHandler cfg env siCode f).1.origRoundConfig = f.origRoundConfig := by
  have hpath := fpTrapHandler_path cfg env siCode f
  generalize fpTrapHandler cfg env siCode f = r at hpath
  cases hpath <;> rfl

/-- The start of a thread notes the configuration of its context; nothing else does. -/
theorem origRoundConfig_brkTrapHandler (cfg : Config A) (env : Env) (f : Flow A) :
    (brkTrapHandler cfg env f).1.origRoundConfig = f.origRoundConfig ∨
      ∃ mc, f.mc = some mc ∧ mc.state = .init ∧
        (brkTrapHandler cfg env f).1.origRoundConfig = f.roundConfig cfg := by
  unfold brkTrapHandler
  cases hmc : f.mc with
  | none => exact .inl rfl
  | some mc =>
    dsimp only
    cases hs : mc.state with
    | init => exact .inr ⟨mc, rfl, hs, rfl⟩
    | awaitFpe => exact .inl rfl
    | abort => exact .inl rfl
    | awaitTrap =>
      refine .inl ?_
      unfold brkAwaitTrap
      dsimp only
      split_ifs <;> rfl

theorem origRoundConfig_sigalrmHandler (cfg : Config A) (env : Env) (f : Flow A) :
    (sigalrmHandler cfg env f).origRoundConfig = f.origRoundConfig := by
  unfold sigalrmHandler
  split
  · rfl
  · split_ifs <;> rfl

/-- After a handler the thread goes on with the registers it set, and the process with the
configuration it noted. -/
theorem settle_round {r : Flow A × HandlerExit} (h : p.settle cfg env t l r = some q) :
    q.globals.origRoundConfig = r.1.origRoundConfig ∧
      ∃ l', q.thread t = some l' ∧ l'.uc = r.1.uc := by
  have hput : (p.put t l r.1).globals.origRoundConfig = r.1.origRoundConfig ∧
      ∃ l', (p.put t l r.1).thread t = some l' ∧ l'.uc = r.1.uc :=
    ⟨rfl, { l with uc := r.1.uc }, by simp [Proc.put], rfl⟩
  unfold Proc.settle at h
  split at h
  · exact Option.some.inj h ▸ hput
  · have hkept := Proc.keptByAbort_abortOperation cfg env t (p.put t l r.1)
    obtain rfl := Option.some.inj h
    rw [hkept.round, hkept.thread]
    exact hput
  all_goals cases h

/-- A handler keeps the original configuration, unless it starts its thread. -/
theorem trap_round (h : p.trap cfg t l e = some q) :
    q.globals.origRoundConfig = p.globals.origRoundConfig ∨
      Starts p t e ∧ q.globals.origRoundConfig = A.getRoundConfig cfg.statics l.uc := by
  cases Proc.trap_effect h with
  | @fpTrap env siCode _ hopen hours hq =>
    exact .inl ((settle_round hq).1.trans (origRoundConfig_fpTrapHandler cfg env siCode _))
  | @brkTrap env _ hours hq =>
    rcases origRoundConfig_brkTrapHandler cfg env (p.flow t l) with hsame | ⟨mc, hmc, hs, hnew⟩
    · exact .inl ((settle_round hq).1.trans hsame)
    · exact .inr ⟨⟨mc, hmc, hs⟩, (settle_round hq).1.trans hnew⟩
  | @expiry env => exact .inl (origRoundConfig_sigalrmHandler cfg env _)

theorem roundConfig_fpTrapHandler (R : Rounding A) (hcontrol : cfg.controlRoundConfig = true)
    (hround : A.IsRoundConfig f.origRoundConfig) {siCode : BitVec 32}
    (hback : ∀ mc, f.mc = some mc → mc.state ≠ .awaitFpe)
    (hlives : (fpTrapHandler cfg env siCode f).2 = .ret ∨
      ∃ reason, (fpTrapHandler cfg env siCode f).2 = .abortOperation reason) :
    (fpTrapHandler cfg env siCode f).1.roundConfig cfg = f.origRoundConfig := by
  have hpath := fpTrapHandler_path cfg env siCode f
  generalize fpTrapHandler cfg env siCode f = r at hpath hlives
  cases hpath with
  | dies hexit => obtain rfl | rfl := hexit <;> simp at hlives
  | bare => exact R.get_standDownNull hcontrol hround
  | beginStep buffer written hmc hstate => exact absurd hstate (hback _ hmc)
  | surprise => exact R.get_standDown hcontrol hround _

theorem roundConfig_brkTrapHandler (R : Rounding A) (hcontrol : cfg.controlRoundConfig = true)
    (hround : A.IsRoundConfig f.origRoundConfig)
    (hback : ∀ mc, f.mc = some mc → mc.state ≠ .init ∧
      (mc.state = .awaitTrap → reachedMaxcount cfg (mc.count + 1) = true)) :
    (brkTrapHandler cfg env f).1.roundConfig cfg = f.origRoundConfig := by
  unfold brkTrapHandler
  cases hmc : f.mc with
  | none => exact R.get_standDownNull hcontrol hround
  | some mc =>
    obtain ⟨hinit, hlast⟩ := hback mc hmc
    dsimp only
    cases hs : mc.state with
    | init => exact absurd hs hinit
    | awaitFpe => exact R.get_standDown hcontrol hround _
    | abort => exact R.get_standDown hcontrol hround _
    | awaitTrap =>
      have hend := R.get_brkAwaitTrap env hcontrol hround mc
      rwa [if_pos (hlast hs)] at hend

/-- A handler that puts a configuration back puts the original one back. -/
theorem trap_putsBack (R : Rounding A) (hcontrol : cfg.controlRoundConfig = true)
    (hround : A.IsRoundConfig p.globals.origRoundConfig) (h : p.trap cfg t l e = some q)
    (hback : PutsBack cfg p t e) :
    ∃ l', q.thread t = some l' ∧
      A.getRoundConfig cfg.statics l'.uc = p.globals.origRoundConfig := by
  cases Proc.trap_effect h with
  | fpTrap hopen hours hq =>
    obtain ⟨-, l', hl', huc⟩ := settle_round hq
    refine ⟨l', hl', huc ▸ ?_⟩
    exact roundConfig_fpTrapHandler R hcontrol hround hback (Proc.settle_lives hq)
  | brkTrap hours hq =>
    obtain ⟨-, l', hl', huc⟩ := settle_round hq
    exact ⟨l', hl', huc ▸ roundConfig_brkTrapHandler R hcontrol hround hback⟩
  | expiry => exact hback.elim

end

/-! ## A call -/

section

variable {p q : Proc A} {t : Nat} {l : Live A}

@[simp] theorem globals_onThread (t : Nat) (op : A.UContext → A.UContext) (p : Proc A) :
    (p.onThread t op).globals = p.globals := by
  unfold Proc.onThread
  split <;> rfl

@[simp] theorem table_onThread (t : Nat) (op : A.UContext → A.UContext) (p : Proc A) :
    (p.onThread t op).table = p.table := by
  unfold Proc.onThread
  split <;> rfl

theorem thread_onThread (op : A.UContext → A.UContext) (hl : p.thread t = some l) :
    (p.onThread t op).thread t = some { l with uc := op l.uc } := by
  simp [Proc.onThread, hl]

/-- A process survives FPSpy's breakpoint handler. -/
theorem survives_brkTrap (l : Live A)
    (hours : (p.globals.sigaction .sigtrap).handler = .sigtrapHandler) :
    p.trap cfg t l (.brkTrap env) ≠ none := by
  simp only [Proc.trap, if_pos hours, Proc.settle, brkTrapHandler]
  cases (p.flow t l).mc with
  | none => simp
  | some mc => cases hs : mc.state <;> simp [hs]

/-- A kick of a thread whose context is in ABORT, or that has none. -/
theorem kicked_round (R : Rounding A) (env : Env) (hcontrol : cfg.controlRoundConfig = true)
    (hround : A.IsRoundConfig p.globals.origRoundConfig) (hl : p.thread t = some l)
    (hdone : ∀ mc, Table.findMonitoringContext t p.table = some mc → mc.state = .abort) :
    (p.kicked cfg env t).globals.origRoundConfig = p.globals.origRoundConfig ∧
      ((p.globals.sigaction .sigtrap).handler = .sigtrapHandler →
        ∃ l', (p.kicked cfg env t).thread t = some l' ∧
          A.getRoundConfig cfg.statics l'.uc = p.globals.origRoundConfig) := by
  have hback : PutsBack cfg p t (.brkTrap env) := fun mc hmc => by simp [hdone mc hmc]
  have hstarts : ¬ Starts p t (.brkTrap env) := by
    rintro ⟨mc, hmc, hinit⟩
    simp [hdone mc hmc] at hinit
  simp only [Proc.kicked, hl, Option.bind_some]
  cases htrap : p.trap cfg t l (.brkTrap env) with
  | none => exact ⟨rfl, fun hours => absurd htrap (survives_brkTrap l hours)⟩
  | some q =>
    refine ⟨(trap_round htrap).resolve_right fun h => hstarts h.1, fun _ => ?_⟩
    exact trap_putsBack R hcontrol hround htrap hback

/-- The abort record is written for a context that is in ABORT by then. -/
theorem writeAbort_done (cfg : Config A) (env : Env) (mc : MonitoringContext)
    (hl : p.thread t = some l) :
    ((Proc.abortOps cfg env t).writeAbort mc p).globals = p.globals ∧
      ((Proc.abortOps cfg env t).writeAbort mc p).thread t = some l ∧
      ∀ mc', Table.findMonitoringContext t ((Proc.abortOps cfg env t).writeAbort mc p).table =
        some mc' → mc'.state = .abort := by
  obtain ⟨huc, hglobals⟩ := Proc.writeAbort_uc cfg env mc (p.flow t l)
  obtain ⟨mc₁, hmc₁, hstate⟩ : ∃ mc₁, ((p.flow t l).writeAbort cfg env mc).mc = some mc₁ ∧
      mc₁.state = .abort := by
    unfold Flow.writeAbort
    dsimp only
    split_ifs <;> exact ⟨_, rfl, rfl⟩
  simp only [Proc.abortOps, hl, Proc.put, hglobals, huc, hmc₁]
  refine ⟨rfl, by simp [Proc.flow, Thread.start], fun mc' hmc' => ?_⟩
  rw [Table.find_store_self] at hmc'
  obtain ⟨-, -, rfl⟩ := Option.map_eq_some_iff.mp hmc'
  exact hstate

/-- A call keeps the original configuration. If it aborts, its kick puts that back. -/
theorem call_round (R : Rounding A) (hcontrol : cfg.controlRoundConfig = true)
    (hround : A.IsRoundConfig p.globals.origRoundConfig) (h : p.call cfg env libc t = some q) :
    q.globals.origRoundConfig = p.globals.origRoundConfig ∧
      (CallPutsBack p t → ∃ l', q.thread t = some l' ∧
        A.getRoundConfig cfg.statics l'.uc = p.globals.origRoundConfig) := by
  unfold Proc.call at h
  split_ifs at h with hc
  obtain rfl := Option.some.inj h
  obtain ⟨hi, hlive⟩ := hc
  obtain ⟨l, hl⟩ := Option.isSome_iff_exists.mp hlive
  by_cases ha : p.globals.aborted = true
  · rw [abortOperation_of_aborted (Proc.callOps cfg env libc t) hi ha]
    exact ⟨rfl, fun hback => by simp [hback.1] at ha⟩
  have ha' : p.globals.aborted = false := by simpa using ha
  rw [abortOperation_individual (Proc.callOps cfg env libc t) hi ha' rfl]
  -- the process when SIGFPE has been given back
  obtain ⟨s, hs⟩ : ∃ s, s = (Proc.callOps cfg env libc t).restoreSigfpe
      ((Proc.callOps cfg env libc t).feclearexcept
        ((Proc.callOps cfg env libc t).fedisableexcept p)) :=
    ⟨_, rfl⟩
  have horig : s.globals.origRoundConfig = p.globals.origRoundConfig := by
    simp [hs, Proc.callOps, Proc.abortOps]
  have htable : s.table = p.table := by simp [hs, Proc.callOps, Proc.abortOps]
  have htrap : s.globals.sigaction .sigtrap = p.globals.sigaction .sigtrap := by
    simp [hs, Proc.callOps, Proc.abortOps]
  obtain ⟨l₁, hl₁⟩ : ∃ l₁, s.thread t = some l₁ :=
    ⟨_, by rw [hs]; exact thread_onThread _ (thread_onThread _ hl)⟩
  have hback : CallPutsBack p t →
      (s.globals.sigaction .sigtrap).handler = .sigtrapHandler := fun hb => htrap ▸ hb.2.1
  rw [← hs, ← horig]
  simp only [show (Proc.callOps cfg env libc t).findMonitoringContext s =
    Table.findMonitoringContext t s.table from rfl]
  cases hmc : Table.findMonitoringContext t s.table with
  | none =>
    have hkick := kicked_round R env hcontrol (horig.symm ▸ hround) hl₁
      (by simp [hmc])
    exact ⟨hkick.1, fun hb => hkick.2 (hback hb)⟩
  | some mc =>
    obtain ⟨hglobals, hthread, hdone⟩ := writeAbort_done cfg env mc hl₁
    have hkick := kicked_round R env hcontrol
      (by rw [hglobals, horig]; exact hround) hthread hdone
    rw [hglobals] at hkick
    dsimp only
    split_ifs with hin
    · have hkeep : ((Proc.abortOps cfg env t).writeAbort mc s).globals.origRoundConfig =
          s.globals.origRoundConfig := by rw [hglobals]
      exact ⟨hkeep, fun hb => by simp [hb.2.2 mc (htable ▸ hmc)] at hin⟩
    · exact ⟨hkick.1, fun hb => hkick.2 (hback hb)⟩

end

/-! ## The system -/

section

variable {s u : System A} {c : BitVec 32}

def Noted (c : BitVec 32) (s : System A) : Prop :=
  ∀ pid p, s pid = some p → p.globals.origRoundConfig = c

/-- What one process does. -/
theorem origRoundConfig_proc_step {p q : Proc A} {e : ProcEvent}
    (hstarts : ∀ t e', e = .trap t e' → ∀ l, p.thread t = some l → Starts p t e' →
      A.getRoundConfig cfg.statics l.uc = p.globals.origRoundConfig)
    (h : p.step cfg libc e = some q) :
    q.globals.origRoundConfig = p.globals.origRoundConfig := by
  cases Proc.step_effect h with
  | @trap t e l _ hl hq =>
    rcases trap_round hq with hsame | ⟨hs, hnew⟩
    · exact hsame
    · exact hnew.trans (hstarts t e rfl l hl hs)
  | pthreadCreate | setUp | pthreadExit | gone | sigint => rfl

theorem Noted.step (R : Rounding A) (hcontrol : cfg.controlRoundConfig = true)
    (hround : A.IsRoundConfig c) (h : Noted c s) {e : RoundEvent A} (hadm : StartsIn cfg c s e)
    (hstep : step cfg libc s e = some u) : Noted c u := by
  cases e with
  | sys e =>
    apply System.forall_of_step hstep h
    · rintro pid e' p q rfl hp hq
      rw [← h pid p hp]
      refine origRoundConfig_proc_step (fun t e he l hl hs => ?_) hq
      exact (hadm pid t e (he ▸ rfl) p l hp hl hs).trans (h pid p hp).symm
    · rintro pid t child p l rfl hp hl hchild
      exact h pid p hp
  | call pid t env =>
    obtain ⟨p, hp, hstep⟩ := Option.bind_eq_some_iff.mp hstep
    obtain ⟨q, hq, rfl⟩ := Option.map_eq_some_iff.mp hstep
    refine System.forall_update h fun p' hp' => ?_
    obtain rfl := Option.some.inj hp'
    exact (call_round R hcontrol (h pid p hp ▸ hround) hq).1.trans (h pid p hp)
  | run pid t uc =>
    obtain ⟨p, hp, hstep⟩ := Option.bind_eq_some_iff.mp hstep
    obtain ⟨l, hl, rfl⟩ := Option.map_eq_some_iff.mp hstep
    refine System.forall_update h fun p' hp' => ?_
    obtain rfl := Option.some.inj hp'
    exact h pid p hp

/-- A step that puts a configuration back puts back the one that was noted. -/
theorem restores_noted (R : Rounding A) (hcontrol : cfg.controlRoundConfig = true)
    (hround : A.IsRoundConfig c) (h : Noted c s) {e : RoundEvent A} {pid t : Nat}
    (hback : Restores cfg s pid t e) (hstep : step cfg libc s e = some u) :
    ∃ q l, u pid = some q ∧ q.thread t = some l ∧ A.getRoundConfig cfg.statics l.uc = c := by
  obtain ⟨p, hp, ⟨e', rfl, hback⟩ | ⟨env, rfl, hback⟩⟩ := hback
  · obtain ⟨p₁, hp₁, hstep⟩ := Option.bind_eq_some_iff.mp hstep
    obtain rfl := Option.some.inj (hp.symm.trans hp₁)
    obtain ⟨q, hq, rfl⟩ := Option.map_eq_some_iff.mp hstep
    obtain ⟨l, hl, hq⟩ := Option.bind_eq_some_iff.mp hq
    obtain ⟨l', hl', hget⟩ := trap_putsBack R hcontrol (h pid p hp ▸ hround) hq hback
    exact ⟨q, l', Function.update_self .., hl', hget.trans (h pid p hp)⟩
  · obtain ⟨p₁, hp₁, hstep⟩ := Option.bind_eq_some_iff.mp hstep
    obtain rfl := Option.some.inj (hp.symm.trans hp₁)
    obtain ⟨q, hq, rfl⟩ := Option.map_eq_some_iff.mp hstep
    obtain ⟨l', hl', hget⟩ := (call_round R hcontrol (h pid p hp ▸ hround) hq).2 hback
    exact ⟨q, l', Function.update_self .., hl', hget.trans (h pid p hp)⟩

theorem noted_start (cfg : Config A) (env : Env) (maxContexts pid : Nat) (uc : A.UContext)
    (inherited : Signal → SigAction) (code : Mem) :
    Noted (A.getRoundConfig cfg.statics uc)
      (start cfg env maxContexts pid uc inherited code) := by
  refine System.forall_update (fun _ _ h => absurd h.symm (Option.some_ne_none _)) fun p hp => ?_
  obtain rfl := Option.some.inj hp
  unfold Proc.bringup
  dsimp only
  split
  · exact (setupSignals_spec cfg _).origRoundConfig
  · rfl

end

end OriginalRounding

end

/-! ## On x64 -/

namespace X64

open OriginalRounding

/-- In every run whose threads are started in contexts with the rounding, DAZ and FTZ bits of
start-up, these are the bits that are put back. -/
theorem run_restores_startup (cfg : Config x64) (hcontrol : cfg.controlRoundConfig = true)
    (env : Env) (libc : Libc x64) (maxContexts pid : Nat) (uc : UContext)
    (inherited : Signal → SigAction) (code : Mem) {es : List (RoundEvent x64)} {s u : System x64}
    (hadm : Run.Admits (OriginalRounding.step cfg libc)
      (StartsIn cfg (archGetRoundConfig cfg.statics uc))
      (OriginalRounding.start cfg env maxContexts pid uc inherited code) es)
    (hrun : Run.run (OriginalRounding.step cfg libc)
      (OriginalRounding.start cfg env maxContexts pid uc inherited code) es = some s)
    {e : RoundEvent x64} {q t : Nat} (hback : Restores cfg s q t e)
    (hstep : OriginalRounding.step cfg libc s e = some u) :
    ∃ p l, u q = some p ∧ p.thread t = some l ∧
      archGetRoundConfig cfg.statics l.uc = archGetRoundConfig cfg.statics uc := by
  have hround : x64.IsRoundConfig (archGetRoundConfig cfg.statics uc) :=
    x64.isRoundConfig_get cfg.statics uc
  have hnoted : Noted (archGetRoundConfig cfg.statics uc) s :=
    Run.invariant_of_admits (fun _ _ _ h hg hst => h.step rounding hcontrol hround hg hst) hadm
      (noted_start cfg env maxContexts pid uc inherited code) hrun
  exact restores_noted rounding hcontrol hround hnoted hback hstep

def positive : Config x64 := forced plain "positive".toList 0x1f80

def rounded : System x64 :=
  OriginalRounding.start positive quietEnv 4 1 ⟨fun _ => 0, 0x1f80⟩ (fun _ => .zero) fun _ => 0

def startBoth : List (RoundEvent x64) :=
  [.sys (.proc 1 (.pthreadCreate 1 2)), .sys (.proc 1 (.setUp 2 quietEnv)),
    .sys (.proc 1 (.trap 2 (.brkTrap quietEnv))), .sys (.proc 1 (.trap 1 (.brkTrap quietEnv)))]

def trapsNearest (s : System x64) : RoundEvent x64 → Bool
  | .sys (.proc pid (.trap t _)) =>
    ((s pid).bind (·.thread t)).all fun l => archGetRoundConfig positive.statics l.uc = 0
  | _ => true

theorem startsIn_of_trapsNearest (s : System x64) (e : RoundEvent x64)
    (h : trapsNearest s e = true) : StartsIn positive 0 s e := by
  rintro pid t e' rfl p l hp hl -
  simpa [trapsNearest, hp, hl] using h

/-- The call of a thread puts the configuration of start-up back, FPSpy's being in force. -/
theorem run_restores_startup_call :
    ∃ s u p l, Run.run (OriginalRounding.step positive libc) rounded startBoth = some s ∧
      Restores positive s 1 2 (.call 1 2 quietEnv) ∧
      OriginalRounding.step positive libc s (.call 1 2 quietEnv) = some u ∧
      u 1 = some p ∧ p.thread 2 = some l ∧ archGetRoundConfig positive.statics l.uc = 0 := by
  have hrun : (((Run.run (OriginalRounding.step positive libc) rounded startBoth).bind (· 1)).map
      fun p => (p.globals.aborted, (p.globals.sigaction .sigtrap).handler,
        (Table.findMonitoringContext 2 p.table).map (·.abortingInTrap), p.globals.inited,
        (p.thread 2).isSome)) = some (false, .sigtrapHandler, some false, true, true) := by decide
  obtain ⟨p, hp, hval⟩ := Option.map_eq_some_iff.mp hrun
  obtain ⟨s, hs, hp⟩ := Option.bind_eq_some_iff.mp hp
  simp only [Prod.mk.injEq] at hval
  obtain ⟨haborted, htrap, hfind, hinited, hthread⟩ := hval
  have hback : Restores positive s 1 2 (.call 1 2 quietEnv) := by
    refine ⟨p, hp, .inr ⟨quietEnv, rfl, haborted, htrap, fun mc hmc => ?_⟩⟩
    simpa [hmc] using hfind
  obtain ⟨u, hu⟩ : ∃ u, OriginalRounding.step positive libc s (.call 1 2 quietEnv) = some u := by
    simp [OriginalRounding.step, hp, Proc.call, hinited, hthread]
  have hadm : Run.Admits (OriginalRounding.step positive libc) (StartsIn positive 0) rounded
      startBoth := Run.admits_of_check startsIn_of_trapsNearest (by decide)
  obtain ⟨q, l, hq, hl, hget⟩ := run_restores_startup positive rfl quietEnv libc 4 1
    ⟨fun _ => 0, 0x1f80⟩ _ _ hadm hs hback hu
  exact ⟨s, u, q, l, hs, hback, hu, hq, hl, hget⟩

/-- A thread in which FPSpy's configuration is in force creates another. When that has been
started, a call of the first leaves the thread rounding up. -/
theorem not_restores_startup :
    ∃ s u p l, Run.run (OriginalRounding.step positive libc) rounded
        [.sys (.proc 1 (.trap 1 (.brkTrap quietEnv))), .sys (.proc 1 (.pthreadCreate 1 2)),
          .sys (.proc 1 (.setUp 2 quietEnv)), .sys (.proc 1 (.trap 2 (.brkTrap quietEnv)))] =
        some s ∧
      Restores positive s 1 1 (.call 1 1 quietEnv) ∧
      OriginalRounding.step positive libc s (.call 1 1 quietEnv) = some u ∧
      u 1 = some p ∧ p.thread 1 = some l ∧
      archGetRoundConfig positive.statics l.uc ≠ archGetRoundConfig positive.statics
        ⟨fun _ => 0, 0x1f80⟩ := by
  have hrun : ((Run.run (OriginalRounding.step positive libc) rounded
      [.sys (.proc 1 (.trap 1 (.brkTrap quietEnv))), .sys (.proc 1 (.pthreadCreate 1 2)),
        .sys (.proc 1 (.setUp 2 quietEnv)), .sys (.proc 1 (.trap 2 (.brkTrap quietEnv)))]).bind
      fun s => (s 1).bind fun p =>
        ((OriginalRounding.step positive libc s (.call 1 1 quietEnv)).bind fun u =>
        (u 1).bind fun q => (q.thread 1).map fun l =>
          archGetRoundConfig positive.statics l.uc).map fun bits =>
            (bits, p.globals.aborted, (p.globals.sigaction .sigtrap).handler,
              (Table.findMonitoringContext 1 p.table).map (·.abortingInTrap))) =
      some (0x4000, false, .sigtrapHandler, some false) := by decide
  obtain ⟨s, hs, hrun⟩ := Option.bind_eq_some_iff.mp hrun
  obtain ⟨p, hp, hrun⟩ := Option.bind_eq_some_iff.mp hrun
  obtain ⟨bits, hcall, hval⟩ := Option.map_eq_some_iff.mp hrun
  obtain ⟨u, hu, hcall⟩ := Option.bind_eq_some_iff.mp hcall
  obtain ⟨q, hq, hcall⟩ := Option.bind_eq_some_iff.mp hcall
  obtain ⟨l, hl, hbits⟩ := Option.map_eq_some_iff.mp hcall
  simp only [Prod.mk.injEq] at hval
  obtain ⟨rfl, haborted, htrap, hfind⟩ := hval
  refine ⟨s, u, q, l, hs, ⟨p, hp, .inr ⟨quietEnv, rfl, haborted, htrap, fun mc hmc => ?_⟩⟩, hu, hq,
    hl, ?_⟩
  · simpa [hmc] using hfind
  · rw [hbits]
    decide

end X64
end FPSpy
