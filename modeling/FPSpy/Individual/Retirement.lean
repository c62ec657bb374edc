import FPSpy.Individual.Kicks

/-!
# An abort is complete and final

A call of the target that makes FPSpy get out of the way, on x64. `abort_operation` works in
two parts, its own and the one its kick has `brk_trap_handler` do in state ABORT; together
they leave the thread as `Retired` says. From then on FPSpy only forwards: registers and
dispositions go through the same states as they would without it.

`InCharge` is what every state before the abort has: while FPSpy is initialised and has not
aborted, SIGTRAP is its own, and what it will put back is what it found.
-/
namespace FPSpy

section

variable {A : Arch} {cfg : Config A} {libc : Libc A}

namespace DeliveryEvent

def aborts (cfg : Config A) : DeliveryEvent A → Option Env
  | .fe env => some env
  | .signal env sig _ =>
    if (sig = .sigfpe ∨ sig = .sigtrap) ∧ cfg.aggressive = false then some env else none
  | .sigaction env sig _ =>
    if (sig = .sigvtalrm ∨ sig = .sigfpe ∨ sig = .sigtrap) ∧ cfg.aggressive = false then some env
    else none
  | _ => none

/-- What the target can do after an abort. FPSpy's handlers have no name outside `fpspy.c`, so it
cannot install them. -/
def Own : DeliveryEvent A → Prop
  | .sigint => False
  | .signal _ _ func => func ≠ .sigfpeHandler ∧ func ≠ .sigtrapHandler
  | .sigaction _ _ act => act.Foreign
  | _ => True

def native (s : A.UContext × (Signal → SigAction)) :
    DeliveryEvent A → A.UContext × (Signal → SigAction)
  | .target uc => (uc, s.2)
  | .signal _ sig func => (s.1, Function.update s.2 sig (.ofSignal sig func))
  | .sigaction _ sig act => (s.1, Function.update s.2 sig act)
  | _ => s

end DeliveryEvent

namespace Delivery

variable {d r : Delivery A} {env : Env} {n : Nat} {inherited : Signal → SigAction}

/-! ## Before the abort -/

structure Holding (inherited : Signal → SigAction) (d : Delivery A) : Prop where
  ours : (d.sigaction .sigtrap).handler = .sigtrapHandler
  oldsaFpe : d.oldsaFpe = inherited .sigfpe
  oldsaTrap : d.oldsaTrap = inherited .sigtrap
  round : A.IsRoundConfig d.origRoundConfig
  abortingInTrap : ∀ mc, d.mc = some mc → mc.abortingInTrap = false

structure InCharge (inherited : Signal → SigAction) (d : Delivery A) : Prop where
  holding : d.inited = true → d.aborted = false → Holding inherited d

theorem InCharge.of_aborted (ha : d.aborted = true) : InCharge inherited d :=
  ⟨fun _ hnot => absurd hnot (by simp [ha])⟩

/-- However an abort goes, FPSpy has aborted after it. -/
theorem aborted_abortOperation {kick : Delivery A → Delivery A} (d : Delivery A) :
    (abortOperation (abortOps cfg env libc kick) d).aborted = true := by
  unfold abortOperation
  dsimp only
  split_ifs with hi ha ha
  · exact ha
  · rfl
  · exact ha
  · rfl

variable (cfg env) in
/-- A handler that does not abort just returns. -/
theorem settle_cases (kick : Delivery A → Delivery A) (x : Flow A × HandlerExit) (d : Delivery A) :
    (settle cfg env kick x d).aborted = true ∨
      ((∀ reason, x.2 ≠ .abortOperation reason) ∧
        settle cfg env kick x d = { d with toFlow := x.1 }) := by
  unfold settle
  split
  · exact .inl (aborted_abortOperation _)
  · next h => exact .inr ⟨h, rfl⟩

/-- What a handler keeps while FPSpy is in charge. -/
theorem Holding.kept {mc : MonitoringContext} {f : Flow A} (h : Holding inherited d)
    (hmc : d.mc = some mc) (hkept : Kept cfg mc d.toFlow f)
    (hf : f.aborted = false) (blocked : List Signal) (log : List TrapEvent) :
    Holding inherited { toFlow := f, blocked := blocked, log := log } := by
  obtain ⟨mc', hmc', htrap⟩ := hkept.mc
  refine ⟨?_, hkept.oldsaFpe.trans h.oldsaFpe, hkept.oldsaTrap.trans h.oldsaTrap, hkept.round, ?_⟩
  · rw [hkept.sigaction hf]
    exact h.ours
  · intro c hc
    obtain rfl := Option.some.inj (hmc'.symm.trans hc)
    exact (htrap hf).trans (h.abortingInTrap mc hmc)

/-- A handler that just returns keeps FPSpy in charge. -/
theorem InCharge.handled {mc : MonitoringContext} {e : ThreadEvent} {f : Flow A}
    (h : InCharge inherited d) (hmc : d.mc = some mc) (heffect : Effect cfg mc d.toFlow e f)
    (hsame : SameSignals d.toFlow f) (log : List TrapEvent) :
    InCharge inherited { toFlow := f, blocked := d.blocked, log := log } := by
  refine ⟨fun hi ha => ?_⟩
  have hi' : d.inited = true := hsame.inited.symm.trans hi
  have ha' : d.aborted = false := hsame.aborted.symm.trans ha
  have hhold := h.holding hi' ha'
  exact hhold.kept hmc (heffect.kept hi' ha' hhold.round) ha _ _

/-- Only the process, and whether the context is aborting, matter. -/
theorem InCharge.congr (h : InCharge inherited d) (hg : r.toGlobals = d.toGlobals)
    (hmc : ∀ mc, r.mc = some mc → mc.abortingInTrap = false ∨ d.mc = some mc) :
    InCharge inherited r := by
  refine ⟨fun hi ha => ?_⟩
  rw [hg] at hi ha
  have hhold := h.holding hi ha
  refine ⟨hg ▸ hhold.ours, hg ▸ hhold.oldsaFpe, hg ▸ hhold.oldsaTrap, hg ▸ hhold.round, ?_⟩
  intro mc hc
  exact (hmc mc hc).elim id (hhold.abortingInTrap mc)

/-- Apart from an abort, a breakpoint trap is one of the events of a thread. -/
theorem effect_brkTrapHandler {mc : MonitoringContext} {f : Flow A} (hmc : f.mc = some mc)
    (hret : ∀ reason, (brkTrapHandler cfg env f).2 ≠ .abortOperation reason) :
    Effect cfg mc f (.brkTrap env) (brkTrapHandler cfg env f).1 := by
  simp only [brkTrapHandler, hmc] at hret ⊢
  cases hs : mc.state with
  | init => exact .kick hs
  | awaitTrap => exact .endStep hs
  | abort => exact .aborted hs
  | awaitFpe =>
    simp only [hs] at hret
    exact absurd rfl (hret _)

theorem effect_fpTrapHandler {mc : MonitoringContext} {f : Flow A} {siCode : BitVec 32}
    (hmc : f.mc = some mc) (hopen : f.trapsUnmasked cfg = true)
    (hret : ∀ reason, (fpTrapHandler cfg env siCode f).2 ≠ .abortOperation reason)
    (habort : (fpTrapHandler cfg env siCode f).2 ≠ .abort)
    (hdivide : (fpTrapHandler cfg env siCode f).2 ≠ .divideError) :
    Effect cfg mc f (.fpTrap env siCode) (fpTrapHandler cfg env siCode f).1 := by
  have hon : cfg.abortOnFpe = false := by
    by_contra hon
    exact habort (by simp [fpTrapHandler, Bool.not_eq_false _ ▸ hon])
  have hperiod : cfg.samplePeriod ≠ 0#32 := by
    intro hzero
    exact hdivide (by simp [fpTrapHandler, hon, hmc, hzero])
  obtain ⟨buffer, written, heq⟩ := fpTrapHandler_eq cfg env siCode hmc hon hperiod
  rw [heq] at hret ⊢
  split_ifs at hret ⊢ with hstate
  · exact .beginStep buffer written hstate hopen
  · exact absurd rfl (hret _)

theorem effect_sigalrmHandler {mc : MonitoringContext} {f : Flow A} (hmc : f.mc = some mc) :
    Effect cfg mc f (.expiry env) (sigalrmHandler cfg env f) := by
  simp only [sigalrmHandler, hmc]
  split_ifs with hstate
  · exact .delay hstate
  · exact .flip (not_not.mp hstate)

theorem InCharge.takeSigtrap (h : InCharge inherited d) (kick : Delivery A → Delivery A) :
    InCharge inherited (takeSigtrap cfg env kick d) := by
  by_cases hours : (d.sigaction .sigtrap).handler = .sigtrapHandler
  · rw [takeSigtrap_of_ours hours]
    rcases settle_cases cfg env kick
      (brkTrapHandler cfg env d.entered.toFlow) d.entered with habort | ⟨hret, heq⟩
    · exact .of_aborted habort
    · have h' : InCharge inherited { d.entered with blocked := d.blocked } :=
        h.congr rfl fun _ hc => .inr hc
      rw [heq]
      cases hmc : d.entered.mc with
      | none =>
        simp only [brkTrapHandler, hmc] at hret
        exact absurd rfl (hret _)
      | some mc =>
        exact h'.handled hmc (effect_brkTrapHandler hmc hret)
          (sameSignals_brkTrapHandler cfg env d.entered.toFlow) _
  · unfold Delivery.takeSigtrap
    split
    · next hours' => exact absurd hours' hours
    · exact h.congr rfl fun _ hc => .inr hc

theorem InCharge.kickSelf (h : InCharge inherited d) :
    InCharge inherited (kickSelf cfg env (n + 1) d) := by
  rw [Delivery.kickSelf]
  split_ifs
  · exact h.congr rfl fun _ hc => .inr hc
  · exact .takeSigtrap (d := d.note .sent) (h.congr rfl fun _ hc => .inr hc) _

theorem InCharge.returned (h : InCharge inherited d) (kick : Delivery A → Delivery A) :
    InCharge inherited (returned cfg env kick d) := by
  unfold Delivery.returned
  split_ifs
  · exact h.takeSigtrap kick
  · exact h

theorem InCharge.fpTrap (h : InCharge inherited d) {siCode : BitVec 32}
    (hopen : d.trapsUnmasked cfg = true)
    (habort : (fpTrapHandler cfg env siCode d.toFlow).2 ≠ .abort)
    (hnull : (fpTrapHandler cfg env siCode d.toFlow).2 ≠ .nullDeref)
    (hdivide : (fpTrapHandler cfg env siCode d.toFlow).2 ≠ .divideError) :
    InCharge inherited (Delivery.returned cfg env (Delivery.kickSelf cfg env (n + 1))
      (handling .sigfpe (settle cfg env (Delivery.kickSelf cfg env (n + 1))
        (fpTrapHandler cfg env siCode d.toFlow)) d)) := by
  refine InCharge.returned ?_ _
  rcases settle_cases cfg env (Delivery.kickSelf cfg env (n + 1))
    (fpTrapHandler cfg env siCode d.toFlow)
    { d with blocked := .sigfpe :: (d.sigaction .sigfpe).mask ++ d.blocked } with
    habort' | ⟨hret, heq⟩
  · exact .of_aborted habort'
  · rw [handling, heq]
    cases hmc : d.mc with
    | none =>
      have hon : cfg.abortOnFpe = false := by
        by_contra hon
        exact habort (by simp [fpTrapHandler, Bool.not_eq_false _ ▸ hon])
      simp only [fpTrapHandler, hon, hmc] at hret hnull
      cases hout : cfg.noOutput <;> simp [hout] at hret hnull
    | some mc =>
      exact h.handled hmc (effect_fpTrapHandler hmc hopen hret habort hdivide)
        (sameSignals_fpTrapHandler cfg env siCode d.toFlow) _

theorem InCharge.fork (h : InCharge inherited d) {tid : Nat} {slot : Option MonitoringContext} :
    InCharge inherited (d.fork cfg env libc (Delivery.kickSelf cfg env (n + 1)) tid slot) := by
  unfold Delivery.fork
  dsimp only
  split_ifs with ha
  · exact .of_aborted ha
  cases hmc : slot.bind (bringupMonitoringContext cfg env tid) with
  | none =>
    refine h.congr rfl fun mc hnone => ?_
    exact absurd hnone.symm (Option.some_ne_none mc)
  | some mc =>
    obtain ⟨c, -, hc⟩ := Option.bind_eq_some_iff.mp hmc
    obtain ⟨fd, -, rfl⟩ := Option.map_eq_some_iff.mp hc
    refine InCharge.kickSelf (h.congr rfl ?_)
    rintro _ ⟨⟩
    exact .inl rfl

/-- Calls that get through without an abort leave SIGTRAP alone. -/
theorem InCharge.guarded (h : InCharge inherited d) {watched : Bool} {sig : Signal}
    {act : SigAction} (hsig : sig = .sigtrap → watched = true) :
    InCharge inherited (Shim.guarded (abortOps cfg env libc (Delivery.kickSelf cfg env (n + 1)))
      cfg.aggressive watched (origSigaction sig act) () d).1 := by
  unfold Shim.guarded
  split_ifs with hwatched haggressive
  · exact h
  · exact .of_aborted (aborted_abortOperation d)
  · refine ⟨fun hi ha => ?_⟩
    have hhold := h.holding hi ha
    have hne : Signal.sigtrap ≠ sig := fun heq => hwatched ⟨hsig heq.symm, rfl, ha⟩
    refine ⟨?_, hhold.oldsaFpe, hhold.oldsaTrap, hhold.round, hhold.abortingInTrap⟩
    simpa [origSigaction, hne] using hhold.ours

theorem InCharge.step (h : InCharge inherited d) {e : DeliveryEvent A}
    (hstep : d.step cfg libc (n + 1) e = some r) : InCharge inherited r := by
  cases step_effect hstep with
  | fpTrap hopen hours habort hnull hdivide => exact h.fpTrap hopen habort hnull hdivide
  | brkTrap => exact .returned (h.takeSigtrap _) _
  | @expiry env =>
    cases hmc : d.mc with
    | none =>
      have heq : d.lift (sigalrmHandler cfg env) = d := by simp [lift, sigalrmHandler, hmc]
      rw [heq]
      exact h
    | some mc =>
      have hsame := sameSignals_sigalrmHandler cfg env d.toFlow
      exact h.handled hmc (effect_sigalrmHandler hmc) hsame _
  | sigint => exact ⟨fun hi => by simp [fpspyDeinit] at hi⟩
  | fork => exact h.fork
  | fe => exact .of_aborted (aborted_abortOperation d)
  | signal => exact h.guarded (by simp +contextual)
  | sigaction => exact h.guarded (by simp +contextual)
  | target => exact h.congr rfl fun _ hc => .inr hc
  | @sigmask env mask =>
    exact .returned (d := { d with blocked := mask }) (h.congr rfl fun _ hc => .inr hc) _

def kicked (d : Delivery A) : Delivery A := (d.note .sent).entered

/-- A kick that finds SIGTRAP FPSpy's own, and a state that expects it. -/
theorem kickSelf_eq {mc : MonitoringContext} (hb : .sigtrap ∉ d.blocked)
    (hours : (d.sigaction .sigtrap).handler = .sigtrapHandler) (hmc : d.mc = some mc)
    (hstate : mc.state = .init ∨ mc.state = .abort) :
    kickSelf cfg env (n + 1) d =
      { d.kicked with
        toFlow := if mc.state = .init then brkInit cfg mc d.kicked.toFlow
          else standDown cfg mc d.kicked.toFlow
        blocked := d.blocked } := by
  have hmc' : d.kicked.mc = some mc := hmc
  have hret : brkTrapHandler cfg env d.kicked.toFlow =
      (if mc.state = .init then brkInit cfg mc d.kicked.toFlow
        else standDown cfg mc d.kicked.toFlow, .ret) := by
    rcases hstate with hstate | hstate <;> simp [brkTrapHandler, hmc', hstate]
  rw [kickSelf, if_neg hb, takeSigtrap_of_ours (d := d.note .sent) hours]
  rw [← kicked, settle_eq (.inl (by rw [hret])), hret]
  rfl

theorem inCharge_start (cfg : Config A) (env : Env) (libc : Libc A) (n tid : Nat) (uc : A.UContext)
    (inherited : Signal → SigAction) (mask : List Signal) (code : Mem) :
    InCharge inherited (start cfg env libc (n + 1) tid uc inherited mask code) := by
  refine ⟨fun hi _ => ?_⟩
  cases hmc : bringupMonitoringContext cfg env tid .zero with
  | none => simp [start, bringup, Thread.start, Globals.start, hmc] at hi
  | some mc =>
    set g : Globals := { Globals.start code with sigaction := inherited } with hg
    have hset := setupSignals_spec cfg g
    obtain ⟨-, hstate, htrap, -⟩ := newContext_of_bringup hmc
    set b : Delivery A :=
      { toGlobals := { setupSignals cfg g with
          itimer := if cfg.timers then mc.sampler.it else (setupSignals cfg g).itimer }
        toThread := { Thread.start tid (libc.feclearexceptEnabled uc) with mc := some mc }
        blocked := mask
        log := [] } with hb
    have hstart : start cfg env libc (n + 1) tid uc inherited mask code =
        { (if cfg.kickstart then b else kickSelf cfg env (n + 1) b) with inited := true } := by
      simp only [start, bringup, Thread.start, hmc, hb, hg]
    have hhold : Holding inherited b :=
      ⟨congrArg SigAction.handler hset.sigtrap, hset.oldsaFpe, hset.oldsaTrap,
        hset.origRoundConfig.symm ▸ A.isRoundConfig_zero, by rintro _ ⟨⟩; exact htrap⟩
    rw [hstart]
    split_ifs
    · exact ⟨hhold.ours, hhold.oldsaFpe, hhold.oldsaTrap, hhold.round, hhold.abortingInTrap⟩
    · by_cases hmask : .sigtrap ∈ mask
      · rw [kickSelf_of_blocked (d := b) _ hmask]
        exact ⟨hhold.ours, hhold.oldsaFpe, hhold.oldsaTrap, hhold.round, hhold.abortingInTrap⟩
      · rw [kickSelf_eq (d := b) hmask hhold.ours rfl (.inl hstate), if_pos hstate]
        exact ⟨hhold.ours, hhold.oldsaFpe, hhold.oldsaTrap, A.isRoundConfig_get _ _,
          by rintro _ ⟨⟩; exact htrap⟩

theorem inCharge_of_run {es : List (DeliveryEvent A)} {tid : Nat} {uc : A.UContext}
    {mask : List Signal} {code : Mem} (hrun : Run.run (step cfg libc (n + 1))
      (start cfg env libc (n + 1) tid uc inherited mask code) es = some d) :
    InCharge inherited d :=
  Run.invariant (fun _ _ _ h hstep => h.step hstep)
    (inCharge_start cfg env libc n tid uc inherited mask code) hrun

/-! ## The abort -/

theorem pushed_beginAbort (cfg : Config A) (env : Env) (libc : Libc A) (mc : MonitoringContext)
    (f : Flow A) : (f.beginAbort cfg env libc mc).pushed = f.pushed ++
      if cfg.createMonitorFile then [.abort (env.abortCycles - mc.startTime)] else [] := by
  unfold Flow.beginAbort Flow.writeAbort
  split_ifs
  · rfl
  · simp

structure Withdrawn (cfg : Config A) (env : Env) (inherited : Signal → SigAction)
    (mc : MonitoringContext) (d b : Delivery A) : Prop where
  uc : ∃ f mc', f.origRoundConfig = d.origRoundConfig ∧ b.uc = (standDown cfg mc' f).uc
  sigfpe : b.sigaction .sigfpe = inherited .sigfpe
  sigtrap : b.sigaction .sigtrap = inherited .sigtrap
  pushed : b.pushed =
    d.pushed ++ if cfg.createMonitorFile then [.abort (env.abortCycles - mc.startTime)] else []
  inited : b.inited = true
  aborted : b.aborted = true
  pending : b.trapPending = false
  state : ∃ mc', b.mc = some mc' ∧ mc'.state = .abort

theorem withdrawn_abortOperation {mc : MonitoringContext} (h : InCharge inherited d)
    (hi : d.inited = true) (ha : d.aborted = false) (hopen : .sigtrap ∉ d.blocked)
    (hmc : d.mc = some mc) :
    Withdrawn cfg env inherited mc d
      (abortOperation (abortOps cfg env libc (kickSelf cfg env (n + 1))) d) := by
  have hhold := h.holding hi ha
  have hpushed := pushed_beginAbort cfg env libc mc d.toFlow
  obtain ⟨buffer, pushed, written, hbegin, -⟩ := beginAbort_eq cfg env d.toFlow libc mc
  rw [abortOperation_eq hi ha hmc]
  set b := d.lift (Flow.beginAbort cfg env libc mc) with hb
  have hpushed' : b.pushed = _ := hpushed
  rw [lift, hbegin] at hb
  have hours : (b.sigaction .sigtrap).handler = .sigtrapHandler := by simpa [hb] using hhold.ours
  have hmc' : b.mc = some { mc with state := .abort, traceRecords := buffer } := by rw [hb]
  have hblocked : .sigtrap ∉ b.blocked := hopen
  dsimp only
  rw [if_neg (by simp [hhold.abortingInTrap mc hmc]),
    kickSelf_eq hblocked hours hmc' (.inr rfl), if_neg (by simp)]
  refine ⟨⟨b.kicked.toFlow, _, by rw [hb]; rfl, rfl⟩, ?_, ?_, hpushed', ?_, rfl, rfl, ⟨_, rfl, rfl⟩⟩
  · have hfpe : b.sigaction .sigfpe = d.oldsaFpe := by simp [hb]
    show Function.update b.sigaction .sigtrap b.oldsaTrap .sigfpe = _
    rw [Function.update_of_ne (show Signal.sigfpe ≠ .sigtrap by decide), hfpe, hhold.oldsaFpe]
  · have htrap : b.oldsaTrap = d.oldsaTrap := by rw [hb]
    show Function.update b.sigaction .sigtrap b.oldsaTrap .sigtrap = _
    rw [Function.update_self, htrap, hhold.oldsaTrap]
  · have hinit : b.inited = d.inited := by rw [hb]
    exact hinit.trans hi

/-! ## After the abort -/

structure Gone (d : Delivery A) : Prop where
  inited : d.inited = true
  aborted : d.aborted = true
  pending : d.trapPending = false
  sigfpe : (d.sigaction .sigfpe).Foreign
  sigtrap : (d.sigaction .sigtrap).Foreign
  state : ∀ mc, d.mc = some mc → mc.state = .abort

/-- The step only forwards: it does what it would do without FPSpy, and leaves no record. -/
structure Forwards (e : DeliveryEvent A) (d r : Delivery A) : Prop where
  native : (r.uc, r.sigaction) = e.native (d.uc, d.sigaction)
  pushed : r.pushed = d.pushed

theorem Foreign.update {s : Signal → SigAction} {sig at' : Signal} {act : SigAction}
    (h : (s at').Foreign) (hact : act.Foreign) : (Function.update s sig act at').Foreign := by
  rw [Function.update_apply]
  split_ifs
  · exact hact
  · exact h

/-- An alarm is noted at most. -/
theorem Gone.expiry (h : Gone d) :
    Gone (d.lift (sigalrmHandler cfg env)) ∧
      Forwards (.expiry env) d (d.lift (sigalrmHandler cfg env)) := by
  cases hmc : d.mc with
  | none =>
    have heq : d.lift (sigalrmHandler cfg env) = d := by simp [lift, sigalrmHandler, hmc]
    rw [heq]
    exact ⟨h, rfl, rfl⟩
  | some mc =>
    have hstate := h.state mc hmc
    have heq : d.lift (sigalrmHandler cfg env) = { d with
        mc := some { mc with sampler := { mc.sampler with delayedProcessing := true } } } := by
      simp [lift, sigalrmHandler, hmc, hstate]
    rw [heq]
    refine ⟨⟨h.inited, h.aborted, h.pending, h.sigfpe, h.sigtrap, ?_⟩, rfl, rfl⟩
    rintro _ ⟨⟩
    exact hstate

theorem Gone.orig (h : Gone d) {act : SigAction} (hact : act.Foreign) (sig : Signal) :
    Gone (origSigaction sig act d).1 :=
  ⟨h.inited, h.aborted, h.pending, Foreign.update h.sigfpe hact, Foreign.update h.sigtrap hact,
    h.state⟩

theorem guarded_of_aborted {O : AbortOps (Delivery A)} {ρ : Type} {watched aggressive : Bool}
    {orig : Delivery A → Delivery A × ρ} {refused : ρ} (ha : O.aborted d = true) :
    Shim.guarded O aggressive watched orig refused d = orig d := by
  simp [Shim.guarded, ha]

theorem Gone.step (h : Gone d) {e : DeliveryEvent A} (hown : e.Own)
    (hstep : d.step cfg libc n e = some r) : Gone r ∧ Forwards e d r := by
  cases step_effect hstep with
  | fpTrap hopen hours => exact absurd hours h.sigfpe.1
  | brkTrap _ hours => exact absurd hours h.sigtrap.2
  | expiry => exact h.expiry
  | sigint => cases hown
  | fork =>
    simp only [Delivery.fork, h.aborted, if_true]
    refine ⟨⟨h.inited, h.aborted, rfl, h.sigfpe, h.sigtrap, fun mc hnone => ?_⟩, rfl, rfl⟩
    exact absurd hnone.symm (Option.some_ne_none mc)
  | @fe env =>
    simp only [Shim.fe, abortOperation_of_aborted (abortOps cfg env libc (kickSelf cfg env n))
      h.inited h.aborted]
    exact ⟨h, rfl, rfl⟩
  | @signal env sig func =>
    rw [Shim.signal, guarded_of_aborted h.aborted]
    exact ⟨h.orig (show (SigAction.ofSignal sig func).Foreign from hown) sig, rfl, rfl⟩
  | @sigaction env sig act =>
    rw [Shim.sigaction, guarded_of_aborted h.aborted]
    exact ⟨h.orig hown sig, rfl, rfl⟩
  | target => exact ⟨⟨h.inited, h.aborted, h.pending, h.sigfpe, h.sigtrap, h.state⟩, rfl, rfl⟩
  | sigmask =>
    rw [returned, if_neg (by simp [h.pending])]
    exact ⟨⟨h.inited, h.aborted, h.pending, h.sigfpe, h.sigtrap, h.state⟩, rfl, rfl⟩

/-- From an abort on, the target is on its own. -/
theorem Gone.run (h : Gone d) {es : List (DeliveryEvent A)} (hown : ∀ e ∈ es, e.Own)
    (hrun : Run.run (Delivery.step cfg libc n) d es = some r) :
    (r.uc, r.sigaction) = es.foldl DeliveryEvent.native (d.uc, d.sigaction) ∧
      r.pushed = d.pushed := by
  induction es generalizing d with
  | nil =>
    obtain rfl := Option.some.inj hrun
    exact ⟨rfl, rfl⟩
  | cons e es ih =>
    obtain ⟨t, ht, hr⟩ := Run.run_cons.mp hrun
    obtain ⟨hgone, hforward⟩ := h.step (hown e List.mem_cons_self) ht
    obtain ⟨hnative, hpushed⟩ := ih hgone (fun e he => hown e (List.mem_cons_of_mem _ he)) hr
    rw [List.foldl_cons, ← hforward.native]
    exact ⟨hnative, hpushed.trans hforward.pushed⟩

theorem guarded_of_watched {O : AbortOps (Delivery A)} {ρ : Type} {watched aggressive : Bool}
    {orig : Delivery A → Delivery A × ρ} {refused : ρ} (hw : watched = true)
    (hmode : O.mode = .individual) (ha : O.aborted d = false) (hagg : aggressive = false) :
    Shim.guarded O aggressive watched orig refused d = orig (abortOperation O d) := by
  simp [Shim.guarded, hw, hmode, ha, hagg]

/-- A call that aborts is the abort, and then the same call with FPSpy gone. -/
theorem step_of_aborts {e : DeliveryEvent A} {b : Delivery A} (he : e.aborts cfg = some env)
    (ha : d.aborted = false) (hinited : b.inited = true) (haborted : b.aborted = true)
    (hb : abortOperation (abortOps cfg env libc (kickSelf cfg env n)) d = b) :
    d.step cfg libc n e = b.step cfg libc n e := by
  cases e with
  | fe env' =>
    obtain rfl := Option.some.inj he
    have hnop := abortOperation_of_aborted (abortOps cfg env' libc (kickSelf cfg env' n)) hinited
      haborted
    simp only [Delivery.step, Shim.fe, hb, hnop]
  | signal env' sig func =>
    simp only [DeliveryEvent.aborts] at he
    split_ifs at he with hcond
    obtain rfl := Option.some.inj he
    simp only [Delivery.step, Shim.signal]
    rw [guarded_of_watched (by simpa using hcond.1) rfl ha hcond.2, hb, guarded_of_aborted haborted]
  | sigaction env' sig act =>
    simp only [DeliveryEvent.aborts] at he
    split_ifs at he with hcond
    obtain rfl := Option.some.inj he
    simp only [Delivery.step, Shim.sigaction]
    rw [guarded_of_watched (by simpa using hcond.1) rfl ha hcond.2, hb, guarded_of_aborted haborted]
  | fpTrap | brkTrap | expiry | sigint | fork | target | sigmask => cases he

theorem Withdrawn.gone {b : Delivery A} {mc : MonitoringContext}
    (h : Withdrawn cfg env inherited mc d b) (hfpe : (inherited .sigfpe).Foreign)
    (htrap : (inherited .sigtrap).Foreign) : Gone b := by
  refine ⟨h.inited, h.aborted, h.pending, h.sigfpe ▸ hfpe, h.sigtrap ▸ htrap, fun mc hmc => ?_⟩
  obtain ⟨mc', hmc', hstate⟩ := h.state
  obtain rfl := Option.some.inj (hmc'.symm.trans hmc)
  exact hstate

end Delivery
end

/-! ## The registers of x64 -/

namespace X64

variable {cfg : Config x64}

/-- FPSpy has withdrawn from a thread. -/
structure Retired (cfg : Config x64) (origRoundConfig : BitVec 32) (uc : UContext) : Prop where
  masked : uc.mxcsr &&& cfg.statics.mxcsrMaskMask = cfg.statics.mxcsrMaskMask
  flags : uc.mxcsr &&& cfg.statics.mxcsrFlagMask = 0
  tf : tf uc = false
  round : cfg.controlRoundConfig = true → uc.mxcsr &&& mxcsrRoundDazFtzMask = origRoundConfig

theorem retired_standDown {f : Flow x64} (hround : x64.IsRoundConfig f.origRoundConfig)
    (mc : MonitoringContext) : Retired cfg f.origRoundConfig (standDown cfg mc f).uc := by
  have hdown := disarmed_standDown cfg hround mc
  have hmasked : ¬ trapsUnmasked cfg.statics (standDown cfg mc f).uc = true := by
    rw [show trapsUnmasked cfg.statics (standDown cfg mc f).uc = false from hdown.1]
    decide
  -- the six flags avoid the masks and the rounding field
  have hmask : cfg.statics.mxcsrMaskMask &&& cfg.statics.mxcsrFlagMask = 0 := by
    rw [BitVec.and_comm]
    exact cfg.statics.flag_disjoint_mask
  have hfield : mxcsrRoundDazFtzMask &&& cfg.statics.mxcsrFlagMask = 0 := by
    rw [BitVec.and_comm]
    exact Bits.disjoint_of_subset cfg.statics.flagMask_subset (by decide)
  have hclear : ((f.uc.mxcsr &&& ~~~cfg.statics.mxcsrFlagMask) ||| cfg.statics.mxcsrMaskMask) &&&
      cfg.statics.mxcsrFlagMask = 0 := by
    rw [Bits.or_and_of_disjoint _ hmask, Bits.andNot_and_self]
  refine ⟨by simpa [trapsUnmasked] using hmasked, ?_, hdown.2, fun hcontrol => ?_⟩
  · simp only [standDown, forceRound]
    split_ifs
    · simp only [archSetRoundConfig, archMaskFpTraps, archClearFpExceptions, archResetTrapMode,
        archResetTrapModeNull]
      rw [Bits.or_and_of_disjoint _ (Bits.disjoint_of_subset hround hfield),
        Bits.andNot_and_of_disjoint _ hfield, hclear]
    · exact hclear
  · simp only [standDown, forceRound, hcontrol, if_true, archSetRoundConfig, archResetTrapMode,
      archResetTrapModeNull]
    rw [BitVec.and_or_distrib_right, Bits.andNot_and_self, Bits.and_of_subset hround]
    exact BitVec.zero_or

/-- A call that makes FPSpy get out of the way, while the target does not block SIGTRAP: the abort
is complete, and it is final. The record is written where there is a trace to write it to. -/
theorem run_retires (cfg : Config x64) (env : Env) (libc : Libc x64) (n tid : Nat) (uc : UContext)
    (inherited : Signal → SigAction) (mask : List Signal) (code : Mem)
    (hfpe : (inherited .sigfpe).Foreign) (htrap : (inherited .sigtrap).Foreign)
    (es : List (DeliveryEvent x64)) {d : Delivery x64}
    (hrun : Run.run (Delivery.step cfg libc (n + 1))
      (.start cfg env libc (n + 1) tid uc inherited mask code) es = some d)
    {mc : MonitoringContext} (hi : d.inited = true) (ha : d.aborted = false)
    (hopen : .sigtrap ∉ d.blocked) (hmc : d.mc = some mc) (call : DeliveryEvent x64) {env' : Env}
    (hcall : call.aborts cfg = some env') :
    ∃ b,
      abortOperation (Delivery.abortOps cfg env' libc (Delivery.kickSelf cfg env' (n + 1))) d = b ∧
      Retired cfg d.origRoundConfig b.uc ∧
      b.sigaction .sigfpe = inherited .sigfpe ∧ b.sigaction .sigtrap = inherited .sigtrap ∧
      b.pushed = d.pushed ++
        (if cfg.createMonitorFile then [.abort (env'.abortCycles - mc.startTime)] else []) ∧
      ∀ later r, (∀ e ∈ call :: later, e.Own) →
        Run.run (Delivery.step cfg libc (n + 1)) d (call :: later) = some r →
        (r.uc, r.sigaction) =
            (call :: later).foldl DeliveryEvent.native (b.uc, b.sigaction) ∧
          r.pushed = b.pushed := by
  have hcharge := Delivery.inCharge_of_run hrun
  have hwith : Delivery.Withdrawn cfg env' inherited mc d (abortOperation
      (Delivery.abortOps cfg env' libc (Delivery.kickSelf cfg env' (n + 1))) d) :=
    Delivery.withdrawn_abortOperation hcharge hi ha hopen hmc
  refine ⟨_, rfl, ?_, hwith.sigfpe, hwith.sigtrap, hwith.pushed, fun later r hown hr => ?_⟩
  · obtain ⟨f, mc', hf, huc⟩ := hwith.uc
    rw [huc, ← hf]
    exact retired_standDown (hf.symm ▸ (hcharge.holding hi ha).round) mc'
  · have hr' : Run.run (Delivery.step cfg libc (n + 1)) (abortOperation
        (Delivery.abortOps cfg env' libc (Delivery.kickSelf cfg env' (n + 1))) d) (call :: later) =
        some r := by
      rw [Run.run, ← Delivery.step_of_aborts hcall ha hwith.inited hwith.aborted rfl]
      exact hr
    exact (hwith.gone hfpe htrap).run hown hr'

/-- A traced target that calls an `fe*` function. -/
theorem run_retires_traced :
    ∃ b, abortOperation (Delivery.abortOps plain quietEnv libc (Delivery.kickSelf plain quietEnv 1))
        (delivered plain) = b ∧
      Retired plain 0 b.uc ∧ b.sigaction .sigfpe = .zero ∧ b.sigaction .sigtrap = .zero ∧
      b.pushed = [.abort 0] ∧
      ∀ later r, (∀ e ∈ .fe quietEnv :: later, DeliveryEvent.Own e) →
        Run.run (Delivery.step plain libc 1) (delivered plain) (.fe quietEnv :: later) = some r →
        (r.uc, r.sigaction) =
            (.fe quietEnv :: later).foldl DeliveryEvent.native (b.uc, b.sigaction) ∧
          r.pushed = b.pushed := by
  have hforeign : SigAction.zero.Foreign := by decide
  obtain ⟨mc, hmc, hstart⟩ : ∃ mc, (delivered plain).mc = some mc ∧ mc.startTime = 0 :=
    ⟨_, rfl, rfl⟩
  obtain ⟨b, hb, hret, hfpe, htrap, hpushed, hlater⟩ :=
    run_retires plain quietEnv libc 0 1 ⟨fun _ => 0, 0x1f80⟩ (fun _ => .zero) []
      (fun _ => 0) hforeign hforeign [] (d := delivered plain) rfl rfl rfl (by decide) hmc
      (.fe quietEnv) rfl
  refine ⟨b, hb, hret, hfpe, htrap, ?_, hlater⟩
  rw [hpushed, hstart]
  rfl

def untraced : Config x64 := { plain with createMonitorFile := false }

/-- A target whose SIGINT had a handler before FPSpy came up: FPSpy shuts down on it, but keeps its
other handlers, and the child of a fork is brought up in the process that has been shut down. -/
def revived : Option (Delivery x64) :=
  Run.run (Delivery.step plain libc 1)
    (.start plain quietEnv libc 1 1 ⟨fun _ => 0, 0x1f80⟩
      (Function.update (fun _ => .zero) .sigint ⟨.target 0, [], 0⟩) [] (fun _ => 0))
    [.sigint, .fork quietEnv 2 (some .zero)]

def deaf : Option (Delivery x64) :=
  Run.run (Delivery.step plain libc 1) (delivered plain) [.sigmask quietEnv [.sigtrap]]

/-- Without a trace there is no abort record; an abort in a process that has been shut down puts
back FPSpy's own handlers, so that a later trap is recorded; and where the target blocks SIGTRAP
the kick of the abort is not taken: the denormal trap stays unmasked, and the kick goes to the
target's own disposition in the end. -/
theorem not_retires_untraced :
    (∃ mc, (delivered untraced).mc = some mc ∧ mc.state = .awaitFpe ∧
      ¬ ∃ time, (abortOperation (Delivery.abortOps untraced quietEnv libc
        (Delivery.kickSelf untraced quietEnv 1)) (delivered untraced)).pushed =
          (delivered untraced).pushed ++ [.abort time]) ∧
    (∃ d mc, revived = some d ∧ d.mc = some mc ∧ mc.state = .awaitFpe ∧ d.aborted = false ∧
      ∃ r, Run.run (Delivery.step plain libc 1) d
          [.fe quietEnv, .target ⟨fun _ => 0, 0⟩, .fpTrap quietEnv 0] = some r ∧
        r.pushed ≠ (abortOperation (Delivery.abortOps plain quietEnv libc
          (Delivery.kickSelf plain quietEnv 1)) d).pushed) ∧
    ∃ d mc, deaf = some d ∧ d.mc = some mc ∧ mc.state = .awaitFpe ∧
      ¬ Retired plain d.origRoundConfig (abortOperation (Delivery.abortOps plain quietEnv libc
        (Delivery.kickSelf plain quietEnv 1)) d).uc ∧
      ∃ r, Run.run (Delivery.step plain libc 1) d [.fe quietEnv, .sigmask quietEnv []] = some r ∧
        .diverted ∈ r.log := by
  refine ⟨⟨_, rfl, rfl, ?_⟩, ?_, _, _, rfl, rfl, rfl, fun h => ?_, _, rfl, ?_⟩
  · rintro ⟨time, h⟩
    cases h
  · refine ⟨_, _, rfl, rfl, rfl, rfl, _, rfl, ?_⟩
    decide
  · exact absurd h.masked (by decide)
  · decide

end X64

end FPSpy
