import FPSpy.Individual.Delivery

/-!
# Kicks are taken by FPSpy

`abort_operation` kicks the thread so that its own SIGTRAP handler masks the traps, and then
gives SIGTRAP back. That works if the kick is taken at once. In a handler SIGTRAP is
blocked: the kick stays pending, and reaches the target's disposition, which by default
kills it. Only `brk_trap_handler` in AWAIT_FPE avoids this, with `aborting_in_trap`;
`fp_trap_handler` in a surprise state does not, and neither does any thread without a
context, whose kick makes `brk_trap_handler` abort once more.

All kicks are taken in every run whose steps are `Quiet`: a call that aborts finds a
context or can make one, a handler has no reason to kick, and the target does not block
SIGTRAP itself.
-/
namespace FPSpy

section

variable {A : Arch} {cfg : Config A} {libc : Libc A}

/-- Follow a log: whether a kick is outstanding, or nothing once one has been diverted or was
outstanding when SIGTRAP was given back. -/
def TrapEvent.track : Option Bool → TrapEvent → Option Bool
  | none, _ => none
  | some _, .sent => some true
  | some _, .consumed => some false
  | some _, .diverted => none
  | some outstanding, .restored => if outstanding then none else some false

namespace Delivery

variable {d r : Delivery A} {env : Env} {n : Nat}

def status (d : Delivery A) : Option Bool := d.log.foldl TrapEvent.track (some false)

/-- Every kick was taken by FPSpy's handler, while SIGTRAP was FPSpy's, and none is pending. -/
structure Settled (d : Delivery A) : Prop where
  status : d.status = some false
  pending : d.trapPending = false

/-- An intercepted call finds a context, or FPSpy is out of the way, or can be initialised. -/
def CanAbort (cfg : Config A) (env : Env) (d : Delivery A) : Prop :=
  d.aborted = true ∨ (d.inited = true ∧ d.mc.isSome) ∨
    (d.inited = false ∧ (cfg.createMonitorFile = true → env.openFd.isSome))

def Quiet (cfg : Config A) (d : Delivery A) : DeliveryEvent A → Prop
  | .fpTrap _ _ => (∃ mc, d.mc = some mc ∧ mc.state = .awaitFpe) ∨
    (d.aborted = true ∧ d.inited = true)
  | .brkTrap _ => (∃ mc, d.mc = some mc ∧ (mc.state = .awaitFpe → d.inited = true)) ∨
    (d.aborted = true ∧ d.inited = true)
  | .fork env _ slot => d.aborted = true ∨ (d.sigaction .sigtrap).handler = .sigtrapHandler ∨
    slot = none ∨ (cfg.createMonitorFile = true ∧ env.openFd = none)
  | .fe env => d.CanAbort cfg env
  | .signal env sig _ =>
    (sig = .sigfpe ∨ sig = .sigtrap) → cfg.aggressive = false → d.CanAbort cfg env
  | .sigaction env sig _ => (sig = .sigvtalrm ∨ sig = .sigfpe ∨ sig = .sigtrap) →
    cfg.aggressive = false → d.CanAbort cfg env
  | .sigmask _ mask => .sigtrap ∉ mask
  | .expiry _ | .sigint | .target _ => True

structure Calm (d : Delivery A) : Prop where
  settled : d.Settled
  blocked : .sigtrap ∉ d.blocked
  ours : d.aborted = false → d.inited = true →
    (d.sigaction .sigtrap).handler = .sigtrapHandler

theorem status_note (e : TrapEvent) (d : Delivery A) :
    (d.note e).status = TrapEvent.track d.status e := by
  simp [status, note]

/-! ## Handlers -/

structure SameSignals (f g : Flow A) : Prop where
  inited : g.inited = f.inited
  aborted : g.aborted = f.aborted
  sigaction : g.sigaction = f.sigaction
  trapPending : g.trapPending = f.trapPending
  mc : g.mc.isSome = f.mc.isSome

theorem SameSignals.of_frame {f g : Flow A} (h : HandlerFrame f g) : SameSignals f g := by
  refine ⟨?_, ?_, ?_, ?_, h.mc⟩
  all_goals rw [h.frame]

variable (cfg env) in
theorem sameSignals_brkTrapHandler (f : Flow A) : SameSignals f (brkTrapHandler cfg env f).1 :=
  .of_frame (handlerFrame_brkTrapHandler cfg env f)

variable (cfg env) in
theorem sameSignals_fpTrapHandler (siCode : BitVec 32) (f : Flow A) :
    SameSignals f (fpTrapHandler cfg env siCode f).1 :=
  .of_frame (handlerFrame_fpTrapHandler cfg env siCode f)

variable (cfg env) in
theorem sameSignals_sigalrmHandler (f : Flow A) : SameSignals f (sigalrmHandler cfg env f) :=
  .of_frame (handlerFrame_sigalrmHandler cfg env f)

/-! ## Kicks -/

def entered (d : Delivery A) : Delivery A :=
  { d.note .consumed with
    trapPending := false
    blocked := .sigtrap :: (d.sigaction .sigtrap).mask ++ d.blocked }

theorem takeSigtrap_of_ours {kick : Delivery A → Delivery A}
    (hours : (d.sigaction .sigtrap).handler = .sigtrapHandler) :
    takeSigtrap cfg env kick d =
      { settle cfg env kick (brkTrapHandler cfg env d.entered.toFlow) d.entered with
        blocked := d.blocked } := by
  simp only [takeSigtrap, hours]
  rfl

theorem status_entered (h : d.status ≠ none) : d.entered.status = some false := by
  have hnote := status_note .consumed d
  obtain ⟨outstanding, hd⟩ := Option.ne_none_iff_exists'.mp h
  rw [hd] at hnote
  exact hnote

structure Taken (d r : Delivery A) : Prop where
  settled : r.Settled
  blocked : r.blocked = d.blocked
  sigaction : r.sigaction = d.sigaction
  aborted : r.aborted = d.aborted
  inited : r.inited = d.inited
  mc : r.mc.isSome = d.mc.isSome

/-- A handler that returns, or calls for an abort when FPSpy has aborted before. -/
theorem settle_eq {kick : Delivery A → Delivery A} {x : Flow A × HandlerExit}
    (h : x.2 = .ret ∨ (x.1.inited = true ∧ x.1.aborted = true)) :
    settle cfg env kick x d = { d with toFlow := x.1 } := by
  rcases h with h | ⟨hi, ha⟩
  · rw [settle, h]
  · unfold settle
    split
    · exact abortOperation_of_aborted _ hi ha
    · rfl

/-- A SIGTRAP in a state that expects it, or after an abort. -/
theorem taken_takeSigtrap (kick : Delivery A → Delivery A) (hstatus : d.status ≠ none)
    (hours : (d.sigaction .sigtrap).handler = .sigtrapHandler)
    (hret : (brkTrapHandler cfg env d.entered.toFlow).2 = .ret ∨
      (d.inited = true ∧ d.aborted = true)) :
    Taken d (takeSigtrap cfg env kick d) := by
  have hsame := sameSignals_brkTrapHandler cfg env d.entered.toFlow
  have hret' := hret.imp_right fun h => And.intro (hsame.inited.trans h.1) (hsame.aborted.trans h.2)
  rw [takeSigtrap_of_ours hours, settle_eq hret']
  exact ⟨⟨status_entered hstatus, hsame.trapPending⟩, rfl, hsame.sigaction, hsame.aborted,
    hsame.inited, hsame.mc⟩

variable (cfg env n) in
theorem taken_kickSelf {mc : MonitoringContext} (hs : d.Settled) (hb : .sigtrap ∉ d.blocked)
    (hours : (d.sigaction .sigtrap).handler = .sigtrapHandler) (hmc : d.mc = some mc)
    (hstate : mc.state = .init ∨ mc.state = .abort) : Taken d (kickSelf cfg env (n + 1) d) := by
  have hstatus : (d.note .sent).status ≠ none := by
    rw [status_note, hs.status]
    nofun
  have hret : (brkTrapHandler cfg env (d.note .sent).entered.toFlow).2 = .ret := by
    have hmc' : (d.note .sent).entered.mc = some mc := hmc
    rcases hstate with hstate | hstate <;> simp [brkTrapHandler, hmc', hstate]
  have htaken := taken_takeSigtrap (kickSelf cfg env n) hstatus hours (.inl hret)
  rw [kickSelf, if_neg hb]
  exact ⟨htaken.settled, htaken.blocked, htaken.sigaction, htaken.aborted, htaken.inited,
    htaken.mc⟩

/-! ## Aborts -/

/-- What an abort does in a thread that has a context. -/
theorem abortOperation_eq {kick : Delivery A → Delivery A} {mc : MonitoringContext}
    (hi : d.inited = true) (ha : d.aborted = false) (hmc : d.mc = some mc) :
    abortOperation (abortOps cfg env libc kick) d =
      let b := d.lift (Flow.beginAbort cfg env libc mc)
      let b := if mc.abortingInTrap then b else kick b
      { b.note .restored with
        sigaction := Function.update b.sigaction .sigtrap b.oldsaTrap
        aborted := true } := by
  simp [abortOperation, abortOps, hi, ha, hmc, lift, Flow.abortOps, Flow.beginAbort, note]

/-- SIGTRAP is given back when no kick is outstanding. -/
theorem Settled.restored (h : d.Settled) (a : Signal → SigAction) :
    Settled { d.note .restored with sigaction := a, aborted := true } := by
  refine ⟨?_, h.pending⟩
  have hnote := status_note .restored d
  rw [h.status] at hnote
  exact hnote

/-- FPSpy is out of the way, and no kick is left behind. -/
structure Away (d r : Delivery A) : Prop where
  settled : r.Settled
  blocked : r.blocked = d.blocked
  aborted : r.aborted = true

variable (cfg libc env n) in
/-- An abort in a thread that has a context, if the kick it makes is taken at once. -/
theorem away_abortOperation {mc : MonitoringContext} (h : d.Settled)
    (hi : d.inited = true) (ha : d.aborted = false) (hmc : d.mc = some mc)
    (hkick : mc.abortingInTrap = false →
      .sigtrap ∉ d.blocked ∧ (d.sigaction .sigtrap).handler = .sigtrapHandler) :
    Away d (abortOperation (abortOps cfg env libc (kickSelf cfg env (n + 1))) d) := by
  obtain ⟨buffer, pushed, written, hbegin, -⟩ := beginAbort_eq cfg env d.toFlow libc mc
  rw [abortOperation_eq hi ha hmc]
  set b := d.lift (Flow.beginAbort cfg env libc mc) with hb
  rw [lift, hbegin] at hb
  have hsettled : b.Settled := ⟨hb ▸ h.status, hb ▸ h.pending⟩
  have hblocked : b.blocked = d.blocked := rfl
  have hmc' : b.mc = some { mc with state := .abort, traceRecords := buffer } := by rw [hb]
  dsimp only
  split_ifs with htrap
  · exact ⟨hsettled.restored _, rfl, rfl⟩
  · obtain ⟨hnone, hours⟩ := hkick (by simpa using htrap)
    have htaken := taken_kickSelf cfg env n hsettled (hblocked ▸ hnone)
      (by simpa [hb] using hours) hmc' (.inr rfl)
    exact ⟨htaken.settled.restored _, htaken.blocked, rfl⟩

/-! ## Bringup -/

theorem bringupMonitoringContext_isSome {tid : Nat} {slot : MonitoringContext}
    (h : cfg.createMonitorFile = true → env.openFd.isSome) :
    ∃ mc, bringupMonitoringContext cfg env tid slot = some mc := by
  unfold bringupMonitoringContext
  dsimp only
  split_ifs with hfile
  · obtain ⟨fd, hfd⟩ := Option.isSome_iff_exists.mp (h hfile)
    exact ⟨_, by rw [hfd]; rfl⟩
  · exact ⟨_, rfl⟩

structure BroughtUp (d r : Delivery A) : Prop where
  settled : r.Settled
  blocked : r.blocked = d.blocked
  ours : (r.sigaction .sigtrap).handler = .sigtrapHandler
  aborted : r.aborted = d.aborted
  inited : r.inited = true
  mc : r.mc.isSome

variable (libc n) in
/-- The kick of `bringup` finds SIGTRAP set up and the context in INIT. -/
theorem broughtUp_bringup {mc : MonitoringContext} (h : d.Settled) (hb : .sigtrap ∉ d.blocked)
    (hmc : bringupMonitoringContext cfg env d.tid .zero = some mc) :
    BroughtUp d (bringup cfg env libc (kickSelf cfg env (n + 1)) d) := by
  have hset := setupSignals_spec cfg d.toGlobals
  simp only [bringup, hmc]
  set b : Delivery A := { d with
    toGlobals := { setupSignals cfg d.toGlobals with
      itimer := if cfg.timers then mc.sampler.it else (setupSignals cfg d.toGlobals).itimer }
    uc := libc.feclearexceptEnabled d.uc
    mc := some mc } with hbdef
  have hours : (b.sigaction .sigtrap).handler = .sigtrapHandler := by
    rw [hbdef]
    exact congrArg SigAction.handler hset.sigtrap
  have haborted : b.aborted = d.aborted := hset.aborted
  have hsettled : b.Settled := ⟨h.status, h.pending⟩
  split_ifs
  · exact ⟨⟨h.status, h.pending⟩, rfl, hours, haborted, rfl, rfl⟩
  · have htaken := taken_kickSelf cfg env n hsettled hb hours rfl
      (.inl (newContext_of_bringup hmc).state)
    exact ⟨⟨htaken.settled.status, htaken.settled.pending⟩, htaken.blocked,
      (congrArg (fun a => (a .sigtrap).handler) htaken.sigaction).trans hours,
      htaken.aborted.trans haborted, rfl, htaken.mc⟩

variable (cfg libc env n) in
/-- `fpspy_init` leaves no kick behind, whether it succeeds or not. -/
theorem settled_bringup (h : d.Settled) (hb : .sigtrap ∉ d.blocked) :
    (bringup cfg env libc (kickSelf cfg env (n + 1)) d).Settled ∧
      (bringup cfg env libc (kickSelf cfg env (n + 1)) d).blocked = d.blocked ∧
      (bringup cfg env libc (kickSelf cfg env (n + 1)) d).aborted = d.aborted := by
  cases hmc : bringupMonitoringContext cfg env d.tid .zero with
  | none =>
    simp only [bringup, hmc]
    exact ⟨⟨h.status, h.pending⟩, trivial, trivial⟩
  | some mc =>
    have hup := broughtUp_bringup libc n h hb hmc
    exact ⟨hup.settled, hup.blocked, hup.aborted⟩

/-! ## Steps -/

variable (libc n) in
/-- A call that gets FPSpy out of the way leaves no kick behind. -/
theorem away_of_canAbort (h : d.Calm) (hcan : d.CanAbort cfg env) :
    Away d (abortOperation (abortOps cfg env libc (kickSelf cfg env (n + 1))) d) := by
  cases hi : d.inited with
  | true =>
    cases ha : d.aborted with
    | true =>
      rw [abortOperation_of_aborted _ hi ha]
      exact ⟨h.settled, rfl, ha⟩
    | false =>
      obtain ⟨mc, hmc⟩ : ∃ mc, d.mc = some mc := by
        simpa [CanAbort, hi, ha, Option.isSome_iff_exists] using hcan
      exact away_abortOperation cfg libc env n h.settled hi ha hmc fun _ =>
        ⟨h.blocked, h.ours ha hi⟩
  | false =>
    cases ha : d.aborted with
    | true =>
      -- The flag survives `fpspy_deinit`: FPSpy comes up once more, and does nothing else.
      obtain ⟨hsettled, hblocked, haborted⟩ :=
        settled_bringup cfg libc env n h.settled h.blocked
      have hnop : abortOperation (abortOps cfg env libc (kickSelf cfg env (n + 1))) d =
          bringup cfg env libc (kickSelf cfg env (n + 1)) d := by
        simp [abortOperation, abortOps, hi, haborted.trans ha]
      rw [hnop]
      exact ⟨hsettled, hblocked, haborted.trans ha⟩
    | false =>
      obtain ⟨mc, hmc⟩ : ∃ mc, bringupMonitoringContext cfg env d.tid .zero = some mc :=
        bringupMonitoringContext_isSome (by simpa [CanAbort, hi, ha] using hcan)
      have hup := broughtUp_bringup libc n h.settled h.blocked hmc
      obtain ⟨mc', hmc'⟩ := Option.isSome_iff_exists.mp hup.mc
      have haway := away_abortOperation cfg libc env n hup.settled
        hup.inited (hup.aborted.trans ha) hmc' fun _ => ⟨hup.blocked ▸ h.blocked, hup.ours⟩
      rw [abortOperation_fpspyInit (abortOps cfg env libc (kickSelf cfg env (n + 1))) hi hup.inited]
      exact ⟨haway.settled, haway.blocked.trans hup.blocked, haway.aborted⟩

theorem Calm.of_away (h : Away d r) (hb : .sigtrap ∉ d.blocked) : r.Calm :=
  ⟨h.settled, h.blocked ▸ hb, fun ha => absurd ha (by simp [h.aborted])⟩

theorem Calm.of_taken (h : Taken d r) (hb : .sigtrap ∉ d.blocked)
    (hours : (d.sigaction .sigtrap).handler = .sigtrapHandler) : r.Calm :=
  ⟨h.settled, h.blocked ▸ hb, fun _ _ => h.sigaction ▸ hours⟩

theorem Calm.handled (h : d.Calm) {f : Flow A} (hsame : SameSignals d.toFlow f) :
    Calm { d with toFlow := f } where
  settled := ⟨h.settled.status, hsame.trapPending.trans h.settled.pending⟩
  blocked := h.blocked
  ours ha hi := by
    rw [hsame.sigaction]
    exact h.ours (hsame.aborted.symm.trans ha) (hsame.inited.symm.trans hi)

theorem returned_of_settled {kick : Delivery A → Delivery A} (h : d.Settled) :
    returned cfg env kick d = d := by
  simp [returned, h.pending]

theorem Calm.fpTrap (h : d.Calm) {siCode : BitVec 32} (hq : Quiet cfg d (.fpTrap env siCode))
    (habort : (fpTrapHandler cfg env siCode d.toFlow).2 ≠ .abort)
    (hdivide : (fpTrapHandler cfg env siCode d.toFlow).2 ≠ .divideError)
    (kick : Delivery A → Delivery A) :
    (returned cfg env kick
      (handling .sigfpe (settle cfg env kick (fpTrapHandler cfg env siCode d.toFlow)) d)).Calm := by
  have hsame := sameSignals_fpTrapHandler cfg env siCode d.toFlow
  have hret : (fpTrapHandler cfg env siCode d.toFlow).2 = .ret ∨
      ((fpTrapHandler cfg env siCode d.toFlow).1.inited = true ∧
        (fpTrapHandler cfg env siCode d.toFlow).1.aborted = true) := by
    rcases hq with ⟨mc, hmc, hstate⟩ | ⟨ha, hi⟩
    · have habort' : cfg.abortOnFpe = false := by
        by_contra hon
        exact habort (by simp [fpTrapHandler, Bool.not_eq_false _ ▸ hon])
      have hperiod : cfg.samplePeriod ≠ 0#32 := by
        intro hzero
        exact hdivide (by simp [fpTrapHandler, habort', hmc, hzero])
      obtain ⟨buffer, written, heq⟩ := fpTrapHandler_eq cfg env siCode hmc habort' hperiod
      exact .inl (by rw [heq, if_pos hstate])
    · exact .inr ⟨hsame.inited.trans hi, hsame.aborted.trans ha⟩
  have hcalm := h.handled hsame
  rw [handling, settle_eq hret]
  exact (returned_of_settled hcalm.settled).symm ▸ hcalm

theorem Calm.brkTrap (h : d.Calm) (hq : Quiet cfg d (.brkTrap env))
    (hours : (d.sigaction .sigtrap).handler = .sigtrapHandler) :
    (returned cfg env (kickSelf cfg env (n + 1))
      (takeSigtrap cfg env (kickSelf cfg env (n + 1)) d)).Calm := by
  suffices hcalm : (takeSigtrap cfg env (kickSelf cfg env (n + 1)) d).Calm from
    (returned_of_settled hcalm.settled).symm ▸ hcalm
  have hstatus : d.status ≠ none := by simp [h.settled.status]
  by_cases hdone : d.inited = true ∧ d.aborted = true
  · exact .of_taken (taken_takeSigtrap _ hstatus hours (.inr hdone)) h.blocked hours
  obtain ⟨mc, hmc, hinit⟩ := hq.resolve_right fun h => hdone h.symm
  have hmc' : d.entered.mc = some mc := hmc
  by_cases hstate : mc.state = .awaitFpe
  · have hi := hinit hstate
    have ha : d.aborted = false := by simpa [hi] using hdone
    rw [takeSigtrap_of_ours hours, brkTrapHandler_awaitFpe env hmc' hstate, settle]
    have haway := away_abortOperation cfg .inHandler env n (d := { d.entered with
      toFlow := standDown cfg { mc with abortingInTrap := true } d.entered.toFlow })
      ⟨status_entered hstatus, rfl⟩ hi ha rfl nofun
    exact ⟨⟨haway.settled.status, haway.settled.pending⟩, h.blocked,
      fun ha => absurd ha (by simp [haway.aborted])⟩
  · refine .of_taken (taken_takeSigtrap _ hstatus hours (.inl ?_)) h.blocked hours
    simp only [brkTrapHandler, hmc']
    cases hs : mc.state with
    | awaitFpe => exact absurd hs hstate
    | init | awaitTrap | abort => rfl

theorem Calm.fork (h : d.Calm) {tid : Nat} {slot : Option MonitoringContext}
    (hq : Quiet cfg d (.fork env tid slot)) :
    (d.fork cfg env libc (kickSelf cfg env (n + 1)) tid slot).Calm := by
  unfold Delivery.fork
  dsimp only
  split_ifs with ha
  · exact ⟨⟨h.settled.status, rfl⟩, h.blocked, h.ours⟩
  cases hmc : slot.bind (bringupMonitoringContext cfg env tid) with
  | none => exact ⟨⟨h.settled.status, rfl⟩, h.blocked, h.ours⟩
  | some mc =>
    obtain ⟨c, rfl, hc⟩ := Option.bind_eq_some_iff.mp hmc
    have hours : (d.sigaction .sigtrap).handler = .sigtrapHandler := by
      rcases hq with hq | hq | hq | ⟨hfile, hopen⟩
      · exact absurd hq ha
      · exact hq
      · exact absurd hq (by simp)
      · simp [bringupMonitoringContext, hfile, hopen] at hc
    exact .of_taken (taken_kickSelf cfg env n (d := { d with
      tid := tid
      uc := libc.feclearexceptEnabled d.uc
      mc := some mc
      trapPending := false }) ⟨h.settled.status, rfl⟩ h.blocked hours rfl
      (.inl (newContext_of_bringup hc).state)) h.blocked hours

/-- The calls that set a disposition. Those that get through without an abort leave SIGTRAP
alone. -/
theorem Calm.guarded (h : d.Calm) {watched : Bool} {sig : Signal} {act : SigAction}
    (hsig : sig = .sigtrap → watched = true)
    (hcan : watched = true → cfg.aggressive = false → d.CanAbort cfg env) :
    (Shim.guarded (abortOps cfg env libc (kickSelf cfg env (n + 1))) cfg.aggressive watched
      (origSigaction sig act) () d).1.Calm := by
  unfold Shim.guarded
  split_ifs with hwatched haggressive
  · exact h
  · have haway := away_of_canAbort libc n h
      (hcan hwatched.1 (by simpa using haggressive))
    exact ⟨⟨haway.settled.status, haway.settled.pending⟩, haway.blocked ▸ h.blocked,
      fun ha => absurd ha (by simp [origSigaction, haway.aborted])⟩
  · refine ⟨⟨h.settled.status, h.settled.pending⟩, h.blocked, fun ha hi => ?_⟩
    have hne : Signal.sigtrap ≠ sig := fun heq => hwatched ⟨hsig heq.symm, rfl, ha⟩
    simpa [origSigaction, hne] using h.ours ha hi

theorem Calm.step (h : d.Calm) {e : DeliveryEvent A} (hq : Quiet cfg d e)
    (hstep : d.step cfg libc (n + 1) e = some r) : r.Calm := by
  cases step_effect hstep with
  | fpTrap hopen hours habort hnull hdivide => exact h.fpTrap hq habort hdivide _
  | brkTrap _ hours => exact h.brkTrap hq hours
  | expiry => exact h.handled (sameSignals_sigalrmHandler cfg _ d.toFlow)
  | sigint => exact ⟨⟨h.settled.status, h.settled.pending⟩, h.blocked, nofun⟩
  | fork => exact h.fork hq
  | fe => exact .of_away (away_of_canAbort libc n h hq) h.blocked
  | signal => exact h.guarded (by simp +contextual) (by simpa [Quiet] using hq)
  | sigaction => exact h.guarded (by simp +contextual) (by simpa [Quiet] using hq)
  | target => exact ⟨⟨h.settled.status, h.settled.pending⟩, h.blocked, h.ours⟩
  | @sigmask env mask =>
    have hsettled : Settled { d with blocked := mask } := ⟨h.settled.status, h.settled.pending⟩
    rw [returned_of_settled hsettled]
    exact ⟨hsettled, hq, h.ours⟩

/-- Whatever dispositions it has inherited, and whether FPSpy can come up in it or not. -/
theorem calm_start (cfg : Config A) (env : Env) (libc : Libc A) (n tid : Nat) (uc : A.UContext)
    (inherited : Signal → SigAction) {mask : List Signal} (hmask : .sigtrap ∉ mask) (code : Mem) :
    (start cfg env libc (n + 1) tid uc inherited mask code).Calm := by
  unfold start
  cases hmc : bringupMonitoringContext cfg env tid .zero with
  | none =>
    simp only [bringup, Thread.start, hmc]
    exact ⟨⟨rfl, rfl⟩, hmask, by simp [Globals.start]⟩
  | some mc =>
    have hup := broughtUp_bringup libc n (d := {
      toGlobals := { Globals.start code with sigaction := inherited }
      toThread := .start tid uc
      blocked := mask
      log := [] }) ⟨rfl, rfl⟩ hmask hmc
    exact ⟨hup.settled, hup.blocked ▸ hmask, fun _ _ => hup.ours⟩

/-- Getting out of the way leaves no SIGTRAP behind, in every run whose steps are quiet. -/
theorem run_settled (cfg : Config A) (env : Env) (libc : Libc A) (n tid : Nat) (uc : A.UContext)
    (inherited : Signal → SigAction) {mask : List Signal} (hmask : .sigtrap ∉ mask) (code : Mem)
    (es : List (DeliveryEvent A))
    (hquiet : Run.Admits (step cfg libc (n + 1)) (Quiet cfg)
      (start cfg env libc (n + 1) tid uc inherited mask code) es)
    (hrun : Run.run (step cfg libc (n + 1))
      (start cfg env libc (n + 1) tid uc inherited mask code) es = some d) : d.Settled :=
  (Run.invariant_of_admits (fun _ _ _ h hq hstep => Calm.step h hq hstep) hquiet
    (calm_start cfg env libc n tid uc inherited hmask code) hrun).settled

end Delivery

end

/-! ## A target on x64 -/

namespace X64

def kickstarted : Config x64 := { plain with kickstart := true }

def delivered (cfg : Config x64) : Delivery x64 :=
  .start cfg quietEnv libc 1 1 ⟨fun _ => 0, 0x1f80⟩ (fun _ => .zero) [] (fun _ => 0)

/-- The target blocks SIGINT; a traced event, a call of an `fe*` function, and `signal(SIGTRAP, ..)`
after that. -/
def quietEvents : List (DeliveryEvent x64) :=
  [.sigmask quietEnv [.sigint], .fpTrap quietEnv 0, .brkTrap quietEnv, .fe quietEnv,
    .signal quietEnv .sigtrap (.target 0)]

theorem run_settled_traced :
    ∃ d, Run.run (Delivery.step plain libc 1) (delivered plain) quietEvents = some d ∧
      d.aborted = true ∧ d.Settled := by
  have hrun : (Run.run (Delivery.step plain libc 1) (delivered plain) quietEvents).map (·.aborted) =
      some true := by
    decide
  obtain ⟨d, hd, ha⟩ := Option.map_eq_some_iff.mp hrun
  have hnone : Signal.sigtrap ∉ ([] : List Signal) := List.not_mem_nil
  refine ⟨d, hd, ha, Delivery.run_settled plain quietEnv libc 0 1 _ _ hnone _ quietEvents ?_ hd⟩
  refine ⟨show .sigtrap ∉ [Signal.sigint] by decide, fun t ht => ?_⟩
  obtain rfl := Option.some.inj ht
  refine ⟨.inl ⟨_, rfl, rfl⟩, fun t ht => ?_⟩
  obtain rfl := Option.some.inj ht
  refine ⟨.inl ⟨_, rfl, nofun⟩, fun t ht => ?_⟩
  obtain rfl := Option.some.inj ht
  refine ⟨.inr (.inl ⟨rfl, rfl⟩), fun t ht => ?_⟩
  obtain rfl := Option.some.inj ht
  exact ⟨fun _ _ => .inl rfl, fun _ _ => trivial⟩

/-- A target that unmasks the traps itself before it is kickstarted. The FP trap finds its context
in INIT, and the kick of the abort outlives FPSpy's handler. -/
def surpriseEvents : List (DeliveryEvent x64) :=
  [.target ⟨fun _ => 0, 0⟩, .fpTrap quietEnv 0]

theorem not_settled_surpriseFpe :
    ∃ d, Run.run (Delivery.step kickstarted libc 1) (delivered kickstarted) surpriseEvents =
        some d ∧
      d.log = [.sent, .restored, .diverted] ∧ ¬ d.Settled := by
  have hrun : (Run.run (Delivery.step kickstarted libc 1) (delivered kickstarted)
      surpriseEvents).map (·.log) = some [.sent, .restored, .diverted] := by
    decide
  obtain ⟨d, hd, hlog⟩ := Option.map_eq_some_iff.mp hrun
  refine ⟨d, hd, hlog, fun h => ?_⟩
  have hstatus := h.status
  rw [Delivery.status, hlog] at hstatus
  cases hstatus

end X64
end FPSpy
