import FPSpy.Monitor.Abort

/-!
# What the handlers do to the traps

Two facts about a thread decide what can happen to it next: whether a monitored trap is
unmasked, and whether trap mode is on. Each piece of the handlers is described by what
it does to the two, to the thread's context, and to the process (`SameProcess`: nothing,
apart from code memory, the timer and `orig_round_config`).
-/
namespace FPSpy

variable {A : Arch} {cfg : Config A} {env : Env} {f : Flow A}

/-- The process-wide state an abort acts on is untouched. -/
structure SameProcess (f g : Flow A) : Prop where
  tid : g.tid = f.tid
  inited : g.inited = f.inited
  aborted : g.aborted = f.aborted
  sigaction : g.sigaction = f.sigaction
  oldsaFpe : g.oldsaFpe = f.oldsaFpe
  oldsaTrap : g.oldsaTrap = f.oldsaTrap

/-- What a handler may touch, apart from an abort at its end. -/
structure HandlerFrame (f g : Flow A) : Prop where
  frame : g = { f with
    uc := g.uc
    code := g.code
    origRoundConfig := g.origRoundConfig
    itimer := g.itimer
    mc := g.mc
    pushed := g.pushed
    written := g.written }
  mc : g.mc.isSome = f.mc.isSome

theorem HandlerFrame.sameProcess {g : Flow A} (h : HandlerFrame f g) : SameProcess f g := by
  rw [h.frame]
  exact ⟨rfl, rfl, rfl, rfl, rfl, rfl⟩

/-- The thread can neither take a monitored FP trap nor end a single step. -/
def Flow.Disarmed (cfg : Config A) (f : Flow A) : Prop :=
  f.trapsUnmasked cfg = false ∧ f.singleStepping = false

@[simp] theorem unmasked_forceRound {c : BitVec 32} (hc : A.IsRoundConfig c) (uc : A.UContext) :
    A.trapsUnmasked cfg.statics (forceRound cfg c uc) = A.trapsUnmasked cfg.statics uc := by
  unfold forceRound
  split_ifs
  · exact A.unmasked_setRound _ _ _ hc
  · rfl

@[simp] theorem stepping_forceRound (c : BitVec 32) (uc : A.UContext) (s : Option (BitVec 64)) :
    A.singleStepping (forceRound cfg c uc) s = A.singleStepping uc s := by
  unfold forceRound
  split_ifs <;> simp

/-! ## Standing down -/

variable (cfg) in
theorem disarmed_standDown (hround : A.IsRoundConfig f.origRoundConfig) (mc : MonitoringContext) :
    (standDown cfg mc f).Disarmed cfg := by
  constructor
  · simp [Flow.trapsUnmasked, standDown, unmasked_forceRound hround]
  · simp [Flow.singleStepping, standDown]

variable (cfg) in
theorem disarmed_standDownNull (hround : A.IsRoundConfig f.origRoundConfig) (hmc : f.mc = none) :
    (standDownNull cfg f).Disarmed cfg := by
  constructor
  · simp [Flow.trapsUnmasked, standDownNull, unmasked_forceRound hround]
  · simp [Flow.singleStepping, standDownNull, hmc]

/-! ## The sampler -/

theorem masked_updateSampler_of_on {mc : MonitoringContext} (h : mc.sampler.state = .on) :
    (updateSampler cfg env mc f).trapsUnmasked cfg = false := by
  simp [Flow.trapsUnmasked, updateSampler, h]

theorem stepping_updateSampler (mc : MonitoringContext) :
    (updateSampler cfg env mc f).singleStepping = false := by
  simp [Flow.singleStepping, updateSampler]

theorem sameProcess_updateSampler (mc : MonitoringContext) :
    SameProcess f (updateSampler cfg env mc f) := ⟨rfl, rfl, rfl, rfl, rfl, rfl⟩

/-! ## Starting and ending a step -/

theorem masked_beginStep (mc : MonitoringContext) :
    (beginStep cfg mc f).trapsUnmasked cfg = false := by
  simp [Flow.trapsUnmasked, beginStep, unmasked_forceRound cfg.isRoundConfig_our]

structure EndedStep (cfg : Config A) (mc mc' : MonitoringContext) (f g : Flow A) : Prop where
  mc_eq : g.mc = some mc'
  state : mc'.state = .awaitFpe
  count : mc'.count = mc.count + 1
  abortingInTrap : mc'.abortingInTrap = mc.abortingInTrap
  sampler : mc'.sampler.state =
    if mc.sampler.delayedProcessing then mc.sampler.state.flip else mc.sampler.state
  /-- At the limit the traps stay masked, and so they do when the sampler switches off. -/
  masked_of_reached : mc.sampler.delayedProcessing = false →
    reachedMaxcount cfg (mc.count + 1) = true → g.trapsUnmasked cfg = false
  masked_of_delayed : mc.sampler.delayedProcessing = true → mc.sampler.state = .on →
    g.trapsUnmasked cfg = false
  stepping : g.singleStepping = false
  same : SameProcess f g
  origRoundConfig : g.origRoundConfig = f.origRoundConfig
  pushed : g.pushed = f.pushed

variable (cfg env) in
theorem brkAwaitTrap_spec (hround : A.IsRoundConfig f.origRoundConfig) (mc : MonitoringContext) :
    ∃ mc', EndedStep cfg mc mc' f (brkAwaitTrap cfg env mc f) := by
  unfold brkAwaitTrap
  dsimp only
  split_ifs with hd
  · exact ⟨_,
      { mc_eq := rfl
        state := rfl
        count := rfl
        abortingInTrap := rfl
        sampler := (if_pos hd).symm
        masked_of_reached := fun h => by simp [h] at hd
        masked_of_delayed := fun _ hon => masked_updateSampler_of_on hon
        stepping := stepping_updateSampler _
        same := ⟨rfl, rfl, rfl, rfl, rfl, rfl⟩
        origRoundConfig := rfl
        pushed := rfl }⟩
  · exact ⟨_,
      { mc_eq := rfl
        state := rfl
        count := rfl
        abortingInTrap := rfl
        sampler := (if_neg hd).symm
        masked_of_reached := fun _ h => by
          simp only [Flow.trapsUnmasked, brkRearm, h, if_true, Arch.unmasked_resetTrapMode,
            unmasked_forceRound hround, Arch.unmasked_mask]
        masked_of_delayed := fun h => absurd h hd
        stepping := by simp [Flow.singleStepping, brkRearm]
        same := ⟨rfl, rfl, rfl, rfl, rfl, rfl⟩
        origRoundConfig := rfl
        pushed := rfl }⟩

/-! ## Whole handlers -/

variable (cfg env) in
theorem handlerFrame_brkTrapHandler (f : Flow A) : HandlerFrame f (brkTrapHandler cfg env f).1 := by
  unfold brkTrapHandler
  cases hmc : f.mc with
  | none => exact ⟨rfl, rfl⟩
  | some mc =>
    have hsome : f.mc.isSome = true := by simp [hmc]
    dsimp only
    cases mc.state with
    | init => exact ⟨rfl, hsome.symm⟩
    | awaitFpe => exact ⟨rfl, hsome.symm⟩
    | abort => exact ⟨rfl, hsome.symm⟩
    | awaitTrap =>
      simp only [brkAwaitTrap]
      split_ifs
      · exact ⟨rfl, hsome.symm⟩
      · exact ⟨rfl, hsome.symm⟩

variable (cfg env) in
theorem handlerFrame_fpTrapHandler (siCode : BitVec 32) (f : Flow A) :
    HandlerFrame f (fpTrapHandler cfg env siCode f).1 := by
  have hpath := fpTrapHandler_path cfg env siCode f
  generalize fpTrapHandler cfg env siCode f = r at hpath
  cases hpath with
  | dies | bare => exact ⟨rfl, rfl⟩
  | beginStep buffer written hmc | surprise buffer written hmc =>
    have hsome : f.mc.isSome = true := by simp [hmc]
    exact ⟨rfl, hsome.symm⟩

variable (cfg env) in
theorem handlerFrame_sigalrmHandler (f : Flow A) : HandlerFrame f (sigalrmHandler cfg env f) := by
  unfold sigalrmHandler
  cases hmc : f.mc with
  | none => exact ⟨rfl, rfl⟩
  | some mc =>
    have hsome : f.mc.isSome = true := by simp [hmc]
    dsimp only
    split_ifs
    · exact ⟨rfl, hsome.symm⟩
    · exact ⟨rfl, hsome.symm⟩

variable (cfg env) in
/-- After a breakpoint trap trap mode is off. -/
theorem stepping_brkTrapHandler (hround : A.IsRoundConfig f.origRoundConfig) :
    (brkTrapHandler cfg env f).1.singleStepping = false := by
  unfold brkTrapHandler
  cases hmc : f.mc with
  | none => exact (disarmed_standDownNull cfg hround hmc).2
  | some mc =>
    dsimp only
    cases mc.state with
    | init => simp [Flow.singleStepping, brkInit]
    | awaitFpe => exact (disarmed_standDown cfg hround _).2
    | abort => exact (disarmed_standDown cfg hround _).2
    | awaitTrap =>
      obtain ⟨mc', hended⟩ := brkAwaitTrap_spec cfg env hround mc
      exact hended.stepping

/-! ## Signals -/

structure SignalsSetUp (cfg : Config A) (g g' : Globals) : Prop where
  inited : g'.inited = g.inited
  aborted : g'.aborted = g.aborted
  origRoundConfig : g'.origRoundConfig = g.origRoundConfig
  code : g'.code = g.code
  sigfpe : g'.sigaction .sigfpe = cfg.sigfpeAction
  sigtrap : g'.sigaction .sigtrap = cfg.sigtrapAction
  oldsaFpe : g'.oldsaFpe = g.sigaction .sigfpe
  oldsaTrap : g'.oldsaTrap = g.sigaction .sigtrap
  alarm : cfg.timers = true → g'.sigaction cfg.alarmSig = sigalrmAction

theorem alarmSig_ne (cfg : Config A) : cfg.alarmSig ≠ .sigfpe ∧ cfg.alarmSig ≠ .sigtrap := by
  unfold Config.alarmSig
  cases cfg.timerType <;> decide

theorem alarmSig_ne_sigint (cfg : Config A) : cfg.alarmSig ≠ .sigint := by
  unfold Config.alarmSig
  cases cfg.timerType <;> decide

theorem setupSignals_spec (cfg : Config A) (g : Globals) :
    SignalsSetUp cfg g (setupSignals cfg g) := by
  obtain ⟨hfpe, htrap⟩ := alarmSig_ne cfg
  unfold setupSignals
  dsimp only
  split_ifs with ht
  all_goals constructor <;> simp_all [Ne.symm hfpe, Ne.symm htrap, Function.update_apply]

/-! ## Aborting -/

/-- What an abort leaves behind, in a thread that has a context. -/
structure AbortedFrom (mc : MonitoringContext) (f g : Flow A) : Prop where
  uc : g.uc = f.uc
  code : g.code = f.code
  origRoundConfig : g.origRoundConfig = f.origRoundConfig
  inited : g.inited = true
  aborted : g.aborted = true
  mc : ∃ buffer, g.mc = some { mc with state := .abort, traceRecords := buffer }
  pushed : g.pushed.filter (·.IsEvent) = f.pushed.filter (·.IsEvent)
  oldsaFpe : g.oldsaFpe = f.oldsaFpe
  oldsaTrap : g.oldsaTrap = f.oldsaTrap
  sigfpe : g.sigaction .sigfpe = f.oldsaFpe
  sigtrap : g.sigaction .sigtrap = f.oldsaTrap

theorem filter_push_abort (xs : List TraceRecord) (time : BitVec 64) :
    (xs ++ [TraceRecord.abort time]).filter (·.IsEvent) = xs.filter (·.IsEvent) := by
  simp [TraceRecord.not_isEvent_abort]

/-- The first half of an abort: the registers, SIGFPE, the state and the record. -/
def Flow.beginAbort (cfg : Config A) (env : Env) (libc : Libc A) (mc : MonitoringContext)
    (f : Flow A) : Flow A :=
  Flow.writeAbort cfg env mc
    { f with
      uc := libc.feclearexceptAll (libc.fedisableexceptAll f.uc)
      sigaction := Function.update f.sigaction .sigfpe f.oldsaFpe }

variable (cfg env f) in
/-- The abort record is no event. -/
theorem beginAbort_eq (libc : Libc A) (mc : MonitoringContext) :
    ∃ buffer pushed written, f.beginAbort cfg env libc mc =
      { f with
        uc := libc.feclearexceptAll (libc.fedisableexceptAll f.uc)
        sigaction := Function.update f.sigaction .sigfpe f.oldsaFpe
        mc := some { mc with state := .abort, traceRecords := buffer }
        pushed := pushed
        written := written } ∧
      pushed.filter (·.IsEvent) = f.pushed.filter (·.IsEvent) := by
  unfold Flow.beginAbort Flow.writeAbort
  split_ifs
  · exact ⟨_, _, _, rfl, filter_push_abort _ _⟩
  · exact ⟨mc.traceRecords, f.pushed, f.written, rfl, rfl⟩

theorem abortOperation_eq {mc : MonitoringContext} (libc : Libc A) (kickSelf : Flow A → Flow A)
    (hi : f.inited = true) (ha : f.aborted = false) (hmc : f.mc = some mc) :
    abortOperation (Flow.abortOps cfg env libc kickSelf) f =
      let g := if mc.abortingInTrap then f.beginAbort cfg env libc mc
        else kickSelf (f.beginAbort cfg env libc mc)
      { g with
        sigaction := Function.update g.sigaction .sigtrap g.oldsaTrap
        aborted := true } := by
  simp [abortOperation, Flow.abortOps, hi, ha, hmc, Flow.beginAbort]

/-- Without a context there is nothing to write, and the thread is always kicked. -/
theorem abortOperation_of_none (libc : Libc A) (kickSelf : Flow A → Flow A)
    (hi : f.inited = true) (ha : f.aborted = false) (hmc : f.mc = none) :
    abortOperation (Flow.abortOps cfg env libc kickSelf) f =
      let g := kickSelf { f with
        uc := libc.feclearexceptAll (libc.fedisableexceptAll f.uc)
        sigaction := Function.update f.sigaction .sigfpe f.oldsaFpe }
      { g with
        sigaction := Function.update g.sigaction .sigtrap g.oldsaTrap
        aborted := true } := by
  simp [abortOperation, Flow.abortOps, hi, ha, hmc]

variable (cfg env f) in
/-- However an abort goes, FPSpy has aborted after it. -/
theorem aborted_abortOperation (libc : Libc A) (kickSelf : Flow A → Flow A) :
    (abortOperation (Flow.abortOps cfg env libc kickSelf) f).aborted = true := by
  unfold abortOperation
  dsimp only
  split_ifs with hi ha ha
  · exact ha
  · rfl
  · exact ha
  · rfl

variable (cfg env f) in
theorem aborted_abortInHandler : (f.abortInHandler cfg env).aborted = true :=
  aborted_abortOperation cfg env f .inHandler Flow.kickBlocked

structure SameCode (f g : Flow A) : Prop where
  uc : g.uc = f.uc
  code : g.code = f.code

variable (cfg env f) in
/-- An abort in a handler acts on neither. -/
theorem sameCode_abortInHandler : SameCode f (f.abortInHandler cfg env) := by
  refine abortOperation_invariant (P := SameCode f) ?_ (fun _ h => h)
    (fun _ h => ⟨h.uc, h.code⟩) ?_ (fun _ h => ⟨h.uc, h.code⟩) (fun _ h => ⟨h.uc, h.code⟩)
    (fun _ h => ⟨h.uc, h.code⟩) ⟨rfl, rfl⟩
  · intro _
    simp only [Flow.abortOps, bringup]
    split
    · exact ⟨rfl, rfl⟩
    · have hcode := (setupSignals_spec cfg f.toGlobals).code
      split_ifs <;> exact ⟨rfl, hcode⟩
  · intro g mc _ h
    simp only [Flow.abortOps, Flow.writeAbort]
    split_ifs <;> exact ⟨h.uc, h.code⟩

/-- Where a thread goes on after a handler, it does so with what the handler has made of both. -/
theorem Flow.sameCode_resume {r : Flow A × HandlerExit} {g : Flow A}
    (h : Flow.resume cfg env r = some g) : SameCode r.1 g := by
  unfold Flow.resume at h
  split at h
  · exact Option.some.inj h ▸ ⟨rfl, rfl⟩
  · exact Option.some.inj h ▸ sameCode_abortInHandler cfg env r.1
  all_goals cases h

/-- A handler after which FPSpy has not aborted has just returned. -/
theorem Flow.eq_of_resume {r : Flow A × HandlerExit} {g : Flow A}
    (h : Flow.resume cfg env r = some g) (halive : g.aborted = false) : g = r.1 := by
  unfold Flow.resume at h
  split at h
  · exact (Option.some.inj h).symm
  · rw [← Option.some.inj h, aborted_abortInHandler] at halive
    cases halive
  all_goals cases h

variable (cfg env) in
theorem abortInHandler_spec {mc : MonitoringContext} (hi : f.inited = true)
    (ha : f.aborted = false) (hmc : f.mc = some mc) :
    AbortedFrom mc f (f.abortInHandler cfg env) := by
  obtain ⟨buffer, pushed, written, hbegin, hp⟩ :=
    beginAbort_eq cfg env f .inHandler mc
  rw [Flow.abortInHandler, abortOperation_eq _ _ hi ha hmc, hbegin]
  dsimp only
  split_ifs
  all_goals exact
    { uc := rfl
      code := rfl
      origRoundConfig := rfl
      inited := hi
      aborted := rfl
      mc := ⟨buffer, rfl⟩
      pushed := hp
      oldsaFpe := rfl
      oldsaTrap := rfl
      sigfpe := by simp [Flow.kickBlocked]
      sigtrap := by simp [Flow.kickBlocked] }

/-! ## What the operations keep

A property of contexts that the combinations of operations the handlers use do not destroy. The
rounding configurations that a handler sets, FPSpy's own and the original one, are in `R`. -/

structure KeepsFor (cfg : Config A) (R : BitVec 32 → Prop) (P : A.UContext → Prop) : Prop where
  shut : ∀ uc, P uc → P (A.maskFpTraps cfg.statics (A.clearFpExceptions cfg.statics uc))
  reopen : ∀ uc, P uc → P (A.unmaskFpTraps cfg.statics (A.clearFpExceptions cfg.statics uc))
  setRound : cfg.controlRoundConfig = true → ∀ uc c, R c → P uc →
    P (A.setRoundConfig cfg.statics uc c)
  setTrapMode : ∀ uc code s, P uc → P (A.setTrapMode uc code s).uc
  resetTrapMode : ∀ uc code s, P uc → P (A.resetTrapMode uc code s).uc
  resetTrapModeNull : ∀ uc, P uc → P (A.resetTrapModeNull uc)

namespace KeepsFor

variable {R : BitVec 32 → Prop} {P : A.UContext → Prop}

theorem forceRound (K : KeepsFor cfg R P) {c : BitVec 32} (hc : R c) {uc : A.UContext}
    (h : P uc) : P (FPSpy.forceRound cfg c uc) := by
  unfold FPSpy.forceRound
  split_ifs with hround
  · exact K.setRound hround uc c hc h
  · exact h

theorem standDown (K : KeepsFor cfg R P) (horig : R f.origRoundConfig) (mc : MonitoringContext)
    (h : P (A.maskFpTraps cfg.statics (A.clearFpExceptions cfg.statics f.uc))) :
    P (FPSpy.standDown cfg mc f).uc :=
  K.resetTrapMode _ _ _ (K.forceRound horig h)

theorem standDownNull (K : KeepsFor cfg R P) (horig : R f.origRoundConfig)
    (h : P (A.maskFpTraps cfg.statics (A.clearFpExceptions cfg.statics f.uc))) :
    P (FPSpy.standDownNull cfg f).uc :=
  K.resetTrapModeNull _ (K.forceRound horig h)

theorem beginStep (K : KeepsFor cfg R P) (hour : R cfg.ourRoundConfig) (mc : MonitoringContext)
    (h : P (A.maskFpTraps cfg.statics (A.clearFpExceptions cfg.statics f.uc))) :
    P (FPSpy.beginStep cfg mc f).uc :=
  K.setTrapMode _ _ _ (K.forceRound hour h)

theorem brkInit (K : KeepsFor cfg R P) (hour : R cfg.ourRoundConfig) (mc : MonitoringContext)
    (h : P f.uc) : P (FPSpy.brkInit cfg mc f).uc :=
  K.resetTrapMode _ _ _ (K.forceRound hour (K.reopen _ h))

theorem updateSampler (K : KeepsFor cfg R P) (mc : MonitoringContext) (h : P f.uc) :
    P (FPSpy.updateSampler cfg env mc f).uc := by
  simp only [FPSpy.updateSampler]
  cases mc.sampler.state with
  | on => exact K.resetTrapMode _ _ _ (K.shut _ h)
  | off => exact K.resetTrapMode _ _ _ (K.reopen _ h)

theorem brkAwaitTrap (K : KeepsFor cfg R P) (hour : R cfg.ourRoundConfig)
    (horig : R f.origRoundConfig) (mc : MonitoringContext) (h : P f.uc) :
    P (FPSpy.brkAwaitTrap cfg env mc f).uc := by
  have hrearm : P (brkRearm cfg mc f).uc := by
    unfold brkRearm
    dsimp only
    split_ifs
    · exact K.resetTrapMode _ _ _ (K.forceRound horig (K.shut _ h))
    · exact K.resetTrapMode _ _ _ (K.forceRound hour (K.reopen _ h))
  unfold FPSpy.brkAwaitTrap
  dsimp only
  split_ifs
  · exact K.updateSampler _ hrearm
  · exact hrearm

variable (env) in
/-- A trap masks the traps and clears the flags first, unless the process dies at once. -/
theorem fpTrapHandler (K : KeepsFor cfg R P) (hour : R cfg.ourRoundConfig)
    (horig : R f.origRoundConfig) (siCode : BitVec 32)
    (h : P (A.maskFpTraps cfg.statics (A.clearFpExceptions cfg.statics f.uc))) :
    P (FPSpy.fpTrapHandler cfg env siCode f).1.uc ∨
      (FPSpy.fpTrapHandler cfg env siCode f).1 = f ∧
        Flow.resume cfg env (FPSpy.fpTrapHandler cfg env siCode f) = none := by
  have hpath := fpTrapHandler_path cfg env siCode f
  generalize FPSpy.fpTrapHandler cfg env siCode f = r at hpath ⊢
  cases hpath with
  | dies hexit => obtain rfl | rfl := hexit <;> exact .inr ⟨rfl, rfl⟩
  | bare => exact .inl (K.standDownNull horig h)
  | beginStep buffer written =>
    exact .inl (K.beginStep (f := f.sampled cfg env siCode _ written) hour _ h)
  | surprise buffer written =>
    exact .inl (K.standDown (f := f.sampled cfg env siCode _ written) horig _ h)

theorem brkTrapHandler (K : KeepsFor cfg R P) (hour : R cfg.ourRoundConfig)
    (horig : R f.origRoundConfig) (h : P f.uc) : P (FPSpy.brkTrapHandler cfg env f).1.uc := by
  unfold FPSpy.brkTrapHandler
  cases f.mc with
  | none => exact K.standDownNull horig (K.shut _ h)
  | some mc =>
    dsimp only
    cases mc.state with
    | init => exact K.brkInit hour mc h
    | awaitFpe => exact K.standDown horig _ (K.shut _ h)
    | awaitTrap => exact K.brkAwaitTrap hour horig mc h
    | abort => exact K.standDown horig mc (K.shut _ h)

theorem sigalrmHandler (K : KeepsFor cfg R P) (h : P f.uc) :
    P (FPSpy.sigalrmHandler cfg env f).uc := by
  unfold FPSpy.sigalrmHandler
  cases f.mc with
  | none => exact h
  | some mc =>
    dsimp only
    split_ifs
    · exact h
    · exact K.updateSampler mc h

end KeepsFor

/-- The same whatever the rounding configuration. -/
structure Keeps (cfg : Config A) (P : A.UContext → Prop) : Prop where
  shut : ∀ uc, P uc → P (A.maskFpTraps cfg.statics (A.clearFpExceptions cfg.statics uc))
  reopen : ∀ uc, P uc → P (A.unmaskFpTraps cfg.statics (A.clearFpExceptions cfg.statics uc))
  setRound : cfg.controlRoundConfig = true → ∀ uc c, P uc → P (A.setRoundConfig cfg.statics uc c)
  setTrapMode : ∀ uc code s, P uc → P (A.setTrapMode uc code s).uc
  resetTrapMode : ∀ uc code s, P uc → P (A.resetTrapMode uc code s).uc
  resetTrapModeNull : ∀ uc, P uc → P (A.resetTrapModeNull uc)

namespace Keeps

variable {P : A.UContext → Prop}

theorem keepsFor (K : Keeps cfg P) : KeepsFor cfg (fun _ => True) P where
  shut := K.shut
  reopen := K.reopen
  setRound hround uc c _ h := K.setRound hround uc c h
  setTrapMode := K.setTrapMode
  resetTrapMode := K.resetTrapMode
  resetTrapModeNull := K.resetTrapModeNull

/-- A trap that the process survives masks the traps and clears the flags first. -/
theorem resume_fpTrapHandler (K : Keeps cfg P) {siCode : BitVec 32} {g : Flow A}
    (hg : Flow.resume cfg env (FPSpy.fpTrapHandler cfg env siCode f) = some g)
    (h : P (A.maskFpTraps cfg.statics (A.clearFpExceptions cfg.statics f.uc))) : P g.uc := by
  rw [(Flow.sameCode_resume hg).uc]
  obtain hkept | ⟨-, hdead⟩ := K.keepsFor.fpTrapHandler env trivial trivial siCode h
  · exact hkept
  · simp [hdead] at hg

theorem brkTrapHandler (K : Keeps cfg P) (h : P f.uc) :
    P (FPSpy.brkTrapHandler cfg env f).1.uc :=
  K.keepsFor.brkTrapHandler trivial trivial h

theorem sigalrmHandler (K : Keeps cfg P) (h : P f.uc) :
    P (FPSpy.sigalrmHandler cfg env f).uc :=
  K.keepsFor.sigalrmHandler h

end Keeps

end FPSpy
