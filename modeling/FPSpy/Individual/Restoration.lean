import FPSpy.Individual.Process
import FPSpy.Lib.Run
import FPSpy.Monitor.Bringup

/-!
# The dispositions an abort gives back

`bringup` stashes each disposition it replaces, and the stashes are there so that an abort can
restore them. Four are filled, or three with kernel support, which leaves SIGFPE alone. The
abort uses two: that of SIGFPE, filled or not, and that of SIGTRAP. So SIGINT and the timer's
signal are right after an abort only if the target has put them right itself, and with
kernel support SIGFPE only if there was nothing to keep.
-/
namespace FPSpy

section

variable {ι : Type} {A : Arch} {cfg : Config A} {libc : Libc A} {kernel : Bool}

inductive HistoryEvent (ι : Type) (A : Arch) where
  /-- A trap, or an expiry of the timer. -/
  | thread (t : ι) (e : ThreadEvent)
  /-- An FP trap that the kernel module delivers. -/
  | shortCircuit (t : ι) (env : Env) (siCode : BitVec 32)
  | signal (t : ι) (env : Env) (sig : Signal) (func : SigHandler)
  | sigaction (t : ι) (env : Env) (sig : Signal) (act : Option SigAction)
  /-- A thread's own instructions; its creation or its end. -/
  | target (t : ι) (own : Thread A)

/-- `kick_self`, where SIGTRAP may be blocked: it is in FPSpy's signal handlers. -/
def Flow.kick (cfg : Config A) (env : Env) (blocked : Bool) (f : Flow A) : Flow A :=
  if blocked then f.kickBlocked else f.kickDelivered cfg env

def Flow.getOut (cfg : Config A) (env : Env) (libc : Libc A) (blocked : Bool) (f : Flow A) :
    Flow A :=
  abortOperation (Flow.abortOps cfg env libc (Flow.kick cfg env blocked)) f

/-- `fp_trap_handler`, called where the trap was and not in a signal handler. -/
def Flow.shortCircuit (cfg : Config A) (env : Env) (siCode : BitVec 32) (f : Flow A) :
    Option (Flow A) :=
  let r := fpTrapHandler cfg env siCode f
  match r.2 with
  | .ret => some r.1
  | .abortOperation _ => some (r.1.getOut cfg env .inHandler false)
  | .abort | .nullDeref | .divideError => none

namespace Restoration

def bringup [DecidableEq ι] (cfg : Config A) (env : Env) (kernel blocked : Bool) (t : ι)
    (p : Process ι A) : Option (Process ι A) :=
  match Bringup.steps cfg env kernel (Flow.kick cfg env blocked) 7 (.context, p.flow t) with
  | (.done, f) => some (p.put t f)
  | _ => none

def step [DecidableEq ι] (cfg : Config A) (libc : Libc A) (kernel : Bool) (p : Process ι A) :
    HistoryEvent ι A → Option (Process ι A)
  | .thread t e => ((p.flow t).step cfg e).map (p.put t)
  | .shortCircuit t env siCode =>
    if kernel ∧ (p.flow t).trapsUnmasked cfg then
      ((p.flow t).shortCircuit cfg env siCode).map (p.put t)
    else none
  | .signal t env sig func => some (p.put t
      (Shim.signal (Flow.callOps cfg env libc) cfg.aggressive sig
        (Flow.origSigaction sig (some (.ofSignal sig func))) () (p.flow t)).1)
  | .sigaction t env sig act => some (p.put t
      (Shim.sigaction (Flow.callOps cfg env libc) cfg.aggressive sig
        (Flow.origSigaction sig act) () (p.flow t)).1)
  | .target t own => some { p with thread := Function.update p.thread t own }

def start (inherited : Signal → SigAction) (code : Mem) (thread : ι → Thread A) : Process ι A where
  globals := { Globals.start code with sigaction := inherited }
  thread := thread

/-- The disposition `bringup` gives to a signal, if it replaces that of the signal. -/
def installed (cfg : Config A) (kernel : Bool) (sig : Signal) : Option SigAction :=
  if sig = .sigfpe then if kernel then none else some cfg.sigfpeAction
  else if sig = .sigtrap then some cfg.sigtrapAction
  else if sig = .sigint then some cfg.sigintAction
  else if cfg.timers ∧ sig = cfg.alarmSig then some sigalrmAction
  else none

/-- Every signal that `bringup` replaced has its disposition back, and no other has changed. -/
def GivesBack (cfg : Config A) (kernel : Bool) (inherited before after : Signal → SigAction) :
    Prop :=
  ∀ sig, after sig = if (installed cfg kernel sig).isSome then inherited sig else before sig

/-- The disposition that a call gives to `sig`, if the shims let it pass. -/
def sets (sig : Signal) : HistoryEvent ι A → Option SigAction
  | .signal _ _ s func =>
    if s = sig ∧ s ≠ .sigfpe ∧ s ≠ .sigtrap then some (.ofSignal s func) else none
  | .sigaction _ _ s act =>
    if s = sig ∧ s ≠ .sigvtalrm ∧ s ≠ .sigfpe ∧ s ≠ .sigtrap then act else none
  | _ => none

def lastSet (sig : Signal) (act : SigAction) (es : List (HistoryEvent ι A)) : SigAction :=
  es.foldl (fun act e => (sets sig e).getD act) act

/-! ## Handlers -/

section Handlers

variable {env : Env} {f g : Flow A}

theorem sameProcess_shortCircuit {siCode : BitVec 32}
    (hstep : f.shortCircuit cfg env siCode = some g) (halive : g.aborted = false) :
    SameProcess f g := by
  have hframe := handlerFrame_fpTrapHandler cfg env siCode f
  simp only [Flow.shortCircuit] at hstep
  split at hstep
  · exact Option.some.inj hstep ▸ hframe.sameProcess
  · rw [← Option.some.inj hstep, Flow.getOut, aborted_abortOperation] at halive
    cases halive
  all_goals cases hstep

variable (cfg env) in
/-- A kick in INIT or ABORT, and one that stays pending. -/
theorem sameProcess_kick (blocked : Bool) {mc : MonitoringContext} (hmc : f.mc = some mc)
    (hstate : mc.state = .init ∨ mc.state = .abort) : SameProcess f (f.kick cfg env blocked) := by
  unfold Flow.kick Flow.kickDelivered
  split_ifs
  · exact ⟨rfl, rfl, rfl, rfl, rfl, rfl⟩
  · have hframe := (handlerFrame_brkTrapHandler cfg env f).sameProcess
    have hret : (brkTrapHandler cfg env f).2 = .ret := by
      obtain hstate | hstate := hstate <;> simp [brkTrapHandler, hmc, hstate]
    simpa [Flow.settle, Flow.resume, hret] using hframe
  · exact ⟨rfl, rfl, rfl, rfl, rfl, rfl⟩

end Handlers

/-! ## The abort -/

def restored (f : Flow A) (dispositions : Signal → SigAction) : Signal → SigAction :=
  Function.update (Function.update dispositions .sigfpe f.oldsaFpe) .sigtrap f.oldsaTrap

variable (cfg) in
/-- A kick without a context aborts a second time, to the same effect. -/
theorem sigaction_kick_of_none (env : Env) (blocked : Bool) {f : Flow A} (hi : f.inited = true)
    (ha : f.aborted = false) (hmc : f.mc = none) :
    (f.kick cfg env blocked).oldsaTrap = f.oldsaTrap ∧
      ((f.kick cfg env blocked).sigaction = f.sigaction ∨
        (f.kick cfg env blocked).sigaction = restored f f.sigaction) := by
  unfold Flow.kick Flow.kickDelivered
  split_ifs
  · exact ⟨rfl, .inl rfl⟩
  · have hexit : Flow.settle cfg env (brkTrapHandler cfg env f) =
        (standDownNull cfg f).abortInHandler cfg env := by
      simp [brkTrapHandler, hmc, Flow.settle, Flow.resume]
    rw [hexit, Flow.abortInHandler, abortOperation_of_none .inHandler Flow.kickBlocked
      (f := standDownNull cfg f) hi ha hmc]
    exact ⟨rfl, .inr rfl⟩
  · exact ⟨rfl, .inl rfl⟩

variable (cfg) in
/-- However the abort comes about, it sets the dispositions of SIGFPE and SIGTRAP, and no other. -/
theorem sigaction_getOut (env : Env) (libc : Libc A) (blocked : Bool) {f : Flow A}
    (hi : f.inited = true) (ha : f.aborted = false) :
    (f.getOut cfg env libc blocked).sigaction = restored f f.sigaction := by
  cases hmc : f.mc with
  | some mc =>
    obtain ⟨buffer, pushed, written, hbegin, -⟩ := beginAbort_eq cfg env f libc mc
    rw [Flow.getOut, abortOperation_eq _ _ hi ha hmc, hbegin]
    dsimp only
    split_ifs
    · rfl
    · have hkick := sameProcess_kick cfg env blocked (f := { f with
          uc := libc.feclearexceptAll (libc.fedisableexceptAll f.uc)
          sigaction := Function.update f.sigaction .sigfpe f.oldsaFpe
          mc := some { mc with state := .abort, traceRecords := buffer }
          pushed := pushed
          written := written }) rfl (.inr rfl)
      rw [hkick.sigaction, hkick.oldsaTrap]
      rfl
  | none =>
    obtain ⟨htrap, hsig⟩ := sigaction_kick_of_none cfg env blocked (f := { f with
        uc := libc.feclearexceptAll (libc.fedisableexceptAll f.uc)
        sigaction := Function.update f.sigaction .sigfpe f.oldsaFpe }) hi ha hmc
    rw [Flow.getOut, abortOperation_of_none _ _ hi ha hmc]
    dsimp only
    rw [htrap]
    obtain hsig | hsig := hsig
    · rw [hsig]
      rfl
    · simp [hsig, restored]

/-! ## `bringup` -/

/-- What `bringup` leaves behind for an abort. -/
structure Stashed (cfg : Config A) (kernel : Bool) (before after : Globals) : Prop where
  oldsaFpe : after.oldsaFpe = if kernel then before.oldsaFpe else before.sigaction .sigfpe
  oldsaTrap : after.oldsaTrap = before.sigaction .sigtrap
  sigaction : ∀ sig, after.sigaction sig = (installed cfg kernel sig).getD (before.sigaction sig)

/-- The dispositions, set one after the other. -/
theorem installed_getD (cfg : Config A) (kernel : Bool) (inherited : Signal → SigAction)
    (sig : Signal) :
    (installed cfg kernel sig).getD (inherited sig) =
      let fpe := if kernel then inherited else
        Function.update inherited .sigfpe cfg.sigfpeAction
      let int := Function.update (Function.update fpe .sigtrap cfg.sigtrapAction) .sigint
        cfg.sigintAction
      (if cfg.timers then Function.update int cfg.alarmSig sigalrmAction else int) sig := by
  obtain ⟨hfpe, htrap⟩ := alarmSig_ne cfg
  have hint := alarmSig_ne_sigint cfg
  unfold installed
  dsimp only
  split_ifs <;> simp_all [hfpe.symm, htrap.symm, hint.symm]

variable (kernel) in
/-- The statements before the kick. -/
theorem stashed_steps {env : Env} (kickSelf : Flow A → Flow A) {f : Flow A} {mc : MonitoringContext}
    (hmc : bringupMonitoringContext cfg env f.tid .zero = some mc) :
    ∃ g, Bringup.steps cfg env kernel kickSelf 5 (.context, f) = (.kick, g) ∧ g.mc = some mc ∧
      Stashed cfg kernel f.toGlobals g.toGlobals := by
  have hsig := installed_getD cfg kernel f.sigaction
  cases kernel <;> by_cases ht : cfg.timers = true
  all_goals
    simp only [ht] at hsig
    simp only [Bringup.steps, Bringup.step, hmc, ht]
    exact ⟨_, rfl, rfl, rfl, rfl, fun sig => (hsig sig).symm⟩

theorem stashed_of_steps {env : Env} {blocked : Bool} {f g : Flow A}
    (h : Bringup.steps cfg env kernel (Flow.kick cfg env blocked) 7 (.context, f) = (.done, g)) :
    g.inited = true ∧ Stashed cfg kernel f.toGlobals g.toGlobals := by
  cases hmc : bringupMonitoringContext cfg env f.tid .zero with
  | none => simp [Bringup.steps, Bringup.step, hmc] at h
  | some mc =>
    have hinit := (newContext_of_bringup hmc).state
    obtain ⟨g₁, hsteps, hmc₁, hstashed⟩ := stashed_steps kernel (Flow.kick cfg env blocked) hmc
    have hsplit : Bringup.steps cfg env kernel (Flow.kick cfg env blocked) 7 (.context, f) =
        Bringup.steps cfg env kernel (Flow.kick cfg env blocked) 2
          (Bringup.steps cfg env kernel (Flow.kick cfg env blocked) 5 (.context, f)) := rfl
    rw [hsplit, hsteps] at h
    simp only [Bringup.steps, Bringup.step, Prod.mk.injEq, true_and] at h
    subst h
    refine ⟨rfl, ?_⟩
    split_ifs
    · exact ⟨hstashed.oldsaFpe, hstashed.oldsaTrap, hstashed.sigaction⟩
    · have hkick := sameProcess_kick cfg env blocked hmc₁ (.inl hinit)
      exact ⟨hkick.oldsaFpe.trans hstashed.oldsaFpe, hkick.oldsaTrap.trans hstashed.oldsaTrap,
        fun sig => (congrFun hkick.sigaction sig).trans (hstashed.sigaction sig)⟩

theorem stashed_bringup [DecidableEq ι] {env : Env} {blocked : Bool} {t : ι} {p q : Process ι A}
    (h : bringup cfg env kernel blocked t p = some q) :
    q.globals.inited = true ∧ Stashed cfg kernel p.globals q.globals := by
  unfold bringup at h
  split at h
  · next f hsteps =>
    obtain rfl := Option.some.inj h
    exact stashed_of_steps hsteps
  · cases h

/-! ## Histories -/

/-- While FPSpy has not aborted, a history leaves FPSpy's variables alone, and the
dispositions are what its calls make them. -/
structure Follows (es : List (HistoryEvent ι A)) (g g' : Globals) : Prop where
  inited : g'.inited = g.inited
  oldsaFpe : g'.oldsaFpe = g.oldsaFpe
  oldsaTrap : g'.oldsaTrap = g.oldsaTrap
  sigaction : ∀ sig, g'.sigaction sig = lastSet sig (g.sigaction sig) es

theorem Follows.cons {e : HistoryEvent ι A} {es : List (HistoryEvent ι A)} {g g' g'' : Globals}
    (h : Follows [e] g g') (hs : Follows es g' g'') : Follows (e :: es) g g'' where
  inited := hs.inited.trans h.inited
  oldsaFpe := hs.oldsaFpe.trans h.oldsaFpe
  oldsaTrap := hs.oldsaTrap.trans h.oldsaTrap
  sigaction sig := by
    rw [hs.sigaction, h.sigaction]
    rfl

/-- An event that is no call. -/
theorem Follows.of_same {e : HistoryEvent ι A} {f g : Flow A} (h : SameProcess f g)
    (he : ∀ sig, sets sig e = none) : Follows [e] f.toGlobals g.toGlobals where
  inited := h.inited
  oldsaFpe := h.oldsaFpe
  oldsaTrap := h.oldsaTrap
  sigaction sig := by simp [lastSet, he, h.sigaction]

theorem sigaction_origSigaction (sig s : Signal) (act : Option SigAction) (f : Flow A) :
    (Flow.origSigaction s act f).1.sigaction sig =
      (if s = sig then act else none).getD (f.sigaction sig) := by
  cases act with
  | none => simp [Flow.origSigaction]
  | some act =>
    by_cases hs : s = sig
    · simp [Flow.origSigaction, hs]
    · simp [Flow.origSigaction, hs, Ne.symm hs]

/-- A call that the shims let pass unless `watched`. -/
theorem Follows.of_guarded {env : Env} {watched : Bool} {s : Signal} {act : Option SigAction}
    {e : HistoryEvent ι A} {f : Flow A}
    (he : ∀ sig, sets sig e = if s = sig ∧ watched = false then act else none)
    (halive : (Shim.guarded (Flow.callOps cfg env libc) cfg.aggressive watched
      (Flow.origSigaction s act) () f).1.aborted = false) :
    Follows [e] f.toGlobals (Shim.guarded (Flow.callOps cfg env libc) cfg.aggressive watched
      (Flow.origSigaction s act) () f).1.toGlobals := by
  rw [(Flow.guarded_of_alive halive).2]
  cases watched with
  | true => exact ⟨rfl, rfl, rfl, fun sig => by simp [lastSet, he]⟩
  | false =>
    refine ⟨?_, ?_, ?_, fun sig => ?_⟩
    · cases act <;> rfl
    · cases act <;> rfl
    · cases act <;> rfl
    · simpa [lastSet, he] using sigaction_origSigaction sig s act f

/-- No call that passes the shims is about SIGFPE. -/
theorem lastSet_sigfpe (act : SigAction) (es : List (HistoryEvent ι A)) :
    lastSet .sigfpe act es = act := by
  induction es generalizing act with
  | nil => rfl
  | cons e es ih =>
    have he : sets .sigfpe e = none := by
      cases e with
      | signal t env s func => grind [sets]
      | sigaction t env s act => grind [sets]
      | thread | shortCircuit | target => rfl
    simpa [lastSet, he] using ih act

variable [DecidableEq ι]

theorem follows_step {p q : Process ι A} {e : HistoryEvent ι A}
    (hstep : step cfg libc kernel p e = some q) (halive : q.globals.aborted = false) :
    p.globals.aborted = false ∧ Follows [e] p.globals q.globals := by
  cases e with
  | thread t e =>
    obtain ⟨g, hg, rfl⟩ := Option.map_eq_some_iff.mp hstep
    have hsame := Flow.sameProcess_of_step hg halive
    exact ⟨hsame.aborted.symm.trans halive, .of_same hsame fun _ => rfl⟩
  | shortCircuit t env siCode =>
    obtain ⟨-, hstep⟩ := Option.ite_none_right_eq_some.mp hstep
    obtain ⟨g, hg, rfl⟩ := Option.map_eq_some_iff.mp hstep
    have hsame := sameProcess_shortCircuit hg halive
    exact ⟨hsame.aborted.symm.trans halive, .of_same hsame fun _ => rfl⟩
  | signal t env s func =>
    obtain rfl := Option.some.inj hstep
    exact ⟨(Flow.guarded_of_alive halive).1, .of_guarded (fun sig => by simp [sets]) halive⟩
  | sigaction t env s act =>
    obtain rfl := Option.some.inj hstep
    exact ⟨(Flow.guarded_of_alive halive).1, .of_guarded (fun sig => by simp [sets]) halive⟩
  | target t own =>
    obtain rfl := Option.some.inj hstep
    exact ⟨halive, rfl, rfl, rfl, fun _ => rfl⟩

theorem follows_run {p q : Process ι A} {es : List (HistoryEvent ι A)}
    (hrun : Run.run (step cfg libc kernel) p es = some q) (halive : q.globals.aborted = false) :
    p.globals.aborted = false ∧ Follows es p.globals q.globals := by
  induction es generalizing p with
  | nil =>
    obtain rfl := Option.some.inj hrun
    exact ⟨halive, rfl, rfl, rfl, fun _ => rfl⟩
  | cons e es ih =>
    obtain ⟨p', hstep, hrun⟩ := Run.run_cons.mp hrun
    obtain ⟨halive', hs⟩ := ih hrun
    obtain ⟨halive'', h⟩ := follows_step hstep halive'
    exact ⟨halive'', h.cons hs⟩

/-! ## The abort at the end of a history -/

/-- The abort puts SIGFPE and SIGTRAP back as they were stashed; all the others are as the target
has left them. -/
theorem restored_givesBack_iff {f : Flow A} {inherited : Signal → SigAction}
    (hfpe : f.oldsaFpe = if kernel then .zero else inherited .sigfpe)
    (htrap : f.oldsaTrap = inherited .sigtrap)
    (hkept : kernel = true → f.sigaction .sigfpe = inherited .sigfpe) :
    GivesBack cfg kernel inherited f.sigaction (restored f f.sigaction) ↔
      f.sigaction .sigint = inherited .sigint ∧
      (cfg.timers = true → f.sigaction cfg.alarmSig = inherited cfg.alarmSig) ∧
      (kernel = true → inherited .sigfpe = .zero) := by
  obtain ⟨hafpe, hatrap⟩ := alarmSig_ne cfg
  have haint := alarmSig_ne_sigint cfg
  constructor
  · intro h
    refine ⟨?_, fun ht => ?_, fun hk => ?_⟩
    · simpa [restored, installed] using h .sigint
    · simpa [restored, installed, hafpe, hatrap, haint, ht] using h cfg.alarmSig
    · have hzero : SigAction.zero = f.sigaction .sigfpe := by
        simpa [restored, installed, hfpe, hk] using h .sigfpe
      exact (hkept hk).symm.trans hzero.symm
  · rintro ⟨hint, halarm, hkernel⟩ sig
    by_cases hs : sig = .sigtrap
    · simp [hs, restored, installed, htrap]
    by_cases hs' : sig = .sigfpe
    · cases kernel with
      | false => simp [hs', restored, installed, hfpe]
      | true => simp [hs', restored, installed, hfpe, hkept, hkernel]
    have hsame : restored f f.sigaction sig = f.sigaction sig := by simp [restored, hs, hs']
    rw [hsame]
    by_cases hreplaced : sig = .sigint ∨ (cfg.timers = true ∧ sig = cfg.alarmSig)
    · obtain rfl | ⟨ht, rfl⟩ := hreplaced
      · simp [installed, hint]
      · simp [installed, hafpe, hatrap, haint, ht, halarm ht]
    · obtain ⟨hnint, hnalarm⟩ := not_or.mp hreplaced
      simp [installed, hs, hs', hnint, hnalarm]

/-- The abort is exactly right if the target has put SIGINT and the timer's signal back itself,
and there was nothing to keep for SIGFPE that was not kept. -/
theorem getOut_givesBack_iff (cfg : Config A) (libc : Libc A) (kernel : Bool)
    (env env' : Env) (blocked blocked' : Bool) (inherited : Signal → SigAction) (code : Mem)
    (thread : ι → Thread A) (t t' : ι) {es : List (HistoryEvent ι A)} {p q : Process ι A}
    (hup : bringup cfg env kernel blocked t (start inherited code thread) = some p)
    (hrun : Run.run (step cfg libc kernel) p es = some q) (halive : q.globals.aborted = false) :
    GivesBack cfg kernel inherited q.globals.sigaction
        ((q.flow t').getOut cfg env' libc blocked').sigaction ↔
      lastSet .sigint cfg.sigintAction es = inherited .sigint ∧
      (cfg.timers = true → lastSet cfg.alarmSig sigalrmAction es = inherited cfg.alarmSig) ∧
      (kernel = true → inherited .sigfpe = .zero) := by
  obtain ⟨hi, hstashed⟩ := stashed_bringup hup
  obtain ⟨-, hfollows⟩ := follows_run hrun halive
  obtain ⟨hafpe, hatrap⟩ := alarmSig_ne cfg
  have haint := alarmSig_ne_sigint cfg
  have hbefore (sig : Signal) : (q.flow t').sigaction sig =
      lastSet sig ((installed cfg kernel sig).getD (inherited sig)) es :=
    (hfollows.sigaction sig).trans (congrArg (lastSet sig · es) (hstashed.sigaction sig))
  have hsigint : (q.flow t').sigaction .sigint = lastSet .sigint cfg.sigintAction es := by
    simp [hbefore, installed]
  have halarm (ht : cfg.timers = true) :
      (q.flow t').sigaction cfg.alarmSig = lastSet cfg.alarmSig sigalrmAction es := by
    simp [hbefore, installed, hafpe, hatrap, haint, ht]
  have hkept (hk : kernel = true) : (q.flow t').sigaction .sigfpe = inherited .sigfpe := by
    simp [hbefore, installed, hk, lastSet_sigfpe]
  have hafter := sigaction_getOut cfg env' libc blocked' (f := q.flow t')
    (hfollows.inited.trans hi) halive
  rw [hafter, ← hsigint, ← forall_congr fun ht => congrArg (· = _) (halarm ht)]
  exact restored_givesBack_iff (hfollows.oldsaFpe.trans hstashed.oldsaFpe)
    (hfollows.oldsaTrap.trans hstashed.oldsaTrap) hkept

end Restoration
end

/-! ## A process on x64 -/

namespace X64

/-- A program with two threads, which ignores SIGFPE. A library of it has called `signal` for
SIGVTALRM before FPSpy comes up. -/
def inheritedIgn : Signal → SigAction :=
  Function.update (Function.update (fun _ => .zero) .sigfpe ⟨.ign, [], 0⟩) .sigvtalrm
    (.ofSignal .sigvtalrm (.target 0))

def beforeBringup : Process Bool x64 :=
  Restoration.start inheritedIgn (fun _ => 0) fun _ => .start 1 ⟨fun _ => 0, 0x1f80⟩

def virtualSampler : Config x64 := { plain with timers := true, timerType := .virtual }

def putBack : List (HistoryEvent Bool x64) :=
  [.signal true quietEnv .sigint .ign, .sigaction false quietEnv .sigint (some .zero),
    .signal true quietEnv .sigvtalrm (.target 0)]

theorem getOut_givesBack_putBack :
    ∃ p q, Restoration.bringup virtualSampler quietEnv false false false beforeBringup = some p ∧
      Run.run (Restoration.step virtualSampler libc false) p putBack = some q ∧
      q.globals.aborted = false ∧
      Restoration.GivesBack virtualSampler false inheritedIgn q.globals.sigaction
        ((q.flow true).getOut virtualSampler quietEnv libc false).sigaction := by
  have hval : ((Restoration.bringup virtualSampler quietEnv false false false beforeBringup).bind
      (Run.run (Restoration.step virtualSampler libc false) · putBack)).map
        (·.globals.aborted) = some false := by decide
  obtain ⟨q, hq, halive⟩ := Option.map_eq_some_iff.mp hval
  obtain ⟨p, hup, hrun⟩ := Option.bind_eq_some_iff.mp hq
  have hiff := Restoration.getOut_givesBack_iff virtualSampler libc false quietEnv quietEnv false
    false inheritedIgn _ _ false true hup hrun halive
  exact ⟨p, q, hup, hrun, halive, hiff.mpr (by decide)⟩

/-- With the default settings, an abort leaves SIGINT with FPSpy's handler. -/
theorem not_givesBack_sigint :
    ∃ p, Restoration.bringup plain quietEnv false false false beforeBringup = some p ∧
      ¬ Restoration.GivesBack plain false inheritedIgn p.globals.sigaction
        ((p.flow false).getOut plain quietEnv libc false).sigaction := by
  have hval : (Restoration.bringup plain quietEnv false false false beforeBringup).map
      (fun p => ((p.flow false).getOut plain quietEnv libc false).sigaction .sigint) =
        some plain.sigintAction := by decide
  obtain ⟨p, hup, hsigint⟩ := Option.map_eq_some_iff.mp hval
  refine ⟨p, hup, fun h => ?_⟩
  have hback : inheritedIgn .sigint = plain.sigintAction := (h .sigint).symm.trans hsigint
  exact absurd hback (by decide)

/-- With kernel support, an abort takes away the disposition of SIGFPE, which was never replaced. -/
theorem not_givesBack_kernel :
    ∃ p, Restoration.bringup plain quietEnv true false false beforeBringup = some p ∧
      p.globals.sigaction .sigfpe = inheritedIgn .sigfpe ∧
      ¬ Restoration.GivesBack plain true inheritedIgn p.globals.sigaction
        ((p.flow false).getOut plain quietEnv libc false).sigaction := by
  have hval : (Restoration.bringup plain quietEnv true false false beforeBringup).map
      (fun p => (p.globals.sigaction .sigfpe,
        ((p.flow false).getOut plain quietEnv libc false).sigaction .sigfpe)) =
          some (inheritedIgn .sigfpe, .zero) := by decide
  obtain ⟨p, hup, hpair⟩ := Option.map_eq_some_iff.mp hval
  obtain ⟨hbefore, hafter⟩ := Prod.mk.inj hpair
  refine ⟨p, hup, hbefore, fun h => ?_⟩
  have hkept : p.globals.sigaction .sigfpe = .zero := (h .sigfpe).symm.trans hafter
  exact absurd (hbefore.symm.trans hkept) (by decide)

end X64
end FPSpy
