import Mathlib.Data.List.TakeWhile
import Mathlib.Logic.Function.Basic
import FPSpy.Lib.Run
import FPSpy.Monitor.Context

/-!
# The original functions

FPSpy's library defines `fork`, `pthread_create`, `signal`, the `fe*` functions and so on
whatever it is told to do, and finds the originals it forwards to in `setup_shims`. That
stops at the first one that is missing, leaves out the pthread functions on request, and is
not reached at all if `fpspy_init` dislikes its environment. `ORIG_RETURN` and `ORIG_IF_CAN`
test the pointer first; `fork`, `pthread_create`, `pthread_exit` and the report of a thread
in aggregate mode do not.

Which pointers are set depends on the environment and the linker alone, so the calls that go
through a null pointer can be told from these (`run_provided_iff`).
-/
namespace FPSpy

inductive OrigFn where
  | fork | pthreadCreate | pthreadExit | signal | sigaction
  | feclearexcept | feenableexcept | fedisableexcept | fegetexcept | fegetexceptflag
  | feraiseexcept | fesetexceptflag | fetestexcept | fegetround | fesetround
  | fegetenv | feholdexcept | fesetenv | feupdateenv
  deriving DecidableEq, Repr

inductive EnvVar where
  | fpspyMode | fpspyEnableTrace | fpspyAggressive | fpspyDisablePthreads | disablePthreads
  | fpspyPoisson | fpspyTimer | fpspyAbort
  deriving DecidableEq, Repr

/-- What a process finds: its environment, its machine, and its dynamic linker. -/
structure Setting where
  getenv : EnvVar → Option (List Char)
  machineSupportsFpTraps : Bool
  archProcessInit : Bool
  /-- `dlsym(RTLD_NEXT, ..)` finds the function. -/
  dlsym : OrigFn → Bool

namespace Setting

def strcaseeq (a b : List Char) : Bool := a.map Char.toLower = b.map Char.toLower

def startsWith (e : Setting) (v : EnvVar) (letter : Char) : Bool :=
  (e.getenv v).any fun s => s.head?.any fun c => c.toLower = letter

def isspace (c : Char) : Bool := c = ' ' ∨ (9 ≤ c.toNat ∧ c.toNat ≤ 13)

/-- `%lu`: what is left after it, if it matches. -/
def scanLu (s : List Char) : Option (List Char) :=
  let s := s.dropWhile isspace
  let s := match s with
    | '+' :: rest | '-' :: rest => rest
    | s => s
  if s.head?.any Char.isDigit then some (s.dropWhile Char.isDigit) else none

def scansLuLu (s : List Char) : Bool :=
  match scanLu s with
  | some (':' :: rest) => (scanLu rest).isSome
  | _ => false

/-- The mode, if `fpspy_init` does not end the process over it. -/
def mode (e : Setting) : Option Mode :=
  match e.getenv .fpspyMode with
  | none => some .aggregate
  | some s =>
    if strcaseeq s "individual".toList then
      if e.machineSupportsFpTraps then some .individual else none
    else if strcaseeq s "aggregate".toList then some .aggregate
    else none

def disablesPthreads (e : Setting) : Bool :=
  e.startsWith .fpspyDisablePthreads 'y' || e.startsWith .disablePthreads 'y'

def timersOk (e : Setting) : Bool :=
  (e.getenv .fpspyPoisson).all scansLuLu &&
    (e.getenv .fpspyTimer).all fun s =>
      strcaseeq s "virtual".toList || strcaseeq s "real".toList || strcaseeq s "prof".toList

end Setting

/-- The variables of `fpspy.c` that the interposed functions depend on. -/
structure Shims where
  orig : OrigFn → Bool
  inited : Bool
  aborted : Bool
  mode : Mode
  aggressive : Bool
  createMonitorFile : Bool
  disablePthreads : Bool

def Shims.zero : Shims where
  orig _ := false
  inited := false
  aborted := false
  mode := .aggregate
  aggressive := false
  createMonitorFile := true
  disablePthreads := false

inductive Crash where
  /-- A call through a null pointer. -/
  | nullCall (f : OrigFn)
  /-- `abort()` -/
  | abort
  deriving DecidableEq, Repr

/-- A call of an interposed function, by the target or by the trampoline of a thread that returns.
`broughtUp` is how the rest of `bringup` would end, should the call run `fpspy_init`; `opened` is
whether the file of an exiting thread can be opened. -/
inductive ShimCall where
  | fork
  | pthreadCreate
  | pthreadExit (opened : Bool)
  | signal (sig : Signal) (broughtUp : Bool)
  | sigaction (sig : Signal) (broughtUp : Bool)
  /-- One of the fourteen `fe*` functions. -/
  | fe (broughtUp : Bool)
  deriving DecidableEq, Repr

namespace Shims

def order (disablePthreads : Bool) : List OrigFn :=
  (if disablePthreads then [] else [.pthreadCreate, .pthreadExit]) ++
    [.fork, .signal, .sigaction, .feclearexcept, .feenableexcept, .fedisableexcept, .fegetexcept,
      .fegetexceptflag, .feraiseexcept, .fesetexceptflag, .fetestexcept, .fegetround, .fesetround,
      .fegetenv, .feholdexcept, .fesetenv, .feupdateenv]

/-- `SHIMIFY` for each function in turn, up to the first that is not found. -/
def setupShims (dlsym : OrigFn → Bool) : List OrigFn → (OrigFn → Bool) → (OrigFn → Bool) × Bool
  | [], orig => (orig, true)
  | f :: fs, orig =>
    let orig := Function.update orig f (dlsym f)
    if dlsym f then setupShims dlsym fs orig else (orig, false)

def bringup (e : Setting) (rest : Bool) (s : Shims) : Shims :=
  if e.archProcessInit then
    let r := setupShims e.dlsym (order s.disablePthreads) s.orig
    { s with orig := r.1, inited := r.2 && rest }
  else s

def readEnv (e : Setting) (mode : Mode) (s : Shims) : Shims :=
  { s with
    mode := mode
    createMonitorFile := s.createMonitorFile && !e.startsWith .fpspyEnableTrace 'n'
    aggressive := s.aggressive || e.startsWith .fpspyAggressive 'y'
    disablePthreads := s.disablePthreads || e.disablesPthreads }

/-- What it sets last. -/
def readAbort (e : Setting) (s : Shims) : Shims :=
  { s with createMonitorFile := s.createMonitorFile && !e.startsWith .fpspyAbort 'y' }

def fpspyInit (e : Setting) (rest : Bool) (s : Shims) : Except Crash Shims :=
  if s.inited then .ok s
  else
    match e.mode with
    | none => .error .abort
    | some mode =>
      let s := readEnv e mode s
      if e.timersOk then .ok (bringup e rest (readAbort e s)) else .ok s

/-- A call through a pointer that is not tested first. -/
def call (s : Shims) (f : OrigFn) : Except Crash Unit :=
  if s.orig f then .ok () else .error (.nullCall f)

/-- `abort_operation`: its calls of originals are tested, and `fpspy_init` does nothing in a process
that is initialised. -/
def abortOperation (e : Setting) (rest : Bool) (s : Shims) : Except Crash Shims :=
  (fpspyInit e rest s).map fun s => { s with aborted := true }

/-- `handle_aggregate_thread_exit`: `stringify_current_fe_exceptions` asks for the flags. -/
def handleAggregateThreadExit (opened : Bool) (s : Shims) : Except Crash Unit :=
  if s.createMonitorFile ∧ opened ∧ s.aborted = false then s.call .fetestexcept else .ok ()

/-- `pthread_exit` before it forwards. -/
def reportExit (opened : Bool) (s : Shims) : Except Crash Unit :=
  match s.mode with
  | .individual => .ok ()
  | .aggregate => s.handleAggregateThreadExit opened

def minds (s : Shims) (watched : Bool) : Bool :=
  watched ∧ s.mode = .individual ∧ s.aborted = false ∧ s.aggressive = false

def step (e : Setting) (s : Shims) : ShimCall → Except Crash Shims
  | .fork => do
    s.call .fork
    return s
  | .pthreadCreate => do
    s.call .pthreadCreate
    return s
  | .pthreadExit opened => do
    s.reportExit opened
    s.call .pthreadExit
    return s
  | .signal sig rest =>
    if s.minds (sig = .sigfpe ∨ sig = .sigtrap) then s.abortOperation e rest else .ok s
  | .sigaction sig rest =>
    if s.minds (sig = .sigvtalrm ∨ sig = .sigfpe ∨ sig = .sigtrap) then s.abortOperation e rest
    else .ok s
  | .fe rest => s.abortOperation e rest

def advance (e : Setting) (s : Shims) (c : ShimCall) : Option Shims := (s.step e c).toOption

/-! ## Which pointers are set -/

/-- The original is found: `fpspy_init` gets to `setup_shims`, and that gets past the function. -/
def Found (e : Setting) (f : OrigFn) : Bool :=
  e.timersOk && e.archProcessInit && decide (f ∈ (order e.disablesPthreads).takeWhile e.dlsym)

def traces (e : Setting) : Bool :=
  !e.startsWith .fpspyEnableTrace 'n' && !(e.timersOk && e.startsWith .fpspyAbort 'y')

theorem setupShims_orig {dlsym orig : OrigFn → Bool} (h : ∀ f, dlsym f = false → orig f = false)
    (fs : List OrigFn) :
    (setupShims dlsym fs orig).1 = fun f => orig f || decide (f ∈ fs.takeWhile dlsym) := by
  induction fs generalizing orig with
  | nil => simp [setupShims]
  | cons g fs ih =>
    cases hg : dlsym g with
    | true =>
      have hnext : ∀ f, dlsym f = false → Function.update orig g true f = false := by
        intro f hf
        have hne : f ≠ g := by
          rintro rfl
          simp [hg] at hf
        simpa [hne] using h f hf
      simp only [setupShims, hg, if_true, ih hnext]
      funext f
      by_cases hfg : f = g
      · simp [hfg, hg]
      · simp [hfg, hg]
    | false =>
      have hsame : Function.update orig g false = orig := by
        rw [← h g hg]
        exact Function.update_eq_self g orig
      simp [setupShims, hg, hsame]

variable {e : Setting} {s t : Shims}

structure Loaded (e : Setting) (s : Shims) : Prop where
  orig : s.orig = Found e
  mode : e.mode = some s.mode
  createMonitorFile : s.createMonitorFile = traces e
  disablePthreads : s.disablePthreads = e.disablesPthreads

structure Loading (e : Setting) (s : Shims) : Prop where
  orig : ∀ f, s.orig f = true → Found e f = true
  createMonitorFile : s.createMonitorFile = true ∨ s.createMonitorFile = traces e
  disablePthreads : s.disablePthreads = false ∨ s.disablePthreads = e.disablesPthreads

theorem loading_zero (e : Setting) : Loading e .zero := ⟨nofun, .inl rfl, .inl rfl⟩

theorem Loaded.loading (h : Loaded e s) : Loading e s :=
  ⟨fun f hf => by rwa [h.orig] at hf, .inr h.createMonitorFile, .inr h.disablePthreads⟩

theorem dlsym_of_found {f : OrigFn} (h : Found e f = true) : e.dlsym f = true := by
  simp only [Found, Bool.and_eq_true, decide_eq_true_eq] at h
  exact List.mem_takeWhile_imp h.2

theorem orig_eq_found (horig : ∀ f, s.orig f = true → Found e f = true)
    (hnone : ∀ f, Found e f = false) : s.orig = Found e := by
  funext f
  cases hf : s.orig f with
  | true => exact (horig f hf).symm
  | false => exact (hnone f).symm

/-- `setup_shims` sets the pointers that were not set. -/
theorem orig_bringup (horig : ∀ f, s.orig f = true → Found e f = true) (ht : e.timersOk = true)
    (hd : s.disablePthreads = e.disablesPthreads) (rest : Bool) :
    (bringup e rest s).orig = Found e := by
  unfold bringup
  split_ifs with harch
  · have hmissing : ∀ f, e.dlsym f = false → s.orig f = false := by
      intro f hf
      by_contra hset
      simp [dlsym_of_found (horig f (by simpa using hset))] at hf
    funext f
    simp only [setupShims_orig hmissing, hd]
    cases hf : s.orig f with
    | true => simp [horig f hf]
    | false => simp [Found, ht, harch]
  · exact orig_eq_found horig fun f => by simp [Found, harch]

theorem bringup_keeps (e : Setting) (rest : Bool) (s : Shims) :
    (bringup e rest s).mode = s.mode ∧ (bringup e rest s).aborted = s.aborted ∧
      (bringup e rest s).createMonitorFile = s.createMonitorFile ∧
      (bringup e rest s).disablePthreads = s.disablePthreads := by
  unfold bringup
  split_ifs <;> exact ⟨rfl, rfl, rfl, rfl⟩

/-- `fpspy_init` gives the same result however often it is run. -/
theorem loaded_fpspyInit {rest : Bool} (h : Loading e s) (hi : s.inited = false)
    (hinit : fpspyInit e rest s = .ok t) : Loaded e t := by
  rw [fpspyInit, if_neg (by simp [hi])] at hinit
  cases hmode : e.mode with
  | none => simp [hmode] at hinit
  | some mode =>
    have hpthreads : (readEnv e mode s).disablePthreads = e.disablesPthreads := by
      rcases h.disablePthreads with hd | hd <;> simp [readEnv, hd]
    simp only [hmode] at hinit
    split_ifs at hinit with ht
    · obtain rfl := Except.ok.inj hinit
      obtain ⟨hm, -, hfile, hd⟩ := bringup_keeps e rest (readAbort e (readEnv e mode s))
      refine ⟨orig_bringup (s := readAbort e (readEnv e mode s)) h.orig ht hpthreads rest,
        hmode.trans (congrArg some hm.symm), hfile.trans ?_, hd.trans hpthreads⟩
      rcases h.createMonitorFile with hc | hc
      · simp [readAbort, readEnv, hc, traces, ht]
      · cases hn : e.startsWith .fpspyEnableTrace 'n' <;>
          simp [readAbort, readEnv, hc, traces, ht, hn]
    · obtain rfl := Except.ok.inj hinit
      refine ⟨orig_eq_found h.orig fun f => by simp [Found, ht], hmode, ?_, hpthreads⟩
      rcases h.createMonitorFile with hc | hc <;> simp [readEnv, hc, traces, ht]

theorem Loaded.fpspyInit {rest : Bool} (h : Loaded e s) (hinit : fpspyInit e rest s = .ok t) :
    Loaded e t := by
  cases hi : s.inited with
  | true =>
    rw [Shims.fpspyInit, if_pos hi] at hinit
    obtain rfl := Except.ok.inj hinit
    exact h
  | false => exact loaded_fpspyInit h.loading hi hinit

theorem Loaded.abortOperation {rest : Bool} (h : Loaded e s)
    (hstep : s.abortOperation e rest = .ok t) : Loaded e t := by
  unfold Shims.abortOperation at hstep
  cases hinit : Shims.fpspyInit e rest s with
  | error c =>
    rw [hinit] at hstep
    cases hstep
  | ok u =>
    rw [hinit] at hstep
    obtain rfl := Except.ok.inj hstep
    have hu := h.fpspyInit hinit
    exact ⟨hu.orig, hu.mode, hu.createMonitorFile, hu.disablePthreads⟩

/-- `abort_operation` makes no call that is not tested. -/
theorem abortOperation_ne_nullCall (rest : Bool) (f : OrigFn) :
    s.abortOperation e rest ≠ .error (.nullCall f) := by
  have hinit : Shims.fpspyInit e rest s ≠ .error (.nullCall f) := by
    unfold Shims.fpspyInit
    cases e.mode with
    | none => split_ifs <;> simp
    | some mode =>
      dsimp only
      split_ifs <;> nofun
  intro h
  unfold Shims.abortOperation at h
  cases hr : Shims.fpspyInit e rest s with
  | error c =>
    rw [hr] at h
    cases h
    exact hinit hr
  | ok u =>
    rw [hr] at h
    cases h

/-- The condition on a call. -/
def Provided (e : Setting) (s : Shims) : ShimCall → Prop
  | .fork => Found e .fork = true
  | .pthreadCreate => Found e .pthreadCreate = true
  | .pthreadExit opened => Found e .pthreadExit = true ∧
    (e.mode = some .aggregate → traces e = true → opened = true → s.aborted = false →
      Found e .fetestexcept = true)
  | _ => True

@[simp] theorem call_bind {α : Type} (f : OrigFn) (k : Unit → Except Crash α) :
    (s.call f >>= k) = if s.orig f then k () else .error (.nullCall f) := by
  unfold call
  split_ifs <;> rfl

/-- An exiting thread asks for the flags. -/
def asks (opened : Bool) (s : Shims) : Prop :=
  s.mode = .aggregate ∧ s.createMonitorFile = true ∧ opened = true ∧ s.aborted = false

instance (opened : Bool) (s : Shims) : Decidable (s.asks opened) :=
  inferInstanceAs (Decidable (_ ∧ _))

theorem step_pthreadExit (opened : Bool) :
    s.step e (.pthreadExit opened) =
      if s.asks opened ∧ s.orig .fetestexcept = false then .error (.nullCall .fetestexcept)
      else if s.orig .pthreadExit then .ok s else .error (.nullCall .pthreadExit) := by
  have hforward : (s.call .pthreadExit >>= fun _ => pure s) =
      if s.orig .pthreadExit then .ok s else .error (.nullCall .pthreadExit) := call_bind _ _
  have hreport : s.reportExit opened =
      if s.asks opened then s.call .fetestexcept else .ok () := by
    cases hm : s.mode <;> simp [reportExit, handleAggregateThreadExit, asks, hm]
  simp only [Shims.step, hreport, hforward]
  by_cases hasks : s.asks opened
  · rw [if_pos hasks, call_bind]
    cases s.orig .fetestexcept <;> simp [hasks]
  · have hnot : ¬ (s.asks opened ∧ s.orig .fetestexcept = false) := fun h => hasks h.1
    rw [if_neg hasks, if_neg hnot]
    rfl

theorem Loaded.step {c : ShimCall} (h : Loaded e s) (hstep : s.advance e c = some t) :
    Loaded e t := by
  have hok : s.step e c = .ok t := by
    unfold advance at hstep
    cases hr : s.step e c with
    | error => simp [hr, Except.toOption] at hstep
    | ok u => simpa [hr, Except.toOption] using hstep
  cases c with
  | fork | pthreadCreate =>
    simp only [Shims.step, call_bind] at hok
    split_ifs at hok
    obtain rfl := Except.ok.inj hok
    exact h
  | pthreadExit opened =>
    rw [step_pthreadExit] at hok
    split_ifs at hok
    obtain rfl := Except.ok.inj hok
    exact h
  | signal | sigaction =>
    simp only [Shims.step] at hok
    split_ifs at hok
    · exact h.abortOperation hok
    · obtain rfl := Except.ok.inj hok
      exact h
  | fe => exact h.abortOperation hok

theorem Loaded.provided_iff (h : Loaded e s) (c : ShimCall) :
    (∀ f, s.step e c ≠ .error (.nullCall f)) ↔ Provided e s c := by
  cases c with
  | fork | pthreadCreate =>
    simp only [Shims.step, call_bind, Provided, ← h.orig]
    split_ifs with hf <;> simp [hf, pure, Except.pure]
  | pthreadExit opened =>
    have hasks : s.asks opened ↔ e.mode = some .aggregate ∧ traces e = true ∧ opened = true ∧
        s.aborted = false := by
      rw [asks, h.mode, h.createMonitorFile, Option.some.injEq]
    rw [step_pthreadExit, Provided, ← h.orig]
    split_ifs with hflags hexit
    · refine iff_of_false (fun hall => hall _ rfl) ?_
      obtain ⟨hyes, hnull⟩ := hflags
      obtain ⟨hm, htr, hop, hab⟩ := hasks.mp hyes
      rintro ⟨-, hgot⟩
      simp [hgot hm htr hop hab] at hnull
    · refine iff_of_true (fun f => nofun) ⟨hexit, fun hm htr hop hab => ?_⟩
      have hyes := hasks.mpr ⟨hm, htr, hop, hab⟩
      simpa [hyes] using hflags
    · exact iff_of_false (fun hall => hall _ rfl) fun hgot => hexit hgot.1
  | signal | sigaction =>
    refine iff_of_true (fun f => ?_) trivial
    simp only [Shims.step]
    split_ifs
    · exact abortOperation_ne_nullCall _ f
    · nofun
  | fe => exact iff_of_true (abortOperation_ne_nullCall _) trivial

/-- The calls that go through a null pointer are those that are not provided for. -/
theorem run_provided_iff (e : Setting) (rest : Bool) (hload : fpspyInit e rest .zero = .ok s)
    (cs : List ShimCall) :
    Run.Admits (advance e) (fun s c => ∀ f, s.step e c ≠ .error (.nullCall f)) s cs ↔
      Run.Admits (advance e) (Provided e) s cs :=
  Run.admits_congr (fun _ _ _ h hstep => Loaded.step h hstep) (fun _ c h => h.provided_iff c)
    (loaded_fpspyInit (loading_zero e) rfl hload)

def usual : Setting := ⟨fun _ => none, true, true, fun _ => true⟩

theorem run_provided_usual :
    ∃ s, fpspyInit usual true .zero = .ok s ∧ Run.Admits (advance usual)
      (fun s c => ∀ f, s.step usual c ≠ .error (.nullCall f)) s
      [.fork, .pthreadCreate, .fe true, .pthreadExit true] := by
  refine ⟨_, rfl, (run_provided_iff usual true rfl _).mpr ?_⟩
  refine Run.admits_of_forall ?_ _
  simp only [List.mem_cons, List.not_mem_nil, or_false]
  rintro c (rfl | rfl | rfl | rfl) s
  · exact (rfl : Found usual .fork = true)
  · exact (rfl : Found usual .pthreadCreate = true)
  · trivial
  · exact ⟨rfl, fun _ _ _ _ => rfl⟩

def withoutPthreads : Setting :=
  { usual with
    getenv := Function.update (fun _ => none) .fpspyDisablePthreads (some ['y', 'e', 's']) }

/-- `pthread_create` calls what `setup_shims` has left out. -/
theorem nullCall_withoutPthreads :
    ∃ s, fpspyInit withoutPthreads true .zero = .ok s ∧ s.inited = true ∧
      s.step withoutPthreads .pthreadCreate = .error (.nullCall .pthreadCreate) :=
  ⟨_, rfl, rfl, rfl⟩

end Shims
end FPSpy
