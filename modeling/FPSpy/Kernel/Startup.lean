import FPSpy.Individual.Process
import FPSpy.Monitor.Bringup
import FPSpy.Monitor.Table

/-!
# Start-up with the kernel module

With `FPSPY_KERNEL=y` in individual mode, `bringup` opens `/dev/fpvm_dev` and
`bringup_monitoring_context` registers the thread there. When the registration fails it
aborts, and an abort before `inited` is set starts FPSpy up again: `fpspy_init`, `bringup`,
`bringup_monitoring_context` and `abort_operation` call each other in a cycle.

The recursion of `fpspy_init` has fuel; a start-up comes back if some fuel is enough.
-/
namespace FPSpy

variable {A : Arch}

/-- One thread of a process: the process-wide state with `context[]`, the thread's registers,
`kernel_fd`, the trace files that are open, and how often the device file and the registration
have been tried. -/
structure Startup (A : Arch) where
  globals : Globals
  table : List MonitoringContext
  uc : A.UContext
  kernelFd : Int
  fds : List Int
  opens : Nat
  ioctls : Nat

namespace Startup

/-- What the outside world answers, each time it is asked. -/
structure World where
  /-- The descriptor `open` returns for the device file, if it succeeds. -/
  device : Nat → Option Nat
  /-- FPVM_IOCTL_REG succeeds. -/
  ioctl : Nat → Bool
  /-- The rest, at the time of a registration. -/
  env : Nat → Env

def flow (t : Nat) (s : Startup A) : Flow A where
  toGlobals := s.globals
  toThread := { Thread.start t s.uc with mc := Table.findMonitoringContext t s.table }

def onThread (t : Nat) (F : Flow A → Flow A) (s : Startup A) : Startup A :=
  let f := F (s.flow t)
  { s with
    globals := f.toGlobals
    uc := f.uc
    table := match f.mc with
      | none => s.table
      | some mc => Table.store t mc s.table }

/-- The first half of `bringup_monitoring_context`: the slot is taken and its file opened. -/
def openContext (cfg : Config A) (env : Env) (tid : Nat) (slot : MonitoringContext) :
    Option MonitoringContext :=
  let c := { slot with tid := tid }
  if cfg.createMonitorFile then env.openFd.map fun fd => { c with fd := fd } else some c

def initContext (cfg : Config A) (env : Env) (c : MonitoringContext) : MonitoringContext :=
  { c with
    startTime := env.cycles
    state := .init
    abortingInTrap := false
    count := 0
    trapModeState := 0
    sampler := initSampler cfg env c.sampler }

/-- The first free slot is taken, the trace file is open, and the registration has been made if the
device file is open. -/
def take (cfg : Config A) (mc : MonitoringContext) (s : Startup A) : Startup A :=
  { s with
    table := Slots.modifyFirst (·.tid = 0) (fun _ => mc) s.table
    fds := if cfg.createMonitorFile then mc.fd :: s.fds else s.fds
    ioctls := if s.kernelFd ≠ -1 then s.ioctls + 1 else s.ioctls }

/-- The rest of `bringup_monitoring_context` when there is nothing to register with, or the
registration has succeeded. -/
def accept (cfg : Config A) (env : Env) (c : MonitoringContext) (s : Startup A) : Startup A :=
  let mc := initContext cfg env c
  let s := s.take cfg mc
  { s with globals := { s.globals with
    itimer := if cfg.timers then mc.sampler.it else s.globals.itimer } }

/-- The trace file has not opened: -1 stays in the first free slot, which is freed along with all
others that carry the id. -/
def giveBack (t : Nat) (s : Startup A) : Startup A :=
  { s with
    table := Table.freeMonitoringContext t
      (Slots.modifyFirst (·.tid = 0) (fun c => { c with tid := t, fd := -1 }) s.table) }

/-- `bringup_monitoring_context`, and whether it returns 0; `abort` is `abort_operation`. -/
def bringupMonitoringContext (cfg : Config A) (W : World) (abort : Startup A → Option (Startup A))
    (t : Nat) (s : Startup A) : Option (Startup A × Bool) :=
  let env := W.env s.ioctls
  match Table.findMonitoringContext 0 s.table with
  | none => some (s, false)
  | some slot =>
    match openContext cfg env t slot with
    | none => some (s.giveBack t, false)
    | some c =>
      if s.kernelFd ≠ -1 ∧ W.ioctl s.ioctls = false then (abort (s.take cfg c)).map (·, false)
      else some (s.accept cfg env c, true)

def beginBringup (libc : Libc A) (W : World) (t : Nat) (s : Startup A) : Startup A :=
  let s := s.onThread t fun f => { f with uc := libc.feclearexceptEnabled f.uc }
  let s := { s with table := Table.initMonitoringContexts s.table }
  if s.kernelFd = -1 then
    { s with kernelFd := (W.device s.opens).elim (-1) Int.ofNat, opens := s.opens + 1 }
  else s

/-- The rest of `bringup`; SIGFPE is left alone if the kernel takes care of it. -/
def finishBringup (cfg : Config A) (env : Env) (t : Nat) (s : Startup A) : Startup A :=
  s.onThread t fun f => (Bringup.steps cfg env (decide (0 < s.kernelFd))
    (Flow.kickDelivered cfg env) 6 (.sigfpe, f)).2

def bringup (cfg : Config A) (libc : Libc A) (W : World) (abort : Startup A → Option (Startup A))
    (t : Nat) (s : Startup A) : Option (Startup A × Bool) :=
  (bringupMonitoringContext cfg W abort t (beginBringup libc W t s)).map fun (u, ok) =>
    if ok then (u.finishBringup cfg (W.env s.ioctls) t, true) else (u, false)

/-- `kick_self`: SIGTRAP kills a process that has left it at its default. -/
def kickSelf (cfg : Config A) (env : Env) (t : Nat) (s : Startup A) : Option (Startup A) :=
  if (s.globals.sigaction .sigtrap).handler = .dfl then none
  else some (s.onThread t (Flow.kickDelivered cfg env))

/-- The operations of an abort outside the handlers. `none` has not come back. -/
def abortOps (cfg : Config A) (libc : Libc A) (env : Env) (init : Startup A → Option (Startup A))
    (t : Nat) : AbortOps (Option (Startup A)) where
  inited := Option.all (·.globals.inited)
  aborted := Option.all (·.globals.aborted)
  mode := .individual
  findMonitoringContext s := s.bind fun s => Table.findMonitoringContext t s.table
  fpspyInit s := s.bind init
  fedisableexcept := Option.map (onThread t fun f => { f with uc := libc.fedisableexceptAll f.uc })
  feclearexcept := Option.map (onThread t fun f => { f with uc := libc.feclearexceptAll f.uc })
  restoreSigfpe := Option.map (onThread t fun f =>
    { f with sigaction := Function.update f.sigaction .sigfpe f.oldsaFpe })
  writeAbort mc := Option.map (onThread t (Flow.writeAbort cfg env mc))
  kickSelf s := s.bind (kickSelf cfg env t)
  restoreSigtrap := Option.map (onThread t fun f =>
    { f with sigaction := Function.update f.sigaction .sigtrap f.oldsaTrap })
  setAborted := Option.map (onThread t fun f => { f with aborted := true })

/-- `abort_operation`; `init` is `fpspy_init`. -/
def abortOperation (cfg : Config A) (libc : Libc A) (W : World)
    (init : Startup A → Option (Startup A)) (t : Nat) (s : Startup A) : Option (Startup A) :=
  FPSpy.abortOperation (abortOps cfg libc (W.env s.ioctls) init t) (some s)

/-- `fpspy_init`, once the environment has been read. -/
def fpspyInit (cfg : Config A) (libc : Libc A) (W : World) (t : Nat) :
    Nat → Startup A → Option (Startup A)
  | 0, _ => none
  | n + 1, s =>
    if s.globals.inited then some s
    else
      (bringup cfg libc W (abortOperation cfg libc W (fpspyInit cfg libc W t n) t) t s).map Prod.fst

/-! ## The slots -/

variable {cfg : Config A} {libc : Libc A} {W : World} {init : Startup A → Option (Startup A)}
  {t : Nat} {s u : Startup A}

/-- Code in a thread does not take or free slots. -/
theorem tids_onThread (t : Nat) (F : Flow A → Flow A) (s : Startup A) :
    (s.onThread t F).table.map (·.tid) = s.table.map (·.tid) := by
  simp only [onThread]
  split
  · rfl
  · exact Table.tids_store _

/-- An abort of FPSpy that is initialised leaves slots and files as they are. -/
theorem abortOperation_of_inited (hi : s.globals.inited = true)
    (h : abortOperation cfg libc W init t s = some u) :
    u.table.map (·.tid) = s.table.map (·.tid) ∧ u.fds = s.fds := by
  have hthread : ∀ (F : Flow A → Flow A) (o : Option (Startup A)),
      (∀ u, o = some u → u.table.map (·.tid) = s.table.map (·.tid) ∧ u.fds = s.fds) →
      ∀ u, o.map (onThread t F) = some u →
        u.table.map (·.tid) = s.table.map (·.tid) ∧ u.fds = s.fds := by
    intro F o ho _ hu
    obtain ⟨v, hv, rfl⟩ := Option.map_eq_some_iff.mp hu
    exact ⟨(tids_onThread t F v).trans (ho v hv).1, (ho v hv).2⟩
  refine abortOperation_invariant (P := fun o : Option (Startup A) => ∀ u, o = some u →
    u.table.map (·.tid) = s.table.map (·.tid) ∧ u.fds = s.fds) ?_ ?_ ?_ ?_ ?_ ?_ ?_ ?_ u h
  · intro hno
    simp [abortOps, hi] at hno
  · exact fun o ho => hthread _ _ (hthread _ o ho)
  · exact fun o ho => hthread _ o ho
  · exact fun o mc _ ho => hthread _ o ho
  · intro o ho u hu
    obtain ⟨v, hv, hkick⟩ := Option.bind_eq_some_iff.mp hu
    unfold kickSelf at hkick
    split_ifs at hkick
    exact hthread _ o ho u (by rw [hv]; exact hkick)
  · exact fun o ho => hthread _ o ho
  · exact fun o ho => hthread _ o ho
  · rintro _ ⟨rfl⟩
    exact ⟨rfl, rfl⟩

/-! ## A bringup that fails -/

inductive FailedPath (cfg : Config A) (W : World) (abort : Startup A → Option (Startup A)) (t : Nat)
    (s : Startup A) : Option (Startup A) → Prop where
  | full (hslot : Table.findMonitoringContext 0 s.table = none) :
      FailedPath cfg W abort t s (some s)
  | noFile {slot} (hslot : Table.findMonitoringContext 0 s.table = some slot)
      (hopen : cfg.createMonitorFile = true ∧ (W.env s.ioctls).openFd = none) :
      FailedPath cfg W abort t s (some (s.giveBack t))
  | refused {slot c} (hslot : Table.findMonitoringContext 0 s.table = some slot)
      (hopen : openContext cfg (W.env s.ioctls) t slot = some c) :
      FailedPath cfg W abort t s (abort (s.take cfg c))

theorem openContext_eq_none_iff {env : Env} {slot : MonitoringContext} :
    openContext cfg env t slot = none ↔ cfg.createMonitorFile = true ∧ env.openFd = none := by
  unfold openContext
  dsimp only
  split_ifs with hfile <;> simp [hfile]

theorem tid_openContext {env : Env} {slot c : MonitoringContext}
    (h : openContext cfg env t slot = some c) : c.tid = t := by
  unfold openContext at h
  dsimp only at h
  split_ifs at h
  · obtain ⟨fd, -, rfl⟩ := Option.map_eq_some_iff.mp h
    rfl
  · rw [← Option.some.inj h]

theorem failedPath {abort : Startup A → Option (Startup A)}
    (h : bringupMonitoringContext cfg W abort t s = some (u, false)) :
    FailedPath cfg W abort t s (some u) := by
  unfold bringupMonitoringContext at h
  cases hslot : Table.findMonitoringContext 0 s.table with
  | none =>
    simp only [hslot] at h
    obtain rfl := congrArg Prod.fst (Option.some.inj h)
    exact .full hslot
  | some slot =>
    simp only [hslot] at h
    cases hopen : openContext cfg (W.env s.ioctls) t slot with
    | none =>
      simp only [hopen] at h
      obtain rfl := congrArg Prod.fst (Option.some.inj h)
      exact .noFile hslot (openContext_eq_none_iff.mp hopen)
    | some c =>
      simp only [hopen] at h
      by_cases hrefused : s.kernelFd ≠ -1 ∧ W.ioctl s.ioctls = false
      · rw [if_pos hrefused] at h
        obtain ⟨v, hv, heq⟩ := Option.map_eq_some_iff.mp h
        obtain rfl := congrArg Prod.fst heq
        rw [← hv]
        exact .refused hslot hopen
      · rw [if_neg hrefused] at h
        simp at h

/-- The call leaves nothing behind: slots and open files are as before. -/
def LeftNothing (s u : Startup A) : Prop := u.table = s.table ∧ u.fds = s.fds

/-- When it does: no slot is free; or the trace file does not open, no slot is the thread's, and
the descriptor in the free slot is -1 already. -/
def NothingToLeave (cfg : Config A) (W : World) (t : Nat) (s : Startup A) : Prop :=
  Table.findMonitoringContext 0 s.table = none ∨
    ((cfg.createMonitorFile = true ∧ (W.env s.ioctls).openFd = none) ∧
      (∀ c ∈ s.table, c.tid ≠ t) ∧
      ∀ slot, Table.findMonitoringContext 0 s.table = some slot → slot.fd = -1)

variable (cfg libc W init) in
/-- FPSpy is initialised, and a bringup fails. -/
theorem leftNothing_iff (ht : t ≠ 0) (hi : s.globals.inited = true)
    (h : bringupMonitoringContext cfg W (abortOperation cfg libc W init t) t s = some (u, false)) :
    LeftNothing s u ↔ NothingToLeave cfg W t s := by
  have hpath := failedPath h
  generalize hv : some u = v at hpath
  cases hpath with
  | full hslot =>
    obtain rfl := Option.some.inj hv
    exact ⟨fun _ => .inl hslot, fun _ => ⟨rfl, rfl⟩⟩
  | @noFile slot hslot hopen =>
    obtain rfl := Option.some.inj hv
    have hback : LeftNothing s (s.giveBack t) ↔ (∀ c ∈ s.table, c.tid ≠ t) ∧ slot.fd = -1 :=
      (and_iff_left rfl).trans (Table.free_fill_eq_iff ht hslot)
    simp only [NothingToLeave, hback, hslot, hopen, reduceCtorEq, false_or,
      true_and, Option.some.injEq, forall_eq']
  | @refused slot c hslot hopen =>
    have hinited : (s.take cfg c).globals.inited = true := hi
    obtain ⟨htids, -⟩ := abortOperation_of_inited hinited hv.symm
    constructor
    · intro hleft
      have hne := Table.tids_fill_ne (f := fun _ => c) (fun _ => tid_openContext hopen) ht hslot
      exact absurd (htids.symm.trans (congrArg _ hleft.1)) hne
    · rintro (hfull | ⟨hfile, -, -⟩)
      · exact absurd (hslot.symm.trans hfull) (by simp)
      · exact absurd (hopen.symm.trans (openContext_eq_none_iff.mpr hfile)) (by simp)

/-! ## An abort before FPSpy is initialised -/

/-- An abort starts FPSpy up first. -/
theorem fpspyInit_abortOps (cfg : Config A) (libc : Libc A) (env : Env) (t : Nat)
    (hi : s.globals.inited = false) :
    (if (abortOps cfg libc env init t).inited (some s) then some s
      else (abortOps cfg libc env init t).fpspyInit (some s)) = init s := by
  simp [abortOps, hi]

variable (cfg libc W t) in
/-- It does not come back if the start-up in it does not. -/
theorem abortOperation_diverges (hi : s.globals.inited = false) (hinit : init s = none) :
    abortOperation cfg libc W init t s = none := by
  refine abortOperation_post (P := (· = none)) (Q := (· = none)) ?_ ?_ ?_ ?_ ?_ ?_ ?_ ?_
  · exact (fpspyInit_abortOps cfg libc _ t hi).trans hinit
  · exact fun _ _ h => h
  · exact fun o h => by rw [h]; rfl
  · exact fun o h => by rw [h]; rfl
  · exact fun o mc _ h => by rw [h]; rfl
  · exact fun o h => by rw [h]; rfl
  · exact fun o h => by rw [h]; rfl
  · exact fun o h => by rw [h]; rfl

/-- FPSpy is brought up in thread `t`: the thread has a context, and SIGTRAP goes to FPSpy. -/
structure BroughtUp (t : Nat) (s : Startup A) : Prop where
  inited : s.globals.inited = true
  context : (Table.findMonitoringContext t s.table).isSome = true
  sigtrap : (s.globals.sigaction .sigtrap).handler = .sigtrapHandler

def Settled (t : Nat) (s : Startup A) : Prop := BroughtUp t s ∨ s.globals.aborted = true

/-- FPSpy is neither initialised nor has it aborted, and SIGTRAP has its default. -/
structure Bare (s : Startup A) : Prop where
  inited : s.globals.inited = false
  aborted : s.globals.aborted = false
  sigtrap : (s.globals.sigaction .sigtrap).handler = .dfl

theorem Bare.congr (h : Bare s) (hglobals : u.globals = s.globals) : Bare u :=
  ⟨hglobals ▸ h.inited, hglobals ▸ h.aborted, hglobals ▸ h.sigtrap⟩

theorem Bare.not_settled (h : Bare s) : ¬ Settled t s := by
  rintro (hup | haborted)
  · exact absurd (h.inited.symm.trans hup.inited) (by simp)
  · exact absurd (h.aborted.symm.trans haborted) (by simp)

/-- `mc->state = ABORT` and the abort record leave the dispositions alone. -/
theorem sigaction_writeAbort (cfg : Config A) (env : Env) (mc : MonitoringContext) (f : Flow A) :
    (Flow.writeAbort cfg env mc f).sigaction = f.sigaction := by
  unfold Flow.writeAbort
  dsimp only
  split_ifs <;> rfl

variable (cfg libc W) in
/-- It comes back from a start-up that has settled, and FPSpy has aborted. -/
theorem abortOperation_returns (hi : s.globals.inited = false) {v : Startup A}
    (hinit : init s = some v) (hv : Settled t v) :
    ∃ u, abortOperation cfg libc W init t s = some u ∧ u.globals.aborted = true := by
  have hstart := (fpspyInit_abortOps cfg libc (W.env s.ioctls) t hi).trans hinit
  unfold abortOperation
  cases ha : v.globals.aborted with
  | true => exact ⟨v, abortOperation_eq_of_aborted _ hstart (by simp [abortOps, ha]), ha⟩
  | false =>
    have hsigtrap := (hv.resolve_right (by simp [ha])).sigtrap
    rw [abortOperation_of_not_aborted _ hstart (by simp [abortOps, ha]) rfl]
    -- what is left is whether the kick comes back
    have hreturned : ∀ o : Option (Startup A), o.isSome = true →
        ∃ u, (o.map (onThread t fun f =>
            { f with sigaction := Function.update f.sigaction .sigtrap f.oldsaTrap })).map
          (onThread t fun f => { f with aborted := true }) = some u ∧ u.globals.aborted = true := by
      intro o ho
      obtain ⟨u, rfl⟩ := Option.isSome_iff_exists.mp ho
      exact ⟨_, rfl, rfl⟩
    refine hreturned _ ?_
    dsimp only [abortOps]
    split
    · simp [kickSelf, onThread, flow, hsigtrap]
    · split_ifs
      · rfl
      · simp [kickSelf, onThread, flow, sigaction_writeAbort, hsigtrap]

variable (cfg libc W) in
/-- Where SIGTRAP has its default the kick of the abort does not come back. -/
theorem abortOperation_of_bare (hi : s.globals.inited = false) {v : Startup A}
    (hinit : init s = some v) (hv : Bare v) (hmc : Table.findMonitoringContext t v.table = none) :
    abortOperation cfg libc W init t s = none := by
  have hstart := (fpspyInit_abortOps cfg libc (W.env s.ioctls) t hi).trans hinit
  unfold abortOperation
  rw [abortOperation_of_not_aborted _ hstart (by simp [abortOps, hv.aborted]) rfl]
  simp [abortOps, onThread, flow, hmc, kickSelf, hv.sigtrap]

/-! ## The cycle -/

/-- A thread keeps its context while it runs code. -/
theorem find_onThread (t : Nat) (F : Flow A → Flow A) (s : Startup A) :
    (Table.findMonitoringContext t (s.onThread t F).table).isSome =
      (Table.findMonitoringContext t s.table).isSome := by
  simp only [onThread]
  split
  · rfl
  · rw [Table.find_store_self, Option.isSome_map]

def Registers (W : World) (s : Startup A) : Prop :=
  s.kernelFd ≠ -1 ∨ (W.device s.opens).isSome = true

structure Begun (W : World) (s u : Startup A) : Prop where
  globals : u.globals = s.globals
  ioctls : u.ioctls = s.ioctls
  slot : s.table ≠ [] → Table.findMonitoringContext 0 u.table = some .zero
  kernelFd : u.kernelFd ≠ -1 ↔ Registers W s

theorem begun (libc : Libc A) (W : World) (t : Nat) (s : Startup A) :
    Begun W s (beginBringup libc W t s) := by
  have hslot : ∀ F : Flow A → Flow A, s.table ≠ [] → Table.findMonitoringContext 0
      (Table.initMonitoringContexts (s.onThread t F).table) = some .zero := by
    intro F htable
    have hlen := congrArg List.length (tids_onThread t F s)
    cases htab : (s.onThread t F).table with
    | nil =>
      rw [htab, List.length_map, List.length_map, List.length_nil] at hlen
      exact absurd (List.length_eq_zero_iff.mp hlen.symm) htable
    | cons c table =>
      simp [Table.findMonitoringContext, Table.initMonitoringContexts, MonitoringContext.zero]
  unfold beginBringup
  dsimp only
  split_ifs with hfd
  · refine ⟨rfl, rfl, hslot _, ?_⟩
    have hclosed : s.kernelFd = -1 := hfd
    simp only [Registers, hclosed, ne_eq, not_true_eq_false, false_or, onThread]
    cases W.device s.opens <;> simp
  · exact ⟨rfl, rfl, hslot _, ⟨.inl, fun _ => hfd⟩⟩

theorem openContext_of_opens {env : Env} (hopens : env.Opens cfg) (slot : MonitoringContext) :
    ∃ c, openContext cfg env t slot = some c := by
  rw [← Option.isSome_iff_exists, Option.isSome_iff_ne_none, ne_eq, openContext_eq_none_iff]
  rintro ⟨hfile, hnone⟩
  simpa [hnone] using hopens hfile

structure Ready (s : Startup A) : Prop extends Bare s where
  table : s.table ≠ []

variable (libc t) in
/-- A registration that fails starts FPSpy up again, one registration further on. -/
theorem bringup_refused (h : Ready s) (hregisters : Registers W s)
    (hopens : (W.env s.ioctls).Opens cfg) (hrefused : W.ioctl s.ioctls = false) :
    ∃ v, Ready v ∧ Registers W v ∧ v.ioctls = s.ioctls + 1 ∧
      ∀ abort, bringup cfg libc W abort t s = (abort v).map (·, false) := by
  have hbegun := begun libc W t s
  obtain ⟨c, hc⟩ := openContext_of_opens (t := t) hopens .zero
  have hfd := hbegun.kernelFd.mpr hregisters
  have hslot := hbegun.slot h.table
  refine ⟨(beginBringup libc W t s).take cfg c, ⟨h.toBare.congr hbegun.globals, ?_⟩,
    .inl hfd, ?_, fun abort => ?_⟩
  · intro hnil
    have hlen : (beginBringup libc W t s).table.length = 0 := by
      simpa [take, Slots.modifyFirst] using congrArg List.length hnil
    simp [List.length_eq_zero_iff.mp hlen, Table.findMonitoringContext] at hslot
  · simp [take, hfd, hbegun.ioctls]
  · rw [bringup, bringupMonitoringContext]
    simp only [hslot, hbegun.ioctls, hc]
    rw [if_pos ⟨hfd, hrefused⟩, Option.map_map]
    cases abort ((beginBringup libc W t s).take cfg c) <;> rfl

variable (libc) in
/-- Where the trace file does not open nothing is set up. -/
theorem bringup_unopened (h : Ready s) (ht : t ≠ 0) (hopens : ¬ (W.env s.ioctls).Opens cfg) :
    ∃ v, Bare v ∧ Table.findMonitoringContext t v.table = none ∧
      ∀ abort, bringup cfg libc W abort t s = some (v, false) := by
  have hbegun := begun libc W t s
  have hslot := hbegun.slot h.table
  have hc : openContext cfg (W.env s.ioctls) t .zero = none := by
    rw [openContext_eq_none_iff]
    simpa [Env.Opens] using hopens
  refine ⟨(beginBringup libc W t s).giveBack t, h.toBare.congr hbegun.globals,
    Table.find_free_self ht, fun abort => ?_⟩
  rw [bringup, bringupMonitoringContext]
  simp only [hslot, hbegun.ioctls, hc]
  rfl

variable (cfg) in
/-- A slot that is taken is the thread's. -/
theorem find_take {mc slot : MonitoringContext} (hmc : mc.tid = t)
    (hslot : Table.findMonitoringContext 0 s.table = some slot) :
    (Table.findMonitoringContext t (s.take cfg mc).table).isSome = true := by
  rw [Table.findMonitoringContext, List.find?_isSome]
  exact ⟨mc, Slots.modifyFirst_mem (f := fun _ => mc) hslot, by simpa using hmc⟩

def TrapOurs (f : Flow A) : Prop :=
  (f.sigaction .sigtrap).handler = .sigtrapHandler ∨ f.aborted = true

/-- A kick leaves the dispositions alone, if FPSpy does not abort in it. -/
theorem TrapOurs.kickDelivered {f : Flow A} (h : TrapOurs f) (cfg : Config A) (env : Env) :
    TrapOurs (f.kickDelivered cfg env) := by
  have hframe := (handlerFrame_brkTrapHandler cfg env f).sameProcess
  have hret : TrapOurs (brkTrapHandler cfg env f).1 := by
    rwa [TrapOurs, hframe.sigaction, hframe.aborted]
  unfold Flow.kickDelivered Flow.settle Flow.resume
  split_ifs
  · cases (brkTrapHandler cfg env f).2 with
    | abortOperation reason => exact .inr (aborted_abortInHandler cfg env _)
    | ret | abort | nullDeref | divideError => exact hret
  · exact h

/-- The statements of `bringup` after the one that sets SIGTRAP keep it. -/
theorem trapOurs_step {env : Env} {kernel : Bool} {kick : Flow A → Flow A} {pc : BringupPc}
    {f : Flow A} (hkick : ∀ f, TrapOurs f → TrapOurs (kick f)) (hpc : 2 < pc.index)
    (h : TrapOurs f) :
    2 < (Bringup.step cfg env kernel kick pc f).1.index ∧
      TrapOurs (Bringup.step cfg env kernel kick pc f).2 := by
  cases pc with
  | context | failed | sigfpe | sigtrap => simp [BringupPc.index] at hpc
  | sigint =>
    refine ⟨by simp [Bringup.step, BringupPc.index], ?_⟩
    simpa [TrapOurs, Bringup.step] using h
  | sigalrm =>
    refine ⟨by simp [Bringup.step, BringupPc.index], ?_⟩
    simp only [Bringup.step]
    split_ifs
    · simpa [TrapOurs, (alarmSig_ne cfg).2.symm] using h
    · exact h
  | kick =>
    refine ⟨by simp [Bringup.step, BringupPc.index], ?_⟩
    simp only [Bringup.step]
    split_ifs
    · exact h
    · exact hkick f h
  | inited | done => exact ⟨by simp [Bringup.step, BringupPc.index], h⟩

theorem trapOurs_steps {env : Env} {kernel : Bool} {kick : Flow A → Flow A} {pc : BringupPc}
    {f : Flow A} (hkick : ∀ f, TrapOurs f → TrapOurs (kick f)) (hpc : 2 < pc.index)
    (h : TrapOurs f) (n : Nat) : TrapOurs (Bringup.steps cfg env kernel kick n (pc, f)).2 := by
  induction n generalizing pc f with
  | zero => exact h
  | succ n ih =>
    obtain ⟨hnext, hkept⟩ := trapOurs_step hkick hpc h
    exact ih hnext hkept

/-- The rest of `bringup` initialises FPSpy and points SIGTRAP to it. -/
theorem settled_finishBringup (cfg : Config A) (env : Env)
    (h : (Table.findMonitoringContext t s.table).isSome = true) :
    Settled t (s.finishBringup cfg env t) := by
  have hset : TrapOurs (Bringup.steps cfg env (decide (0 < s.kernelFd))
      (Flow.kickDelivered cfg env) 4 (Bringup.steps cfg env (decide (0 < s.kernelFd))
        (Flow.kickDelivered cfg env) 2 (.sigfpe, s.flow t))).2 :=
    trapOurs_steps (fun f hf => hf.kickDelivered cfg env) (by decide) (.inl rfl) 4
  rw [Settled, or_iff_not_imp_right]
  intro haborted
  refine ⟨rfl, ?_, hset.resolve_right haborted⟩
  rw [finishBringup, find_onThread]
  exact h

variable (libc t) in
/-- Where there is nothing to register with, or the registration succeeds, FPSpy is brought up. -/
theorem bringup_accepted (h : Ready s) (hopens : (W.env s.ioctls).Opens cfg)
    (haccepted : Registers W s → W.ioctl s.ioctls = true) :
    ∃ u, Settled t u ∧ ∀ abort, bringup cfg libc W abort t s = some (u, true) := by
  have hbegun := begun libc W t s
  obtain ⟨c, hc⟩ := openContext_of_opens (t := t) hopens .zero
  have hslot := hbegun.slot h.table
  have hnot : ¬ ((beginBringup libc W t s).kernelFd ≠ -1 ∧ W.ioctl s.ioctls = false) := by
    rintro ⟨hfd, hrefused⟩
    simp [haccepted (hbegun.kernelFd.mp hfd)] at hrefused
  have htid : c.tid = t := tid_openContext hc
  have hinit : (initContext cfg (W.env s.ioctls) c).tid = t := htid
  refine ⟨((beginBringup libc W t s).accept cfg (W.env s.ioctls) c).finishBringup cfg
    (W.env s.ioctls) t, settled_finishBringup _ _ (find_take cfg hinit hslot), fun abort => ?_⟩
  rw [bringup, bringupMonitoringContext]
  simp only [hslot, hbegun.ioctls, hc]
  rw [if_neg hnot]
  rfl

/-- The start-up comes back settled if some registration succeeds, after as many failures as it
takes, and the trace files open up to then. -/
theorem fpspyInit_of_ioctl (k : Nat) (h : Ready s) (hregisters : Registers W s)
    (haccepted : W.ioctl (s.ioctls + k) = true)
    (hopens : ∀ j ≤ k, (W.env (s.ioctls + j)).Opens cfg) :
    ∃ n u, fpspyInit cfg libc W t n s = some u ∧ Settled t u := by
  have hfirst := hopens 0 (Nat.zero_le k)
  induction k generalizing s with
  | zero =>
    obtain ⟨u, hsettled, hu⟩ := bringup_accepted libc t h hfirst fun _ => haccepted
    exact ⟨1, u, by simp [fpspyInit, h.inited, hu], hsettled⟩
  | succ k ih =>
    by_cases hioctl : W.ioctl s.ioctls = true
    · obtain ⟨u, hsettled, hu⟩ := bringup_accepted libc t h hfirst fun _ => hioctl
      exact ⟨1, u, by simp [fpspyInit, h.inited, hu], hsettled⟩
    · obtain ⟨v, hready, hregisters', hioctls, hv⟩ :=
        bringup_refused libc t h hregisters hfirst (by simpa using hioctl)
      have hshift : ∀ j, v.ioctls + j = s.ioctls + (j + 1) := by omega
      have hnext : ∀ j ≤ k, (W.env (v.ioctls + j)).Opens cfg := fun j hj => by
        rw [hshift]
        exact hopens (j + 1) (by omega)
      obtain ⟨n, w, hw, hsettled⟩ := ih hready hregisters' (by rwa [hshift]) hnext
        (hnext 0 (Nat.zero_le k))
      obtain ⟨u, hu, haborted⟩ := abortOperation_returns cfg libc W hready.inited hw hsettled
      exact ⟨n + 1, u, by simp [fpspyInit, h.inited, hv, hu], .inr haborted⟩

/-- If it comes back, some registration has succeeded, or the first trace file has not opened. -/
theorem ioctl_of_fpspyInit (n : Nat) (ht : t ≠ 0) (h : Ready s) (hregisters : Registers W s)
    (hu : fpspyInit cfg libc W t n s = some u) :
    (∃ k, W.ioctl (s.ioctls + k) = true ∧ ∀ j ≤ k, (W.env (s.ioctls + j)).Opens cfg) ∨
      ¬ (W.env s.ioctls).Opens cfg ∧ Bare u ∧ Table.findMonitoringContext t u.table = none := by
  induction n generalizing s u with
  | zero => cases hu
  | succ n ih =>
    by_cases hopens : (W.env s.ioctls).Opens cfg
    · left
      by_cases hioctl : W.ioctl s.ioctls = true
      · exact ⟨0, hioctl, fun j hj => by rwa [Nat.le_zero.mp hj]⟩
      · obtain ⟨v, hready, hregisters', hioctls, hv⟩ :=
          bringup_refused libc t h hregisters hopens (by simpa using hioctl)
        have habort : abortOperation cfg libc W (fpspyInit cfg libc W t n) t v = some u := by
          simpa [fpspyInit, h.inited, hv] using hu
        cases hw : fpspyInit cfg libc W t n v with
        | none =>
          rw [abortOperation_diverges cfg libc W t hready.inited hw] at habort
          cases habort
        | some w =>
          have hshift : ∀ j, v.ioctls + j = s.ioctls + (j + 1) := by omega
          rcases ih hready hregisters' hw with ⟨k, hk, hall⟩ | ⟨-, hbare, hmc⟩
          · refine ⟨k + 1, by rwa [← hshift], fun j hj => ?_⟩
            cases j with
            | zero => exact hopens
            | succ j => exact hshift j ▸ hall j (by omega)
          · rw [abortOperation_of_bare cfg libc W hready.inited hw hbare hmc] at habort
            cases habort
    · obtain ⟨v, hbare, hmc, hv⟩ := bringup_unopened libc h ht hopens
      obtain rfl : v = u := by simpa [fpspyInit, h.inited, hv] using hu
      exact .inr ⟨hopens, hbare, hmc⟩

def start (table : List MonitoringContext) (uc : A.UContext) (code : Mem) : Startup A where
  globals := .start code
  table := table
  uc := uc
  kernelFd := -1
  fds := []
  opens := 0
  ioctls := 0

theorem ready_start {table : List MonitoringContext} (htable : table ≠ []) (uc : A.UContext)
    (code : Mem) : Ready (start table uc code) := ⟨⟨rfl, rfl, rfl⟩, htable⟩

variable (cfg libc W) in
/-- A start-up comes back, and FPSpy is brought up or has aborted, exactly if the device file does
not open or some registration succeeds, and the trace files open up to then. -/
theorem start_settles_iff {table : List MonitoringContext} (htable : table ≠ []) (uc : A.UContext)
    (code : Mem) (ht : t ≠ 0) :
    (∃ n u, fpspyInit cfg libc W t n (start table uc code) = some u ∧ Settled t u) ↔
      (W.device 0 = none ∧ (W.env 0).Opens cfg) ∨
        ∃ k, W.ioctl k = true ∧ ∀ j ≤ k, (W.env j).Opens cfg := by
  have hready := ready_start htable uc code
  have hregisters : Registers W (start table uc code) ↔ W.device 0 ≠ none := by
    simp [Registers, start, Option.isSome_iff_ne_none]
  by_cases hdevice : W.device 0 = none
  · have hno : ¬ Registers W (start table uc code) := fun h => hregisters.mp h hdevice
    constructor
    · rintro ⟨n, u, hu, hsettled⟩
      refine .inl ⟨hdevice, ?_⟩
      by_contra hopens
      obtain ⟨v, hbare, -, hv⟩ := bringup_unopened libc hready ht hopens
      cases n with
      | zero => cases hu
      | succ n =>
        obtain rfl : v = u := by simpa [fpspyInit, hready.inited, hv] using hu
        exact hbare.not_settled hsettled
    · intro h
      have hopens : (W.env 0).Opens cfg := by
        rcases h with h | ⟨k, -, hall⟩
        · exact h.2
        · exact hall 0 (Nat.zero_le k)
      obtain ⟨u, hsettled, hu⟩ := bringup_accepted libc t hready hopens fun h => absurd h hno
      exact ⟨1, u, by simp [fpspyInit, hready.inited, hu], hsettled⟩
  · have hyes := hregisters.mpr hdevice
    have hzero : ∀ k, (start table uc code).ioctls + k = k := fun k => Nat.zero_add k
    constructor
    · rintro ⟨n, u, hu, hsettled⟩
      rcases ioctl_of_fpspyInit n ht hready hyes hu with ⟨k, hk, hall⟩ | ⟨-, hbare, -⟩
      · exact .inr ⟨k, by rwa [hzero] at hk, fun j hj => hzero j ▸ hall j hj⟩
      · exact absurd hsettled hbare.not_settled
    · rintro (⟨hnone, -⟩ | ⟨k, hk, hall⟩)
      · exact absurd hnone hdevice
      · exact fpspyInit_of_ioctl k hready hyes (by rwa [hzero]) fun j hj => by
          rw [hzero]
          exact hall j hj

end Startup

/-! ## A process on x64 -/

namespace X64

open Startup

def refusing (n : Nat) : World :=
  ⟨fun _ => some 3, fun k => decide (n ≤ k), fun k => ⟨0, 0, 0, 0, some (4 + k)⟩⟩

def badModule : World := ⟨fun _ => some 3, fun _ => false, fun k => ⟨0, 0, 0, 0, some (4 + k)⟩⟩

def starting : Startup x64 := start [.zero, .zero] freshFlow.uc fun _ => 0

/-- Two registrations fail, the third succeeds. -/
theorem start_settles_refusing :
    ∃ n u, fpspyInit plain libc (refusing 2) 1 n starting = some u ∧ Settled 1 u :=
  (start_settles_iff plain libc (refusing 2) (by simp) _ _ (by decide)).mpr
    (.inr ⟨2, rfl, fun _ _ _ => rfl⟩)

def traceless : Config x64 := { plain with createMonitorFile := false }

/-- With a module that always refuses, the start-up never comes back. -/
theorem not_returns_badModule :
    ¬ ∃ n u, fpspyInit traceless libc badModule 1 n starting = some u := by
  rintro ⟨n, u, hu⟩
  have hready : Ready starting := ready_start (by simp) _ _
  rcases ioctl_of_fpspyInit n (by decide) hready (.inr rfl) hu with ⟨k, hk, -⟩ | ⟨hopens, -⟩
  · exact absurd hk (by simp [badModule])
  · exact hopens fun hfile => absurd hfile (by decide)

def running (table : List MonitoringContext) : Startup x64 :=
  { start table freshFlow.uc fun _ => 0 with
    globals := { Globals.start fun _ => 0 with
      inited := true
      sigaction := Function.update (fun _ => .zero) .sigtrap plain.sigtrapAction }
    kernelFd := 3 }

def bringTwo (W : World) (table : List MonitoringContext) : Option (Startup x64 × Bool) :=
  Startup.bringupMonitoringContext plain W
    (Startup.abortOperation plain libc W (fun _ => none) 2) 2 (running table)

def noFiles : World := ⟨fun _ => some 3, fun _ => true, fun _ => ⟨0, 0, 0, 0, none⟩⟩

/-- The file does not open, and the descriptor of the slot is -1 from the last time. -/
theorem leftNothing_noFiles :
    ∃ u, bringTwo noFiles [{ MonitoringContext.zero with fd := -1 }] = some (u, false) ∧
      LeftNothing (running [{ MonitoringContext.zero with fd := -1 }]) u := by
  obtain ⟨u, hu⟩ : ∃ u, bringTwo noFiles [{ MonitoringContext.zero with fd := -1 }] =
    some (u, false) := ⟨_, rfl⟩
  exact ⟨u, hu, (leftNothing_iff plain libc noFiles (fun _ => none) (by decide) rfl hu).mpr
    (.inr ⟨⟨rfl, rfl⟩, by decide, by decide⟩)⟩

/-- The registration is refused: the slot stays taken and the trace file open. Where no file
opens, the slot comes back with another descriptor. -/
theorem not_leftNothing_refused :
    (∃ u, bringTwo badModule [.zero] = some (u, false) ∧ u.table.map (·.tid) = [2] ∧
      u.fds = [4] ∧ ¬ LeftNothing (running [.zero]) u) ∧
    ∃ u, bringTwo noFiles [.zero] = some (u, false) ∧ u.table.map (·.fd) = [-1] ∧
      ¬ LeftNothing (running [.zero]) u := by
  constructor
  · have hends : (bringTwo badModule [.zero]).map (fun r =>
        (r.1.table.map (·.tid), r.1.fds, r.2)) = some ([2], [4], false) := by decide
    obtain ⟨⟨u, ok⟩, hu, heq⟩ := Option.map_eq_some_iff.mp hends
    obtain ⟨htids, hfds, hok⟩ : u.table.map (·.tid) = [2] ∧ u.fds = [4] ∧ ok = false := by
      simpa using heq
    refine ⟨u, hok ▸ hu, htids, hfds, fun h => ?_⟩
    exact absurd (hfds.symm.trans h.2) (by decide)
  · have hends : (bringTwo noFiles [.zero]).map (fun r => (r.1.table.map (·.fd), r.2)) =
        some ([-1], false) := by decide
    obtain ⟨⟨u, ok⟩, hu, heq⟩ := Option.map_eq_some_iff.mp hends
    obtain ⟨hfd, hok⟩ : u.table.map (·.fd) = [-1] ∧ ok = false := by simpa using heq
    refine ⟨u, hok ▸ hu, hfd, fun h => ?_⟩
    rw [h.1] at hfd
    exact absurd hfd (by decide)

end X64
end FPSpy
