import Mathlib.Data.List.Basic
import FPSpy.Lib.Run

/-!
# The handler list of the kernel module

With trap short-circuiting, each thread that FPSpy monitors registers its entry point with
the kernel module, which keeps one list for all of them; the kernel's `current->pid` is the
id of a thread. The module takes a thread's handlers off the list when the thread asks for it
(FPVM_IOCTL_UNREG), or when it is the one that closes the device file for the last time.

FPSpy never asks for it. `teardown_monitoring_context` leaves the registration where it is, so
that a thread that exits in a process that goes on leaves its entry behind, and so does every
thread but one when the file is released. A thread is rid of its entry only where its teardown
and the last close of the file are one and the same `fpspy_deinit`, or the end of its process.
-/
namespace FPSpy

structure UserProcInfo where
  pid : Nat
  userHandler : Nat
  file : Nat
  deriving DecidableEq, Repr

namespace Kmod

def upiFind (pid : Nat) (upiList : List UserProcInfo) : Option UserProcInfo :=
  upiList.find? (·.pid = pid)

/-- `upi_add`: `list_add` puts it in front. -/
def upiAdd (upi : UserProcInfo) (upiList : List UserProcInfo) : List UserProcInfo := upi :: upiList

def upiDel (pid : Nat) (upiList : List UserProcInfo) : List UserProcInfo :=
  upiList.eraseP (·.pid = pid)

/-- The loop of `fpvm_remove_handlers`: delete and search again, until nothing is found. -/
def removeLoop (target : Nat) : Nat → List UserProcInfo → List UserProcInfo
  | 0, upiList => upiList
  | rounds + 1, upiList =>
    match upiFind target upiList with
    | none => upiList
    | some _ => removeLoop target rounds (upiDel target upiList)

/-- `fpvm_remove_handlers`; there are at most as many rounds as entries. -/
def fpvmRemoveHandlers (target : Nat) (upiList : List UserProcInfo) : List UserProcInfo :=
  removeLoop target upiList.length upiList

theorem filter_upiDel (target : Nat) (upiList : List UserProcInfo) :
    (upiDel target upiList).filter (·.pid ≠ target) = upiList.filter (·.pid ≠ target) := by
  induction upiList with
  | nil => rfl
  | cons upi upiList ih =>
    by_cases hpid : upi.pid = target
    · simp [upiDel, hpid]
    · simpa [upiDel, hpid] using ih

theorem removeLoop_eq {target rounds : Nat} {upiList : List UserProcInfo}
    (h : upiList.length ≤ rounds) :
    removeLoop target rounds upiList = upiList.filter (·.pid ≠ target) := by
  induction rounds generalizing upiList with
  | zero =>
    obtain rfl := List.eq_nil_of_length_eq_zero (Nat.le_zero.mp h)
    rfl
  | succ rounds ih =>
    unfold removeLoop
    split
    · next hnone =>
      refine (List.filter_eq_self.mpr fun upi hupi => ?_).symm
      simpa using List.find?_eq_none.mp hnone upi hupi
    · next found hfound =>
      have hlen := List.length_eraseP_of_mem (List.mem_of_find?_eq_some hfound)
        (List.find?_some hfound)
      rw [ih (by rw [upiDel, hlen]; omega), filter_upiDel]

/-- All handlers of the thread are gone, and no others. -/
theorem mem_fpvmRemoveHandlers {target : Nat} {upiList : List UserProcInfo} {upi : UserProcInfo} :
    upi ∈ fpvmRemoveHandlers target upiList ↔ upi ∈ upiList ∧ upi.pid ≠ target := by
  rw [fpvmRemoveHandlers, removeLoop_eq (Nat.le_refl _)]
  simp

def fpvmAddHandler (current file handler : Nat) (upiList : List UserProcInfo) : List UserProcInfo :=
  upiAdd ⟨current, handler, file⟩ upiList

def fpvmRelease (current : Nat) (upiList : List UserProcInfo) : List UserProcInfo :=
  fpvmRemoveHandlers current upiList

inductive IoctlCmd where
  | reg (handler : Nat)
  | unreg
  deriving DecidableEq, Repr

def fpvmIoctl (current file : Nat) (upiList : List UserProcInfo) : IoctlCmd → List UserProcInfo
  | .reg handler => fpvmAddHandler current file handler upiList
  | .unreg => fpvmRemoveHandlers current upiList

end Kmod

/-! ## Threads, processes and the device file -/

/-- A thread, with the handlers it has registered, and whether its context has been torn down since
the last time. -/
structure KThread where
  tid : Nat
  proc : Nat
  registered : List Nat
  tornDown : Bool
  deriving DecidableEq, Repr

/-- The machine: `opened` has each process that has the device open, with the open file. -/
structure Machine where
  upiList : List UserProcInfo
  threads : List KThread
  opened : List (Nat × Nat)
  /-- How many times the device has been opened. -/
  files : Nat
  deriving DecidableEq, Repr

inductive MachineEvent where
  /-- A process starts, with one thread. -/
  | start (tid : Nat)
  /-- A thread creates another one. -/
  | create (tid child : Nat)
  /-- A thread forks; the child shares the device file. -/
  | fork (tid child : Nat)
  /-- `bringup` opens the device. -/
  | openDev (tid : Nat)
  /-- `bringup_monitoring_context` registers the thread's handler. -/
  | bringup (tid handler : Nat)
  /-- A thread ends: in `pthread_exit`, after its teardown, or in any other way. -/
  | exit (tid : Nat)
  /-- `fpspy_deinit`: the teardown of the thread that runs it, and its close of the device. -/
  | deinit (tid : Nat)
  deriving DecidableEq, Repr

namespace Machine

def empty : Machine := ⟨[], [], [], 0⟩

def find (m : Machine) (tid : Nat) : Option KThread := m.threads.find? (·.tid = tid)

def fresh (m : Machine) (tid : Nat) : Bool := m.threads.all fun th => th.tid ≠ tid ∧ th.proc ≠ tid

def fileOf (m : Machine) (proc : Nat) : Option Nat := (m.opened.find? (·.1 = proc)).map (·.2)

/-- A process gives up the file, in the thread `tid`; the last one to do so releases it. -/
def close (tid proc : Nat) (m : Machine) : Machine :=
  match m.fileOf proc with
  | none => m
  | some file =>
    let opened := m.opened.filter (·.1 ≠ proc)
    { m with
      opened := opened
      upiList := if opened.any (·.2 = file) then m.upiList else Kmod.fpvmRelease tid m.upiList }

def lastClose (m : Machine) (proc : Nat) : Bool :=
  (m.fileOf proc).any fun file => !(m.opened.filter (·.1 ≠ proc)).any (·.2 = file)

def lastThread (m : Machine) (th : KThread) : Bool :=
  m.threads.all fun other => other.tid = th.tid || other.proc ≠ th.proc

def register (handler : Nat) (th : KThread) : KThread :=
  { th with registered := handler :: th.registered, tornDown := false }

def update (tid : Nat) (f : KThread → KThread) (threads : List KThread) : List KThread :=
  threads.map fun th => if th.tid = tid then f th else th

def step (m : Machine) : MachineEvent → Option Machine
  | .start tid =>
    if m.fresh tid then
      some { m with threads := ⟨tid, tid, [], false⟩ :: m.threads }
    else none
  | .create tid child =>
    if m.fresh child then
      (m.find tid).map fun th => { m with threads := ⟨child, th.proc, [], false⟩ :: m.threads }
    else none
  | .fork tid child =>
    if m.fresh child then
      (m.find tid).map fun th => { m with
        threads := ⟨child, child, [], false⟩ :: m.threads
        opened := ((m.fileOf th.proc).map fun file => (child, file)).toList ++ m.opened }
    else none
  | .openDev tid =>
    (m.find tid).bind fun th =>
      if (m.fileOf th.proc).isNone then
        some { m with opened := (th.proc, m.files) :: m.opened, files := m.files + 1 }
      else none
  | .bringup tid handler =>
    (m.find tid).bind fun th =>
      (m.fileOf th.proc).map fun file => { m with
        upiList := Kmod.fpvmIoctl tid file m.upiList (.reg handler)
        threads := update tid (register handler) m.threads }
  | .exit tid =>
    (m.find tid).map fun th =>
      let m' := { m with threads := m.threads.filter (·.tid ≠ tid) }
      if m.lastThread th then m'.close tid th.proc else m'
  | .deinit tid =>
    (m.find tid).map fun th =>
      { m with threads := update tid (fun th => { th with tornDown := true }) m.threads }.close tid
        th.proc

/-- What the list should be: each entry is that of a thread that is there, has registered the
handler and has not been torn down, and the file it was registered through has not been
released. -/
structure Sound (m : Machine) : Prop where
  owned : ∀ upi ∈ m.upiList, ∃ th ∈ m.threads,
    th.tid = upi.pid ∧ upi.userHandler ∈ th.registered ∧ th.tornDown = false
  unreleased : ∀ upi ∈ m.upiList, ∃ proc, (proc, upi.file) ∈ m.opened

/-- The condition on the end of a thread, or of FPSpy in its process: where that releases the file,
all handlers registered through it are the thread's own; elsewhere it has none. -/
def leavesNone (m : Machine) (tid proc : Nat) (releases : Bool) : Bool :=
  if releases then
    m.upiList.all fun upi => upi.pid = tid ∨ m.fileOf proc ≠ some upi.file
  else m.upiList.all fun upi => upi.pid ≠ tid

def tidy (m : Machine) : MachineEvent → Bool
  | .exit tid => (m.find tid).all fun th =>
    m.leavesNone tid th.proc (m.lastThread th && m.lastClose th.proc)
  | .deinit tid => (m.find tid).all fun th => m.leavesNone tid th.proc (m.lastClose th.proc)
  | _ => true

structure Proper (m : Machine) : Prop extends Sound m where
  distinct : ∀ a ∈ m.threads, ∀ b ∈ m.threads, a.tid = b.tid → a = b
  oneFile : ∀ proc file file', (proc, file) ∈ m.opened → (proc, file') ∈ m.opened → file = file'
  populated : ∀ proc file, (proc, file) ∈ m.opened → ∃ th ∈ m.threads, th.proc = proc

variable {m m' : Machine} {tid proc file : Nat} {th : KThread}

theorem mem_of_find (h : m.find tid = some th) : th ∈ m.threads ∧ th.tid = tid :=
  ⟨List.mem_of_find?_eq_some h, by simpa using List.find?_some h⟩

theorem fresh_iff : m.fresh tid = true ↔ ∀ th ∈ m.threads, th.tid ≠ tid ∧ th.proc ≠ tid := by
  simp [fresh]

theorem mem_of_fileOf (h : m.fileOf proc = some file) : (proc, file) ∈ m.opened := by
  obtain ⟨x, hx, rfl⟩ := Option.map_eq_some_iff.mp h
  have hproc : x.1 = proc := by simpa using List.find?_some hx
  exact hproc ▸ List.mem_of_find?_eq_some hx

theorem not_mem_of_fileOf (h : m.fileOf proc = none) : (proc, file) ∉ m.opened := by
  intro hmem
  have hnone := List.find?_eq_none.mp (Option.map_eq_none_iff.mp h) _ hmem
  simp at hnone

/-- An entry of another file keeps its file open when a process closes its own. -/
theorem opened_of_ne (hunreleased : ∀ upi ∈ m.upiList, ∃ proc, (proc, upi.file) ∈ m.opened)
    (hone : ∀ proc file file', (proc, file) ∈ m.opened → (proc, file') ∈ m.opened → file = file')
    (hfile : m.fileOf proc = some file) {upi : UserProcInfo} (hupi : upi ∈ m.upiList)
    (hne : upi.file ≠ file) : ∃ q, (q, upi.file) ∈ m.opened.filter (·.1 ≠ proc) := by
  obtain ⟨q, hq⟩ := hunreleased upi hupi
  refine ⟨q, List.mem_filter.mpr ⟨hq, ?_⟩⟩
  have hqp : q ≠ proc := by
    rintro rfl
    exact hne (hone q _ _ hq (mem_of_fileOf hfile))
  simpa using hqp

/-- A close, where only entries of the closing thread may lack their thread. -/
theorem sound_close
    (howned : ∀ upi ∈ m.upiList, upi.pid ≠ tid → ∃ th ∈ m.threads,
      th.tid = upi.pid ∧ upi.userHandler ∈ th.registered ∧ th.tornDown = false)
    (hunreleased : ∀ upi ∈ m.upiList, ∃ proc, (proc, upi.file) ∈ m.opened)
    (hone : ∀ proc file file', (proc, file) ∈ m.opened → (proc, file') ∈ m.opened → file = file')
    (hnone : m.leavesNone tid proc (m.lastClose proc) = true) : Sound (m.close tid proc) := by
  unfold close
  cases hfile : m.fileOf proc with
  | none =>
    have hall : ∀ upi ∈ m.upiList, upi.pid ≠ tid := by
      simpa [leavesNone, lastClose, hfile] using hnone
    exact ⟨fun upi hupi => howned upi hupi (hall upi hupi), hunreleased⟩
  | some file =>
    dsimp only
    split_ifs with hshared
    · have hlast : m.lastClose proc = false := by
        rw [lastClose, hfile, Option.any_some, hshared]
        rfl
      have hall : ∀ upi ∈ m.upiList, upi.pid ≠ tid := by
        simpa [leavesNone, hlast] using hnone
      refine ⟨fun upi hupi => howned upi hupi (hall upi hupi), fun upi hupi => ?_⟩
      by_cases hupifile : upi.file = file
      · obtain ⟨x, hx, hxfile⟩ := List.any_eq_true.mp hshared
        have heq : x.2 = upi.file := by simpa [hupifile] using hxfile
        exact ⟨x.1, by rw [← heq]; exact hx⟩
      · exact opened_of_ne hunreleased hone hfile hupi hupifile
    · have hlast : m.lastClose proc = true := by
        rw [lastClose, hfile, Option.any_some, Bool.eq_false_iff.mpr hshared]
        rfl
      have hall : ∀ upi ∈ m.upiList, upi.pid = tid ∨ file ≠ upi.file := by
        simpa [leavesNone, hlast, hfile] using hnone
      refine ⟨fun upi hupi => ?_, fun upi hupi => ?_⟩
      · obtain ⟨hmem, hpid⟩ := Kmod.mem_fpvmRemoveHandlers.mp hupi
        exact howned upi hmem hpid
      · obtain ⟨hmem, hpid⟩ := Kmod.mem_fpvmRemoveHandlers.mp hupi
        have hupifile := ((hall upi hmem).resolve_left hpid).symm
        exact opened_of_ne hunreleased hone hfile hmem hupifile

theorem mem_opened_close {x : Nat × Nat} (h : x ∈ (m.close tid proc).opened) :
    x ∈ m.opened ∧ x.1 ≠ proc := by
  unfold close at h
  cases hfile : m.fileOf proc with
  | none =>
    rw [hfile] at h
    refine ⟨h, ?_⟩
    rintro rfl
    exact not_mem_of_fileOf hfile h
  | some file =>
    rw [hfile] at h
    simpa using h

theorem threads_close : (m.close tid proc).threads = m.threads := by
  unfold close
  split <;> rfl

theorem mem_update {f : KThread → KThread} {threads : List KThread} :
    th ∈ update tid f threads ↔
      ∃ a ∈ threads, (if a.tid = tid then f a else a) = th := by
  simp [update]

/-- A thread that changes keeps its id and its process. -/
theorem Proper.threads (h : Proper m) (tid : Nat) {f : KThread → KThread}
    (htid : ∀ a, (f a).tid = a.tid) (hproc : ∀ a, (f a).proc = a.proc) :
    (∀ a ∈ update tid f m.threads, ∀ b ∈ update tid f m.threads, a.tid = b.tid → a = b) ∧
      ∀ proc file, (proc, file) ∈ m.opened → ∃ th ∈ update tid f m.threads, th.proc = proc := by
  have hkeep : ∀ a : KThread, (if a.tid = tid then f a else a).tid = a.tid ∧
      (if a.tid = tid then f a else a).proc = a.proc := by
    intro a
    split_ifs
    · exact ⟨htid a, hproc a⟩
    · exact ⟨rfl, rfl⟩
  constructor
  · intro x hx y hy hxy
    obtain ⟨a, ha, rfl⟩ := mem_update.mp hx
    obtain ⟨b, hb, rfl⟩ := mem_update.mp hy
    rw [(hkeep a).1, (hkeep b).1] at hxy
    rw [h.distinct a ha b hb hxy]
  · intro proc file hmem
    obtain ⟨th, hth, rfl⟩ := h.populated proc file hmem
    exact ⟨_, mem_update.mpr ⟨th, hth, rfl⟩, (hkeep th).2⟩

/-- A new thread, whose id nobody has. -/
theorem Proper.born (h : Proper m) (th : KThread) (hfresh : m.fresh th.tid = true) :
    Proper { m with threads := th :: m.threads } := by
  rw [fresh_iff] at hfresh
  refine ⟨⟨fun upi hupi => ?_, h.unreleased⟩, ?_, h.oneFile, fun proc file hmem => ?_⟩
  · obtain ⟨a, ha, hown⟩ := h.owned upi hupi
    exact ⟨a, List.mem_cons_of_mem _ ha, hown⟩
  · intro a ha b hb hab
    rcases List.mem_cons.mp ha with rfl | ha' <;> rcases List.mem_cons.mp hb with rfl | hb'
    · rfl
    · exact absurd hab.symm (hfresh b hb').1
    · exact absurd hab (hfresh a ha').1
    · exact h.distinct a ha' b hb' hab
  · obtain ⟨a, ha, hproc⟩ := h.populated proc file hmem
    exact ⟨a, List.mem_cons_of_mem _ ha, hproc⟩

/-- A process opens the device, or gets it from its parent. -/
theorem Proper.shares (h : Proper m) (th : KThread) (hth : th ∈ m.threads)
    (hnone : m.fileOf th.proc = none) (file files : Nat) :
    Proper { m with opened := (th.proc, file) :: m.opened, files := files } := by
  refine ⟨⟨h.owned, fun upi hupi => ?_⟩, h.distinct, ?_, ?_⟩
  · obtain ⟨proc, hproc⟩ := h.unreleased upi hupi
    exact ⟨proc, List.mem_cons_of_mem _ hproc⟩
  · intro proc f g hf hg
    rcases List.mem_cons.mp hf with hf' | hf' <;> rcases List.mem_cons.mp hg with hg' | hg'
    · cases hf'
      cases hg'
      rfl
    · cases hf'
      exact absurd hg' (not_mem_of_fileOf hnone)
    · cases hg'
      exact absurd hf' (not_mem_of_fileOf hnone)
    · exact h.oneFile proc f g hf' hg'
  · intro proc f hf
    rcases List.mem_cons.mp hf with hf' | hf'
    · cases hf'
      exact ⟨th, hth, rfl⟩
    · exact h.populated proc f hf'

theorem Proper.fork {child : Nat} (h : Proper m) (hfresh : m.fresh child = true) (th : KThread) :
    Proper { m with
      threads := ⟨child, child, [], false⟩ :: m.threads
      opened := ((m.fileOf th.proc).map fun file => (child, file)).toList ++ m.opened } := by
  have hborn := h.born ⟨child, child, [], false⟩ hfresh
  cases hfile : m.fileOf th.proc with
  | none => exact hborn
  | some file =>
    refine hborn.shares ⟨child, child, [], false⟩ List.mem_cons_self ?_ file m.files
    -- a process that has the file open has a thread
    refine Option.map_eq_none_iff.mpr (List.find?_eq_none.mpr fun x hx => ?_)
    obtain ⟨a, ha, hproc⟩ := h.populated x.1 x.2 hx
    simpa [← hproc] using (fresh_iff.mp hfresh a ha).2

theorem Proper.bringup {handler : Nat} (h : Proper m) (hth : m.find tid = some th)
    (hfile : m.fileOf th.proc = some file) :
    Proper { m with
      upiList := Kmod.fpvmIoctl tid file m.upiList (.reg handler)
      threads := update tid (register handler) m.threads } := by
  obtain ⟨hmem, htid⟩ := mem_of_find hth
  obtain ⟨hdistinct, hpopulated⟩ :=
    h.threads tid (f := register handler) (fun _ => rfl) fun _ => rfl
  refine ⟨⟨fun upi hupi => ?_, fun upi hupi => ?_⟩, hdistinct, h.oneFile, hpopulated⟩
  · rcases List.mem_cons.mp hupi with rfl | hupi'
    · refine ⟨register handler th, mem_update.mpr ⟨th, hmem, if_pos htid⟩, htid, ?_, rfl⟩
      exact List.mem_cons_self
    · obtain ⟨a, ha, hpid, hreg, htorn⟩ := h.owned upi hupi'
      refine ⟨_, mem_update.mpr ⟨a, ha, rfl⟩, ?_⟩
      split_ifs
      · exact ⟨hpid, List.mem_cons_of_mem _ hreg, rfl⟩
      · exact ⟨hpid, hreg, htorn⟩
  · rcases List.mem_cons.mp hupi with rfl | hupi'
    · exact ⟨th.proc, mem_of_fileOf hfile⟩
    · exact h.unreleased upi hupi'

theorem Proper.deinit (h : Proper m)
    (hnone : m.leavesNone tid th.proc (m.lastClose th.proc) = true) :
    Proper ({ m with
      threads := update tid (fun th => { th with tornDown := true }) m.threads }.close tid
        th.proc) := by
  obtain ⟨hdistinct, hpopulated⟩ :=
    h.threads tid (f := fun th => { th with tornDown := true }) (fun _ => rfl) fun _ => rfl
  refine ⟨sound_close ?_ h.unreleased h.oneFile hnone, ?_, ?_, ?_⟩
  · intro upi hupi hpid
    obtain ⟨a, ha, htid, hreg, htorn⟩ := h.owned upi hupi
    have hne : a.tid ≠ tid := fun heq => hpid (htid.symm.trans heq)
    exact ⟨a, mem_update.mpr ⟨a, ha, if_neg hne⟩, htid, hreg, htorn⟩
  · rw [threads_close]
    exact hdistinct
  · intro proc f g hf hg
    exact h.oneFile proc f g (mem_opened_close hf).1 (mem_opened_close hg).1
  · intro proc f hf
    rw [threads_close]
    exact hpopulated proc f (mem_opened_close hf).1

/-- The threads that are left when one ends. -/
theorem mem_others {a : KThread} :
    a ∈ m.threads.filter (·.tid ≠ tid) ↔ a ∈ m.threads ∧ a.tid ≠ tid := by
  simp

theorem Proper.exit (h : Proper m) (hth : m.find tid = some th)
    (hnone : m.leavesNone tid th.proc (m.lastThread th && m.lastClose th.proc) = true) :
    Proper (if m.lastThread th then
        { m with threads := m.threads.filter (·.tid ≠ tid) }.close tid th.proc
      else { m with threads := m.threads.filter (·.tid ≠ tid) }) := by
  obtain ⟨hmem, htid⟩ := mem_of_find hth
  have hothers : ∀ upi ∈ m.upiList, upi.pid ≠ tid → ∃ a ∈ m.threads.filter (·.tid ≠ tid),
      a.tid = upi.pid ∧ upi.userHandler ∈ a.registered ∧ a.tornDown = false := by
    intro upi hupi hpid
    obtain ⟨a, ha, hown⟩ := h.owned upi hupi
    exact ⟨a, mem_others.mpr ⟨ha, fun heq => hpid (hown.1.symm.trans heq)⟩, hown⟩
  have hdistinct : ∀ a ∈ m.threads.filter (·.tid ≠ tid), ∀ b ∈ m.threads.filter (·.tid ≠ tid),
      a.tid = b.tid → a = b := fun a ha b hb =>
    h.distinct a (mem_others.mp ha).1 b (mem_others.mp hb).1
  split_ifs with hlast
  · rw [hlast, Bool.true_and] at hnone
    refine ⟨sound_close hothers h.unreleased h.oneFile hnone, ?_, ?_, ?_⟩
    · rw [threads_close]
      exact hdistinct
    · intro proc f g hf hg
      exact h.oneFile proc f g (mem_opened_close hf).1 (mem_opened_close hg).1
    · intro proc f hf
      obtain ⟨hf, hproc⟩ := mem_opened_close hf
      obtain ⟨a, ha, rfl⟩ := h.populated proc f hf
      have hne : a.tid ≠ tid := by
        intro heq
        rw [h.distinct a ha th hmem (heq.trans htid.symm)] at hproc
        exact hproc rfl
      rw [threads_close]
      exact ⟨a, mem_others.mpr ⟨ha, hne⟩, rfl⟩
  · have hall : ∀ upi ∈ m.upiList, upi.pid ≠ tid := by simpa [leavesNone, hlast] using hnone
    refine ⟨⟨fun upi hupi => hothers upi hupi (hall upi hupi), h.unreleased⟩, hdistinct, h.oneFile,
      fun proc f hf => ?_⟩
    obtain ⟨a, ha, rfl⟩ := h.populated proc f hf
    by_cases hne : a.tid = tid
    · -- the process has another thread
      obtain ⟨b, hb, hbtid, hbproc⟩ : ∃ b ∈ m.threads, b.tid ≠ th.tid ∧ b.proc = th.proc := by
        simpa [lastThread] using hlast
      obtain rfl := h.distinct a ha th hmem (hne.trans htid.symm)
      exact ⟨b, mem_others.mpr ⟨hb, fun heq => hbtid (heq.trans htid.symm)⟩, hbproc⟩
    · exact ⟨a, mem_others.mpr ⟨ha, hne⟩, rfl⟩

theorem Proper.step {e : MachineEvent} (h : Proper m) (htidy : m.tidy e = true)
    (hstep : m.step e = some m') : Proper m' := by
  cases e with
  | start tid =>
    simp only [Machine.step] at hstep
    split_ifs at hstep with hfresh
    obtain rfl := Option.some.inj hstep
    exact h.born _ hfresh
  | create tid child =>
    simp only [Machine.step] at hstep
    split_ifs at hstep with hfresh
    obtain ⟨th, -, rfl⟩ := Option.map_eq_some_iff.mp hstep
    exact h.born _ hfresh
  | fork tid child =>
    simp only [Machine.step] at hstep
    split_ifs at hstep with hfresh
    obtain ⟨th, -, rfl⟩ := Option.map_eq_some_iff.mp hstep
    exact h.fork hfresh th
  | openDev tid =>
    obtain ⟨th, hth, hopen⟩ := Option.bind_eq_some_iff.mp hstep
    split_ifs at hopen with hfile
    obtain rfl := Option.some.inj hopen
    exact h.shares th (mem_of_find hth).1 (Option.isNone_iff_eq_none.mp hfile) _ _
  | bringup tid handler =>
    obtain ⟨th, hth, hreg⟩ := Option.bind_eq_some_iff.mp hstep
    obtain ⟨file, hfile, rfl⟩ := Option.map_eq_some_iff.mp hreg
    exact h.bringup hth hfile
  | exit tid =>
    obtain ⟨th, hth, rfl⟩ := Option.map_eq_some_iff.mp hstep
    exact h.exit hth (by simpa [tidy, hth] using htidy)
  | deinit tid =>
    obtain ⟨th, hth, rfl⟩ := Option.map_eq_some_iff.mp hstep
    exact h.deinit (by simpa [tidy, hth] using htidy)

end Machine
end FPSpy
