import FPSpy.Individual.Lifetime

/-!
# Records and their files

Every bringup opens a file; records wait in the buffer of a context until a push fills it
or the context is torn down. A fork copies the table with its buffers, and the descriptors.
At exit `fpspy_deinit` tears down the context of the thread that runs it and closes the
files of all others.

`own` and `pushed` are there to say what should be in the files; no step depends on them.
-/
namespace FPSpy

section

variable {A : Arch} {cfg : Config A}

structure FileProc where
  inited : Bool
  table : List MonitoringContext
  /-- The file behind each open descriptor. -/
  fds : Int → Option Nat
  /-- The file that was opened for the context of a thread. -/
  own : Nat → Option Nat
  thread : Nat → Option Phase

namespace FileProc

def fresh (maxContexts pid : Nat) : FileProc where
  inited := true
  table := List.replicate (maxContexts + 1) .zero
  fds _ := none
  own _ := none
  thread := Function.update (fun _ => none) pid (some .newborn)

def broughtUp (cfg : Config A) (env : Env) (t : Nat) (p : FileProc) : FileProc :=
  { p with
    table := (Table.bringupMonitoringContext cfg env t p.table).1
    thread := Function.update p.thread t (some .running) }

/-- Descriptor `fd` of the process stands for file `x`, opened for the context of thread `t`. -/
def opened (t : Nat) (fd : Int) (x : Nat) (p : FileProc) : FileProc :=
  { p with
    fds := Function.update p.fds fd (some x)
    own := Function.update p.own t (some x) }

end FileProc

/-- All processes, and all files with the records in them and the records handed to
`push_trace_record` for their contexts. -/
structure Files where
  proc : Nat → Option FileProc
  created : Nat
  content : Nat → List TraceRecord
  pushed : Nat → List TraceRecord

namespace Files

def write (s : Files) (p : FileProc) (fd : Int) (rs : List TraceRecord) : Files :=
  match p.fds fd with
  | none => s
  | some x => { s with content := Function.update s.content x (s.content x ++ rs) }

def put (s : Files) (pid : Nat) (p : Option FileProc) : Files :=
  { s with proc := Function.update s.proc pid p }

/-- `bringup_monitoring_context` in a new thread. The descriptor `open` returns is not in use. -/
def setUp (cfg : Config A) (env : Env) (s : Files) (pid t : Nat) (p : FileProc) : Option Files :=
  match (Table.bringupMonitoringContext cfg env t p.table).2, env.openFd with
  | true, some fd =>
    if p.fds fd = none then
      some { s.put pid (some ((p.broughtUp cfg env t).opened t fd s.created)) with
        created := s.created + 1 }
    else none
  | _, _ => some (s.put pid (some (p.broughtUp cfg env t)))

def push (cfg : Config A) (s : Files) (pid t : Nat) (p : FileProc) (r : TraceRecord) :
    Option Files :=
  (Table.findMonitoringContext t p.table).map fun mc =>
    let q := Trace.pushTraceRecord cfg.traceBuflen mc.traceRecords r
    let s := s.write p mc.fd q.written
    let s := s.put pid (some { p with
      table := Table.store t { mc with traceRecords := q.buffer } p.table })
    match p.own t with
    | none => s
    | some x => { s with pushed := Function.update s.pushed x (s.pushed x ++ [r]) }

def teardown (cfg : Config A) (s : Files) (t : Nat) (p : FileProc) : Files × FileProc :=
  match Table.findMonitoringContext t p.table with
  | none => (s, p)
  | some mc =>
    let q := Table.teardownMonitoringContext cfg t p.table
    (s.write p mc.fd q.2,
      { p with table := q.1, fds := Function.update p.fds mc.fd none })

def pthreadExit (cfg : Config A) (s : Files) (pid t : Nat) (p : FileProc) : Files :=
  let q := s.teardown cfg t p
  q.1.put pid (some { q.2 with thread := Function.update q.2.thread t none })

def fpspyDeinit (cfg : Config A) (s : Files) (pid t : Nat) (p : FileProc) : Files :=
  if p.inited then
    let q := s.teardown cfg t p
    q.1.put pid (some { q.2 with
      inited := false
      fds := fun fd => if q.2.table.any fun c => c.tid ≠ 0 && c.fd = fd then none else q.2.fds fd })
  else s

end Files

inductive FileEvent where
  /-- Thread `t` of a process creates thread `u`. -/
  | pthreadCreate (pid t u : Nat)
  | setUp (pid t : Nat) (env : Env)
  | push (pid t : Nat) (r : TraceRecord)
  | pthreadExit (pid t : Nat)
  | fork (pid t child : Nat)
  /-- Thread `t` exits the process: `fpspy_deinit` runs in it. -/
  | exit (pid t : Nat)
  /-- The process is gone, some time after that. -/
  | gone (pid : Nat)

def Files.step (cfg : Config A) (s : Files) : FileEvent → Option Files
  | .pthreadCreate pid t u => (s.proc pid).bind fun p =>
    if p.thread t = some .running ∧ u ≠ 0 ∧ p.thread u = none then
      some (s.put pid (some { p with thread := Function.update p.thread u (some .newborn) }))
    else none
  | .setUp pid t env => (s.proc pid).bind fun p =>
    if p.thread t = some .newborn then s.setUp cfg env pid t p else none
  | .push pid t r => (s.proc pid).bind fun p =>
    if p.thread t = some .running then s.push cfg pid t p r else none
  | .pthreadExit pid t => (s.proc pid).bind fun p =>
    if p.thread t = some .running then some (s.pthreadExit cfg pid t p) else none
  | .fork pid t child => (s.proc pid).bind fun p =>
    if p.thread t = some .running ∧ child ≠ 0 ∧ (s.proc child).isNone then
      some (s.put child
        (some { p with thread := Function.update (fun _ => none) child (some .newborn) }))
    else none
  | .exit pid t => (s.proc pid).bind fun p =>
    -- the last thread may have left in `pthread_exit` before
    if t ≠ 0 ∧ (p.thread t = some .running ∨ Table.findMonitoringContext t p.table = none) then
      some (s.fpspyDeinit cfg pid t p)
    else none
  | .gone pid => (s.proc pid).bind fun p =>
    if p.inited = false then some (s.put pid none) else none

namespace Files

def unmonitored (maxContexts pid : Nat) : Files where
  proc := Function.update (fun _ => none) pid (some (.fresh maxContexts pid))
  created := 0
  content _ := []
  pushed _ := []

def start (cfg : Config A) (env : Env) (maxContexts pid fd : Nat) : Files :=
  { (unmonitored maxContexts pid).put pid (some
      (((FileProc.fresh maxContexts pid).broughtUp cfg { env with openFd := some fd } pid).opened
        pid fd 0)) with created := 1 }

end Files

end
end FPSpy
