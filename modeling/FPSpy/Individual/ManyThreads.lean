import FPSpy.Individual.Process
import FPSpy.Individual.Watching
import FPSpy.Machine.Unmasked

/-!
# Threads that share memory

A target with several threads on x64 under FPSpy, with any choice of exceptions, and with or
without the sampler and a limit. It starts with one thread, and any thread may create others. A
step is an instruction of one thread, the creation of one, or a handler; between the end of a
single-stepped instruction and its SIGTRAP, and between a trap and the second attempt at its
instruction, the other threads may run.

A new thread runs with its creator's MXCSR, unmasked traps included, until its own SIGTRAP makes
FPSpy watch it. That signal goes to the process; `Prompt` are the runs in which it is taken where
it was sent, and before anything else happens there.

What the threads commit is a native run under the same schedule. The records of a thread are
those of the instructions it has single-stepped; the others may change what such an
instruction finds in memory when it is attempted again, so it need not raise anything then.
-/
namespace FPSpy.X64

variable {ι : Type}

/-! ## The threads alone -/

/-- The registers a thread starts with: its creator's MXCSR and trap flag. -/
def inherit (gregs : Greg → BitVec 64) (uc : UContext) : UContext where
  gregs := Function.update gregs .efl (gregs .efl &&& ~~~tfBit ||| uc.gregs .efl &&& tfBit)
  mxcsr := uc.mxcsr

/-- What a target does: a thread takes its next instruction, or creates another one. -/
inductive Move (ι : Type) where
  | turn (t : ι)
  | create (t u : ι) (gregs : Greg → BitVec 64)

structure Alone (ι : Type) where
  regs : ι → UContext
  mem : Mem

namespace Alone

variable [DecidableEq ι]

def cpu (a : Alone ι) (t : ι) : Cpu := ⟨a.regs t, a.mem⟩

def turn (P : Program) (a : Alone ι) (t : ι) : Alone ι :=
  ⟨Function.update a.regs t (P.commit (a.cpu t)).uc, (P.commit (a.cpu t)).mem⟩

def create (a : Alone ι) (t u : ι) (gregs : Greg → BitVec 64) : Alone ι :=
  { a with regs := Function.update a.regs u (inherit gregs (a.regs t)) }

def move (P : Program) (a : Alone ι) : Move ι → Alone ι
  | .turn t => a.turn P t
  | .create t u gregs => a.create t u gregs

def after (P : Program) (a : Alone ι) (schedule : List (Move ι)) : Alone ι :=
  schedule.foldl (move P) a

def commits (P : Program) (a : Alone ι) : Move ι → List (ι × Commit)
  | .turn t => [(t, P.entry (a.cpu t))]
  | .create _ _ _ => []

def native (P : Program) : Alone ι → List (Move ι) → List (ι × Commit)
  | _, [] => []
  | a, m :: schedule => a.commits P m ++ (native P (a.move P m) schedule)

theorem native_concat (P : Program) (a : Alone ι) (schedule : List (Move ι)) (m : Move ι) :
    a.native P (schedule ++ [m]) = a.native P schedule ++ (a.after P schedule).commits P m := by
  induction schedule generalizing a with
  | nil => simp [native, after]
  | cons u schedule ih => simp only [List.cons_append, native, ih, after, List.foldl_cons,
      List.append_assoc]

theorem after_concat (P : Program) (a : Alone ι) (schedule : List (Move ι)) (m : Move ι) :
    a.after P (schedule ++ [m]) = (a.after P schedule).move P m := by
  simp [after]

end Alone

theorem tf_inherit (gregs : Greg → BitVec 64) (uc : UContext) : tf (inherit gregs uc) = tf uc := by
  have hoff : ∀ x y : BitVec 64, (x &&& ~~~tfBit ||| y &&& tfBit) &&& tfBit = y &&& tfBit := by
    intro x y
    ext i hi
    simp only [BitVec.getElem_and, BitVec.getElem_or, BitVec.getElem_not]
    grind
  simp only [tf, inherit, Function.update_self, hoff]

theorem visible_inherit_congr (gregs : Greg → BitVec 64) {uc vc : UContext}
    (h : uc.visible = vc.visible) : (inherit gregs uc).visible = (inherit gregs vc).visible := by
  have hoff : ∀ x y : BitVec 64,
      (x &&& ~~~tfBit ||| y &&& tfBit) &&& ~~~tfBit = x &&& ~~~tfBit := by
    intro x y
    ext i hi
    simp only [BitVec.getElem_and, BitVec.getElem_or, BitVec.getElem_not]
    grind
  have hmxcsr : uc.mxcsr &&& ~~~statusMask = vc.mxcsr &&& ~~~statusMask :=
    congrArg UContext.mxcsr h
  simp only [UContext.visible, inherit, Function.update_self, Function.update_idem, hoff, hmxcsr]

/-! ## Under FPSpy -/

/-- A committed instruction: its thread, whether it was single-stepped, and whether the thread
watched. -/
structure Turn (ι : Type) where
  thread : ι
  commit : Commit
  stepped : Bool
  watched : Bool

def site (uc : UContext) : Addr × Addr := (archGetIp uc, archGetSp uc)

theorem site_visible (uc : UContext) : site uc.visible = site uc := by
  simp [site, UContext.visible, archGetIp, archGetSp]

theorem site_congr {uc vc : UContext} (h : uc.visible = vc.visible) : site uc = site vc := by
  rw [← site_visible uc, h, site_visible]

/-- The instructions that were single-stepped. -/
def singled (ks : List (Turn ι)) : List (Addr × Addr) :=
  (ks.filter (·.stepped)).map fun k => site k.commit.before.uc

theorem singled_concat (ks : List (Turn ι)) (k : Turn ι) :
    singled (ks ++ [k]) = singled ks ++ if k.stepped then [site k.commit.before.uc] else [] := by
  cases hk : k.stepped <;> simp [singled, hk]

/-- The instruction that a thread is about to single-step. -/
def pending (mc : Option MonitoringContext) (due : Bool) (uc : UContext) : List (Addr × Addr) :=
  if mc.map (·.state) = some .awaitTrap ∧ due = false then [site uc] else []

/-- The threads of a target. `kicks` are those whose kicks are pending. A SIGTRAP is due in a
thread that has completed an instruction with the trap flag set; `shut` says that the limit keeps
the traps of a thread masked. -/
structure Crew (ι : Type) where
  process : Process ι x64
  live : ι → Bool
  kicks : List ι
  due : ι → Bool
  shut : ι → Bool
  turns : List (Turn ι)
  schedule : List (Move ι)

inductive CrewEvent (ι : Type) where
  /-- Thread `t` takes a SIGTRAP that was sent to the process. -/
  | sigtrap (t : ι) (env : Env)
  | expiry (t : ι) (env : Env)
  /-- The processor goes on in thread `t`. -/
  | cpu (t : ι) (env : Env) (siCode : BitVec 32)
  /-- Thread `t` creates `u`, which gets as far as its kick. -/
  | create (t u : ι) (tid : Nat) (gregs : Greg → BitVec 64) (env : Env)

namespace Crew

def state (s : Crew ι) (t : ι) : Option MonitorState := (s.process.thread t).mc.map (·.state)

def cpu (s : Crew ι) (t : ι) : Cpu := ⟨(s.process.thread t).uc, s.process.globals.code⟩

def watches (s : Crew ι) (t : ι) : Bool :=
  (s.process.thread t).mc.any fun mc =>
    mc.state = .awaitFpe ∧ mc.sampler.state = .on ∧ s.shut t = false

def nextTurn (P : Program) (s : Crew ι) (t : ι) : Turn ι where
  thread := t
  commit := P.entry (s.cpu t)
  stepped := s.state t = some .awaitTrap
  watched := s.watches t

variable [DecidableEq ι]

def mine (s : Crew ι) (t : ι) : List (Turn ι) := s.turns.filter fun k => k.thread = t

def steps (s : Crew ι) (t : ι) : List (Addr × Addr) :=
  singled (s.mine t) ++ pending (s.process.thread t).mc (s.due t) (s.process.thread t).uc

def commit (P : Program) (s : Crew ι) (t : ι) : Crew ι :=
  { s with
    process := s.process.put t { s.process.flow t with
      uc := (P.commit (s.cpu t)).uc
      code := (P.commit (s.cpu t)).mem }
    due := Function.update s.due t (tf (s.cpu t).uc)
    turns := s.turns ++ [s.nextTurn P t]
    schedule := s.schedule ++ [.turn t] }

def handle (s : Crew ι) (t : ι) (due shut : Bool) (f : Flow x64) : Crew ι :=
  { s with
    process := s.process.put t f
    due := Function.update s.due t due
    shut := Function.update s.shut t shut }

/-- `pthread_create` in thread `t`, and `trampoline` in the new thread up to its kick: the set-up
clears the sticky flags. After an abort there is no set-up, and no kick where it fails. -/
def create (cfg : Config x64) (libc : Libc x64) (s : Crew ι) (t u : ι) (tid : Nat)
    (gregs : Greg → BitVec 64) (env : Env) : Crew ι :=
  let uc := inherit gregs (s.cpu t).uc
  let g := s.process.globals
  let mc := if g.aborted then none else bringupMonitoringContext cfg env tid .zero
  let uc := if g.aborted then uc else libc.feclearexceptEnabled uc
  { process :=
      { globals := { g with
          itimer := match mc with
            | some mc => if cfg.timers then mc.sampler.it else g.itimer
            | none => g.itimer }
        thread := Function.update s.process.thread u { Thread.start tid uc with mc := mc } }
    live := Function.update s.live u true
    kicks := if mc.isSome then s.kicks ++ [u] else s.kicks
    due := Function.update s.due u false
    shut := Function.update s.shut u false
    turns := s.turns
    schedule := s.schedule ++ [.create t u gregs] }

/-- One step. A SIGTRAP is all pending kicks at once. An instruction that raises an exception
creates no thread, so none is created during the step over one. -/
def step (cfg : Config x64) (libc : Libc x64) (P : Program) (s : Crew ι) :
    CrewEvent ι → Option (Crew ι)
  | .sigtrap t env =>
    if s.live t then
      ((s.process.flow t).step cfg (.brkTrap env)).map fun f =>
        { s.handle t (s.due t) (s.shut t) f with kicks := [] }
    else none
  | .expiry t env =>
    if s.live t then
      ((s.process.flow t).step cfg (.expiry env)).map
        (s.handle t (s.due t) (s.shut t && s.state t ≠ some .awaitFpe))
    else none
  | .cpu t env siCode =>
    if s.live t then
      if s.due t then
        ((s.process.flow t).step cfg (.brkTrap env)).map
          (s.handle t false (reachedMaxcount cfg (BitVec.ofNat 64 (singled (s.mine t)).length)))
      else if P.raises (s.cpu t) &&& unmasked (s.cpu t).uc ≠ 0 then
        ((s.process.flow t).step cfg (.fpTrap env siCode)).map (s.handle t false (s.shut t))
      else some (s.commit P t)
    else none
  | .create t u tid gregs env =>
    if s.live t ∧ s.live u = false ∧ s.state t ≠ some .awaitTrap then
      some (s.create cfg libc t u tid gregs env)
    else none

/-- A SIGTRAP finds a thread in INIT, and is no other thread's kick; a thread whose kick is pending
does nothing else. Set-ups succeed, and with the sampler they are not made with unmasked traps:
`next_exp` takes a logarithm. -/
def Prompt (cfg : Config x64) (s : Crew ι) : CrewEvent ι → Prop
  | .sigtrap t _ => s.state t = some .init ∧ ∀ v ∈ s.kicks, v = t
  | .expiry _ _ => True
  | .cpu t _ _ => t ∉ s.kicks
  | .create t _ tid _ env => t ∉ s.kicks ∧
    (bringupMonitoringContext cfg env tid .zero).isSome = true ∧
    (cfg.timers = true → trapsUnmasked cfg.statics (s.cpu t).uc = false)

instance (cfg : Config x64) (s : Crew ι) : (e : CrewEvent ι) → Decidable (s.Prompt cfg e)
  | .sigtrap _ _ => inferInstanceAs (Decidable (_ ∧ _))
  | .expiry _ _ => isTrue trivial
  | .cpu t _ _ => inferInstanceAs (Decidable (t ∉ s.kicks))
  | .create t _ _ _ _ => inferInstanceAs (Decidable (t ∉ s.kicks ∧ _ ∧ _))

def load (cfg : Config x64) (p : Process ι x64) (main : ι) : Crew ι where
  process := p
  live t := t = main
  kicks := if cfg.kickstart then [] else [main]
  due _ := false
  shut _ := false
  turns := []
  schedule := []

end Crew

/-! ## The handlers -/

section Handlers

variable {cfg : Config x64} {mc : MonitoringContext} {f g : Flow x64} {e : ThreadEvent}

/-- Without forced rounding the target does not see what the handlers do, and they unmask
monitored exceptions only. -/
theorem keeps_visible (hround : cfg.controlRoundConfig = false) (v : UContext) :
    Keeps cfg fun uc => OnlyMonitored cfg.statics uc ∧ uc.visible = v where
  shut uc h := ⟨h.1.clear.mask, by simp [h.2]⟩
  reopen uc h := ⟨h.1.clear.unmask, by simp [h.2]⟩
  setRound hforced := absurd (hround.symm.trans hforced) Bool.false_ne_true
  setTrapMode uc code s h := ⟨h.1, by simp [h.2]⟩
  resetTrapMode uc code s h := ⟨h.1, by simp [h.2]⟩
  resetTrapModeNull uc h := ⟨h.1, by simp [h.2]⟩

theorem visible_step (hround : cfg.controlRoundConfig = false) (hstep : f.step cfg e = some g)
    (h : OnlyMonitored cfg.statics f.uc) :
    OnlyMonitored cfg.statics g.uc ∧ g.uc.visible = f.uc.visible := by
  have K := keeps_visible hround f.uc.visible
  have hf : OnlyMonitored cfg.statics f.uc ∧ f.uc.visible = f.uc.visible := ⟨h, rfl⟩
  cases Flow.handlerStep_of_step hstep with
  | fpTrap hopen hours hresume => exact K.resume_fpTrapHandler hresume (K.shut _ hf)
  | brkTrap hours hresume =>
    rw [(Flow.sameCode_resume hresume).uc]
    exact K.brkTrapHandler hf
  | expiry hours => exact K.sigalrmHandler hf

/-- Nor do they write to its memory. -/
theorem code_step (hstep : f.step cfg e = some g) (hmc : f.mc = some mc) : g.code = f.code := by
  cases Flow.step_effect hstep hmc with
  | surpriseFpe => exact (sameCode_abortInHandler cfg _ _).code
  | surpriseTrap => exact (sameCode_abortInHandler cfg _ _).code
  | endStep =>
    unfold brkAwaitTrap
    dsimp only
    split_ifs <;> rfl
  | _ => rfl

end Handlers

/-! ## One thread -/

/-- A thread in its cycle, with what it has committed. It is `starting` while its kick is
pending. -/
structure Member (cfg : Config x64) (th : Thread x64) (due shut starting : Bool)
    (ks : List (Turn ι)) (mc : MonitoringContext) : Prop where
  mc_eq : th.mc = some mc
  alive : mc.state ≠ .abort
  starts : starting = true → mc.state = .init
  masks : OnlyMonitored cfg.statics th.uc
  closed : starting = false → mc.state ≠ .awaitFpe → trapsUnmasked cfg.statics th.uc = false
  flag : tf th.uc = decide (mc.state = .awaitTrap)
  owes : due = true → mc.state = .awaitTrap
  init : mc.state = .init → mc.sampler.state = .on ∧ mc.count = 0 ∧ singled ks = [] ∧ shut = false
  waits : mc.state = .awaitFpe →
    Waits cfg x64Masking mc shut th.uc ∧ mc.count = BitVec.ofNat 64 (singled ks).length
  stepping : mc.state = .awaitTrap → mc.sampler.state = .on ∧
    ∃ i, (singled ks ++ pending th.mc due th.uc).length = i + 1 ∧ mc.count = BitVec.ofNat 64 i
  pushed : th.pushed.map (fun r => (r.rip, r.rsp)) =
    pick (fun i => cfg.records (BitVec.ofNat 64 i)) (singled ks ++ pending th.mc due th.uc)
  missed : ∀ k ∈ ks, k.watched = true → k.commit.raised &&& cfg.statics.mxcsrmaskBase = 0

namespace Member

variable {cfg : Config x64} {mc : MonitoringContext} {f g : Flow x64} {due shut starting : Bool}
  {ks : List (Turn ι)} {env : Env} {siCode : BitVec 32}

theorem pending_of_ne {th : Thread x64} (due : Bool) (uc : UContext) (hmc : th.mc = some mc)
    (h : mc.state ≠ .awaitTrap) : pending th.mc due uc = [] := by
  simp [pending, hmc, h]

theorem due_of_ne {th : Thread x64} (h : Member cfg th due shut starting ks mc)
    (hstate : mc.state ≠ .awaitTrap) : due = false := by
  cases hd : due with
  | false => rfl
  | true => exact absurd (h.owes hd) hstate

/-- A thread that has left INIT has taken its kick. -/
theorem started_of_ne {th : Thread x64} (h : Member cfg th due shut starting ks mc)
    (hstate : mc.state ≠ .init) : starting = false := by
  cases hs : starting with
  | false => rfl
  | true => exact absurd (h.starts hs) hstate

/-- Outside of the window only what has been single-stepped counts. -/
theorem pushed_of_ne {th : Thread x64} (h : Member cfg th due shut starting ks mc)
    (hstate : mc.state ≠ .awaitTrap) : th.pushed.map (fun r => (r.rip, r.rsp)) =
      pick (fun i => cfg.records (BitVec.ofNat 64 i)) (singled ks) := by
  have hpushed := h.pushed
  rwa [pending_of_ne _ _ h.mc_eq hstate, List.append_nil] at hpushed

/-- While a thread watches, the monitored exceptions are unmasked; otherwise none. -/
theorem unmasked_eq {th : Thread x64} (h : Member cfg th due shut false ks mc) :
    unmasked th.uc =
      if mc.state = .awaitFpe ∧ mc.sampler.state = .on ∧ shut = false then
        cfg.statics.mxcsrmaskBase
      else 0 := by
  by_cases hstate : mc.state = .awaitFpe
  · obtain ⟨hwaits, -⟩ := h.waits hstate
    split_ifs with hwatches
    · exact h.masks.unmasked_of_opened (hwaits.opened hwatches.2.1 hwatches.2.2)
    · refine h.masks.unmasked_of_masked (hwaits.masked ?_)
      cases hs : mc.sampler.state with
      | off => exact .inl rfl
      | on => exact .inr (by simpa [hstate, hs] using hwatches)
  · rw [if_neg fun hwatches => hstate hwatches.1]
    exact h.masks.unmasked_of_masked (h.closed rfl hstate)

/-- A thread in AWAIT_FPE. -/
theorem waiting {th : Thread x64} (hmc : th.mc = some mc) (hstate : mc.state = .awaitFpe)
    (hmasks : OnlyMonitored cfg.statics th.uc) (hflag : tf th.uc = false)
    (hwaits : Waits cfg x64Masking mc shut th.uc)
    (hcount : mc.count = BitVec.ofNat 64 (singled ks).length)
    (hpushed : th.pushed.map (fun r => (r.rip, r.rsp)) =
      pick (fun i => cfg.records (BitVec.ofNat 64 i)) (singled ks))
    (hmissed : ∀ k ∈ ks, k.watched = true → k.commit.raised &&& cfg.statics.mxcsrmaskBase = 0) :
    Member cfg th false shut false ks mc where
  mc_eq := hmc
  alive := by simp [hstate]
  starts := nofun
  masks := hmasks
  closed _ := absurd hstate
  flag := by simpa [hstate] using hflag
  owes := nofun
  init hin := absurd (hstate.symm.trans hin) (by decide)
  waits _ := ⟨hwaits, hcount⟩
  stepping hin := absurd (hstate.symm.trans hin) (by decide)
  pushed := by
    rw [pending_of_ne _ _ hmc (by simp [hstate]), List.append_nil]
    exact hpushed
  missed := hmissed

/-- The kick of INIT, whatever the masks were. -/
theorem kick (h : Member cfg f.toThread due shut starting ks mc)
    (hround : cfg.controlRoundConfig = false) (hstate : mc.state = .init)
    (hstep : f.step cfg (.brkTrap env) = some g) :
    g.aborted = f.aborted ∧ ∃ mc', Member cfg g.toThread due shut false ks mc' := by
  obtain ⟨hmasks, -⟩ := visible_step hround hstep h.masks
  obtain ⟨hon, hcount, hnone, hopen⟩ := h.init hstate
  have hne : mc.state ≠ .awaitTrap := by simp [hstate]
  rw [h.due_of_ne hne, hopen]
  cases Flow.step_effect hstep h.mc_eq with
  | kick =>
    obtain ⟨mc', hmc', hstate', hcount', hwaits⟩ := waits_brkInit (M := x64Masking) hon f
    refine ⟨rfl, mc', waiting hmc' hstate' hmasks (tf_resetTrapModeNull _) hwaits ?_
      (h.pushed_of_ne hne) h.missed⟩
    rw [hcount', hcount, hnone]
    rfl
  | aborted hs | endStep hs | surpriseTrap hs => exact absurd (hstate.symm.trans hs) (by decide)

/-- A thread that is about to single-step event `(singled ks).length`. -/
theorem midStep {th : Thread x64} {uc : UContext} (hmc : th.mc = some mc)
    (hstate : mc.state = .awaitTrap) (hmasks : OnlyMonitored cfg.statics th.uc)
    (hclosed : trapsUnmasked cfg.statics th.uc = false) (hflag : tf th.uc = true)
    (hsite : site th.uc = site uc) (hon : mc.sampler.state = .on)
    (hcount : mc.count = BitVec.ofNat 64 (singled ks).length)
    (hpushed : th.pushed.map (fun r => (r.rip, r.rsp)) =
      pick (fun i => cfg.records (BitVec.ofNat 64 i)) (singled ks ++ [site uc]))
    (hmissed : ∀ k ∈ ks, k.watched = true → k.commit.raised &&& cfg.statics.mxcsrmaskBase = 0) :
    Member cfg th false shut false ks mc := by
  have hpending : pending th.mc false th.uc = [site uc] := by simp [pending, hmc, hstate, hsite]
  exact
    { mc_eq := hmc
      alive := fun h => absurd (hstate.symm.trans h) (by decide)
      starts := nofun
      masks := hmasks
      closed := fun _ _ => hclosed
      flag := hflag.trans (by simp [hstate])
      owes := fun _ => hstate
      init := fun h => absurd (hstate.symm.trans h) (by decide)
      waits := fun h => absurd (hstate.symm.trans h) (by decide)
      stepping := fun _ => ⟨hon, (singled ks).length, by simp [hpending], hcount⟩
      pushed := by rwa [hpending]
      missed := hmissed }

/-- A trap: it comes in AWAIT_FPE, and the step over the instruction begins. -/
theorem trap (h : Member cfg f.toThread false shut false ks mc)
    (hround : cfg.controlRoundConfig = false) (hstep : f.step cfg (.fpTrap env siCode) = some g) :
    g.aborted = f.aborted ∧ ∃ mc', Member cfg g.toThread false shut false ks mc' := by
  obtain ⟨hmasks, hvisible⟩ := visible_step hround hstep h.masks
  cases Flow.step_effect hstep h.mc_eq with
  | beginStep buffer written hstate hopen =>
    obtain ⟨hwaits, hcount⟩ := h.waits hstate
    obtain ⟨hon, -⟩ := hwaits.on hopen
    have hold := h.pushed_of_ne (by simp [hstate])
    have hclosed (mc : MonitoringContext) (f : Flow x64) :
        trapsUnmasked cfg.statics (beginStep cfg mc f).uc = false := @masked_beginStep x64 cfg f mc
    refine ⟨rfl, _, midStep rfl rfl hmasks (hclosed _ _)
      (tf_setTrapMode _ f.code mc.trapModeState) (site_congr hvisible) hon hcount ?_ h.missed⟩
    rw [pick_concat, ← hold, ← hcount]
    simp only [beginStep, Flow.sampled, List.map_append]
    cases cfg.records mc.count <;> rfl
  | surpriseFpe _ _ hne hopen =>
    exact absurd ((h.closed rfl hne).symm.trans hopen) Bool.false_ne_true

/-- The end of the step. -/
theorem land (h : Member cfg f.toThread true shut starting ks mc)
    (hround : cfg.controlRoundConfig = false) (horig : x64.IsRoundConfig f.origRoundConfig)
    (hstep : f.step cfg (.brkTrap env) = some g) :
    g.aborted = f.aborted ∧ ∃ mc', Member cfg g.toThread false
      (reachedMaxcount cfg (BitVec.ofNat 64 (singled ks).length)) false ks mc' := by
  obtain ⟨hmasks, -⟩ := visible_step hround hstep h.masks
  have hstate := h.owes rfl
  obtain ⟨hon, i, hlen, hcount⟩ := h.stepping hstate
  have hpushed := h.pushed
  have hpending : pending f.mc true f.uc = [] := by simp [pending]
  rw [hpending, List.append_nil] at hlen hpushed
  have hnext : mc.count + 1 = BitVec.ofNat 64 (singled ks).length := by
    rw [hcount, hlen, BitVec.ofNat_add]
    rfl
  cases Flow.step_effect hstep h.mc_eq with
  | endStep =>
    obtain ⟨mc', hended, hwaits⟩ := waits_brkAwaitTrap (M := x64Masking) horig hon env
    rw [hnext] at hwaits
    refine ⟨hended.same.aborted, mc', waiting hended.mc_eq hended.state hmasks hended.stepping
      hwaits (hended.count.trans hnext) ?_ h.missed⟩
    exact (congrArg (List.map _) hended.pushed).trans hpushed
  | aborted hs | kick hs | surpriseTrap hs => exact absurd (hstate.symm.trans hs) (by decide)

/-- An expiry switches the sampler, or leaves that to the end of the step. -/
theorem expire (h : Member cfg f.toThread due shut starting ks mc)
    (hround : cfg.controlRoundConfig = false) (hstep : f.step cfg (.expiry env) = some g) :
    g.aborted = f.aborted ∧ ∃ mc', Member cfg g.toThread due
      (shut && some mc.state ≠ some .awaitFpe) starting ks mc' := by
  obtain ⟨hmasks, -⟩ := visible_step hround hstep h.masks
  cases Flow.step_effect hstep h.mc_eq with
  | delay hstate =>
    have hshut : (shut && some mc.state ≠ some .awaitFpe) = shut := by simp [hstate]
    rw [hshut]
    refine ⟨rfl, { mc with sampler := { mc.sampler with delayedProcessing := true } }, ?_⟩
    exact
      { mc_eq := rfl
        alive := h.alive
        starts := h.starts
        masks := h.masks
        closed := h.closed
        flag := h.flag
        owes := h.owes
        init := h.init
        waits := fun hin => absurd hin hstate
        stepping := by
          have hstepping := h.stepping
          simp only [pending, h.mc_eq] at hstepping ⊢
          exact hstepping
        pushed := by
          have hpushed := h.pushed
          simp only [pending, h.mc_eq] at hpushed ⊢
          exact hpushed
        missed := h.missed }
  | flip hstate =>
    have hne : mc.state ≠ .awaitTrap := by simp [hstate]
    have hshut : (shut && some mc.state ≠ some .awaitFpe) = false := by simp [hstate]
    obtain ⟨mc', hmc', hstate', hcount, hwaits⟩ :=
      waits_updateSampler (M := x64Masking) env mc f
    rw [hshut, h.due_of_ne hne, h.started_of_ne (by simp [hstate])]
    exact ⟨rfl, mc', waiting hmc' (hstate'.trans hstate) hmasks (tf_resetTrapModeNull _) hwaits
      (hcount.trans (h.waits hstate).2) (h.pushed_of_ne hne) h.missed⟩

/-- An instruction that does not trap. -/
theorem commit {P : Program} {th : Thread x64} {mem : Mem} {k : Turn ι}
    (h : Member cfg th false shut false ks mc)
    (hquiet : P.raises ⟨th.uc, mem⟩ &&& unmasked th.uc = 0)
    (hcommit : k.commit = P.entry ⟨th.uc, mem⟩)
    (hstepped : k.stepped = decide (mc.state = .awaitTrap))
    (hwatched : k.watched = true →
      mc.state = .awaitFpe ∧ mc.sampler.state = .on ∧ shut = false) :
    Member cfg { th with uc := (P.commit ⟨th.uc, mem⟩).uc } (X64.tf th.uc) shut false (ks ++ [k])
      mc := by
  have hmask := P.commit_maskMask cfg.statics ⟨th.uc, mem⟩
  have hunmasked : trapsUnmasked cfg.statics (P.commit ⟨th.uc, mem⟩).uc =
      trapsUnmasked cfg.statics th.uc := trapsUnmasked_congr hmask
  have hsite : site k.commit.before.uc = site th.uc := by
    rw [hcommit]
    exact site_visible th.uc
  -- the steps stay the same: what was pending has been single-stepped
  have hsteps : singled (ks ++ [k]) ++ pending th.mc (X64.tf th.uc) (P.commit ⟨th.uc, mem⟩).uc =
      singled ks ++ pending th.mc false th.uc := by
    by_cases hstate : mc.state = .awaitTrap
    · simp [singled_concat, hstepped, pending, h.mc_eq, h.flag, hstate, hsite]
    · simp [singled_concat, hstepped, pending, h.mc_eq, hstate]
  have hsame (hstate : mc.state ≠ .awaitTrap) : singled (ks ++ [k]) = singled ks := by
    simp [singled_concat, hstepped, hstate]
  exact
    { mc_eq := h.mc_eq
      alive := h.alive
      starts := nofun
      masks := h.masks.congr (P.commit_masks _)
      closed := fun _ hne => hunmasked.trans (h.closed rfl hne)
      flag := (P.commit_tf _).trans h.flag
      owes := fun htf => by simpa [h.flag] using htf
      init := fun hin => by
        rw [hsame (by simp [hin])]
        exact h.init hin
      waits := fun hin => by
        rw [hsame (by simp [hin])]
        exact ⟨(h.waits hin).1.congr (fun hopened => hmask.trans hopened) hunmasked,
          (h.waits hin).2⟩
      stepping := fun hin => by
        rw [hsteps]
        exact h.stepping hin
      pushed := by
        rw [hsteps]
        exact h.pushed
      missed := by
        intro j hj hjwatched
        obtain hold | hnew := List.mem_append.mp hj
        · exact h.missed j hold hjwatched
        · obtain rfl := List.mem_singleton.mp hnew
          rw [h.unmasked_eq, if_pos (hwatched hjwatched)] at hquiet
          rw [hcommit]
          exact hquiet }

end Member

/-! ## The threads that are created -/

/-- libc's `feclearexcept` clears sticky flags, and does nothing else. -/
def ClearsFlags (libc : Libc x64) : Prop :=
  ∀ uc, ∃ flags : BitVec 32, flags &&& ~~~0x3f#32 = 0 ∧
    libc.feclearexceptEnabled uc = { uc with mxcsr := uc.mxcsr &&& ~~~flags }

section Created

variable {libc : Libc x64} {uc : UContext}

theorem ClearsFlags.tf_eq (h : ClearsFlags libc) : tf (libc.feclearexceptEnabled uc) = tf uc := by
  obtain ⟨flags, -, heq⟩ := h uc
  rw [heq]
  rfl

theorem ClearsFlags.masks_eq (h : ClearsFlags libc) :
    (libc.feclearexceptEnabled uc).mxcsr &&& 0x1f80#32 = uc.mxcsr &&& 0x1f80#32 := by
  obtain ⟨flags, hflags, heq⟩ := h uc
  rw [heq]
  exact Bits.andNot_and_of_disjoint _ (Bits.disjoint_of_subset hflags (by decide))

theorem ClearsFlags.visible_eq (h : ClearsFlags libc) :
    (libc.feclearexceptEnabled uc).visible = uc.visible := by
  obtain ⟨flags, hflags, heq⟩ := h uc
  have hstatus : flags &&& ~~~statusMask = 0 := Bits.disjoint_of_subset hflags (by decide)
  simp only [heq, UContext.visible, Bits.andNot_and_of_disjoint _ hstatus]

/-- A thread created by one that is not in the window: its kick is pending. -/
theorem Member.newborn {cfg : Config x64} {th : Thread x64} {due shut : Bool} {ks : List (Turn ι)}
    {mc mc' : MonitoringContext} (h : Member cfg th due shut false ks mc)
    (hstate : mc.state ≠ .awaitTrap) (hlibc : ClearsFlags libc) {env : Env} {tid : Nat}
    (hup : bringupMonitoringContext cfg env tid .zero = some mc') (gregs : Greg → BitVec 64) :
    Member cfg { Thread.start tid (libc.feclearexceptEnabled (inherit gregs th.uc)) with
      mc := some mc' } false false true ([] : List (Turn ι)) mc' := by
  have hnew := newContext_of_bringup hup
  have hinit := hnew.state
  exact
    { mc_eq := rfl
      alive := by simp [hinit]
      starts := fun _ => hinit
      masks := h.masks.congr hlibc.masks_eq
      closed := nofun
      flag := by
        show tf (libc.feclearexceptEnabled _) = _
        rw [hlibc.tf_eq, tf_inherit, h.flag]
        simp [hstate, hinit]
      owes := nofun
      init := fun _ => ⟨hnew.sampler ▸ initSampler_state cfg env _, hnew.count, rfl, rfl⟩
      waits := fun hin => absurd (hinit.symm.trans hin) (by decide)
      stepping := fun hin => absurd (hinit.symm.trans hin) (by decide)
      pushed := by
        rw [pending_of_ne _ _ rfl (by simp [hinit])]
        rfl
      missed := by simp }

end Created

/-! ## All threads -/

namespace Crew

variable [DecidableEq ι]

structure Ready (cfg : Config x64) (g : Globals) : Prop where
  sigfpe : (g.sigaction .sigfpe).handler = .sigfpeHandler
  sigtrap : (g.sigaction .sigtrap).handler = .sigtrapHandler
  inited : g.inited = true
  aborted : g.aborted = false
  round : x64.IsRoundConfig g.origRoundConfig

structure Holds (cfg : Config x64) (P : Program) (a : Alone ι) (s : Crew ι) : Prop where
  ready : Ready cfg s.process.globals
  kicks : ∀ t ∈ s.kicks, s.live t = true
  turns : ∀ k ∈ s.turns, s.live k.thread = true
  member : ∀ t, s.live t = true → ∃ mc, Member cfg (s.process.thread t) (s.due t) (s.shut t)
    (decide (t ∈ s.kicks)) (s.mine t) mc
  commits : s.turns.map (fun k => (k.thread, k.commit)) = a.native P s.schedule
  visible : ∀ t, s.live t = true → (s.cpu t).visible = ((a.after P s.schedule).cpu t).visible

variable {cfg : Config x64} {libc : Libc x64} {P : Program} {a : Alone ι} {s s' : Crew ι} {t : ι}
  {f : Flow x64} {e : ThreadEvent} {env : Env}

/-- A thread whose kick is not pending. -/
theorem Holds.member_of_notMem (h : Holds cfg P a s) (ht : s.live t = true) (hkick : t ∉ s.kicks) :
    ∃ mc, Member cfg (s.process.thread t) (s.due t) (s.shut t) false (s.mine t) mc := by
  simpa [hkick] using h.member t ht

/-- A handler runs in thread `t`; the other threads do not notice. -/
theorem Holds.handle (h : Holds cfg P a s) (hround : cfg.controlRoundConfig = false)
    (ht : s.live t = true) {due shut : Bool} {ks : List ι}
    (hstep : (s.process.flow t).step cfg e = some f)
    (halive : f.aborted = s.process.globals.aborted)
    (hmember : ∃ mc, Member cfg f.toThread due shut (decide (t ∈ ks)) (s.mine t) mc)
    (hks : ∀ u, u ≠ t → (u ∈ ks ↔ u ∈ s.kicks)) :
    Holds cfg P a { s.handle t due shut f with kicks := ks } := by
  obtain ⟨mc, hm⟩ := h.member t ht
  obtain ⟨-, hvisible⟩ := visible_step hround hstep hm.masks
  have hcode : f.code = s.process.globals.code := code_step hstep hm.mc_eq
  have hready := h.ready
  have hkept := (Flow.step_effect hstep hm.mc_eq).kept hready.inited hready.aborted hready.round
  have halive := halive.trans hready.aborted
  have hsig := hkept.sigaction halive
  refine ⟨⟨?_, ?_, hkept.inited, halive, hkept.round⟩, fun u hu => ?_, h.turns, fun u hlive => ?_,
    h.commits, fun u hlive => ?_⟩
  · exact hsig.symm ▸ hready.sigfpe
  · exact hsig.symm ▸ hready.sigtrap
  · by_cases hut : u = t
    · exact hut ▸ ht
    · exact h.kicks u ((hks u hut).mp hu)
  · by_cases hu : u = t
    · subst hu
      simpa [Crew.handle, Process.put, mine] using hmember
    · have hdecide : decide (u ∈ ks) = decide (u ∈ s.kicks) := decide_eq_decide.mpr (hks u hu)
      simpa [Crew.handle, Process.put, mine, hu, hdecide] using h.member u hlive
  · refine Eq.trans ?_ (h.visible u hlive)
    by_cases hu : u = t
    · subst hu
      simp [Cpu.visible, Crew.cpu, Crew.handle, Process.put, hvisible, hcode, Process.flow]
    · simp [Cpu.visible, Crew.cpu, Crew.handle, Process.put, hu, hcode]

/-- The next instruction of thread `t` commits. It may write to memory that the others read. -/
theorem Holds.commit (h : Holds cfg P a s) (ht : s.live t = true) (hkick : t ∉ s.kicks)
    (hdue : s.due t = false) (hquiet : P.raises (s.cpu t) &&& unmasked (s.cpu t).uc = 0) :
    Holds cfg P a (s.commit P t) := by
  obtain ⟨mc, hm⟩ := h.member_of_notMem ht hkick
  rw [hdue] at hm
  have hcommit := hm.commit (k := s.nextTurn P t) hquiet rfl (by simp [nextTurn, state, hm.mc_eq])
    (fun hw => by simpa [nextTurn, watches, hm.mc_eq] using hw)
  have hready := h.ready
  refine ⟨⟨hready.sigfpe, hready.sigtrap, hready.inited, hready.aborted, hready.round⟩, h.kicks,
    fun k hk => ?_, fun u hlive => ?_, ?_, fun u hlive => ?_⟩
  · rcases List.mem_append.mp hk with hk | hk
    · exact h.turns k hk
    · obtain rfl := List.mem_singleton.mp hk
      exact ht
  · show ∃ mc, Member cfg _ _ _ (decide (u ∈ s.kicks)) _ mc
    by_cases hu : u = t
    · subst hu
      refine ⟨mc, ?_⟩
      simpa [Crew.commit, Process.put, Process.flow, mine, nextTurn, Crew.cpu, hkick] using hcommit
    · simpa [Crew.commit, Process.put, mine, hu, nextTurn, Ne.symm hu] using h.member u hlive
  · have hcommits := h.commits
    simp only [Crew.commit, Alone.native_concat, ← hcommits, Alone.commits, List.map_append,
      ← P.entry_congr (h.visible t ht)]
    rfl
  · show ((s.commit P t).cpu u).visible = ((a.after P (s.schedule ++ [.turn t])).cpu u).visible
    rw [Alone.after_concat]
    have hnext := P.visible_commit_congr (h.visible t ht)
    have hmem := congrArg Cpu.mem hnext
    by_cases hu : u = t
    · subst hu
      simpa [Crew.commit, Crew.cpu, Process.put, Alone.move, Alone.turn, Alone.cpu] using hnext
    · have huc := congrArg Cpu.uc (h.visible u hlive)
      simp [Crew.commit, Crew.cpu, Process.put, Alone.move, Alone.turn, Alone.cpu, hu, Cpu.visible]
        at hmem huc ⊢
      exact ⟨huc, hmem⟩

/-- A thread is created. -/
theorem Holds.create (h : Holds cfg P a s) (hlibc : ClearsFlags libc) {u : ι}
    (ht : s.live t = true) (hkick : t ∉ s.kicks) (hu : s.live u = false)
    (hstate : s.state t ≠ some .awaitTrap) {tid : Nat}
    (hup : (bringupMonitoringContext cfg env tid .zero).isSome = true)
    (gregs : Greg → BitVec 64) : Holds cfg P a (s.create cfg libc t u tid gregs env) := by
  obtain ⟨mc, hm⟩ := h.member_of_notMem ht hkick
  obtain ⟨mc', hmc'⟩ := Option.isSome_iff_exists.mp hup
  have hready := h.ready
  have hne : mc.state ≠ .awaitTrap := by simpa [state, hm.mc_eq] using hstate
  have hborn := hm.newborn hne hlibc hmc' gregs
  have hnone : s.turns.filter (fun k => k.thread = u) = [] := by
    simp only [List.filter_eq_nil_iff, decide_eq_true_eq]
    rintro k hk rfl
    exact absurd ((h.turns k hk).symm.trans hu) (by decide)
  have hother : ∀ {v}, s.live v = true → v ≠ u := by
    rintro v hv rfl
    exact absurd (hv.symm.trans hu) (by decide)
  simp only [Crew.create, hready.aborted, hmc', Bool.false_eq_true, if_false, Option.isSome_some,
    if_true]
  refine ⟨⟨hready.sigfpe, hready.sigtrap, hready.inited, rfl, hready.round⟩,
    fun v hv => ?_, fun k hk => ?_, fun v hlive => ?_, ?_, fun v hlive => ?_⟩
  · rcases List.mem_append.mp hv with hv | hv
    · simp [h.kicks v hv, Function.update_apply]
    · simp [List.mem_singleton.mp hv]
  · simp [h.turns k hk, Function.update_apply]
  · by_cases hvu : v = u
    · subst hvu
      refine ⟨mc', ?_⟩
      simpa [mine, Crew.cpu, hnone] using hborn
    · have hlive : s.live v = true := by simpa [hvu] using hlive
      simpa [mine, hvu] using h.member v hlive
  · rw [Alone.native_concat, Alone.commits, List.append_nil]
    exact h.commits
  · rw [Alone.after_concat]
    have hcreator := h.visible t ht
    by_cases hvu : v = u
    · subst hvu
      have huc := visible_inherit_congr gregs (congrArg Cpu.uc hcreator)
      have hmem := congrArg Cpu.mem hcreator
      simpa [Crew.cpu, Alone.move, Alone.create, Alone.cpu, Cpu.visible, hlibc.visible_eq,
        Thread.start] using And.intro huc hmem
    · have hlive : s.live v = true := by simpa [hvu] using hlive
      simpa [Crew.cpu, Alone.move, Alone.create, Alone.cpu, Cpu.visible, hvu] using
        h.visible v hlive

/-- One prompt step keeps it. -/
theorem Holds.step (h : Holds cfg P a s) (hlibc : ClearsFlags libc)
    (hround : cfg.controlRoundConfig = false) {e : CrewEvent ι} (hprompt : s.Prompt cfg e)
    (hstep : s.step cfg libc P e = some s') : Holds cfg P a s' := by
  cases e with
  | sigtrap t env =>
    obtain ⟨hinit, hown⟩ := hprompt
    obtain ⟨ht, hstep⟩ := Option.ite_none_right_eq_some.mp hstep
    obtain ⟨mc, hm⟩ := h.member t ht
    obtain ⟨f, hf, rfl⟩ := Option.map_eq_some_iff.mp hstep
    have hstate : mc.state = .init := by simpa [state, hm.mc_eq] using hinit
    obtain ⟨halive, hmember⟩ := Member.kick (f := s.process.flow t) hm hround hstate hf
    refine h.handle hround ht hf halive (by simpa using hmember) fun u hu => ?_
    exact iff_of_false List.not_mem_nil fun hmem => hu (hown u hmem)
  | expiry t env =>
    obtain ⟨ht, hstep⟩ := Option.ite_none_right_eq_some.mp hstep
    obtain ⟨mc, hm⟩ := h.member t ht
    obtain ⟨f, hf, rfl⟩ := Option.map_eq_some_iff.mp hstep
    have hstate : s.state t = some mc.state := by simp [state, hm.mc_eq]
    rw [hstate]
    obtain ⟨halive, hmember⟩ := Member.expire (f := s.process.flow t) hm hround hf
    exact h.handle hround ht hf halive hmember fun _ _ => Iff.rfl
  | cpu t env siCode =>
    have hkick : t ∉ s.kicks := hprompt
    obtain ⟨ht, hstep⟩ := Option.ite_none_right_eq_some.mp hstep
    obtain ⟨mc, hm⟩ := h.member_of_notMem ht hkick
    split_ifs at hstep with hdue htrap
    · obtain ⟨f, hf, rfl⟩ := Option.map_eq_some_iff.mp hstep
      rw [hdue] at hm
      obtain ⟨halive, hmember⟩ := Member.land (f := s.process.flow t) hm hround h.ready.round hf
      exact h.handle hround ht hf halive (by simpa [hkick] using hmember) fun _ _ => Iff.rfl
    · obtain ⟨f, hf, rfl⟩ := Option.map_eq_some_iff.mp hstep
      rw [Bool.not_eq_true] at hdue
      rw [hdue] at hm
      obtain ⟨halive, hmember⟩ := Member.trap (f := s.process.flow t) hm hround hf
      exact h.handle hround ht hf halive (by simpa [hkick] using hmember) fun _ _ => Iff.rfl
    · obtain rfl := Option.some.inj hstep
      exact h.commit ht hkick (by simpa using hdue) (not_not.mp htrap)
  | create t u tid gregs env =>
    obtain ⟨hkick, hup, -⟩ := hprompt
    obtain ⟨⟨ht, hu, hstate⟩, hstep⟩ := Option.ite_none_right_eq_some.mp hstep
    obtain rfl := Option.some.inj hstep
    exact h.create hlibc ht hkick hu hstate hup gregs

/-- Between the handlers the monitored exceptions of a thread are unmasked exactly while it
watches. -/
theorem Holds.unmasked_eq (h : Holds cfg P a s) (ht : s.live t = true) (hkick : t ∉ s.kicks) :
    unmasked (s.cpu t).uc = if s.watches t then cfg.statics.mxcsrmaskBase else 0 := by
  obtain ⟨mc, hm⟩ := h.member_of_notMem ht hkick
  have hwatches : s.watches t =
      decide (mc.state = .awaitFpe ∧ mc.sampler.state = .on ∧ s.shut t = false) := by
    simp [watches, hm.mc_eq]
  rw [hwatches, show unmasked (s.cpu t).uc = _ from hm.unmasked_eq]
  simp

def alone (p : Process ι x64) : Alone ι := ⟨fun t => (p.thread t).uc, p.globals.code⟩

structure Fresh (cfg : Config x64) (f : Flow x64) : Prop where
  started : ∃ mc, Started cfg mc f
  masks : OnlyMonitored cfg.statics f.uc
  closed : trapsUnmasked cfg.statics f.uc = false
  flag : tf f.uc = false

theorem Holds.missed (h : Holds cfg P a s) {k : Turn ι} (hk : k ∈ s.turns)
    (hwatched : k.watched = true) : k.commit.raised &&& cfg.statics.mxcsrmaskBase = 0 := by
  obtain ⟨mc, hm⟩ := h.member k.thread (h.turns k hk)
  exact hm.missed k (List.mem_filter.mpr ⟨hk, by simp⟩) hwatched

end Crew

end FPSpy.X64
