import FPSpy.Individual.Stepping
import FPSpy.Individual.Watching

/-!
# The records of an emulated run

On arm64 and riscv64 no event is lost between breakpoints. A log kept beside the run says which
native instructions raise a monitored exception, each once and in order, and whether the thread
watched when control came to it: whether it waited in AWAIT_FPE with its sampler on, and not with
traps that the limit had shut. The records are the watched events that the sample period selects,
and each has the address, the stack pointer and the bytes of its instruction as they are in the
original code.

A limit that has been reached shuts the traps at the end of a step, and the next expiry opens them
again, so that a thread with timers goes on to record events.
-/
namespace FPSpy

open X64 (Site siteOfRecord withinLimit recorded)

/-! ## The two platforms -/

structure Steady (B : BrkArch) (M : Masking B.toArch) : Prop where
  monitors_clear : ∀ st uc, M.Monitors st uc → M.Monitors st (B.clearFpExceptions st uc)
  monitors_mask : ∀ st uc, M.Monitors st uc → M.Monitors st (B.maskFpTraps st uc)
  monitors_unmask : ∀ st uc, M.Monitors st uc → M.Monitors st (B.unmaskFpTraps st uc)
  monitors_setRound : ∀ st uc c, M.Monitors st uc → M.Monitors st (B.setRoundConfig st uc c)
  instrBytes_congr : ∀ uc vc code, B.getIp uc = B.getIp vc →
    B.getInstrBytes uc code = B.getInstrBytes vc code

def Platform.masking : (P : Platform) → Masking P.arch.toArch
  | .arm64 => arm64Masking
  | .riscv64 estep => riscv64Masking estep

theorem Platform.steady : ∀ P : Platform, Steady P.arch P.masking
  | .arm64 =>
    { monitors_clear := fun _ _ h => ⟨h.1, Option.isSome_map.trans h.2⟩
      monitors_mask := fun _ _ h => ⟨h.1, Option.isSome_map.trans h.2⟩
      monitors_unmask := fun _ _ h => ⟨h.1, Option.isSome_map.trans h.2⟩
      monitors_setRound := fun _ _ _ h => h
      instrBytes_congr := fun uc vc code (h : uc.pc = vc.pc) => by
        simp only [arch, Arm64.archGetInstrBytes, h] }
  | .riscv64 _ =>
    { monitors_clear := fun _ _ h => h
      monitors_mask := fun _ _ h => h
      monitors_unmask := fun _ _ h => h
      monitors_setRound := fun _ _ _ h => h
      instrBytes_congr := fun uc vc code (h : Riscv64.pc uc = Riscv64.pc vc) => by
        simp only [arch, Riscv64.archGetInstrBytes, h] }

variable {B : BrkArch} {cfg : Config B.toArch} {M : Masking B.toArch}

/-- A target whose exceptions are its own: with all monitored traps unmasked, it is what the program
can see of the state that decides whether an instruction raises one. -/
structure BrkTarget.Telling (T : BrkTarget B cfg) (M : Masking B.toArch) where
  /-- The instruction raises a monitored exception. -/
  excepts : BitVec 32 → T.View × T.Data → Bool
  raises_of_opened : ∀ w c, M.Monitors cfg.statics c.1 → M.Opened cfg.statics c.1 →
    T.raises w c = excepts w (T.seen c)
  exec_opened : ∀ w c, M.Opened cfg.statics c.1 → M.Opened cfg.statics (T.exec w c).1
  exec_monitors : ∀ w c, M.Monitors cfg.statics c.1 → M.Monitors cfg.statics (T.exec w c).1
  view_sp : ∀ uc vc, T.view uc = T.view vc → B.getSp uc = B.getSp vc

namespace BrkTarget

variable (T : BrkTarget B cfg) (code : Mem) (c : T.Cpu)

def nth (n : Nat) : T.Cpu := (T.next code)^[n] c

def site (c : T.Cpu) : Site := ⟨B.getIp c.1, B.getSp c.1, B.getInstrBytes c.1 code⟩

variable {T} (tell : T.Telling M)

/-- The instruction at the program counter raises a monitored exception. -/
def Telling.excepting (c : T.Cpu) : Bool :=
  tell.excepts (code.read32 (B.getIp c.1)) (T.seen c)

def Telling.event (n : Nat) : Bool := tell.excepting code (T.nth code c n)

theorem Telling.excepting_congr {c d : T.Cpu} (h : T.seen c = T.seen d) :
    tell.excepting code c = tell.excepting code d := by
  rw [excepting, excepting, T.ip_congr h, h]

theorem Telling.site_congr (tell : T.Telling M) (hM : Steady B M) {c d : T.Cpu}
    (h : T.seen c = T.seen d) : T.site code c = T.site code d := by
  have hip := T.ip_congr h
  simp only [site, hip, tell.view_sp _ _ (Prod.mk.inj h).1, hM.instrBytes_congr _ _ code hip]

end BrkTarget

/-! ## The handlers -/

section Handlers

variable {mc : MonitoringContext} {f : Flow B.toArch} {env : Env}

theorem Steady.forceRound (hM : Steady B M) (c : BitVec 32) {uc : B.UContext}
    (h : M.Monitors cfg.statics uc) : M.Monitors cfg.statics (forceRound cfg c uc) := by
  unfold FPSpy.forceRound
  split_ifs
  · exact hM.monitors_setRound _ _ _ h
  · exact h

theorem Steady.beginStep (hM : Steady B M) (h : M.Monitors cfg.statics f.uc) :
    M.Monitors cfg.statics (beginStep cfg mc f).uc := by
  simp only [FPSpy.beginStep, B.setTrapMode_eq]
  exact hM.forceRound _ (hM.monitors_mask _ _ (hM.monitors_clear _ _ h))

theorem Steady.brkInit (hM : Steady B M) (h : M.Monitors cfg.statics f.uc) :
    M.Monitors cfg.statics (brkInit cfg mc f).uc := by
  simp only [FPSpy.brkInit, B.resetTrapMode_eq]
  exact hM.forceRound _ (hM.monitors_unmask _ _ (hM.monitors_clear _ _ h))

theorem Steady.updateSampler (hM : Steady B M) (h : M.Monitors cfg.statics f.uc) :
    M.Monitors cfg.statics (updateSampler cfg env mc f).uc := by
  have hclear := hM.monitors_clear _ _ h
  simp only [FPSpy.updateSampler, B.resetTrapMode_eq]
  cases mc.sampler.state
  · exact hM.monitors_unmask _ _ hclear
  · exact hM.monitors_mask _ _ hclear

theorem Steady.brkRearm (hM : Steady B M) (h : M.Monitors cfg.statics f.uc) :
    M.Monitors cfg.statics (brkRearm cfg mc f).uc := by
  have hclear := hM.monitors_clear _ _ h
  simp only [FPSpy.brkRearm, B.resetTrapMode_eq]
  split_ifs
  · exact hM.forceRound _ (hM.monitors_mask _ _ hclear)
  · exact hM.forceRound _ (hM.monitors_unmask _ _ hclear)

theorem Steady.brkAwaitTrap (hM : Steady B M) (h : M.Monitors cfg.statics f.uc) :
    M.Monitors cfg.statics (brkAwaitTrap cfg env mc f).uc := by
  unfold FPSpy.brkAwaitTrap
  dsimp only
  split_ifs
  · exact hM.updateSampler (f := { f with uc := (FPSpy.brkRearm cfg mc f).uc, code := _, mc := _ })
      (hM.brkRearm h)
  · exact hM.brkRearm h

end Handlers

/-! ## The log -/

/-- The target under FPSpy, with the events that control has come to: for each its place in the
native run, and whether FPSpy was watching. `shut` says that the limit keeps the traps masked. -/
structure Logged (T : BrkTarget B cfg) extends Stepped T where
  log : List (Nat × Bool)
  shut : Bool

namespace Logged

variable {T : BrkTarget B cfg} {tell : T.Telling M}

def watching (s : Logged T) : Bool :=
  s.flow.mc.any fun mc => mc.state = .awaitFpe ∧ mc.sampler.state = .on ∧ s.shut = false

def watched (s : Logged T) : List Nat := (s.log.filter (·.2)).map (·.1)

/-- Control comes to an event. One that is being stepped over is already in the log. -/
def comesTo (tell : T.Telling M) (s : Logged T) : SteppedEvent → Bool
  | .cpu _ _ => s.state ≠ some .awaitTrap && tell.excepting s.flow.code s.cpu
  | .kick _ | .expiry _ => false

/-- The end of a step shuts the traps if as many events have been watched as the limit allows; an
expiry in AWAIT_FPE switches the sampler, and it is on that alone that the traps depend then. -/
def shutAfter (s : Logged T) : SteppedEvent → Bool
  | .kick _ => s.shut
  | .expiry _ => s.shut && s.state ≠ some .awaitFpe
  | .cpu _ _ =>
    if s.state = some .awaitTrap ∧ s.fetch = B.brkInstr then
      reachedMaxcount cfg (BitVec.ofNat 64 s.watched.length)
    else s.shut

def step (tell : T.Telling M) (s : Logged T) (e : SteppedEvent) : Option (Logged T) :=
  (s.toStepped.step e).map fun t =>
    ⟨t, s.log ++ if s.comesTo tell e then [(s.commits.length, s.watching)] else [], s.shutAfter e⟩

/-- The target after it has committed the instruction at the program counter. -/
def committed (s : Logged T) : Stepped T :=
  { s.toStepped with
    flow := { s.flow with uc := (T.exec s.fetch s.cpu).1 }
    data := (T.exec s.fetch s.cpu).2
    commits := s.commits ++ [T.entry s.flow.code s.cpu] }

/-- What a step does in a thread whose context is `mc`, one case for each kind. -/
inductive LogStep (tell : T.Telling M) (mc : MonitoringContext) (s : Logged T) :
    SteppedEvent → Logged T → Prop where
  | kick {env} (hstate : mc.state = .init) :
      LogStep tell mc s (.kick env)
        ⟨{ s.toStepped with flow := brkInit cfg mc s.flow }, s.log, s.shut⟩
  | delay {env} (htimers : cfg.timers = true) (hstate : mc.state ≠ .awaitFpe) :
      LogStep tell mc s (.expiry env) ⟨{ s.toStepped with
        flow := { s.flow with
          mc := some { mc with sampler := { mc.sampler with delayedProcessing := true } } } },
        s.log, s.shut⟩
  | flip {env} (htimers : cfg.timers = true) (hstate : mc.state = .awaitFpe) :
      LogStep tell mc s (.expiry env)
        ⟨{ s.toStepped with flow := updateSampler cfg env mc s.flow }, s.log, false⟩
  | trap {env siCode} (buffer written) (hstate : mc.state = .awaitFpe)
      (hraises : T.raises s.fetch s.cpu = true) (hopen : s.flow.trapsUnmasked cfg = true) :
      LogStep tell mc s (.cpu env siCode) ⟨{ s.toStepped with
        flow := beginStep cfg { mc with traceRecords := buffer }
          (s.flow.sampled cfg env siCode mc written)
        trapped := s.flow.ip },
        s.log ++ if tell.excepting s.flow.code s.cpu then [(s.commits.length, s.watching)] else [],
        s.shut⟩
  | land {env siCode} (hstate : mc.state = .awaitTrap) (hbrk : s.fetch = B.brkInstr) :
      LogStep tell mc s (.cpu env siCode)
        ⟨{ s.toStepped with flow := brkAwaitTrap cfg env mc s.flow }, s.log,
          reachedMaxcount cfg (BitVec.ofNat 64 s.watched.length)⟩
  | stepOver {env siCode} (hstate : mc.state = .awaitTrap) (hne : s.fetch ≠ B.brkInstr) :
      LogStep tell mc s (.cpu env siCode) ⟨s.committed, s.log, s.shut⟩
  | pass {env siCode} (hstate : mc.state ≠ .awaitTrap)
      (hraises : T.raises s.fetch s.cpu = false) :
      LogStep tell mc s (.cpu env siCode) ⟨s.committed,
        s.log ++ if tell.excepting s.flow.code s.cpu then [(s.commits.length, s.watching)] else [],
        s.shut⟩

theorem logStep_of_step {mc : MonitoringContext} {s t : Logged T} {e : SteppedEvent}
    (hmc : s.flow.mc = some mc) (hstep : s.step tell e = some t) : LogStep tell mc s e t := by
  obtain ⟨u, hu, rfl⟩ := Option.map_eq_some_iff.mp hstep
  have hstate : s.state = some mc.state := by rw [Stepped.state, hmc, Option.map_some]
  cases e with
  | kick env =>
    rw [comesTo, if_neg (by decide), List.append_nil, shutAfter]
    simp only [Stepped.step, hstate] at hu
    split_ifs at hu with hinit
    obtain ⟨f, hf, rfl⟩ := Option.map_eq_some_iff.mp hu
    have hin : mc.state = .init := Option.some.inj hinit
    cases Flow.step_effect hf hmc with
    | kick => exact .kick hin
    | aborted hs | endStep hs | surpriseTrap hs => exact absurd (hin.symm.trans hs) (by decide)
  | expiry env =>
    rw [comesTo, if_neg (by decide), List.append_nil, shutAfter, hstate]
    obtain ⟨f, hf, rfl⟩ := Option.map_eq_some_iff.mp hu
    have htimers : cfg.timers = true := (Option.ite_none_right_eq_some.mp hf).1.1
    cases Flow.step_effect hf hmc with
    | delay hs =>
      have hshut : (s.shut && some mc.state ≠ some MonitorState.awaitFpe) = s.shut := by simp [hs]
      rw [hshut]
      exact .delay htimers hs
    | flip hs =>
      have hshut : (s.shut && some mc.state ≠ some MonitorState.awaitFpe) = false := by simp [hs]
      rw [hshut]
      exact .flip htimers hs
  | cpu env siCode =>
    simp only [Stepped.step, hstate] at hu
    rw [shutAfter, hstate]
    split_ifs at hu with hraises hfpe hbrk htrap
    · obtain ⟨f, hf, rfl⟩ := Option.map_eq_some_iff.mp hu
      have hin : mc.state = .awaitFpe := Option.some.inj hfpe
      have hcomes : s.comesTo tell (.cpu env siCode) = tell.excepting s.flow.code s.cpu := by
        simp [comesTo, hstate, hin]
      have hout : ¬ (some mc.state = some MonitorState.awaitTrap ∧ s.fetch = B.brkInstr) := by
        simp [hin]
      rw [hcomes, if_neg hout]
      cases Flow.step_effect hf hmc with
      | beginStep buffer written _ hopen => exact .trap buffer written hin hraises hopen
      | surpriseFpe _ _ hne => exact absurd hin hne
    · obtain ⟨f, hf, rfl⟩ := Option.map_eq_some_iff.mp hu
      have hin : mc.state = .awaitTrap := Option.some.inj htrap
      have hcomes : s.comesTo tell (.cpu env siCode) = false := by simp [comesTo, hstate, hin]
      rw [hcomes, if_neg (by decide), List.append_nil, if_pos ⟨htrap, hbrk⟩]
      cases Flow.step_effect hf hmc with
      | endStep => exact .land hin hbrk
      | aborted hs | kick hs | surpriseTrap hs => exact absurd (hin.symm.trans hs) (by decide)
    · obtain rfl := Option.some.inj hu
      have hout : ¬ (some mc.state = some MonitorState.awaitTrap ∧ s.fetch = B.brkInstr) :=
        fun hin => hbrk hin.2
      rw [if_neg hout]
      by_cases hin : mc.state = .awaitTrap
      · have hcomes : s.comesTo tell (.cpu env siCode) = false := by simp [comesTo, hstate, hin]
        rw [hcomes, if_neg (by decide), List.append_nil]
        exact .stepOver hin hbrk
      · have hcomes : s.comesTo tell (.cpu env siCode) = tell.excepting s.flow.code s.cpu := by
          simp [comesTo, hstate, hin]
        rw [hcomes]
        exact .pass hin (by simpa using hraises)

/-! ## The invariant -/

/-- An instruction of the target leaves the traps alone. -/
theorem waits_exec (tell : T.Telling M) {mc : MonitoringContext} {shut : Bool} (w : BitVec 32)
    {c : T.Cpu} (h : Waits cfg M mc shut c.1) : Waits cfg M mc shut (T.exec w c).1 :=
  h.congr (tell.exec_opened w c) (T.exec_enables w c)

/-- The events that are in the log: those of the committed instructions, and the one that is being
stepped over. -/
def reached (s : Logged T) : Nat :=
  if s.state = some .awaitTrap ∧ s.flow.ip = s.trapped then s.commits.length + 1
  else s.commits.length

structure Tells (tell : T.Telling M) (orig : Mem) (c₀ : T.Cpu) (mc : MonitoringContext)
    (s : Logged T) : Prop where
  follows : Stepped.Follows orig c₀ mc s.toStepped
  monitors : M.Monitors cfg.statics s.flow.uc
  round : B.IsRoundConfig s.flow.origRoundConfig
  init : mc.state = .init → mc.sampler.state = .on ∧ s.watched = [] ∧ mc.count = 0 ∧ s.shut = false
  waits : mc.state = .awaitFpe →
    Waits cfg M mc s.shut s.flow.uc ∧ mc.count = BitVec.ofNat 64 s.watched.length
  stepping : mc.state = .awaitTrap → mc.sampler.state = .on ∧
    ∃ i, s.watched.length = i + 1 ∧ mc.count = BitVec.ofNat 64 i
  log : s.log.map Prod.fst = (List.range s.reached).filter (tell.event orig c₀)
  pushed : s.flow.pushed.map siteOfRecord =
    (pick (fun i => cfg.records (BitVec.ofNat 64 i)) s.watched).map
      fun i => T.site orig (T.nth orig c₀ i)

/-! ## The steps -/

variable {orig : Mem} {c₀ : T.Cpu} {mc mc' : MonitoringContext} {s : Logged T} {f : Flow B.toArch}
  {env : Env}

theorem reached_of_ne (h : s.state ≠ some .awaitTrap) : s.reached = s.commits.length :=
  if_neg fun hin => h hin.1

/-- The kick of INIT: nothing is in the log under watch. -/
theorem Tells.kick (h : Tells tell orig c₀ mc s) (hM : Steady B M) (hinit : mc.state = .init)
    (hfollows : Stepped.Follows orig c₀ mc' { s.toStepped with flow := brkInit cfg mc s.flow }) :
    Tells tell orig c₀ mc'
      ⟨{ s.toStepped with flow := brkInit cfg mc s.flow }, s.log, s.shut⟩ := by
  obtain ⟨hon, hnone, hcount, hopen⟩ := h.init hinit
  obtain ⟨mc'', hmc'', hstate, hcount', hwaits⟩ := waits_brkInit (M := M) hon s.flow
  obtain rfl := Option.some.inj (hmc''.symm.trans hfollows.mc_eq)
  have hempty : watched ⟨{ s.toStepped with flow := brkInit cfg mc s.flow }, s.log, s.shut⟩ = [] :=
    hnone
  exact
    { follows := hfollows
      monitors := hM.brkInit h.monitors
      round := B.isRoundConfig_get _ _
      init := fun hin => absurd (hstate.symm.trans hin) (by decide)
      waits := fun _ => by
        rw [hempty, hopen, hcount', hcount]
        exact ⟨hwaits, rfl⟩
      stepping := fun hin => absurd (hstate.symm.trans hin) (by decide)
      log := by
        rw [reached_of_ne (by simp [Stepped.state, hmc'', hstate])]
        rw [← reached_of_ne (s := s) (by simp [Stepped.state, h.follows.mc_eq, hinit])]
        exact h.log
      pushed := h.pushed }

theorem watched_concat (s : Logged T) (t : Stepped T) (n : Nat) (b shut : Bool) :
    watched ⟨t, s.log ++ [(n, b)], shut⟩ = s.watched ++ if b then [n] else [] := by
  cases b <;> simp [watched]

/-- Outside of the window control is at the native instruction. -/
theorem Tells.excepting_eq (h : Tells tell orig c₀ mc s) (hstate : mc.state ≠ .awaitTrap) :
    tell.excepting s.flow.code s.cpu = tell.event orig c₀ s.commits.length := by
  rw [(h.follows.outside hstate).1]
  exact tell.excepting_congr orig h.follows.seen

/-- A watched event: it is recorded if it is sampled, and the step over it begins. -/
theorem Tells.trap {siCode : BitVec 32} (h : Tells tell orig c₀ mc s) (hM : Steady B M)
    (hstate : mc.state = .awaitFpe) (hraises : T.raises s.fetch s.cpu = true)
    {buffer written : List TraceRecord} (hopen : s.flow.trapsUnmasked cfg = true)
    (hfollows : Stepped.Follows orig c₀ mc' { s.toStepped with
      flow := beginStep cfg { mc with traceRecords := buffer }
        (s.flow.sampled cfg env siCode mc written)
      trapped := s.flow.ip }) :
    tell.excepting s.flow.code s.cpu = true ∧ s.watching = true ∧
      Tells tell orig c₀ mc' ⟨{ s.toStepped with
        flow := beginStep cfg { mc with traceRecords := buffer }
          (s.flow.sampled cfg env siCode mc written)
        trapped := s.flow.ip }, s.log ++ [(s.commits.length, true)], s.shut⟩ := by
  obtain ⟨hwaits, hcount⟩ := h.waits hstate
  obtain ⟨hon, hshut⟩ := hwaits.on hopen
  have hexcepts : tell.excepting s.flow.code s.cpu = true :=
    (tell.raises_of_opened _ _ h.monitors (hwaits.opened hon hshut)).symm.trans hraises
  have hne : mc.state ≠ .awaitTrap := by simp [hstate]
  have hevent : tell.event orig c₀ s.commits.length = true :=
    (h.excepting_eq hne).symm.trans hexcepts
  have hcode := (h.follows.outside hne).1
  obtain rfl := Option.some.inj hfollows.mc_eq
  have hold : s.reached = s.commits.length := reached_of_ne (by
    rw [Stepped.state, h.follows.mc_eq, Option.map_some, hstate]
    decide)
  have hsite : siteOfRecord (eventRecord cfg env siCode mc s.flow) =
      T.site orig (T.nth orig c₀ s.commits.length) := by
    refine Eq.trans ?_ (tell.site_congr orig hM h.follows.seen)
    rw [← hcode]
    rfl
  refine ⟨hexcepts, by simp [watching, h.follows.mc_eq, hstate, hon, hshut], ?_⟩
  exact
    { follows := hfollows
      monitors := hM.beginStep h.monitors
      round := h.round
      init := by rintro ⟨⟩
      waits := by rintro ⟨⟩
      stepping := fun _ => by
        refine ⟨hon, s.watched.length, ?_, hcount⟩
        rw [watched_concat, if_pos rfl, List.length_append, List.length_singleton]
      log := by
        have hlog := h.log
        rw [hold] at hlog
        have hin : ({ s.toStepped with
            flow := beginStep cfg { mc with traceRecords := buffer }
              (s.flow.sampled cfg env siCode mc written)
            trapped := s.flow.ip } : Stepped T).flow.ip = s.flow.ip :=
          (patched_beginStep cfg _ _).2.2
        rw [reached, if_pos ⟨rfl, hin⟩, List.range_succ, List.filter_append, List.map_append, hlog]
        simp [hevent]
      pushed := by
        have hpush := h.pushed
        rw [watched_concat, if_pos rfl, pick_concat, List.map_append]
        simp only [beginStep, Flow.sampled, hcount, List.map_append]
        refine congrArg₂ (· ++ ·) hpush ?_
        cases cfg.records (BitVec.ofNat 64 s.watched.length) <;> simp [hsite] }

/-- The breakpoint behind an event: FPSpy waits again. -/
theorem Tells.land (h : Tells tell orig c₀ mc s) (hM : Steady B M)
    (hstate : mc.state = .awaitTrap) (hbrk : s.fetch = B.brkInstr)
    (hfollows : Stepped.Follows orig c₀ mc'
      { s.toStepped with flow := brkAwaitTrap cfg env mc s.flow }) :
    Tells tell orig c₀ mc' ⟨{ s.toStepped with flow := brkAwaitTrap cfg env mc s.flow }, s.log,
      reachedMaxcount cfg (BitVec.ofNat 64 s.watched.length)⟩ := by
  obtain ⟨hon, i, hlen, hcount⟩ := h.stepping hstate
  obtain ⟨mc'', hended, hwaits⟩ := waits_brkAwaitTrap (M := M) h.round hon env
  obtain rfl := Option.some.inj (hended.mc_eq.symm.trans hfollows.mc_eq)
  have hnext : mc.count + 1 = BitVec.ofNat 64 s.watched.length := by
    rw [hcount, hlen, BitVec.ofNat_add]
    rfl
  rw [hnext] at hwaits
  have hpast : s.flow.ip ≠ s.trapped := by
    intro hip
    rcases h.follows.window hstate with hnext | ⟨-, hne, -⟩
    · rw [hip] at hnext
      exact absurd hnext (by simp)
    · rw [Stepped.fetch, (h.follows.inside hstate).1, hip, Stepped.read32_set_next] at hbrk
      exact hne hbrk
  exact
    { follows := hfollows
      monitors := hM.brkAwaitTrap h.monitors
      round := hended.origRoundConfig.symm ▸ h.round
      init := fun hin => absurd (hended.state.symm.trans hin) (by decide)
      waits := fun _ => ⟨hwaits, hended.count.trans hnext⟩
      stepping := fun hin => absurd (hended.state.symm.trans hin) (by decide)
      log := by
        have hlog := h.log
        rw [reached, if_neg fun hin => hpast hin.2] at hlog
        rw [reached_of_ne (by simp [Stepped.state, hended.mc_eq, hended.state])]
        exact hlog
      pushed := by
        rw [hended.pushed]
        exact h.pushed }

/-- An expiry during a step or before the kick is only noted. -/
theorem Tells.delay (h : Tells tell orig c₀ mc s) (hstate : mc.state ≠ .awaitFpe)
    (hfollows : Stepped.Follows orig c₀ mc' { s.toStepped with
      flow := { s.flow with
        mc := some { mc with sampler := { mc.sampler with delayedProcessing := true } } } }) :
    Tells tell orig c₀ mc' ⟨{ s.toStepped with
      flow := { s.flow with
        mc := some { mc with sampler := { mc.sampler with delayedProcessing := true } } } },
      s.log, s.shut⟩ := by
  obtain rfl := Option.some.inj hfollows.mc_eq
  have hreached : reached ⟨{ s.toStepped with
      flow := { s.flow with
        mc := some { mc with sampler := { mc.sampler with delayedProcessing := true } } } },
      s.log, s.shut⟩ = s.reached := by
    simp only [reached, Stepped.state, h.follows.mc_eq]
    rfl
  exact
    { follows := hfollows
      monitors := h.monitors
      round := h.round
      init := h.init
      waits := fun hin => absurd hin hstate
      stepping := h.stepping
      log := by rw [hreached]; exact h.log
      pushed := h.pushed }

/-- An expiry in AWAIT_FPE switches the sampler and the masks. -/
theorem Tells.flip (h : Tells tell orig c₀ mc s) (hM : Steady B M) (hstate : mc.state = .awaitFpe)
    (hfollows : Stepped.Follows orig c₀ mc'
      { s.toStepped with flow := updateSampler cfg env mc s.flow }) :
    Tells tell orig c₀ mc' ⟨{ s.toStepped with flow := updateSampler cfg env mc s.flow },
      s.log, false⟩ := by
  obtain ⟨mc'', hmc'', hsame, hcount, hwaits⟩ := waits_updateSampler (M := M) env mc s.flow
  obtain rfl := Option.some.inj (hmc''.symm.trans hfollows.mc_eq)
  have hawait : mc''.state = .awaitFpe := hsame.trans hstate
  exact
    { follows := hfollows
      monitors := hM.updateSampler h.monitors
      round := h.round
      init := fun hin => absurd (hawait.symm.trans hin) (by decide)
      waits := fun _ => ⟨hwaits, hcount.trans (h.waits hstate).2⟩
      stepping := fun hin => absurd (hawait.symm.trans hin) (by decide)
      log := by
        rw [reached_of_ne (by simp [Stepped.state, hmc'', hawait])]
        rw [← reached_of_ne (s := s) (by simp [Stepped.state, h.follows.mc_eq, hstate])]
        exact h.log
      pushed := h.pushed }

/-- With open masks an event traps. -/
theorem Tells.not_watching (h : Tells tell orig c₀ mc s) (hraises : T.raises s.fetch s.cpu = false)
    (hexcepts : tell.excepting s.flow.code s.cpu = true) : s.watching = false := by
  by_contra hwatching
  obtain ⟨hawait, hon, hshut⟩ :
      mc.state = .awaitFpe ∧ mc.sampler.state = .on ∧ s.shut = false := by
    simpa [watching, h.follows.mc_eq] using hwatching
  have hopened := (h.waits hawait).1.opened hon hshut
  rw [tell.raises_of_opened _ _ h.monitors hopened] at hraises
  exact absurd (hexcepts.symm.trans hraises) (by decide)

/-- Control comes to an instruction outside of the window, and it commits: an event among these
goes by unwatched. -/
theorem Tells.pass (h : Tells tell orig c₀ mc s) (hstate : mc.state ≠ .awaitTrap)
    (hraises : T.raises s.fetch s.cpu = false)
    (hfollows : Stepped.Follows orig c₀ mc s.committed) :
    Tells tell orig c₀ mc ⟨s.committed, s.log ++
      if tell.excepting s.flow.code s.cpu then [(s.commits.length, s.watching)] else [],
      s.shut⟩ := by
  have hold : s.reached = s.commits.length := reached_of_ne (by
    rw [h.follows.state_eq]
    simpa using hstate)
  have hnew : ∀ log, reached ⟨s.committed, log, s.shut⟩ = s.commits.length + 1 := by
    intro log
    rw [reached_of_ne (by rw [hfollows.state_eq]; simpa using hstate)]
    simp [committed]
  have hlog := h.log
  rw [hold] at hlog
  have hsame : watched ⟨s.committed, s.log ++
      if tell.excepting s.flow.code s.cpu then [(s.commits.length, s.watching)] else [],
      s.shut⟩ = s.watched := by
    cases hexcepts : tell.excepting s.flow.code s.cpu with
    | false => simp [watched]
    | true => simp [watched_concat, h.not_watching hraises hexcepts]
  exact
    { follows := hfollows
      monitors := tell.exec_monitors _ _ h.monitors
      round := h.round
      init := by
        rw [hsame]
        exact h.init
      waits := fun hin => by
        rw [hsame]
        exact ⟨waits_exec tell _ (h.waits hin).1, (h.waits hin).2⟩
      stepping := fun hin => absurd hin hstate
      log := by
        rw [hnew, List.range_succ, List.filter_append, List.map_append, hlog,
          h.excepting_eq hstate]
        cases hevent : tell.event orig c₀ s.commits.length <;> simp [hevent]
      pushed := by
        rw [hsame]
        exact h.pushed }

/-- The trapped instruction commits, and control is at the breakpoint behind it. -/
theorem Tells.stepOver (h : Tells tell orig c₀ mc s) (hstate : mc.state = .awaitTrap)
    (hne : s.fetch ≠ B.brkInstr) (hfollows : Stepped.Follows orig c₀ mc s.committed) :
    Tells tell orig c₀ mc ⟨s.committed, s.log, s.shut⟩ := by
  have hip : s.flow.ip = s.trapped := (h.follows.fetch_eq hne).2 hstate
  have hlen : s.committed.commits.length = s.commits.length + 1 := by simp [committed]
  have hpast : s.committed.flow.ip ≠ s.committed.trapped := by
    intro hback
    rcases h.follows.window hstate with hnext | ⟨-, hlong, hthrough⟩
    · rw [hip] at hnext
      exact absurd hnext (by simp)
    · have hfetch : s.fetch = orig.read32 s.trapped := by
        rw [(h.follows.fetch_eq hne).1, hip]
      rw [← hfetch] at hthrough
      exact absurd (hthrough.symm.trans hback) (by simp [committed])
  have hlog := h.log
  rw [reached, if_pos ⟨by rw [h.follows.state_eq, hstate], hip⟩] at hlog
  exact
    { follows := hfollows
      monitors := tell.exec_monitors _ _ h.monitors
      round := h.round
      init := fun hin => absurd (hstate.symm.trans hin) (by decide)
      waits := fun hin => absurd (hstate.symm.trans hin) (by decide)
      stepping := h.stepping
      log := by
        rw [reached, if_neg fun hin => hpast hin.2, hlen]
        exact hlog
      pushed := h.pushed }

/-- One step keeps the invariant. -/
theorem Tells.step (h : Tells tell orig c₀ mc s) (hM : Steady B M) {e : SteppedEvent}
    {t : Logged T} (hstep : s.step tell e = some t) : ∃ mc', Tells tell orig c₀ mc' t := by
  obtain ⟨u, hu, heq⟩ := Option.map_eq_some_iff.mp hstep
  obtain ⟨mc', hfollows⟩ := h.follows.step hu
  rw [show u = t.toStepped from congrArg Logged.toStepped heq] at hfollows
  refine ⟨mc', ?_⟩
  cases logStep_of_step h.follows.mc_eq hstep with
  | kick hstate => exact h.kick hM hstate hfollows
  | delay htimers hstate => exact h.delay hstate hfollows
  | flip htimers hstate => exact h.flip hM hstate hfollows
  | trap buffer written hstate hraises hopen =>
    obtain ⟨hexcepts, hwatching, htells⟩ := h.trap hM hstate hraises hopen hfollows
    rw [hexcepts, if_pos rfl, hwatching]
    exact htells
  | land hstate hbrk => exact h.land hM hstate hbrk hfollows
  | stepOver hstate hne =>
    obtain rfl := Option.some.inj (h.follows.mc_eq.symm.trans hfollows.mc_eq)
    exact h.stepOver hstate hne hfollows
  | pass hstate hraises =>
    obtain rfl := Option.some.inj (h.follows.mc_eq.symm.trans hfollows.mc_eq)
    exact h.pass hstate hraises hfollows

def load (f : Flow B.toArch) (d : T.Data) : Logged T := ⟨Stepped.load f d, [], false⟩

theorem tells_load (h : Started cfg mc f) (hmon : M.Monitors cfg.statics f.uc) (d : T.Data) :
    Tells tell f.code (f.uc, d) mc (load f d) where
  follows := Stepped.follows_load h d
  monitors := hmon
  round := h.round
  init _ := ⟨h.sampler, rfl, h.count, rfl⟩
  waits hin := absurd (h.state.symm.trans hin) (by decide)
  stepping hin := absurd (h.state.symm.trans hin) (by decide)
  log := by
    rw [reached_of_ne (by simp [Stepped.state, load, Stepped.load, h.mc_eq, h.state])]
    rfl
  pushed := by
    show f.pushed.map siteOfRecord = _
    rw [h.pushed]
    rfl

/-- The sampler stays on: after the kick every event is watched, until the limit shuts the traps
for good. -/
structure Watchful (mc : MonitoringContext) (s : Logged T) : Prop where
  mc_eq : s.flow.mc = some mc
  kicked : mc.state = .awaitFpe ∨ mc.state = .awaitTrap
  on : mc.sampler.state = .on
  undelayed : mc.sampler.delayedProcessing = false
  shut : mc.state = .awaitFpe → s.shut = !withinLimit cfg.maxcount s.log.length
  stepping : mc.state = .awaitTrap → ∃ i, s.log.length = i + 1 ∧ s.watched.length = i + 1 ∧
    withinLimit cfg.maxcount i = true
  all : withinLimit cfg.maxcount s.log.length = true → s.watched.length = s.log.length
  picked : pick (recorded cfg.maxcount cfg.samplePeriod) (s.log.map Prod.fst) =
    pick (fun i => cfg.records (BitVec.ofNat 64 i)) s.watched

theorem Watchful.watching_eq (h : Watchful mc s) (hstate : mc.state = .awaitFpe) :
    s.watching = withinLimit cfg.maxcount s.log.length := by
  simp [watching, h.mc_eq, hstate, h.on, h.shut hstate]

/-- An event inside the limit. -/
theorem Watchful.trap (h : Watchful mc s) (hcfg : Limited cfg) (hstate : mc.state = .awaitFpe)
    (hwatching : s.watching = true) {t : Stepped T} (hmc : t.flow.mc = some mc')
    (hstate' : mc'.state = .awaitTrap) (hsampler : mc'.sampler = mc.sampler) :
    Watchful mc' ⟨t, s.log ++ [(s.commits.length, true)], s.shut⟩ := by
  have hlim : withinLimit cfg.maxcount s.log.length = true :=
    (h.watching_eq hstate).symm.trans hwatching
  have hall := h.all hlim
  exact
    { mc_eq := hmc
      kicked := .inr hstate'
      on := hsampler ▸ h.on
      undelayed := hsampler ▸ h.undelayed
      shut := fun hin => absurd (hstate'.symm.trans hin) (by decide)
      stepping := fun _ => ⟨s.log.length, by simp, by simp [watched_concat, hall], hlim⟩
      all := fun _ => by simp [watched_concat, hall]
      picked := by
        rw [watched_concat, if_pos rfl, List.map_append, List.map_singleton, pick_concat,
          pick_concat, h.picked, List.length_map, hall, hcfg.records hlim] }

/-- The end of the step over it. -/
theorem Watchful.land (h : Watchful mc s) (hcfg : Limited cfg) (hstate : mc.state = .awaitTrap)
    {t : Stepped T} (hmc : t.flow.mc = some mc') (hstate' : mc'.state = .awaitFpe)
    (hsampler : mc'.sampler = mc.sampler) :
    Watchful mc' ⟨t, s.log, reachedMaxcount cfg (BitVec.ofNat 64 s.watched.length)⟩ := by
  obtain ⟨i, hlog, hlen, hlim⟩ := h.stepping hstate
  exact
    { mc_eq := hmc
      kicked := .inl hstate'
      on := hsampler ▸ h.on
      undelayed := hsampler ▸ h.undelayed
      shut := fun _ => by
        show reachedMaxcount cfg (BitVec.ofNat 64 s.watched.length) = _
        rw [hlog, hlen, ← hcfg.reached hlim, BitVec.ofNat_add]
        rfl
      stepping := fun hin => absurd (hstate'.symm.trans hin) (by decide)
      all := h.all
      picked := h.picked }

/-- An event past the limit. -/
theorem Watchful.past (h : Watchful mc s) (hstate : mc.state = .awaitFpe)
    (hwatching : s.watching = false) {t : Stepped T} (hmc : t.flow.mc = some mc) :
    Watchful mc ⟨t, s.log ++ [(s.commits.length, false)], s.shut⟩ := by
  have hlim : withinLimit cfg.maxcount s.log.length = false :=
    (h.watching_eq hstate).symm.trans hwatching
  have hout : withinLimit cfg.maxcount
      (s.log ++ [(s.commits.length, false)]).length = false := by
    rw [List.length_append]
    exact X64.withinLimit_mono (Nat.le_add_right _ _) hlim
  exact
    { mc_eq := hmc
      kicked := .inl hstate
      on := h.on
      undelayed := h.undelayed
      shut := fun _ => by
        rw [hout]
        exact (h.shut hstate).trans (by rw [hlim])
      stepping := fun hin => absurd (hstate.symm.trans hin) (by decide)
      all := fun hin => absurd (hout.symm.trans hin) Bool.false_ne_true
      picked := by
        rw [watched_concat, if_neg Bool.false_ne_true, List.append_nil, List.map_append,
          List.map_singleton, pick_concat_of_not, h.picked]
        rw [List.length_map]
        exact X64.recorded_of_not_withinLimit hlim }

theorem Watchful.step (h : Watchful mc s) (htells : Tells tell orig c₀ mc s) (hM : Steady B M)
    (hcfg : Limited cfg) (htimers : cfg.timers = false) {e : SteppedEvent} {t : Logged T}
    (hstep : s.step tell e = some t) : ∃ mc', Watchful mc' t := by
  obtain ⟨u, hu, heq⟩ := Option.map_eq_some_iff.mp hstep
  obtain ⟨mc', hfollows⟩ := htells.follows.step hu
  rw [show u = t.toStepped from congrArg Logged.toStepped heq] at hfollows
  cases logStep_of_step h.mc_eq hstep with
  | kick hstate =>
    rcases h.kicked with hs | hs
    · exact absurd (hstate.symm.trans hs) (by decide)
    · exact absurd (hstate.symm.trans hs) (by decide)
  | delay ht | flip ht => exact absurd (htimers.symm.trans ht) Bool.false_ne_true
  | trap buffer written hstate hraises hopen =>
    obtain ⟨hexcepts, hwatching, -⟩ := htells.trap hM hstate hraises hopen hfollows
    rw [hexcepts, if_pos rfl, hwatching]
    exact ⟨_, h.trap hcfg hstate hwatching rfl rfl rfl⟩
  | @land env siCode hstate hbrk =>
    have hended : (brkAwaitTrap cfg env mc s.flow).mc = some { mc with
        count := mc.count + 1
        trapModeState := (brkRearm cfg mc s.flow).state
        state := .awaitFpe } := by
      simp [brkAwaitTrap, h.undelayed]
    exact ⟨_, h.land hcfg hstate hended rfl rfl⟩
  | stepOver =>
    exact ⟨mc, h.mc_eq, h.kicked, h.on, h.undelayed, h.shut, h.stepping, h.all, h.picked⟩
  | pass hstate hraises =>
    cases hexcepts : tell.excepting s.flow.code s.cpu with
    | false =>
      rw [if_neg Bool.false_ne_true, List.append_nil]
      exact ⟨mc, h.mc_eq, h.kicked, h.on, h.undelayed, h.shut, h.stepping, h.all, h.picked⟩
    | true =>
      rw [if_pos rfl, htells.not_watching hraises hexcepts]
      exact ⟨mc, h.past (h.kicked.resolve_right hstate) (htells.not_watching hraises hexcepts)
        h.mc_eq⟩

/-- The kick of a thread that has just been brought up. -/
theorem watchful_kick (hcfg : Limited cfg) (h : Started cfg mc f)
    (hidle : mc.sampler.delayedProcessing = false) (d : T.Data)
    (hstep : (load f d).step tell (.kick env) = some s) : ∃ mc', Watchful mc' s := by
  obtain ⟨u, hu, rfl⟩ := Option.map_eq_some_iff.mp hstep
  have hstate : (load f d).state = some mc.state := by
    rw [Stepped.state, show (load f d).flow.mc = some mc from h.mc_eq, Option.map_some]
  simp only [Stepped.step, hstate] at hu
  split_ifs at hu with hinit
  obtain ⟨g, hg, rfl⟩ := Option.map_eq_some_iff.mp hu
  cases Flow.step_effect hg h.mc_eq with
  | kick =>
    refine ⟨_, rfl, .inl rfl, h.sampler, hidle, fun _ => ?_, fun hin => ?_, fun _ => rfl, rfl⟩
    · show false = !withinLimit cfg.maxcount 0
      rw [hcfg.within_zero]
      rfl
    · exact absurd (show MonitorState.awaitFpe = .awaitTrap from hin) (by decide)
  | aborted hs | endStep hs | surpriseTrap hs => exact absurd (h.state.symm.trans hs) (by decide)

end Logged

/-- Without timers the records of a kicked thread are those of all events of the native run, up to
the sample period and the limit. -/
theorem Platform.run_records (P : Platform) {cfg : Config P.arch.toArch} (hcfg : Limited cfg)
    (htimers : cfg.timers = false) {T : BrkTarget P.arch cfg} (tell : T.Telling P.masking)
    {mc : MonitoringContext} {f : Flow P.arch.toArch} (hstart : Started cfg mc f)
    (hidle : mc.sampler.delayedProcessing = false) (hmon : P.masking.Monitors cfg.statics f.uc)
    (d : T.Data) {env : Env} {es : List SteppedEvent} {s : Logged T}
    (hrun : Run.run (Logged.step tell) (Logged.load f d) (.kick env :: es) = some s) :
    s.commits = T.native f.code (f.uc, d) s.commits.length ∧
      s.flow.pushed.map siteOfRecord =
        (pick (recorded cfg.maxcount cfg.samplePeriod)
          ((List.range s.reached).filter (tell.event f.code (f.uc, d)))).map
            fun i => T.site f.code (T.nth f.code (f.uc, d) i) := by
  obtain ⟨t, hkick, hrest⟩ := Run.run_cons.mp hrun
  have hload : Logged.Tells tell f.code (f.uc, d) mc (Logged.load f d) :=
    Logged.tells_load hstart hmon d
  obtain ⟨mc₁, hwatch₁⟩ := Logged.watchful_kick hcfg hstart hidle d hkick
  obtain ⟨mc₂, htells₁⟩ := hload.step P.steady hkick
  obtain rfl := Option.some.inj (hwatch₁.mc_eq.symm.trans htells₁.follows.mc_eq)
  obtain ⟨mc', h, hwatch⟩ := Run.invariant
    (I := fun s : Logged T => ∃ mc, Logged.Tells tell f.code (f.uc, d) mc s ∧ Logged.Watchful mc s)
    (fun _ _ _ ⟨_, htells, hwatch⟩ hstep => by
      obtain ⟨mc', htells'⟩ := htells.step P.steady hstep
      obtain ⟨mc'', hwatch'⟩ := hwatch.step htells P.steady hcfg htimers hstep
      obtain rfl := Option.some.inj (hwatch'.mc_eq.symm.trans htells'.follows.mc_eq)
      exact ⟨_, htells', hwatch'⟩)
    ⟨_, htells₁, hwatch₁⟩ hrest
  refine ⟨h.follows.commits, ?_⟩
  rw [← h.log, hwatch.picked]
  exact h.pushed

/-! ## Runs on arm64 -/

namespace Arm64

/-- A target that walks through its code with a stack pointer that it can see; every `fadd` raises a
monitored exception. -/
def strider (cfg : Config arm64) : BrkTarget arm64Brk cfg where
  Data := Unit
  View := Addr × Addr
  view uc := (uc.pc, uc.sp)
  exec _ c := ({ c.1 with pc := c.1.pc + 4#64 }, c.2)
  raises w c := w == faddInstr && trapsUnmasked cfg.statics c.1
  view_ip _ _ h := (Prod.mk.inj h).1
  view_clear _ := rfl
  view_mask _ := rfl
  view_unmask _ := rfl
  view_round _ _ _ := rfl
  exec_view _ _ _ _ h := by
    obtain ⟨hpc, hsp⟩ := Prod.mk.inj h
    exact ⟨by simp only [hpc, hsp], rfl⟩
  exec_enables _ _ := rfl
  raises_unmasked w c h := by
    simp only [Bool.and_eq_true, beq_iff_eq] at h
    exact ⟨h.2, by rw [h.1]; decide⟩
  raises_long _ _ _ := ⟨trivial, rfl⟩

def striderTelling (cfg : Config arm64) : (strider cfg).Telling Platform.arm64.masking where
  excepts w _ := w == faddInstr
  raises_of_opened w c hmon hopened := by
    have hunmasked : trapsUnmasked cfg.statics c.1 = true :=
      arm64Masking.unmasked_of_opened _ _ hmon hopened
    exact (congrArg (w == faddInstr && ·) hunmasked).trans (Bool.and_true _)
  exec_opened _ _ h := h
  exec_monitors _ _ h := h
  view_sp _ _ h := (Prod.mk.inj h).2

def timed : Config arm64 := { plain with timers := true, maxcount := 1 }

def brought (cfg : Config arm64) (code : Mem) : Flow arm64 :=
  bringup cfg quietEnv .inHandler id { freshFlow with toGlobals := .start code }

theorem started_brought (cfg : Config arm64) (hfile : cfg.createMonitorFile = true) (code : Mem) :
    ∃ mc, Started cfg mc (brought cfg code) := by
  have hmc : (bringupMonitoringContext cfg quietEnv freshFlow.tid .zero).isSome = true := by
    simp [bringupMonitoringContext, quietEnv, hfile]
  obtain ⟨mc, hmc⟩ := Option.isSome_iff_exists.mp hmc
  have hforeign : SigAction.zero.Foreign := by decide
  exact ⟨mc, started_bringup (f := { freshFlow with toGlobals := .start code }) .inHandler hmc rfl
    trivial hforeign hforeign rfl⟩

theorem run_records_backToBack : ∃ s : Logged (strider plain),
    Run.run (Logged.step (striderTelling plain)) (Logged.load (brought plain twoFadds) ())
        backToBack = some s ∧
      s.reached = 2 ∧ s.flow.pushed.map siteOfRecord =
        [0, 1].map fun i => (strider plain).site twoFadds
          ((strider plain).nth twoFadds ((brought plain twoFadds).uc, ()) i) := by
  have hrun : (Run.run (Logged.step (striderTelling plain))
      (Logged.load (brought plain twoFadds) ()) backToBack).map (·.reached) = some 2 := by
    decide +kernel
  obtain ⟨s, hs, hreached⟩ := Option.map_eq_some_iff.mp hrun
  obtain ⟨mc, hstart⟩ := started_brought plain rfl twoFadds
  have hidle : mc.sampler.delayedProcessing = false := by
    have hdelay : (brought plain twoFadds).mc.map (·.sampler.delayedProcessing) = some false := by
      decide
    rw [hstart.mc_eq] at hdelay
    exact Option.some.inj hdelay
  obtain ⟨-, hpushed⟩ := Platform.run_records .arm64 ⟨.inl rfl, by decide, rfl⟩ rfl
    (striderTelling plain) hstart hidle ⟨by decide, rfl⟩ () hs
  have hevents : pick (recorded plain.maxcount plain.samplePeriod)
      ((List.range s.reached).filter ((striderTelling plain).event (brought plain twoFadds).code
        ((brought plain twoFadds).uc, ()))) = [0, 1] := by
    rw [hreached]
    decide +kernel
  exact ⟨s, hs, hreached, hpushed.trans (congrArg (List.map _) hevents)⟩

end Arm64

end FPSpy
