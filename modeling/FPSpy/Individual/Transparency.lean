import FPSpy.Individual.Target
import FPSpy.Individual.Thread
import FPSpy.Lib.Pick

/-!
# Trap and single-step on x64

The supervised run of a target: SIGFPE is delivered before an instruction commits when
it raises an unmasked exception, SIGTRAP after a commit that started with the trap flag
set. `Tracks` is the invariant of the trap-and-step cycle. Between events FPSpy waits
in AWAIT_FPE with all six traps unmasked, or all masked once the count limit is
reached; during the one-instruction window it waits in AWAIT_TRAP with all masked.

The event counter is 64 bits wide. It is compared with the sample period after it has
wrapped, so it is the event's index modulo 2^64 that decides whether it is recorded.
-/
namespace FPSpy.X64

/-- Individual mode with a count limit and a sample period, and otherwise the defaults
that matter here: all exceptions, no timers, no forced rounding, a trace file. -/
def individualConfig (base : Config x64) (maxcount samplePeriod : BitVec 32) : Config x64 :=
  { base with
    statics := statics
    maxcount := maxcount
    samplePeriod := samplePeriod
    timers := false
    controlRoundConfig := false
    abortOnFpe := false
    createMonitorFile := true }

/-- The target under FPSpy, with a log of what was committed and trapped. -/
structure Supervised where
  flow : Flow x64
  commits : List Commit
  traps : Nat

structure Input where
  env : Env
  siCode : BitVec 32

def cpuOf (f : Flow x64) : Cpu := ⟨f.uc, f.code⟩

def Supervised.cpu (s : Supervised) : Cpu := cpuOf s.flow

def Supervised.step (cfg : Config x64) (P : Program) (s : Supervised) (i : Input) : Supervised :=
  let c := s.cpu
  if P.raises c &&& unmasked c.uc ≠ 0 then
    { s with
      flow := (fpTrapHandler cfg i.env i.siCode s.flow) |> Flow.settle cfg i.env
      traps := s.traps + 1 }
  else
    let d := P.commit c
    let flow := { s.flow with uc := d.uc, code := d.mem }
    { s with
      flow := if tf c.uc then (brkTrapHandler cfg i.env flow) |> Flow.settle cfg i.env else flow
      commits := s.commits ++ [P.entry c] }

def Supervised.run (cfg : Config x64) (P : Program) (s : Supervised) (is : List Input) :
    Supervised := is.foldl (Supervised.step cfg P) s

def kicked (cfg : Config x64) (env : Env) (mc : MonitoringContext) (f : Flow x64) : Supervised where
  flow := (brkTrapHandler cfg env { f with mc := some mc, pushed := [] }) |> Flow.settle cfg env
  commits := []
  traps := 0

/-- Where an event happened. -/
structure Site where
  rip : BitVec 64
  rsp : BitVec 64
  instruction : Vector (BitVec 8) maxInstrSize
  deriving DecidableEq

def siteOfRecord (r : TraceRecord) : Site := ⟨r.rip, r.rsp, r.instruction⟩

def siteOfCommit (k : Commit) : Site :=
  ⟨archGetIp k.before.uc, archGetSp k.before.uc, archGetInstrBytes k.before.uc k.before.mem⟩

def withinLimit (maxcount : BitVec 32) (i : Nat) : Bool :=
  maxcount == -1#32 || decide ((i : Int) < maxcount.toInt)

def recorded (maxcount samplePeriod : BitVec 32) (i : Nat) : Bool :=
  decide (samplePeriod.toNat ∣ i % 2 ^ 64) && withinLimit maxcount i

/-- What a run has shown so far: the commits are the native ones, and the records are
those of the events that `keep` selects. While an instruction is being stepped over, its
record has been pushed and its commit is still to come. -/
def ShowsNative (P : Program) (c : Cpu) (keep : Nat → Bool) (steps : Nat) (maxcount : BitVec 32)
    (s : Supervised) : Prop :=
  ∃ n seen, s.commits = P.native c n ∧
    ((s.flow.mc.map (·.state) = some .awaitFpe ∧ seen = n) ∨
      (s.flow.mc.map (·.state) = some .awaitTrap ∧ seen = n + 1)) ∧
    steps = n + s.traps ∧
    s.traps = (pick (withinLimit maxcount) (Program.events (P.native c seen))).length ∧
    s.flow.pushed.map siteOfRecord =
      (pick keep (Program.events (P.native c seen))).map siteOfCommit

/-! ## Masks and the trap condition -/

/-- Some unmasked exception is raised: with open masks, any. -/
theorem traps_of_open {P : Program} {c : Cpu} (h : c.uc.mxcsr &&& 0x1f80#32 = 0) :
    P.raises c &&& unmasked c.uc = P.raises c := by
  rw [unmasked_of_open h, Bits.and_of_subset (P.raises_subset c)]

theorem traps_of_masked {P : Program} {c : Cpu} (h : c.uc.mxcsr &&& 0x1f80#32 = 0x1f80#32) :
    P.raises c &&& unmasked c.uc = 0 := by
  simp [unmasked_of_masked h]

/-- With all exceptions monitored, masking and unmasking act on all six. -/
theorem masks_maskFpTraps (uc : UContext) :
    (archMaskFpTraps statics uc).mxcsr &&& 0x1f80#32 = 0x1f80#32 := Bits.or_and_self uc.mxcsr _

theorem masks_unmaskFpTraps (uc : UContext) :
    (archUnmaskFpTraps statics uc).mxcsr &&& 0x1f80#32 = 0 := Bits.andNot_and_self uc.mxcsr _

theorem tf_setTrapMode (uc : UContext) (code : Mem) (s : BitVec 64) :
    tf (archSetTrapMode uc code s).uc = true := by
  simp only [tf, archSetTrapMode, Function.update_self, Bits.or_and_self]
  rfl

theorem archSetTrapMode_code (uc : UContext) (code : Mem) (s : BitVec 64) :
    (archSetTrapMode uc code s).code = code := rfl

/-! ## The counter -/

section Counter

variable {base : Config x64} {m p : BitVec 32}

theorem withinLimit_mono {i j : Nat} (hij : i ≤ j) (h : withinLimit m i = false) :
    withinLimit m j = false := by
  simp only [withinLimit, Bool.or_eq_false_iff, decide_eq_false_iff_not] at h ⊢
  exact ⟨h.1, by omega⟩

theorem withinLimit_iff (hm : 1 ≤ m.toInt) (i : Nat) :
    withinLimit m i = true ↔ i < m.toNat := by
  have hne : m ≠ -1#32 := by
    rintro rfl
    exact absurd hm (by decide)
  simp only [withinLimit, Bool.or_eq_true, beq_iff_eq, hne, false_or, decide_eq_true_eq,
    Bits.toInt_eq_toNat_of_nonneg (show 0 ≤ m.toInt by omega), Int.ofNat_lt]

/-- The limit test of the handler, made after the increment, is about the next event. -/
theorem reachedMaxcount_succ (hm : m = -1#32 ∨ 1 ≤ m.toInt) {i : Nat}
    (hi : withinLimit m i = true) :
    reachedMaxcount (individualConfig base m p) (BitVec.ofNat 64 i + 1) =
      !withinLimit m (i + 1) := by
  rcases hm with rfl | hm
  · rfl
  · have hlt := (withinLimit_iff hm i).mp hi
    have hbound := m.isLt
    have hcount : (BitVec.ofNat 64 i + 1).toNat = i + 1 := by
      rw [BitVec.toNat_add, BitVec.toNat_ofNat]
      simp
      omega
    rw [Bool.eq_iff_iff, FPSpy.reachedMaxcount_iff hm, hcount, Bool.not_eq_true',
      ← Bool.not_eq_true, withinLimit_iff hm]
    simp [individualConfig]

/-- The sampling test of the handler. -/
theorem records_eq (hp : 1 ≤ p.toInt) {i : Nat} (hi : withinLimit m i = true) :
    (individualConfig base m p).records (BitVec.ofNat 64 i) = recorded m p i := by
  have hiff := count_mod_samplePeriod (individualConfig base m p)
    (show 0 ≤ p.toInt by omega) (BitVec.ofNat 64 i)
  simp only [Config.records, hiff, recorded, hi]
  simp [individualConfig]

theorem recorded_of_not_withinLimit {i : Nat} (h : withinLimit m i = false) :
    recorded m p i = false := by
  simp [recorded, h]

end Counter

/-! ## The invariant of the cycle -/

/-- Where the trap-and-step cycle is: waiting for an event, waiting in vain because the
count limit is reached, or in the one-instruction window over an event. -/
inductive Phase where
  | watching | done | stepping
  deriving DecidableEq

namespace Phase

def state : Phase → MonitorState
  | watching | done => .awaitFpe
  | stepping => .awaitTrap

def masks : Phase → BitVec 32
  | watching => 0
  | done | stepping => 0x1f80

/-- The commits whose events have been handled, out of `n`. -/
def seen : Phase → Nat → Nat
  | watching, n | done, n => n
  | stepping, n => n + 1

theorem state_of_ne {phase : Phase} (h : phase ≠ stepping) : phase.state = .awaitFpe := by
  cases phase <;> first | rfl | exact absurd rfl h

theorem seen_of_ne {phase : Phase} (h : phase ≠ stepping) (n : Nat) : phase.seen n = n := by
  cases phase <;> first | rfl | exact absurd rfl h

end Phase

/-- After `n` commits of the run from `c`, in a phase of the cycle. -/
structure Tracks (P : Program) (c : Cpu) (m p : BitVec 32) (phase : Phase) (n : Nat)
    (mc : MonitoringContext) (s : Supervised) : Prop where
  commits : s.commits = P.native c n
  visible : s.cpu.visible = (P.commit^[n] c).visible
  mc_eq : s.flow.mc = some mc
  state : mc.state = phase.state
  masks : s.flow.uc.mxcsr &&& 0x1f80#32 = phase.masks
  stepping : tf s.flow.uc = decide (phase = .stepping)
  undelayed : mc.sampler.delayedProcessing = false
  limit : withinLimit m (Program.events (P.native c n)).length = decide (phase ≠ .done)
  count : phase ≠ .done → mc.count = BitVec.ofNat 64 (Program.events (P.native c n)).length
  raising : phase = .stepping → P.raises s.cpu ≠ 0
  traps : s.traps =
    (pick (withinLimit m) (Program.events (P.native c (phase.seen n)))).length
  pushed : s.flow.pushed.map siteOfRecord =
    (pick (recorded m p) (Program.events (P.native c (phase.seen n)))).map siteOfCommit

section Cycle

variable {P : Program} {c : Cpu} {base : Config x64} {m p : BitVec 32} {n : Nat}
  {mc : MonitoringContext} {s : Supervised} {i : Input}

variable (base m p) in
theorem visible_beginStep (mc : MonitoringContext) (f : Flow x64) :
    (cpuOf (beginStep (individualConfig base m p) mc f)).visible = (cpuOf f).visible := by
  simp [cpuOf, Cpu.visible, beginStep, forceRound, individualConfig, archSetTrapMode_code]

/-- The end of the step: the count goes up and the traps are opened again, within the limit. -/
theorem brkAwaitTrap_eq (env : Env) (mc : MonitoringContext) (f : Flow x64)
    (hdelay : mc.sampler.delayedProcessing = false) :
    brkAwaitTrap (individualConfig base m p) env mc f =
      { f with
        uc := archResetTrapModeNull
          (if reachedMaxcount (individualConfig base m p) (mc.count + 1) then
            archMaskFpTraps statics (archClearFpExceptions statics f.uc)
          else archUnmaskFpTraps statics (archClearFpExceptions statics f.uc))
        mc := some { mc with
          count := mc.count + 1, trapModeState := trapModeOff, state := .awaitFpe } } := by
  simp only [brkAwaitTrap, brkRearm, hdelay, forceRound, individualConfig, archResetTrapMode]
  rfl

variable (base m p) in
theorem visible_brkAwaitTrap (env : Env) (mc : MonitoringContext) (f : Flow x64)
    (hdelay : mc.sampler.delayedProcessing = false) :
    (cpuOf (brkAwaitTrap (individualConfig base m p) env mc f)).visible = (cpuOf f).visible := by
  rw [brkAwaitTrap_eq env mc f hdelay]
  simp only [cpuOf, Cpu.visible, visible_resetTrapModeNull, Cpu.mk.injEq, and_true]
  split_ifs <;> simp

theorem events_succ_of_quiet {P : Program} {c : Cpu} {n : Nat} (h : P.raises (P.commit^[n] c) = 0) :
    Program.events (P.native c (n + 1)) = Program.events (P.native c n) := by
  simp [Program.events, P.native_succ, Program.entry, h]

theorem events_succ_of_raises {P : Program} {c : Cpu} {n : Nat}
    (h : P.raises (P.commit^[n] c) ≠ 0) :
    Program.events (P.native c (n + 1)) =
      Program.events (P.native c n) ++ [P.entry (P.commit^[n] c)] := by
  simpa [Program.events, P.native_succ, Program.entry] using h

/-- An event outside of what is kept adds nothing. -/
theorem pick_events_succ {P : Program} {c : Cpu} {n : Nat} {keep : Nat → Bool}
    (h : P.raises (P.commit^[n] c) ≠ 0 → keep (Program.events (P.native c n)).length = false) :
    pick keep (Program.events (P.native c (n + 1))) =
      pick keep (Program.events (P.native c n)) := by
  by_cases hr : P.raises (P.commit^[n] c) = 0
  · rw [events_succ_of_quiet hr]
  · rw [events_succ_of_raises hr, pick_concat_of_not _ (h hr)]

namespace Tracks

/-- The current instruction raises what the native one raises. -/
theorem raises_eq {phase : Phase} (h : Tracks P c m p phase n mc s) :
    P.raises s.cpu = P.raises (P.commit^[n] c) := P.raises_visible _ _ h.visible

/-- A commit extends the log by the next native commit. -/
theorem commits_succ {phase : Phase} (h : Tracks P c m p phase n mc s) :
    s.commits ++ [P.entry s.cpu] = P.native c (n + 1) := by
  rw [h.commits, P.native_succ, P.entry_congr h.visible]

theorem visible_succ {phase : Phase} (h : Tracks P c m p phase n mc s) :
    (P.commit s.cpu).visible = (P.commit^[n + 1] c).visible := by
  rw [Function.iterate_succ_apply']
  exact P.visible_commit_congr h.visible

variable (base i) in
/-- An event starts the step over its instruction. -/
theorem trap (h : Tracks P c m p .watching n mc s) (hp : 1 ≤ p.toInt) (hr : P.raises s.cpu ≠ 0) :
    ∃ mc', Tracks P c m p .stepping n mc' (s.step (individualConfig base m p) P i) := by
  have hcond : P.raises s.cpu &&& unmasked s.cpu.uc ≠ 0 := by rwa [traps_of_open h.masks]
  have hperiod : p ≠ 0#32 := by
    rintro rfl
    exact absurd hp (by decide)
  obtain ⟨buffer, written, hfp⟩ :=
    fpTrapHandler_eq (individualConfig base m p) i.env i.siCode h.mc_eq rfl hperiod
  rw [if_pos (show mc.state = .awaitFpe from h.state)] at hfp
  have hin : withinLimit m (Program.events (P.native c n)).length = true := h.limit
  have hev := events_succ_of_raises (h.raises_eq ▸ hr)
  have hsite : siteOfRecord (eventRecord (individualConfig base m p) i.env i.siCode mc s.flow) =
      siteOfCommit (P.entry (P.commit^[n] c)) := by
    rw [← P.entry_congr h.visible]
    rfl
  have hrec : (individualConfig base m p).records mc.count =
      recorded m p (Program.events (P.native c n)).length := by
    rw [h.count (by decide), records_eq hp hin]
  rw [Supervised.step, if_pos hcond, hfp, Flow.sampled, hrec]
  refine ⟨{ mc with traceRecords := buffer, trapModeState := trapModeOn, state := .awaitTrap }, ?_⟩
  have hvis := visible_beginStep base m p mc s.flow
  exact
    { commits := h.commits
      visible := hvis.trans h.visible
      mc_eq := rfl
      state := rfl
      masks := masks_maskFpTraps _
      stepping := tf_setTrapMode _ s.flow.code mc.trapModeState
      undelayed := h.undelayed
      limit := hin
      count := fun _ => h.count (by decide)
      raising := fun _ => (P.raises_visible _ _ hvis).trans_ne hr
      traps := by
        rw [Phase.seen, hev, pick_concat_of_keep _ hin, List.length_append, h.traps]
        rfl
      pushed := by
        have hpush := h.pushed
        rw [Phase.seen, hev, pick_concat, List.map_append]
        cases recorded m p (Program.events (P.native c n)).length
        · simpa [Flow.settle, Flow.resume, beginStep, Phase.seen] using hpush
        · simpa [Flow.settle, Flow.resume, beginStep, Phase.seen, hsite] using hpush }

/-- The step of an instruction that does not trap and is not stepped over. -/
theorem step_quiet {phase : Phase} (h : Tracks P c m p phase n mc s) (hphase : phase ≠ .stepping)
    (hcond : P.raises s.cpu &&& unmasked s.cpu.uc = 0) (cfg : Config x64) :
    s.step cfg P i =
      { s with
        flow := { s.flow with uc := (P.commit s.cpu).uc, code := (P.commit s.cpu).mem }
        commits := s.commits ++ [P.entry s.cpu] } := by
  have htf : tf s.cpu.uc = false := by
    rw [Supervised.cpu, cpuOf, h.stepping]
    simpa using hphase
  simp [Supervised.step, hcond, htf]

/-- An instruction that raises nothing commits while FPSpy keeps watching. -/
theorem quiet (h : Tracks P c m p .watching n mc s) (hr : P.raises s.cpu = 0) :
    Tracks P c m p .watching (n + 1) mc (s.step (individualConfig base m p) P i) := by
  have hev := events_succ_of_quiet (h.raises_eq ▸ hr)
  rw [h.step_quiet (by decide) (by rw [traps_of_open h.masks, hr])]
  exact
    { commits := h.commits_succ
      visible := h.visible_succ
      mc_eq := h.mc_eq
      state := h.state
      masks := (P.commit_masks s.cpu).trans h.masks
      stepping := (P.commit_tf s.cpu).trans h.stepping
      undelayed := h.undelayed
      limit := by rw [hev]; exact h.limit
      count := by rw [hev]; exact h.count
      raising := by simp
      traps := by rw [Phase.seen, hev]; exact h.traps
      pushed := by rw [Phase.seen, hev]; exact h.pushed }

/-- Past the limit every instruction just commits. -/
theorem idle (h : Tracks P c m p .done n mc s) :
    Tracks P c m p .done (n + 1) mc (s.step (individualConfig base m p) P i) := by
  have hlim : withinLimit m (Program.events (P.native c n)).length = false := h.limit
  have hle : (Program.events (P.native c n)).length ≤
      (Program.events (P.native c (n + 1))).length := by
    simp [Program.events, P.native_succ]
  rw [h.step_quiet (by decide) (traps_of_masked h.masks)]
  exact
    { commits := h.commits_succ
      visible := h.visible_succ
      mc_eq := h.mc_eq
      state := h.state
      masks := (P.commit_masks s.cpu).trans h.masks
      stepping := (P.commit_tf s.cpu).trans h.stepping
      undelayed := h.undelayed
      limit := withinLimit_mono hle hlim
      count := by simp
      raising := by simp
      traps := by rw [Phase.seen, pick_events_succ (fun _ => hlim)]; exact h.traps
      pushed := by
        rw [Phase.seen, pick_events_succ (fun _ => recorded_of_not_withinLimit hlim)]
        exact h.pushed }

variable (base i) in
/-- The instruction stepped over commits and the cycle closes: FPSpy watches again, unless
this was the last event inside the limit. -/
theorem land (h : Tracks P c m p .stepping n mc s) (hm : m = -1#32 ∨ 1 ≤ m.toInt) :
    ∃ phase mc', phase ≠ .stepping ∧
      Tracks P c m p phase (n + 1) mc' (s.step (individualConfig base m p) P i) := by
  have hr := h.raises_eq ▸ h.raising rfl
  have hin : withinLimit m (Program.events (P.native c n)).length = true := h.limit
  have hev := events_succ_of_raises hr
  have hlen : (Program.events (P.native c (n + 1))).length =
      (Program.events (P.native c n)).length + 1 := by simp [hev]
  have hcond : P.raises s.cpu &&& unmasked s.cpu.uc = 0#32 := traps_of_masked h.masks
  have htf : tf s.cpu.uc = true := h.stepping
  have hstep : s.step (individualConfig base m p) P i =
      { s with
        flow := brkAwaitTrap (individualConfig base m p) i.env mc
          { s.flow with uc := (P.commit s.cpu).uc, code := (P.commit s.cpu).mem }
        commits := s.commits ++ [P.entry s.cpu] } := by
    simp [Supervised.step, hcond, htf, brkTrapHandler, h.mc_eq,
      show mc.state = .awaitTrap from h.state, Flow.settle, Flow.resume]
  have hreached : reachedMaxcount (individualConfig base m p) (mc.count + 1) =
      !withinLimit m (Program.events (P.native c (n + 1))).length := by
    rw [h.count (by decide), reachedMaxcount_succ hm hin, hlen]
  obtain ⟨phase, hne, hlimit, hmasks⟩ : ∃ phase, phase ≠ Phase.stepping ∧
      withinLimit m (Program.events (P.native c (n + 1))).length = decide (phase ≠ .done) ∧
      ∀ uc, (if reachedMaxcount (individualConfig base m p) (mc.count + 1) then
        archMaskFpTraps statics uc else archUnmaskFpTraps statics uc).mxcsr &&& 0x1f80#32 =
          phase.masks := by
    rw [hreached]
    cases withinLimit m (Program.events (P.native c (n + 1))).length
    · exact ⟨.done, by decide, rfl, masks_maskFpTraps⟩
    · exact ⟨.watching, by decide, rfl, masks_unmaskFpTraps⟩
  have hvis := visible_brkAwaitTrap base m p i.env mc
    { s.flow with uc := (P.commit s.cpu).uc, code := (P.commit s.cpu).mem } h.undelayed
  rw [brkAwaitTrap_eq _ _ _ h.undelayed] at hvis hstep
  rw [hstep]
  refine ⟨phase, { mc with
    count := mc.count + 1, trapModeState := trapModeOff, state := .awaitFpe }, hne, ?_⟩
  exact
    { commits := h.commits_succ
      visible := hvis.trans h.visible_succ
      mc_eq := rfl
      state := (Phase.state_of_ne hne).symm
      masks := hmasks _
      stepping := (tf_resetTrapModeNull _).trans (by simpa using hne)
      undelayed := h.undelayed
      limit := hlimit
      count := by
        intro _
        rw [hlen, h.count (by decide), BitVec.ofNat_add]
        rfl
      raising := fun h => absurd h hne
      traps := by rw [Phase.seen_of_ne hne]; exact h.traps
      pushed := by rw [Phase.seen_of_ne hne]; exact h.pushed }

variable (base i) in
/-- One step of the processor keeps the invariant; it commits or it traps. -/
theorem step {phase : Phase} (h : Tracks P c m p phase n mc s) (hm : m = -1#32 ∨ 1 ≤ m.toInt)
    (hp : 1 ≤ p.toInt) :
    ∃ phase' n' mc', Tracks P c m p phase' n' mc' (s.step (individualConfig base m p) P i) ∧
      n' + (s.step (individualConfig base m p) P i).traps = n + s.traps + 1 := by
  cases phase with
  | watching =>
    by_cases hr : P.raises s.cpu = 0
    · refine ⟨_, _, _, h.quiet hr, ?_⟩
      rw [h.step_quiet (by decide) (by rw [traps_of_open h.masks, hr])]
      dsimp only
      omega
    · obtain ⟨mc', h'⟩ := h.trap base i hp hr
      refine ⟨_, _, _, h', ?_⟩
      have hcond : P.raises s.cpu &&& unmasked s.cpu.uc ≠ 0 := by rwa [traps_of_open h.masks]
      rw [Supervised.step, if_pos hcond]
      dsimp only
      omega
  | done =>
    refine ⟨_, _, _, h.idle, ?_⟩
    rw [h.step_quiet (by decide) (traps_of_masked h.masks)]
    dsimp only
    omega
  | stepping =>
    obtain ⟨phase, mc', -, h'⟩ := h.land base i hm
    refine ⟨_, _, _, h', ?_⟩
    have hcond : ¬ P.raises s.cpu &&& unmasked s.cpu.uc ≠ 0 := not_not.mpr (traps_of_masked h.masks)
    rw [Supervised.step, if_neg hcond]
    dsimp only
    omega

end Tracks

/-- The INIT kick opens the traps of a thread that has been brought up. -/
theorem tracks_kicked {env : Env} {tid : Nat} (f : Flow x64)
    (hmc : bringupMonitoringContext (individualConfig base m p) env tid .zero = some mc)
    (hm : m = -1#32 ∨ 1 ≤ m.toInt) (env' : Env) :
    ∃ mc', Tracks P (cpuOf f) m p .watching 0 mc'
      (kicked (individualConfig base m p) env' mc f) := by
  obtain ⟨fd, -, rfl⟩ := Option.map_eq_some_iff.mp hmc
  have hlim : withinLimit m 0 = true := by
    rcases hm with rfl | hm
    · rfl
    · exact (withinLimit_iff hm 0).mpr (by
        have := Bits.toInt_eq_toNat_of_nonneg (show 0 ≤ m.toInt by omega)
        omega)
  refine ⟨_,
    { commits := rfl
      visible := ?_
      mc_eq := rfl
      state := rfl
      masks := masks_unmaskFpTraps _
      stepping := tf_resetTrapModeNull _
      undelayed := rfl
      limit := hlim
      count := fun _ => rfl
      raising := by simp
      traps := rfl
      pushed := rfl }⟩
  simp [kicked, Supervised.cpu, cpuOf, Cpu.visible, brkTrapHandler, Flow.settle, Flow.resume,
    brkInit, forceRound, individualConfig, archResetTrapMode]

/-- A whole run keeps the invariant, and every one of its steps commits or traps. -/
theorem tracks_run {phase : Phase} (h : Tracks P c m p phase n mc s)
    (hm : m = -1#32 ∨ 1 ≤ m.toInt) (hp : 1 ≤ p.toInt) (is : List Input) :
    ∃ phase' n' mc', Tracks P c m p phase' n' mc' (s.run (individualConfig base m p) P is) ∧
      n' + (s.run (individualConfig base m p) P is).traps = n + s.traps + is.length := by
  induction is generalizing phase n mc s with
  | nil => exact ⟨_, _, _, h, rfl⟩
  | cons i is ih =>
    obtain ⟨phase₁, n₁, mc₁, h₁, hn₁⟩ := h.step base i hm hp
    obtain ⟨phase₂, n₂, mc₂, h₂, hn₂⟩ := ih h₁
    refine ⟨phase₂, n₂, mc₂, h₂, ?_⟩
    rw [List.length_cons]
    exact hn₂.trans (by omega)

end Cycle

/-- The invariant shows the native run. -/
theorem Tracks.showsNative {P : Program} {c : Cpu} {m p : BitVec 32} {phase : Phase} {n : Nat}
    {mc : MonitoringContext} {s : Supervised} (h : Tracks P c m p phase n mc s) (steps : Nat)
    (hsteps : steps = n + s.traps) : ShowsNative P c (recorded m p) steps m s := by
  refine ⟨n, phase.seen n, h.commits, ?_, hsteps, h.traps, h.pushed⟩
  rw [h.mc_eq, Option.map_some, h.state]
  cases phase with
  | watching | done => exact .inl ⟨rfl, rfl⟩
  | stepping => exact .inr ⟨rfl, rfl⟩

/-- Individual mode on x64 is transparent, and complete up to sampling and the limit: after
the INIT kick, a run of any length commits the native instructions with their results,
and records the events that the sample period and the limit select. -/
theorem run_showsNative (P : Program) (base : Config x64) {m p : BitVec 32}
    (hm : m = -1#32 ∨ 1 ≤ m.toInt) (hp : 1 ≤ p.toInt) {env : Env} {tid : Nat}
    {mc : MonitoringContext}
    (hmc : bringupMonitoringContext (individualConfig base m p) env tid .zero = some mc)
    (f : Flow x64) (env' : Env) (is : List Input) :
    ShowsNative P (cpuOf f) (recorded m p) is.length m
      ((kicked (individualConfig base m p) env' mc f).run (individualConfig base m p) P is) := by
  obtain ⟨mc', h⟩ := tracks_kicked (P := P) f hmc hm env'
  obtain ⟨phase, n, mc'', h', hn⟩ := tracks_run h hm hp is
  exact h'.showsNative _ (by rw [hn]; simp [kicked])

/-! ## A run that outlasts the counter -/

def alwaysInexact : Program where
  exec c := { c with uc := { c.uc with
    gregs := Function.update c.uc.gregs .rip (c.uc.gregs .rip + 4) } }
  raises _ := 0x20
  exec_visible c d h := by
    simp only [Cpu.visible, UContext.visible, Cpu.mk.injEq, UContext.mk.injEq] at h ⊢
    obtain ⟨⟨hregs, hcsr⟩, hmem⟩ := h
    refine ⟨⟨?_, hcsr⟩, hmem⟩
    funext r
    have hr := congrFun hregs r
    have hrip := congrFun hregs .rip
    by_cases h₁ : r = .efl <;> by_cases h₂ : r = .rip <;> simp_all
  raises_visible _ _ _ := rfl
  exec_status _ := rfl
  exec_tf _ := by simp
  raises_subset _ := by decide

def startConfig (m p : BitVec 32) : Config x64 :=
  individualConfig (.defaults statics) m p

def startContext (m p : BitVec 32) : MonitoringContext :=
  { MonitoringContext.zero with
    tid := 1, fd := 3
    sampler := initSampler (startConfig m p) quietEnv MonitoringContext.zero.sampler }

theorem bringup_startContext (m p : BitVec 32) :
    bringupMonitoringContext (startConfig m p) quietEnv 1 .zero = some (startContext m p) := rfl

/-- Ten steps of a target that traps at each of its instructions. -/
theorem run_showsNative_ten :
    ShowsNative alwaysInexact (cpuOf freshFlow) (recorded 4 3) 10 4
      ((kicked (startConfig 4 3) quietEnv (startContext 4 3) freshFlow).run (startConfig 4 3)
        alwaysInexact (List.replicate 10 ⟨quietEnv, 0⟩)) :=
  run_showsNative alwaysInexact _ (.inr (by decide)) (by decide) (bringup_startContext 4 3)
    freshFlow quietEnv (List.replicate 10 ⟨quietEnv, 0⟩)

def recordedUnbounded (maxcount samplePeriod : BitVec 32) (i : Nat) : Bool :=
  decide (samplePeriod.toNat ∣ i) && withinLimit maxcount i

theorem events_alwaysInexact (c : Cpu) (n : Nat) :
    Program.events (alwaysInexact.native c n) = alwaysInexact.native c n := by
  rw [Program.events, List.filter_eq_self]
  intro k hk
  obtain ⟨i, -, rfl⟩ := List.mem_map.mp hk
  rfl

theorem withinLimit_unlimited : withinLimit (-1#32) = fun _ => true := rfl

/-- After `2 * k` steps the first `k` instructions have trapped and committed. -/
theorem ShowsNative.pushed_alwaysInexact {c : Cpu} {keep : Nat → Bool} {k : Nat} {s : Supervised}
    (h : ShowsNative alwaysInexact c keep (2 * k) (-1#32) s) :
    s.flow.pushed.map siteOfRecord = (pick keep (alwaysInexact.native c k)).map siteOfCommit := by
  obtain ⟨n, seen, -, hstate, hsteps, htraps, hpushed⟩ := h
  rw [events_alwaysInexact, withinLimit_unlimited, pick_all, Program.length_native] at htraps
  rw [events_alwaysInexact] at hpushed
  have hseen : seen = k := by
    rcases hstate with ⟨-, h⟩ | ⟨-, h⟩ <;> omega
  rwa [hseen] at hpushed

/-- Below the width of the counter the two selections agree. -/
theorem pick_recordedUnbounded {α : Type*} {m p : BitVec 32} {xs : List α}
    (h : xs.length ≤ 2 ^ 64) : pick (recordedUnbounded m p) xs = pick (recorded m p) xs := by
  apply pick_congr
  intro i hi
  simp only [recordedUnbounded, recorded, Nat.mod_eq_of_lt (lt_of_lt_of_le hi h)]

/-- At the first index past it they do not, unless the period divides the width. -/
theorem recorded_width {k : Nat} (hk : k = 2 ^ 64) : recorded (-1#32) 3 k = true ∧
    recordedUnbounded (-1#32) 3 k = false := by
  subst hk
  decide

/-- The two selections differ on a run of one event more than the counter can count. -/
theorem length_pick_ne {c : Cpu} {k : Nat} (hk : k = 2 ^ 64) :
    (pick (recordedUnbounded (-1#32) 3) (alwaysInexact.native c (k + 1))).length ≠
      (pick (recorded (-1#32) 3) (alwaysInexact.native c (k + 1))).length := by
  rw [Program.native_succ, pick_concat, pick_concat,
    pick_recordedUnbounded (by rw [Program.length_native, hk]), Program.length_native,
    (recorded_width hk).1, (recorded_width hk).2]
  simp

/-- Event 2^64 of an unlimited run with a sample period of 3 is recorded, though 3 does not
divide its index. -/
theorem run_not_showsNative_unbounded :
    ¬ ShowsNative alwaysInexact (cpuOf freshFlow) (recordedUnbounded (-1#32) 3) (2 * (2 ^ 64 + 1))
      (-1#32) ((kicked (startConfig (-1#32) 3) quietEnv (startContext (-1#32) 3) freshFlow).run
        (startConfig (-1#32) 3) alwaysInexact
        (List.replicate (2 * (2 ^ 64 + 1)) ⟨quietEnv, 0⟩)) := by
  obtain ⟨k, hk⟩ : ∃ k : Nat, k = 2 ^ 64 := ⟨_, rfl⟩
  rw [← hk]
  intro hunbounded
  obtain ⟨mc, h⟩ := tracks_kicked (P := alwaysInexact) freshFlow (bringup_startContext (-1#32) 3)
    (.inl rfl) quietEnv
  obtain ⟨phase, n, mc', h', hn⟩ := tracks_run h (.inl rfl) (show 1 ≤ BitVec.toInt 3#32 by decide)
    (List.replicate (2 * (k + 1)) ⟨quietEnv, 0⟩)
  have hcode := h'.showsNative (2 * (k + 1)) (by rw [hn]; simp [kicked])
  have hlen := congrArg List.length
    (hunbounded.pushed_alwaysInexact.symm.trans hcode.pushed_alwaysInexact)
  rw [List.length_map, List.length_map] at hlen
  exact length_pick_ne hk hlen

end FPSpy.X64
