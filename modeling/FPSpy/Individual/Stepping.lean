import Mathlib.Logic.Function.Iterate
import FPSpy.Individual.Patching

/-!
# Emulated single stepping

A target in code memory on arm64 or riscv64, under FPSpy. The processor fetches the word at
the program counter. An instruction that raises an unmasked monitored exception traps
before it commits; a breakpoint that FPSpy has planted traps when control reaches it.
The program is whatever the instructions make of registers and data: it neither reads nor
writes code memory, the trap enables, or what FPSpy's operations change (`view` is what it
can tell).

The invariant follows the one-instruction window. Outside of it code memory is the original;
inside, one word differs, the one behind the trapped instruction, and the state word holds
the original.
-/
namespace FPSpy

variable {B : BrkArch} {cfg : Config B.toArch}

structure BrkTarget (B : BrkArch) (cfg : Config B.toArch) where
  /-- Data memory, and whatever else the instructions act on. -/
  Data : Type
  /-- What the program can tell of the registers. -/
  View : Type
  view : B.UContext → View
  exec : BitVec 32 → B.UContext × Data → B.UContext × Data
  /-- The instruction raises an unmasked monitored exception. -/
  raises : BitVec 32 → B.UContext × Data → Bool
  view_ip : ∀ uc vc, view uc = view vc → B.getIp uc = B.getIp vc
  view_clear : ∀ uc, view (B.clearFpExceptions cfg.statics uc) = view uc
  view_mask : ∀ uc, view (B.maskFpTraps cfg.statics uc) = view uc
  view_unmask : ∀ uc, view (B.unmaskFpTraps cfg.statics uc) = view uc
  /-- Where FPSpy forces a rounding mode, only programs that do not depend on it are native. -/
  view_round : cfg.controlRoundConfig = true → ∀ uc c,
    view (B.setRoundConfig cfg.statics uc c) = view uc
  exec_view : ∀ w uc vc d, view uc = view vc →
    view (exec w (uc, d)).1 = view (exec w (vc, d)).1 ∧ (exec w (uc, d)).2 = (exec w (vc, d)).2
  exec_enables : ∀ w c, B.trapsUnmasked cfg.statics (exec w c).1 = B.trapsUnmasked cfg.statics c.1
  /-- A trap needs an unmasked exception; it is never the breakpoint that raises one. -/
  raises_unmasked : ∀ w c, raises w c = true →
    B.trapsUnmasked cfg.statics c.1 = true ∧ w ≠ B.brkInstr
  /-- FP instructions are four bytes long and fall through. -/
  raises_long : ∀ w c, raises w c = true →
    B.IsLong w ∧ B.getIp (exec w c).1 = B.getIp c.1 + 4#64

namespace BrkTarget

variable (T : BrkTarget B cfg)

abbrev Cpu : Type := B.UContext × T.Data

/-- One committed instruction: the word, and what the program saw before and after it. -/
structure Commit where
  word : BitVec 32
  before : T.View × T.Data
  after : T.View × T.Data

def seen (c : T.Cpu) : T.View × T.Data := (T.view c.1, c.2)

def entry (code : Mem) (c : T.Cpu) : T.Commit :=
  let w := code.read32 (B.getIp c.1)
  ⟨w, T.seen c, T.seen (T.exec w c)⟩

def next (code : Mem) (c : T.Cpu) : T.Cpu := T.exec (code.read32 (B.getIp c.1)) c

def native (code : Mem) (c : T.Cpu) (n : Nat) : List T.Commit :=
  (List.range n).map fun i => T.entry code ((T.next code)^[i] c)

theorem native_succ (code : Mem) (c : T.Cpu) (n : Nat) :
    T.native code c (n + 1) = T.native code c n ++ [T.entry code ((T.next code)^[n] c)] := by
  simp [native, List.range_succ]

/-- States that look the same run the same. -/
theorem seen_exec_congr {c d : T.Cpu} (h : T.seen c = T.seen d) (w : BitVec 32) :
    T.seen (T.exec w c) = T.seen (T.exec w d) := by
  obtain ⟨hview, hdata⟩ := Prod.mk.inj h
  obtain ⟨uc, x⟩ := c
  obtain ⟨vc, y⟩ := d
  obtain rfl : x = y := hdata
  obtain ⟨h₁, h₂⟩ := T.exec_view w uc vc x hview
  simp only [seen, h₁, h₂]

theorem ip_congr {c d : T.Cpu} (h : T.seen c = T.seen d) : B.getIp c.1 = B.getIp d.1 :=
  T.view_ip _ _ (Prod.mk.inj h).1

theorem entry_congr {code : Mem} {c d : T.Cpu} (h : T.seen c = T.seen d) :
    T.entry code c = T.entry code d := by
  simp only [entry, T.ip_congr h, h, T.seen_exec_congr h]

theorem seen_next_congr {code : Mem} {c d : T.Cpu} (h : T.seen c = T.seen d) :
    T.seen (T.next code c) = T.seen (T.next code d) := by
  simp only [next, T.ip_congr h, T.seen_exec_congr h]

/-! ### FPSpy's operations are out of sight -/

variable {env : Env} {f : Flow B.toArch} (mc : MonitoringContext)

theorem view_forceRound (c : BitVec 32) (uc : B.UContext) :
    T.view (forceRound cfg c uc) = T.view uc := by
  unfold forceRound
  split_ifs with h
  · exact T.view_round h uc c
  · rfl

theorem view_beginStep : T.view (beginStep cfg mc f).uc = T.view f.uc := by
  simp only [beginStep, B.setTrapMode_eq, T.view_forceRound, T.view_mask, T.view_clear]

theorem view_brkInit : T.view (brkInit cfg mc f).uc = T.view f.uc := by
  simp only [brkInit, B.resetTrapMode_eq, T.view_forceRound, T.view_unmask, T.view_clear]

theorem view_updateSampler : T.view (updateSampler cfg env mc f).uc = T.view f.uc := by
  simp only [updateSampler, B.resetTrapMode_eq]
  cases mc.sampler.state <;> simp only [T.view_mask, T.view_unmask, T.view_clear]

theorem view_brkAwaitTrap : T.view (brkAwaitTrap cfg env mc f).uc = T.view f.uc := by
  have hrearm : T.view (brkRearm cfg mc f).uc = T.view f.uc := by
    simp only [brkRearm, B.resetTrapMode_eq]
    split_ifs <;> simp only [T.view_forceRound, T.view_mask, T.view_unmask, T.view_clear]
  unfold brkAwaitTrap
  dsimp only
  split_ifs
  · rw [view_updateSampler]
    exact hrearm
  · exact hrearm

end BrkTarget

structure Stepped (T : BrkTarget B cfg) where
  flow : Flow B.toArch
  data : T.Data
  commits : List T.Commit
  trapped : Addr

inductive SteppedEvent where
  | kick (env : Env)
  | expiry (env : Env)
  | cpu (env : Env) (siCode : BitVec 32)

namespace Stepped

variable {T : BrkTarget B cfg}

def state (s : Stepped T) : Option MonitorState := s.flow.mc.map (·.state)

def cpu (s : Stepped T) : T.Cpu := (s.flow.uc, s.data)

def fetch (s : Stepped T) : BitVec 32 := s.flow.code.read32 s.flow.ip

/-- One step. The runs are those in which FP traps come in AWAIT_FPE only and no breakpoint is
reached but the planted one. -/
def step (s : Stepped T) : SteppedEvent → Option (Stepped T)
  | .kick env =>
    if s.state = some .init then
      (s.flow.step cfg (.brkTrap env)).map fun f => { s with flow := f }
    else none
  | .expiry env => (s.flow.step cfg (.expiry env)).map fun f => { s with flow := f }
  | .cpu env siCode =>
    if T.raises s.fetch s.cpu then
      if s.state = some .awaitFpe then
        (s.flow.step cfg (.fpTrap env siCode)).map fun f =>
          { s with flow := f, trapped := s.flow.ip }
      else none
    else if s.fetch = B.brkInstr then
      if s.state = some .awaitTrap then
        (s.flow.step cfg (.brkTrap env)).map fun f => { s with flow := f }
      else none
    else
      let c := T.exec s.fetch s.cpu
      some { s with
        flow := { s.flow with uc := c.1 }
        data := c.2
        commits := s.commits ++ [T.entry s.flow.code s.cpu] }

/-- After some commits of the run from `c₀` on the code `orig`. In AWAIT_TRAP the trapped
instruction is about to commit, or control has reached the breakpoint behind it. -/
structure Follows (orig : Mem) (c₀ : T.Cpu) (mc : MonitoringContext) (s : Stepped T) : Prop where
  mc_eq : s.flow.mc = some mc
  commits : s.commits = T.native orig c₀ s.commits.length
  seen : T.seen s.cpu = T.seen ((T.next orig)^[s.commits.length] c₀)
  outside : mc.state ≠ .awaitTrap →
    s.flow.code = orig ∧ Breakpoint.flag mc.trapModeState ≠ Breakpoint.trapModeOn
  inside : mc.state = .awaitTrap →
    s.flow.code = (Breakpoint.set B.brkInstr (s.trapped + 4#64) orig).code ∧
      mc.trapModeState = (Breakpoint.set B.brkInstr (s.trapped + 4#64) orig).state
  window : mc.state = .awaitTrap → s.flow.ip = s.trapped + 4#64 ∨
    s.flow.ip = s.trapped ∧ orig.read32 s.trapped ≠ B.brkInstr ∧
      B.getIp (T.exec (orig.read32 s.trapped) s.cpu).1 = s.trapped + 4#64

variable {orig : Mem} {c₀ : T.Cpu} {mc : MonitoringContext} {s t : Stepped T}

/-- The word of the trapped instruction is not touched by the breakpoint behind it. -/
theorem read32_set_next (brk : BitVec 32) (code : Mem) (a : Addr) :
    (Breakpoint.set brk (a + 4#64) code).code.read32 a = code.read32 a :=
  Mem.read32_write32_of_apart _ _ (Mem.apart_next a)

/-- The window begins. -/
theorem Follows.trap {env : Env} {siCode : BitVec 32} {f : Flow B.toArch}
    (h : Follows orig c₀ mc s) (hraises : T.raises s.fetch s.cpu = true)
    (hstate : mc.state = .awaitFpe) (hstep : s.flow.step cfg (.fpTrap env siCode) = some f) :
    ∃ mc', Follows orig c₀ mc' { s with flow := f, trapped := s.flow.ip } := by
  obtain ⟨hcode, -⟩ := h.outside (by simp [hstate])
  obtain ⟨hlong, hthrough⟩ := T.raises_long _ _ hraises
  have hnext : B.nextInstr s.flow.uc s.flow.code = s.flow.ip + 4#64 :=
    B.nextInstr_long _ _ hlong
  cases Flow.step_effect hstep h.mc_eq with
  | beginStep buffer written _ hopen =>
    obtain ⟨hcode', hmc', hip'⟩ := patched_beginStep cfg
      (s.flow.sampled cfg env siCode mc written) { mc with traceRecords := buffer }
    have hview := T.view_beginStep (f := s.flow.sampled cfg env siCode mc written)
      { mc with traceRecords := buffer }
    have hnext' : B.nextInstr (s.flow.sampled cfg env siCode mc written).uc
        (s.flow.sampled cfg env siCode mc written).code = s.flow.ip + 4#64 := hnext
    rw [hnext'] at hcode' hmc'
    have hfetch : s.fetch = orig.read32 s.flow.ip := by rw [fetch, hcode]
    have hseen : T.seen (cpu { s with
        flow := beginStep cfg { mc with traceRecords := buffer }
          (s.flow.sampled cfg env siCode mc written)
        trapped := s.flow.ip }) = T.seen s.cpu := Prod.ext hview rfl
    refine ⟨_, ⟨hmc', h.commits, hseen.trans h.seen, fun hne => absurd rfl hne, fun _ => ?_,
      fun _ => .inr ⟨hip', ?_, ?_⟩⟩⟩
    · rw [← hcode]
      exact ⟨hcode', rfl⟩
    · rw [← hfetch]
      exact (T.raises_unmasked _ _ hraises).2
    · rw [← hfetch, T.ip_congr (T.seen_exec_congr hseen s.fetch)]
      exact hthrough
  | surpriseFpe _ _ hne => exact absurd hstate hne

/-- The window ends at the breakpoint, and code memory is the original again. -/
theorem Follows.land {env : Env} {f : Flow B.toArch} (h : Follows orig c₀ mc s)
    (hbrk : s.fetch = B.brkInstr) (hstate : mc.state = .awaitTrap)
    (hstep : s.flow.step cfg (.brkTrap env) = some f) :
    ∃ mc', Follows orig c₀ mc' { s with flow := f } := by
  obtain ⟨hcode, hword⟩ := h.inside hstate
  have hip : s.flow.ip = s.trapped + 4#64 := by
    rcases h.window hstate with hip | ⟨hip, hne, -⟩
    · exact hip
    · rw [fetch, hcode, hip, read32_set_next] at hbrk
      exact absurd hbrk hne
  cases Flow.step_effect hstep h.mc_eq with
  | endStep =>
    have hpatch := unpatched_brkAwaitTrap cfg env s.flow mc
    obtain ⟨mc', hmc', hstate'⟩ : ∃ mc', (brkAwaitTrap cfg env mc s.flow).mc = some mc' ∧
        mc'.state = .awaitFpe := by
      unfold brkAwaitTrap
      dsimp only
      split_ifs <;> exact ⟨_, rfl, rfl⟩
    have hseen : T.seen (cpu { s with flow := brkAwaitTrap cfg env mc s.flow }) = T.seen s.cpu :=
      Prod.ext (T.view_brkAwaitTrap mc) rfl
    refine ⟨mc', ⟨hmc', h.commits, hseen.trans h.seen, fun _ => ⟨?_, hpatch.off mc' hmc'⟩,
      fun hin => absurd hin (by simp [hstate']), fun hin => absurd hin (by simp [hstate'])⟩⟩
    rw [hpatch.code, hip, hcode, hword, Breakpoint.reset_set]
  | aborted habort => exact absurd (hstate.symm.trans habort) (by decide)
  | kick hinit => exact absurd (hstate.symm.trans hinit) (by decide)
  | surpriseTrap hfpe => exact absurd (hstate.symm.trans hfpe) (by decide)

/-- The word the processor fetches is the original one, unless it is the breakpoint. -/
theorem Follows.fetch_eq (h : Follows orig c₀ mc s) (hne : s.fetch ≠ B.brkInstr) :
    s.fetch = orig.read32 s.flow.ip ∧ (mc.state = .awaitTrap → s.flow.ip = s.trapped) := by
  by_cases hstate : mc.state = .awaitTrap
  · obtain ⟨hcode, -⟩ := h.inside hstate
    rcases h.window hstate with hip | ⟨hip, -⟩
    · rw [fetch, hcode, hip] at hne
      exact absurd (Mem.read32_write32 _ _ _) hne
    · refine ⟨?_, fun _ => hip⟩
      rw [fetch, hcode, hip, read32_set_next]
  · refine ⟨?_, fun h => absurd h hstate⟩
    rw [fetch, (h.outside hstate).1]

/-- An instruction commits; in the window it is the trapped one. -/
theorem Follows.commit (h : Follows orig c₀ mc s) (hne : s.fetch ≠ B.brkInstr) :
    Follows orig c₀ mc { s with
      flow := { s.flow with uc := (T.exec s.fetch s.cpu).1 }
      data := (T.exec s.fetch s.cpu).2
      commits := s.commits ++ [T.entry s.flow.code s.cpu] } := by
  obtain ⟨hfetch, htrapped⟩ := h.fetch_eq hne
  have hentry : T.entry s.flow.code s.cpu = T.entry orig s.cpu := by
    have hword : s.flow.code.read32 s.flow.ip = orig.read32 s.flow.ip := hfetch
    simp only [BrkTarget.entry, cpu]
    rw [show B.getIp s.flow.uc = s.flow.ip from rfl, hword]
  have hnext : T.exec s.fetch s.cpu = T.next orig s.cpu := by
    rw [hfetch]
    rfl
  refine ⟨h.mc_eq, ?_, ?_, h.outside, h.inside, fun hstate => .inl ?_⟩
  · rw [List.length_append, List.length_singleton, T.native_succ, ← h.commits, hentry,
      T.entry_congr h.seen]
  · rw [List.length_append, List.length_singleton, Function.iterate_succ_apply',
      ← T.seen_next_congr h.seen, ← hnext]
    rfl
  · rcases h.window hstate with hip | ⟨hip, -, hthrough⟩
    · have hback := htrapped hstate
      rw [hip] at hback
      exact absurd hback (by simp)
    · rw [← hip, ← hfetch] at hthrough
      rw [← hip]
      exact hthrough

/-- Outside of the window, a reset of trap mode does nothing. -/
theorem Follows.reset {mc' : MonitoringContext} {f : Flow B.toArch} (h : Follows orig c₀ mc s)
    (hstate : mc.state ≠ .awaitTrap) (hmc' : f.mc = some mc') (hstate' : mc'.state ≠ .awaitTrap)
    (hpatch : Unpatched mc s.flow f) (hview : T.view f.uc = T.view s.flow.uc) :
    Follows orig c₀ mc' { s with flow := f } := by
  obtain ⟨hcode, hoff⟩ := h.outside hstate
  have hseen : T.seen (cpu { s with flow := f }) = T.seen s.cpu := Prod.ext hview rfl
  refine ⟨hmc', h.commits, hseen.trans h.seen, fun _ => ⟨?_, hpatch.off mc' hmc'⟩,
    fun hin => absurd hin hstate', fun hin => absurd hin hstate'⟩
  rw [hpatch.code, Breakpoint.reset_code_of_ne_on _ _ hoff, hcode]

theorem Follows.state_eq (h : Follows orig c₀ mc s) : s.state = some mc.state := by
  rw [state, h.mc_eq, Option.map_some]

/-- One step keeps the invariant. -/
theorem Follows.step {e : SteppedEvent} (h : Follows orig c₀ mc s) (hstep : s.step e = some t) :
    ∃ mc', Follows orig c₀ mc' t := by
  cases e with
  | kick env =>
    simp only [Stepped.step, h.state_eq] at hstep
    split_ifs at hstep with hinit
    obtain ⟨f, hf, rfl⟩ := Option.map_eq_some_iff.mp hstep
    have hstate : mc.state = .init := Option.some.inj hinit
    cases Flow.step_effect hf h.mc_eq with
    | kick =>
      exact ⟨_, h.reset (by simp [hstate]) rfl (by simp) unpatched_brkInit (T.view_brkInit mc)⟩
    | aborted hs | endStep hs | surpriseTrap hs => exact absurd (hstate.symm.trans hs) (by decide)
  | expiry env =>
    obtain ⟨f, hf, rfl⟩ := Option.map_eq_some_iff.mp hstep
    cases Flow.step_effect hf h.mc_eq with
    | delay => exact ⟨_, ⟨rfl, h.commits, h.seen, h.outside, h.inside, h.window⟩⟩
    | flip hstate =>
      exact ⟨_, h.reset (by simp [hstate]) rfl (by simp [hstate]) unpatched_updateSampler
        (T.view_updateSampler mc)⟩
  | cpu env siCode =>
    simp only [Stepped.step, h.state_eq] at hstep
    split_ifs at hstep with hraises hfpe hbrk htrap
    · obtain ⟨f, hf, rfl⟩ := Option.map_eq_some_iff.mp hstep
      exact h.trap hraises (Option.some.inj hfpe) hf
    · obtain ⟨f, hf, rfl⟩ := Option.map_eq_some_iff.mp hstep
      exact h.land hbrk (Option.some.inj htrap) hf
    · obtain rfl := Option.some.inj hstep
      exact ⟨mc, h.commit hbrk⟩

/-- What a run shows: the commits are the native ones, and code memory is the original but for
the word behind the trapped instruction while FPSpy waits in AWAIT_TRAP. -/
structure Transparent (orig : Mem) (c₀ : T.Cpu) (s : Stepped T) : Prop where
  commits : s.commits = T.native orig c₀ s.commits.length
  code : ∃ mc, s.flow.mc = some mc ∧
    (mc.state ≠ .awaitTrap → s.flow.code = orig) ∧
    (mc.state = .awaitTrap →
      s.flow.code = orig.write32 (s.trapped + 4#64) B.brkInstr ∧
      Breakpoint.instr mc.trapModeState = orig.read32 (s.trapped + 4#64) ∧
      (s.flow.ip = s.trapped ∨ s.flow.ip = s.trapped + 4#64))

theorem Follows.transparent (h : Follows orig c₀ mc s) : Transparent orig c₀ s where
  commits := h.commits
  code := by
    refine ⟨mc, h.mc_eq, fun hne => (h.outside hne).1, fun hin => ?_⟩
    obtain ⟨hcode, hword⟩ := h.inside hin
    refine ⟨hcode, ?_, ?_⟩
    · rw [hword, Breakpoint.instr_set]
    · rcases h.window hin with hip | ⟨hip, -⟩
      · exact .inr hip
      · exact .inl hip

def load (f : Flow B.toArch) (d : T.Data) : Stepped T := ⟨f, d, [], 0⟩

theorem follows_load {f : Flow B.toArch} (h : Started cfg mc f) (d : T.Data) :
    Follows f.code (f.uc, d) mc (load f d) where
  mc_eq := h.mc_eq
  commits := rfl
  seen := rfl
  outside := fun _ => ⟨rfl, by rw [h.trapModeState]; decide⟩
  inside := fun hin => absurd (h.state.symm.trans hin) (by decide)
  window := fun hin => absurd (h.state.symm.trans hin) (by decide)

end Stepped

/-- Emulated single stepping is transparent for one thread, on either platform. -/
theorem Platform.run_transparent (P : Platform) {cfg : Config P.arch.toArch}
    (T : BrkTarget P.arch cfg) {mc : MonitoringContext} {f : Flow P.arch.toArch}
    (hstart : Started cfg mc f) (d : T.Data)
    {es : List SteppedEvent} {s : Stepped T}
    (hrun : Run.run Stepped.step (Stepped.load f d) es = some s) :
    s.Transparent f.code (f.uc, d) := by
  have hload : ∃ mc, Stepped.Follows f.code (f.uc, d) mc (Stepped.load f d) :=
    ⟨mc, Stepped.follows_load hstart d⟩
  obtain ⟨mc', h⟩ := Run.invariant (I := fun s => ∃ mc, Stepped.Follows f.code (f.uc, d) mc s)
    (fun _ _ _ ⟨_, h⟩ hstep => h.step hstep) hload hrun
  exact h.transparent

/-! ## A run on arm64 -/

namespace Arm64

def plain : Config arm64 := .defaults statics

def faddInstr : BitVec 32 := 0x1e602800

/-- A target that walks through its code; every `fadd` raises a monitored exception. -/
def walker : BrkTarget arm64Brk plain where
  Data := Unit
  View := Addr
  view uc := uc.pc
  exec _ c := ({ c.1 with pc := c.1.pc + 4#64 }, c.2)
  raises w c := w == faddInstr && trapsUnmasked statics c.1
  view_ip _ _ h := h
  view_clear _ := rfl
  view_mask _ := rfl
  view_unmask _ := rfl
  view_round _ _ _ := rfl
  exec_view _ _ _ _ h := ⟨congrArg (· + 4#64) h, rfl⟩
  exec_enables _ _ := rfl
  raises_unmasked w c h := by
    simp only [Bool.and_eq_true, beq_iff_eq] at h
    exact ⟨h.2, by rw [h.1]; decide⟩
  raises_long _ _ _ := ⟨trivial, rfl⟩

def twoFadds : Mem := Mem.write32 (Mem.write32 (fun _ => 0) 0 faddInstr) 4 faddInstr

def freshFlow : Flow arm64 where
  toGlobals := .start twoFadds
  toThread := .start 1 ⟨fun _ => 0, 0, 0, 0, some ⟨0, 0⟩⟩

def quietEnv : Env := ⟨0, 0, 0, 0, some 3⟩

def monitored : Flow arm64 := bringup plain quietEnv .inHandler id freshFlow

theorem started_monitored : ∃ mc, Started plain mc monitored :=
  ⟨_, started_bringup .inHandler rfl rfl trivial (by decide) (by decide) rfl⟩

def backToBack : List SteppedEvent := .kick quietEnv :: List.replicate 6 (.cpu quietEnv 0)

theorem run_transparent_backToBack :
    ∃ s : Stepped walker, Run.run Stepped.step (Stepped.load monitored ()) backToBack = some s ∧
      s.commits.length = 2 ∧ s.Transparent twoFadds (monitored.uc, ()) := by
  have hrun : (Run.run Stepped.step (Stepped.load (T := walker) monitored ())
      backToBack).map (·.commits.length) = some 2 := by decide +kernel
  obtain ⟨s, hs, hlen⟩ := Option.map_eq_some_iff.mp hrun
  obtain ⟨mc, hstart⟩ := started_monitored
  exact ⟨s, hs, hlen, Platform.run_transparent .arm64 walker hstart () hs⟩

end Arm64

end FPSpy
