import FPSpy.Individual.Thread
import FPSpy.Machine.Platform

/-!
# What the handlers do to code memory

On a platform that emulates trap mode by breakpoints, an event either plants a breakpoint
at the next instruction, or undoes the thread's own one by writing the saved word at the
current program counter, or leaves code memory alone.
-/
namespace FPSpy

variable {B : BrkArch} {cfg : Config B.toArch} {env : Env} {f g : Flow B.toArch}
  {mc : MonitoringContext} {e : ThreadEvent}

def Flow.ip (f : Flow B.toArch) : Addr := B.getIp f.uc

@[simp] theorem ip_forceRound (c : BitVec 32) (uc : B.UContext) :
    B.getIp (forceRound cfg c uc) = B.getIp uc := by
  unfold forceRound
  split_ifs <;> simp

/-- The breakpoint that the state word remembers is undone at the current instruction. -/
structure Unpatched (mc : MonitoringContext) (f g : Flow B.toArch) : Prop where
  code : g.code = (Breakpoint.reset f.ip f.code mc.trapModeState).code
  ip : g.ip = f.ip
  off : ∀ mc', g.mc = some mc' → Breakpoint.flag mc'.trapModeState ≠ Breakpoint.trapModeOn

/-- Resetting trap mode, with operations before it that keep the program counter. -/
theorem unpatched_of_reset {uc : B.UContext} (huc : B.getIp uc = f.ip)
    (hg : g.uc = (B.resetTrapMode uc f.code mc.trapModeState).uc ∧
      g.code = (B.resetTrapMode uc f.code mc.trapModeState).code)
    (hmc : g.mc.map (·.trapModeState) = some (B.resetTrapMode uc f.code mc.trapModeState).state) :
    Unpatched mc f g := by
  rw [B.resetTrapMode_eq, huc] at hg hmc
  refine ⟨hg.2, ?_, ?_⟩
  · rw [Flow.ip, hg.1, huc]
  · intro mc' h
    rw [h, Option.map_some] at hmc
    rw [Option.some.inj hmc]
    exact Breakpoint.flag_reset_ne_on _ _ _

variable (cfg mc f) in
theorem unpatched_standDown : Unpatched mc f (standDown cfg mc f) :=
  unpatched_of_reset (by simp [Flow.ip]) ⟨rfl, rfl⟩ rfl

theorem unpatched_brkInit : Unpatched mc f (brkInit cfg mc f) :=
  unpatched_of_reset (by simp [Flow.ip]) ⟨rfl, rfl⟩ rfl

theorem unpatched_updateSampler : Unpatched mc f (updateSampler cfg env mc f) := by
  refine unpatched_of_reset ?_ ⟨rfl, rfl⟩ rfl
  cases mc.sampler.state <;> simp [Flow.ip]

/-- A second reset has nothing left to undo. -/
theorem Unpatched.trans {mc' : MonitoringContext} {h : Flow B.toArch} (hfg : Unpatched mc f g)
    (hmc : g.mc = some mc') (hgh : Unpatched mc' g h) : Unpatched mc f h where
  code := by
    rw [hgh.code, Breakpoint.reset_code_of_ne_on _ _ (hfg.off mc' hmc), hfg.code]
  ip := hgh.ip.trans hfg.ip
  off := hgh.off

variable (cfg env mc f) in
theorem unpatched_brkAwaitTrap : Unpatched mc f (brkAwaitTrap cfg env mc f) := by
  have hrearmed : Unpatched mc f
      { f with
        uc := (brkRearm cfg mc f).uc
        code := (brkRearm cfg mc f).code
        mc := some { mc with
          count := mc.count + 1
          trapModeState := (brkRearm cfg mc f).state
          state := .awaitFpe } } := by
    refine unpatched_of_reset ?_ ⟨rfl, rfl⟩ rfl
    split_ifs <;> simp [Flow.ip]
  unfold brkAwaitTrap
  dsimp only
  split_ifs with hd
  · exact hrearmed.trans rfl unpatched_updateSampler
  · exact hrearmed

variable (cfg env) in
/-- An abort does not touch the thread's code or registers. -/
theorem Unpatched.abortInHandler {mc' : MonitoringContext} (h : Unpatched mc f g)
    (hinited : g.inited = true) (hmc : g.mc = some mc') :
    Unpatched mc f (g.abortInHandler cfg env) ∧ (g.abortInHandler cfg env).inited = true ∧
      ∃ mc'', (g.abortInHandler cfg env).mc = some mc'' ∧
        (mc''.state = .abort ∨ mc''.state = mc'.state) := by
  cases ha : g.aborted with
  | true =>
    have hsame : g.abortInHandler cfg env = g := abortOperation_of_aborted _ hinited ha
    rw [hsame]
    exact ⟨h, hinited, mc', hmc, .inr rfl⟩
  | false =>
    have hspec := abortInHandler_spec cfg env hinited ha hmc
    obtain ⟨buffer, hmc''⟩ := hspec.mc
    refine ⟨⟨hspec.code.trans h.code, ?_, ?_⟩, hspec.inited, _, hmc'', .inl rfl⟩
    · rw [Flow.ip, hspec.uc]
      exact h.ip
    · intro mc'' hm
      rw [← Option.some.inj (hmc''.symm.trans hm)]
      exact h.off mc' hmc

variable (cfg mc f) in
/-- A step begins: the word at the next instruction is saved and replaced. -/
theorem patched_beginStep :
    (beginStep cfg mc f).code =
        (Breakpoint.set B.brkInstr (B.nextInstr f.uc f.code) f.code).code ∧
      (beginStep cfg mc f).mc = some { mc with
        trapModeState := (Breakpoint.set B.brkInstr (B.nextInstr f.uc f.code) f.code).state
        state := .awaitTrap } ∧
      (beginStep cfg mc f).ip = f.ip := by
  have hip : B.getIp (forceRound cfg cfg.ourRoundConfig
      (B.maskFpTraps cfg.statics (B.clearFpExceptions cfg.statics f.uc))) = B.getIp f.uc := by simp
  refine ⟨?_, ?_, ?_⟩ <;>
    simp only [beginStep, B.setTrapMode_eq, B.nextInstr_congr _ _ _ hip, Flow.ip, hip]

end FPSpy
