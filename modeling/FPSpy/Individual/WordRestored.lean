import FPSpy.Individual.Stepping

/-!
# Where the saved word is put back

`arch_set_trap_mode` saves the word at the next instruction, `arch_reset_trap_mode` writes
it back at the program counter it finds. Every branch of `brk_trap_handler`, and the
surprise branch of `fp_trap_handler`, resets trap mode, wherever the thread has got to.
-/
namespace FPSpy

/-- Putting the word of `target` back at `pc` undoes the breakpoint: the same word was there, and
every byte of the breakpoint that stays is the one it replaced. -/
def Undoes (brkInstr : BitVec 32) (target pc : Addr) (m : Mem) : Prop :=
  m.read32 pc = m.read32 target ∧ ∀ k < 4, 4 ≤ (target + BitVec.ofNat 64 k - pc).toNat →
    brkInstr.extractLsb' (8 * k) 8 = m (target + BitVec.ofNat 64 k)

instance (brkInstr : BitVec 32) (target pc : Addr) (m : Mem) :
    Decidable (Undoes brkInstr target pc m) := inferInstanceAs (Decidable (_ ∧ _))

/-- At the breakpoint itself it does. -/
theorem undoes_self (brkInstr : BitVec 32) (target : Addr) (m : Mem) :
    Undoes brkInstr target target m := by
  refine ⟨rfl, fun k hk hout => ?_⟩
  rw [BitVec.add_comm, BitVec.add_sub_cancel, BitVec.toNat_ofNat] at hout
  omega

theorem reset_set_elsewhere_iff (brkInstr : BitVec 32) (target pc : Addr) (m : Mem) :
    (Breakpoint.reset pc (Breakpoint.set brkInstr target m).code
      (Breakpoint.set brkInstr target m).state).code = m ↔ Undoes brkInstr target pc m := by
  rw [Breakpoint.reset_of_on _ _ (Breakpoint.flag_set _ _ _), Breakpoint.instr_set]
  exact Mem.write32_elsewhere_iff m target pc brkInstr

section

variable {B : BrkArch} {cfg : Config B.toArch} {env : Env} {f g : Flow B.toArch}
  {mc : MonitoringContext} {uc : B.UContext} {m : Mem}

/-- The thread's state word is the one of `arch_set_trap_mode`, called in the context `uc` when
code memory was `m`. -/
structure Planted (uc : B.UContext) (m : Mem) (mc : MonitoringContext) (f : Flow B.toArch) :
    Prop where
  mc_eq : f.mc = some mc
  code : f.code = (B.setTrapMode uc m 0).code
  state : mc.trapModeState = (B.setTrapMode uc m 0).state

/-- A reset of trap mode anywhere. -/
theorem Planted.code_iff (h : Planted uc m mc f) (hreset : Unpatched mc f g) :
    g.code = m ↔ Undoes B.brkInstr (B.nextInstr uc m) f.ip m := by
  rw [hreset.code, h.code, h.state, B.setTrapMode_eq]
  exact reset_set_elsewhere_iff _ _ _ m

/-- Each state of `brk_trap_handler` resets trap mode. -/
theorem unpatched_brkTrapHandler (hmc : f.mc = some mc) :
    Unpatched mc f (brkTrapHandler cfg env f).1 := by
  simp only [brkTrapHandler, hmc]
  cases mc.state with
  | init => exact unpatched_brkInit
  | awaitFpe =>
    have hreset := unpatched_standDown cfg f
      { mc with state := .awaitFpe, abortingInTrap := true }
    exact ⟨hreset.code, hreset.ip, hreset.off⟩
  | awaitTrap => exact unpatched_brkAwaitTrap cfg env f mc
  | abort => exact unpatched_standDown cfg f mc

end

/-- After a handler that resets trap mode, code memory is what it was before the breakpoint exactly
if the word at the program counter is the word of the breakpoint's place. -/
theorem Platform.restored_iff (P : Platform) {cfg : Config P.arch.toArch} {env : Env}
    {f g : Flow P.arch.toArch} {mc : MonitoringContext} {uc : P.arch.UContext} {m : Mem}
    (h : Planted uc m mc f) :
    (Flow.resume cfg env (brkTrapHandler cfg env f) = some g →
      (g.code = m ↔ Undoes P.arch.brkInstr (P.arch.nextInstr uc m) f.ip m)) ∧
    ∀ siCode, mc.state ≠ .awaitFpe →
      Flow.resume cfg env (fpTrapHandler cfg env siCode f) = some g →
      (g.code = m ↔ Undoes P.arch.brkInstr (P.arch.nextInstr uc m) f.ip m) := by
  refine ⟨fun hg => ?_, fun siCode hstate hg => ?_⟩
  · rw [(Flow.sameCode_resume hg).code]
    exact h.code_iff (unpatched_brkTrapHandler h.mc_eq)
  · rw [(Flow.sameCode_resume hg).code]
    have hpath := fpTrapHandler_path cfg env siCode f
    generalize fpTrapHandler cfg env siCode f = r at hpath hg ⊢
    cases hpath with
    | dies hexit => obtain rfl | rfl := hexit <;> cases hg
    | bare hmc => exact absurd (hmc.symm.trans h.mc_eq) (by simp)
    | beginStep buffer written hmc hawait =>
      exact absurd (Option.some.inj (hmc.symm.trans h.mc_eq) ▸ hawait) hstate
    | @surprise mc' _ buffer written hmc =>
      obtain rfl := Option.some.inj (hmc.symm.trans h.mc_eq)
      have hreset := unpatched_standDown cfg (f.sampled cfg env siCode mc' written)
        { mc' with traceRecords := buffer }
      exact h.code_iff ⟨hreset.code, hreset.ip, hreset.off⟩

/-! ## A thread on arm64 -/

namespace Arm64

def trapped : Flow arm64 :=
  (fpTrapHandler plain quietEnv 0 (brkTrapHandler plain quietEnv monitored).1).1

def trappedAt (pc : Addr) : Flow arm64 := { trapped with uc := { trapped.uc with pc := pc } }

theorem planted_trappedAt (pc : Addr) :
    ∃ mc, Planted (B := arm64Brk) monitored.uc twoFadds mc (trappedAt pc) :=
  ⟨_, rfl, rfl, rfl⟩

/-- The thread reaches the breakpoint. -/
theorem restored_iff_reached :
    ∃ g, Flow.resume plain quietEnv (brkTrapHandler plain quietEnv (trappedAt 4)) = some g ∧
      g.code = twoFadds := by
  obtain ⟨mc, hplanted⟩ := planted_trappedAt 4
  obtain ⟨g, hg⟩ : ∃ g, Flow.resume plain quietEnv (brkTrapHandler plain quietEnv (trappedAt 4)) =
    some g := ⟨_, rfl⟩
  exact ⟨g, hg, ((Platform.restored_iff .arm64 hplanted).1 hg).mpr (undoes_self _ _ _)⟩

/-- A SIGTRAP from elsewhere finds the thread at 8: that word is overwritten, and the breakpoint
stays. -/
theorem not_restored_elsewhere :
    ∃ mc g, Planted (B := arm64Brk) monitored.uc twoFadds mc (trappedAt 8) ∧
      Flow.resume plain quietEnv (brkTrapHandler plain quietEnv (trappedAt 8)) = some g ∧
      g.code ≠ twoFadds ∧ g.code.read32 4 = brkInstr ∧ g.code.read32 8 = faddInstr := by
  obtain ⟨mc, hplanted⟩ := planted_trappedAt 8
  have hwords : (Flow.resume plain quietEnv (brkTrapHandler plain quietEnv (trappedAt 8))).map
      (fun g => (g.code.read32 4, g.code.read32 8)) = some (brkInstr, faddInstr) := by
    decide +kernel
  obtain ⟨g, hg, hread⟩ := Option.map_eq_some_iff.mp hwords
  obtain ⟨hbrk, hfadd⟩ := Prod.ext_iff.mp hread
  refine ⟨mc, g, hplanted, hg, fun h => ?_, hbrk, hfadd⟩
  rw [h] at hbrk
  exact absurd hbrk (by decide +kernel)

end Arm64
end FPSpy
