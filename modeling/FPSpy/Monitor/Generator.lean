import FPSpy.Lib.Lcg
import FPSpy.Monitor.Sampler
import Mathlib.Algebra.Ring.Periodic

/-!
# The random numbers of a sampler

Each sampler has a generator of its own, which it seeds when its context is brought up and
moves on with every draw. The multiplier is 1 modulo 4 and the increment is odd, so that the
generator runs through all words of 64 bits before it repeats itself.
-/
namespace FPSpy

def seedRand (s : SamplerState) (seed : BitVec 64) : SamplerState := { s with xi := seed }

/-- `get_rand`: the generator moves, and its new word is drawn. -/
def getRand (s : SamplerState) : BitVec 64 × SamplerState :=
  let xi := pumpRand s.xi
  (xi, { s with xi := xi })

def afterDraws (s : SamplerState) : Nat → SamplerState
  | 0 => s
  | n + 1 => (getRand (afterDraws s n)).2

def drawn (s : SamplerState) (n : Nat) : BitVec 64 := (getRand (afterDraws s n)).1

/-- A sequence that runs through all words of 64 bits, in the same order again and again. -/
structure FullCycle (x : Nat → BitVec 64) : Prop where
  eq_iff : ∀ m n, x m = x n ↔ m ≡ n [MOD 2 ^ 64]
  periodic_iff : ∀ p, Function.Periodic x p ↔ 2 ^ 64 ∣ p
  once : ∀ m v, ∃! i, i < 2 ^ 64 ∧ x (m + i) = v

theorem pumpRand_eq_step : pumpRand = Lcg.step 0x5deece66d#64 0xb#64 := rfl

theorem xi_afterDraws (s : SamplerState) (n : Nat) : (afterDraws s n).xi = pumpRand^[n] s.xi := by
  induction n with
  | zero => rfl
  | succ n ih =>
    rw [Function.iterate_succ_apply', ← ih]
    rfl

theorem drawn_eq (s : SamplerState) (n : Nat) : drawn s n = pumpRand^[n] (pumpRand s.xi) := by
  rw [← Function.iterate_succ_apply, Function.iterate_succ_apply', ← xi_afterDraws]
  rfl

theorem iterate_pumpRand_eq_iff (x : BitVec 64) (m n : Nat) :
    pumpRand^[m] x = pumpRand^[n] x ↔ m ≡ n [MOD 2 ^ 64] := by
  rw [pumpRand_eq_step]
  exact Lcg.iterate_eq_iterate_iff (by decide) (by decide) x m n

theorem existsUnique_pumpRand (x v : BitVec 64) : ∃! i, i < 2 ^ 64 ∧ pumpRand^[i] x = v := by
  rw [pumpRand_eq_step]
  exact Lcg.existsUnique_iterate (by decide) (by decide) x v

theorem fullCycle_pumpRand (x : BitVec 64) : FullCycle fun n => pumpRand^[n] x where
  eq_iff := iterate_pumpRand_eq_iff x
  periodic_iff p := by
    have hback : ∀ n, pumpRand^[n + p] x = pumpRand^[n] x ↔ 2 ^ 64 ∣ p := by
      intro n
      rw [iterate_pumpRand_eq_iff, Nat.add_modEq_left_iff]
    exact ⟨fun h => (hback 0).mp (h 0), fun h n => (hback n).mpr h⟩
  once m v := by
    simp only [Nat.add_comm m, Function.iterate_add_apply]
    exact existsUnique_pumpRand _ v

/-- The generator's words and a sampler's draws run through all of the space from any seed, and
samplers that differ in their seeds only draw the same words in the same order. -/
theorem getRand_fullCycle :
    (∀ seed, FullCycle fun n => pumpRand^[n] seed) ∧
    (∀ s seed, FullCycle (drawn (seedRand s seed))) ∧
    ∀ s seed seed', ∃ m, ∀ n, drawn (seedRand s seed') n = drawn (seedRand s seed) (m + n) := by
  refine ⟨fullCycle_pumpRand, fun s seed => ?_, fun s seed seed' => ?_⟩
  · rw [funext (drawn_eq (seedRand s seed))]
    exact fullCycle_pumpRand _
  · obtain ⟨m, ⟨-, hm⟩, -⟩ := existsUnique_pumpRand (pumpRand seed) (pumpRand seed')
    refine ⟨m, fun n => ?_⟩
    rw [drawn_eq, drawn_eq, Nat.add_comm, Function.iterate_add_apply]
    simp only [seedRand, hm]

end FPSpy
