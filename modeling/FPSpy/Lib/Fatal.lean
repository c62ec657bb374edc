import Mathlib.Init

/-!
# Programs that may die

`StateT σ (Except ε)` is a program on the state `σ` that can be ended at any point, with the
reason `ε`. It is run from front to back: what its first part does to the state decides how
the rest goes on. `Total x u` says that `x` never ends early and does `u` to the state.
-/
namespace FPSpy.Fatal

variable {σ ε α β : Type} {s t : σ} {x y : StateT σ (Except ε) α} {k : α → StateT σ (Except ε) β}

theorem run_bind_ok {a : α} (h : x.run s = .ok (a, t)) (k : α → StateT σ (Except ε) β) :
    (x >>= k).run s = (k a).run t := by
  rw [StateT.run_bind, h]
  rfl

theorem run_ite (c : Prop) [Decidable c] (x y : StateT σ (Except ε) α) (s : σ) :
    (if c then x else y).run s = if c then x.run s else y.run s := by
  split <;> rfl

def guarded (c : Prop) [Decidable c] (x : StateT σ (Except ε) Unit) : StateT σ (Except ε) Unit :=
  if c then x else pure ()

def Total (x : StateT σ (Except ε) Unit) (u : σ → σ) : Prop := ∀ s, x.run s = .ok ((), u s)

theorem total_modify (u : σ → σ) : Total (ε := ε) (modify u) u := fun _ => rfl

theorem Total.run_bind {x : StateT σ (Except ε) Unit} {u : σ → σ} (h : Total x u)
    (k : Unit → StateT σ (Except ε) β) (s : σ) : (x >>= k).run s = (k ()).run (u s) :=
  run_bind_ok (h s) k

end FPSpy.Fatal
