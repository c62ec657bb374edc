import Mathlib.Logic.Basic

/-!
# Finite runs of a partial step function

A system is a function `step : σ → ι → Option σ`: the state after an event, or
`none` where the event cannot happen. `run` folds it over a list of events.
`Admits G` is the runs all of whose steps are taken in a state that satisfies the
guard `G`; every state of such a run is the end of an admitted prefix, so a fact
about the last state of every run is a fact about every state reached.
-/
namespace FPSpy.Run

variable {σ ι : Type*} (step : σ → ι → Option σ)

def run : σ → List ι → Option σ
  | s, [] => some s
  | s, e :: es => (step s e).bind (run · es)

def Admits (G : σ → ι → Prop) : σ → List ι → Prop
  | _, [] => True
  | s, e :: es => G s e ∧ ∀ t, step s e = some t → Admits G t es

variable {step}

@[simp] theorem run_nil (s : σ) : run step s [] = some s := rfl

theorem run_cons {s u : σ} {e : ι} {es : List ι} :
    run step s (e :: es) = some u ↔ ∃ t, step s e = some t ∧ run step t es = some u := by
  simp [run, Option.bind_eq_some_iff]

theorem run_append {s u : σ} {es fs : List ι} :
    run step s (es ++ fs) = some u ↔ ∃ t, run step s es = some t ∧ run step t fs = some u := by
  induction es generalizing s with
  | nil => simp
  | cons e es ih =>
    simp only [List.cons_append, run_cons, ih]
    exact ⟨fun ⟨t, ht, v, hv, hu⟩ => ⟨v, ⟨t, ht, hv⟩, hu⟩,
      fun ⟨v, ⟨t, ht, hv⟩, hu⟩ => ⟨t, ht, v, hv, hu⟩⟩

/-- What a guarded step preserves, an admitted run preserves. -/
theorem invariant_of_admits {G : σ → ι → Prop} {I : σ → Prop}
    (hstep : ∀ s e t, I s → G s e → step s e = some t → I t)
    {s u : σ} {es : List ι} (hadm : Admits step G s es) (hs : I s)
    (hrun : run step s es = some u) : I u := by
  induction es generalizing s with
  | nil => cases hrun; exact hs
  | cons e es ih =>
    obtain ⟨t, ht, hu⟩ := run_cons.mp hrun
    exact ih (hadm.2 t ht) (hstep s e t hs hadm.1 ht) hu

/-- What every step preserves, every run preserves. -/
theorem invariant {I : σ → Prop} (hstep : ∀ s e t, I s → step s e = some t → I t)
    {s u : σ} {es : List ι} (hs : I s) (hrun : run step s es = some u) : I u := by
  induction es generalizing s with
  | nil => cases hrun; exact hs
  | cons e es ih =>
    obtain ⟨t, ht, hu⟩ := run_cons.mp hrun
    exact ih (hstep s e t hs ht) hu

/-- Events that meet the guard in every state make an admitted run. -/
theorem admits_of_forall {G : σ → ι → Prop} {es : List ι} (h : ∀ e ∈ es, ∀ s, G s e) (s : σ) :
    Admits step G s es := by
  induction es generalizing s with
  | nil => trivial
  | cons e es ih =>
    exact ⟨h e List.mem_cons_self s, fun t _ => ih (fun e he => h e (List.mem_cons_of_mem _ he)) t⟩

/-- What holds of every event may be added to the guard. -/
theorem Admits.and_of_forall {F : ι → Prop} {G : σ → ι → Prop} {s : σ} {es : List ι}
    (h : Admits step G s es) (hF : ∀ e ∈ es, F e) :
    Admits step (fun s e => F e ∧ G s e) s es := by
  induction es generalizing s with
  | nil => trivial
  | cons e es ih =>
    exact ⟨⟨hF e List.mem_cons_self, h.1⟩, fun t ht =>
      ih (h.2 t ht) fun e he => hF e (List.mem_cons_of_mem _ he)⟩

/-- Guards that agree in every state an invariant allows admit the same runs. -/
theorem admits_congr {G H : σ → ι → Prop} {J : σ → Prop}
    (hstep : ∀ s e t, J s → step s e = some t → J t) (hguard : ∀ s e, J s → (G s e ↔ H s e))
    {s : σ} {es : List ι} (hs : J s) : Admits step G s es ↔ Admits step H s es := by
  induction es generalizing s with
  | nil => rfl
  | cons e es ih =>
    refine and_congr (hguard s e hs) (forall_congr' fun t => ?_)
    exact imp_congr_right fun ht => ih (hstep s e t hs ht)

variable (step) in
def check (g : σ → ι → Bool) : σ → List ι → Bool
  | _, [] => true
  | s, e :: es => g s e && (step s e).all fun t => check g t es

/-- A run that passes the test is admitted, if the test is right in the states it keeps to. -/
theorem admits_of_check_of_invariant {G : σ → ι → Prop} {g : σ → ι → Bool} {J : σ → Prop}
    (hstep : ∀ s e t, J s → g s e = true → step s e = some t → J t)
    (hg : ∀ s e, J s → g s e = true → G s e) {s : σ} {es : List ι} (hs : J s)
    (h : check step g s es = true) : Admits step G s es := by
  induction es generalizing s with
  | nil => trivial
  | cons e es ih =>
    simp only [check, Bool.and_eq_true] at h
    refine ⟨hg s e hs h.1, fun t ht => ih (hstep s e t hs h.1 ht) ?_⟩
    simpa [ht] using h.2

/-- A run that passes the test is admitted. -/
theorem admits_of_check {G : σ → ι → Prop} {g : σ → ι → Bool} (hg : ∀ s e, g s e = true → G s e)
    {s : σ} {es : List ι} (h : check step g s es = true) : Admits step G s es :=
  admits_of_check_of_invariant (J := fun _ => True) (fun _ _ _ _ _ _ => trivial)
    (fun s e _ => hg s e) trivial h

end FPSpy.Run
