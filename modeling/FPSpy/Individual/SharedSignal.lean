import FPSpy.Individual.Lifetime

/-!
# A signal of the process

A signal that is sent to a process may be taken by any of its threads that does not block it.
A thread starts with the signal mask of the one that creates it, and may change it at any
time.
-/
namespace FPSpy

variable {A : Arch} {cfg : Config A} {libc : Libc A}

structure Masked (A : Arch) extends Proc A where
  blocks : Nat → Bool

namespace Masked

def blocksAfter (s : Masked A) : ProcEvent → Nat → Bool
  | .pthreadCreate t u => Function.update s.blocks u (s.blocks t)
  | _ => s.blocks

def step (cfg : Config A) (libc : Libc A) (s : Masked A) (e : ProcEvent) : Option (Masked A) :=
  (s.toProc.step cfg libc e).map fun q => ⟨q, s.blocksAfter e⟩

def mask (t : Nat) (b : Bool) (s : Masked A) : Option (Masked A) :=
  if (s.thread t).isSome then some { s with blocks := Function.update s.blocks t b } else none

/-- Only thread `t` can take the signal: where there are other threads, they block it and `t`
does not. -/
def Sole (s : Masked A) (t : Nat) : Prop :=
  ∀ u, u ≠ t → (s.thread u).isSome = true → s.blocks u = true ∧ s.blocks t = false

def CreateLeaves (s : Masked A) (t u v : Nat) : Prop :=
  v ≠ u ∧ s.blocks t = true ∧ s.blocks v = false

instance (s : Masked A) (t u v : Nat) : Decidable (s.CreateLeaves t u v) :=
  inferInstanceAs (Decidable (_ ∧ _))

/-- A thread that changes its mask leaves the signal to thread `v`. -/
def MaskLeaves (s : Masked A) (t : Nat) (b : Bool) (v : Nat) : Prop :=
  if v = t then b = true → ∀ u, u ≠ v → s.thread u = none else b = true

variable {s : Masked A} {t u v : Nat} {b : Bool}

theorem Sole.eq (h : s.Sole v) (hlive : (s.thread t).isSome = true) (hopen : s.blocks t = false) :
    t = v := by
  by_contra hne
  simp [(h t hne hlive).1] at hopen

theorem Sole.mono {q : Proc A}
    (hthread : ∀ w, (q.thread w).isSome = true → (s.thread w).isSome = true) (h : s.Sole t) :
    Sole ⟨q, s.blocks⟩ t :=
  fun w hw hlive => h w hw (hthread w hlive)

theorem Sole.mask (h : s.Sole v) (hleaves : s.MaskLeaves t b v) :
    Sole { s with blocks := Function.update s.blocks t b } v := by
  intro w hw hlive
  obtain ⟨hblocks, hopen⟩ := h w hw hlive
  unfold MaskLeaves at hleaves
  split_ifs at hleaves with hvt
  · subst hvt
    cases b with
    | false => simp [hw, hblocks]
    | true =>
      have hlive : (s.thread w).isSome = true := hlive
      simp [hleaves rfl w hw] at hlive
  · subst hleaves
    by_cases hwt : w = t
    · simp [hwt, hvt, hopen]
    · simp [hwt, hvt, hopen, hblocks]

theorem Sole.create {l : Option (Live A)} (h : s.Sole v) (hleaves : s.CreateLeaves t u v) :
    Sole { s with
      thread := Function.update s.thread u l
      blocks := Function.update s.blocks u (s.blocks t) } v := by
  obtain ⟨hvu, hblocks, hopen⟩ := hleaves
  intro w hw hlive
  by_cases hwu : w = u
  · simp [hwu, hvu, hblocks, hopen]
  · have hlive : (s.thread w).isSome = true := by simpa [hwu] using hlive
    simp [hwu, hvu, hopen, (h w hw hlive).1]

/-! ## Threads below a bound -/

def Below (n : Nat) (s : Masked A) : Prop := ∀ u, n ≤ u → s.thread u = none

def soleBelow (n : Nat) (s : Masked A) (t : Nat) : Bool :=
  (List.range n).all fun u => u == t || (s.thread u).isNone || (s.blocks u && !s.blocks t)

variable {n : Nat}

theorem sole_of_soleBelow (hn : s.Below n) (h : s.soleBelow n t = true) : s.Sole t := by
  intro u hu hlive
  have hlt : u < n := by
    by_contra hge
    simp [hn u (Nat.le_of_not_lt hge)] at hlive
  have htest := List.all_eq_true.mp h u (List.mem_range.mpr hlt)
  cases hthread : s.thread u with
  | none => simp [hthread] at hlive
  | some l => simpa [hu, hthread] using htest

/-- The thread that takes or loses the signal is the one it is left to. -/
theorem maskLeaves_of_ne (h : b = (v != t)) : s.MaskLeaves t b v := by
  unfold MaskLeaves
  split_ifs with hvt
  · simp [h, hvt]
  · simp [h, hvt]

/-- A thread only comes by being created. -/
theorem Below.step {e : ProcEvent} {q : Proc A} {blocks : Nat → Bool} (hn : s.Below n)
    (hcreate : ∀ t u, e = .pthreadCreate t u → u < n)
    (hstep : s.toProc.step cfg libc e = some q) : Below n ⟨q, blocks⟩ := by
  intro v hv
  by_contra hlive
  rcases Proc.isSome_of_step hstep (Option.isSome_iff_ne_none.mpr hlive) with h | ⟨t, h⟩
  · simp [hn v hv] at h
  · exact absurd (hcreate t v h) (Nat.not_lt.mpr hv)

end Masked
end FPSpy
