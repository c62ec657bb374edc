import FPSpy.Individual.Process
import FPSpy.Individual.Stepping

/-!
# Breakpoints in shared code

Threads execute the same code memory, but each keeps its own saved word. Two windows do not
disturb one another when the words they patch have no byte in common, and when each thread
ends its step at its own breakpoint. Otherwise a thread saves the breakpoint of another as
if it were program text, or writes its saved word somewhere else.

`planted` is bookkeeping of the model: where each thread in AWAIT_TRAP has put its
breakpoint.
-/
namespace FPSpy

section

variable {ι : Type} {B : BrkArch} {cfg : Config B.toArch}

structure Shared (ι : Type) (B : BrkArch) where
  process : Process ι B.toArch
  planted : ι → Option Addr

/-- A whole handler step in a thread, or the target running on to other registers. -/
inductive SharedEvent (ι : Type) (B : BrkArch) where
  | handler (t : ι) (e : ThreadEvent)
  | run (t : ι) (uc : B.UContext)

namespace Shared

def state (s : Shared ι B) (t : ι) : Option MonitorState := (s.process.thread t).mc.map (·.state)

def plantedAfter (s : Shared ι B) (t : ι) (e : ThreadEvent) : Option Addr :=
  match e, s.state t with
  | .fpTrap _ _, some .awaitFpe =>
    some (B.nextInstr (s.process.thread t).uc s.process.globals.code)
  | .brkTrap _, some .awaitTrap => none
  | _, _ => s.planted t

/-- One step. The target does not change its trap enables. -/
def step [DecidableEq ι] (cfg : Config B.toArch) (s : Shared ι B) :
    SharedEvent ι B → Option (Shared ι B)
  | .handler t e => ((s.process.flow t).step cfg e).map fun f =>
    ⟨s.process.put t f, Function.update s.planted t (s.plantedAfter t e)⟩
  | .run t uc =>
    if B.trapsUnmasked cfg.statics uc = (s.process.flow t).trapsUnmasked cfg then
      some { s with process := s.process.put t { s.process.flow t with uc := uc } }
    else none

/-- Code memory is the original whenever nobody is in AWAIT_TRAP, and what a thread has saved is
the original word, not a breakpoint of another thread. -/
structure Intact (orig : Mem) (s : Shared ι B) : Prop where
  code : (∀ t, s.state t ≠ some .awaitTrap) → s.process.globals.code = orig
  saved : ∀ t mc, (s.process.thread t).mc = some mc → mc.state = .awaitTrap →
    ∃ a, s.planted t = some a ∧ Breakpoint.instr mc.trapModeState = orig.read32 a

/-- A new breakpoint keeps clear of those of the other threads, and a step ends at the thread's
own breakpoint. -/
def Exclusive (s : Shared ι B) : SharedEvent ι B → Prop
  | .handler t (.fpTrap _ _) => s.state t = some .awaitFpe → ∀ u a, u ≠ t → s.planted u = some a →
    Mem.Apart (B.nextInstr (s.process.thread t).uc s.process.globals.code) a
  | .handler t (.brkTrap _) => s.state t = some .awaitTrap →
    s.planted t = some (s.process.flow t).ip
  | _ => True

def Holds (cfg : Config B.toArch) (orig : Mem) (planted : Option Addr) (mc : MonitoringContext)
    (uc : B.UContext) : Prop :=
  if mc.state = .awaitTrap then
    B.trapsUnmasked cfg.statics uc = false ∧ ∃ a, planted = some a ∧
      mc.trapModeState = Breakpoint.encode (orig.read32 a) Breakpoint.trapModeOn
  else planted = none ∧ Breakpoint.flag mc.trapModeState ≠ Breakpoint.trapModeOn

structure Patched (cfg : Config B.toArch) (orig : Mem) (s : Shared ι B) : Prop where
  inited : ι → s.process.globals.inited = true
  holds : ∀ t, ∃ mc, (s.process.thread t).mc = some mc ∧
    Holds cfg orig (s.planted t) mc (s.process.thread t).uc
  apart : ∀ t u a b, t ≠ u → s.planted t = some a → s.planted u = some b → Mem.Apart a b
  clean : ∀ x, (∀ t a, s.planted t = some a → 4 ≤ (x - a).toNat) →
    s.process.globals.code x = orig x

variable {orig : Mem} {s s' : Shared ι B}

theorem Patched.intact (h : Patched cfg orig s) : Intact orig s where
  code := by
    intro hnone
    funext x
    refine h.clean x fun t a ha => ?_
    obtain ⟨mc, hmc, hold⟩ := h.holds t
    have hne : mc.state ≠ .awaitTrap := by
      intro hs
      exact hnone t (by rw [state, hmc, Option.map_some, hs])
    rw [Holds, if_neg hne] at hold
    rw [hold.1] at ha
    cases ha
  saved := by
    intro t mc hmc hs
    obtain ⟨mc', hmc', hold⟩ := h.holds t
    rw [hmc] at hmc'
    obtain rfl := Option.some.inj hmc'
    rw [Holds, if_pos hs] at hold
    obtain ⟨-, a, ha, hword⟩ := hold
    exact ⟨a, ha, by rw [hword, Breakpoint.instr_encode]⟩

theorem Patched.state_eq {t : ι} {mc : MonitoringContext}
    (hmc : (s.process.thread t).mc = some mc) : s.state t = some mc.state := by
  rw [state, hmc, Option.map_some]

/-- A breakpoint trap outside of the window leaves the breakpoints as they are. -/
theorem plantedAfter_brkTrap {t : ι} {mc : MonitoringContext} {env : Env}
    (hmc : (s.process.thread t).mc = some mc) (hstate : mc.state ≠ .awaitTrap) :
    s.plantedAfter t (.brkTrap env) = s.planted t := by
  unfold plantedAfter
  rw [Patched.state_eq hmc]
  cases hs : mc.state <;> simp_all

/-- So does an FP trap that comes as a surprise. -/
theorem plantedAfter_fpTrap {t : ι} {mc : MonitoringContext} {env : Env} {siCode : BitVec 32}
    (hmc : (s.process.thread t).mc = some mc) (hstate : mc.state ≠ .awaitFpe) :
    s.plantedAfter t (.fpTrap env siCode) = s.planted t := by
  unfold plantedAfter
  rw [Patched.state_eq hmc]
  cases hs : mc.state <;> simp_all

/-- The word where a thread is about to plant its breakpoint is still the original. -/
theorem Patched.read32_eq {t : ι} {a : Addr} (h : Patched cfg orig s) (hnone : s.planted t = none)
    (hapart : ∀ u b, u ≠ t → s.planted u = some b → Mem.Apart a b) :
    s.process.globals.code.read32 a = orig.read32 a := by
  apply Mem.read32_congr
  intro k hk
  refine h.clean _ fun u b hb => ?_
  have hu : u ≠ t := by
    rintro rfl
    rw [hnone] at hb
    cases hb
  have := (hapart u b hu hb).symm.not_mem hk
  omega

variable [DecidableEq ι]

/-- Thread `t` moves; its breakpoint is now `p`. -/
theorem Patched.put {t : ι} {p : Option Addr} {g : Flow B.toArch} {mc : MonitoringContext}
    (h : Patched cfg orig s) (hinited : g.inited = true) (hmc : g.mc = some mc)
    (hold : Holds cfg orig p mc g.uc)
    (hapart : ∀ a u b, p = some a → u ≠ t → s.planted u = some b → Mem.Apart a b)
    (hclean : ∀ x, (∀ a, p = some a → 4 ≤ (x - a).toNat) →
      (∀ u b, u ≠ t → s.planted u = some b → 4 ≤ (x - b).toNat) → g.code x = orig x) :
    Patched cfg orig ⟨s.process.put t g, Function.update s.planted t p⟩ where
  inited := fun _ => hinited
  holds := by
    intro u
    by_cases hu : u = t
    · subst hu
      exact ⟨mc, by simpa [Process.put] using hmc, by simpa [Process.put] using hold⟩
    · simpa [s.process.thread_put_of_ne g hu, hu] using h.holds u
  apart := by
    intro u v a b huv ha hb
    by_cases hu : u = t
    · subst hu
      have hv : v ≠ u := Ne.symm huv
      simp only [Function.update_self, ne_eq, hv, not_false_eq_true, Function.update_of_ne] at ha hb
      exact hapart a v b ha hv hb
    · by_cases hv : v = t
      · subst hv
        simp only [Function.update_self, ne_eq, hu, not_false_eq_true, Function.update_of_ne]
          at ha hb
        exact (hapart b u a hb hu ha).symm
      · simp only [ne_eq, hu, hv, not_false_eq_true, Function.update_of_ne] at ha hb
        exact h.apart u v a b huv ha hb
  clean := by
    intro x hx
    refine hclean x (fun a ha => ?_) fun u b hu hb => ?_
    · exact hx t a (by simpa using ha)
    · exact hx u b (by simpa [hu] using hb)

/-- Thread `t` moves without touching code memory or its breakpoint. -/
theorem Patched.put_same {t : ι} {g : Flow B.toArch} {mc : MonitoringContext}
    (h : Patched cfg orig s) (hinited : g.inited = true) (hmc : g.mc = some mc)
    (hcode : g.code = s.process.globals.code)
    (hold : Holds cfg orig (s.planted t) mc g.uc) :
    Patched cfg orig ⟨s.process.put t g, Function.update s.planted t (s.planted t)⟩ := by
  refine h.put hinited hmc hold (fun a u b ha hu hb => h.apart t u a b (Ne.symm hu) ha hb) ?_
  intro x hown hothers
  rw [hcode]
  refine h.clean x fun u b hb => ?_
  by_cases hu : u = t
  · exact hown b (hu ▸ hb)
  · exact hothers u b hu hb

section

variable {t : ι} {mc : MonitoringContext} {env : Env}

/-- A step begins at a word that nobody has patched. -/
theorem Patched.beginStep {siCode : BitVec 32} (buffer written : List TraceRecord)
    (h : Patched cfg orig s) (hmc : (s.process.thread t).mc = some mc)
    (hstate : mc.state = .awaitFpe)
    (hexcl : s.Exclusive (.handler t (.fpTrap env siCode))) :
    Patched cfg orig ⟨s.process.put t (FPSpy.beginStep cfg { mc with traceRecords := buffer }
        ((s.process.flow t).sampled cfg env siCode mc written)),
      Function.update s.planted t (s.plantedAfter t (.fpTrap env siCode))⟩ := by
  have hs : s.state t = some .awaitFpe := by rw [Patched.state_eq hmc, hstate]
  obtain ⟨mc', hmc', hold⟩ := h.holds t
  obtain rfl := Option.some.inj (hmc.symm.trans hmc')
  rw [Holds, if_neg (by simp [hstate])] at hold
  have hapart := hexcl hs
  have hread := h.read32_eq hold.1 hapart
  obtain ⟨hcode, hmc'', -⟩ := patched_beginStep cfg
    ((s.process.flow t).sampled cfg env siCode mc written) { mc with traceRecords := buffer }
  have hafter : s.plantedAfter t (.fpTrap env siCode) =
      some (B.nextInstr (s.process.thread t).uc s.process.globals.code) := by
    simp only [plantedAfter, hs]
  rw [hafter]
  refine h.put (h.inited t) hmc'' ?_
    (fun a u b ha hu hb => Option.some.inj ha ▸ hapart u b hu hb) ?_
  · rw [Holds, if_pos rfl]
    refine ⟨masked_beginStep _, _, rfl, ?_⟩
    exact congrArg (Breakpoint.encode · _) hread
  · intro x hown hothers
    have hx := hown _ rfl
    rw [hcode]
    have hbyte : (Breakpoint.set B.brkInstr
        (B.nextInstr (s.process.thread t).uc s.process.globals.code)
          s.process.globals.code).code x = s.process.globals.code x :=
      Mem.write32_of_le _ _ hx
    refine hbyte.trans (h.clean x fun u b hb => hothers u b ?_ hb)
    rintro rfl
    rw [hold.1] at hb
    cases hb

/-- A step ends at the thread's own breakpoint: the original word is back. -/
theorem Patched.endStep (h : Patched cfg orig s) (hmc : (s.process.thread t).mc = some mc)
    (hstate : mc.state = .awaitTrap) (hexcl : s.Exclusive (.handler t (.brkTrap env))) :
    Patched cfg orig ⟨s.process.put t (brkAwaitTrap cfg env mc (s.process.flow t)),
      Function.update s.planted t (s.plantedAfter t (.brkTrap env))⟩ := by
  have hs : s.state t = some .awaitTrap := by rw [Patched.state_eq hmc, hstate]
  obtain ⟨mc', hmc', hold⟩ := h.holds t
  obtain rfl := Option.some.inj (hmc.symm.trans hmc')
  rw [Holds, if_pos hstate] at hold
  obtain ⟨-, a, ha, hword⟩ := hold
  obtain rfl : a = (s.process.flow t).ip := Option.some.inj (ha.symm.trans (hexcl hs))
  have hpatch := unpatched_brkAwaitTrap cfg env (s.process.flow t) mc
  obtain ⟨mc'', hmc'', hinited, hstate''⟩ : ∃ mc'',
      (brkAwaitTrap cfg env mc (s.process.flow t)).mc = some mc'' ∧
      (brkAwaitTrap cfg env mc (s.process.flow t)).inited = s.process.globals.inited ∧
      mc''.state = .awaitFpe := by
    unfold brkAwaitTrap
    dsimp only
    split_ifs <;> exact ⟨_, rfl, rfl, rfl⟩
  have hafter : s.plantedAfter t (.brkTrap env) = none := by simp only [plantedAfter, hs]
  rw [hafter]
  refine h.put (hinited.trans (h.inited t)) hmc'' ?_ (by simp) ?_
  · rw [Holds, if_neg (by simp [hstate''])]
    exact ⟨rfl, hpatch.off _ hmc''⟩
  · intro x _ hothers
    rw [hpatch.code, Breakpoint.reset_of_on _ _ (by rw [hword, Breakpoint.flag_encode]), hword,
      Breakpoint.instr_encode]
    dsimp only
    rw [Mem.write32_read32]
    split_ifs with hx
    · rfl
    · refine h.clean x fun u b hb => ?_
      by_cases hu : u = t
      · subst hu
        rw [ha] at hb
        obtain rfl := Option.some.inj hb
        omega
      · exact hothers u b hu hb

/-- Outside of the window, resetting trap mode and aborting leave code memory alone. -/
theorem Patched.reset {g : Flow B.toArch} {mc' : MonitoringContext} (h : Patched cfg orig s)
    (hmc : (s.process.thread t).mc = some mc) (hstate : mc.state ≠ .awaitTrap)
    (hpatch : Unpatched mc (s.process.flow t) g) (hinited : g.inited = true)
    (hmc' : g.mc = some mc') (hstate' : mc'.state ≠ .awaitTrap) :
    Patched cfg orig ⟨s.process.put t g, Function.update s.planted t (s.planted t)⟩ := by
  obtain ⟨mc₀, hmc₀, hold⟩ := h.holds t
  obtain rfl := Option.some.inj (hmc.symm.trans hmc₀)
  rw [Holds, if_neg hstate] at hold
  refine h.put_same hinited hmc' ?_ ?_
  · rw [hpatch.code, Breakpoint.reset_code_of_ne_on _ _ hold.2]
    rfl
  · rw [Holds, if_neg hstate']
    exact ⟨hold.1, hpatch.off _ hmc'⟩

/-- So does an abort in a thread that has stood down. -/
theorem Patched.abortInHandler {g : Flow B.toArch} {mc' : MonitoringContext}
    (h : Patched cfg orig s) (hmc : (s.process.thread t).mc = some mc)
    (hstate : mc.state ≠ .awaitTrap) (hdown : Unpatched mc (s.process.flow t) g)
    (hinited : g.inited = true) (hmc' : g.mc = some mc') (hstate' : mc'.state ≠ .awaitTrap) :
    Patched cfg orig ⟨s.process.put t (g.abortInHandler cfg env),
      Function.update s.planted t (s.planted t)⟩ := by
  obtain ⟨hpatch, hinited', mc'', hmc'', hlast⟩ := hdown.abortInHandler cfg env hinited hmc'
  refine h.reset hmc hstate hpatch hinited' hmc'' ?_
  rcases hlast with hlast | hlast <;> rw [hlast]
  · simp
  · exact hstate'

end

/-- The target moves a thread about; its traps stay masked in the window. -/
theorem Patched.run {t : ι} {uc : B.UContext} (h : Patched cfg orig s)
    (huc : B.trapsUnmasked cfg.statics uc = (s.process.flow t).trapsUnmasked cfg) :
    Patched cfg orig { s with process := s.process.put t { s.process.flow t with uc := uc } } := by
  obtain ⟨mc, hmc, hold⟩ := h.holds t
  have hput := h.put_same (t := t) (g := { s.process.flow t with uc := uc }) (h.inited t) hmc rfl
    (by rwa [Holds, huc])
  rwa [Function.update_eq_self] at hput

/-- One step keeps the invariant. -/
theorem Patched.step {e : SharedEvent ι B} (h : Patched cfg orig s) (hexcl : s.Exclusive e)
    (hstep : s.step cfg e = some s') : Patched cfg orig s' := by
  cases e with
  | run t uc =>
    simp only [Shared.step] at hstep
    split_ifs at hstep with huc
    obtain rfl := Option.some.inj hstep
    exact h.run huc
  | handler t e =>
    obtain ⟨g, hg, rfl⟩ := Option.map_eq_some_iff.mp hstep
    obtain ⟨mc, hmc, hold⟩ := h.holds t
    cases Flow.step_effect hg hmc with
    | beginStep buffer written hstate hopen => exact h.beginStep buffer written hmc hstate hexcl
    | endStep hstate => exact h.endStep hmc hstate hexcl
    | @surpriseFpe env siCode buffer written hstate hopen =>
      -- in the window the traps are masked
      have hne : mc.state ≠ .awaitTrap := by
        intro htrap
        rw [Holds, if_pos htrap] at hold
        exact absurd (show B.trapsUnmasked cfg.statics (s.process.thread t).uc = true from hopen)
          (by simp [hold.1])
      have hdown := unpatched_standDown cfg
        ((s.process.flow t).sampled cfg env siCode mc written) { mc with traceRecords := buffer }
      rw [plantedAfter_fpTrap hmc hstate]
      exact h.abortInHandler hmc hne ⟨hdown.code, hdown.ip, hdown.off⟩ (h.inited t) rfl hne
    | surpriseTrap hstate =>
      have hne : mc.state ≠ .awaitTrap := by simp [hstate]
      have hdown := unpatched_standDown cfg (s.process.flow t) { mc with abortingInTrap := true }
      rw [plantedAfter_brkTrap hmc hne]
      exact h.abortInHandler hmc hne ⟨hdown.code, hdown.ip, hdown.off⟩ (h.inited t) rfl hne
    | aborted hstate =>
      have hne : mc.state ≠ .awaitTrap := by simp [hstate]
      rw [plantedAfter_brkTrap hmc hne]
      exact h.reset hmc hne (unpatched_standDown cfg _ _) (h.inited t) rfl hne
    | kick hstate =>
      have hne : mc.state ≠ .awaitTrap := by simp [hstate]
      rw [plantedAfter_brkTrap hmc hne]
      exact h.reset hmc hne unpatched_brkInit (h.inited t) rfl (by simp)
    | delay hstate => exact h.put_same (h.inited t) rfl rfl hold
    | flip hstate =>
      have hne : mc.state ≠ .awaitTrap := by simp [hstate]
      exact h.reset hmc hne unpatched_updateSampler (h.inited t) rfl hne

end Shared

end

/-- Breakpoint patching is safe for several threads, on either platform, in every run whose
breakpoints are exclusive. -/
theorem Platform.run_intact (P : Platform) {ι : Type} [DecidableEq ι] {cfg : Config P.arch.toArch}
    {p : Process ι P.arch.toArch} (hstart : ∀ t, ∃ mc, Started cfg mc (p.flow t))
    {es : List (SharedEvent ι P.arch)} {s : Shared ι P.arch}
    (hexcl : Run.Admits (Shared.step cfg) Shared.Exclusive ⟨p, fun _ => none⟩ es)
    (hrun : Run.run (Shared.step cfg) ⟨p, fun _ => none⟩ es = some s) :
    s.Intact p.globals.code := by
  have hload : Shared.Patched cfg p.globals.code ⟨p, fun _ => none⟩ :=
    { inited := fun t => (hstart t).choose_spec.inited
      holds := by
        intro t
        obtain ⟨mc, h⟩ := hstart t
        refine ⟨mc, h.mc_eq, ?_⟩
        rw [Shared.Holds, if_neg (by simp [h.state]), h.trapModeState]
        exact ⟨rfl, by decide⟩
      apart := fun _ _ _ _ _ ha => nomatch ha
      clean := fun _ _ => rfl }
  exact (Run.invariant_of_admits (fun _ _ _ h hexcl hstep => h.step hexcl hstep) hexcl hload
    hrun).intact

/-! ## Two threads on arm64 -/

namespace Arm64

def twoThreads : Shared Bool arm64Brk where
  process := ⟨monitored.toGlobals, fun _ => monitored.toThread⟩
  planted _ := none

theorem started_twoThreads (t : Bool) : ∃ mc, Started plain mc (twoThreads.process.flow t) :=
  started_monitored

def oneWindow : List (SharedEvent Bool arm64Brk) :=
  [.handler false (.brkTrap quietEnv), .handler false (.fpTrap quietEnv 0),
    .run false { monitored.uc with pc := 4 }, .handler false (.brkTrap quietEnv)]

theorem run_intact_oneWindow :
    ∃ s, Run.run (Shared.step plain) twoThreads oneWindow = some s ∧ s.Intact twoFadds := by
  have hrun : (Run.run (Shared.step plain) twoThreads oneWindow).isSome = true := by decide +kernel
  obtain ⟨s, hs⟩ := Option.isSome_iff_exists.mp hrun
  refine ⟨s, hs, Platform.run_intact .arm64 started_twoThreads ?_ hs⟩
  refine ⟨fun h => absurd h (by decide +kernel), fun s₁ h₁ => ⟨?_, fun s₂ h₂ =>
    ⟨trivial, fun s₃ h₃ => ⟨?_, fun _ _ => trivial⟩⟩⟩⟩
  · intro _ u a hu ha
    have hplanted : (Run.run (Shared.step plain) twoThreads [oneWindow[0]]).map
        (·.planted true) = some none := by decide +kernel
    rw [show Run.run (Shared.step plain) twoThreads [oneWindow[0]] = some s₁ from
      Run.run_cons.mpr ⟨s₁, h₁, rfl⟩] at hplanted
    obtain rfl : u = true := by simpa using hu
    exact absurd (ha.symm.trans (Option.some.inj hplanted)) (by simp)
  · intro _
    have hplanted : (Run.run (Shared.step plain) twoThreads (oneWindow.take 3)).map
        (fun s => (s.planted false, (s.process.flow false).ip)) = some (some 4, 4) := by
      decide +kernel
    rw [show Run.run (Shared.step plain) twoThreads (oneWindow.take 3) = some s₃ from
      Run.run_cons.mpr ⟨s₁, h₁, Run.run_cons.mpr ⟨s₂, h₂, Run.run_cons.mpr ⟨s₃, h₃, rfl⟩⟩⟩]
      at hplanted
    obtain ⟨hp, hip⟩ := Prod.mk.inj (Option.some.inj hplanted)
    exact hp.trans (congrArg some hip.symm)

/-- Both threads trap on the same instruction: the second saves the breakpoint of the first. -/
theorem not_intact_sameInstr :
    ∃ s, Run.run (Shared.step plain) twoThreads
      [.handler false (.brkTrap quietEnv), .handler true (.brkTrap quietEnv),
        .handler false (.fpTrap quietEnv 0), .handler true (.fpTrap quietEnv 0)] = some s ∧
      ¬ s.Intact twoFadds := by
  have hrun : (Run.run (Shared.step plain) twoThreads
      [.handler false (.brkTrap quietEnv), .handler true (.brkTrap quietEnv),
        .handler false (.fpTrap quietEnv 0), .handler true (.fpTrap quietEnv 0)]).map
          (fun s => ((s.process.thread true).mc.map fun mc =>
            (mc.state, Breakpoint.instr mc.trapModeState), s.planted true)) =
      some (some (.awaitTrap, brkInstr), some 4) := by decide +kernel
  obtain ⟨s, hs, hval⟩ := Option.map_eq_some_iff.mp hrun
  obtain ⟨hmc, hplanted⟩ := Prod.mk.inj hval
  obtain ⟨mc, hmc, hstate⟩ := Option.map_eq_some_iff.mp hmc
  obtain ⟨hstate, hinstr⟩ := Prod.mk.inj hstate
  refine ⟨s, hs, fun hintact => ?_⟩
  obtain ⟨a, ha, hsaved⟩ := hintact.saved true mc hmc hstate
  rw [hplanted] at ha
  rw [hinstr, ← Option.some.inj ha] at hsaved
  exact absurd hsaved (by decide +kernel)

end Arm64

end FPSpy
