import FPSpy.Individual.WordRestored

/-!
# Getting past an ESTEP

With `CONFIG_RISCV_USE_ESTEP` a breakpoint and a kick are the same instruction, ESTEP, which
goes to `handle_kbe` at once. The handler returns to the address after it only if it is the
kick of a thread in INIT; everywhere else it returns to the ESTEP itself and relies on
`brk_trap_handler` to have put another word there.

A kick inside `handle_kbe` is an ESTEP again. The recursion has fuel; a handler comes back if
some fuel is enough.
-/
namespace FPSpy.Riscv64

def estepInstr : BitVec 32 := brkInstr true

def interruptedAt (pc : Addr) (f : Flow (riscv64 true)) : Flow (riscv64 true) :=
  { f with uc := atPc pc f.uc }

/-- The operations of an abort inside `handle_kbe`; `kick` is `kick_self`, and `none` has not come
back. The kick of `bringup` is that of a thread in INIT. -/
def kbeAbortOps (cfg : Config (riscv64 true)) (env : Env)
    (kick : Flow (riscv64 true) → Option (Flow (riscv64 true))) :
    AbortOps (Option (Flow (riscv64 true))) where
  inited := Option.all (·.inited)
  aborted := Option.all (·.aborted)
  mode := .individual
  findMonitoringContext s := s.bind (·.mc)
  fpspyInit := Option.map (bringup cfg env .inHandler fun f => (brkTrapHandler cfg env f).1)
  fedisableexcept := id
  feclearexcept := id
  restoreSigfpe := Option.map fun f =>
    { f with sigaction := Function.update f.sigaction .sigfpe f.oldsaFpe }
  writeAbort mc := Option.map (Flow.writeAbort cfg env mc)
  kickSelf s := s.bind kick
  restoreSigtrap := Option.map fun f =>
    { f with sigaction := Function.update f.sigaction .sigtrap f.oldsaTrap }
  setAborted := Option.map fun f => { f with aborted := true }

/-- `kbe_estep_handler`: the thread, and the address it goes on at. Whether to skip the ESTEP is
decided before `brk_trap_handler`. -/
def kbeEstepHandler (cfg : Config (riscv64 true)) (env : Env)
    (kick : Flow (riscv64 true) → Option (Flow (riscv64 true))) (f : Flow (riscv64 true)) :
    Option (Flow (riscv64 true) × Addr) :=
  let skipEstep := decide (f.mc.map (·.state) = some .init)
  let r := brkTrapHandler cfg env f
  let g := match r.2 with
    | .ret => some r.1
    | .abortOperation _ => abortOperation (kbeAbortOps cfg env kick) (some r.1)
    | .abort | .nullDeref | .divideError => none
  g.map (·, if skipEstep then pc f.uc + 4#64 else pc f.uc)

/-- `kick_self`, where `take` gets past an ESTEP. It leaves the registers of the code that calls it
alone, except for CSR 0x880. -/
def kickSelf (kickAt : Addr) (take : Flow (riscv64 true) → Option (Flow (riscv64 true)))
    (f : Flow (riscv64 true)) : Option (Flow (riscv64 true)) :=
  (take (interruptedAt kickAt f)).map fun g => { g with uc := { f.uc with ften := g.uc.ften } }

/-- The ESTEP at the program counter, taken until control is past it or another word is there. -/
def takeEstep (cfg : Config (riscv64 true)) (env : Env) (kickAt : Addr) :
    Nat → Flow (riscv64 true) → Option (Flow (riscv64 true))
  | 0, _ => none
  | n + 1, f =>
    (kbeEstepHandler cfg env (kickSelf kickAt (takeEstep cfg env kickAt n)) f).bind
      fun (g, next) =>
        if next = pc f.uc ∧ g.code.read32 next = estepInstr then takeEstep cfg env kickAt n g
        else some g

/-! ## Kicks that are never past -/

variable {cfg : Config (riscv64 true)} {env : Env} {kickAt : Addr}
  {kick : Flow (riscv64 true) → Option (Flow (riscv64 true))} {f : Flow (riscv64 true)}
  {mc : MonitoringContext}

/-- An aborted thread without a breakpoint of its own, at an ESTEP. -/
structure Stuck (mc : MonitoringContext) (f : Flow (riscv64 true)) : Prop where
  mc_eq : f.mc = some mc
  state : mc.state = .abort
  off : Breakpoint.flag mc.trapModeState ≠ Breakpoint.trapModeOn
  word : f.code.read32 (pc f.uc) = estepInstr

/-- The handler returns to the same ESTEP. -/
theorem Stuck.kbeEstepHandler (h : Stuck mc f) : ∃ g mc',
    Riscv64.kbeEstepHandler cfg env kick f = some (g, pc f.uc) ∧ pc g.uc = pc f.uc ∧
      Stuck mc' g := by
  have hreset := unpatched_standDown (B := riscv64Brk true) cfg f mc
  have hpc : pc (standDown cfg mc f).uc = pc f.uc := hreset.ip
  have hcode : (standDown cfg mc f).code = f.code :=
    hreset.code.trans (Breakpoint.reset_code_of_ne_on _ _ h.off)
  refine ⟨standDown cfg mc f, _, ?_, hpc, rfl, h.state, hreset.off _ rfl, ?_⟩
  · simp [Riscv64.kbeEstepHandler, brkTrapHandler, h.mc_eq, h.state]
  · rw [hpc, hcode]
    exact h.word

/-- It is entered again without end. -/
theorem takeEstep_of_stuck (n : Nat) (h : Stuck mc f) : takeEstep cfg env kickAt n f = none := by
  induction n generalizing f mc with
  | zero => rfl
  | succ n ih =>
    obtain ⟨g, mc', heq, hpc, hg⟩ := h.kbeEstepHandler
    rw [takeEstep, heq, Option.bind_some]
    dsimp only
    rw [if_pos ⟨rfl, hpc ▸ hg.word⟩]
    exact ih hg

/-- `kick_self` is an ESTEP, and the thread has no context or one that is aborted with trap mode
off. -/
structure Lost (kickAt : Addr) (f : Flow (riscv64 true)) : Prop where
  word : f.code.read32 kickAt = estepInstr
  mc : f.mc = none ∧ f.aborted = false ∨ ∃ mc, f.mc = some mc ∧ mc.state = .abort ∧
    Breakpoint.flag mc.trapModeState ≠ Breakpoint.trapModeOn

/-- What a start-up in the middle of an abort leaves behind. -/
structure Restarted (f g : Flow (riscv64 true)) : Prop where
  aborted : g.aborted = f.aborted
  code : g.code = f.code
  mc : ∀ mc, g.mc = some mc → mc.abortingInTrap = false ∧
    Breakpoint.flag mc.trapModeState ≠ Breakpoint.trapModeOn

variable (cfg env) in
/-- The kick of a thread in INIT. -/
theorem Restarted.kickInit {g : Flow (riscv64 true)} (h : Restarted f g) (hmc : g.mc = some mc)
    (hstate : mc.state = .init) : Restarted f (brkTrapHandler cfg env g).1 := by
  obtain ⟨haborting, hoff⟩ := h.mc mc hmc
  have hreset : Unpatched (B := riscv64Brk true) mc g (brkInit cfg mc g) := unpatched_brkInit
  have heq : (brkTrapHandler cfg env g).1 = brkInit cfg mc g := by
    simp [brkTrapHandler, hmc, hstate]
  rw [heq]
  refine ⟨h.aborted, ?_, fun mc' hmc' => ⟨?_, hreset.off mc' hmc'⟩⟩
  · rw [hreset.code, Breakpoint.reset_code_of_ne_on _ _ hoff, h.code]
  · obtain rfl := Option.some.inj hmc'
    exact haborting

theorem restarted_bringup (cfg : Config (riscv64 true)) (env : Env) (f : Flow (riscv64 true)) :
    Restarted f (bringup cfg env .inHandler (fun f => (brkTrapHandler cfg env f).1) f) := by
  unfold bringup
  dsimp only
  split
  · exact ⟨rfl, rfl, fun mc h => by cases h⟩
  next mc hmc =>
    have hnew := newContext_of_bringup hmc
    have hset := setupSignals_spec cfg f.toGlobals
    have hoff : Breakpoint.flag mc.trapModeState ≠ Breakpoint.trapModeOn := by
      rw [hnew.trapModeState]
      decide
    have hup : Restarted f { f with
        toGlobals := { setupSignals cfg f.toGlobals with
          itimer := if cfg.timers then mc.sampler.it else (setupSignals cfg f.toGlobals).itimer }
        mc := some mc } :=
      { aborted := hset.aborted
        code := hset.code
        mc := fun mc' hmc' => by
          obtain rfl := Option.some.inj hmc'
          exact ⟨hnew.abortingInTrap, hoff⟩ }
    by_cases hkick : cfg.kickstart = true
    · rw [if_pos hkick]
      exact ⟨hup.aborted, hup.code, hup.mc⟩
    · rw [if_neg hkick]
      have hkicked := hup.kickInit cfg env rfl hnew.state
      exact ⟨hkicked.aborted, hkicked.code, hkicked.mc⟩

/-- An abort starts FPSpy up first, if that has not been done. -/
theorem restarted_fpspyInit (cfg : Config (riscv64 true)) (env : Env)
    (kick : Flow (riscv64 true) → Option (Flow (riscv64 true))) (hmc : f.mc = none) :
    ∃ g, (if (kbeAbortOps cfg env kick).inited (some f) then some f
      else (kbeAbortOps cfg env kick).fpspyInit (some f)) = some g ∧ Restarted f g := by
  split_ifs
  · exact ⟨f, rfl, rfl, rfl, fun mc h => by simp [hmc] at h⟩
  · exact ⟨_, rfl, restarted_bringup cfg env f⟩

variable (cfg env) in
/-- An abort without a context does not come back if no kick of a lost thread does. -/
theorem abortOperation_of_none (hkick : ∀ g, Lost kickAt g → kick g = none) (hmc : f.mc = none)
    (haborted : f.aborted = false) (hword : f.code.read32 kickAt = estepInstr) :
    abortOperation (kbeAbortOps cfg env kick) (some f) = none := by
  obtain ⟨g, hg, hrestarted⟩ := restarted_fpspyInit cfg env kick hmc
  have hcode : g.code.read32 kickAt = estepInstr := hrestarted.code ▸ hword
  have halive : g.aborted = false := hrestarted.aborted.trans haborted
  rw [abortOperation_of_not_aborted _ hg halive rfl]
  cases hmcg : g.mc with
  | none =>
    have hnone := hkick { g with
      sigaction := Function.update g.sigaction .sigfpe g.oldsaFpe } ⟨hcode, .inl ⟨hmcg, halive⟩⟩
    simp [kbeAbortOps, hmcg, hnone]
  | some mc =>
    obtain ⟨htrap, hoff⟩ := hrestarted.mc mc hmcg
    obtain ⟨h, hwrite, hlost⟩ : ∃ h, Flow.writeAbort cfg env mc { g with
        sigaction := Function.update g.sigaction .sigfpe g.oldsaFpe } = h ∧ Lost kickAt h := by
      refine ⟨_, rfl, ?_⟩
      unfold Flow.writeAbort
      split_ifs <;> exact ⟨hcode, .inr ⟨_, rfl, rfl, hoff⟩⟩
    simp [kbeAbortOps, hmcg, htrap, hwrite, hkick h hlost]

variable (cfg env) in
/-- Nor does the handler that aborts for want of a context. -/
theorem kbeEstepHandler_of_none (hkick : ∀ g, Lost kickAt g → kick g = none) (hmc : f.mc = none)
    (haborted : f.aborted = false) (hword : f.code.read32 kickAt = estepInstr) :
    kbeEstepHandler cfg env kick f = none := by
  have habort := abortOperation_of_none cfg env (f := standDownNull cfg f) hkick hmc haborted hword
  simp only [kbeEstepHandler, brkTrapHandler, hmc]
  rw [habort, Option.map_none]

@[simp] theorem pc_interruptedAt (a : Addr) (f : Flow (riscv64 true)) :
    pc (interruptedAt a f).uc = a :=
  pc_atPc a f.uc

/-- A kick that is never past. -/
theorem kickSelf_of_lost (n : Nat) (h : Lost kickAt f) :
    kickSelf kickAt (takeEstep cfg env kickAt n) f = none := by
  rw [kickSelf, Option.map_eq_none_iff]
  induction n generalizing f with
  | zero => rfl
  | succ n ih =>
    rcases h.mc with ⟨hmc, haborted⟩ | ⟨mc, hmc, hstate, hoff⟩
    · have hkick : ∀ g, Lost kickAt g → kickSelf kickAt (takeEstep cfg env kickAt n) g = none := by
        intro g hg
        rw [kickSelf, ih hg, Option.map_none]
      have hnone := kbeEstepHandler_of_none cfg env (f := interruptedAt kickAt f) hkick hmc
        haborted h.word
      rw [takeEstep, hnone, Option.bind_none]
    · have hword : f.code.read32 (pc (interruptedAt kickAt f).uc) = estepInstr := by
        rw [pc_interruptedAt]
        exact h.word
      exact takeEstep_of_stuck (n + 1) ⟨hmc, hstate, hoff, hword⟩

variable (cfg env kick) in
/-- After an earlier abort there is nothing left to do. -/
theorem abortOperation_of_earlier (hmc : f.mc = none) (haborted : f.aborted = true) :
    ∃ g, abortOperation (kbeAbortOps cfg env kick) (some f) = some g ∧ g.code = f.code := by
  obtain ⟨g, hg, hrestarted⟩ := restarted_fpspyInit cfg env kick hmc
  have hdone : (kbeAbortOps cfg env kick).aborted (some g) = true :=
    hrestarted.aborted.trans haborted
  exact ⟨g, abortOperation_eq_of_aborted _ hg hdone, hrestarted.code⟩

variable (cfg env kick) in
/-- An abort in a breakpoint trap does not kick. -/
theorem abortOperation_inTrap (hmc : f.mc = some mc) (htrap : mc.abortingInTrap = true)
    (hinited : f.inited = true) :
    ∃ g, abortOperation (kbeAbortOps cfg env kick) (some f) = some g ∧ g.code = f.code := by
  cases haborted : f.aborted with
  | true => exact ⟨f, abortOperation_of_aborted _ hinited haborted, rfl⟩
  | false =>
    rw [abortOperation_of_not_aborted _ (if_pos hinited) haborted rfl]
    simp only [kbeAbortOps, Option.map_some, Option.bind_some, hmc, htrap, if_true, id_eq]
    refine ⟨_, rfl, ?_⟩
    unfold Flow.writeAbort
    split_ifs <;> rfl

/-! ## Progress -/

/-- `handle_kbe` comes back, and the address it returns to is past the ESTEP or holds another
word. -/
def Passes (cfg : Config (riscv64 true)) (env : Env) (kickAt : Addr) (f : Flow (riscv64 true)) :
    Prop :=
  ∃ n g next, kbeEstepHandler cfg env (kickSelf kickAt (takeEstep cfg env kickAt n)) f =
    some (g, next) ∧ (next = pc f.uc + 4#64 ∨ g.code.read32 next ≠ estepInstr)

/-- The reset of trap mode puts another word at the program counter exactly if a breakpoint is out
that replaced something else. -/
theorem read32_reset_ne_iff (a : Addr) {m : Mem} (state : BitVec 64)
    (hword : m.read32 a = estepInstr) :
    (Breakpoint.reset a m state).code.read32 a ≠ estepInstr ↔
      Breakpoint.flag state = Breakpoint.trapModeOn ∧ Breakpoint.instr state ≠ estepInstr := by
  by_cases hon : Breakpoint.flag state = Breakpoint.trapModeOn
  · rw [Breakpoint.reset_of_on _ _ hon]
    simp [hon, Mem.read32_write32]
  · rw [Breakpoint.reset_code_of_ne_on _ _ hon]
    simp [hon, hword]

theorem add_four_ne (a : Addr) : a ≠ a + 4#64 := by
  intro h
  simp at h

variable (cfg env kick) in
/-- The way of an ESTEP through the handler: a thread in INIT goes on behind it, any other one with
a context at it, where trap mode has been reset. -/
theorem kbeEstepHandler_of_some (hmc : f.mc = some mc)
    (hinited : mc.state = .awaitFpe → f.inited = true) :
    ∃ g, kbeEstepHandler cfg env kick f =
        some (g, if mc.state = .init then pc f.uc + 4#64 else pc f.uc) ∧
      g.code = (Breakpoint.reset (pc f.uc) f.code mc.trapModeState).code := by
  have hreset : Unpatched (B := riscv64Brk true) mc f (brkTrapHandler cfg env f).1 :=
    unpatched_brkTrapHandler hmc
  by_cases hstate : mc.state = .awaitFpe
  · have heq := @brkTrapHandler_awaitFpe _ cfg env mc f hmc hstate
    obtain ⟨g, hg, hcode⟩ := abortOperation_inTrap cfg env kick
      (f := standDown cfg { mc with abortingInTrap := true } f) rfl rfl (hinited hstate)
    rw [heq] at hreset
    refine ⟨g, ?_, hcode.trans hreset.code⟩
    have hne : mc.state ≠ .init := by simp [hstate]
    simp only [kbeEstepHandler, heq, hg]
    simp [hmc, hne]
  · refine ⟨(brkTrapHandler cfg env f).1, ?_, hreset.code⟩
    have hret : (brkTrapHandler cfg env f).2 = .ret := by
      simp only [brkTrapHandler, hmc]
      cases hs : mc.state <;> first | rfl | exact absurd hs hstate
    simp [kbeEstepHandler, hmc, hret]

/-- An ESTEP is passed exactly in INIT, and where a breakpoint is out that replaced another word.
The kick of an abort is not passed with trap mode off, and never without a context. -/
theorem passes_iff (cfg : Config (riscv64 true)) (env : Env) (kickAt : Addr)
    (f : Flow (riscv64 true)) (hword : f.code.read32 (pc f.uc) = estepInstr)
    (hkick : f.code.read32 kickAt = estepInstr)
    (hinited : ∀ mc, f.mc = some mc → mc.state = .awaitFpe → f.inited = true) :
    Passes cfg env kickAt f ↔ ∃ mc, f.mc = some mc ∧ (mc.state = .init ∨
      Breakpoint.flag mc.trapModeState = Breakpoint.trapModeOn ∧
        Breakpoint.instr mc.trapModeState ≠ estepInstr) := by
  cases hmc : f.mc with
  | none =>
    refine iff_of_false ?_ (by simp)
    rintro ⟨n, g, next, heq, hpass⟩
    cases haborted : f.aborted with
    | false =>
      rw [kbeEstepHandler_of_none cfg env (fun g hg => kickSelf_of_lost n hg) hmc haborted
        hkick] at heq
      cases heq
    | true =>
      obtain ⟨h, habort, hcode⟩ := abortOperation_of_earlier cfg env
        (kickSelf kickAt (takeEstep cfg env kickAt n)) (f := standDownNull cfg f) hmc haborted
      simp only [kbeEstepHandler, brkTrapHandler, hmc, habort] at heq
      obtain ⟨rfl, rfl⟩ : h = g ∧ pc f.uc = next := by simpa using heq
      rcases hpass with hpast | hother
      · exact add_four_ne _ hpast
      · exact hother (hcode ▸ hword)
  | some mc =>
    simp only [Option.some.injEq, exists_eq_left']
    have hcase n := kbeEstepHandler_of_some cfg env (kickSelf kickAt (takeEstep cfg env kickAt n))
      hmc (hinited mc hmc)
    by_cases hinit : mc.state = .init
    · obtain ⟨g, heq, -⟩ := hcase 0
      rw [if_pos hinit] at heq
      exact iff_of_true ⟨0, g, _, heq, .inl rfl⟩ (.inl hinit)
    · rw [← read32_reset_ne_iff (pc f.uc) mc.trapModeState hword]
      constructor
      · rintro ⟨n, g, next, heq, hpass⟩
        obtain ⟨g', heq', hcode⟩ := hcase n
        rw [if_neg hinit, heq] at heq'
        obtain ⟨rfl, rfl⟩ : g = g' ∧ next = pc f.uc := by simpa using heq'
        rw [← hcode]
        exact .inr (hpass.resolve_left (add_four_ne _))
      · intro hne
        obtain ⟨g, heq, hcode⟩ := hcase 0
        rw [if_neg hinit] at heq
        rw [← hcode] at hne
        exact ⟨0, g, _, heq, .inr (hne.resolve_left hinit)⟩

/-! ## A thread -/

def kickCode : Mem := Mem.write32 (fun _ => 0) 0x1000 estepInstr

def bringupKick : Flow (riscv64 true) :=
  interruptedAt 0x1000 (bringup (.defaults statics) ⟨0, 0, 0, 0, some 3⟩ .inHandler id
    { toGlobals := .start kickCode, toThread := .start 1 ⟨fun _ => 0, 0, 0⟩ })

def abortKick : Flow (riscv64 true) :=
  let f := (brkTrapHandler (.defaults statics) ⟨0, 0, 0, 0, some 3⟩ bringupKick).1
  (f.mc.map fun mc => Flow.writeAbort (.defaults statics) ⟨0, 0, 0, 0, some 3⟩ mc f).getD f

theorem passes_iff_bringup :
    Passes (.defaults statics) ⟨0, 0, 0, 0, some 3⟩ 0x1000 bringupKick := by
  have hword : bringupKick.code.read32 0x1000 = estepInstr := by decide +kernel
  have hinit : bringupKick.mc.map (·.state) = some .init := by decide
  obtain ⟨mc, hmc, hstate⟩ := Option.map_eq_some_iff.mp hinit
  refine (passes_iff _ _ 0x1000 bringupKick hword hword fun mc' hmc' hawait => ?_).mpr
    ⟨mc, hmc, .inl hstate⟩
  rw [hmc', Option.map_some, hawait] at hinit
  cases hinit

/-- The kick of an abort is taken again and again. -/
theorem not_passes_abort :
    ¬ Passes (.defaults statics) ⟨0, 0, 0, 0, some 3⟩ 0x1000 abortKick ∧
      ∀ n, takeEstep (.defaults statics) ⟨0, 0, 0, 0, some 3⟩ 0x1000 n abortKick = none := by
  obtain ⟨mc, hstuck⟩ : ∃ mc, Stuck mc abortKick := by
    have hmc : abortKick.mc.map (fun mc => (mc.state, Breakpoint.flag mc.trapModeState)) =
      some (.abort, Breakpoint.trapModeOff) := by decide
    obtain ⟨mc, hmc, hends⟩ := Option.map_eq_some_iff.mp hmc
    obtain ⟨hstate, hflag⟩ := Prod.mk.inj hends
    refine ⟨mc, hmc, hstate, ?_, by decide +kernel⟩
    rw [hflag]
    decide
  refine ⟨?_, fun n => takeEstep_of_stuck n hstuck⟩
  rintro ⟨n, g, next, heq, hpass⟩
  obtain ⟨g', mc', heq', hpc, hstuck'⟩ := hstuck.kbeEstepHandler
  obtain ⟨rfl, rfl⟩ : g = g' ∧ next = pc abortKick.uc := by simpa using heq.symm.trans heq'
  rcases hpass with hpast | hother
  · exact add_four_ne _ hpast
  · exact hother (hpc ▸ hstuck'.word)

end FPSpy.Riscv64
