import FPSpy.Individual.Restoration
import FPSpy.Individual.Transparency
import FPSpy.Kernel.ShortCircuit
import FPSpy.Machine.Masking
import FPSpy.Machine.Unmasked

/-!
# The codes of short-circuited traps

With the kernel module there is no `siginfo_t`; `fpspy_short_circuit_handler` makes the code up
from MXCSR, where the flags stay up until something clears them. Other than on riscv64 the code
is right: the handler only looks at unmasked exceptions, and FPSpy clears the flags of what it
unmasks. So the code names an exception that the processor has just detected, the first one in
the order of the tests, and it is never zero.
-/
namespace FPSpy.X64

open ShortCircuit (fakeSiCode)

/-! ## The code -/

def ranked : List Fe := [.invalid, .divbyzero, .overflow, .denorm, .underflow, .inexact]

/-- `FPE_FLTINV` and so on; a denormal counts as an underflow. -/
def scCode : Fe → BitVec 32
  | .invalid => 7
  | .divbyzero => 3
  | .overflow => 4
  | .denorm => 5
  | .underflow => 5
  | .inexact => 6

def first (exceptions : BitVec 32) : Option Fe := ranked.find? fun e => exceptions &&& feBit e != 0

/-- Only the six flags count. -/
theorem first_congr {x y : BitVec 32} (h : x &&& 0x3f#32 = y &&& 0x3f#32) : first x = first y := by
  have hbit (e : Fe) : x &&& feBit e = y &&& feBit e := by
    have hsub : 0x3f#32 &&& feBit e = feBit e := by cases e <;> decide
    rw [← hsub, ← BitVec.and_assoc, ← BitVec.and_assoc, h]
  simp only [first, hbit]

/-- Something is found if there is anything. -/
theorem first_isSome {x : BitVec 32} (h : x &&& 0x3f#32 ≠ 0) : (first x).isSome := by
  rw [Option.isSome_iff_ne_none]
  intro hnone
  rw [first, List.find?_eq_none] at hnone
  have hzero (e : Fe) : x &&& feBit e = 0 := by
    simpa using hnone e (by cases e <;> decide)
  have hflags : 0x3f#32 = feBit .invalid ||| feBit .denorm ||| feBit .divbyzero |||
      feBit .overflow ||| feBit .underflow ||| feBit .inexact := by decide
  apply h
  rw [hflags]
  simp only [BitVec.and_or_distrib_left, hzero]
  rfl

/-- The tests are in that order; one of them is for two exceptions. -/
theorem fakeSiCode_eq (old : BitVec 32) :
    fakeSiCode old = ((first (~~~(old >>> 7) &&& old)).map scCode).getD 0 := by
  unfold fakeSiCode
  generalize ~~~(old >>> 7) &&& old = err
  have htwo : err &&& 0x12#32 ≠ 0 ↔ err &&& 0x2#32 ≠ 0 ∨ err &&& 0x10#32 ≠ 0 := by
    rw [show (0x12#32) = 0x2#32 ||| 0x10#32 by decide, BitVec.and_or_distrib_left, ← not_and_or]
    exact not_congr BitVec.or_eq_zero_iff
  simp only [htwo, ← bne_iff_ne, first, ranked, feBit, List.find?]
  generalize (err &&& 0x1#32 != 0) = invalid
  generalize (err &&& 0x2#32 != 0) = denorm
  generalize (err &&& 0x4#32 != 0) = divbyzero
  generalize (err &&& 0x8#32 != 0) = overflow
  generalize (err &&& 0x10#32 != 0) = underflow
  generalize (err &&& 0x20#32 != 0) = inexact
  cases invalid <;> cases denorm <;> cases divbyzero <;> cases overflow <;> cases underflow <;>
    cases inexact <;> rfl

/-! ## The registers -/

section Registers

variable {st : Statics} {uc : UContext}

/-- The monitored exceptions are masked together or unmasked together, with their flags clear. -/
structure Cleared (st : Statics) (uc : UContext) : Prop where
  masks : OnlyMonitored st uc
  together : uc.mxcsr &&& st.mxcsrMaskMask = 0 ∨ trapsUnmasked st uc = false
  flags : uc.mxcsr &&& st.mxcsrMaskMask = 0 → uc.mxcsr &&& st.mxcsrFlagMask = 0

theorem Statics.flagMask_eq (st : Statics) : st.mxcsrFlagMask = st.mxcsrmaskBase := by
  simp [mxcsrFlagMask]

theorem flagMask_clear (st : Statics) (uc : UContext) :
    (archClearFpExceptions st uc).mxcsr &&& st.mxcsrFlagMask = 0 := Bits.andNot_and_self _ _

theorem mask_disjoint_flag (st : Statics) : st.mxcsrMaskMask &&& st.mxcsrFlagMask = 0 := by
  rw [BitVec.and_comm]
  exact st.flag_disjoint_mask

theorem cleared_shut (h : OnlyMonitored st uc) :
    Cleared st (archMaskFpTraps st (archClearFpExceptions st uc)) where
  masks := h.clear.mask
  together := .inr (by simp [trapsUnmasked, archMaskFpTraps])
  flags _ := (Bits.or_and_of_disjoint _ (mask_disjoint_flag st)).trans (flagMask_clear st uc)

theorem cleared_reopen (h : OnlyMonitored st uc) :
    Cleared st (archUnmaskFpTraps st (archClearFpExceptions st uc)) where
  masks := h.clear.unmask
  together := .inl (Bits.andNot_and_self _ _)
  flags _ := (Bits.andNot_and_of_disjoint _ (mask_disjoint_flag st)).trans (flagMask_clear st uc)

/-- What leaves the masks and the flags alone. -/
theorem Cleared.congr {vc : UContext} (h : Cleared st uc)
    (heq : vc.mxcsr &&& 0x1fbf#32 = uc.mxcsr &&& 0x1fbf#32) : Cleared st vc := by
  have hsub {m : BitVec 32} (hm : m &&& ~~~0x1fbf#32 = 0) : vc.mxcsr &&& m = uc.mxcsr &&& m := by
    rw [← Bits.and_of_subset hm, BitVec.and_comm m, ← BitVec.and_assoc, ← BitVec.and_assoc, heq]
  have hmask := hsub (Bits.disjoint_of_subset st.maskMask_subset (by decide))
  have hflag := hsub (Bits.disjoint_of_subset st.flagMask_subset (by decide))
  refine ⟨h.masks.congr (hsub (by decide)), ?_, ?_⟩
  · rw [hmask, trapsUnmasked_congr hmask]
    exact h.together
  · rw [hmask, hflag]
    exact h.flags

/-- Everything that the handlers do to a context. -/
theorem keepsFor_cleared (cfg : Config x64) :
    KeepsFor cfg x64.IsRoundConfig (Cleared cfg.statics) where
  shut _ h := cleared_shut h.masks
  reopen _ h := cleared_reopen h.masks
  setRound _ uc c hc h := h.congr (by
    have hround : mxcsrRoundDazFtzMask &&& 0x1fbf#32 = 0 := by decide
    simp only [archSetRoundConfig]
    rw [Bits.or_and_of_disjoint _ (Bits.disjoint_of_subset hc hround),
      Bits.andNot_and_of_disjoint _ hround])
  setTrapMode _ _ _ h := h.congr rfl
  resetTrapMode _ _ _ h := h.congr rfl
  resetTrapModeNull _ h := h.congr rfl

/-- An instruction that does not trap raises nothing that is unmasked. -/
theorem Cleared.commit {P : Program} {c : Cpu} (h : Cleared st c.uc)
    (hquiet : P.raises c &&& unmasked c.uc = 0) : Cleared st (P.commit c).uc := by
  have hmask := P.commit_maskMask st c
  refine ⟨h.masks.congr (P.commit_masks c), ?_, ?_⟩
  · rw [hmask, trapsUnmasked_congr hmask]
    exact h.together
  · intro hopened
    rw [hmask] at hopened
    rw [h.masks.unmasked_of_opened hopened, ← st.flagMask_eq] at hquiet
    have hstatus : statusMask &&& st.mxcsrFlagMask = st.mxcsrFlagMask := by
      rw [BitVec.and_comm]
      exact Bits.and_of_subset (Bits.disjoint_of_subset st.flagMask_subset (by decide))
    simp only [Program.commit]
    rw [Bits.or_and_of_disjoint _ hquiet, ← hstatus, ← BitVec.and_assoc, P.exec_status,
      BitVec.and_assoc, hstatus]
    exact h.flags hopened

def detect (detected : BitVec 32) (uc : UContext) : UContext :=
  { uc with mxcsr := uc.mxcsr ||| detected }

/-- The code of a trap. -/
theorem Cleared.fakeSiCode (h : Cleared st uc) {detected : BitVec 32}
    (hflags : detected &&& ~~~0x3f#32 = 0) (htraps : detected &&& unmasked uc ≠ 0) :
    (first (detected &&& st.mxcsrmaskBase)).map scCode =
      some (ShortCircuit.fakeSiCode (detect detected uc).mxcsr) := by
  have hopened : uc.mxcsr &&& st.mxcsrMaskMask = 0 := by
    rcases h.together with hopened | hmasked
    · exact hopened
    · rw [h.masks.unmasked_of_masked hmasked] at htraps
      exact absurd (by simp) htraps
  have hunmasked := h.masks.unmasked_of_opened hopened
  -- what is up and unmasked has just been detected
  have herr : (~~~((uc.mxcsr ||| detected) >>> 7) &&& (uc.mxcsr ||| detected)) &&& 0x3f#32 =
      (detected &&& st.mxcsrmaskBase) &&& 0x3f#32 := by
    have hclear : uc.mxcsr &&& st.mxcsrmaskBase = 0#32 := st.flagMask_eq ▸ h.flags hopened
    have hshift : detected >>> 7 = 0#32 := by
      rw [← Bits.and_of_subset hflags, BitVec.ushiftRight_and_distrib]
      simp
    rw [BitVec.ushiftRight_or_distrib, hshift, BitVec.or_zero, BitVec.and_assoc,
      BitVec.and_comm _ 0x3f#32, ← BitVec.and_assoc, show ~~~(uc.mxcsr >>> 7) &&& 0x3f#32 =
        st.mxcsrmaskBase from hunmasked, BitVec.and_or_distrib_left, BitVec.and_comm _ uc.mxcsr,
      hclear, BitVec.zero_or, BitVec.and_assoc, Bits.and_of_subset st.subset, BitVec.and_comm]
  have hsome : (first (detected &&& st.mxcsrmaskBase)).isSome := by
    apply first_isSome
    rwa [BitVec.and_assoc, Bits.and_of_subset st.subset, ← hunmasked]
  obtain ⟨e, he⟩ := Option.isSome_iff_exists.mp hsome
  rw [fakeSiCode_eq, detect, first_congr herr, he]
  rfl

end Registers

/-! ## The handlers -/

section Handlers

variable {cfg : Config x64} {f g : Flow x64} {es : List TraceRecord} {env : Env}

structure Between (cfg : Config x64) (es : List TraceRecord) (f : Flow x64) : Prop where
  cleared : Cleared cfg.statics f.uc
  round : x64.IsRoundConfig f.origRoundConfig
  inited : f.inited = true
  events : f.pushed.filter (·.IsEvent) = es

/-- A breakpoint trap records nothing. -/
theorem pushed_brkTrapHandler (cfg : Config x64) (env : Env) (f : Flow x64) :
    (brkTrapHandler cfg env f).1.pushed = f.pushed := by
  unfold brkTrapHandler
  cases f.mc with
  | none => rfl
  | some mc =>
    dsimp only
    cases mc.state with
    | init | awaitFpe | abort => rfl
    | awaitTrap =>
      unfold brkAwaitTrap
      dsimp only
      split_ifs <;> rfl

theorem round_brkTrapHandler (env : Env) (h : x64.IsRoundConfig f.origRoundConfig) :
    x64.IsRoundConfig (brkTrapHandler cfg env f).1.origRoundConfig := by
  unfold brkTrapHandler
  cases f.mc with
  | none => exact h
  | some mc =>
    dsimp only
    cases mc.state with
    | init => exact x64.isRoundConfig_get cfg.statics f.uc
    | awaitFpe | abort => exact h
    | awaitTrap =>
      unfold brkAwaitTrap
      dsimp only
      split_ifs <;> exact h

theorem Between.brkTrapHandler (h : Between cfg es f) (env : Env) :
    Between cfg es (brkTrapHandler cfg env f).1 where
  cleared := (keepsFor_cleared cfg).brkTrapHandler cfg.isRoundConfig_our h.round h.cleared
  round := round_brkTrapHandler env h.round
  inited := (handlerFrame_brkTrapHandler cfg env f).sameProcess.inited.trans h.inited
  events := by
    rw [pushed_brkTrapHandler]
    exact h.events

/-- An abort does no harm if the kick does none. -/
theorem Between.abort (h : Between cfg es f) (env : Env) {kickSelf : Flow x64 → Flow x64}
    (hkick : ∀ g, Between cfg es g → Between cfg es (kickSelf g)) :
    Between cfg es (abortOperation (Flow.abortOps cfg env .inHandler kickSelf) f) := by
  refine abortOperation_invariant (P := Between cfg es) ?_ (fun _ h => h)
    (fun _ h => ⟨h.cleared, h.round, h.inited, h.events⟩) ?_ hkick
    (fun _ h => ⟨h.cleared, h.round, h.inited, h.events⟩)
    (fun _ h => ⟨h.cleared, h.round, h.inited, h.events⟩) h
  · intro hi
    exact absurd (h.inited.symm.trans hi) (by decide)
  · intro g mc _ hg
    simp only [Flow.abortOps, Flow.writeAbort]
    split_ifs
    · exact ⟨hg.cleared, hg.round, hg.inited, (filter_push_abort _ _).trans hg.events⟩
    · exact ⟨hg.cleared, hg.round, hg.inited, hg.events⟩

/-- A breakpoint trap that is delivered, and an expiry. -/
theorem Between.resume {r : Flow x64 × HandlerExit} (h : Between cfg es r.1) (env : Env)
    (hg : Flow.resume cfg env r = some g) : Between cfg es g := by
  unfold Flow.resume at hg
  split at hg
  · exact Option.some.inj hg ▸ h
  · exact Option.some.inj hg ▸ h.abort env fun _ h => ⟨h.cleared, h.round, h.inited, h.events⟩
  all_goals cases hg

theorem Between.brkTrap (h : Between cfg es f) (hg : f.step cfg (.brkTrap env) = some g) :
    Between cfg es g :=
  (h.brkTrapHandler env).resume env (Option.ite_none_right_eq_some.mp hg).2

theorem Between.expiry (h : Between cfg es f) (hg : f.step cfg (.expiry env) = some g) :
    Between cfg es g := by
  obtain rfl := Option.some.inj (Option.ite_none_right_eq_some.mp hg).2
  refine ⟨(keepsFor_cleared cfg).sigalrmHandler h.cleared, ?_, ?_, ?_⟩
  all_goals
    unfold sigalrmHandler
    cases f.mc with
    | none => first | exact h.round | exact h.inited | exact h.events
    | some mc =>
      dsimp only
      split_ifs <;> first | exact h.round | exact h.inited | exact h.events

/-- The kick of an abort that is not in a signal handler. -/
theorem Between.kickDelivered (h : Between cfg es f) (env : Env) :
    Between cfg es (f.kickDelivered cfg env) := by
  unfold Flow.kickDelivered
  split_ifs
  · unfold Flow.settle
    cases hr : Flow.resume cfg env (FPSpy.brkTrapHandler cfg env f) with
    | none => exact h.brkTrapHandler env
    | some g => exact (h.brkTrapHandler env).resume env hr
  · exact h

/-- The handler in the trap; the record, if there is one, is of this trap. -/
theorem Between.fpTrapHandler (h : Between cfg es f) {detected : BitVec 32}
    (hflags : detected &&& ~~~0x3f#32 = 0) (env : Env) (siCode : BitVec 32) :
    let r := FPSpy.fpTrapHandler cfg env siCode { f with uc := detect detected f.uc }
    r.2 = .abort ∨ r.2 = .divideError ∨ ∃ rs, Between cfg (es ++ rs) r.1 ∧
      List.Sublist (rs.map fun r => (r.rip, r.code)) [(archGetIp f.uc, siCode)] := by
  have K := keepsFor_cleared cfg
  have hmasks : OnlyMonitored cfg.statics (detect detected f.uc) :=
    h.cleared.masks.congr (Bits.or_and_of_disjoint _ (Bits.disjoint_of_subset hflags (by decide)))
  have hshut := cleared_shut hmasks
  have hpath := fpTrapHandler_path cfg env siCode { f with uc := detect detected f.uc }
  dsimp only
  generalize FPSpy.fpTrapHandler cfg env siCode { f with uc := detect detected f.uc } = r at hpath ⊢
  cases hpath with
  | dies hexit => tauto
  | bare =>
    refine .inr (.inr ⟨[], ⟨K.standDownNull h.round hshut, h.round, h.inited, ?_⟩, by simp⟩)
    rw [List.append_nil]
    exact h.events
  | @beginStep mc buffer written =>
    refine .inr (.inr ⟨if cfg.records mc.count then
      [eventRecord cfg env siCode mc { f with uc := detect detected f.uc }] else [],
      ⟨?_, h.round, h.inited, ?_⟩, ?_⟩)
    · exact K.beginStep (f := Flow.sampled cfg env siCode mc written
        { f with uc := detect detected f.uc }) cfg.isRoundConfig_our _ hshut
    · simp only [FPSpy.beginStep, Flow.sampled, List.filter_append, h.events]
      split_ifs <;> rfl
    · split_ifs <;> simp [eventRecord, detect, archGetIp]
  | @surprise mc _ buffer written =>
    refine .inr (.inr ⟨if cfg.records mc.count then
      [eventRecord cfg env siCode mc { f with uc := detect detected f.uc }] else [],
      ⟨?_, h.round, h.inited, ?_⟩, ?_⟩)
    · exact K.standDown (f := Flow.sampled cfg env siCode mc written
        { f with uc := detect detected f.uc }) h.round _ hshut
    · simp only [standDown, Flow.sampled, List.filter_append, h.events]
      split_ifs <;> rfl
    · split_ifs <;> simp [eventRecord, detect, archGetIp]

/-- A trap that the process survives. -/
theorem Between.shortCircuit (h : Between cfg es f) {detected : BitVec 32}
    (hflags : detected &&& ~~~0x3f#32 = 0) {siCode : BitVec 32}
    (hg : Flow.shortCircuit cfg env siCode { f with uc := detect detected f.uc } = some g) :
    ∃ rs, Between cfg (es ++ rs) g ∧
      List.Sublist (rs.map fun r => (r.rip, r.code)) [(archGetIp f.uc, siCode)] := by
  have hr := h.fpTrapHandler hflags env siCode
  unfold Flow.shortCircuit at hg
  dsimp only at hg hr
  generalize FPSpy.fpTrapHandler cfg env siCode { f with uc := detect detected f.uc } = r at hg hr
  rcases hr with hdead | hdead | ⟨rs, hbetween, hsub⟩
  · simp [hdead] at hg
  · simp [hdead] at hg
  · refine ⟨rs, ?_, hsub⟩
    split at hg
    · exact Option.some.inj hg ▸ hbetween
    · exact Option.some.inj hg ▸ hbetween.abort env fun _ h => h.kickDelivered env
    all_goals cases hg

end Handlers

/-! ## The run -/

/-- A trap: where it was, what the processor had detected, and the code that was made up. -/
structure ScTrap where
  cpu : Cpu
  detected : BitVec 32
  siCode : BitVec 32

structure Shorted where
  flow : Flow x64
  traps : List ScTrap

/-- The next instruction, with what the processor detects if it traps; a breakpoint trap; an expiry
of the timer. -/
inductive ScEvent where
  | instr (env : Env) (detected : BitVec 32)
  | brkTrap (env : Env)
  | expiry (env : Env)

namespace Shorted

def cpu (s : Shorted) : Cpu := ⟨s.flow.uc, s.flow.code⟩

/-- An instruction traps if it raises an unmasked exception. The processor has set the flags of
what it has found by then, among it something that is unmasked. -/
def step (cfg : Config x64) (P : Program) (s : Shorted) : ScEvent → Option Shorted
  | .instr env detected =>
    let c := s.cpu
    if P.raises c &&& unmasked c.uc ≠ 0 then
      if detected &&& ~~~P.raises c = 0 ∧ detected &&& unmasked c.uc ≠ 0 then
        let uc := detect detected c.uc
        let siCode := fakeSiCode uc.mxcsr
        (Flow.shortCircuit cfg env siCode { s.flow with uc := uc }).map fun f =>
          ⟨f, s.traps ++ [⟨c, detected, siCode⟩]⟩
      else none
    else some { s with flow := { s.flow with uc := (P.commit c).uc, code := (P.commit c).mem } }
  | .brkTrap env => (s.flow.step cfg (.brkTrap env)).map ({ s with flow := · })
  | .expiry env => (s.flow.step cfg (.expiry env)).map ({ s with flow := · })

end Shorted

/-- The code names the first monitored exception that was detected. The instruction raises it. -/
structure ScTrap.Named (cfg : Config x64) (P : Program) (t : ScTrap) : Prop where
  raised : t.detected &&& ~~~P.raises t.cpu = 0
  code : (first (t.detected &&& cfg.statics.mxcsrmaskBase)).map scCode = some t.siCode

namespace Shorted

variable {cfg : Config x64} {P : Program} {f : Flow x64} {s t : Shorted} {es : List TraceRecord}

/-- What a run shows: the code of every trap is right, and every record has that of its trap. -/
structure Codes (cfg : Config x64) (P : Program) (s : Shorted) : Prop where
  named : ∀ t ∈ s.traps, t.Named cfg P
  records : ((s.flow.pushed.filter (·.IsEvent)).map fun r => (r.rip, r.code)).Sublist
    (s.traps.map fun t => (archGetIp t.cpu.uc, t.siCode))

def Goes (cfg : Config x64) (P : Program) (s : Shorted) : Prop :=
  Between cfg (s.flow.pushed.filter (·.IsEvent)) s.flow ∧ s.Codes cfg P

theorem Goes.step (h : Goes cfg P s) {e : ScEvent} (hstep : s.step cfg P e = some t) :
    Goes cfg P t := by
  obtain ⟨hbetween, hcodes⟩ := h
  cases e with
  | brkTrap env =>
    obtain ⟨g, hg, rfl⟩ := Option.map_eq_some_iff.mp hstep
    have hnext := hbetween.brkTrap hg
    exact ⟨⟨hnext.cleared, hnext.round, hnext.inited, rfl⟩, hcodes.named,
      by rw [hnext.events]; exact hcodes.records⟩
  | expiry env =>
    obtain ⟨g, hg, rfl⟩ := Option.map_eq_some_iff.mp hstep
    have hnext := hbetween.expiry hg
    exact ⟨⟨hnext.cleared, hnext.round, hnext.inited, rfl⟩, hcodes.named,
      by rw [hnext.events]; exact hcodes.records⟩
  | instr env detected =>
    simp only [Shorted.step] at hstep
    split_ifs at hstep with hraises hdetected
    · obtain ⟨g, hg, rfl⟩ := Option.map_eq_some_iff.mp hstep
      obtain ⟨hsub, htraps⟩ := hdetected
      have hflags : detected &&& ~~~0x3f#32 = 0 :=
        Bits.disjoint_of_subset hsub (P.raises_subset _)
      obtain ⟨rs, hnext, hrs⟩ := hbetween.shortCircuit hflags hg
      refine ⟨⟨hnext.cleared, hnext.round, hnext.inited, rfl⟩, ?_, ?_⟩
      · intro t ht
        rcases List.mem_append.mp ht with hold | hnew
        · exact hcodes.named t hold
        · obtain rfl := List.mem_singleton.mp hnew
          exact ⟨hsub, hbetween.cleared.fakeSiCode hflags htraps⟩
      · rw [hnext.events, List.map_append, List.map_append]
        exact hcodes.records.append hrs
    · obtain rfl := Option.some.inj hstep
      refine ⟨⟨hbetween.cleared.commit (not_not.mp hraises), hbetween.round, hbetween.inited, rfl⟩,
        hcodes.named, hcodes.records⟩

end Shorted

end FPSpy.X64
