import FPSpy.Machine.Status
import FPSpy.Monitor.Effects
import FPSpy.Monitor.Enables

/-!
# The code of a bypassed FP trap

With bypassed exceptions a riscv64 thread takes its FP traps in `handle_kbe`, without a
`siginfo_t` from the kernel. `kbe_fpe_handler` makes up the code from the accrued flags of
`fcsr`, which it compares as a whole. The flags of unmonitored exceptions are never cleared:
what was raised long before the trap is still up.
-/
namespace FPSpy.Riscv64

/-- `FPE_FLTDIV` and so on; denormals have none. -/
def fpeCode : Fe → BitVec 32
  | .divbyzero => 3
  | .overflow => 4
  | .underflow => 5
  | .inexact => 6
  | .invalid => 7
  | .denorm => 0

/-- The code `kbe_fpe_handler` makes up from `fcsr`. -/
def kbeSiCode (fcsr : BitVec 32) : BitVec 32 :=
  let err := fcsr &&& 0x1f#32
  if err = 0x10#32 then fpeCode .invalid
  else if err = 0x08#32 then fpeCode .divbyzero
  else if err = 0x05#32 then fpeCode .overflow
  else if err = 0x03#32 then fpeCode .underflow
  else if err = 0x01#32 then fpeCode .inexact
  else 0

/-- What an operation raises that raises one exception; the result of an overflow or an
underflow is inexact. -/
def alone (e : Fe) : List Fe := if e = .overflow ∨ e = .underflow then [e, .inexact] else [e]

/-- Each code stands for one set of flags. -/
theorem kbeSiCode_eq_iff {e : Fe} (he : e ≠ .denorm) (fcsr : BitVec 32) :
    kbeSiCode fcsr = fpeCode e ↔ fcsr &&& 0x1f#32 = status.raise 0 (alone e) := by
  unfold kbeSiCode
  generalize fcsr &&& 0x1f#32 = err
  dsimp only
  constructor
  · intro h
    split_ifs at h with h₁ h₂ h₃ h₄ h₅
    all_goals cases e <;> first | exact absurd h (by decide) | subst_vars
    all_goals first | decide | exact absurd rfl he
  · rintro rfl
    cases e <;> decide

/-! ## Flags and enables -/

def accrue (uc : UContext) (op : List Fe) : UContext :=
  { uc with fcsr := status.raise uc.fcsr op }

theorem feBit_eq_statusBit (e : Fe) : feBit e = statusBit e := by cases e <;> rfl

theorem flagged_accrue (uc : UContext) (op : List Fe) {e : Fe} (he : e ≠ .denorm) :
    flagged (accrue uc op) e = true ↔ flagged uc e = true ∨ e ∈ op := by
  have hraise := status.raise_and uc.fcsr op e
  have hbit : statusBit e ≠ 0 := by
    cases e <;> first | decide | exact absurd rfl he
  change status.raise uc.fcsr op &&& statusBit e = _ at hraise
  simp only [flagged, accrue, feBit_eq_statusBit, bne_iff_ne, ne_eq, hraise]
  by_cases hop : e ∈ op
  · rw [if_pos hop]
    exact iff_of_true hbit (.inr hop)
  · rw [if_neg hop]
    exact (or_iff_left hop).symm

section Listed

variable {st : Statics} {listed : Fe → Bool} {uc : UContext}

theorem flagged_clearFpExceptions (hbase : Bits.Holds feBit st.ftenBase listed)
    (hfp : st.haveFp = true) (uc : UContext) (e : Fe) :
    flagged (archClearFpExceptions st uc) e = (flagged uc e && !listed e) := by
  simp only [archClearFpExceptions, hfp, if_true, flagged, hbase.andNot_and_ne]

theorem enabled_of_ften_eq (hbase : Bits.Holds feBit st.ftenBase listed)
    (huc : uc.ften = st.ftenBase) {e : Fe} (he : e ≠ .denorm) : enabled uc e = listed e := by
  have hne : (feBit e != 0) = true := (feBit_ne_zero e).trans (bne_iff_ne.mpr he)
  rw [enabled, huc, hbase e]
  cases listed e
  · rfl
  · exact hne

end Listed

/-! ## A thread whose traps are bypassed -/

variable {estep : Bool}

/-- `kbe_fpe_handler`, with the context read from the registers; nowhere if the process dies. -/
def kbeFpeHandler (cfg : Config (riscv64 estep)) (env : Env) (f : Flow (riscv64 estep)) :
    Option (Flow (riscv64 estep)) :=
  Flow.resume cfg env (fpTrapHandler cfg env (kbeSiCode f.uc.fcsr) f)

/-- An instruction with the exceptions it raises, an ESTEP, or a timer expiry. -/
inductive KbeEvent where
  | instr (env : Env) (op : List Fe)
  | estep (env : Env)
  | expiry (env : Env)

/-- An instruction traps if an exception it raises is enabled. -/
def kbeStep (cfg : Config (riscv64 estep)) (f : Flow (riscv64 estep)) :
    KbeEvent → Option (Flow (riscv64 estep))
  | .instr env op =>
    let g := { f with uc := accrue f.uc op }
    if op.any (enabled f.uc) then kbeFpeHandler cfg env g else some g
  | .estep env => Flow.resume cfg env (brkTrapHandler cfg env f)
  | .expiry env => some (sigalrmHandler cfg env f)

/-- A call of `fp_trap_handler`: the instructions before, the one that trapped, the registers it
started with, and the code that is passed. -/
structure KbeTrap where
  earlier : List (List Fe)
  op : List Fe
  uc : UContext
  siCode : BitVec 32

def KbeEvent.ops : KbeEvent → List (List Fe)
  | .instr _ op => [op]
  | .estep _ | .expiry _ => []

def KbeEvent.trap (earlier : List (List Fe)) (uc : UContext) : KbeEvent → List KbeTrap
  | .instr _ op =>
    if op.any (enabled uc) then [⟨earlier, op, uc, kbeSiCode (accrue uc op).fcsr⟩] else []
  | .estep _ | .expiry _ => []

/-- The traps of a run, until the process dies. -/
def kbeTraps (cfg : Config (riscv64 estep)) (earlier : List (List Fe))
    (f : Flow (riscv64 estep)) : List KbeEvent → List KbeTrap
  | [] => []
  | e :: es => e.trap earlier f.uc ++
    match kbeStep cfg f e with
    | none => []
    | some g => kbeTraps cfg (earlier ++ e.ops) g es

namespace KbeTrap

/-- The code is not zero, and names an exception that the instruction raised and that is enabled. -/
def Named (t : KbeTrap) : Prop :=
  t.siCode ≠ 0#32 ∧ ∃ e ∈ t.op, enabled t.uc e = true ∧ t.siCode = fpeCode e

/-- The flags that are up, old and new, are those of one exception alone, which the instruction
raised and which is enabled. -/
def Sole (t : KbeTrap) : Prop :=
  ∃ e ∈ t.op, enabled t.uc e = true ∧
    (accrue t.uc t.op).fcsr &&& 0x1f#32 = status.raise 0 (alone e)

theorem named_iff {t : KbeTrap} (hcode : t.siCode = kbeSiCode (accrue t.uc t.op).fcsr) :
    t.Named ↔ t.Sole := by
  have hreal : ∀ e, enabled t.uc e = true → e ≠ .denorm := by
    rintro e he rfl
    simp [enabled, feBit] at he
  constructor
  · rintro ⟨-, e, hop, he, hsi⟩
    rw [hcode] at hsi
    exact ⟨e, hop, he, (kbeSiCode_eq_iff (hreal e he) _).mp hsi⟩
  · rintro ⟨e, hop, he, hflags⟩
    have hsi := (kbeSiCode_eq_iff (hreal e he) _).mpr hflags
    rw [← hcode] at hsi
    refine ⟨?_, e, hop, he, hsi⟩
    have hne := hreal e he
    rw [hsi]
    cases e <;> first | decide | exact absurd rfl hne

end KbeTrap

variable {cfg : Config (riscv64 estep)}

variable (cfg) in
/-- What the steps of a run keep holds wherever it traps. -/
theorem forall_kbeTraps {I : List (List Fe) → Flow (riscv64 estep) → Prop} {Q : KbeTrap → Prop}
    (hstep : ∀ earlier f e g, I earlier f → kbeStep cfg f e = some g → I (earlier ++ e.ops) g)
    (htrap : ∀ earlier f (e : KbeEvent), I earlier f → ∀ t ∈ e.trap earlier f.uc, Q t)
    {earlier : List (List Fe)} {f : Flow (riscv64 estep)} (hI : I earlier f)
    (es : List KbeEvent) : ∀ t ∈ kbeTraps cfg earlier f es, Q t := by
  induction es generalizing earlier f with
  | nil => exact fun t ht => by cases ht
  | cons e es ih =>
    intro t ht
    rcases List.mem_append.mp ht with ht | ht
    · exact htrap earlier f e hI t ht
    · cases hnext : kbeStep cfg f e with
      | none => simp [hnext] at ht
      | some g =>
        rw [hnext] at ht
        exact ih (hstep earlier f e g hI hnext) t ht

/-- A trap is that of an instruction, one of whose exceptions is enabled. -/
theorem KbeEvent.mem_trap {earlier : List (List Fe)} {uc : UContext} {e : KbeEvent} {t : KbeTrap}
    (ht : t ∈ e.trap earlier uc) :
    ∃ op, op.any (enabled uc) = true ∧ t = ⟨earlier, op, uc, kbeSiCode (accrue uc op).fcsr⟩ := by
  cases e with
  | instr env op =>
    simp only [KbeEvent.trap] at ht
    split_ifs at ht with hop
    · exact ⟨op, hop, List.mem_singleton.mp ht⟩
    · cases ht
  | estep env | expiry env => cases ht

/-! ## Which flags are up -/

/-- The traps are masked, or exactly the listed ones are enabled and none of their flags is up. -/
def Settled (st : Statics) (listed : Fe → Bool) (uc : UContext) : Prop :=
  uc.ften = 0 ∨ uc.ften = st.ftenBase ∧ ∀ e, listed e = true → flagged uc e = false

/-- Masking leaves nothing enabled. -/
theorem Settled.mask {st : Statics} {listed : Fe → Bool} {uc : UContext}
    (h : Settled st listed uc) : uc.ften &&& ~~~st.ftenBase = 0 := by
  rcases h with hzero | ⟨hopen, -⟩
  · simp [hzero]
  · simp [hopen]

/-- Unmasking enables what is listed. -/
theorem Settled.unmask {st : Statics} {listed : Fe → Bool} {uc : UContext}
    (h : Settled st listed uc) : uc.ften ||| st.ftenBase = st.ftenBase := by
  rcases h with hzero | ⟨hopen, -⟩
  · simp [hzero]
  · simp [hopen]

/-- The flag of an exception that is not listed has been up from the start, or since an
instruction raised it. -/
structure Sticky (st : Statics) (listed : Fe → Bool) (start : UContext) (earlier : List (List Fe))
    (uc : UContext) : Prop where
  settled : Settled st listed uc
  unlisted : ∀ e, e ≠ .denorm → listed e = false →
    (flagged uc e = true ↔ flagged start e = true ∨ ∃ op ∈ earlier, e ∈ op)

section Sticky

variable {listed : Fe → Bool} {start : UContext} {earlier : List (List Fe)}

/-- Clearing the monitored flags leaves the others. -/
theorem Sticky.clear {st : Statics} {uc : UContext} (h : Sticky st listed start earlier uc)
    (hbase : Bits.Holds feBit st.ftenBase listed) (hfp : st.haveFp = true) (ften : BitVec 32)
    (hften : ften = 0 ∨ ften = st.ftenBase) :
    Sticky st listed start earlier { archClearFpExceptions st uc with ften := ften } := by
  have hflag : ∀ e, flagged { archClearFpExceptions st uc with ften := ften } e =
      (flagged uc e && !listed e) := flagged_clearFpExceptions hbase hfp uc
  refine ⟨?_, fun e he hl => ?_⟩
  · rcases hften with hzero | hopen
    · exact .inl hzero
    · exact .inr ⟨hopen, fun e hl => by rw [hflag, hl, Bool.not_true, Bool.and_false]⟩
  · rw [hflag, hl, Bool.not_false, Bool.and_true]
    exact h.unlisted e he hl

theorem keeps_sticky (hbase : Bits.Holds feBit cfg.statics.ftenBase listed)
    (hfp : cfg.statics.haveFp = true) (hround : cfg.controlRoundConfig = false) :
    Keeps cfg (Sticky cfg.statics listed start earlier) where
  shut uc h := by
    refine h.clear hbase hfp _ (.inl ?_)
    rw [ften_clearFpExceptions]
    exact h.settled.mask
  reopen uc h := by
    refine h.clear hbase hfp _ (.inr ?_)
    rw [ften_clearFpExceptions]
    exact h.settled.unmask
  setRound hcontrol := absurd hcontrol (by simp [hround])
  setTrapMode _ _ _ h := h
  resetTrapMode _ _ _ h := h
  resetTrapModeNull _ h := h

/-- An instruction adds its flags, and its unlisted ones stay. -/
theorem Sticky.unlisted_accrue {st : Statics} {uc : UContext}
    (h : Sticky st listed start earlier uc) (op : List Fe) :
    ∀ e, e ≠ .denorm → listed e = false → (flagged (accrue uc op) e = true ↔
      flagged start e = true ∨ ∃ o ∈ earlier ++ [op], e ∈ o) := by
  intro e he hl
  rw [flagged_accrue uc op he, h.unlisted e he hl]
  simp only [List.mem_append, List.mem_singleton, or_and_right, exists_or, exists_eq_left,
    or_assoc]

/-- While the traps are open, an untrapped instruction raises no listed flag. -/
theorem Settled.accrue {st : Statics} {uc : UContext} {op : List Fe}
    (h : Settled st listed uc) (hbase : Bits.Holds feBit st.ftenBase listed)
    (hop : op.any (enabled uc) = false) : Settled st listed (accrue uc op) := by
  rcases h with hzero | ⟨hopen, hdown⟩
  · exact .inl hzero
  refine .inr ⟨hopen, fun e hl => ?_⟩
  by_cases he : e = .denorm
  · subst he
    simp [flagged, feBit]
  · rw [← Bool.not_eq_true, flagged_accrue uc op he, hdown e hl]
    rintro (hup | hmem)
    · cases hup
    · have hoff := List.any_eq_false.mp hop e hmem
      rw [enabled_of_ften_eq hbase hopen he, hl] at hoff
      exact hoff rfl

/-- One event. A trap finds listed flags up and takes them down. -/
theorem Sticky.step (hbase : Bits.Holds feBit cfg.statics.ftenBase listed)
    (hfp : cfg.statics.haveFp = true) (hround : cfg.controlRoundConfig = false)
    {f g : Flow (riscv64 estep)} {e : KbeEvent}
    (h : Sticky cfg.statics listed start earlier f.uc) (hstep : kbeStep cfg f e = some g) :
    Sticky cfg.statics listed start (earlier ++ e.ops) g.uc := by
  have K : Keeps cfg (Sticky cfg.statics listed start (earlier ++ e.ops)) :=
    keeps_sticky hbase hfp hround
  cases e with
  | instr env op =>
    have hunlisted := h.unlisted_accrue op
    simp only [kbeStep] at hstep
    split_ifs at hstep with hop
    · refine K.resume_fpTrapHandler hstep ⟨.inl ?_, fun e he hl => ?_⟩
      · have hften : (accrue f.uc op).ften = f.uc.ften := rfl
        simp only [archMaskFpTraps, ften_clearFpExceptions, hften]
        exact h.settled.mask
      · have hflag : flagged (archMaskFpTraps cfg.statics (archClearFpExceptions cfg.statics
            (accrue f.uc op))) e = (flagged (accrue f.uc op) e && !listed e) :=
          flagged_clearFpExceptions hbase hfp _ e
        rw [hflag, hl, Bool.not_false, Bool.and_true]
        exact hunlisted e he hl
    · obtain rfl := Option.some.inj hstep
      exact ⟨h.settled.accrue hbase (Bool.eq_false_iff.mpr hop), hunlisted⟩
  | estep env =>
    rw [(Flow.sameCode_resume hstep).uc]
    rw [KbeEvent.ops, List.append_nil] at K ⊢
    exact K.brkTrapHandler h
  | expiry env =>
    obtain rfl := Option.some.inj hstep
    rw [KbeEvent.ops, List.append_nil] at K ⊢
    exact K.sigalrmHandler h

end Sticky

/-! ## The documented lists -/

def listening (base : Config (riscv64 estep)) (items : List Item) : Config (riscv64 estep) :=
  { base with
    statics := (configExceptions (B := backend estep) .individual (exceptList items)
      ⟨statics, fun e => e != .denorm⟩).statics }

theorem haveFp_listening (base : Config (riscv64 estep)) (items : List Item) :
    (listening base items).statics.haveFp = true := by
  have hwhat := whatFp_configExceptions items
    (⟨statics, fun e => e != .denorm⟩ : TrapSelection (backend estep))
  rw [Statics.haveFp, listening, hwhat]
  rfl

/-- Every code of a run names a listed exception that the instruction raised exactly if the flags
up at every trap are those of one exception alone, raised and enabled. Where no rounding is
forced, these are the flags of the instruction and those of all unlisted exceptions raised
before. -/
theorem siCodes_iff (base : Config (riscv64 estep)) (items : List Item)
    (f : Flow (riscv64 estep)) (es : List KbeEvent) :
    ((∀ t ∈ kbeTraps (listening base items) [] f es, t.Named) ↔
      ∀ t ∈ kbeTraps (listening base items) [] f es, t.Sole) ∧
    (base.controlRoundConfig = false → Settled (listening base items).statics (listed items) f.uc →
      ∀ t ∈ kbeTraps (listening base items) [] f es, ∀ e, e ≠ .denorm →
        (enabled t.uc e = true ↔ listed items e = true) ∧
        (flagged t.uc e = true ↔
          listed items e = false ∧ (flagged f.uc e = true ∨ ∃ op ∈ t.earlier, e ∈ op))) := by
  have hbase := holds_configExceptions items
    (⟨statics, fun e => e != .denorm⟩ : TrapSelection (backend estep))
  have hfp := haveFp_listening base items
  constructor
  · have hcode : ∀ t ∈ kbeTraps (listening base items) [] f es,
        t.siCode = kbeSiCode (accrue t.uc t.op).fcsr := by
      refine forall_kbeTraps _ (I := fun _ _ => True) (fun _ _ _ _ _ _ => trivial) ?_ trivial es
      intro earlier g e _ t ht
      obtain ⟨op, -, rfl⟩ := KbeEvent.mem_trap ht
      rfl
    exact forall₂_congr fun t ht => KbeTrap.named_iff (hcode t ht)
  · intro hround hsettled
    refine forall_kbeTraps (listening base items)
      (I := fun earlier g => Sticky (listening base items).statics (listed items) f.uc earlier g.uc)
      (fun earlier f e g hI hstep => hI.step hbase hfp hround hstep) ?_
      ⟨hsettled, fun e _ _ => by simp⟩ es
    intro earlier g e hI t ht
    obtain ⟨op, hop, rfl⟩ := KbeEvent.mem_trap ht
    obtain ⟨a, ha, henabled⟩ := List.any_eq_true.mp hop
    rcases hI.settled with hzero | ⟨hopen, hdown⟩
    · simp [enabled, hzero] at henabled
    · intro e he
      refine ⟨by rw [enabled_of_ften_eq hbase hopen he], ?_⟩
      cases hl : listed items e with
      | true => simp [hdown e hl]
      | false => simpa using hI.unlisted e he hl

def freshKbe (estep : Bool) : Flow (riscv64 estep) :=
  bringup (.defaults statics) ⟨0, 0, 0, 0, some 3⟩ .inHandler id
    { toGlobals := .start fun _ => 0, toThread := .start 1 ⟨fun _ => 0, 0, 0⟩ }

def onlyDivide : List Item := [⟨.divbyzero, "divide".toList, by decide⟩]

def divide : List KbeEvent :=
  [.estep ⟨0, 0, 0, 0, some 3⟩, .instr ⟨0, 0, 0, 0, some 3⟩ [.divbyzero]]

def inexactDivide : List KbeEvent :=
  [.estep ⟨0, 0, 0, 0, some 3⟩, .instr ⟨0, 0, 0, 0, some 3⟩ [.inexact],
    .instr ⟨0, 0, 0, 0, some 3⟩ [.divbyzero]]

/-- The division's code is the right one. -/
theorem siCodes_iff_divide :
    ∀ t ∈ kbeTraps (listening (.defaults statics) onlyDivide) [] (freshKbe true) divide,
      t.Named := by
  have hlist : (kbeTraps (listening (.defaults statics) onlyDivide) [] (freshKbe true) divide).map
      (fun t => (t.op, t.uc.ften, t.uc.fcsr)) = [([.divbyzero], 8, 0)] := by decide
  refine (siCodes_iff (.defaults statics) onlyDivide (freshKbe true) divide).1.mpr fun t ht => ?_
  have hmem := List.mem_map_of_mem (f := fun t : KbeTrap => (t.op, t.uc.ften, t.uc.fcsr)) ht
  obtain ⟨hop, hften, hfcsr⟩ : t.op = [.divbyzero] ∧ t.uc.ften = 8 ∧ t.uc.fcsr = 0 := by
    simpa [hlist] using hmem
  refine ⟨.divbyzero, by simp [hop], by rw [enabled, hften]; decide, ?_⟩
  rw [accrue, hop, hfcsr]
  change status.raise 0 [.divbyzero] &&& 0x1f#32 = status.raise 0 (alone .divbyzero)
  decide

/-- The accrued flag of the inexact result leaves the division without a code. -/
theorem not_siCodes_inexactDivide :
    ∃ t ∈ kbeTraps (listening (.defaults statics) onlyDivide) [] (freshKbe true) inexactDivide,
      t.siCode = 0 ∧ ¬ t.Named := by
  have hcode : (kbeTraps (listening (.defaults statics) onlyDivide) [] (freshKbe true)
      inexactDivide).map (·.siCode) = [0] := by decide
  obtain ⟨t, ht, hzero⟩ : ∃ t ∈ kbeTraps (listening (.defaults statics) onlyDivide) []
      (freshKbe true) inexactDivide, t.siCode = 0 :=
    List.mem_map.mp (hcode ▸ List.mem_singleton_self 0)
  exact ⟨t, ht, hzero, fun h => h.1 hzero⟩

end FPSpy.Riscv64
