import FPSpy.Machine.X64

/-!
# Sticky exception flags

Each architecture accumulates the exceptions its operations raise in a status register:
MXCSR on x64, FPSR on arm64, `fflags` of `fcsr` on riscv64. libc tests and clears five of
the flags; the test of the sixth, for denormal operands, is the backend's.
-/
namespace FPSpy

/-- The five exceptions of `fenv.h`, in the order in which they are reported. -/
def Fe.standard : List Fe := [.divbyzero, .inexact, .invalid, .overflow, .underflow]

structure StatusRegister where
  /-- The bit of an exception, zero if there is none. -/
  bit : Fe → BitVec 32
  /-- The register of a program that has just been started. -/
  startup : BitVec 32
  archHaveSpecialFpCsrException : BitVec 32 → Fe → Bool
  disjoint : ∀ a e, a ≠ e → bit a &&& bit e = 0
  startup_clear : ∀ e, startup &&& bit e = 0
  standard_ne_zero : ∀ e ∈ Fe.standard, bit e ≠ 0

namespace StatusRegister

variable (S : StatusRegister) {k w : BitVec 32} {e : Fe} {op : List Fe} {ops : List (List Fe)}

def raise (status : BitVec 32) (op : List Fe) : BitVec 32 :=
  op.foldl (fun w e => w ||| S.bit e) status

def execute (status : BitVec 32) (ops : List (List Fe)) : BitVec 32 := ops.foldl S.raise status

def fetestexcept (status : BitVec 32) (e : Fe) : Bool := status &&& S.bit e != 0

/-- libc's `feclearexcept(FE_ALL_EXCEPT)`: five flags. -/
def feclearexceptAll (status : BitVec 32) : BitVec 32 := status &&& ~~~S.raise 0 Fe.standard

/-- The register has a flag for the exception, and an operation raised it. -/
def Recorded (ops : List (List Fe)) (e : Fe) : Prop := S.bit e ≠ 0 ∧ ∃ op ∈ ops, e ∈ op

theorem raise_and (w : BitVec 32) (op : List Fe) (e : Fe) :
    S.raise w op &&& S.bit e = if e ∈ op then S.bit e else w &&& S.bit e := by
  unfold raise
  induction op generalizing w with
  | nil => simp
  | cons a op ih =>
    rw [List.foldl_cons, ih]
    by_cases hae : a = e
    · subst hae
      simp
    · rw [Bits.or_and_of_disjoint _ (S.disjoint a e hae)]
      simp [Ne.symm hae]

/-- An operation touches no other bit. -/
theorem raise_and_of_disjoint (h : ∀ e, S.bit e &&& k = 0) (w : BitVec 32) (op : List Fe) :
    S.raise w op &&& k = w &&& k := by
  unfold raise
  induction op generalizing w with
  | nil => rfl
  | cons a op ih => rw [List.foldl_cons, ih, Bits.or_and_of_disjoint _ (h a)]

theorem execute_and (w : BitVec 32) (ops : List (List Fe)) (e : Fe) :
    S.execute w ops &&& S.bit e =
      if ∃ op ∈ ops, e ∈ op then S.bit e else w &&& S.bit e := by
  unfold execute
  induction ops generalizing w with
  | nil => simp
  | cons op ops ih =>
    rw [List.foldl_cons, ih, raise_and]
    by_cases hop : e ∈ op <;> simp [hop]

theorem execute_and_of_disjoint (h : ∀ e, S.bit e &&& k = 0) (w : BitVec 32)
    (ops : List (List Fe)) : S.execute w ops &&& k = w &&& k := by
  unfold execute
  induction ops generalizing w with
  | nil => rfl
  | cons op ops ih => rw [List.foldl_cons, ih, S.raise_and_of_disjoint h]

/-- A flag is up after some operations if it was, or if one of them raised it. -/
theorem fetestexcept_execute (w : BitVec 32) (ops : List (List Fe)) (e : Fe) :
    S.fetestexcept (S.execute w ops) e = true ↔ S.fetestexcept w e = true ∨ S.Recorded ops e := by
  simp only [fetestexcept, Recorded, execute_and, bne_iff_ne, ne_eq]
  by_cases hops : ∃ op ∈ ops, e ∈ op
  · rw [if_pos hops]
    refine ⟨fun h => .inr ⟨h, hops⟩, fun h => h.elim (fun hw hbit => hw ?_) And.left⟩
    rw [hbit]
    exact BitVec.and_zero
  · simp [hops]

/-- Clearing leaves only the flag for denormal operands. -/
theorem fetestexcept_feclearexceptAll (w : BitVec 32) (e : Fe) :
    S.fetestexcept (S.feclearexceptAll w) e = (S.fetestexcept w e && decide (e = .denorm)) := by
  have hall := S.raise_and 0 Fe.standard e
  unfold fetestexcept feclearexceptAll
  by_cases he : e ∈ Fe.standard
  · rw [if_pos he] at hall
    have hne : e ≠ .denorm := by
      rintro rfl
      exact absurd he (by decide)
    rw [Bits.andNot_and_of_subset _ hall]
    simp [hne]
  · rw [if_neg he] at hall
    have heq : e = .denorm := by
      revert he
      cases e <;> decide
    rw [Bits.andNot_and_of_disjoint _ (by simpa using hall)]
    simp [heq]

theorem feclearexceptAll_and_of_disjoint (h : ∀ e, S.bit e &&& k = 0) (w : BitVec 32) :
    S.feclearexceptAll w &&& k = w &&& k :=
  Bits.andNot_and_of_disjoint w (by simp [S.raise_and_of_disjoint h])

end StatusRegister

/-! ## The backends -/

namespace X64

def archHaveSpecialFpCsrException (mxcsr : BitVec 32) (which : Fe) : Bool :=
  which = .denorm && mxcsr &&& 0x2 != 0

/-- IE, DE, ZE, OE, UE and PE of MXCSR. A program starts with all exceptions masked. -/
def status : StatusRegister where
  bit := feBit
  startup := 0x1f80
  archHaveSpecialFpCsrException := archHaveSpecialFpCsrException
  disjoint a e := by cases a <;> cases e <;> decide
  startup_clear e := by cases e <;> decide
  standard_ne_zero e _ := by cases e <;> decide

end X64

namespace Arm64

/-- The source tests bit 8 for IDC. -/
def archHaveSpecialFpCsrException (fpsr : BitVec 32) (which : Fe) : Bool :=
  which = .denorm && fpsr &&& 0x100 != 0

def statusBit : Fe → BitVec 32
  | .invalid => 0x01
  | .divbyzero => 0x02
  | .overflow => 0x04
  | .underflow => 0x08
  | .inexact => 0x10
  | .denorm => 0x80

def status : StatusRegister where
  bit := statusBit
  startup := 0
  archHaveSpecialFpCsrException := archHaveSpecialFpCsrException
  disjoint a e := by cases a <;> cases e <;> decide
  startup_clear e := by cases e <;> decide
  standard_ne_zero e _ := by cases e <;> decide

end Arm64

namespace Riscv64

def archHaveSpecialFpCsrException (_ : BitVec 32) (_ : Fe) : Bool := false

def statusBit : Fe → BitVec 32
  | .inexact => 0x01
  | .underflow => 0x02
  | .overflow => 0x04
  | .divbyzero => 0x08
  | .invalid => 0x10
  | .denorm => 0

def status : StatusRegister where
  bit := statusBit
  startup := 0
  archHaveSpecialFpCsrException := archHaveSpecialFpCsrException
  disjoint a e := by cases a <;> cases e <;> decide
  startup_clear e := by cases e <;> decide
  standard_ne_zero e he := by
    revert he
    cases e <;> decide

end Riscv64

inductive Isa where
  | x64 | arm64 | riscv64
  deriving DecidableEq, Repr

def Isa.status : Isa → StatusRegister
  | .x64 => X64.status
  | .arm64 => Arm64.status
  | .riscv64 => Riscv64.status

end FPSpy
