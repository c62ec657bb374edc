import FPSpy.Lib.LetterCase
import FPSpy.Monitor.Numbers
import FPSpy.Monitor.Rounding

/-!
# The configuration of a process

`fpspy_init` on x64, up to its call of `bringup`: every environment variable it looks at, in
order, and what it sets. The case of the letters does not matter in any of them. The interposed
functions depend on some of the variables only; what `Shims.fpspyInit` makes of these is what
`fpspy_init` makes of them.
-/
namespace FPSpy.Configuration

open LetterCase (lower Blind)
open Setting (isspace scanLu strcaseeq)
open X64 (configRoundDazFtz)

/-! ## The texts -/

/-- `*endptr` after `strtol(s, &endptr, 10)`: all of `s` if there is no number. -/
def strtolEnd (s : List Char) : List Char := (scanLu s).getD s

/-- What `%lu` stores where it matches, for an `unsigned long` of 64 bits. -/
def luValue (s : List Char) : BitVec 64 :=
  let s := s.dropWhile isspace
  let negative := s.head? = some '-'
  let s := match s with
    | '+' :: rest | '-' :: rest => rest
    | s => s
  let value := Nat.ofDigitChars 10 (s.takeWhile Char.isDigit) 0
  if 2 ^ 64 ≤ value then BitVec.allOnes 64
  else if negative then -BitVec.ofNat 64 value else BitVec.ofNat 64 value

/-- `sscanf(s, "%lu:%lu", &on, &off)`: whether it is 2, and the two variables. -/
def sscanfLuLu (s : List Char) (on off : BitVec 64) : Bool × BitVec 64 × BitVec 64 :=
  match scanLu s with
  | none => (false, on, off)
  | some (':' :: rest) =>
    if (scanLu rest).isSome then (true, luValue s, luValue rest) else (false, luValue s, off)
  | some _ => (false, luValue s, off)

/-! ## The variables -/

inductive Variable where
  | fpspyDebugLevel | fpspyEnableTrace | fpspyMode | fpspyMaxcount | fpspyAggressive
  | fpspyDisablePthreads | disablePthreads | fpspySample | fpspyKernel | fpspyPoisson | fpspyTimer
  | fpspySeed | fpspyExceptList | fpspyForceRounding | fpspyKickstart | fpspyAbort
  deriving DecidableEq, Repr

abbrev Environment := Variable → Option (List Char)

def Environment.startsWith (e : Environment) (v : Variable) (letter : Char) : Bool :=
  (e v).any fun s => s.head?.any fun c => c.toLower = letter

structure Settings where
  config : Config x64
  mode : Mode
  logLevel : BitVec 8
  disablePthreads : Bool
  kernel : Bool
  enabledFpTraps : Fe → Bool
  origRoundConfig : BitVec 32

/-- How `fpspy_init` ends before it calls `bringup`. -/
inductive Stop where
  /-- `abort()` -/
  | abort
  /-- It returns, and FPSpy does nothing in this process. -/
  | returned (s : Settings)

/-- The initial values; `build` holds the compile-time settings. -/
def Settings.initial (build : Config x64) : Settings where
  config :=
    { Config.defaults X64.statics with
      noOutput := build.noOutput
      traceBuflen := build.traceBuflen
      maxUsOn := build.maxUsOn
      maxUsOff := build.maxUsOff }
  mode := .aggregate
  logLevel := 2
  disablePthreads := false
  kernel := false
  enabledFpTraps e := e ≠ .denorm
  origRoundConfig := 0

/-! ## `fpspy_init` -/

section Read

variable (e : Environment) (s : Settings)

def readDebugLevel : Except Stop Settings :=
  (e .fpspyDebugLevel).elim (.ok s) fun nptr =>
    if nptr ≠ [] ∧ strtolEnd nptr = [] ∧ (strtol nptr = 0 ∨ strtol nptr = 1) then
      .ok { s with logLevel := BitVec.ofInt 8 (strtol nptr) }
    else .error .abort

def readEnableTrace : Settings :=
  if e.startsWith .fpspyEnableTrace 'n' then
    { s with config := { s.config with createMonitorFile := false } }
  else s

def readMode : Except Stop Settings :=
  (e .fpspyMode).elim (.ok { s with mode := .aggregate }) fun mode =>
    if strcaseeq mode "individual".toList then .ok { s with mode := .individual }
    else if strcaseeq mode "aggregate".toList then .ok { s with mode := .aggregate }
    else .error .abort

def readMaxcount : Settings :=
  (e .fpspyMaxcount).elim s fun n => { s with config := { s.config with maxcount := atoi n } }

def readAggressive : Settings :=
  if e.startsWith .fpspyAggressive 'y' then
    { s with config := { s.config with aggressive := true } }
  else s

def readDisablePthreads : Settings :=
  if e.startsWith .fpspyDisablePthreads 'y' || e.startsWith .disablePthreads 'y' then
    { s with disablePthreads := true }
  else s

def readSample : Settings :=
  (e .fpspySample).elim s fun n => { s with config := s.config.readSample n }

def readKernel : Settings :=
  if e.startsWith .fpspyKernel 'y' then { s with kernel := true } else s

def readPoisson : Except Stop Settings :=
  (e .fpspyPoisson).elim (.ok s) fun text =>
    let r := sscanfLuLu text s.config.onMeanUs s.config.offMeanUs
    let config := { s.config with onMeanUs := r.2.1, offMeanUs := r.2.2 }
    if r.1 then .ok { s with config := { config with timers := true } }
    else .error (.returned { s with config := config })

def readTimer : Except Stop Settings :=
  (e .fpspyTimer).elim (.ok s) fun timer =>
    if strcaseeq timer "virtual".toList then
      .ok { s with config := { s.config with timerType := .virtual } }
    else if strcaseeq timer "real".toList then
      .ok { s with config := { s.config with timerType := .real } }
    else if strcaseeq timer "prof".toList then
      .ok { s with config := { s.config with timerType := .prof } }
    else .error (.returned s)

/-- `atol` is `strtol`. -/
def readSeed : Settings :=
  { s with config := { s.config with
    randomSeed := (e .fpspySeed).elim (-1) fun n => BitVec.ofInt 64 (strtol n) } }

def readExceptList : Settings :=
  (e .fpspyExceptList).elim s fun buf =>
    let t : TrapSelection X64.backend := ⟨s.config.statics, s.enabledFpTraps⟩
    let t := configExceptions s.mode buf t
    { s with
      config := { s.config with statics := t.statics }
      enabledFpTraps := t.enabledFpTraps }

def readForceRounding (mxcsr : BitVec 32) : Settings :=
  (e .fpspyForceRounding).elim s fun buf =>
    { s with
      config := X64.forced s.config buf mxcsr
      origRoundConfig := (configRoundDazFtz buf mxcsr).orig }

def readKickstart : Settings :=
  if e.startsWith .fpspyKickstart 'y' then
    { s with config := { s.config with kickstart := true } }
  else s

def readAbort : Settings :=
  if e.startsWith .fpspyAbort 'y' then
    { s with config := { s.config with abortOnFpe := true, createMonitorFile := false } }
  else s

/-- `fpspy_init` up to FPSPY_EXCEPT_LIST; nothing can go wrong after that. -/
def readVariables : Except Stop Settings := do
  let s ← readDebugLevel e s
  let s ← readMode e (readEnableTrace e s)
  let s := readDisablePthreads e (readAggressive e (readMaxcount e s))
  let s ← readPoisson e (readKernel e (readSample e s))
  let s ← readTimer e s
  return readExceptList e (readSeed e s)

def fpspyInit (mxcsr : BitVec 32) : Except Stop Settings := do
  let s ← readVariables e s
  return readAbort e (readKickstart e (readForceRounding e s mxcsr))

/-- The environment of the process afterwards: `putenv("FPSPY_KICKSTART=n")`. -/
def environAfter (mxcsr : BitVec 32) : Environment :=
  match fpspyInit e s mxcsr with
  | .ok t => if t.config.kickstart then Function.update e .fpspyKickstart (some ['n']) else e
  | .error _ => e

end Read

/-! ## Letter case -/

def unsigned (s : List Char) : List Char :=
  match s with
  | '+' :: rest | '-' :: rest => rest
  | s => s

theorem strtol_eq (s : List Char) : strtol s =
    let t := s.dropWhile isspace
    let value : Int := Nat.ofDigitChars 10 ((unsigned t).takeWhile Char.isDigit) 0
    if t.head? = some '-' then max (-value) (-2 ^ 63) else min value (2 ^ 63 - 1) := rfl

theorem luValue_eq (s : List Char) : luValue s =
    let t := s.dropWhile isspace
    let value := Nat.ofDigitChars 10 ((unsigned t).takeWhile Char.isDigit) 0
    if 2 ^ 64 ≤ value then BitVec.allOnes 64
    else if t.head? = some '-' then -BitVec.ofNat 64 value else BitVec.ofNat 64 value := rfl

theorem scanLu_eq (s : List Char) : scanLu s =
    let t := unsigned (s.dropWhile isspace)
    if t.head?.any Char.isDigit then some (t.dropWhile Char.isDigit) else none := rfl

theorem blind_isspace : Blind isspace := LetterCase.blind_of_capitals (by decide)

theorem blind_eq {d : Char} (h : ∀ n < 26, (Char.ofNat (65 + n)).toLower ≠ d ∧
    Char.ofNat (65 + n) ≠ d) : Blind fun c => c = d :=
  LetterCase.blind_of_capitals fun n hn => by simp [h n hn]

theorem toLower_eq_iff {d : Char} (h : ∀ n < 26, (Char.ofNat (65 + n)).toLower ≠ d ∧
    Char.ofNat (65 + n) ≠ d) (c : Char) : c.toLower = d ↔ c = d := by
  simpa using blind_eq h c

theorem unsigned_cons {c : Char} (hplus : c ≠ '+') (hminus : c ≠ '-') (s : List Char) :
    unsigned (c :: s) = c :: s := by
  unfold unsigned
  split <;> simp_all

theorem unsigned_lower (s : List Char) : unsigned (lower s) = lower (unsigned s) := by
  have hplus := toLower_eq_iff (d := '+') (by decide)
  have hminus := toLower_eq_iff (d := '-') (by decide)
  cases s with
  | nil => rfl
  | cons c s =>
    by_cases hc : c = '+' ∨ c = '-'
    · rcases hc with rfl | rfl <;> rfl
    · obtain ⟨h₁, h₂⟩ := not_or.mp hc
      rw [LetterCase.lower_cons, unsigned_cons (by rwa [ne_eq, hplus]) (by rwa [ne_eq, hminus]),
        unsigned_cons h₁ h₂, LetterCase.lower_cons]

/-- The digits in front. -/
theorem digits_lower (s : List Char) :
    (lower s).takeWhile Char.isDigit = s.takeWhile Char.isDigit := by
  rw [LetterCase.blind_isDigit.takeWhile_lower]
  exact LetterCase.lower_of_isDigit fun c hc => List.mem_takeWhile_imp hc

theorem negative_lower (s : List Char) : (lower s).head? = some '-' ↔ s.head? = some '-' := by
  cases s with
  | nil => simp
  | cons c s => simpa using toLower_eq_iff (d := '-') (by decide) c

@[simp] theorem strtol_lower (s : List Char) : strtol (lower s) = strtol s := by
  simp only [strtol_eq, blind_isspace.dropWhile_lower, unsigned_lower, digits_lower, negative_lower]

@[simp] theorem atoi_lower (s : List Char) : atoi (lower s) = atoi s := by
  simp only [atoi, strtol_lower]

@[simp] theorem luValue_lower (s : List Char) : luValue (lower s) = luValue s := by
  simp only [luValue_eq, blind_isspace.dropWhile_lower, unsigned_lower, digits_lower,
    negative_lower]

@[simp] theorem scanLu_lower (s : List Char) : scanLu (lower s) = (scanLu s).map lower := by
  simp only [scanLu_eq, blind_isspace.dropWhile_lower, unsigned_lower,
    LetterCase.blind_isDigit.any_head?_lower, LetterCase.blind_isDigit.dropWhile_lower]
  split_ifs <;> rfl

@[simp] theorem strtolEnd_lower (s : List Char) : strtolEnd (lower s) = lower (strtolEnd s) := by
  simp only [strtolEnd, scanLu_lower]
  cases scanLu s <;> rfl

@[simp] theorem sscanfLuLu_lower (s : List Char) (on off : BitVec 64) :
    sscanfLuLu (lower s) on off = sscanfLuLu s on off := by
  have hcolon := toLower_eq_iff (d := ':') (by decide)
  simp only [sscanfLuLu, scanLu_lower, luValue_lower]
  cases scanLu s with
  | none => rfl
  | some rest =>
    cases rest with
    | nil => rfl
    | cons c rest =>
      by_cases hc : c = ':'
      · subst hc
        simp [show Char.toLower ':' = ':' by decide]
      · have hlow : c.toLower ≠ ':' := by rwa [ne_eq, hcolon]
        simp [hc, hlow]

@[simp] theorem strcaseeq_lower (s t : List Char) : strcaseeq (lower s) t = strcaseeq s t := by
  have hlower : (lower s).map Char.toLower = s.map Char.toLower := LetterCase.lower_lower s
  simp only [strcaseeq, hlower]

@[simp] theorem strcasestr_lower (s key : List Char) :
    strcasestr (lower s) key = strcasestr s key := by
  have hlower : (lower s).map Char.toLower = s.map Char.toLower := LetterCase.lower_lower s
  simp only [strcasestr, hlower]

theorem configExceptions_lower (mode : Mode) (buf : List Char) (t : TrapSelection X64.backend) :
    configExceptions mode (lower buf) t = configExceptions mode buf t := by
  have hone : configException (B := X64.backend) (lower buf) = configException buf := by
    funext t e
    simp [configException]
  simp only [configExceptions, hone]

theorem configRoundDazFtz_lower (buf : List Char) (mxcsr : BitVec 32) :
    configRoundDazFtz (lower buf) mxcsr = configRoundDazFtz buf mxcsr := by
  simp [configRoundDazFtz, X64.searchRoundMode]

def Environment.lower (e : Environment) : Environment := fun v => (e v).map LetterCase.lower

theorem Environment.startsWith_lower (e : Environment) (v : Variable) (letter : Char) :
    e.lower.startsWith v letter = e.startsWith v letter := by
  simp only [Environment.startsWith, Environment.lower, Option.any_map]
  congr 1
  funext s
  cases s <;> simp

section Lower

variable (e : Environment) (s : Settings)

/-- A reader of one variable that does not look at the case of its letters. -/
theorem elim_lower {β : Type} {f : List Char → β} (hf : ∀ t, f (lower t) = f t) (v : Variable)
    (b : β) : (e.lower v).elim b f = (e v).elim b f := by
  unfold Environment.lower
  cases e v with
  | none => rfl
  | some t => exact hf t

theorem readDebugLevel_lower : readDebugLevel e.lower s = readDebugLevel e s :=
  elim_lower e (fun t => by simp only [ne_eq, LetterCase.lower_eq_nil, strtolEnd_lower,
    strtol_lower]) _ _

theorem readMode_lower : readMode e.lower s = readMode e s :=
  elim_lower e (fun t => by simp only [strcaseeq_lower]) _ _

theorem readMaxcount_lower : readMaxcount e.lower s = readMaxcount e s :=
  elim_lower e (fun t => by simp only [atoi_lower]) _ _

theorem readSample_lower : readSample e.lower s = readSample e s :=
  elim_lower e (fun t => by simp only [Config.readSample, atoi_lower]) _ _

theorem readPoisson_lower : readPoisson e.lower s = readPoisson e s :=
  elim_lower e (fun t => by simp only [sscanfLuLu_lower]) _ _

theorem readTimer_lower : readTimer e.lower s = readTimer e s :=
  elim_lower e (fun t => by simp only [strcaseeq_lower]) _ _

theorem readSeed_lower : readSeed e.lower s = readSeed e s := by
  have helim := elim_lower e (f := fun n => BitVec.ofInt 64 (strtol n))
    (fun t => by rw [strtol_lower]) .fpspySeed (-1)
  simp only [readSeed, helim]

theorem readExceptList_lower : readExceptList e.lower s = readExceptList e s :=
  elim_lower e (fun t => by simp only [configExceptions_lower]) _ _

theorem readForceRounding_lower (mxcsr : BitVec 32) :
    readForceRounding e.lower s mxcsr = readForceRounding e s mxcsr :=
  elim_lower e (fun t => by simp only [X64.forced, configRoundDazFtz_lower]) _ _

/-- The case of the letters in the environment does not matter. -/
theorem fpspyInit_lower (mxcsr : BitVec 32) :
    fpspyInit e.lower s mxcsr = fpspyInit e s mxcsr := by
  simp only [fpspyInit, readVariables, readDebugLevel_lower, readMode_lower, readMaxcount_lower,
    readSample_lower, readPoisson_lower, readTimer_lower, readSeed_lower, readExceptList_lower,
    readForceRounding_lower, readEnableTrace, readAggressive, readDisablePthreads, readKernel,
    readKickstart, readAbort, Environment.startsWith_lower]

end Lower

/-! ## What the interposed functions see -/

section Interposed

/-- The variables that the interposed functions depend on. -/
def Environment.setting (e : Environment) (archProcessInit : Bool) (dlsym : OrigFn → Bool) :
    FPSpy.Setting where
  getenv
    | .fpspyMode => e .fpspyMode
    | .fpspyEnableTrace => e .fpspyEnableTrace
    | .fpspyAggressive => e .fpspyAggressive
    | .fpspyDisablePthreads => e .fpspyDisablePthreads
    | .disablePthreads => e .disablePthreads
    | .fpspyPoisson => e .fpspyPoisson
    | .fpspyTimer => e .fpspyTimer
    | .fpspyAbort => e .fpspyAbort
  machineSupportsFpTraps := true
  archProcessInit := archProcessInit
  dlsym := dlsym

def Settings.shims (s : Settings) : Shims :=
  { Shims.zero with
    mode := s.mode
    createMonitorFile := s.config.createMonitorFile
    aggressive := s.config.aggressive
    disablePthreads := s.disablePthreads }

variable (e : Environment) (s : Settings) {archProcessInit : Bool} {dlsym : OrigFn → Bool}

theorem readMode_eq : readMode e s =
    match (e.setting archProcessInit dlsym).mode with
    | some mode => .ok { s with mode := mode }
    | none => .error .abort := by
  have hget : (e.setting archProcessInit dlsym).getenv .fpspyMode = e .fpspyMode := rfl
  have htraps : (e.setting archProcessInit dlsym).machineSupportsFpTraps = true := rfl
  rw [readMode, FPSpy.Setting.mode, hget, htraps]
  cases e .fpspyMode with
  | none => rfl
  | some text =>
    simp only [Option.elim_some, if_true]
    split_ifs <;> rfl

theorem sscanfLuLu_fst (text : List Char) (on off : BitVec 64) :
    (sscanfLuLu text on off).1 = FPSpy.Setting.scansLuLu text := by
  unfold sscanfLuLu FPSpy.Setting.scansLuLu
  cases scanLu text with
  | none => rfl
  | some rest =>
    cases rest with
    | nil => rfl
    | cons c rest =>
      by_cases hc : c = ':'
      · subst hc
        show (if (scanLu rest).isSome then (true, luValue text, luValue rest)
          else (false, luValue text, off)).1 = (scanLu rest).isSome
        cases scanLu rest <;> rfl
      · simp [hc]

theorem readPoisson_eq : ∃ t : Settings, t.shims = s.shims ∧ readPoisson e s =
    if (e .fpspyPoisson).all FPSpy.Setting.scansLuLu then .ok t else .error (.returned t) := by
  unfold readPoisson
  cases e .fpspyPoisson with
  | none => exact ⟨s, rfl, rfl⟩
  | some text =>
    simp only [Option.elim_some, Option.all_some, ← sscanfLuLu_fst text s.config.onMeanUs
      s.config.offMeanUs]
    split_ifs
    all_goals
      refine ⟨_, ?_, rfl⟩
      rfl

theorem readTimer_eq : ∃ t : Settings, t.shims = s.shims ∧ readTimer e s =
    if (e .fpspyTimer).all fun timer => strcaseeq timer "virtual".toList ||
      strcaseeq timer "real".toList || strcaseeq timer "prof".toList
    then .ok t else .error (.returned t) := by
  unfold readTimer
  cases e .fpspyTimer with
  | none => exact ⟨s, rfl, rfl⟩
  | some text =>
    simp only [Option.elim_some, Option.all_some]
    by_cases hv : strcaseeq text "virtual".toList = true
    · rw [if_pos hv]
      refine ⟨_, ?_, (if_pos (by rw [hv]; rfl)).symm⟩
      rfl
    by_cases hr : strcaseeq text "real".toList = true
    · rw [if_neg hv, if_pos hr]
      refine ⟨_, ?_, (if_pos (by rw [hr, Bool.or_true, Bool.true_or])).symm⟩
      rfl
    by_cases hp : strcaseeq text "prof".toList = true
    · rw [if_neg hv, if_neg hr, if_pos hp]
      refine ⟨_, ?_, (if_pos (by rw [hp, Bool.or_true])).symm⟩
      rfl
    · rw [if_neg hv, if_neg hr, if_neg hp]
      rw [Bool.not_eq_true] at hv hr hp
      exact ⟨s, rfl, (if_neg (by rw [hv, hr, hp]; decide)).symm⟩

theorem shims_readEnableTrace : (readEnableTrace e s).shims = { s.shims with
    createMonitorFile := s.shims.createMonitorFile && !e.startsWith .fpspyEnableTrace 'n' } := by
  unfold readEnableTrace
  cases e.startsWith .fpspyEnableTrace 'n' <;> simp [Settings.shims]

theorem shims_readAggressive : (readAggressive e s).shims = { s.shims with
    aggressive := s.shims.aggressive || e.startsWith .fpspyAggressive 'y' } := by
  unfold readAggressive
  cases e.startsWith .fpspyAggressive 'y' <;> simp [Settings.shims]

theorem shims_readDisablePthreads : (readDisablePthreads e s).shims = { s.shims with
    disablePthreads := s.shims.disablePthreads ||
      (e.startsWith .fpspyDisablePthreads 'y' || e.startsWith .disablePthreads 'y') } := by
  unfold readDisablePthreads
  cases e.startsWith .fpspyDisablePthreads 'y' <;> cases e.startsWith .disablePthreads 'y' <;>
    simp [Settings.shims]

theorem shims_readAbort : (readAbort e s).shims = { s.shims with
    createMonitorFile := s.shims.createMonitorFile && !e.startsWith .fpspyAbort 'y' } := by
  unfold readAbort
  cases e.startsWith .fpspyAbort 'y' <;> simp [Settings.shims]

/-- The others set nothing that matters there. -/
theorem shims_others (mxcsr : BitVec 32) : (readMaxcount e s).shims = s.shims ∧
    (readSample e s).shims = s.shims ∧ (readKernel e s).shims = s.shims ∧
    (readExceptList e (readSeed e s)).shims = s.shims ∧
    (readForceRounding e s mxcsr).shims = s.shims ∧ (readKickstart e s).shims = s.shims := by
  unfold readMaxcount readSample readKernel readExceptList readForceRounding readKickstart
  refine ⟨?_, ?_, ?_, ?_, ?_, ?_⟩
  · cases e .fpspyMaxcount <;> rfl
  · cases e .fpspySample <;> rfl
  · split_ifs <;> rfl
  · cases e .fpspyExceptList <;> rfl
  · cases e .fpspyForceRounding <;> rfl
  · split_ifs <;> rfl

variable {e s} in
theorem shims_readDebugLevel {t : Settings} (h : readDebugLevel e s = .ok t) :
    t.shims = s.shims := by
  unfold readDebugLevel at h
  cases hv : e .fpspyDebugLevel with
  | none =>
    simp only [hv, Option.elim_none] at h
    rw [← Except.ok.inj h]
  | some nptr =>
    simp only [hv, Option.elim_some] at h
    split_ifs at h
    rw [← Except.ok.inj h]
    rfl

/-- `fpspy_init` as the interposed functions see it is what it is. -/
theorem shims_fpspyInit {build : Config x64} {s₀ : Settings}
    (hdebug : readDebugLevel e (.initial build) = .ok s₀) (rest : Bool) (mxcsr : BitVec 32) :
    Shims.fpspyInit (e.setting archProcessInit dlsym) rest .zero =
      match fpspyInit e (.initial build) mxcsr with
      | .error .abort => .error .abort
      | .error (.returned s) => .ok s.shims
      | .ok s => .ok (Shims.bringup (e.setting archProcessInit dlsym) rest s.shims) := by
  have hinited : Shims.zero.inited = false := rfl
  have hzero : s₀.shims = Shims.zero := shims_readDebugLevel hdebug
  rw [Shims.fpspyInit, hinited, if_neg Bool.false_ne_true, fpspyInit, readVariables, hdebug]
  have hmode : ∀ s, readMode e s =
      match (e.setting archProcessInit dlsym).mode with
      | some mode => .ok { s with mode := mode }
      | none => .error .abort := fun s => readMode_eq e s
  simp only [bind, Except.bind, hmode]
  cases (e.setting archProcessInit dlsym).mode with
  | none => rfl
  | some mode =>
    simp only
    set s₁ := readKernel e (readSample e (readDisablePthreads e (readAggressive e
      (readMaxcount e { readEnableTrace e s₀ with mode := mode })))) with hs₁
    have hread : s₁.shims = Shims.readEnv (e.setting archProcessInit dlsym) mode .zero := by
      have hmode : ({ readEnableTrace e s₀ with mode := mode } : Settings).shims =
          { (readEnableTrace e s₀).shims with mode := mode } := rfl
      rw [hs₁, (shims_others e _ 0).2.2.1, (shims_others e _ 0).2.1, shims_readDisablePthreads,
        shims_readAggressive, (shims_others e _ 0).1, hmode, shims_readEnableTrace, hzero]
      rfl
    obtain ⟨s₂, hs₂, hpoisson⟩ := readPoisson_eq e s₁
    obtain ⟨s₃, hs₃, htimer⟩ := readTimer_eq e s₂
    have hok : (e.setting archProcessInit dlsym).timersOk =
        ((e .fpspyPoisson).all FPSpy.Setting.scansLuLu && (e .fpspyTimer).all fun timer =>
          strcaseeq timer "virtual".toList || strcaseeq timer "real".toList ||
            strcaseeq timer "prof".toList) := rfl
    rw [hpoisson, ← hread]
    cases hp : (e .fpspyPoisson).all FPSpy.Setting.scansLuLu with
    | false =>
      rw [hok, hp]
      exact congrArg Except.ok hs₂.symm
    | true =>
      simp only [if_true]
      rw [htimer]
      cases ht : (e .fpspyTimer).all fun timer => strcaseeq timer "virtual".toList ||
          strcaseeq timer "real".toList || strcaseeq timer "prof".toList with
      | false =>
        rw [hok, hp, ht]
        exact congrArg Except.ok (hs₃.trans hs₂).symm
      | true =>
        rw [hok, hp, ht]
        have hlast := shims_readAbort e (readKickstart e (readForceRounding e
          (readExceptList e (readSeed e s₃)) mxcsr))
        rw [(shims_others e _ mxcsr).2.2.2.2.2, (shims_others e _ mxcsr).2.2.2.2.1,
          (shims_others e _ mxcsr).2.2.2.1, hs₃, hs₂] at hlast
        show Except.ok (Shims.bringup _ rest _) = Except.ok (Shims.bringup _ rest _)
        rw [hlast]
        rfl

end Interposed

end FPSpy.Configuration
