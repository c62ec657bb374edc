import FPSpy.Lib.Columns
import FPSpy.Monitor.Configuration

/-!
# What can be asked for

Every configuration in the words of the README has an environment from which `fpspy_init` reads
it back, numbers of the full range included. Only which exceptions trap is left open where a list
of them is given; on x64 it is the others that do.
-/
namespace FPSpy.Configuration

open Setting (isspace scanLu strcaseeq)
open X64 (RoundMode DazftzMode)

/-! ## Numbers -/

def decimal (n : Int) : List Char :=
  (if n < 0 then ['-'] else []) ++ Nat.toDigits 10 n.natAbs

theorem isDigit_of_mem_decimal {n : Nat} {c : Char} (h : c ∈ Nat.toDigits 10 n) :
    c.isDigit = true := Nat.isDigit_of_mem_toDigits (by decide) (by decide) h

/-- A number is no blank and no sign, and ends where its digits end. -/
theorem scan_digits (n : Nat) {rest : List Char} (hrest : ∀ c ∈ rest.head?, c.isDigit = false) :
    let t := Nat.toDigits 10 n ++ rest
    t.dropWhile isspace = t ∧ unsigned t = t ∧ t.head? ≠ some '-' ∧
      t.head?.any Char.isDigit = true ∧ t.takeWhile Char.isDigit = Nat.toDigits 10 n ∧
      t.dropWhile Char.isDigit = rest := by
  intro t
  obtain ⟨d, ds, hds⟩ := List.exists_cons_of_ne_nil (Nat.toDigits_ne_nil (n := n) (b := 10))
  have hall : ∀ c ∈ Nat.toDigits 10 n, c.isDigit = true := fun c => isDigit_of_mem_decimal
  have hd : d.isDigit = true := hall d (by simp [hds])
  have ht : t = d :: (ds ++ rest) := by simp [t, hds]
  have hplus : d ≠ '+' := by
    rintro rfl
    exact absurd hd (by decide)
  have hminus : d ≠ '-' := by
    rintro rfl
    exact absurd hd (by decide)
  exact ⟨by simp [ht, not_isspace_of_isDigit hd], by rw [ht, unsigned_cons hplus hminus],
    by simpa [ht] using hminus, by simpa [ht] using hd, Columns.takeWhile_run hall hrest,
    Columns.dropWhile_run hall hrest⟩

theorem strtol_decimal {n : Int} (hlow : -2 ^ 63 ≤ n) (hhigh : n < 2 ^ 63) :
    strtol (decimal n) = n := by
  have hnone : ∀ c ∈ ([] : List Char).head?, c.isDigit = false := nofun
  obtain ⟨hblank, hsign, hfirst, -, hdigits, -⟩ := scan_digits n.natAbs hnone
  simp only [List.append_nil] at hblank hsign hfirst hdigits
  have hvalue := Nat.ofDigitChars_ten_toDigits (n := n.natAbs)
  unfold decimal
  split_ifs with hneg
  · have hspace : isspace '-' = false := by decide
    simp only [strtol_eq, List.singleton_append, List.dropWhile_cons, hspace, unsigned,
      Bool.false_eq_true, if_false, List.head?_cons, if_true, hdigits, hvalue]
    omega
  · simp only [strtol_eq, List.nil_append, hblank, hsign, hfirst, hdigits, hvalue, if_false]
    omega

theorem atoi_decimal (n : BitVec 32) : atoi (decimal n.toInt) = n := by
  have hlow := BitVec.le_toInt n
  have hhigh := BitVec.toInt_lt (x := n)
  rw [atoi, strtol_decimal (by omega) (by omega), BitVec.ofInt_toInt]

theorem scanLu_digits (n : Nat) {rest : List Char} (hrest : ∀ c ∈ rest.head?, c.isDigit = false) :
    scanLu (Nat.toDigits 10 n ++ rest) = some rest := by
  obtain ⟨hblank, hsign, -, hdigit, -, hend⟩ := scan_digits n hrest
  simp only [scanLu_eq, hblank, hsign, hdigit, hend, if_true]

theorem luValue_digits {n : Nat} (hn : n < 2 ^ 64) {rest : List Char}
    (hrest : ∀ c ∈ rest.head?, c.isDigit = false) :
    luValue (Nat.toDigits 10 n ++ rest) = BitVec.ofNat 64 n := by
  obtain ⟨hblank, hsign, hfirst, -, hdigits, -⟩ := scan_digits n hrest
  simp only [luValue_eq, hblank, hsign, hfirst, hdigits, Nat.ofDigitChars_ten_toDigits, if_false,
    Nat.not_le.mpr hn]

/-! ## Every setting can be asked for -/

structure Request where
  debugLevel : Option Bool
  enableTrace : Bool
  mode : Mode
  maxcount : BitVec 32
  aggressive : Bool
  disablePthreads : Bool
  sample : BitVec 32
  kernel : Bool
  poisson : Option (BitVec 64 × BitVec 64)
  timer : TimerType
  seed : Option (BitVec 64)
  exceptList : Option (List Item)
  /-- The mode, `daz` and `ftz`. -/
  forceRounding : Option (RoundMode × Bool × Bool)
  kickstart : Bool
  abort : Bool

def yesNo (b : Bool) : List Char := if b then "yes".toList else "no".toList

def modeName : Mode → List Char
  | .aggregate => "aggregate".toList
  | .individual => "individual".toList

def timerName : TimerType → List Char
  | .real => "real".toList
  | .virtual => "virtual".toList
  | .prof => "prof".toList

def roundName : RoundMode → List Char
  | .positive => "positive".toList
  | .negative => "negative".toList
  | .zero => "zero".toList
  | .nearest => "nearest".toList

def roundText (mode : RoundMode) (daz ftz : Bool) : List Char :=
  roundName mode ++ (if daz then ";daz".toList else []) ++ if ftz then ";ftz".toList else []

def poissonText (on off : BitVec 64) : List Char :=
  Nat.toDigits 10 on.toNat ++ ':' :: Nat.toDigits 10 off.toNat

namespace Request

variable (q : Request)

def environment : Environment
  | .fpspyDebugLevel => q.debugLevel.map fun b => if b then ['1'] else ['0']
  | .fpspyEnableTrace => some (yesNo q.enableTrace)
  | .fpspyMode => some (modeName q.mode)
  | .fpspyMaxcount => some (decimal q.maxcount.toInt)
  | .fpspyAggressive => some (yesNo q.aggressive)
  | .fpspyDisablePthreads => some (yesNo q.disablePthreads)
  | .disablePthreads => none
  | .fpspySample => some (decimal q.sample.toInt)
  | .fpspyKernel => some (yesNo q.kernel)
  | .fpspyPoisson => q.poisson.map fun means => poissonText means.1 means.2
  | .fpspyTimer => some (timerName q.timer)
  | .fpspySeed => q.seed.map fun n => decimal n.toInt
  | .fpspyExceptList => q.exceptList.map FPSpy.exceptList
  | .fpspyForceRounding => q.forceRounding.map fun (mode, daz, ftz) => roundText mode daz ftz
  | .fpspyKickstart => some (yesNo q.kickstart)
  | .fpspyAbort => some (yesNo q.abort)

/-- The exceptions that FPSpy clears; denormals have no bit. -/
def enabledFpTraps (e : Fe) : Bool :=
  e ≠ .denorm && match q.mode, q.exceptList with
    | .individual, some items => listed items e
    | _, _ => true

def ourRoundConfig : BitVec 32 :=
  q.forceRounding.elim 0 fun (mode, daz, ftz) => X64.packed mode (.of daz ftz)

theorem isRoundConfig_ourRoundConfig : x64.IsRoundConfig q.ourRoundConfig := by
  unfold ourRoundConfig
  cases q.forceRounding with
  | none => exact x64.isRoundConfig_zero
  | some r =>
    obtain ⟨mode, daz, ftz⟩ := r
    show X64.packed mode (.of daz ftz) &&& ~~~X64.mxcsrRoundDazFtzMask = 0
    cases mode <;> cases daz <;> cases ftz <;> decide

/-- What is asked for; `st` says which exceptions trap. -/
def settings (st : X64.Statics) (mxcsr : BitVec 32) (build : Config x64) : Settings where
  config :=
    { (Settings.initial build).config with
      statics := st
      maxcount := q.maxcount
      samplePeriod := q.sample
      timers := q.poisson.isSome
      timerType := q.timer
      onMeanUs := q.poisson.elim 0 (·.1)
      offMeanUs := q.poisson.elim 0 (·.2)
      randomSeed := q.seed.getD (-1)
      controlRoundConfig := q.forceRounding.isSome
      ourRoundConfig := q.ourRoundConfig
      aggressive := q.aggressive
      kickstart := q.kickstart
      abortOnFpe := q.abort
      createMonitorFile := q.enableTrace && !q.abort
      isRoundConfig_our := q.isRoundConfig_ourRoundConfig }
  mode := q.mode
  logLevel := q.debugLevel.elim 2 fun b => if b then 1 else 0
  disablePthreads := q.disablePthreads
  kernel := q.kernel
  enabledFpTraps := q.enabledFpTraps
  origRoundConfig := if q.forceRounding.isSome then X64.archGetMachineRoundConfig mxcsr else 0

end Request

theorem startsWith_yesNo {e : Environment} {v : Variable} {b : Bool} (h : e v = some (yesNo b)) :
    e.startsWith v 'y' = b ∧ e.startsWith v 'n' = !b := by
  simp only [Environment.startsWith, h]
  cases b <;> decide

theorem strcaseeq_modeName (a b : Mode) : strcaseeq (modeName a) (modeName b) = decide (a = b) := by
  cases a <;> cases b <;> decide

theorem requests_roundText (mode : RoundMode) (daz ftz : Bool) :
    X64.Requests (roundText mode daz ftz) mode (.of daz ftz) := by
  cases mode <;> cases daz <;> cases ftz <;> exact ⟨by decide, by decide⟩

theorem sscanfLuLu_poissonText (on off on' off' : BitVec 64) :
    sscanfLuLu (poissonText on off) on' off' = (true, on, off) := by
  have hcolon : ∀ c ∈ (':' :: Nat.toDigits 10 off.toNat).head?, c.isDigit = false := by simp
  have hnone : ∀ c ∈ ([] : List Char).head?, c.isDigit = false := nofun
  have hoff := scanLu_digits off.toNat hnone
  have hvalue := luValue_digits off.isLt hnone
  rw [List.append_nil] at hoff hvalue
  simp [sscanfLuLu, poissonText, scanLu_digits on.toNat hcolon, luValue_digits on.isLt hcolon,
    hoff, hvalue]

theorem enabledFpTraps_configExceptions (items : List Item) (t : TrapSelection X64.backend) :
    (configExceptions .individual (exceptList items) t).enabledFpTraps =
      fun e => decide (e ≠ .denorm) && listed items e := by
  have hfold : ∀ (es : List Fe) (t : TrapSelection X64.backend) (e : Fe),
      (es.foldl (configException (exceptList items)) t).enabledFpTraps e =
        (t.enabledFpTraps e || (decide (e ∈ es) && decide (e ≠ .denorm) && listed items e)) := by
    intro es
    induction es with
    | nil => simp
    | cons d es ih =>
      intro t e
      rw [List.foldl_cons, ih, configException, strcasestr_exceptList]
      by_cases hed : e = d
      · subst hed
        cases hl : listed items e <;> by_cases hd : e = .denorm <;> simp [hd]
      · by_cases hd : d = .denorm
        · subst hd
          cases hl : listed items .denorm <;> simp [hed]
        · cases hl : listed items d <;> simp [hd, hed]
  funext e
  have hall : e ∈ Fe.all := by cases e <;> decide
  simpa [configExceptions, hall] using
    hfold Fe.all ⟨X64.archClearTrapMask t.statics, fun _ => false⟩ e

section Ask

variable (q : Request) (s : Settings)

theorem readDebugLevel_environment : readDebugLevel q.environment s =
    .ok { s with logLevel := q.debugLevel.elim s.logLevel fun b => if b then 1 else 0 } := by
  have henv : q.environment .fpspyDebugLevel =
      q.debugLevel.map fun b => if b then ['1'] else ['0'] := rfl
  rw [readDebugLevel, henv]
  cases q.debugLevel with
  | none => rfl
  | some b =>
    have hnumber : ∀ b : Bool, let n := if b then ['1'] else ['0']
        strtolEnd n = [] ∧ strtol n = if b then 1 else 0 := by decide
    obtain ⟨hend, hvalue⟩ := hnumber b
    simp only [Option.map_some, Option.elim_some, hend, hvalue]
    cases b <;> rfl

theorem readMode_environment : readMode q.environment s = .ok { s with mode := q.mode } := by
  have henv : q.environment .fpspyMode = some (modeName q.mode) := rfl
  rw [readMode, henv, Option.elim_some, show "individual".toList = modeName .individual from rfl,
    show "aggregate".toList = modeName .aggregate from rfl, strcaseeq_modeName, strcaseeq_modeName]
  cases q.mode <;> rfl

theorem readPoisson_environment (htimers : s.config.timers = false) :
    readPoisson q.environment s = .ok { s with config := { s.config with
      timers := q.poisson.isSome
      onMeanUs := q.poisson.elim s.config.onMeanUs (·.1)
      offMeanUs := q.poisson.elim s.config.offMeanUs (·.2) } } := by
  have henv : q.environment .fpspyPoisson = q.poisson.map fun m => poissonText m.1 m.2 := rfl
  rw [readPoisson, henv]
  cases q.poisson with
  | none => simp [← htimers]
  | some m => simp [sscanfLuLu_poissonText]

theorem readTimer_environment : readTimer q.environment s =
    .ok { s with config := { s.config with timerType := q.timer } } := by
  have henv : q.environment .fpspyTimer = some (timerName q.timer) := rfl
  have hname : ∀ a b : TimerType, strcaseeq (timerName a) (timerName b) = decide (a = b) := by
    intro a b
    cases a <;> cases b <;> decide
  rw [readTimer, henv, Option.elim_some, show "virtual".toList = timerName .virtual from rfl,
    show "real".toList = timerName .real from rfl, show "prof".toList = timerName .prof from rfl,
    hname, hname, hname]
  cases q.timer <;> rfl

theorem readSeed_environment : readSeed q.environment s =
    { s with config := { s.config with randomSeed := q.seed.getD (-1) } } := by
  have henv : q.environment .fpspySeed = q.seed.map fun n => decimal n.toInt := rfl
  rw [readSeed, henv]
  cases q.seed with
  | none => rfl
  | some n =>
    have hlow := BitVec.le_toInt n
    have hhigh := BitVec.toInt_lt (x := n)
    simp [strtol_decimal (n := n.toInt) (by omega) (by omega)]

def trapped : X64.Statics :=
  q.exceptList.elim X64.statics fun items =>
    (configExceptions (B := X64.backend) q.mode (exceptList items)
      ⟨X64.statics, fun e => decide (e ≠ .denorm)⟩).statics

theorem trapped_eq (h : q.mode = .aggregate ∨ q.exceptList = none) : trapped q = X64.statics := by
  rcases h with h | h
  · cases hq : q.exceptList <;> simp [trapped, hq, h, configExceptions]
  · simp [trapped, h]

theorem enabledFpTraps_of_none (h : q.exceptList = none) :
    q.enabledFpTraps = fun e => decide (e ≠ .denorm) := by
  funext e
  by_cases he : e = .denorm <;> simp [Request.enabledFpTraps, h, he]

theorem enabledFpTraps_of_some {items : List Item} (h : q.exceptList = some items) :
    (configExceptions (B := X64.backend) q.mode (exceptList items)
      ⟨X64.statics, fun e => decide (e ≠ .denorm)⟩).enabledFpTraps = q.enabledFpTraps := by
  funext e
  cases hm : q.mode with
  | aggregate =>
    by_cases he : e = .denorm <;> simp [configExceptions, Request.enabledFpTraps, hm, he]
  | individual =>
    rw [enabledFpTraps_configExceptions]
    by_cases he : e = .denorm <;> simp [Request.enabledFpTraps, hm, h, he]

theorem readExceptList_environment (hmode : s.mode = q.mode)
    (hstatics : s.config.statics = X64.statics)
    (htraps : s.enabledFpTraps = fun e => decide (e ≠ .denorm)) :
    readExceptList q.environment s = { s with
      config := { s.config with statics := trapped q }
      enabledFpTraps := q.enabledFpTraps } := by
  have henv : q.environment .fpspyExceptList = q.exceptList.map FPSpy.exceptList := rfl
  rw [readExceptList, henv]
  cases hq : q.exceptList with
  | none =>
    rw [trapped_eq q (.inr hq), enabledFpTraps_of_none q hq, ← hstatics, ← htraps]
    rfl
  | some items =>
    rw [Option.map_some, Option.elim_some, hmode, hstatics, htraps]
    simp only [enabledFpTraps_of_some q hq, trapped, hq, Option.elim_some]

theorem readForceRounding_environment (mxcsr : BitVec 32)
    (hcontrol : s.config.controlRoundConfig = false) (hour : s.config.ourRoundConfig = 0)
    (horig : s.origRoundConfig = 0) : readForceRounding q.environment s mxcsr = { s with
      config := { s.config with
        controlRoundConfig := q.forceRounding.isSome
        ourRoundConfig := q.ourRoundConfig
        isRoundConfig_our := q.isRoundConfig_ourRoundConfig }
      origRoundConfig :=
        if q.forceRounding.isSome then X64.archGetMachineRoundConfig mxcsr else 0 } := by
  have henv : q.environment .fpspyForceRounding =
      q.forceRounding.map fun (mode, daz, ftz) => roundText mode daz ftz := rfl
  rw [readForceRounding, henv]
  cases hq : q.forceRounding with
  | none =>
    have hzero : q.ourRoundConfig = 0 := by simp [Request.ourRoundConfig, hq]
    obtain ⟨⟨⟩, _⟩ := s
    simp_all
  | some r =>
    obtain ⟨mode, daz, ftz⟩ := r
    have hpacked : q.ourRoundConfig = X64.packed mode (.of daz ftz) := by
      simp [Request.ourRoundConfig, hq]
    have hconfig := X64.configRoundDazFtz_eq (requests_roundText mode daz ftz) mxcsr
    simp [X64.forced, hconfig, hpacked, X64.archGetMachineRoundConfig]

theorem startsWith_y {v : Variable} {b : Bool} (h : q.environment v = some (yesNo b)) :
    q.environment.startsWith v 'y' = b := (startsWith_yesNo h).1

theorem readEnableTrace_environment (h : s.config.createMonitorFile = true) :
    readEnableTrace q.environment s =
      { s with config := { s.config with createMonitorFile := q.enableTrace } } := by
  have hstarts : q.environment.startsWith .fpspyEnableTrace 'n' = !q.enableTrace :=
    (startsWith_yesNo rfl).2
  rw [readEnableTrace, hstarts]
  cases q.enableTrace with
  | false => rfl
  | true =>
    exact congrArg (fun b => { s with config := { s.config with createMonitorFile := b } }) h

theorem readAggressive_environment (h : s.config.aggressive = false) :
    readAggressive q.environment s =
      { s with config := { s.config with aggressive := q.aggressive } } := by
  rw [readAggressive, startsWith_y q (v := .fpspyAggressive) rfl]
  cases q.aggressive with
  | true => rfl
  | false => exact congrArg (fun b => { s with config := { s.config with aggressive := b } }) h

theorem readDisablePthreads_environment (h : s.disablePthreads = false) :
    readDisablePthreads q.environment s = { s with disablePthreads := q.disablePthreads } := by
  have hother : q.environment.startsWith .disablePthreads 'y' = false := rfl
  rw [readDisablePthreads, startsWith_y q (v := .fpspyDisablePthreads) rfl, hother, Bool.or_false]
  cases q.disablePthreads with
  | true => rfl
  | false => exact congrArg (fun b => { s with disablePthreads := b }) h

theorem readKernel_environment (h : s.kernel = false) :
    readKernel q.environment s = { s with kernel := q.kernel } := by
  rw [readKernel, startsWith_y q (v := .fpspyKernel) rfl]
  cases q.kernel with
  | true => rfl
  | false => exact congrArg (fun b => { s with kernel := b }) h

theorem readKickstart_environment (h : s.config.kickstart = false) :
    readKickstart q.environment s =
      { s with config := { s.config with kickstart := q.kickstart } } := by
  rw [readKickstart, startsWith_y q (v := .fpspyKickstart) rfl]
  cases q.kickstart with
  | true => rfl
  | false => exact congrArg (fun b => { s with config := { s.config with kickstart := b } }) h

theorem readAbort_environment (h : s.config.abortOnFpe = false) :
    readAbort q.environment s = { s with config := { s.config with
      abortOnFpe := q.abort
      createMonitorFile := s.config.createMonitorFile && !q.abort } } := by
  rw [readAbort, startsWith_y q (v := .fpspyAbort) rfl]
  cases q.abort with
  | true => simp
  | false =>
    simp only [Bool.not_false, Bool.and_true]
    exact congrArg (fun b => { s with config := { s.config with abortOnFpe := b } }) h

/-- The settings that are asked for, without those that are read last. -/
theorem readVariables_environment (build : Config x64) :
    readVariables q.environment (.initial build) = .ok { q.settings (trapped q) 0 build with
      config := { (q.settings (trapped q) 0 build).config with
        controlRoundConfig := false
        ourRoundConfig := 0
        isRoundConfig_our := x64.isRoundConfig_zero
        kickstart := false
        abortOnFpe := false
        createMonitorFile := q.enableTrace }
      origRoundConfig := 0 } := by
  have hmaxcount : ∀ s, readMaxcount q.environment s =
      { s with config := { s.config with maxcount := q.maxcount } } := fun s =>
    congrArg (fun n => { s with config := { s.config with maxcount := n } })
      (atoi_decimal q.maxcount)
  have hsample : ∀ s, readSample q.environment s =
      { s with config := { s.config with samplePeriod := q.sample } } := fun s =>
    congrArg (fun n => { s with config := { s.config with samplePeriod := n } })
      (atoi_decimal q.sample)
  rw [readVariables, readDebugLevel_environment]
  simp only [bind, Except.bind]
  rw [readEnableTrace_environment q _ rfl, readMode_environment]
  simp only
  rw [hmaxcount, readAggressive_environment q _ rfl, readDisablePthreads_environment q _ rfl,
    hsample, readKernel_environment q _ rfl, readPoisson_environment q _ rfl]
  simp only
  rw [readTimer_environment]
  simp only
  rw [readSeed_environment, readExceptList_environment q _ rfl rfl rfl]
  rfl

/-- A process gets the settings that are asked for. -/
theorem fpspyInit_environment (build : Config x64) (mxcsr : BitVec 32) :
    fpspyInit q.environment (.initial build) mxcsr =
      .ok (q.settings (trapped q) mxcsr build) := by
  rw [fpspyInit, readVariables_environment]
  simp only [bind, Except.bind]
  rw [readForceRounding_environment q _ _ rfl rfl rfl, readKickstart_environment q _ rfl,
    readAbort_environment q _ rfl]
  rfl

end Ask

/-- Every documented setting can be asked for, in letters of any case, but for the exceptions that
trap: these are all six unless individual mode is given a list. -/
theorem fpspyInit_asked (q : Request) (build : Config x64) (mxcsr : BitVec 32) {e : Environment}
    (h : e.lower = q.environment.lower) :
    ∃ st, fpspyInit e (.initial build) mxcsr = .ok (q.settings st mxcsr build) ∧
      (q.mode = .aggregate ∨ q.exceptList = none → st = X64.statics) := by
  refine ⟨trapped q, ?_, trapped_eq q⟩
  rw [← fpspyInit_lower, h, fpspyInit_lower, fpspyInit_environment]

def towardZero : Request where
  debugLevel := some true
  enableTrace := true
  mode := .individual
  maxcount := -1
  aggressive := true
  disablePthreads := false
  sample := 10
  kernel := false
  poisson := some (1000, 2000)
  timer := .virtual
  seed := some 42
  exceptList := some X64.divideOverflow
  forceRounding := some (.zero, true, false)
  kickstart := true
  abort := false

def capitals : Environment := fun v => (towardZero.environment v).map (List.map Char.toUpper)

theorem fpspyInit_asked_capitals :
    ∃ st, fpspyInit capitals (.initial (.defaults X64.statics)) 0x1f80 =
        .ok (towardZero.settings st 0x1f80 (.defaults X64.statics)) ∧
      (towardZero.mode = .aggregate ∨ towardZero.exceptList = none → st = X64.statics) :=
  fpspyInit_asked towardZero _ _ (by funext v; cases v <;> decide)

end FPSpy.Configuration
