import LcdStuff.CString
import LcdStuff.Getopt

/-!
# The command line

`main` takes from the command line where the configuration is, where LCDd is, what is reported,
and whether the program goes into the background. Each option may be there more than once; a
number may be decimal, octal or hexadecimal, as `strtol` takes it. One error is enough for `main`
to give up, and `-h` ends the program at once.

`CommandLine.parseCommandLine_eq_iff` says which command lines are taken, and that each of the
settings is then the last one that was given (`CommandLine.Settings.ofLast`). What a user asks for
is what `main` starts with, in whatever order and form the options are written
(`CommandLine.startMain_of_perm`), as long as the names fit into their arrays: `strncpy` leaves a
longer one without its NUL, and then `main` reads over the end of the array.
-/

namespace CommandLine

/-- `PATH_MAX`, the size of `s_config_file`. -/
def pathMax : ℕ := 4096

/-- `_POSIX_HOST_NAME_MAX`, the size of `lcdproc_server`. -/
def posixHostNameMax : ℕ := 255

/-! ## Numbers in any base -/

/-- The value of a digit; what is no digit in any base has the value 16. -/
def digitValue (c : Char) : ℕ :=
  if '0' ≤ c ∧ c ≤ '9' then c.toNat - '0'.toNat
  else if 'a' ≤ c ∧ c ≤ 'f' then c.toNat - 'a'.toNat + 10
  else if 'A' ≤ c ∧ c ≤ 'F' then c.toNat - 'A'.toNat + 10
  else 16

/-- The base of a number, and where its digits begin. -/
def numeral : Str → ℕ × Str
  | '0' :: x :: d :: s =>
    if (x = 'x' ∨ x = 'X') ∧ digitValue d < 16 then (16, d :: s) else (8, '0' :: x :: d :: s)
  | '0' :: s => (8, '0' :: s)
  | s => (10, s)

/-- A number without its sign. -/
def unsigned : Str → Str
  | '-' :: s => s
  | '+' :: s => s
  | s => s

/-- The number that digits stand for. -/
def valueIn (base : ℕ) (digits : Str) : ℕ :=
  digits.foldl (fun n c => base * n + digitValue c) 0

/-- `strtol (s, &p, 0)`: the number, and the string at `p`. -/
def strtolAny (s : Str) : Int × Str :=
  let signed := s.dropWhile isspace
  let base := (numeral (unsigned signed)).1
  let body := (numeral (unsigned signed)).2
  let digits := body.takeWhile (fun c => decide (digitValue c < base))
  if digits = [] then (0, s)
  else
    let value : Int := valueIn base digits
    (max (-2 ^ 63) (min (if signed.head? = some '-' then -value else value) (2 ^ 63 - 1)),
      body.drop digits.length)

/-- **The value of a number on the command line**: all of it is read, and it is stored in an
`int`. -/
def number (optarg : Str) : Option Int :=
  let r := strtolAny optarg
  if optarg ≠ [] ∧ r.2 = [] then some (wrapInt r.1) else none

example : number "13666".toList = some 13666 ∧ number " -0x10".toList = some (-16)
    ∧ number "017".toList = some 15 ∧ number "08".toList = none ∧ number "5 ".toList = none
    ∧ number "4294967297".toList = some 1 := by decide +kernel

/-! ## The settings -/

/-- `RPT_DEST_STDERR` and `RPT_DEST_SYSLOG` -/
inductive ReportDest where
  /-- `RPT_DEST_STDERR` -/
  | stderr
  /-- `RPT_DEST_SYSLOG` -/
  | syslog
  deriving DecidableEq, Repr

/-- **What the command line sets.** Of an array there is what `strncpy` leaves in it in front of
the zeros that it fills it up with. -/
structure Settings where
  /-- `s_config_file` -/
  configFile : Str
  /-- `lcdproc_server` -/
  lcdprocServer : Str
  /-- `lcdproc_port` -/
  lcdprocPort : Int
  /-- `s_report_level` -/
  reportLevel : Int
  /-- `s_report_dest` -/
  reportDest : ReportDest
  /-- `s_foreground_mode` -/
  foregroundMode : Int
  deriving DecidableEq, Repr

/-- The settings that `main` begins with. -/
def Settings.init : Settings where
  configFile := "/etc/lcd-stuff.conf".toList
  lcdprocServer := "localhost".toList
  lcdprocPort := 13666
  reportLevel := 1
  reportDest := .stderr
  foregroundMode := -1

/-- `"c:a:p:s:r:f:h"` -/
def options (c : Char) : Option Bool :=
  if c ∈ ['c', 'a', 'p', 's', 'r', 'f'] then some true else if c = 'h' then some false else none

/-- Where is reported to. -/
def reportDestOf (n : Int) : ReportDest := if n ≠ 0 then .syslog else .stderr

/-- An option is carried out, or its value cannot be interpreted. -/
def Settings.option (settings : Settings) (c : Char) (optarg : Str) : Option Settings :=
  match c with
  | 'c' => some { settings with configFile := optarg.take pathMax }
  | 'a' => some { settings with lcdprocServer := optarg.take posixHostNameMax }
  | 'p' => (number optarg).map (fun n => { settings with lcdprocPort := n })
  | 'r' => (number optarg).map (fun n => { settings with reportLevel := n })
  | 'f' => (number optarg).map (fun n => { settings with foregroundMode := n })
  | 's' => (number optarg).map (fun n => { settings with reportDest := reportDestOf n })
  | _ => some settings

/-- How `parse_command_line` ends. -/
inductive Parsed where
  /-- `exit (0)`, behind the help text. -/
  | exits
  /-- It returns the error, and has reported some. -/
  | returns (settings : Settings) (error : Int) (reports : List Str)
  deriving DecidableEq, Repr

/-- The loop of `parse_command_line`, over what `getopt` returns. -/
def parseFrom (settings : Settings) (error : Int) (reports : List Str) :
    List Getopt.Found → Parsed
  | [] => .returns settings error reports
  | .flag _ :: _ => .exits
  | .option c optarg :: found =>
    match settings.option c optarg with
    | some settings => parseFrom settings error reports found
    | none =>
      parseFrom settings (-1) (reports ++ ["Could not interpret value for -".toList ++ [c]]) found
  | .unknown optopt :: found =>
    parseFrom settings (-1) (reports ++ ["Unknown option: ".toList ++ [optopt]]) found
  | .missing optopt :: found =>
    parseFrom settings (-1) (reports ++ ["Unknown option: ".toList ++ [optopt]]) found

/-- **`parse_command_line`**, for the words behind the name of the program. -/
def parseCommandLine (settings : Settings) (argv : List Str) : Parsed :=
  parseFrom settings 0 [] (Getopt.found options none argv)

/-! ## What `main` makes of them -/

/-- **What the program is started with.** -/
structure Launch where
  /-- The configuration file that is loaded. -/
  configFile : Str
  /-- Where LCDd is. -/
  server : Str
  /-- The port of LCDd. -/
  port : Int
  /-- What is reported. -/
  reportLevel : Int
  /-- Where it is reported. -/
  reportDest : ReportDest
  /-- The program goes into the background. -/
  daemonizes : Bool
  deriving DecidableEq, Repr

/-- `set_reporting`: a level that there is not leaves everything as it is. -/
def setReporting (reporting : Int × ReportDest) (newLevel : Int) (newDest : ReportDest) :
    Int × ReportDest :=
  if newLevel < 0 ∨ 5 < newLevel then reporting else (newLevel, newDest)

/-- A string is read from its array; without a NUL the end of the array is read over. -/
def readArray (size : ℕ) (stored : Str) : Except Fault Str :=
  if stored.length < size then .ok stored else .error (.outOfBounds size size)

/-- **How `main` begins**, with whether `key_file_load_from_file` succeeds: the value that it
returns, or what it goes on with. -/
def startMain (loads : Str → Bool) (argv : List Str) : Except Fault (Int ⊕ Launch) :=
  match parseCommandLine .init argv with
  | .exits => .ok (.inl 0)
  | .returns settings error _ =>
    if error ≠ 0 then .ok (.inl (-1))
    else do
      let reporting := setReporting (1, .stderr) settings.reportLevel settings.reportDest
      let configFile ← readArray pathMax settings.configFile
      if loads configFile = false then return .inl 1
      let server ← readArray posixHostNameMax settings.lcdprocServer
      return .inr ⟨configFile, server, settings.lcdprocPort, reporting.1, reporting.2,
        decide (settings.foregroundMode = 0)⟩

/-! ## The last of the values -/

/-- The value that an option gives to a letter. -/
def valueOf (c : Char) : Getopt.Found → Option Str
  | .option d optarg => if d = c then some optarg else none
  | _ => none

/-- The number that an option gives to a letter. -/
def numberOf (c : Char) (f : Getopt.Found) : Option Int := (valueOf c f).bind number

/-- The last value that is given. -/
def last {α : Type} (value : Getopt.Found → Option α) (found : List Getopt.Found) : Option α :=
  (found.filterMap value).getLast?

/-- **Each of the settings is the last one that was given.** -/
def Settings.ofLast (settings : Settings) (found : List Getopt.Found) : Settings where
  configFile := ((last (valueOf 'c') found).map (List.take pathMax)).getD settings.configFile
  lcdprocServer :=
    ((last (valueOf 'a') found).map (List.take posixHostNameMax)).getD settings.lcdprocServer
  lcdprocPort := (last (numberOf 'p') found).getD settings.lcdprocPort
  reportLevel := (last (numberOf 'r') found).getD settings.reportLevel
  reportDest := ((last (numberOf 's') found).map reportDestOf).getD settings.reportDest
  foregroundMode := (last (numberOf 'f') found).getD settings.foregroundMode

/-- What can be carried out: an option, with a number where it needs one. -/
def Interpretable : Getopt.Found → Prop
  | .option c optarg => c ∈ ['p', 'r', 'f', 's'] → (number optarg).isSome = true
  | _ => False

/-- **An argument that is taken.** -/
def Accepted (argument : Getopt.Argument) : Prop :=
  argument.WellFormed options ∧ ∀ f ∈ argument.gives, Interpretable f

variable {α : Type} {settings settings' : Settings} {found : List Getopt.Found}
  {value : Getopt.Found → Option α} {f : Getopt.Found} {c d : Char} {optarg : Str}

/-- What gives no value is passed over. -/
theorem last_cons_none (h : value f = none) : last value (f :: found) = last value found := by
  unfold last
  rw [List.filterMap_cons_none h]

/-- A value is the last one, unless there is a later one. -/
theorem last_cons_some {a : α} (h : value f = some a) :
    last value (f :: found) = some ((last value found).getD a) := by
  unfold last
  rw [List.filterMap_cons_some h, List.getLast?_cons]

/-- The values of the other letters. -/
theorem valueOf_ne (h : d ≠ c) : valueOf c (.option d optarg) = none := if_neg h

/-- The value of the letter itself. -/
theorem valueOf_self : valueOf c (.option c optarg) = some optarg := if_pos rfl

/-- The numbers of the other letters. -/
theorem numberOf_ne (h : d ≠ c) : numberOf c (.option d optarg) = none := by
  unfold numberOf
  rw [valueOf_ne h]
  rfl

/-- The number of the letter itself. -/
theorem numberOf_self : numberOf c (.option c optarg) = number optarg := by
  unfold numberOf
  rw [valueOf_self]
  rfl

/-- **An option is carried out**, and what comes behind it. -/
theorem ofLast_cons (h : settings.option c optarg = some settings') :
    settings.ofLast (.option c optarg :: found) = settings'.ofLast found := by
  have hnumber : ∀ {set : Int → Settings}, (number optarg).map set = some settings' →
      ∃ n, numberOf c (.option c optarg) = some n ∧ set n = settings' := by
    intro set hset
    rw [numberOf_self]
    exact Option.map_eq_some_iff.mp hset
  unfold Settings.option at h
  split at h
  · obtain rfl := Option.some.inj h
    simp [Settings.ofLast, last_cons_some valueOf_self, last_cons_none (valueOf_ne _),
      last_cons_none (numberOf_ne _)]
  · obtain rfl := Option.some.inj h
    simp [Settings.ofLast, last_cons_some valueOf_self, last_cons_none (valueOf_ne _),
      last_cons_none (numberOf_ne _)]
  · obtain ⟨n, hn, rfl⟩ := hnumber h
    simp [Settings.ofLast, last_cons_some hn, last_cons_none (valueOf_ne _),
      last_cons_none (numberOf_ne _)]
  · obtain ⟨n, hn, rfl⟩ := hnumber h
    simp [Settings.ofLast, last_cons_some hn, last_cons_none (valueOf_ne _),
      last_cons_none (numberOf_ne _)]
  · obtain ⟨n, hn, rfl⟩ := hnumber h
    simp [Settings.ofLast, last_cons_some hn, last_cons_none (valueOf_ne _),
      last_cons_none (numberOf_ne _)]
  · obtain ⟨n, hn, rfl⟩ := hnumber h
    simp [Settings.ofLast, last_cons_some hn, last_cons_none (valueOf_ne _),
      last_cons_none (numberOf_ne _)]
  · next hc ha hp hr hf hs =>
    -- a letter that is no option
    obtain rfl := Option.some.inj h
    unfold Settings.ofLast
    rw [last_cons_none (valueOf_ne hc), last_cons_none (valueOf_ne ha),
      last_cons_none (numberOf_ne hp), last_cons_none (numberOf_ne hr),
      last_cons_none (numberOf_ne hf), last_cons_none (numberOf_ne hs)]

/-- An option is carried out exactly when its value can be interpreted. -/
theorem option_isSome_iff :
    (settings.option c optarg).isSome = true ↔ Interpretable (.option c optarg) := by
  have hnumber : ∀ {set : Int → Settings}, c ∈ ['p', 'r', 'f', 's'] →
      (((number optarg).map set).isSome = true ↔ Interpretable (.option c optarg)) := by
    intro set hc
    rw [Option.isSome_map]
    exact (imp_iff_right hc).symm
  have hother : ∀ settings' : Settings, c ∉ ['p', 'r', 'f', 's'] →
      ((some settings').isSome = true ↔ Interpretable (.option c optarg)) :=
    fun settings' hc => iff_of_true rfl (fun hmem => absurd hmem hc)
  unfold Settings.option
  split
  · exact hother _ (by decide)
  · exact hother _ (by decide)
  · exact hnumber (by decide)
  · exact hnumber (by decide)
  · exact hnumber (by decide)
  · exact hnumber (by decide)
  · next hc ha hp hr hf hs =>
    refine hother _ (fun hmem => ?_)
    simp only [List.mem_cons, List.not_mem_nil, or_false] at hmem
    rcases hmem with h | h | h | h
    · exact hp h
    · exact hr h
    · exact hf h
    · exact hs h

/-- **The loop ends without an error** exactly when everything can be interpreted, and with the
last of the values. -/
theorem parseFrom_eq_iff {error : Int} {reports reports' : List Str} :
    parseFrom settings error reports found = .returns settings' 0 reports'
      ↔ error = 0 ∧ reports' = reports ∧ (∀ f ∈ found, Interpretable f)
        ∧ settings' = settings.ofLast found := by
  induction found generalizing settings error reports with
  | nil =>
    rw [parseFrom]
    constructor
    · intro h
      obtain ⟨rfl, rfl, rfl⟩ := Parsed.returns.inj h
      exact ⟨rfl, rfl, fun f hf => absurd hf List.not_mem_nil, rfl⟩
    · rintro ⟨rfl, rfl, -, rfl⟩
      rfl
  | cons f found ih =>
    have hwrong : ∀ reported, ¬ Interpretable f →
        (parseFrom settings (-1) reported found = .returns settings' 0 reports'
          ↔ error = 0 ∧ reports' = reports ∧ (∀ g ∈ f :: found, Interpretable g)
            ∧ settings' = settings.ofLast (f :: found)) := by
      intro reported hf
      rw [ih]
      exact iff_of_false (fun h => absurd h.1 (by decide))
        (fun h => hf (h.2.2.1 f List.mem_cons_self))
    cases f with
    | flag c =>
      exact iff_of_false (fun h => Parsed.noConfusion h)
        (fun h => h.2.2.1 (.flag c) List.mem_cons_self)
    | unknown c => exact hwrong _ (fun h => h)
    | missing c => exact hwrong _ (fun h => h)
    | option c optarg =>
      rw [parseFrom]
      cases hoption : settings.option c optarg with
      | none =>
        refine hwrong _ (fun hf => ?_)
        have hsome : (settings.option c optarg).isSome = true := option_isSome_iff.mpr hf
        rw [hoption] at hsome
        exact Bool.noConfusion hsome
      | some next =>
        have hf := option_isSome_iff.mp (Option.isSome_of_eq_some hoption)
        show parseFrom next error reports found = _ ↔ _
        rw [ih, ofLast_cons hoption, List.forall_mem_cons, and_iff_right hf]

/-! ## Which command lines are taken -/

/-- What can be interpreted is regular. -/
theorem regular_of_interpretable (h : Interpretable f) : f.Regular := by
  cases f with
  | option c optarg => exact trivial
  | flag c => exact h.elim
  | unknown c => exact h.elim
  | missing c => exact h.elim

/-- Arguments that are taken set the last of their values. -/
theorem parseCommandLine_of_accepted (settings : Settings) {arguments : List Getopt.Argument}
    {tail : List Str} (haccepted : ∀ argument ∈ arguments, Accepted argument)
    (htail : Getopt.IsEnd tail) :
    parseCommandLine settings (arguments.flatMap Getopt.Argument.words ++ tail)
      = .returns (settings.ofLast (arguments.flatMap Getopt.Argument.gives)) 0 [] := by
  unfold parseCommandLine
  rw [Getopt.found_words (by decide) (fun argument hmem => (haccepted argument hmem).1) htail]
  refine parseFrom_eq_iff.mpr ⟨rfl, rfl, fun f hf => ?_, rfl⟩
  obtain ⟨argument, hmem, hf⟩ := List.mem_flatMap.mp hf
  exact (haccepted argument hmem).2 f hf

/-- **Which command lines are taken**: those of which every word is an operand or belongs to an
option with a value that can be interpreted. Then each of the settings is the last one that was
given, and nothing is reported. -/
theorem parseCommandLine_eq_iff (settings settings' : Settings) (argv reports : List Str) :
    parseCommandLine settings argv = .returns settings' 0 reports
      ↔ reports = [] ∧ ∃ (arguments : List Getopt.Argument) (tail : List Str),
        argv = arguments.flatMap Getopt.Argument.words ++ tail ∧ Getopt.IsEnd tail
        ∧ (∀ argument ∈ arguments, Accepted argument)
        ∧ settings' = settings.ofLast (arguments.flatMap Getopt.Argument.gives) := by
  constructor
  · intro h
    obtain ⟨-, rfl, hall, rfl⟩ := parseFrom_eq_iff.mp h
    obtain ⟨arguments, tail, rfl, hwf, htail⟩ := (Getopt.regular_iff (by decide)).mp
      (fun f hf => regular_of_interpretable (hall f hf))
    rw [Getopt.found_words (by decide) hwf htail] at hall ⊢
    exact ⟨rfl, arguments, tail, rfl, htail, fun argument hmem => ⟨hwf argument hmem,
      fun f hf => hall f (List.mem_flatMap_of_mem hmem hf)⟩, rfl⟩
  · rintro ⟨rfl, arguments, tail, rfl, htail, haccepted, rfl⟩
    exact parseCommandLine_of_accepted settings haccepted htail

/-! ## A number is what was written -/

/-- A decimal number does not begin with a zero, but zero does. -/
theorem head?_toDigits {n : ℕ} (hn : 0 < n) : (Nat.toDigits 10 n).head? ≠ some '0' := by
  induction n using Nat.strong_induction_on with
  | _ n ih =>
    rw [Nat.toDigits_eq_if (by decide)]
    split
    · intro h
      have hzero : n.digitChar = '0' := Option.some.inj h
      rw [Nat.digitChar_eq_zero] at hzero
      omega
    · rw [List.head?_append_of_ne_nil _ Nat.toDigits_ne_nil]
      exact ih (n / 10) (by omega) (by omega)

/-- The value of a decimal digit. -/
theorem digitValue_of_isDigit (h : c.isDigit = true) :
    digitValue c = c.toNat - '0'.toNat ∧ digitValue c < 10 := by
  have hrange : '0' ≤ c ∧ c ≤ '9' := by
    unfold Char.isDigit at h
    rw [Bool.and_eq_true] at h
    exact ⟨of_decide_eq_true h.1, of_decide_eq_true h.2⟩
  have hle : c.toNat ≤ '9'.toNat := hrange.2
  unfold digitValue
  rw [if_pos hrange]
  exact ⟨rfl, by
    have : '9'.toNat - '0'.toNat = 9 := rfl
    omega⟩

/-- The digits of a number, and the base that they are read in. -/
theorem numeral_toDigits (n : ℕ) :
    (numeral (Nat.toDigits 10 n)).2 = Nat.toDigits 10 n
      ∧ (numeral (Nat.toDigits 10 n)).1 = if n = 0 then 8 else 10 := by
  rcases Nat.eq_zero_or_pos n with rfl | hn
  · exact ⟨rfl, rfl⟩
  · have hhead := head?_toDigits hn
    rw [if_neg (by omega)]
    cases hdigits : Nat.toDigits 10 n with
    | nil => exact ⟨rfl, rfl⟩
    | cons c s =>
      have hc : c ≠ '0' := fun h => hhead (by rw [hdigits, h]; rfl)
      unfold numeral
      split
      · next heq => exact absurd (List.cons.inj heq).1 hc
      · next heq => exact absurd (List.cons.inj heq).1 hc
      · exact ⟨rfl, rfl⟩

/-- A number that is not negative is read as it was written. -/
theorem strtolAny_body {s : Str} {n : ℕ} (hunsigned : unsigned (s.dropWhile isspace)
    = Nat.toDigits 10 n) (hn : n < 2 ^ 63) :
    strtolAny s = (if (s.dropWhile isspace).head? = some '-' then -(n : Int) else n, []) := by
  obtain ⟨hbody, hbase⟩ := numeral_toDigits n
  have hdigits : ∀ c ∈ Nat.toDigits 10 n, c.isDigit = true :=
    fun c hc => Nat.isDigit_of_mem_toDigits (by decide) (by decide) hc
  have hall : ∀ c ∈ Nat.toDigits 10 n, digitValue c < if n = 0 then 8 else 10 := by
    intro c hc
    split
    · next hzero =>
      subst hzero
      obtain rfl : c = '0' := List.mem_singleton.mp hc
      decide
    · exact (digitValue_of_isDigit (hdigits c hc)).2
  have htake : (Nat.toDigits 10 n).takeWhile
      (fun c => decide (digitValue c < if n = 0 then 8 else 10)) = Nat.toDigits 10 n :=
    List.takeWhile_eq_self_iff.mpr (fun c hc => decide_eq_true (hall c hc))
  have hvalue : valueIn (if n = 0 then 8 else 10) (Nat.toDigits 10 n) = n := by
    split
    · next hzero =>
      rw [hzero]
      rfl
    · unfold valueIn
      refine Eq.trans ?_ (Nat.ofDigitChars_ten_toDigits (n := n))
      rw [Nat.ofDigitChars_eq_foldl]
      exact List.foldl_ext _ _ _ (fun m c hc => by
        rw [(digitValue_of_isDigit (hdigits c hc)).1])
  unfold strtolAny
  dsimp only
  rw [hunsigned, hbody, hbase, htake, if_neg Nat.toDigits_ne_nil, List.drop_length, hvalue]
  refine Prod.ext ?_ rfl
  dsimp only
  split <;> omega

/-- **A decimal number is what was written.** -/
theorem number_decimal {n : Int} (hlow : -2 ^ 31 ≤ n) (hhigh : n < 2 ^ 31) :
    number (decimal n) = some n := by
  have hresult : strtolAny (decimal n) = (n, []) ∧ decimal n ≠ [] := by
    cases n with
    | ofNat n =>
      rw [Int.ofNat_eq_natCast, decimal_natCast]
      refine ⟨?_, Nat.toDigits_ne_nil⟩
      obtain ⟨c, s, hcs⟩ := List.exists_cons_of_ne_nil (Nat.toDigits_ne_nil (n := n) (b := 10))
      have hc : c.isDigit = true :=
        Nat.isDigit_of_mem_toDigits (by decide) (by decide) (hcs ▸ List.mem_cons_self)
      have hminus : c ≠ '-' := by
        rintro rfl
        exact absurd hc (by decide)
      have hskip : (c :: s).dropWhile isspace = c :: s :=
        List.dropWhile_cons_of_neg (by rw [isspace_of_isDigit hc]; decide)
      have hunsigned : unsigned (c :: s) = c :: s := by
        unfold unsigned
        split
        · next heq => exact absurd (List.cons.inj heq).1 hminus
        · next heq =>
          obtain rfl : c = '+' := (List.cons.inj heq).1
          exact absurd hc (by decide)
        · rfl
      rw [Int.ofNat_eq_natCast] at hhigh
      have hhead : ¬ ((c :: s).dropWhile isspace).head? = some '-' := by
        rw [hskip]
        exact fun h => hminus (Option.some.inj h)
      have hbody : unsigned ((c :: s).dropWhile isspace) = Nat.toDigits 10 n := by
        rw [hskip, hunsigned, hcs]
      rw [hcs, strtolAny_body hbody (by omega), if_neg hhead]
    | negSucc n =>
      have hminus : decimal (Int.negSucc n) = '-' :: Nat.toDigits 10 (n + 1) := by
        show ("-" ++ toString (n + 1)).toList = _
        simp
      rw [hminus]
      refine ⟨?_, List.cons_ne_nil _ _⟩
      rw [strtolAny_body (n := n + 1) rfl (by omega)]
      rfl
  unfold number
  rw [hresult.1]
  rw [if_pos ⟨hresult.2, rfl⟩, wrapInt_of_mem hlow hhigh]

/-! ## What a user asks for -/

/-- **A launch that is possible**: its names fit into their arrays, and the configuration can be
loaded. -/
structure Launch.Possible (loads : Str → Bool) (launch : Launch) : Prop where
  /-- The name of the file fits, -/
  configFile : launch.configFile.length < pathMax
  /-- and the file can be loaded. -/
  loads : loads launch.configFile = true
  /-- The name of the server fits. -/
  server : launch.server.length < posixHostNameMax
  /-- The port is an `int`. -/
  port : -2 ^ 31 ≤ launch.port ∧ launch.port < 2 ^ 31
  /-- There is such a level. -/
  reportLevel : 0 ≤ launch.reportLevel ∧ launch.reportLevel ≤ 5

/-- **The values of the options ask for a launch**, with numbers in any base. -/
structure Launch.Asks (launch : Launch) (values : Char → Str) : Prop where
  /-- `-c` -/
  configFile : values 'c' = launch.configFile
  /-- `-a` -/
  server : values 'a' = launch.server
  /-- `-p` -/
  port : number (values 'p') = some launch.port
  /-- `-r` -/
  reportLevel : number (values 'r') = some launch.reportLevel
  /-- `-s` -/
  reportDest : ∃ n, number (values 's') = some n ∧ reportDestOf n = launch.reportDest
  /-- `-f` -/
  daemonizes : ∃ n, number (values 'f') = some n ∧ decide (n = 0) = launch.daemonizes

/-- The options that have an argument. -/
def letters : List Char := ['c', 'a', 'p', 'r', 's', 'f']

/-- An option with its value, in one word if that is possible and wanted. -/
def argumentOf (joined : Char → Bool) (values : Char → Str) (c : Char) : Getopt.Argument :=
  if joined c = true ∧ values c ≠ [] then .joined [] c (values c) else .separate [] c (values c)

variable {launch : Launch} {loads : Str → Bool} {values : Char → Str}

/-- An option gives its value, in one word or in two. -/
theorem gives_argumentOf (joined : Char → Bool) (values : Char → Str) (c : Char) :
    (argumentOf joined values c).gives = [.option c (values c)] := by
  unfold argumentOf
  split <;> rfl

/-- The options that ask for a launch are taken. -/
theorem accepted_argumentOf (h : launch.Asks values) (joined : Char → Bool) (hc : c ∈ letters) :
    Accepted (argumentOf joined values c) := by
  have hoption : options c = some true := by
    unfold letters at hc
    simp only [List.mem_cons, List.not_mem_nil, or_false] at hc
    rcases hc with rfl | rfl | rfl | rfl | rfl | rfl <;> rfl
  have hnumber : c ∈ ['p', 'r', 'f', 's'] → (number (values c)).isSome = true := by
    intro hmem
    simp only [List.mem_cons, List.not_mem_nil, or_false] at hmem
    rcases hmem with rfl | rfl | rfl | rfl
    · exact Option.isSome_of_eq_some h.port
    · exact Option.isSome_of_eq_some h.reportLevel
    · obtain ⟨n, hn, -⟩ := h.daemonizes
      exact Option.isSome_of_eq_some hn
    · obtain ⟨n, hn, -⟩ := h.reportDest
      exact Option.isSome_of_eq_some hn
  refine ⟨?_, fun f hf => ?_⟩
  · unfold argumentOf
    split
    · next hand =>
      exact ⟨fun d hd => absurd hd List.not_mem_nil, hoption, hand.2⟩
    · exact ⟨fun d hd => absurd hd List.not_mem_nil, hoption⟩
  · rw [gives_argumentOf] at hf
    obtain rfl := List.mem_singleton.mp hf
    exact hnumber

/-- **The last values are those of the launch**, whatever was given before and in whatever order
they are given. -/
theorem last_append_perm {before found : List Getopt.Found} {a : α}
    (hperm : found.Perm (letters.map (fun c => .option c (values c))))
    (ha : (letters.map (fun c => Getopt.Found.option c (values c))).filterMap value = [a]) :
    last value (before ++ found) = some a := by
  have hsingle : found.filterMap value = [a] :=
    List.perm_singleton.mp (ha ▸ hperm.filterMap value)
  unfold last
  rw [List.filterMap_append, hsingle, List.getLast?_append]
  rfl

/-- The only value of a letter. -/
theorem filterMap_valueOf (values : Char → Str) (hc : c ∈ letters) :
    (letters.map (fun d => Getopt.Found.option d (values d))).filterMap (valueOf c)
      = [values c] := by
  unfold letters at hc
  simp only [List.mem_cons, List.not_mem_nil, or_false] at hc
  rcases hc with rfl | rfl | rfl | rfl | rfl | rfl <;> rfl

/-- The only number of a letter. -/
theorem filterMap_numberOf {n : Int} (hc : c ∈ letters) (hn : number (values c) = some n) :
    (letters.map (fun d => Getopt.Found.option d (values d))).filterMap (numberOf c) = [n] := by
  show (letters.map (fun d => Getopt.Found.option d (values d))).filterMap
    (fun f => (valueOf c f).bind number) = [n]
  rw [← List.filterMap_filterMap, filterMap_valueOf values hc]
  exact List.filterMap_cons_some hn

/-- **The program is started with what the user asks for**: every possible launch has options that
ask for it, and whatever options do, in whatever order they stand, in one word or in two, and
behind whatever other arguments, `main` goes on with that launch. -/
theorem startMain_of_perm (h : launch.Possible loads) :
    (∃ values, launch.Asks values) ∧ ∀ values, launch.Asks values →
      ∀ (joined : Char → Bool) (before arguments : List Getopt.Argument) (tail : List Str),
      (∀ argument ∈ before, Accepted argument) →
      arguments.Perm (letters.map (argumentOf joined values)) → Getopt.IsEnd tail →
      startMain loads ((before ++ arguments).flatMap Getopt.Argument.words ++ tail)
        = .ok (.inr launch) := by
  refine ⟨?_, fun values hasks joined before arguments tail hbefore hperm htail => ?_⟩
  · refine ⟨fun c => if c = 'c' then launch.configFile else if c = 'a' then launch.server
      else if c = 'p' then decimal launch.port else if c = 'r' then decimal launch.reportLevel
      else if c = 's' then decimal (if launch.reportDest = .syslog then 1 else 0)
      else decimal (if launch.daemonizes = true then 0 else 1),
      ⟨rfl, rfl, ?_, ?_, ?_, ?_⟩⟩
    · exact number_decimal h.port.1 h.port.2
    · exact number_decimal (by have := h.reportLevel; omega) (by have := h.reportLevel; omega)
    · refine ⟨_, number_decimal (by split <;> decide) (by split <;> decide), ?_⟩
      cases launch.reportDest <;> rfl
    · refine ⟨_, number_decimal (by split <;> decide) (by split <;> decide), ?_⟩
      cases launch.daemonizes <;> rfl
  · have haccepted : ∀ argument ∈ before ++ arguments, Accepted argument := by
      intro argument hmem
      rcases List.mem_append.mp hmem with hmem | hmem
      · exact hbefore argument hmem
      · obtain ⟨c, hc, rfl⟩ := List.mem_map.mp (hperm.mem_iff.mp hmem)
        exact accepted_argumentOf hasks joined hc
    have hgives : (arguments.flatMap Getopt.Argument.gives).Perm
        (letters.map (fun c => .option c (values c))) := by
      refine (hperm.flatMap_right _).trans (List.Perm.of_eq ?_)
      rw [List.flatMap_map]
      simp only [gives_argumentOf]
      exact (List.map_eq_flatMap).symm
    obtain ⟨dest, hdest, hreportDest⟩ := hasks.reportDest
    obtain ⟨mode, hmode, hdaemonizes⟩ := hasks.daemonizes
    have hsettings : Settings.init.ofLast ((before ++ arguments).flatMap Getopt.Argument.gives)
        = ⟨launch.configFile, launch.server, launch.port, launch.reportLevel, launch.reportDest,
          mode⟩ := by
      rw [List.flatMap_append]
      unfold Settings.ofLast
      rw [last_append_perm hgives (filterMap_valueOf values (c := 'c') (by decide)),
        last_append_perm hgives (filterMap_valueOf values (c := 'a') (by decide)),
        last_append_perm hgives (filterMap_numberOf (by decide) hasks.port),
        last_append_perm hgives (filterMap_numberOf (by decide) hasks.reportLevel),
        last_append_perm hgives (filterMap_numberOf (by decide) hdest),
        last_append_perm hgives (filterMap_numberOf (by decide) hmode),
        hasks.configFile, hasks.server, ← hreportDest]
      show Settings.mk (launch.configFile.take pathMax) (launch.server.take posixHostNameMax)
        _ _ _ _ = _
      rw [List.take_of_length_le h.configFile.le, List.take_of_length_le h.server.le]
      rfl
    unfold startMain
    rw [parseCommandLine_of_accepted .init haccepted htail, hsettings]
    have hlevel : ¬ (launch.reportLevel < 0 ∨ 5 < launch.reportLevel) := by
      have := h.reportLevel
      omega
    dsimp only
    rw [if_neg (fun hne => hne rfl)]
    unfold setReporting readArray
    rw [if_neg hlevel, if_pos h.configFile, if_pos h.server, hdaemonizes]
    have hloads : ¬ loads launch.configFile = false := by
      rw [h.loads]
      decide
    exact if_neg hloads

/-- What the init script starts: reports to syslog, and into the background. -/
theorem startMain_of_perm_init :
    (∃ values, Launch.Asks ⟨"/etc/lcd-stuff.conf".toList, "localhost".toList, 13666, 2, .syslog,
        true⟩ values) ∧ ∀ values, Launch.Asks ⟨"/etc/lcd-stuff.conf".toList, "localhost".toList,
        13666, 2, .syslog, true⟩ values →
      ∀ (joined : Char → Bool) (before arguments : List Getopt.Argument) (tail : List Str),
      (∀ argument ∈ before, Accepted argument) →
      arguments.Perm (letters.map (argumentOf joined values)) → Getopt.IsEnd tail →
      startMain (fun _ => true) ((before ++ arguments).flatMap Getopt.Argument.words ++ tail)
        = .ok (.inr ⟨"/etc/lcd-stuff.conf".toList, "localhost".toList, 13666, 2, .syslog, true⟩) :=
  startMain_of_perm ⟨by decide +kernel, rfl, by decide +kernel, by decide, by decide⟩

end CommandLine
