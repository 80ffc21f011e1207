import Mathlib.Data.List.Basic

/-!
# The options of a command line

`getopt` goes through the words of a command line. A word that begins with a dash is a row of
options; an option that has an argument takes the rest of its word for it, or the next word if
there is no rest. All other words are operands, which may stand anywhere, and `--` ends the
options.

A command line without an unknown option and without a missing argument is one that is made of
`Argument`s (`Getopt.regular_iff`), and what is found on it is what the arguments give
(`Getopt.found_words`). One word may be taken for many things: what begins like an option is the
argument of the option in front of it, if that one waits for it.
-/

namespace Getopt

/-- **The options**: whether one has an argument, or `none` for a letter that is no option. -/
abbrev Options := Char → Option Bool

/-- What is found on a command line. -/
inductive Found where
  /-- An option that has no argument. -/
  | flag (c : Char)
  /-- An option and its argument. -/
  | option (c : Char) (argument : List Char)
  /-- A letter that is no option. -/
  | unknown (c : Char)
  /-- An option whose argument is missing. -/
  | missing (c : Char)
  deriving DecidableEq, Repr

/-- It is an option, with its argument if it has one. -/
def Found.Regular : Found → Prop
  | .flag _ => True
  | .option _ _ => True
  | .unknown _ => False
  | .missing _ => False

/-- **A row of options**: what is found in it, and the option that waits for the next word. -/
def row (options : Options) : List Char → List Found × Option Char
  | [] => ([], none)
  | c :: word =>
    match options c with
    | none => (.unknown c :: (row options word).1, (row options word).2)
    | some false => (.flag c :: (row options word).1, (row options word).2)
    | some true => if word = [] then ([], some c) else ([.option c word], none)

/-- A word that is no row of options. -/
def IsOperand (word : List Char) : Prop := word.head? ≠ some '-' ∨ word = ['-']

instance : DecidablePred IsOperand := fun _ => inferInstanceAs (Decidable (_ ∨ _))

/-- **What is found on a command line**, with the option that waits for its argument. -/
def found (options : Options) : Option Char → List (List Char) → List Found
  | none, [] => []
  | some c, [] => [.missing c]
  | some c, word :: words => .option c word :: found options none words
  | none, word :: words =>
    if word = ['-', '-'] then []
    else if IsOperand word then found options none words
    else (row options word.tail).1 ++ found options (row options word.tail).2 words

/-! ## The arguments -/

/-- **A part of a command line.** -/
inductive Argument where
  /-- An operand. -/
  | operand (word : List Char)
  /-- Options without arguments in one word. -/
  | flags (cs : List Char)
  /-- Options without arguments, and one with the rest of the word as its argument. -/
  | joined (cs : List Char) (c : Char) (argument : List Char)
  /-- Options without arguments, and one with the next word as its argument. -/
  | separate (cs : List Char) (c : Char) (argument : List Char)
  deriving DecidableEq, Repr

namespace Argument

/-- The words of an argument. -/
def words : Argument → List (List Char)
  | .operand word => [word]
  | .flags cs => ['-' :: cs]
  | .joined cs c argument => ['-' :: (cs ++ c :: argument)]
  | .separate cs c argument => ['-' :: (cs ++ [c]), argument]

/-- What an argument gives. -/
def gives : Argument → List Found
  | .operand _ => []
  | .flags cs => cs.map .flag
  | .joined cs c argument => cs.map .flag ++ [.option c argument]
  | .separate cs c argument => cs.map .flag ++ [.option c argument]

/-- **The argument can be taken for nothing else**, where it begins. -/
def WellFormed (options : Options) : Argument → Prop
  | .operand word => IsOperand word
  | .flags cs => cs ≠ [] ∧ ∀ c ∈ cs, options c = some false
  | .joined cs c argument =>
    (∀ c ∈ cs, options c = some false) ∧ options c = some true ∧ argument ≠ []
  | .separate cs c _ => (∀ c ∈ cs, options c = some false) ∧ options c = some true

end Argument

/-- The words behind the arguments: nothing, or what `--` keeps from being options. -/
def IsEnd (words : List (List Char)) : Prop := words = [] ∨ words.head? = some ['-', '-']

/-! ## What is found of the arguments -/

variable {options : Options}

/-- The options without arguments at the front of a row. -/
theorem row_flags {cs : List Char} (h : ∀ c ∈ cs, options c = some false) (word : List Char) :
    row options (cs ++ word)
      = (cs.map .flag ++ (row options word).1, (row options word).2) := by
  induction cs with
  | nil => rfl
  | cons c cs ih =>
    obtain ⟨hc, hrest⟩ := List.forall_mem_cons.mp h
    rw [List.cons_append, row, hc, ih hrest]
    rfl

/-- A row that begins with an option is no operand and no end. -/
theorem found_row (hdash : options '-' = none) {c : Char} {word : List Char}
    (hc : options c ≠ none) (words : List (List Char)) :
    found options none (('-' :: c :: word) :: words)
      = (row options (c :: word)).1 ++ found options (row options (c :: word)).2 words := by
  have hne : c ≠ '-' := fun h => hc (h ▸ hdash)
  rw [found, if_neg (by simp [hne]), if_neg (by simp [IsOperand])]
  rfl

/-- What an argument gives is found, and then what comes behind it. -/
theorem found_argument (hdash : options '-' = none) {argument : Argument}
    (h : argument.WellFormed options) (words : List (List Char)) :
    found options none (argument.words ++ words)
      = argument.gives ++ found options none words := by
  cases argument with
  | operand word =>
    have hoperand : IsOperand word := h
    have hne : word ≠ ['-', '-'] := by
      rintro rfl
      exact absurd hoperand (by decide)
    show found options none (word :: words) = _
    rw [found, if_neg hne, if_pos hoperand]
    rfl
  | flags cs =>
    obtain ⟨hne, hflags⟩ := h
    cases cs with
    | nil => exact absurd rfl hne
    | cons c cs =>
      have hrow := row_flags hflags []
      rw [List.append_nil] at hrow
      show found options none (('-' :: c :: cs) :: words) = _
      rw [found_row hdash (by rw [hflags c List.mem_cons_self]; simp), hrow]
      show _ ++ [] ++ found options none words = _
      rw [List.append_nil]
      rfl
  | joined cs c argument =>
    obtain ⟨hflags, hc, hne⟩ := h
    have hrow := row_flags hflags (c :: argument)
    rw [show row options (c :: argument) = ([.option c argument], none) by
      rw [row, hc, if_neg hne]] at hrow
    cases cs with
    | nil =>
      show found options none (('-' :: c :: argument) :: words) = _
      rw [found_row hdash (by rw [hc]; simp)]
      exact congrArg (fun r => r.1 ++ found options r.2 words) hrow
    | cons d cs =>
      show found options none (('-' :: d :: (cs ++ c :: argument)) :: words) = _
      rw [found_row hdash (by rw [hflags d List.mem_cons_self]; simp)]
      exact congrArg (fun r => r.1 ++ found options r.2 words) hrow
  | separate cs c argument =>
    obtain ⟨hflags, hc⟩ := h
    have hrow := row_flags hflags [c]
    rw [show row options [c] = ([], some c) by rw [row, hc, if_pos rfl]] at hrow
    have hstep : found options none (('-' :: (cs ++ [c])) :: argument :: words)
        = (row options (cs ++ [c])).1
          ++ found options (row options (cs ++ [c])).2 (argument :: words) := by
      cases cs with
      | nil => exact found_row hdash (by rw [hc]; simp) _
      | cons d cs => exact found_row hdash (by rw [hflags d List.mem_cons_self]; simp) _
    show found options none (('-' :: (cs ++ [c])) :: argument :: words) = _
    rw [hstep, hrow]
    show (cs.map Found.flag ++ []) ++ Found.option c argument :: found options none words = _
    rw [List.append_nil, List.append_cons]
    rfl

/-- **What is found is what the arguments give.** -/
theorem found_words (hdash : options '-' = none) {arguments : List Argument}
    {tail : List (List Char)} (h : ∀ argument ∈ arguments, argument.WellFormed options)
    (htail : IsEnd tail) :
    found options none (arguments.flatMap Argument.words ++ tail)
      = arguments.flatMap Argument.gives := by
  induction arguments with
  | nil =>
    rcases htail with rfl | hhead
    · rfl
    · obtain ⟨words, rfl⟩ := List.head?_eq_some_iff.mp hhead
      show found options none (['-', '-'] :: words) = []
      rw [found, if_pos rfl]
  | cons argument arguments ih =>
    obtain ⟨hargument, hrest⟩ := List.forall_mem_cons.mp h
    rw [List.flatMap_cons, List.append_assoc, found_argument hdash hargument, ih hrest,
      List.flatMap_cons]

/-! ## Which command lines have arguments only -/

/-- A row in which nothing is unknown: options without arguments, and then the end, an option
with its argument, or one that waits for it. -/
theorem row_regular {word : List Char} (h : ∀ f ∈ (row options word).1, f.Regular) :
    ∃ cs rest, word = cs ++ rest ∧ (∀ c ∈ cs, options c = some false)
      ∧ (rest = [] ∨ ∃ c argument, rest = c :: argument ∧ options c = some true) := by
  induction word with
  | nil => exact ⟨[], [], rfl, fun c hc => absurd hc List.not_mem_nil, .inl rfl⟩
  | cons c word ih =>
    rcases hc : options c with _ | _ | _
    · rw [row, hc] at h
      exact absurd (h (.unknown c) List.mem_cons_self) (fun hregular => hregular)
    · rw [row, hc] at h
      obtain ⟨cs, rest, rfl, hcs, hrest⟩ := ih (fun f hf => h f (List.mem_cons_of_mem _ hf))
      exact ⟨c :: cs, rest, rfl, List.forall_mem_cons.mpr ⟨hc, hcs⟩, hrest⟩
    · exact ⟨[], c :: word, rfl, fun d hd => absurd hd List.not_mem_nil, .inr ⟨c, word, rfl, hc⟩⟩

/-- A command line that begins with the argument of an option that waits for it, if there is
one, and then has arguments only. -/
def HasArguments (options : Options) (waiting : Option Char) (words : List (List Char)) : Prop :=
  ∃ (before : List (List Char)) (arguments : List Argument) (tail : List (List Char)),
    words = before ++ (arguments.flatMap Argument.words ++ tail)
    ∧ (∀ argument ∈ arguments, argument.WellFormed options) ∧ IsEnd tail
    ∧ before.length = if waiting.isSome then 1 else 0

/-- **Where nothing is unknown and nothing is missing, there are arguments only.** -/
theorem hasArguments_of_regular {words : List (List Char)} {waiting : Option Char}
    (h : ∀ f ∈ found options waiting words, f.Regular) :
    HasArguments options waiting words := by
  induction words generalizing waiting with
  | nil =>
    cases waiting with
    | none => exact ⟨[], [], [], rfl, fun _ ha => absurd ha List.not_mem_nil, .inl rfl, rfl⟩
    | some c => exact absurd (h (.missing c) List.mem_cons_self) (fun hregular => hregular)
  | cons word words ih =>
    cases waiting with
    | some c =>
      have hrest : ∀ f ∈ found options none words, f.Regular :=
        fun f hf => h f (List.mem_cons_of_mem _ hf)
      obtain ⟨before, arguments, tail, rfl, hwf, htail, hlength⟩ := ih hrest
      obtain rfl := List.length_eq_zero_iff.mp hlength
      exact ⟨[word], arguments, tail, rfl, hwf, htail, rfl⟩
    | none =>
      rw [found] at h
      by_cases hend : word = ['-', '-']
      · exact ⟨[], [], word :: words, rfl, fun _ ha => absurd ha List.not_mem_nil,
          .inr (congrArg some hend), rfl⟩
      rw [if_neg hend] at h
      by_cases hoperand : IsOperand word
      · rw [if_pos hoperand] at h
        obtain ⟨before, arguments, tail, rfl, hwf, htail, hlength⟩ := ih h
        obtain rfl := List.length_eq_zero_iff.mp hlength
        exact ⟨[], .operand word :: arguments, tail, rfl,
          List.forall_mem_cons.mpr ⟨hoperand, hwf⟩, htail, rfl⟩
      rw [if_neg hoperand] at h
      obtain ⟨hrow, hrest⟩ := List.forall_mem_append.mp h
      obtain ⟨hhead, hdash⟩ := not_or.mp hoperand
      obtain ⟨letters, rfl⟩ := List.head?_eq_some_iff.mp (not_not.mp hhead)
      obtain ⟨before, arguments, tail, rfl, hwf, htail, hlength⟩ := ih hrest
      obtain ⟨cs, rest, rfl, hcs, hkind⟩ := row_regular hrow
      change before.length = if (row options (cs ++ rest)).2.isSome then 1 else 0 at hlength
      rw [row_flags hcs] at hlength
      rcases hkind with rfl | ⟨c, argument, rfl, hc⟩
      · obtain rfl := List.length_eq_zero_iff.mp hlength
        rw [List.append_nil] at hdash ⊢
        refine ⟨[], .flags cs :: arguments, tail, rfl,
          List.forall_mem_cons.mpr ⟨⟨?_, hcs⟩, hwf⟩, htail, rfl⟩
        rintro rfl
        exact hdash rfl
      · rw [row, hc] at hlength
        dsimp only at hlength
        by_cases hne : argument = []
        · subst hne
          rw [if_pos rfl] at hlength
          obtain ⟨value, rfl⟩ := List.length_eq_one_iff.mp hlength
          exact ⟨[], .separate cs c value :: arguments, tail, rfl,
            List.forall_mem_cons.mpr ⟨⟨hcs, hc⟩, hwf⟩, htail, rfl⟩
        · rw [if_neg hne] at hlength
          obtain rfl := List.length_eq_zero_iff.mp hlength
          exact ⟨[], .joined cs c argument :: arguments, tail, rfl,
            List.forall_mem_cons.mpr ⟨⟨hcs, hc, hne⟩, hwf⟩, htail, rfl⟩

/-- What an argument gives is regular. -/
theorem Argument.regular_of_mem_gives {argument : Argument} {f : Found} (h : f ∈ argument.gives) :
    f.Regular := by
  have hflags : ∀ cs : List Char, f ∈ cs.map Found.flag → f.Regular := by
    intro cs hf
    obtain ⟨c, -, rfl⟩ := List.mem_map.mp hf
    exact trivial
  have hoption : ∀ (cs : List Char) (c : Char) (value : List Char),
      f ∈ cs.map Found.flag ++ [.option c value] → f.Regular := by
    intro cs c value hf
    rcases List.mem_append.mp hf with hf | hf
    · exact hflags cs hf
    · obtain rfl := List.mem_singleton.mp hf
      exact trivial
  cases argument with
  | operand word => exact absurd h List.not_mem_nil
  | flags cs => exact hflags cs h
  | joined cs c value => exact hoption cs c value h
  | separate cs c value => exact hoption cs c value h

/-- **A command line is free of errors exactly when it is made of arguments.** -/
theorem regular_iff (hdash : options '-' = none) {words : List (List Char)} :
    (∀ f ∈ found options none words, f.Regular)
      ↔ ∃ (arguments : List Argument) (tail : List (List Char)),
        words = arguments.flatMap Argument.words ++ tail
        ∧ (∀ argument ∈ arguments, argument.WellFormed options) ∧ IsEnd tail := by
  constructor
  · intro h
    obtain ⟨before, arguments, tail, rfl, hwf, htail, hlength⟩ := hasArguments_of_regular h
    obtain rfl := List.length_eq_zero_iff.mp hlength
    exact ⟨arguments, tail, rfl, hwf, htail⟩
  · rintro ⟨arguments, tail, rfl, hwf, htail⟩ f hf
    rw [found_words hdash hwf htail] at hf
    obtain ⟨argument, -, hf⟩ := List.mem_flatMap.mp hf
    exact argument.regular_of_mem_gives hf

end Getopt
