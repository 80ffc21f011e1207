import Mathlib.Algebra.Order.Ring.Int
import Mathlib.Data.List.Basic
import Mathlib.Data.List.TakeWhile

/-!
# C strings and the library functions over them

The program handles text as C strings and takes it apart with the functions
of the C library and of GLib. A C string is here the list of its characters
up to, and without, the terminating NUL, so `*p == '\0'` is the test for the
empty list and a pointer into a string that is only read is the rest of the
string from there on.

The functions are written as their documentation describes them: `strtok`
never returns an empty token, `g_strsplit` never returns a vector for the
empty string, and `atoi` is the `strtol` of the C library, which saturates at
the range of a `long`, cut down to an `int`.

Two things can go wrong that C does not notice: a function reads an array
outside what was stored in it, or takes a pointer that is `NULL` for a
string. A function of the model that can do so returns an `Except Fault`, and
`readAt` is the one place where a read out of bounds is found.
-/

/-- A C string: its characters, without the terminating NUL. -/
abbrev Str := List Char

/-- **What C leaves undefined**: the ways in which a function of the program
steps outside the memory it was given. -/
inductive Fault where
  /-- An entry of an array of `len` entries is read at index `i`, which is not
  one of them. -/
  | outOfBounds (i : Int) (len : ℕ)
  /-- A `NULL` pointer is used as a string or as a structure. -/
  | null
  deriving DecidableEq, Repr

/-- **A sequence is without a fault when each of its parts is.** -/
theorem bind_eq_ok_iff {α β : Type} {x : Except Fault α} {f : α → Except Fault β} {b : β} :
    x >>= f = .ok b ↔ ∃ a, x = .ok a ∧ f a = .ok b := by
  cases x with
  | error e => exact ⟨fun h => absurd h (by simp [bind, Except.bind]), fun ⟨_, h, _⟩ =>
      absurd h (by simp)⟩
  | ok a => exact ⟨fun h => ⟨a, rfl, h⟩, fun ⟨a', h, hf⟩ => Except.ok.inj h ▸ hf⟩

/-- The entry of an array at an index of type `int`. -/
def readAt {α : Type*} (xs : List α) (i : Int) : Except Fault α :=
  if h : 0 ≤ i ∧ i < xs.length then .ok (xs.get ⟨i.toNat, by omega⟩)
  else .error (.outOfBounds i xs.length)

/-- **A read is defined exactly within the bounds.** -/
theorem readAt_isOk_iff {α : Type*} (xs : List α) (i : Int) :
    (∃ x, readAt xs i = .ok x) ↔ 0 ≤ i ∧ i < xs.length := by
  unfold readAt
  by_cases h : 0 ≤ i ∧ i < xs.length
  · rw [dif_pos h]
    exact ⟨fun _ => h, fun _ => ⟨_, rfl⟩⟩
  · rw [dif_neg h]
    exact ⟨fun ⟨_, hx⟩ => absurd hx (by simp), fun h' => absurd h' h⟩

/-- Within the bounds a read gives an entry of the array. -/
theorem mem_of_readAt {α : Type*} {xs : List α} {i : Int} {x : α}
    (h : readAt xs i = .ok x) : x ∈ xs := by
  unfold readAt at h
  split at h
  · obtain rfl := Except.ok.inj h
    exact List.get_mem _ _
  · exact absurd h (by simp)

/-- Within the bounds a read gives the entry at its index. -/
theorem getElem?_of_readAt {α : Type*} {xs : List α} {i : ℕ} {x : α}
    (h : readAt xs i = .ok x) : xs[i]? = some x := by
  unfold readAt at h
  split at h
  · next hi =>
    obtain rfl := Except.ok.inj h
    have hlt : i < xs.length := by omega
    exact List.getElem?_eq_getElem hlt
  · exact absurd h (by simp)

/-- An entry that is there is read. -/
theorem readAt_of_getElem? {α : Type*} {xs : List α} {i : ℕ} {x : α}
    (h : xs[i]? = some x) : readAt xs i = .ok x := by
  obtain ⟨hlt, rfl⟩ := List.getElem?_eq_some_iff.mp h
  unfold readAt
  rw [dif_pos ⟨Int.natCast_nonneg i, by omega⟩]
  rfl

/-! ## Machine integers -/

/-- An `int` of 32 bits: what is left of a number when it is stored in one. -/
def wrapInt (x : Int) : Int := x.bmod (2 ^ 32)

/-- A number an `int` can hold is stored as it is. -/
theorem wrapInt_of_mem {x : Int} (h₁ : -2 ^ 31 ≤ x) (h₂ : x < 2 ^ 31) :
    wrapInt x = x := by
  unfold wrapInt
  exact Int.bmod_eq_of_le (by omega) (by omega)

/-- What is stored in an `int` lies in its range. -/
theorem wrapInt_mem (x : Int) : -2 ^ 31 ≤ wrapInt x ∧ wrapInt x < 2 ^ 31 := by
  unfold wrapInt
  have h₁ := Int.le_bmod (x := x) (m := 2 ^ 32) (by omega)
  have h₂ := Int.bmod_lt (x := x) (m := 2 ^ 32) (by omega)
  omega

/-- The white space that `strtol` skips. -/
def isspace (c : Char) : Bool :=
  c ∈ [' ', '\t', '\n', '\x0b', '\x0c', '\r']

/-- The number a string of decimal digits stands for. -/
def digitsValue (s : Str) : ℕ :=
  s.foldl (fun n c => 10 * n + (c.toNat - '0'.toNat)) 0

/-- `strtol (s, NULL, 10)`: the number at the front of `s`, saturated at the
range of a `long` of 64 bits, and zero where there is none. -/
def strtol (s : Str) : Int :=
  let signed := s.dropWhile isspace
  let value : Int := match signed with
    | '-' :: r => -(digitsValue (r.takeWhile Char.isDigit) : Int)
    | '+' :: r => digitsValue (r.takeWhile Char.isDigit)
    | r => digitsValue (r.takeWhile Char.isDigit)
  max (-2 ^ 63) (min value (2 ^ 63 - 1))

/-- `atoi`: the C library's `(int) strtol (s, NULL, 10)`. -/
def atoi (s : Str) : Int := wrapInt (strtol s)

/-- **The number of an item, counted from one**: it is what it seems to be but
for the least number, which wraps around. -/
theorem le_wrapInt_atoi_sub_one_iff (s : Str) {b : Int} (hlow : -2 ^ 31 ≤ b)
    (hhigh : b < 2 ^ 31) : b ≤ wrapInt (atoi s - 1) ↔ b < atoi s ∨ atoi s = -2 ^ 31 := by
  obtain ⟨hmin, hmax⟩ := wrapInt_mem (strtol s)
  have hs : atoi s = wrapInt (strtol s) := rfl
  rcases Int.lt_or_le (atoi s - 1) (-2 ^ 31) with hlt | hle
  · have hleast : atoi s = -2 ^ 31 := by omega
    have hwrap : wrapInt (-2 ^ 31 - 1) = 2 ^ 31 - 1 := by decide
    rw [hleast, hwrap]
    omega
  · rw [wrapInt_of_mem hle (by omega)]
    omega

example : atoi "-5 apples".toList = -5 ∧ atoi "apples".toList = 0
    ∧ atoi "99999999999999999999".toList = -1 := by decide

/-- The number that `%d` prints. -/
def decimal (i : Int) : Str := (toString i).toList

/-- What `%d` prints is made of digits and a minus sign. -/
theorem mem_decimal {i : Int} {c : Char} (h : c ∈ decimal i) :
    c.isDigit = true ∨ c = '-' := by
  have hnat : ∀ (n : ℕ) (d : Char), d ∈ (toString n).toList → d.isDigit = true := by
    intro n d hd
    exact Nat.isDigit_of_mem_toDigits (b := 10) (n := n) (by omega) (by omega)
      (by simpa using hd)
  unfold decimal at h
  cases i with
  | ofNat n => exact .inl (hnat n c h)
  | negSucc n =>
    rw [show toString (Int.negSucc n) = "-" ++ toString (n + 1) from rfl,
      String.toList_append] at h
    rcases List.mem_append.mp h with h | h
    · exact .inr (by simpa using h)
    · exact .inl (hnat _ c h)

/-- What `%d` prints is a word. -/
theorem notMem_of_mem_decimal {i : Int} {c : Char} (h : c ∈ decimal i) : c ∉ [' ', '\n', '_'] := by
  intro hc
  simp only [List.mem_cons, List.not_mem_nil, or_false] at hc
  rcases mem_decimal h with hdigit | rfl
  · rcases hc with rfl | rfl | rfl <;> exact absurd hdigit (by decide)
  · exact absurd hc (by decide)

/-! ## Taking strings apart -/

/-- `strchr`: the string from the first `c` on, or `NULL`. -/
def strchr (s : Str) (c : Char) : Option Str :=
  match s with
  | [] => none
  | d :: s => if d = c then some (d :: s) else strchr s c

/-- The tokens that successive calls of `strtok` return: what is between the
delimiters and not empty. -/
def strtok (delimiters : Str) (s : Str) : List Str :=
  (s.splitOnP (· ∈ delimiters)).filter (· ≠ [])

/-- `get_args` of `shared/str.c`: the first `max_args` tokens of a line, which
it stores in `argv` and whose number it returns. -/
def getArgs (str : Str) (maxArgs : ℕ) : List Str :=
  (strtok [' ', '\n'] str).take maxArgs

/-- What precedes the first occurrence of `delim` in `s`, and what follows
it. -/
def breakOn (delim : Str) : Str → Option (Str × Str)
  | [] => if delim = [] then some ([], []) else none
  | c :: s =>
    if delim.isPrefixOf (c :: s) then some ([], (c :: s).drop delim.length)
    else (breakOn delim s).map (fun p => (c :: p.1, p.2))

/-- Split at the first `n` occurrences of `delim`. -/
def splitTimes (delim : Str) : ℕ → Str → List Str
  | 0, s => [s]
  | n + 1, s =>
    match breakOn delim s with
    | none => [s]
    | some (a, b) => a :: splitTimes delim n b

/-- `g_strsplit`: the pieces of `s` between the occurrences of `delim`, at
most `max_tokens` of them unless that is zero; an empty vector for an empty
string. -/
def gStrsplit (s delim : Str) (maxTokens : ℕ) : List Str :=
  if s = [] then []
  else splitTimes delim (if maxTokens = 0 then s.length else maxTokens - 1) s

/-- `starts_with` of `util.c`, for two strings that are not `NULL`. -/
def startsWith (string start : Str) : Bool := start.isPrefixOf string

/-- `g_ascii_strcasecmp (a, b) == 0`: equal up to the case of ASCII letters. -/
def gAsciiStrcaseEq (a b : Str) : Bool := a.map Char.toLower == b.map Char.toLower

/-! ## What the pieces are -/

/-- The first piece of a split list stands at its front, and every other piece
is a part of it. -/
theorem prefix_infix_of_splitOnP {α : Type*} {p : α → Bool} {s a : List α}
    {as : List (List α)} (h : s.splitOnP p = a :: as) :
    a <+: s ∧ ∀ t ∈ as, t <:+: s := by
  induction s generalizing a as with
  | nil =>
    rw [List.splitOnP_nil] at h
    obtain ⟨rfl, rfl⟩ := List.cons.inj h
    exact ⟨List.prefix_rfl, fun t ht => absurd ht (by simp)⟩
  | cons c s ih =>
    obtain ⟨b, bs, hb⟩ := List.exists_cons_of_ne_nil (List.splitOnP_ne_nil p s)
    have hs := ih hb
    have hgrow : ∀ t, t <:+: s → t <:+: c :: s :=
      fun t ht => ht.trans (List.suffix_cons c s).isInfix
    rw [List.splitOnP_cons_eq_if_modifyHead, hb] at h
    by_cases hc : p c
    · rw [if_pos hc] at h
      obtain ⟨rfl, rfl⟩ := List.cons.inj h
      refine ⟨List.nil_prefix, fun t ht => ?_⟩
      rcases List.mem_cons.mp ht with rfl | ht
      · exact hgrow _ hs.1.isInfix
      · exact hgrow t (hs.2 t ht)
    · rw [if_neg hc, List.modifyHead_cons] at h
      obtain ⟨rfl, rfl⟩ := List.cons.inj h
      exact ⟨List.cons_prefix_cons.mpr ⟨rfl, hs.1⟩, fun t ht => hgrow t (hs.2 t ht)⟩

/-- Every piece is a part of the list. -/
theorem infix_of_mem_splitOn {α : Type*} [DecidableEq α] {c : α} {s l : List α}
    (h : l ∈ s.splitOn c) : l <:+: s := by
  obtain ⟨a, as, ha⟩ := List.exists_cons_of_ne_nil (List.splitOn_ne_nil c s)
  obtain ⟨hfront, hinfix⟩ := prefix_infix_of_splitOnP ha
  rw [ha] at h
  rcases List.mem_cons.mp h with rfl | h
  · exact hfront.isInfix
  · exact hinfix l h

/-- What holds no delimiter goes in front of the first piece. -/
theorem splitOnP_append {α : Type*} {p : α → Bool} {w s a : List α} {as : List (List α)}
    (hw : ∀ c ∈ w, p c = false) (h : s.splitOnP p = a :: as) :
    (w ++ s).splitOnP p = (w ++ a) :: as := by
  induction w with
  | nil => exact h
  | cons c w ih =>
    rw [List.cons_append, List.splitOnP_cons_eq_if_modifyHead,
      if_neg (by rw [hw c (List.mem_cons_self ..)]; exact Bool.false_ne_true),
      ih (fun d hd => hw d (List.mem_cons_of_mem c hd)), List.modifyHead_cons]
    rfl

/-- A word in front of a delimiter is the first token. -/
theorem strtok_append_cons {delimiters w s : Str} {c : Char} (hne : w ≠ [])
    (hw : w.all (· ∉ delimiters) = true) (hc : c ∈ delimiters) :
    strtok delimiters (w ++ c :: s) = w :: strtok delimiters s := by
  have hw : ∀ d ∈ w, decide (d ∈ delimiters) = false :=
    fun d hd => decide_eq_false (of_decide_eq_true (List.all_eq_true.mp hw d hd))
  unfold strtok
  rw [List.splitOnP_append_cons_of_forall_mem hw c (decide_eq_true hc),
    List.filter_cons_of_pos (by simp [hne])]

/-- A word is the only token of itself. -/
theorem strtok_word {delimiters w : Str} (hne : w ≠ [])
    (hw : w.all (· ∉ delimiters) = true) : strtok delimiters w = [w] := by
  have hw : ∀ d ∈ w, decide (d ∈ delimiters) = false :=
    fun d hd => decide_eq_false (of_decide_eq_true (List.all_eq_true.mp hw d hd))
  unfold strtok
  rw [List.splitOnP_eq_singleton hw, List.filter_cons_of_pos (by simp [hne]), List.filter_nil]

/-- A token is a part of the string it was taken from, and it is not
empty. -/
theorem of_mem_strtok {delimiters s t : Str} (h : t ∈ strtok delimiters s) :
    t <:+: s ∧ t ≠ [] := by
  unfold strtok at h
  rw [List.mem_filter] at h
  refine ⟨?_, by simpa using h.2⟩
  obtain ⟨a, as, ha⟩ := List.exists_cons_of_ne_nil
    (List.splitOnP_ne_nil (· ∈ delimiters) s)
  have hpieces := prefix_infix_of_splitOnP ha
  rw [ha] at h
  rcases List.mem_cons.mp h.1 with rfl | ht
  · exact hpieces.1.isInfix
  · exact hpieces.2 t ht

/-- An argument is a part of the line it was taken from, and it is not
empty. -/
theorem of_mem_getArgs {str t : Str} {maxArgs : ℕ} (h : t ∈ getArgs str maxArgs) :
    t <:+: str ∧ t ≠ [] :=
  of_mem_strtok (List.mem_of_mem_take h)

/-- The first argument begins with what the line begins with, up to the first
delimiter. -/
theorem getArgs_append {w s : Str} (hw : w.all (· ∉ [' ', '\n']) = true) (hne : w ≠ [])
    (n : ℕ) : ∃ a args, getArgs (w ++ s) (n + 1) = (w ++ a) :: args := by
  obtain ⟨a, as, ha⟩ := List.exists_cons_of_ne_nil
    (List.splitOnP_ne_nil (· ∈ [' ', '\n']) s)
  have hsplit := splitOnP_append (w := w)
    (fun c hc => decide_eq_false (of_decide_eq_true (List.all_eq_true.mp hw c hc))) ha
  refine ⟨a, (as.filter (· ≠ [])).take n, ?_⟩
  unfold getArgs strtok
  rw [hsplit, List.filter_cons_of_pos (by simp [hne]),
    List.take_succ_cons]

/-- **Breaking a string puts it together again**: what precedes the
delimiter, the delimiter, and what follows it. -/
theorem eq_of_breakOn {delim s a b : Str} (h : breakOn delim s = some (a, b)) :
    s = a ++ delim ++ b := by
  induction s generalizing a with
  | nil =>
    rw [breakOn] at h
    split at h
    · next hd =>
      obtain ⟨rfl, rfl⟩ := Prod.mk.inj (Option.some.inj h)
      rw [hd]
      rfl
    · exact absurd h (by simp)
  | cons c s ih =>
    rw [breakOn] at h
    split at h
    · next hd =>
      obtain ⟨rfl, rfl⟩ := Prod.mk.inj (Option.some.inj h)
      obtain ⟨r, hr⟩ := List.isPrefixOf_iff_prefix.mp hd
      rw [← hr, List.drop_left, List.nil_append]
    · obtain ⟨⟨a', b'⟩, hab, hp⟩ := Option.map_eq_some_iff.mp h
      obtain ⟨rfl, rfl⟩ := Prod.mk.inj hp
      rw [ih hab]
      rfl

/-- A string is broken at a character exactly when it contains it. -/
theorem isSome_breakOn_singleton {c : Char} {s : Str} :
    (breakOn [c] s).isSome ↔ c ∈ s := by
  induction s with
  | nil => simp [breakOn]
  | cons d s ih =>
    rw [breakOn, List.mem_cons]
    by_cases hd : c = d
    · subst hd
      rw [if_pos (by simp [List.isPrefixOf])]
      exact ⟨fun _ => .inl rfl, fun _ => rfl⟩
    · have hnot : ¬ ([c].isPrefixOf (d :: s) = true) := by simpa [List.isPrefixOf] using hd
      rw [if_neg hnot, Option.isSome_map, ih]
      exact ⟨.inr, fun h => h.resolve_left hd⟩

/-- **A string split in two at a character**: whole when it does not contain
it, and else what is in front of the first one and what is behind. -/
theorem gStrsplit_two {c : Char} {s : Str} (hs : s ≠ []) :
    (c ∉ s ∧ gStrsplit s [c] 2 = [s])
      ∨ ∃ a b, s = a ++ [c] ++ b ∧ gStrsplit s [c] 2 = [a, b] := by
  unfold gStrsplit
  rw [if_neg hs]
  cases hbreak : breakOn [c] s with
  | none =>
    refine .inl ⟨fun hc => ?_, ?_⟩
    · have hsome := isSome_breakOn_singleton.mpr hc
      rw [hbreak] at hsome
      exact absurd hsome (by simp)
    · show splitTimes [c] 1 s = [s]
      rw [splitTimes, hbreak]
  | some p =>
    obtain ⟨a, b⟩ := p
    refine .inr ⟨a, b, eq_of_breakOn hbreak, ?_⟩
    show splitTimes [c] 1 s = [a, b]
    rw [splitTimes, hbreak]
    rfl

/-! ## Numbers that are read back -/

/-- What `%d` prints of a number that is not negative. -/
theorem decimal_natCast (n : ℕ) : decimal n = Nat.toDigits 10 n := by
  show (toString n).toList = _
  simp

/-- A digit is no white space. -/
theorem isspace_of_isDigit {c : Char} (h : c.isDigit = true) : isspace c = false := by
  refine Bool.eq_false_iff.mpr (fun hspace => ?_)
  have hmem : c ∈ [' ', '\t', '\n', '\x0b', '\x0c', '\r'] := of_decide_eq_true hspace
  simp only [List.mem_cons, List.not_mem_nil, or_false] at hmem
  rcases hmem with rfl | rfl | rfl | rfl | rfl | rfl <;> exact absurd h (by decide)

/-- `strtol` reads the digits that are there. -/
theorem strtol_digits {c : Char} {s t : Str} (hc : c.isDigit = true)
    (hs : ∀ d ∈ s, d.isDigit = true) (ht : ∀ d ∈ t.head?, d.isDigit = false)
    (hvalue : digitsValue (c :: s) < 2 ^ 63) :
    strtol (c :: s ++ t) = digitsValue (c :: s) := by
  have htake : (c :: (s ++ t)).takeWhile Char.isDigit = c :: s := by
    have hall : ∀ d ∈ c :: s, d.isDigit = true := List.forall_mem_cons.mpr ⟨hc, hs⟩
    rw [← List.cons_append, List.takeWhile_append_of_pos hall]
    cases t with
    | nil => simp
    | cons d t => rw [List.takeWhile_cons_of_neg (by rw [ht d rfl]; decide), List.append_nil]
  unfold strtol
  rw [List.cons_append, List.dropWhile_cons_of_neg (by rw [isspace_of_isDigit hc]; decide)]
  dsimp only
  split
  · next r heq =>
    obtain rfl : c = '-' := (List.cons.inj heq).1
    exact absurd hc (by decide)
  · next r heq =>
    obtain rfl : c = '+' := (List.cons.inj heq).1
    exact absurd hc (by decide)
  · rw [htake]
    omega

/-- **A number that was printed is read back**, whatever follows it but a digit. -/
theorem atoi_decimal_append {n : ℕ} (hn : n < 2 ^ 31) {t : Str}
    (ht : ∀ c ∈ t.head?, c.isDigit = false) : atoi (decimal n ++ t) = n := by
  have hdigits : ∀ c ∈ Nat.toDigits 10 n, c.isDigit = true :=
    fun c hc => Nat.isDigit_of_mem_toDigits (by decide) (by decide) hc
  have hvalue : digitsValue (Nat.toDigits 10 n) = n := Nat.ofDigitChars_ten_toDigits
  rw [decimal_natCast]
  unfold atoi
  obtain ⟨c, s, hcs⟩ := List.exists_cons_of_ne_nil (Nat.toDigits_ne_nil (n := n) (b := 10))
  rw [hcs] at hdigits hvalue ⊢
  obtain ⟨hc, hs⟩ := List.forall_mem_cons.mp hdigits
  rw [strtol_digits hc hs ht (by omega), hvalue, wrapInt_of_mem (by omega) (by omega)]

/-- The number at the front of a string, with its sign. -/
def signedValue : Str → Int
  | '-' :: r => -(digitsValue (r.takeWhile Char.isDigit) : Int)
  | '+' :: r => digitsValue (r.takeWhile Char.isDigit)
  | r => digitsValue (r.takeWhile Char.isDigit)

theorem strtol_eq (s : Str) :
    strtol s = max (-2 ^ 63) (min (signedValue (s.dropWhile isspace)) (2 ^ 63 - 1)) := rfl

/-- What does not begin like a number has the value zero. -/
theorem signedValue_of_head? {s : Str}
    (h : ∀ c ∈ s.head?, c.isDigit = false ∧ c ≠ '-' ∧ c ≠ '+') : signedValue s = 0 := by
  unfold signedValue
  split
  · exact absurd rfl (h '-' rfl).2.1
  · exact absurd rfl (h '+' rfl).2.2
  · cases s with
    | nil => rfl
    | cons c s =>
      rw [List.takeWhile_cons_of_neg (by rw [(h c rfl).1]; decide)]
      rfl

/-- A number ends in front of what is no digit. -/
theorem signedValue_append {s t : Str} (hs : s ≠ []) (ht : ∀ c ∈ t.head?, c.isDigit = false) :
    signedValue (s ++ t) = signedValue s := by
  have htake : ∀ r : Str, (r ++ t).takeWhile Char.isDigit = r.takeWhile Char.isDigit := by
    intro r
    have hnil : t.takeWhile Char.isDigit = [] := by
      cases t with
      | nil => rfl
      | cons c t => exact List.takeWhile_cons_of_neg (by rw [ht c rfl]; decide)
    rw [List.takeWhile_append, hnil, List.append_nil]
    split
    · next hlen => exact ((List.takeWhile_prefix _).eq_of_length hlen).symm
    · rfl
  obtain ⟨c, r, rfl⟩ := List.exists_cons_of_ne_nil hs
  have hother : ∀ c r, c ≠ '-' → c ≠ '+' →
      signedValue (c :: r) = digitsValue ((c :: r).takeWhile Char.isDigit) := by
    intro c r hminus hplus
    unfold signedValue
    split
    · next heq => exact absurd (List.cons.inj heq).1 hminus
    · next heq => exact absurd (List.cons.inj heq).1 hplus
    · rfl
  rw [List.cons_append]
  by_cases hminus : c = '-'
  · subst hminus
    show -(digitsValue _ : Int) = -(digitsValue _ : Int)
    rw [htake]
  · by_cases hplus : c = '+'
    · subst hplus
      show (digitsValue _ : Int) = (digitsValue _ : Int)
      rw [htake]
    · rw [hother c _ hminus hplus, hother c _ hminus hplus, ← List.cons_append, htake]

/-- **A number ends with its line**, if nothing like a number begins the next
one. -/
theorem atoi_append_newline {w t : Str}
    (ht : ∀ c ∈ t.head?, isspace c = false ∧ c.isDigit = false ∧ c ≠ '-' ∧ c ≠ '+') :
    atoi (w ++ '\n' :: t) = atoi w := by
  unfold atoi
  rw [strtol_eq, strtol_eq, List.dropWhile_append]
  split
  · -- the word is white space, and so is the newline
    next hempty =>
    have hskip : ('\n' :: t).dropWhile isspace = t := by
      rw [List.dropWhile_cons_of_pos (by decide)]
      cases t with
      | nil => rfl
      | cons c t => exact List.dropWhile_cons_of_neg (by rw [(ht c rfl).1]; decide)
    rw [hskip, List.isEmpty_iff.mp hempty, signedValue_of_head? (fun c hc => (ht c hc).2)]
    rfl
  · next hne =>
    rw [signedValue_append (fun h => hne (List.isEmpty_iff.mpr h))]
    intro c hc
    obtain rfl := Option.some.inj hc
    rfl

/-- **What was printed has the value that was printed.** -/
theorem signedValue_decimal (i : Int) : signedValue (decimal i) = i := by
  have hdigits : ∀ (n : ℕ), ∀ c ∈ Nat.toDigits 10 n, c.isDigit = true :=
    fun n c hc => Nat.isDigit_of_mem_toDigits (by decide) (by decide) hc
  have hvalue : ∀ n : ℕ, digitsValue ((Nat.toDigits 10 n).takeWhile Char.isDigit) = n := by
    intro n
    rw [List.takeWhile_eq_self_iff.mpr (hdigits n)]
    exact Nat.ofDigitChars_ten_toDigits
  cases i with
  | ofNat n =>
    rw [Int.ofNat_eq_natCast, decimal_natCast]
    unfold signedValue
    split
    · next heq => exact absurd (hdigits n '-' (heq ▸ List.mem_cons_self ..)) (by decide)
    · next heq => exact absurd (hdigits n '+' (heq ▸ List.mem_cons_self ..)) (by decide)
    · rw [hvalue]
  | negSucc n =>
    have hminus : decimal (Int.negSucc n) = '-' :: Nat.toDigits 10 (n + 1) := by
      show ("-" ++ toString (n + 1)).toList = _
      simp
    rw [hminus]
    show -((digitsValue ((Nat.toDigits 10 (n + 1)).takeWhile Char.isDigit) : ℕ) : Int) = _
    rw [hvalue]
    rfl

/-- Only one number is printed as it is. -/
theorem decimal_injective : Function.Injective decimal :=
  Function.LeftInverse.injective signedValue_decimal

/-! ## All pieces, and lines -/

/-- What precedes the delimiter is in front of the first one. -/
theorem notMem_of_breakOn {c : Char} {s a b : Str} (h : breakOn [c] s = some (a, b)) :
    c ∉ a := by
  induction s generalizing a with
  | nil => exact absurd h (by simp [breakOn])
  | cons d s ih =>
    rw [breakOn] at h
    split at h
    · obtain ⟨rfl, -⟩ := Prod.mk.inj (Option.some.inj h)
      exact List.not_mem_nil
    · next hd =>
      obtain ⟨⟨a', b'⟩, hab, hp⟩ := Option.map_eq_some_iff.mp h
      obtain ⟨rfl, rfl⟩ := Prod.mk.inj hp
      have hcd : c ≠ d := by
        rintro rfl
        exact hd (by simp [List.isPrefixOf])
      exact List.not_mem_cons_of_ne_of_not_mem hcd (ih hab)

/-- A string is broken at the first delimiter. -/
theorem breakOn_append {c : Char} {a s : Str} (h : c ∉ a) :
    breakOn [c] (a ++ c :: s) = some (a, s) := by
  induction a with
  | nil => simp [breakOn, List.isPrefixOf]
  | cons d a ih =>
    obtain ⟨hd, ha⟩ := not_or.mp (fun hmem => h (List.mem_cons.mpr hmem))
    have hnot : ¬ ([c].isPrefixOf (d :: (a ++ c :: s)) = true) := by
      simpa [List.isPrefixOf] using hd
    rw [List.cons_append, breakOn, if_neg hnot, ih ha]
    rfl

theorem splitOn_append_cons {c : Char} {a : Str} (h : c ∉ a) (s : Str) :
    (a ++ c :: s).splitOn c = a :: s.splitOn c :=
  List.splitOnP_append_cons_of_forall_mem
    (fun d hd => beq_eq_false_iff_ne.mpr (fun hdc : d = c => h (hdc ▸ hd))) c
    (beq_self_eq_true c) s

/-- Splitting often enough is splitting everywhere. -/
theorem splitTimes_eq_splitOn {c : Char} {n : ℕ} {s : Str} (h : s.length ≤ n) :
    splitTimes [c] n s = s.splitOn c := by
  induction n generalizing s with
  | zero =>
    obtain rfl := List.length_eq_zero_iff.mp (Nat.le_zero.mp h)
    rfl
  | succ n ih =>
    rw [splitTimes]
    cases hbreak : breakOn [c] s with
    | none =>
      have hc : c ∉ s := fun hc => by
        have hsome := isSome_breakOn_singleton.mpr hc
        rw [hbreak] at hsome
        exact absurd hsome (by simp)
      exact (List.splitOn_eq_singleton hc).symm
    | some p =>
      obtain ⟨a, b⟩ := p
      have hs : s = a ++ c :: b := (eq_of_breakOn hbreak).trans (by simp)
      have hlen : s.length = a.length + (b.length + 1) := by rw [hs]; simp
      show a :: splitTimes [c] n b = _
      rw [ih (by omega), hs, splitOn_append_cons (notMem_of_breakOn hbreak)]

/-- **All pieces of a string.** -/
theorem gStrsplit_all {c : Char} {s : Str} (hs : s ≠ []) : gStrsplit s [c] 0 = s.splitOn c := by
  unfold gStrsplit
  rw [if_neg hs, if_pos rfl]
  exact splitTimes_eq_splitOn (Nat.le_refl _)

/-- The two pieces at the first delimiter. -/
theorem gStrsplit_two_append {c : Char} {a b : Str} (h : c ∉ a) :
    gStrsplit (a ++ c :: b) [c] 2 = [a, b] := by
  unfold gStrsplit
  rw [if_neg (by simp)]
  show splitTimes [c] 1 (a ++ c :: b) = [a, b]
  rw [splitTimes, breakOn_append h]
  rfl

/-- The lines of a text, each of them ended by a newline. -/
def textLines (text : Str) : List Str := (text.splitOn '\n').dropLast
