import LcdStuff.CString
import LcdStuff.Loop
import LcdStuff.LineBreaks

/-!
# Wrapping a headline onto a display

`util.c` breaks a text into display lines in two ways.
`stringbuffer_wrap_simple` cuts it every `length` characters;
`stringbuffer_wrap_spaces` cuts at the last space or after the last hyphen
that still fits, and in mid-word only where there is none.
`stringbuffer_wrap` prefers the second and falls back on the first when the
text would not fit otherwise.

Both edit a `GString` in place: they insert a newline or overwrite a space
with one, erase a space that would lead the next line, and carry a pointer
`remainder` to where the next line begins. A pointer into the string is its
offset here, also after the string has grown: where GLib keeps the characters,
and whether it moves them when one is inserted, is not modelled. The abstract
reading of a round is that the text after `remainder` loses a line and a few
spaces at its front, and `LineBreaks.Wrapped` is what that adds up to
(`exists_stringbufferWrap`).

Neither loop ends by itself when `length` is zero: a line of no characters
is cut off and nothing is consumed. The functions therefore take fuel, and
what ends and what does not is proved about them.
-/

/-! ## The functions of `util.c` -/

/-- `g_string_insert_c (str, pos, c)`: nothing happens behind the end. -/
def gStringInsertC (str : Str) (pos : ℕ) (c : Char) : Str :=
  if pos ≤ str.length then str.take pos ++ c :: str.drop pos else str

/-- `g_string_erase (str, pos, len)`: nothing happens where less is left. -/
def gStringErase (str : Str) (pos len : ℕ) : Str :=
  if pos + len ≤ str.length then str.take pos ++ str.drop (pos + len) else str

/-- The state of a wrapping loop: the string being edited, the offset of
`remainder` in it, and the number of lines cut off. -/
structure WrapState where
  /-- `new_str->str` -/
  str : Str
  /-- `remainder - new_str->str` -/
  remainder : ℕ
  /-- `cur_line` -/
  curLine : ℕ

/-- `strlen (remainder) > (size_t) length`. A negative `int` becomes a
`size_t` that no string is as long as. -/
def WrapState.exceeds (s : WrapState) (length : Int) : Prop :=
  0 ≤ length ∧ length < (s.str.drop s.remainder).length

instance (s : WrapState) (length : Int) : Decidable (s.exceeds length) :=
  inferInstanceAs (Decidable (_ ∧ _))

/-- Erase the character at `pos` if `remainder` points to a space. -/
def WrapState.eraseSpace (s : WrapState) (pos : ℕ) : WrapState :=
  if s.str[s.remainder]? = some ' ' then
    { s with str := gStringErase s.str pos 1 }
  else s

/-- One round of the loop of `stringbuffer_wrap_simple`. The loop runs only
when `length` is not negative, so the arithmetic is that of `ℕ`; `pos` is an
`int`, which is not looked at for texts that are longer than one can count. -/
def wrapSimpleBody (length : Int) (s : WrapState) : Option (WrapState ⊕ Str) :=
  if s.exceeds length then
    let pos := length.toNat * (s.curLine + 1) + s.curLine
    some (.inl (WrapState.eraseSpace
      { str := gStringInsertC s.str pos '\n'
        remainder := s.remainder + (length.toNat + 1)
        curLine := s.curLine + 1 } (pos + 1)))
  else some (.inr s.str)

/-- `stringbuffer_wrap_simple`. Its argument `maxlines` is not used. -/
def stringbufferWrapSimple (fuel : ℕ) (buffer : Str) (length : Int) : Option Str :=
  Loop.run (wrapSimpleBody length) fuel ⟨buffer, 0, 0⟩

/-- `strchr2`: where the first `a` or `b` stands. -/
def strchr2 (string : Str) (a b : Char) : Option ℕ :=
  match string.findIdx? (· == a), string.findIdx? (· == b) with
  | none, none => none
  | none, some tmp2 => some tmp2
  | some tmp1, none => some tmp1
  | some tmp1, some tmp2 => some (min tmp1 tmp2)

/-- One round of the scan for the last break that fits: `new` is the break
looked at and `old` the last one that fits. A break at a hyphen lies behind
it. -/
def wrapScanBody (str : Str) (remainder : ℕ) (length : Int) :
    Option ℕ × ℕ → Option ((Option ℕ × ℕ) ⊕ ℕ)
  | (none, old) => some (.inr old)
  | (some new, old) =>
    if (new : Int) - remainder ≤ length then
      let next := (strchr2 (str.drop (new + 1)) ' ' '-').map (· + (new + 1))
      some (.inl (next.map (fun k => if str[k]? = some '-' then k + 1 else k), new))
    else some (.inr old)

/-- What a round of `stringbuffer_wrap_spaces` does once the scan has found
the break `old`. -/
def wrapSpacesCut (length : Int) (s : WrapState) (old : ℕ) : WrapState :=
  if old = s.remainder then
    -- there is no break that fits
    { str := gStringInsertC s.str (s.remainder + length.toNat) '\n'
      remainder := s.remainder + (length.toNat + 1)
      curLine := s.curLine + 1 }
  else
    WrapState.eraseSpace
      { str := if s.str[old - 1]? = some '-' then gStringInsertC s.str old '\n'
          else s.str.set old '\n'
        remainder := old + 1
        curLine := s.curLine + 1 } (old + 1)

/-- One round of the loop of `stringbuffer_wrap_spaces`. -/
def wrapSpacesBody (fuel : ℕ) (length : Int) (s : WrapState) :
    Option (WrapState ⊕ Str) :=
  if s.exceeds length then
    (Loop.run (wrapScanBody s.str s.remainder length) fuel
      (some s.remainder, s.remainder)).map
        (fun old => .inl (wrapSpacesCut length s old))
  else some (.inr s.str)

/-- `stringbuffer_wrap_spaces`. Its argument `maxlines` is not used. -/
def stringbufferWrapSpaces (fuel : ℕ) (buffer : Str) (length : Int) : Option Str :=
  Loop.run (wrapSpacesBody fuel length) fuel ⟨buffer, 0, 0⟩

/-- The loop of `stringbuffer_get_lines`, with `tmp` at the string and `count`
lines counted. `strchr` walks to the next newline character by character, and
so does the recursion. -/
def stringbufferGetLinesFrom : Str → Int → Int
  | [], count => count + 1
  | c :: tmp, count =>
    if c = '\n' then
      -- a newline at the very end is counted back
      stringbufferGetLinesFrom tmp ((if tmp = [] then count - 1 else count) + 1)
    else stringbufferGetLinesFrom tmp count

/-- `stringbuffer_get_lines` -/
def stringbufferGetLines (buffer : Str) : Int := stringbufferGetLinesFrom buffer 0

/-- `stringbuffer_wrap`. The product and the length of the buffer are numbers
of type `int`. -/
def stringbufferWrap (fuel : ℕ) (buffer : Str) (length maxlines : Int) :
    Option Str :=
  if wrapInt (length * maxlines) < wrapInt buffer.length then
    stringbufferWrapSimple fuel buffer length
  else
    (stringbufferWrapSpaces fuel buffer length).bind (fun wrapped =>
      if stringbufferGetLines wrapped ≤ maxlines then some wrapped
      else stringbufferWrapSimple fuel buffer length)

/-- `lcd_stuff_strndup`. A negative `n` becomes a `size_t` that no string is
longer than. -/
def lcdStuffStrndup (s : Str) (n : Int) : Str :=
  if n < 0 ∨ s.length ≤ n then s else s.take n.toNat

/-- The loop of `stringbuffer_get_line`, entered with `line` and with
`next_line` at `next`; what it leaves in `line`, `ret` and `next_line`. The
round that takes `line` down to `-1` is the last one, and so is one that finds
no newline or nothing behind it. -/
def stringbufferGetLineFrom : ℕ → Str → Int × Str × Option Str
  | 0, next => (-1, next, (strchr next '\n').map List.tail)
  | line + 1, next =>
    match (strchr next '\n').map List.tail with
    | none => (line, next, none)
    | some [] => (line, next, some [])
    | some nextLine => stringbufferGetLineFrom line nextLine

/-- `stringbuffer_get_line`: line number `line` of the buffer, or `NULL`. -/
def stringbufferGetLine (buffer : Str) (line : Int) : Option Str :=
  let (line, ret, nextLine) :=
    if 0 ≤ line then stringbufferGetLineFrom line.toNat buffer
    else (line, buffer, some buffer)
  if line = -1 then
    match nextLine with
    | some next => some (lcdStuffStrndup ret ((ret.length : Int) - next.length - 1))
    | none => some ret
  else none


/-! ## The lines of a buffer -/

/-- **The counter counts the lines.** -/
theorem stringbufferGetLines_eq (buffer : Str) :
    stringbufferGetLines buffer = (LineBreaks.lines '\n' buffer).length := by
  have hfrom : ∀ (s : Str) (count : Int), stringbufferGetLinesFrom s count
      = count + (LineBreaks.lines '\n' s).length := by
    intro s
    induction s with
    | nil =>
      intro count
      rfl
    | cons c s ih =>
      intro count
      rw [stringbufferGetLinesFrom, LineBreaks.lines]
      by_cases hc : c = '\n'
      · rw [if_pos hc, if_pos hc, ih]
        by_cases hs : s = []
        · subst hs
          show count - 1 + 1 + 1 = count + 1
          omega
        · rw [if_neg hs, if_neg hs, List.length_cons]
          omega
      · rw [if_neg hc, if_neg hc, ih, List.length_modifyHead]
  rw [stringbufferGetLines, hfrom, Int.zero_add]

/-- `strchr` finds the first occurrence. -/
theorem strchr_append_cons {l : Str} {c : Char} (h : c ∉ l) (s : Str) :
    strchr (l ++ c :: s) c = some (c :: s) := by
  induction l with
  | nil => rw [List.nil_append, strchr, if_pos rfl]
  | cons d l ih =>
    rw [List.mem_cons, not_or] at h
    rw [List.cons_append, strchr, if_neg (Ne.symm h.1), ih h.2]

/-- `strchr` is `NULL` where there is no occurrence. -/
theorem strchr_of_notMem {s : Str} {c : Char} (h : c ∉ s) : strchr s c = none := by
  induction s with
  | nil => rfl
  | cons d s ih =>
    rw [List.mem_cons, not_or] at h
    rw [strchr, if_neg (Ne.symm h.1), ih h.2]

/-- The copy of a line stops in front of its newline. -/
theorem lcdStuffStrndup_append_cons (l s : Str) :
    lcdStuffStrndup (l ++ '\n' :: s)
      (((l ++ '\n' :: s).length : Int) - s.length - 1) = l := by
  have hlen : ((l ++ '\n' :: s).length : Int) - s.length - 1 = l.length := by
    simp only [List.length_append, List.length_cons]
    omega
  have hnot : ¬ ((l.length : Int) < 0 ∨ ((l ++ '\n' :: s).length : Int) ≤ l.length) := by
    simp only [List.length_append, List.length_cons]
    omega
  rw [hlen, lcdStuffStrndup, if_neg hnot, Int.toNat_natCast, List.take_left]

/-- **The extractor takes the lines that the counter counts**: line `i` of a
buffer, and `NULL` behind the last one. -/
theorem stringbufferGetLine_eq (buffer : Str) (i : ℕ) :
    stringbufferGetLine buffer i = (LineBreaks.lines '\n' buffer)[i]? := by
  unfold stringbufferGetLine
  rw [if_pos (Int.natCast_nonneg i), Int.toNat_natCast]
  induction i generalizing buffer with
  | zero =>
    by_cases hmem : '\n' ∈ buffer
    · obtain ⟨l, s, rfl, hl⟩ := List.eq_append_cons_of_mem hmem
      rw [LineBreaks.lines_append_cons _ hl, stringbufferGetLineFrom,
        strchr_append_cons hl]
      show some (lcdStuffStrndup _ _) = _
      rw [List.tail_cons, lcdStuffStrndup_append_cons]
      split <;> rfl
    · rw [LineBreaks.lines_of_notMem _ hmem, stringbufferGetLineFrom,
        strchr_of_notMem hmem]
      rfl
  | succ i ih =>
    have hne : (i : Int) ≠ -1 := by omega
    by_cases hmem : '\n' ∈ buffer
    · obtain ⟨l, s, rfl, hl⟩ := List.eq_append_cons_of_mem hmem
      rw [LineBreaks.lines_append_cons _ hl, stringbufferGetLineFrom,
        strchr_append_cons hl, Option.map_some, List.tail_cons]
      cases s with
      | nil => simp only [if_neg hne, if_true, List.getElem?_cons_succ, List.getElem?_nil]
      | cons c s =>
        rw [if_neg (List.cons_ne_nil c s), List.getElem?_cons_succ]
        exact ih (c :: s)
    · rw [LineBreaks.lines_of_notMem _ hmem, stringbufferGetLineFrom,
        strchr_of_notMem hmem]
      simp only [Option.map_none, if_neg hne]
      rfl

/-- **The counter and the extractor agree**: there is a line for every number below
the count and for no other, and the lines are the pieces between the newlines, of
which an empty one behind a final newline is none. -/
theorem stringbufferGetLine_pieces (buffer : Str) :
    (∀ i : ℕ, stringbufferGetLine buffer i ≠ none ↔ (i : Int) < stringbufferGetLines buffer)
    ∧ (List.range (stringbufferGetLines buffer).toNat).map
        (fun i : ℕ => stringbufferGetLine buffer i)
      = (LineBreaks.pieces '\n' buffer).map some := by
  rw [stringbufferGetLines_eq, ← LineBreaks.lines_eq_pieces]
  constructor
  · intro i
    rw [stringbufferGetLine_eq, ne_eq, List.getElem?_eq_none_iff, Nat.not_le, Int.ofNat_lt]
  · refine List.ext_getElem? (fun i => ?_)
    rw [Int.toNat_natCast, List.getElem?_map, List.getElem?_map]
    by_cases hi : i < (LineBreaks.lines '\n' buffer).length
    · rw [List.getElem?_range hi, Option.map_some, stringbufferGetLine_eq,
        List.getElem?_eq_getElem hi]
      rfl
    · rw [List.getElem?_eq_none (by rw [List.length_range]; omega),
        List.getElem?_eq_none (by omega)]
      rfl

/-! ## What a round consumes

A round is read as an edit of what lies behind `remainder`: with the string
split there into `done` and `rest`, it moves a line and a newline over to
`done` and drops a few spaces. -/

/-- The state in which `remainder` points to `rest`, behind `done`. -/
def WrapState.at (done rest : Str) (curLine : ℕ) : WrapState :=
  ⟨done ++ rest, done.length, curLine⟩

@[simp] theorem WrapState.str_at (done rest : Str) (n : ℕ) :
    (WrapState.at done rest n).str = done ++ rest := rfl

@[simp] theorem WrapState.remainder_at (done rest : Str) (n : ℕ) :
    (WrapState.at done rest n).remainder = done.length := rfl

@[simp] theorem WrapState.curLine_at (done rest : Str) (n : ℕ) :
    (WrapState.at done rest n).curLine = n := rfl

/-- `rest` without the space at its front. -/
def dropSpace (rest : Str) : Str := if rest[0]? = some ' ' then rest.tail else rest

/-- At most one space is dropped. -/
theorem eq_replicate_dropSpace (s : Str) :
    ∃ j ≤ 1, s = List.replicate j ' ' ++ dropSpace s := by
  unfold dropSpace
  split
  · next h =>
    cases s with
    | nil => exact absurd h (by simp)
    | cons c s =>
      obtain rfl : c = ' ' := by simpa using h
      exact ⟨1, Nat.le_refl _, rfl⟩
  · exact ⟨0, Nat.zero_le _, rfl⟩

theorem WrapState.exceeds_at_iff (done rest : Str) (n : ℕ) (length : Int) :
    (WrapState.at done rest n).exceeds length ↔ 0 ≤ length ∧ length < rest.length := by
  unfold WrapState.exceeds WrapState.at
  rw [List.drop_left]

theorem WrapState.eraseSpace_at (done rest : Str) (n : ℕ) :
    (WrapState.at done rest n).eraseSpace done.length
      = WrapState.at done (dropSpace rest) n := by
  have hhead : (done ++ rest)[done.length]? = rest[0]? := by
    rw [List.getElem?_append_right (Nat.le_refl _), Nat.sub_self]
  unfold WrapState.eraseSpace WrapState.at dropSpace
  simp only [hhead]
  by_cases h : rest[0]? = some ' '
  · rw [if_pos h, if_pos h]
    cases rest with
    | nil => exact absurd h (by simp)
    | cons c rest =>
      have hle : done.length + 1 ≤ (done ++ c :: rest).length := by
        simp only [List.length_append, List.length_cons]
        omega
      rw [gStringErase, if_pos hle, List.take_left, ← List.drop_drop, List.drop_left]
      rfl
  · rw [if_neg h, if_neg h]

/-- Inserting into `rest` leaves `done` as it is. -/
theorem gStringInsertC_append {done rest : Str} {k : ℕ} (hk : k ≤ rest.length)
    (c : Char) : gStringInsertC (done ++ rest) (done.length + k) c
      = done ++ rest.take k ++ [c] ++ rest.drop k := by
  have hle : done.length + k ≤ (done ++ rest).length := by
    rw [List.length_append]
    omega
  rw [gStringInsertC, if_pos hle, List.take_length_add_append, List.drop_append,
    List.drop_eq_nil_of_le (by omega), Nat.add_sub_cancel_left, List.nil_append,
    List.append_assoc, List.append_assoc, List.append_assoc]
  rfl

/-- **What a round has cut off**: `s` is the state behind a line of `m` to `L`
characters of `rest` and at most `g` spaces after it. -/
def Cut (m L g : ℕ) (done rest : Str) (n : ℕ) (s : WrapState) : Prop :=
  ∃ line j rest', rest = line ++ (List.replicate j ' ' ++ rest')
    ∧ m ≤ line.length ∧ line.length ≤ L ∧ j ≤ g
    ∧ s = WrapState.at (done ++ line ++ ['\n']) rest' (n + 1)

/-- The simple round cuts a full line off; `done` then consists of full lines
only, which is how `pos` comes to point behind the next one. -/
theorem wrapSimpleBody_at {L : ℕ} {done rest : Str} {n : ℕ}
    (hdone : done.length = (L + 1) * n) (hL : L < rest.length) :
    wrapSimpleBody L (WrapState.at done rest n)
      = some (.inl (WrapState.at (done ++ rest.take L ++ ['\n'])
          (dropSpace (rest.drop L)) (n + 1))) := by
  have hpos : L * (n + 1) + n = done.length + L := by
    rw [hdone, Nat.mul_add, Nat.add_mul]
    omega
  have hrem : done.length + (L + 1) = (done ++ rest.take L ++ ['\n']).length := by
    simp only [List.length_append, List.length_take, List.length_singleton]
    omega
  rw [wrapSimpleBody, if_pos ((WrapState.exceeds_at_iff ..).mpr ⟨by omega, by omega⟩)]
  refine congrArg (fun s => some (Sum.inl s)) ?_
  rw [← WrapState.eraseSpace_at]
  rw [Int.toNat_natCast]
  show WrapState.eraseSpace ⟨gStringInsertC (done ++ rest) (L * (n + 1) + n) '\n',
    done.length + (L + 1), n + 1⟩ (L * (n + 1) + n + 1) = _
  rw [hpos, gStringInsertC_append (by omega), Nat.add_assoc, hrem]
  rfl

/-- What the simple round leaves behind `remainder` is a cut of a full
line. -/
theorem cut_of_wrapSimple {L : ℕ} {done rest : Str} {n : ℕ} (hL : L < rest.length) :
    Cut L L 1 done rest n (WrapState.at (done ++ rest.take L ++ ['\n'])
      (dropSpace (rest.drop L)) (n + 1)) := by
  obtain ⟨j, hj, hrest⟩ := eq_replicate_dropSpace (rest.drop L)
  refine ⟨rest.take L, j, dropSpace (rest.drop L), ?_, ?_, ?_, hj, rfl⟩
  · rw [← hrest, List.take_append_drop]
  · rw [List.length_take]
    omega
  · exact List.length_take_le _ _

/-! ## Where a line may be broken -/

/-- `strchr2` points to one of the two characters. -/
theorem getElem?_of_strchr2 {s : Str} {a b : Char} {t : ℕ} (h : strchr2 s a b = some t) :
    s[t]? = some a ∨ s[t]? = some b := by
  have hidx : ∀ {c : Char} {t : ℕ}, s.findIdx? (· == c) = some t → s[t]? = some c := by
    intro c t ht
    obtain ⟨hlt, hc, -⟩ := List.findIdx?_eq_some_iff_getElem.mp ht
    rw [List.getElem?_eq_getElem hlt, show s[t] = c by simpa using hc]
  unfold strchr2 at h
  split at h
  · exact absurd h (by simp)
  · next h₂ =>
    obtain rfl := Option.some.inj h
    exact .inr (hidx h₂)
  · next h₁ _ =>
    obtain rfl := Option.some.inj h
    exact .inl (hidx h₁)
  · next h₁ h₂ =>
    obtain rfl := Option.some.inj h
    rcases Nat.le_total _ _ with hle | hle
    · rw [Nat.min_eq_left hle]
      exact .inl (hidx h₁)
    · rw [Nat.min_eq_right hle]
      exact .inr (hidx h₂)

/-- **A break of the text**: its beginning, or behind a hyphen, or at a
space. -/
def IsBreak (rest : Str) (k : ℕ) : Prop :=
  k = 0 ∨ rest[k - 1]? = some '-' ∨ rest[k]? = some ' '

/-- The scan goes from one break of the text to a later one. -/
theorem isBreak_next {done rest : Str} {k next : ℕ}
    (h : ((strchr2 ((done ++ rest).drop (done.length + k + 1)) ' ' '-').map
        (· + (done.length + k + 1))).map
          (fun i => if (done ++ rest)[i]? = some '-' then i + 1 else i) = some next) :
    ∃ k', k < k' ∧ k' ≤ rest.length ∧ next = done.length + k' ∧ IsBreak rest k' := by
  have hdrop : (done ++ rest).drop (done.length + k + 1) = rest.drop (k + 1) := by
    rw [List.drop_append, List.drop_eq_nil_of_le (by omega), List.nil_append]
    congr 1
    omega
  rw [hdrop, Option.map_map] at h
  obtain ⟨t, ht, hnext⟩ := Option.map_eq_some_iff.mp h
  have hchar := getElem?_of_strchr2 ht
  rw [List.getElem?_drop] at hchar
  have hlt : k + 1 + t < rest.length := by
    by_contra hge
    rw [List.getElem?_eq_none (by omega)] at hchar
    rcases hchar with hchar | hchar <;> exact absurd hchar (by simp)
  have hstr : (done ++ rest)[t + (done.length + k + 1)]? = rest[k + 1 + t]? := by
    rw [List.getElem?_append_right (by omega)]
    congr 1
    omega
  simp only [Function.comp_apply, hstr] at hnext
  by_cases hyphen : rest[k + 1 + t]? = some '-'
  · rw [if_pos hyphen] at hnext
    exact ⟨k + 1 + t + 1, by omega, by omega, by omega, .inr (.inl hyphen)⟩
  · rw [if_neg hyphen] at hnext
    exact ⟨k + 1 + t, by omega, by omega, by omega,
      .inr (.inr (hchar.resolve_right hyphen))⟩

/-- What the scan keeps: `old` is a break that fits, and `new` is a break. -/
def ScanInv (L : ℕ) (done rest : Str) (p : Option ℕ × ℕ) : Prop :=
  (∃ k ≤ L, p.2 = done.length + k ∧ IsBreak rest k)
    ∧ ∀ new, p.1 = some new →
      ∃ k ≤ rest.length, new = done.length + k ∧ IsBreak rest k

/-- What is left to scan. -/
def scanLeft (done rest : Str) (p : Option ℕ × ℕ) : ℕ :=
  match p.1 with
  | none => 0
  | some new => (done ++ rest).length + 1 - new

/-- **A round of the scan** ends it at a break that fits, or moves on. -/
theorem wrapScanBody_step {L : ℕ} {done rest : Str} {p : Option ℕ × ℕ}
    (hp : ScanInv L done rest p) :
    (∃ old, wrapScanBody (done ++ rest) done.length L p = some (.inr old)
        ∧ ∃ k ≤ L, old = done.length + k ∧ IsBreak rest k)
      ∨ ∃ p', wrapScanBody (done ++ rest) done.length L p = some (.inl p')
        ∧ ScanInv L done rest p' ∧ scanLeft done rest p' < scanLeft done rest p := by
  obtain ⟨new, old⟩ := p
  cases new with
  | none => exact .inl ⟨old, rfl, hp.1⟩
  | some new =>
    by_cases hfits : (new : Int) - (done.length : ℕ) ≤ (L : ℕ)
    · obtain ⟨k, hk, rfl, hbreak⟩ := hp.2 new rfl
      refine .inr ⟨_, by rw [wrapScanBody, if_pos hfits], ⟨?_, ?_⟩, ?_⟩
      · exact ⟨k, by omega, rfl, hbreak⟩
      · intro next hnext
        obtain ⟨k', _, hle, hk', hbreak'⟩ := isBreak_next hnext
        exact ⟨k', hle, hk', hbreak'⟩
      · show scanLeft done rest (Option.map _ _, _) < (done ++ rest).length + 1 - _
        rw [scanLeft]
        split
        · rw [List.length_append]
          omega
        · next next hnext =>
          obtain ⟨k', hlt, hle, rfl, _⟩ := isBreak_next hnext
          rw [List.length_append]
          omega
    · exact .inl ⟨old, by rw [wrapScanBody, if_neg hfits], hp.1⟩

theorem scanInv_start (L : ℕ) (done rest : Str) :
    ScanInv L done rest (some done.length, done.length) :=
  ⟨⟨0, Nat.zero_le _, rfl, .inl rfl⟩, fun _ h => ⟨0, Nat.zero_le _,
    (Option.some.inj h).symm, .inl rfl⟩⟩

/-- **The scan ends**, with fuel for the text it looks at. -/
theorem exists_wrapScan (L : ℕ) (done rest : Str) {fuel : ℕ}
    (hfuel : rest.length + 1 < fuel) :
    ∃ old, Loop.run (wrapScanBody (done ++ rest) done.length L) fuel
      (some done.length, done.length) = some old := by
  have hleft : scanLeft done rest (some done.length, done.length) < fuel := by
    show (done ++ rest).length + 1 - done.length < fuel
    rw [List.length_append]
    omega
  obtain ⟨old, hold, _⟩ := Loop.exists_run_of_variant (ScanInv L done rest)
    (scanLeft done rest) _ (fun _ => wrapScanBody_step) (scanInv_start L done rest) hleft
  exact ⟨old, hold⟩

/-- **The scan finds a break that fits.** -/
theorem isBreak_of_wrapScan {L : ℕ} {done rest : Str} {fuel old : ℕ}
    (h : Loop.run (wrapScanBody (done ++ rest) done.length L) fuel
      (some done.length, done.length) = some old) :
    ∃ k ≤ L, old = done.length + k ∧ IsBreak rest k :=
  Loop.post_of_variant (ScanInv L done rest) (scanLeft done rest)
    (fun old => ∃ k ≤ L, old = done.length + k ∧ IsBreak rest k)
    (fun _ => wrapScanBody_step) (scanInv_start L done rest) h

/-- The line that ends in front of the `k`-th character. -/
theorem length_done_take {done rest : Str} {k : ℕ} (hk : k ≤ rest.length) :
    (done ++ rest.take k ++ ['\n']).length = done.length + k + 1 := by
  simp only [List.length_append, List.length_take, List.length_singleton]
  omega

/-- Where no break fits, the line is cut off in mid-word. -/
theorem wrapSpacesCut_word {L : ℕ} {done rest : Str} (n : ℕ) (hL : L ≤ rest.length) :
    wrapSpacesCut L (WrapState.at done rest n) done.length
      = WrapState.at (done ++ rest.take L ++ ['\n']) (rest.drop L) (n + 1) := by
  unfold wrapSpacesCut
  simp only [WrapState.str_at, WrapState.remainder_at, WrapState.curLine_at, if_true,
    Int.toNat_natCast]
  rw [gStringInsertC_append hL, WrapState.at, length_done_take hL, Nat.add_assoc]

/-- Behind a hyphen the newline is put in. -/
theorem wrapSpacesCut_hyphen {L k : ℕ} {done rest : Str} (n : ℕ) (hk : 0 < k)
    (hle : k ≤ rest.length) (hyphen : rest[k - 1]? = some '-') :
    wrapSpacesCut L (WrapState.at done rest n) (done.length + k)
      = WrapState.at (done ++ rest.take k ++ ['\n']) (dropSpace (rest.drop k)) (n + 1) := by
  have hprev : (done ++ rest)[done.length + k - 1]? = some '-' := by
    rw [List.getElem?_append_right (by omega), ← hyphen]
    congr 1
    omega
  have hne : done.length + k ≠ done.length := by omega
  unfold wrapSpacesCut
  simp only [WrapState.str_at, WrapState.remainder_at, WrapState.curLine_at, if_neg hne,
    hprev, if_true]
  rw [← WrapState.eraseSpace_at, WrapState.at, length_done_take hle,
    gStringInsertC_append hle]

/-- A newline takes the place of a character. -/
theorem set_newline {done rest : Str} {k : ℕ} (hlt : k < rest.length) :
    (done ++ rest).set (done.length + k) '\n'
      = done ++ rest.take k ++ ['\n'] ++ rest.drop (k + 1) := by
  rw [List.set_append_right _ _ (by omega), Nat.add_sub_cancel_left,
    List.set_eq_take_append_cons_drop, if_pos hlt, List.append_assoc, List.append_assoc]
  rfl

/-- At a space the newline takes its place. -/
theorem wrapSpacesCut_space {L k : ℕ} {done rest : Str} (n : ℕ) (hk : 0 < k)
    (hyphen : rest[k - 1]? ≠ some '-') (hlt : k < rest.length) :
    wrapSpacesCut L (WrapState.at done rest n) (done.length + k)
      = WrapState.at (done ++ rest.take k ++ ['\n'])
          (dropSpace (rest.drop (k + 1))) (n + 1) := by
  have hprev : (done ++ rest)[done.length + k - 1]? ≠ some '-' := by
    rw [List.getElem?_append_right (by omega)]
    convert hyphen using 2
    omega
  have hne : done.length + k ≠ done.length := by omega
  unfold wrapSpacesCut
  simp only [WrapState.str_at, WrapState.remainder_at, WrapState.curLine_at, hne, hprev,
    if_false]
  rw [← WrapState.eraseSpace_at, WrapState.at, length_done_take (by omega), set_newline hlt]

/-- **The cut at a break**: whatever break was found, a line of one to `L`
characters is cut off, and no more than the space it is broken at and one
after it. -/
theorem cut_of_wrapSpaces {L : ℕ} {done rest : Str} {n k : ℕ} (hL : 1 ≤ L)
    (hrest : L < rest.length) (hk : k ≤ L) (hbreak : IsBreak rest k) :
    Cut 1 L 2 done rest n
      (wrapSpacesCut L (WrapState.at done rest n) (done.length + k)) := by
  rcases Nat.eq_zero_or_pos k with rfl | hpos
  · exact ⟨rest.take L, 0, rest.drop L, (List.take_append_drop L rest).symm,
      by rw [List.length_take]; omega, List.length_take_le _ _, Nat.zero_le _,
      wrapSpacesCut_word n (by omega)⟩
  · have htake : (rest.take k).length = k := by
      rw [List.length_take]
      omega
    by_cases hyphen : rest[k - 1]? = some '-'
    · obtain ⟨j, hj, hspaces⟩ := eq_replicate_dropSpace (rest.drop k)
      refine ⟨rest.take k, j, dropSpace (rest.drop k), ?_, by omega, by omega, by omega,
        wrapSpacesCut_hyphen n hpos (by omega) hyphen⟩
      rw [← hspaces, List.take_append_drop]
    · have hspace : rest[k]? = some ' ' :=
        (hbreak.resolve_left (by omega)).resolve_left hyphen
      obtain ⟨hlt, hget⟩ := List.getElem?_eq_some_iff.mp hspace
      obtain ⟨j, hj, hspaces⟩ := eq_replicate_dropSpace (rest.drop (k + 1))
      refine ⟨rest.take k, j + 1, dropSpace (rest.drop (k + 1)), ?_, by omega, by omega,
        by omega, wrapSpacesCut_space n hpos hyphen hlt⟩
      rw [List.replicate_succ, List.cons_append, ← hspaces, ← hget,
        ← List.drop_eq_getElem_cons hlt, List.take_append_drop]

/-! ## What the loops add up to -/

/-- **A loop that cuts lines off wraps its text**, and ends: every round
leaves less behind `remainder`. -/
theorem exists_wrapped_of_cuts {m L g : ℕ} (hm : 1 ≤ m)
    {body : WrapState → Option (WrapState ⊕ Str)} (J : WrapState → Prop) {buffer : Str}
    (hfits : ∀ done rest n, rest.length ≤ L →
      body (WrapState.at done rest n) = some (.inr (done ++ rest)))
    (hcut : ∀ done rest n, J (WrapState.at done rest n) → L < rest.length →
      rest.length ≤ buffer.length →
      ∃ s, body (WrapState.at done rest n) = some (.inl s) ∧ J s
        ∧ Cut m L g done rest n s)
    (hJ : J (WrapState.at [] buffer 0)) {fuel : ℕ} (hfuel : buffer.length < fuel) :
    ∃ t, Loop.run body fuel (WrapState.at [] buffer 0) = some t
      ∧ LineBreaks.Wrapped '\n' ' ' m L g buffer t := by
  -- what is in front of `remainder` is the wrapped text of what was there,
  -- however the rest is wrapped
  refine Loop.exists_run_of_variant
    (fun s => J s ∧ ∃ done rest n, s = WrapState.at done rest n
      ∧ rest.length ≤ buffer.length
      ∧ ∀ u, LineBreaks.Wrapped '\n' ' ' m L g rest u →
        LineBreaks.Wrapped '\n' ' ' m L g buffer (done ++ u))
    (fun s => (s.str.drop s.remainder).length) _ ?_ ?_ hfuel
  · rintro s ⟨hs, done, rest, n, rfl, hle, hpre⟩
    by_cases hfit : rest.length ≤ L
    · exact .inl ⟨_, hfits done rest n hfit, hpre rest (.last hfit)⟩
    · obtain ⟨s', hbody, hs', line, j, rest', hrest, hline, hL, hj, rfl⟩ :=
        hcut done rest n hs (by omega) hle
      have hlen : rest.length = line.length + (j + rest'.length) := by
        rw [hrest, List.length_append, List.length_append, List.length_replicate]
      refine .inr ⟨_, hbody, ⟨hs', _, rest', n + 1, rfl, by omega, fun u hu => ?_⟩, ?_⟩
      · have hcut : LineBreaks.Wrapped '\n' ' ' m L g rest (line ++ '\n' :: u) := by
          rw [hrest]
          exact .brk hline hL hj hu
        rw [List.append_assoc, List.append_assoc]
        exact hpre _ hcut
      · rw [WrapState.str_at, WrapState.remainder_at, List.drop_left, WrapState.str_at,
          WrapState.remainder_at, List.drop_left]
        omega
  · exact ⟨hJ, [], buffer, 0, rfl, Nat.le_refl _, fun u hu => hu⟩

/-- What fits is left as it is. -/
theorem not_exceeds_at {L : ℕ} {done rest : Str} {n : ℕ} (h : rest.length ≤ L) :
    ¬ (WrapState.at done rest n).exceeds L := by
  rw [WrapState.exceeds_at_iff]
  omega

/-- **`stringbuffer_wrap_simple` ends and wraps**: lines of exactly `L`
characters, with at most one space dropped after each. -/
theorem exists_stringbufferWrapSimple {L : ℕ} (hL : 1 ≤ L) {buffer : Str} {fuel : ℕ}
    (hfuel : buffer.length < fuel) :
    ∃ t, stringbufferWrapSimple fuel buffer L = some t
      ∧ LineBreaks.Wrapped '\n' ' ' L L 1 buffer t := by
  refine exists_wrapped_of_cuts hL (fun s => s.remainder = (L + 1) * s.curLine)
    (fun done rest n h => ?_) (fun done rest n hJ h _ => ?_) rfl hfuel
  · rw [wrapSimpleBody, if_neg (not_exceeds_at h)]
    rfl
  · have hdone : done.length = (L + 1) * n := hJ
    refine ⟨_, wrapSimpleBody_at hdone h, ?_, cut_of_wrapSimple h⟩
    rw [WrapState.remainder_at, WrapState.curLine_at, length_done_take (by omega),
      Nat.mul_succ, hdone, Nat.add_assoc]

/-- **`stringbuffer_wrap_spaces` ends and wraps**: lines of at most `L`
characters, with at most two spaces dropped after each. -/
theorem exists_stringbufferWrapSpaces {L : ℕ} (hL : 1 ≤ L) {buffer : Str} {fuel : ℕ}
    (hfuel : buffer.length + 1 < fuel) :
    ∃ t, stringbufferWrapSpaces fuel buffer L = some t
      ∧ LineBreaks.Wrapped '\n' ' ' 1 L 2 buffer t := by
  refine exists_wrapped_of_cuts (Nat.le_refl 1) (fun _ => True)
    (fun done rest n h => ?_) (fun done rest n _ h hle => ?_) trivial (by omega)
  · rw [wrapSpacesBody, if_neg (not_exceeds_at h)]
    rfl
  · obtain ⟨old, hold⟩ := exists_wrapScan L done rest (show rest.length + 1 < fuel by omega)
    obtain ⟨k, hk, rfl, hbreak⟩ := isBreak_of_wrapScan hold
    refine ⟨_, ?_, trivial, cut_of_wrapSpaces hL h hk hbreak⟩
    rw [wrapSpacesBody, if_pos ((WrapState.exceeds_at_iff ..).mpr ⟨by omega, by omega⟩)]
    exact congrArg (Option.map _) hold

/-- More fuel never changes what `stringbuffer_wrap` returns. -/
theorem stringbufferWrap_mono {fuel fuel' : ℕ} (h : fuel ≤ fuel') {buffer t : Str}
    {length maxlines : Int} (ht : stringbufferWrap fuel buffer length maxlines = some t) :
    stringbufferWrap fuel' buffer length maxlines = some t := by
  have hsimple : ∀ {u}, stringbufferWrapSimple fuel buffer length = some u →
      stringbufferWrapSimple fuel' buffer length = some u :=
    fun hu => Loop.run_mono (fun _ _ e => e) h hu
  have hspaces : ∀ {u}, stringbufferWrapSpaces fuel buffer length = some u →
      stringbufferWrapSpaces fuel' buffer length = some u := by
    refine fun hu => Loop.run_mono (fun s r hr => ?_) h hu
    unfold wrapSpacesBody at hr ⊢
    split at hr
    · next hexceeds =>
      obtain ⟨old, hold, rfl⟩ := Option.map_eq_some_iff.mp hr
      rw [if_pos hexceeds]
      exact congrArg (Option.map _) (Loop.run_mono (fun _ _ e => e) h hold)
    · next hexceeds =>
      rw [if_neg hexceeds]
      exact hr
  unfold stringbufferWrap at ht ⊢
  split at ht
  · next hshort =>
    rw [if_pos hshort]
    exact hsimple ht
  · next hshort =>
    obtain ⟨wrapped, hwrapped, hrest⟩ := Option.bind_eq_some_iff.mp ht
    rw [if_neg hshort, hspaces hwrapped, Option.bind_some]
    split at hrest
    · next hlines =>
      rw [if_pos hlines]
      exact hrest
    · next hlines =>
      rw [if_neg hlines]
      exact hsimple hrest

/-- **What is returned** is what one of the two functions returns, and it is the text
as that function wraps it. -/
theorem exists_stringbufferWrap_variant {L : ℕ} (hL : 1 ≤ L) (maxlines : Int) {buffer : Str}
    {fuel : ℕ} (hfuel : buffer.length + 1 < fuel) :
    ∃ t, stringbufferWrap fuel buffer L maxlines = some t
      ∧ (stringbufferWrapSimple fuel buffer L = some t
          ∧ LineBreaks.Wrapped '\n' ' ' L L 1 buffer t
        ∨ stringbufferWrapSpaces fuel buffer L = some t
          ∧ LineBreaks.Wrapped '\n' ' ' 1 L 2 buffer t ∧ stringbufferGetLines t ≤ maxlines) := by
  obtain ⟨simple, hsimple, hwrapped⟩ :=
    exists_stringbufferWrapSimple hL (show buffer.length < fuel by omega)
  obtain ⟨wrapped, hspaces, hwrapped'⟩ := exists_stringbufferWrapSpaces hL hfuel
  unfold stringbufferWrap
  rw [hspaces, Option.bind_some]
  split
  · exact ⟨simple, hsimple, .inl ⟨hsimple, hwrapped⟩⟩
  · split
    · next hfit => exact ⟨wrapped, rfl, .inr ⟨rfl, hwrapped', hfit⟩⟩
    · exact ⟨simple, hsimple, .inl ⟨hsimple, hwrapped⟩⟩

/-- **`stringbuffer_wrap` wraps.** For a positive line length it ends, its
result is the text cut into lines of that length at most, and a text without
newlines that fits into `maxlines` full lines is cut into no more. -/
theorem exists_stringbufferWrap {L : ℕ} (hL : 1 ≤ L) {maxlines : ℕ}
    (hmax : 1 ≤ maxlines) {buffer : Str} {fuel : ℕ} (hfuel : buffer.length + 1 < fuel) :
    ∃ t, stringbufferWrap fuel buffer L maxlines = some t
      ∧ LineBreaks.Wrapped '\n' ' ' 1 L 2 buffer t
      ∧ ('\n' ∉ buffer → buffer.length ≤ L * maxlines →
        (LineBreaks.lines '\n' t).length ≤ maxlines) := by
  obtain ⟨t, ht, ⟨-, hwrapped⟩ | ⟨-, hwrapped, hfit⟩⟩ :=
    exists_stringbufferWrap_variant hL maxlines hfuel
  · exact ⟨t, ht, hwrapped.mono hL (by omega : 1 ≤ 2),
      fun hnl hlen => hwrapped.length_lines_le hnl hL hmax hlen⟩
  · refine ⟨t, ht, hwrapped, fun _ _ => ?_⟩
    rw [stringbufferGetLines_eq] at hfit
    omega

/-- **No line of the result is too long**, whatever newlines, hyphens and spaces the
text has. -/
theorem length_le_of_stringbufferWrap {L : ℕ} (hL : 1 ≤ L) (maxlines : Int) (buffer : Str)
    {fuel : ℕ} (hfuel : buffer.length + 1 < fuel) :
    ∃ t, stringbufferWrap fuel buffer L maxlines = some t
      ∧ ∀ line ∈ t.splitOn '\n', line.length ≤ L := by
  obtain ⟨t, ht, ⟨-, hwrapped⟩ | ⟨-, hwrapped, -⟩⟩ :=
    exists_stringbufferWrap_variant hL maxlines hfuel
  · exact ⟨t, ht, hwrapped.length_le_of_mem_splitOn⟩
  · exact ⟨t, ht, hwrapped.length_le_of_mem_splitOn⟩

theorem length_le_of_stringbufferWrap_three :
    ∃ t, stringbufferWrap 12 "a-b  c\nde".toList (3 : ℕ) 2 = some t
      ∧ ∀ line ∈ t.splitOn '\n', line.length ≤ 3 :=
  length_le_of_stringbufferWrap (by decide) 2 _ (by decide)

/-- **Nothing but line breaks is added**: some of the newlines of the result stand for
at most two spaces each, in lines of a fixed width for at most one, and the rest of
it is the text as it was. -/
theorem broken_of_stringbufferWrap {L : ℕ} (hL : 1 ≤ L) (maxlines : Int) (buffer : Str)
    {fuel : ℕ} (hfuel : buffer.length + 1 < fuel) :
    ∃ t, stringbufferWrap fuel buffer L maxlines = some t
      ∧ (stringbufferWrapSimple fuel buffer L = some t
          ∧ LineBreaks.Broken '\n' ' ' 1 buffer t
        ∨ stringbufferWrapSpaces fuel buffer L = some t
          ∧ LineBreaks.Broken '\n' ' ' 2 buffer t) := by
  obtain ⟨t, ht, h⟩ := exists_stringbufferWrap_variant hL maxlines hfuel
  exact ⟨t, ht, h.imp (And.imp_right fun hwrapped => hwrapped.broken)
    (And.imp_right fun hwrapped => hwrapped.1.broken)⟩

theorem broken_of_stringbufferWrap_three :
    ∃ t, stringbufferWrap 12 "a-b  c\nde".toList (3 : ℕ) 4 = some t
      ∧ (stringbufferWrapSimple 12 "a-b  c\nde".toList (3 : ℕ) = some t
          ∧ LineBreaks.Broken '\n' ' ' 1 "a-b  c\nde".toList t
        ∨ stringbufferWrapSpaces 12 "a-b  c\nde".toList (3 : ℕ) = some t
          ∧ LineBreaks.Broken '\n' ' ' 2 "a-b  c\nde".toList t) :=
  broken_of_stringbufferWrap (by decide) 4 _ (by decide)

example : stringbufferWrap 17 "news of the day".toList 7 3
    = some "news of\nthe day".toList := by decide +kernel

/-! ## Lines of no characters

With `length` zero a round cuts off an empty line. The simple loop then
consumes only the spaces it erases, and the other one nothing at all. -/

/-- What is not a space stays behind `remainder`. -/
theorem mem_dropSpace {c : Char} {s : Str} (hc : c ∈ s) (hne : c ≠ ' ') :
    c ∈ dropSpace s := by
  obtain ⟨j, _, hs⟩ := eq_replicate_dropSpace s
  rw [hs] at hc
  rcases List.mem_append.mp hc with hc | hc
  · exact absurd (List.eq_of_mem_replicate hc) hne
  · exact hc

/-- `stringbuffer_wrap_simple` with `length` zero never ends when something
other than a space is in the text. -/
theorem stringbufferWrapSimple_zero_eq_none {buffer : Str} {c : Char} (hc : c ∈ buffer)
    (hne : c ≠ ' ') (fuel : ℕ) : stringbufferWrapSimple fuel buffer 0 = none := by
  refine Loop.run_eq_none (fun s => ∃ done rest n, s = WrapState.at done rest n
    ∧ done.length = (0 + 1) * n ∧ c ∈ rest) ?_ ⟨[], buffer, 0, rfl, rfl, hc⟩ fuel
  rintro s ⟨done, rest, n, rfl, hdone, hrest⟩
  refine .inr ⟨_, wrapSimpleBody_at hdone (List.length_pos_of_mem hrest),
    _, _, _, rfl, ?_, mem_dropSpace hrest hne⟩
  rw [length_done_take (Nat.zero_le _), hdone]
  omega

/-- `stringbuffer_wrap_simple` with `length` zero ends on spaces: each is
erased. -/
theorem exists_stringbufferWrapSimple_zero {buffer : Str} (h : ∀ c ∈ buffer, c = ' ')
    {fuel : ℕ} (hfuel : buffer.length < fuel) :
    ∃ t, stringbufferWrapSimple fuel buffer 0 = some t := by
  have hrun := @Loop.exists_run_of_variant _ _ (wrapSimpleBody 0)
    (fun s => ∃ done rest n, s = WrapState.at done rest n
      ∧ done.length = (0 + 1) * n ∧ ∀ c ∈ rest, c = ' ')
    (fun s => (s.str.drop s.remainder).length) (fun _ => True) ?_ fuel _
    ⟨[], buffer, 0, rfl, rfl, h⟩ hfuel
  · obtain ⟨t, ht, _⟩ := hrun
    exact ⟨t, ht⟩
  · rintro s ⟨done, rest, n, rfl, hdone, hrest⟩
    cases rest with
    | nil =>
      have hnot : ¬ (WrapState.at done [] n).exceeds 0 :=
        not_exceeds_at (L := 0) (show ([] : Str).length ≤ 0 from Nat.le_refl 0)
      exact .inl ⟨_, by rw [wrapSimpleBody, if_neg hnot], trivial⟩
    | cons c rest =>
      obtain rfl : c = ' ' := hrest c (List.mem_cons_self ..)
      refine .inr ⟨_, wrapSimpleBody_at hdone (Nat.succ_pos _), ⟨_, _, _, rfl, ?_, ?_⟩, ?_⟩
      · rw [length_done_take (Nat.zero_le _), hdone]
        omega
      · exact fun d hd => hrest d (List.mem_cons_of_mem _ hd)
      · rw [WrapState.str_at, WrapState.remainder_at, List.drop_left, WrapState.str_at,
          WrapState.remainder_at, List.drop_left]
        exact Nat.lt_succ_self _

/-- `stringbuffer_wrap_spaces` with `length` zero never ends on a text that is
not empty: no break fits. -/
theorem stringbufferWrapSpaces_zero_eq_none {buffer : Str} (h : buffer ≠ []) (fuel : ℕ) :
    stringbufferWrapSpaces fuel buffer 0 = none := by
  refine Loop.run_eq_none (fun s => ∃ done n, s = WrapState.at done buffer n) ?_
    ⟨[], 0, rfl⟩ fuel
  rintro s ⟨done, n, rfl⟩
  have hpos := List.length_pos_of_ne_nil h
  rw [wrapSpacesBody, if_pos ((WrapState.exceeds_at_iff ..).mpr ⟨by omega, by omega⟩)]
  cases hscan : Loop.run (wrapScanBody (WrapState.at done buffer n).str
      (WrapState.at done buffer n).remainder 0) fuel
      (some (WrapState.at done buffer n).remainder,
        (WrapState.at done buffer n).remainder) with
  | none => exact .inl rfl
  | some old =>
    obtain ⟨k, hk, rfl, _⟩ := isBreak_of_wrapScan (L := 0) hscan
    obtain rfl : k = 0 := by omega
    exact .inr ⟨_, rfl, _, _, wrapSpacesCut_word (L := 0) n (Nat.zero_le _)⟩

/-- A line length below zero is one that no text exceeds. -/
theorem stringbufferWrap_of_neg {length : Int} (h : length < 0) (buffer : Str)
    (maxlines : Int) : stringbufferWrap 1 buffer length maxlines = some buffer := by
  have hnot : ∀ s : WrapState, ¬ s.exceeds length := fun s hs => by
    have := hs.1
    omega
  have hsimple : stringbufferWrapSimple 1 buffer length = some buffer :=
    Loop.run_of_inr (by rw [wrapSimpleBody, if_neg (hnot _)]) 0
  have hspaces : stringbufferWrapSpaces 1 buffer length = some buffer :=
    Loop.run_of_inr (by rw [wrapSpacesBody, if_neg (hnot _)]) 0
  unfold stringbufferWrap
  rw [hsimple, hspaces, Option.bind_some]
  split
  · rfl
  · split <;> rfl

/-- **When `stringbuffer_wrap` ends**: for every line length but zero, and for
that one on the empty text and on a text of spaces whose length is a positive
`int`. -/
theorem exists_stringbufferWrap_iff (buffer : Str) (length : Int) {maxlines : ℕ}
    (hmax : 1 ≤ maxlines) :
    (∃ fuel t, stringbufferWrap fuel buffer length maxlines = some t)
      ↔ length ≠ 0 ∨ buffer = []
        ∨ (0 < wrapInt buffer.length ∧ ∀ c ∈ buffer, c = ' ') := by
  constructor
  · rintro ⟨fuel, t, ht⟩
    by_cases hlen : length = 0
    · subst hlen
      refine .inr ?_
      by_cases hnil : buffer = []
      · exact .inl hnil
      · refine .inr ?_
        unfold stringbufferWrap at ht
        rw [Int.zero_mul, show wrapInt 0 = 0 by decide] at ht
        by_cases hpos : 0 < wrapInt buffer.length
        · refine ⟨hpos, fun c hc => ?_⟩
          rw [if_pos hpos] at ht
          by_contra hne
          rw [stringbufferWrapSimple_zero_eq_none hc hne] at ht
          exact absurd ht (by simp)
        · rw [if_neg hpos, stringbufferWrapSpaces_zero_eq_none hnil] at ht
          exact absurd ht (by simp)
    · exact .inl hlen
  · intro h
    rcases Int.lt_trichotomy length 0 with hneg | rfl | hpos
    · exact ⟨1, buffer, stringbufferWrap_of_neg hneg buffer maxlines⟩
    · rcases h with h | rfl | ⟨hpos, hspaces⟩
      · exact absurd rfl h
      · refine ⟨1, [], ?_⟩
        have hle : stringbufferGetLines [] ≤ (maxlines : Int) := by
          show (1 : Int) ≤ maxlines
          omega
        show (if wrapInt (0 * (maxlines : Int)) < wrapInt 0 then _ else
          (if stringbufferGetLines [] ≤ (maxlines : Int) then some [] else _)) = _
        rw [Int.zero_mul, if_neg (by decide), if_pos hle]
      · obtain ⟨t, ht⟩ := exists_stringbufferWrapSimple_zero hspaces (Nat.lt_succ_self _)
        refine ⟨buffer.length + 1, t, ?_⟩
        rw [stringbufferWrap, Int.zero_mul, show wrapInt 0 = 0 by decide, if_pos hpos]
        exact ht
    · obtain ⟨L, rfl⟩ := Int.eq_ofNat_of_zero_le (Int.le_of_lt hpos)
      obtain ⟨t, ht, _⟩ := exists_stringbufferWrap (L := L) (by omega) hmax
        (Nat.lt_succ_self (buffer.length + 1))
      exact ⟨_, t, ht⟩
