import LcdStuff.Heap
import LcdStuff.Wrap

/-!
# Wrapping in the memory

A `GString` has its characters in a block of its own, and GLib allocates that block anew when a
character is put in and there is no room for it. Then the characters may be somewhere else
afterwards. Both functions that wrap keep a pointer into them, `remainder`, while they put newlines
in, and go on with it.

Here the two functions are written once more, with the `GString` and its characters as blocks of a
heap and `remainder` as a pointer into one of them. Which newlines move the characters is left to
GLib: it is an argument. As long as none does, the functions do what they do to the strings; and the
first that does leaves a pointer to what was freed, which is read at once or a round later
(`GStringMemory.isSome_stringbufferWrapAt_iff`).
-/

/-- **What is allocated for a `GString`.** -/
inductive GStringBlock where
  /-- The `GString`, with the address of its characters. -/
  | gstring (str : ℕ)
  /-- The characters. -/
  | chars (s : Str)
  deriving DecidableEq, Repr

/-- A pointer to a character. -/
structure CharPtr where
  /-- The block. -/
  block : ℕ
  /-- The place in it. -/
  offset : ℕ
  deriving DecidableEq, Repr

/-- The state of a wrapping loop. -/
structure WrapMemory where
  /-- The memory. -/
  heap : Heap GStringBlock
  /-- `remainder` -/
  remainder : CharPtr
  /-- `cur_line` -/
  curLine : ℕ
  /-- How often a character was put in. -/
  inserted : ℕ

namespace GStringMemory

/-! ## The functions -/

/-- `str` -/
def strAt (h : Heap GStringBlock) (p : ℕ) : Option ℕ := do
  match ← h.read p with
  | .gstring str => some str
  | _ => none

/-- The characters at an address. -/
def charsAt (h : Heap GStringBlock) (p : ℕ) : Option Str := do
  match ← h.read p with
  | .chars s => some s
  | _ => none

/-- The string that a pointer points to. -/
def textAt (h : Heap GStringBlock) (p : CharPtr) : Option Str := do
  let s ← charsAt h p.block
  if p.offset ≤ s.length then some (s.drop p.offset) else none

/-- `p - str`, for a pointer into these characters -/
def minus (p : CharPtr) (str : ℕ) : Option ℕ :=
  if p.block = str then some p.offset else none

/-- `g_string_new` -/
def gStringNew (h : Heap GStringBlock) (init : Str) : ℕ × Heap GStringBlock :=
  let (str, h) := h.malloc (.chars init)
  h.malloc (.gstring str)

/-- `g_string_free (string, true)` -/
def gStringFree (h : Heap GStringBlock) (string : ℕ) : Option (Heap GStringBlock) := do
  let h ← h.free (← strAt h string)
  h.free string

/-- `g_string_insert_c`, which moves the characters or does not. -/
def gStringInsertCAt (moved : Bool) (h : Heap GStringBlock) (string pos : ℕ) (c : Char) :
    Option (Heap GStringBlock) := do
  let str ← strAt h string
  let s ← charsAt h str
  if s.length < pos then some h
  else if moved then do
    let (str', h) := h.malloc (.chars (gStringInsertC s pos c))
    let h ← h.free str
    h.write string (.gstring str')
  else h.write str (.chars (gStringInsertC s pos c))

/-- `g_string_erase` -/
def gStringEraseAt (h : Heap GStringBlock) (string pos len : ℕ) : Option (Heap GStringBlock) := do
  let str ← strAt h string
  h.write str (.chars (gStringErase (← charsAt h str) pos len))

/-- Erase the character at `pos` if `remainder` points to a space. -/
def eraseSpaceAt (h : Heap GStringBlock) (newStr : ℕ) (remainder : CharPtr) (pos : Option ℕ) :
    Option (Heap GStringBlock) := do
  if (← textAt h remainder)[0]? = some ' ' then gStringEraseAt h newStr (← pos) 1 else some h

variable (moves : ℕ → Bool)

/-- One round of the loop of `stringbuffer_wrap_simple`. -/
def wrapSimpleBodyAt (newStr : ℕ) (length : Int) (s : WrapMemory) :
    Option (WrapMemory ⊕ (Heap GStringBlock × ℕ)) := do
  let rest ← textAt s.heap s.remainder
  if 0 ≤ length ∧ length < rest.length then do
    let pos := length.toNat * (s.curLine + 1) + s.curLine
    let h ← gStringInsertCAt (moves s.inserted) s.heap newStr pos '\n'
    let remainder : CharPtr := ⟨s.remainder.block, s.remainder.offset + (length.toNat + 1)⟩
    let h ← eraseSpaceAt h newStr remainder (some (pos + 1))
    some (.inl ⟨h, remainder, s.curLine + 1, s.inserted + 1⟩)
  else some (.inr (s.heap, s.inserted))

/-- What both functions do: a copy of the buffer is edited in a loop. The copy, and how often
characters were put in. -/
def editCopyAt (body : ℕ → WrapMemory → Option (WrapMemory ⊕ (Heap GStringBlock × ℕ))) (fuel : ℕ)
    (h : Heap GStringBlock) (inserted buffer : ℕ) : Option (ℕ × Heap GStringBlock × ℕ) := do
  let (newStr, h) := gStringNew h (← charsAt h (← strAt h buffer))
  let r ← Loop.run (body newStr) fuel ⟨h, ⟨← strAt h newStr, 0⟩, 0, inserted⟩
  some (newStr, r)

/-- `stringbuffer_wrap_simple` -/
def stringbufferWrapSimpleAt (fuel : ℕ) (h : Heap GStringBlock) (inserted buffer : ℕ)
    (length : Int) : Option (ℕ × Heap GStringBlock × ℕ) :=
  editCopyAt (fun newStr => wrapSimpleBodyAt moves newStr length) fuel h inserted buffer

/-- The newline at the break `old`: behind a hyphen it is put in, and else it takes the place of the
space. -/
def breakAt (newStr : ℕ) (s : WrapMemory) (str : Str) (old : CharPtr) :
    Option (Heap GStringBlock × ℕ) := do
  if str[old.offset - 1]? = some '-' then do
    let pos ← minus old (← strAt s.heap newStr)
    let h ← gStringInsertCAt (moves s.inserted) s.heap newStr pos '\n'
    some (h, s.inserted + 1)
  else do
    let h ← s.heap.write old.block (.chars (str.set old.offset '\n'))
    some (h, s.inserted)

/-- What a round of `stringbuffer_wrap_spaces` does once the scan has found the break `old`. -/
def wrapSpacesCutAt (newStr : ℕ) (length : Int) (s : WrapMemory) (str : Str) (old : CharPtr) :
    Option WrapMemory := do
  if old = s.remainder then do
    -- there is no break that fits
    let pos ← minus s.remainder (← strAt s.heap newStr)
    let h ← gStringInsertCAt (moves s.inserted) s.heap newStr (pos + length.toNat) '\n'
    some ⟨h, ⟨s.remainder.block, s.remainder.offset + (length.toNat + 1)⟩, s.curLine + 1,
      s.inserted + 1⟩
  else do
    let (h, inserted) ← breakAt moves newStr s str old
    let remainder : CharPtr := ⟨old.block, old.offset + 1⟩
    let h ← eraseSpaceAt h newStr remainder (do
      let pos ← minus old (← strAt h newStr)
      some (pos + 1))
    some ⟨h, remainder, s.curLine + 1, inserted⟩

/-- One round of the loop of `stringbuffer_wrap_spaces`. The scan stays within what `remainder`
points to. -/
def wrapSpacesBodyAt (fuel newStr : ℕ) (length : Int) (s : WrapMemory) :
    Option (WrapMemory ⊕ (Heap GStringBlock × ℕ)) := do
  let rest ← textAt s.heap s.remainder
  if 0 ≤ length ∧ length < rest.length then do
    let str ← charsAt s.heap s.remainder.block
    let old ← Loop.run (wrapScanBody str s.remainder.offset length) fuel
      (some s.remainder.offset, s.remainder.offset)
    (wrapSpacesCutAt moves newStr length s str ⟨s.remainder.block, old⟩).map .inl
  else some (.inr (s.heap, s.inserted))

/-- `stringbuffer_wrap_spaces` -/
def stringbufferWrapSpacesAt (fuel : ℕ) (h : Heap GStringBlock) (inserted buffer : ℕ)
    (length : Int) : Option (ℕ × Heap GStringBlock × ℕ) :=
  editCopyAt (fun newStr => wrapSpacesBodyAt moves fuel newStr length) fuel h inserted buffer

/-- **`stringbuffer_wrap`**: the new string, and how often characters were put in. -/
def stringbufferWrapAt (fuel : ℕ) (h : Heap GStringBlock) (buffer : ℕ) (length maxlines : Int) :
    Option (ℕ × Heap GStringBlock × ℕ) := do
  let text ← charsAt h (← strAt h buffer)
  if wrapInt (length * maxlines) < wrapInt text.length then
    stringbufferWrapSimpleAt moves fuel h 0 buffer length
  else do
    let (tried, h, inserted) ← stringbufferWrapSpacesAt moves fuel h 0 buffer length
    if stringbufferGetLines (← charsAt h (← strAt h tried)) ≤ maxlines then
      some (tried, h, inserted)
    else do
      let h ← gStringFree h tried
      stringbufferWrapSimpleAt moves fuel h inserted buffer length

/-! ## A string that is edited -/

/-- **The heap holds a string**, and other cells. -/
def Owns (h : Heap GStringBlock) (cells : List (Heap.Cell GStringBlock)) (newStr str : ℕ)
    (s : Str) : Prop :=
  h.Holds (⟨newStr, .gstring str⟩ :: ⟨str, .chars s⟩ :: cells)

variable {moves} {h : Heap GStringBlock} {cells : List (Heap.Cell GStringBlock)}
  {p newStr str : ℕ} {s done rest : Str}

theorem strAt_of_mem (hh : h.Holds cells) (hmem : ⟨p, .gstring str⟩ ∈ cells) :
    strAt h p = some str := by
  show (h.read p).bind _ = _
  rw [hh.read hmem]
  rfl

theorem charsAt_of_mem (hh : h.Holds cells) (hmem : ⟨p, .chars s⟩ ∈ cells) :
    charsAt h p = some s := by
  show (h.read p).bind _ = _
  rw [hh.read hmem]
  rfl

/-- **What was freed cannot be read.** -/
theorem textAt_of_freed (hp : h.Freed str) (offset : ℕ) : textAt h ⟨str, offset⟩ = none := by
  show ((h.read str).bind _).bind _ = _
  rw [hp.read]
  rfl

namespace Owns

theorem strAt (ho : Owns h cells newStr str s) : GStringMemory.strAt h newStr = some str :=
  strAt_of_mem ho List.mem_cons_self

theorem charsAt (ho : Owns h cells newStr str s) : GStringMemory.charsAt h str = some s :=
  charsAt_of_mem ho (List.mem_cons_of_mem _ List.mem_cons_self)

/-- What `remainder` points to. -/
theorem textAt (ho : Owns h cells newStr str (done ++ rest)) :
    GStringMemory.textAt h ⟨str, done.length⟩ = some rest := by
  have hle : done.length ≤ (done ++ rest).length := by
    rw [List.length_append]
    omega
  unfold GStringMemory.textAt
  rw [ho.charsAt, Option.bind_eq_bind, Option.bind_some, if_pos hle, List.drop_left]

/-- The characters are written. -/
theorem write (ho : Owns h cells newStr str s) (s' : Str) :
    ∃ h', h.write str (.chars s') = some h' ∧ Owns h' cells newStr str s' := by
  obtain ⟨h', hwrite, hh'⟩ := Heap.Holds.write (ho.perm (List.Perm.swap _ _ _)) (.chars s')
  exact ⟨h', hwrite, hh'.perm (List.Perm.swap _ _ _)⟩

/-- **A character is put in** where the string is. -/
theorem insert (ho : Owns h cells newStr str s) {pos : ℕ} (hpos : pos ≤ s.length) (c : Char) :
    ∃ h', gStringInsertCAt false h newStr pos c = some h'
      ∧ Owns h' cells newStr str (gStringInsertC s pos c) := by
  obtain ⟨h', hwrite, ho'⟩ := ho.write (gStringInsertC s pos c)
  refine ⟨h', ?_, ho'⟩
  simp only [gStringInsertCAt, ho.strAt, ho.charsAt, Option.bind_eq_bind, Option.bind_some,
    if_neg (Nat.not_lt.mpr hpos), Bool.false_eq_true, if_false, hwrite]

/-- **The characters are moved** to another place, and where they were there is nothing. -/
theorem insert_moved (ho : Owns h cells newStr str s) {pos : ℕ} (hpos : pos ≤ s.length)
    (c : Char) : ∃ h', gStringInsertCAt true h newStr pos c = some h' ∧ h'.Freed str := by
  obtain ⟨q, h₁, hmalloc, hh₁⟩ := Heap.Holds.malloc ho (.chars (gStringInsertC s pos c))
  obtain ⟨h₂, hfree, hh₂⟩ := Heap.Holds.free
    (hh₁.perm ((List.Perm.swap _ _ _).trans (((List.Perm.swap _ _ _).cons _))))
  obtain ⟨h₃, hwrite, -⟩ := Heap.Holds.write (hh₂.perm (List.Perm.swap _ _ _)) (.gstring q)
  refine ⟨h₃, ?_, (Heap.Freed.of_free hfree).write hwrite⟩
  simp only [gStringInsertCAt, ho.strAt, ho.charsAt, Option.bind_eq_bind, Option.bind_some,
    if_neg (Nat.not_lt.mpr hpos), if_true, hmalloc, hfree, hwrite]

/-- Characters are erased. -/
theorem erase (ho : Owns h cells newStr str s) (pos len : ℕ) :
    ∃ h', gStringEraseAt h newStr pos len = some h'
      ∧ Owns h' cells newStr str (gStringErase s pos len) := by
  obtain ⟨h', hwrite, ho'⟩ := ho.write (gStringErase s pos len)
  refine ⟨h', ?_, ho'⟩
  simp only [gStringEraseAt, ho.strAt, ho.charsAt, Option.bind_eq_bind, Option.bind_some, hwrite]

/-- **A space that `remainder` points to is erased.** -/
theorem eraseSpace (ho : Owns h cells newStr str (done ++ rest)) {pos : Option ℕ}
    (hpos : pos = some done.length) :
    ∃ h', eraseSpaceAt h newStr ⟨str, done.length⟩ pos = some h'
      ∧ Owns h' cells newStr str (done ++ dropSpace rest) := by
  have hstr := congrArg WrapState.str (WrapState.eraseSpace_at done rest 0)
  have hhead : (done ++ rest)[done.length]? = rest[0]? := by
    rw [List.getElem?_append_right (Nat.le_refl _), Nat.sub_self]
  unfold WrapState.eraseSpace at hstr
  simp only [WrapState.str_at, WrapState.remainder_at, hhead] at hstr
  simp only [eraseSpaceAt, ho.textAt, hpos, Option.bind_eq_bind, Option.bind_some]
  split
  · next hspace =>
    rw [if_pos hspace] at hstr
    obtain ⟨h', herase, ho'⟩ := ho.erase done.length 1
    exact ⟨h', herase, hstr ▸ ho'⟩
  · next hspace =>
    rw [if_neg hspace] at hstr
    exact ⟨h, rfl, hstr ▸ ho⟩

end Owns

/-- What was freed is looked at. -/
theorem eraseSpaceAt_of_freed (hp : h.Freed str) (newStr offset : ℕ) (pos : Option ℕ) :
    eraseSpaceAt h newStr ⟨str, offset⟩ pos = none := by
  unfold eraseSpaceAt
  rw [textAt_of_freed hp]
  rfl

/-! ## A round -/

/-- **A loop that edits the string**, and the values that it has. -/
inductive Edits (cells : List (Heap.Cell GStringBlock)) (newStr : ℕ) :
    WrapMemory → WrapState × ℕ → Prop
  /-- `remainder` points to the rest. -/
  | at {h : Heap GStringBlock} {str : ℕ} {done rest : Str} (n inserted : ℕ)
    (ho : Owns h cells newStr str (done ++ rest)) :
    Edits cells newStr ⟨h, ⟨str, done.length⟩, n, inserted⟩ (.at done rest n, inserted)

/-- **A loop that is left with a string.** -/
def Leaves (cells : List (Heap.Cell GStringBlock)) (newStr : ℕ) (r : Heap GStringBlock × ℕ)
    (r' : Str × ℕ) : Prop :=
  r.2 = r'.2 ∧ ∃ str, Owns r.1 cells newStr str r'.1

/-- A round of the simple loop: it stops where the characters are moved. -/
theorem wrapSimpleBodyAt_rel (moves : ℕ → Bool) {L : ℕ} {m : WrapMemory} {v : WrapState × ℕ}
    (hedits : Edits cells newStr m v) (hfull : v.1.remainder = (L + 1) * v.1.curLine) :
    Option.Rel (Sum.LiftRel
        (fun m v => Edits cells newStr m v ∧ v.1.remainder = (L + 1) * v.1.curLine)
        (Leaves cells newStr))
      (wrapSimpleBodyAt moves newStr L m)
      (Loop.guarded (wrapSimpleBody L) (fun _ => true) moves v) := by
  obtain @⟨h, str, done, rest, n, inserted, ho⟩ := hedits
  have hdone : done.length = (L + 1) * n := hfull
  unfold wrapSimpleBodyAt Loop.guarded
  simp only [ho.textAt, Option.bind_eq_bind, Option.bind_some]
  by_cases hlong : L < rest.length
  · rw [wrapSimpleBody_at hdone hlong, if_pos ⟨by omega, by omega⟩]
    have hpos : (L : Int).toNat * (n + 1) + n = done.length + L := by
      rw [Int.toNat_natCast, hdone, Nat.mul_add, Nat.add_mul]
      omega
    have hle : done.length + L ≤ (done ++ rest).length := by
      rw [List.length_append]
      omega
    have hfront := @length_done_take done rest L (Nat.le_of_lt hlong)
    have hrem : done.length + ((L : Int).toNat + 1) = (done ++ rest.take L ++ ['\n']).length := by
      rw [Int.toNat_natCast, hfront, Nat.add_assoc]
    simp only [hpos, hrem, if_true]
    cases hmoves : moves inserted with
    | true =>
      obtain ⟨h', hinsert, hfreed⟩ := ho.insert_moved hle '\n'
      simp only [hinsert, eraseSpaceAt_of_freed hfreed, Option.bind_some, Option.bind_none, if_true]
      exact .none
    | false =>
      obtain ⟨h', hinsert, ho'⟩ := ho.insert hle '\n'
      rw [gStringInsertC_append (Nat.le_of_lt hlong)] at ho'
      obtain ⟨h'', herase, ho''⟩ := ho'.eraseSpace (congrArg some hfront.symm)
      simp only [hinsert, herase, Option.bind_some, Bool.false_eq_true, if_false]
      refine .some (.inl ⟨.at _ _ ho'', ?_⟩)
      rw [WrapState.remainder_at, WrapState.curLine_at, hfront, Nat.mul_succ, hdone, Nat.add_assoc]
  · have hstop : ¬ ((0 : Int) ≤ L ∧ (L : Int) < rest.length) := by omega
    rw [wrapSimpleBody, if_neg (not_exceeds_at (Nat.not_lt.mp hlong)), if_neg hstop]
    exact .some (.inr ⟨rfl, str, ho⟩)

/-- A round of `stringbuffer_wrap_spaces` puts a character in: no break fits, or the one that does
is behind a hyphen. -/
def insertsAt (fuel : ℕ) (length : Int) (s : WrapState) : Bool :=
  match Loop.run (wrapScanBody s.str s.remainder length) fuel (some s.remainder, s.remainder) with
  | none => false
  | some old => old = s.remainder || s.str[old - 1]? = some '-'

/-- When that is, once the scan has found a break. -/
theorem insertsAt_iff {fuel old : ℕ} {length : Int} (n : ℕ)
    (hscan : Loop.run (wrapScanBody (done ++ rest) done.length length) fuel
      (some done.length, done.length) = some old) :
    insertsAt fuel length (.at done rest n) = true
      ↔ old = done.length ∨ (done ++ rest)[old - 1]? = some '-' := by
  have hinserts : insertsAt fuel length (.at done rest n)
      = (decide (old = done.length) || decide ((done ++ rest)[old - 1]? = some '-')) := by
    unfold insertsAt
    simp only [WrapState.str_at, WrapState.remainder_at, hscan]
    rfl
  rw [hinserts, Bool.or_eq_true, decide_eq_true_iff, decide_eq_true_iff]

/-- Where no break fits, the newline is put in in mid-word. -/
theorem wrapSpacesCutAt_word (moves : ℕ → Bool) (L n inserted : ℕ)
    (ho : Owns h cells newStr str (done ++ rest)) :
    wrapSpacesCutAt moves newStr L ⟨h, ⟨str, done.length⟩, n, inserted⟩ (done ++ rest)
        ⟨str, done.length⟩
      = (gStringInsertCAt (moves inserted) h newStr (done.length + L) '\n').map
        (fun h => ⟨h, ⟨str, done.length + (L + 1)⟩, n + 1, inserted + 1⟩) := by
  have hminus : minus ⟨str, done.length⟩ str = some done.length := if_pos rfl
  rw [Option.map_eq_bind]
  simp only [wrapSpacesCutAt, if_true, ho.strAt, hminus, Int.toNat_natCast, Option.bind_eq_bind,
    Option.bind_some]
  rfl

/-- A newline is put at a break that fits. -/
theorem wrapSpacesCutAt_rel (moves : ℕ → Bool) {L k n inserted : ℕ}
    (ho : Owns h cells newStr str (done ++ rest)) (hpos : 0 < k) (hlt : k < rest.length) :
    let hyphen := (done ++ rest)[done.length + k - 1]? = some '-'
    Option.Rel (Edits cells newStr)
      (wrapSpacesCutAt moves newStr L ⟨h, ⟨str, done.length⟩, n, inserted⟩ (done ++ rest)
        ⟨str, done.length + k⟩)
      (if hyphen then
        if moves inserted then none
        else some (wrapSpacesCut L (.at done rest n) (done.length + k), inserted + 1)
      else some (wrapSpacesCut L (.at done rest n) (done.length + k), inserted)) := by
  intro hyphen
  have hprev : (done ++ rest)[done.length + k - 1]? = rest[k - 1]? := by
    rw [List.getElem?_append_right (by omega)]
    congr 1
    omega
  have hne : (⟨str, done.length + k⟩ : CharPtr) ≠ ⟨str, done.length⟩ := by
    intro heq
    have hoffset : done.length + k = done.length := congrArg CharPtr.offset heq
    omega
  have hfront := @length_done_take done rest k (Nat.le_of_lt hlt)
  have hle : done.length + k ≤ (done ++ rest).length := by
    rw [List.length_append]
    omega
  have hminus : minus ⟨str, done.length + k⟩ str = some (done.length + k) := if_pos rfl
  have hbehind : ∀ {h' : Heap GStringBlock} {s : Str}, Owns h' cells newStr str s →
      (GStringMemory.strAt h' newStr).bind (fun str' =>
        (minus ⟨str, done.length + k⟩ str').bind (fun pos => some (pos + 1)))
        = some (done ++ rest.take k ++ ['\n']).length := by
    intro h' s ho'
    rw [ho'.strAt, Option.bind_some, hminus, Option.bind_some, hfront]
  unfold wrapSpacesCutAt breakAt
  simp only [if_neg hne, ← hfront]
  by_cases hhyphen : hyphen
  · have hat : rest[k - 1]? = some '-' := hprev ▸ hhyphen
    rw [if_pos hhyphen, if_pos hhyphen, wrapSpacesCut_hyphen n hpos (Nat.le_of_lt hlt) hat]
    simp only [ho.strAt, hminus, Option.bind_eq_bind, Option.bind_some]
    cases hmoves : moves inserted with
    | true =>
      obtain ⟨h', hinsert, hfreed⟩ := ho.insert_moved hle '\n'
      simp only [hinsert, eraseSpaceAt_of_freed hfreed, Option.bind_some, Option.bind_none, if_true]
      exact .none
    | false =>
      obtain ⟨h', hinsert, ho'⟩ := ho.insert hle '\n'
      rw [gStringInsertC_append (Nat.le_of_lt hlt)] at ho'
      obtain ⟨h'', herase, ho''⟩ := ho'.eraseSpace (hbehind ho')
      simp only [hinsert, herase, Option.bind_some, Bool.false_eq_true, if_false]
      exact .some (.at _ _ ho'')
  · have hat : rest[k - 1]? ≠ some '-' := hprev ▸ hhyphen
    rw [if_neg hhyphen, if_neg hhyphen, wrapSpacesCut_space n hpos hat hlt]
    obtain ⟨h', hwrite, ho'⟩ := ho.write ((done ++ rest).set (done.length + k) '\n')
    rw [set_newline hlt] at hwrite ho'
    obtain ⟨h'', herase, ho''⟩ := ho'.eraseSpace (hbehind ho')
    simp only [set_newline hlt, hwrite, herase, Option.bind_eq_bind, Option.bind_some]
    exact .some (.at _ _ ho'')

/-- **In mid-word** the newline is put in, and nothing is looked at behind it. Where that moves the
characters, the round behind it does not come to anything. -/
theorem wrapSpacesCutAt_word_rel (moves : ℕ → Bool) (fuel : ℕ) {L n inserted : ℕ}
    (ho : Owns h cells newStr str (done ++ rest)) (hlong : L < rest.length) :
    let cut := wrapSpacesCutAt moves newStr L ⟨h, ⟨str, done.length⟩, n, inserted⟩ (done ++ rest)
      ⟨str, done.length⟩
    (moves inserted = false → Option.Rel (Edits cells newStr) cut
        (some (wrapSpacesCut L (.at done rest n) done.length, inserted + 1)))
      ∧ (moves inserted = true →
        ∃ late, cut = some late ∧ wrapSpacesBodyAt moves fuel newStr L late = none) := by
  intro cut
  have hcut : cut = _ := wrapSpacesCutAt_word moves L n inserted ho
  have hle : done.length + L ≤ (done ++ rest).length := by
    rw [List.length_append]
    omega
  rw [hcut]
  constructor
  · intro hmoves
    obtain ⟨h', hinsert, ho'⟩ := ho.insert hle '\n'
    rw [gStringInsertC_append (Nat.le_of_lt hlong)] at ho'
    rw [hmoves, hinsert, wrapSpacesCut_word n (Nat.le_of_lt hlong), ← Nat.add_assoc,
      ← @length_done_take done rest L (Nat.le_of_lt hlong)]
    exact .some (.at _ _ ho')
  · intro hmoves
    obtain ⟨h', hinsert, hfreed⟩ := ho.insert_moved hle '\n'
    rw [hmoves, hinsert]
    refine ⟨_, rfl, ?_⟩
    unfold wrapSpacesBodyAt
    rw [textAt_of_freed hfreed]
    rfl

/-- A round that goes on with the break that the scan finds. -/
theorem wrapSpacesBodyAt_of_lt (moves : ℕ → Bool) {L : ℕ} (fuel n inserted : ℕ)
    (ho : Owns h cells newStr str (done ++ rest)) (hlong : L < rest.length) :
    wrapSpacesBodyAt moves fuel newStr L ⟨h, ⟨str, done.length⟩, n, inserted⟩
      = (Loop.run (wrapScanBody (done ++ rest) done.length L) fuel
        (some done.length, done.length)).bind (fun old =>
          (wrapSpacesCutAt moves newStr L ⟨h, ⟨str, done.length⟩, n, inserted⟩ (done ++ rest)
            ⟨str, old⟩).map .inl) := by
  have hguard : (0 : Int) ≤ L ∧ (L : Int) < rest.length := ⟨by omega, by omega⟩
  simp only [wrapSpacesBodyAt, ho.textAt, ho.charsAt, Option.bind_eq_bind, Option.bind_some,
    if_pos hguard]

/-- A round of the loop at the breaks: where the characters are moved it stops, or in the round
behind it. -/
theorem wrapSpacesBodyAt_rel (moves : ℕ → Bool) {L fuel : ℕ} {m : WrapMemory} {v : WrapState × ℕ}
    (hedits : Edits cells newStr m v) :
    Option.Rel (Sum.LiftRel (Edits cells newStr) (Leaves cells newStr))
        (wrapSpacesBodyAt moves fuel newStr L m)
        (Loop.guarded (wrapSpacesBody fuel L) (insertsAt fuel L) moves v)
      ∨ Loop.guarded (wrapSpacesBody fuel L) (insertsAt fuel L) moves v = none
        ∧ ∃ late, wrapSpacesBodyAt moves fuel newStr L m = some (.inl late)
          ∧ wrapSpacesBodyAt moves fuel newStr L late = none := by
  obtain @⟨h, str, done, rest, n, inserted, ho⟩ := hedits
  have hlift : ∀ {m : Option WrapMemory} {v : Option (WrapState × ℕ)},
      Option.Rel (Edits cells newStr) m v →
      Option.Rel (Sum.LiftRel (Edits cells newStr) (Leaves cells newStr)) (m.map .inl)
        (v.map .inl) :=
    fun h => Loop.rel_map h (fun _ _ _ hedits => .inl hedits)
  unfold Loop.guarded
  by_cases hlong : L < rest.length
  · have hexceeds := (WrapState.exceeds_at_iff done rest n L).mpr ⟨by omega, by omega⟩
    have hbody : wrapSpacesBody fuel L (.at done rest n)
        = (Loop.run (wrapScanBody (done ++ rest) done.length L) fuel
          (some done.length, done.length)).map
            (fun old => .inl (wrapSpacesCut L (.at done rest n) old)) := if_pos hexceeds
    rw [wrapSpacesBodyAt_of_lt moves fuel n inserted ho hlong]
    dsimp only
    rw [hbody]
    cases hscan : Loop.run (wrapScanBody (done ++ rest) done.length L) fuel
      (some done.length, done.length) with
    | none => exact .inl .none
    | some old =>
      obtain ⟨k, hk, rfl, -⟩ := isBreak_of_wrapScan hscan
      have hinserts := insertsAt_iff n hscan
      simp only [Option.map_some, Option.bind_some]
      rcases Nat.eq_zero_or_pos k with rfl | hpos
      · obtain ⟨hstays, hmoved⟩ :=
          @wrapSpacesCutAt_word_rel h cells newStr str done rest moves fuel L n inserted ho hlong
        rw [if_pos (hinserts.mpr (.inl rfl)), Nat.add_zero]
        cases hmoves : moves inserted with
        | true =>
          obtain ⟨late, hcut, hlate⟩ := hmoved hmoves
          rw [hcut]
          exact .inr ⟨rfl, late, rfl, hlate⟩
        | false => exact .inl (hlift (hstays hmoves))
      · have hcut := hlift (@wrapSpacesCutAt_rel h cells newStr str done rest moves L k n inserted
          ho hpos (Nat.lt_of_le_of_lt hk hlong))
        have hne : done.length + k ≠ done.length := by omega
        refine .inl ?_
        split at hcut
        · next hyphen =>
          rw [if_pos (hinserts.mpr (.inr hyphen))]
          split at hcut
          · next hmoves =>
            rw [if_pos hmoves]
            exact hcut
          · next hmoves =>
            rw [if_neg hmoves]
            exact hcut
        · next hyphen =>
          rw [if_neg (fun hins => (hinserts.mp hins).elim hne hyphen)]
          exact hcut
  · have hstop : ¬ ((0 : Int) ≤ L ∧ (L : Int) < rest.length) := by omega
    have hround : wrapSpacesBodyAt moves fuel newStr L ⟨h, ⟨str, done.length⟩, n, inserted⟩
        = some (.inr (h, inserted)) := by
      simp only [wrapSpacesBodyAt, ho.textAt, Option.bind_eq_bind, Option.bind_some, if_neg hstop]
    rw [hround, wrapSpacesBody, if_neg (not_exceeds_at (Nat.not_lt.mp hlong))]
    exact .inl (.some (.inr ⟨rfl, str, ho⟩))

/-! ## The functions -/

/-- How often `stringbuffer_wrap_simple` puts a newline in: in every round. -/
def simpleInsertions (fuel : ℕ) (text : Str) (length : Int) : ℕ :=
  Loop.rounds (wrapSimpleBody length) (fun _ => true) fuel (.at [] text 0)

/-- How often `stringbuffer_wrap_spaces` puts a newline in. -/
def spacesInsertions (fuel : ℕ) (text : Str) (length : Int) : ℕ :=
  Loop.rounds (wrapSpacesBody fuel length) (insertsAt fuel length) fuel (.at [] text 0)

/-- **How often `stringbuffer_wrap` puts a newline in**, the first try included. -/
def insertions (fuel : ℕ) (text : Str) (length maxlines : Int) : ℕ :=
  if wrapInt (length * maxlines) < wrapInt text.length then simpleInsertions fuel text length
  else spacesInsertions fuel text length
    + (stringbufferWrapSpaces fuel text length).elim 0 (fun wrapped =>
      if stringbufferGetLines wrapped ≤ maxlines then 0 else simpleInsertions fuel text length)

/-- **A string is allocated.** -/
theorem exists_gStringNew (hh : h.Holds cells) (text : Str) :
    ∃ newStr str h', gStringNew h text = (newStr, h') ∧ Owns h' cells newStr str ([] ++ text) := by
  obtain ⟨str, h₁, hchars, hh₁⟩ := hh.malloc (.chars text)
  obtain ⟨newStr, h₂, hnew, hh₂⟩ := hh₁.malloc (.gstring str)
  refine ⟨newStr, str, h₂, ?_, hh₂⟩
  unfold gStringNew
  rw [hchars]
  exact hnew

/-- **A string is freed**, with its characters. -/
theorem exists_gStringFree (ho : Owns h cells newStr str s) :
    ∃ h', gStringFree h newStr = some h' ∧ h'.Holds cells := by
  obtain ⟨h₁, hfree₁, hh₁⟩ := Heap.Holds.free (ho.perm (List.Perm.swap _ _ _))
  obtain ⟨h₂, hfree₂, hh₂⟩ := hh₁.free
  refine ⟨h₂, ?_, hh₂⟩
  simp only [gStringFree, ho.strAt, hfree₁, hfree₂, Option.bind_eq_bind, Option.bind_some]

/-- **What ends as some values do** if a condition holds, and otherwise does not end. -/
def Follows {α β : Type*} (stays : Prop) (R : α → β → Prop) (x : Option α) (y : Option β) : Prop :=
  (stays → Option.Rel R x y) ∧ (¬ stays → x = none)

/-- None of the newlines that are put in moves the characters. -/
def Stays (moves : ℕ → Bool) (inserted n : ℕ) : Prop := ∀ k < n, moves (inserted + k) = false

theorem Stays.mono {inserted n m : ℕ} (h : Stays moves inserted m) (hle : n ≤ m) :
    Stays moves inserted n := fun k hk => h k (Nat.lt_of_lt_of_le hk hle)

/-- The newlines of two functions, one behind the other. -/
theorem stays_add {inserted n m : ℕ} : Stays moves inserted (n + m)
    ↔ Stays moves inserted n ∧ Stays moves (inserted + n) m := by
  constructor
  · refine fun h => ⟨h.mono (Nat.le_add_right n m), fun k hk => ?_⟩
    rw [Nat.add_assoc]
    exact h (n + k) (by omega)
  · rintro ⟨hn, hm⟩ k hk
    rcases Nat.lt_or_ge k n with hlt | hge
    · exact hn k hlt
    · obtain ⟨j, rfl⟩ := Nat.exists_eq_add_of_le hge
      rw [← Nat.add_assoc]
      exact hm j (by omega)

/-- A loop that stops where the characters are moved. -/
theorem follows_of_guarded {σ ρ : Type} {body : σ → Option (σ ⊕ Str)} {counts : σ → Bool}
    {fuel inserted : ℕ} {v : σ} {R : ρ → Str × ℕ → Prop} {x : Option ρ}
    (h : Option.Rel R x (Loop.run (Loop.guarded body counts moves) fuel (v, inserted))) :
    Follows (Stays moves inserted (Loop.rounds body counts fuel v)) R x
      ((Loop.run body fuel v).map
        (fun wrapped => (wrapped, inserted + Loop.rounds body counts fuel v))) := by
  obtain ⟨hpass, hfail⟩ := Loop.run_guarded body counts moves fuel v inserted
  refine ⟨fun hstays => hpass hstays ▸ h, fun hmoves => ?_⟩
  have hfails : ∃ k < Loop.rounds body counts fuel v, moves (inserted + k) = true := by
    by_contra hnone
    refine hmoves (fun k hk => Bool.eq_false_iff.mpr (fun htrue => hnone ⟨k, hk, htrue⟩))
  rw [hfail hfails] at h
  cases h
  rfl

/-- What is known of the loop is known of the function. -/
theorem editCopyAt_rel (hh : h.Holds cells) {buffer fuel inserted : ℕ} {text : Str}
    (hbuffer : ⟨buffer, .gstring str⟩ ∈ cells) (hstr : ⟨str, .chars text⟩ ∈ cells)
    {body : ℕ → WrapMemory → Option (WrapMemory ⊕ (Heap GStringBlock × ℕ))}
    {value : Option (Str × ℕ)}
    (hloop : ∀ newStr str' h', Owns h' cells newStr str' ([] ++ text) →
      Option.Rel (Leaves cells newStr)
        (Loop.run (body newStr) fuel ⟨h', ⟨str', 0⟩, 0, inserted⟩) value) :
    Option.Rel (fun r r' => Leaves cells r.1 r.2 r') (editCopyAt body fuel h inserted buffer)
      value := by
  obtain ⟨newStr, str', h', hnew, ho⟩ := exists_gStringNew hh text
  simp only [editCopyAt, strAt_of_mem hh hbuffer, charsAt_of_mem hh hstr, hnew, ho.strAt,
    Option.bind_eq_bind, Option.bind_some]
  rw [← Option.bind_fun_some value]
  exact Loop.rel_bind (hloop newStr str' h' ho) (fun _ _ _ hleaves => .some hleaves)

section functions

variable (moves : ℕ → Bool) (fuel L : ℕ) {buffer : ℕ} {text : Str} (hh : h.Holds cells)
  (hbuffer : ⟨buffer, .gstring str⟩ ∈ cells) (hstr : ⟨str, .chars text⟩ ∈ cells)

include hh hbuffer hstr

/-- **`stringbuffer_wrap_simple`** does what it does to the string, if no character is moved. -/
theorem stringbufferWrapSimpleAt_follows (inserted : ℕ) :
    Follows (Stays moves inserted (simpleInsertions fuel text L))
      (fun r r' => Leaves cells r.1 r.2 r')
      (stringbufferWrapSimpleAt moves fuel h inserted buffer L)
      ((stringbufferWrapSimple fuel text L).map
        (fun wrapped => (wrapped, inserted + simpleInsertions fuel text L))) := by
  refine follows_of_guarded (editCopyAt_rel hh hbuffer hstr (fun newStr str' h' ho => ?_))
  exact Loop.run_rel (fun m v => Edits cells newStr m v
      ∧ v.1.remainder = (L + 1) * v.1.curLine) (Leaves cells newStr)
    (fun m v h => wrapSimpleBodyAt_rel moves h.1 h.2) fuel ⟨.at 0 inserted ho, rfl⟩

/-- **`stringbuffer_wrap_spaces`** does what it does to the string, if no character is moved. -/
theorem stringbufferWrapSpacesAt_follows (inserted : ℕ) :
    Follows (Stays moves inserted (spacesInsertions fuel text L))
      (fun r r' => Leaves cells r.1 r.2 r')
      (stringbufferWrapSpacesAt moves fuel h inserted buffer L)
      ((stringbufferWrapSpaces fuel text L).map
        (fun wrapped => (wrapped, inserted + spacesInsertions fuel text L))) := by
  refine follows_of_guarded (editCopyAt_rel hh hbuffer hstr (fun newStr str' h' ho => ?_))
  exact Loop.run_rel_late (Edits cells newStr) (Leaves cells newStr)
    (fun m v h => @wrapSpacesBodyAt_rel cells newStr moves L fuel m v h) fuel (.at 0 inserted ho)

/-- **`stringbuffer_wrap`** does what it does to the string, if no character is moved. -/
theorem stringbufferWrapAt_follows (maxlines : Int) :
    Follows (Stays moves 0 (insertions fuel text L maxlines))
      (fun r wrapped => ∃ str', Owns r.2.1 cells r.1 str' wrapped)
      (stringbufferWrapAt moves fuel h buffer L maxlines)
      (stringbufferWrap fuel text L maxlines) := by
  -- how often a character was put in is forgotten
  have hforget : ∀ {n : ℕ} {x : Option (ℕ × Heap GStringBlock × ℕ)} {stays : Prop}
      {value : Option Str}, Follows stays (fun r r' => Leaves cells r.1 r.2 r') x
        (value.map (fun wrapped => (wrapped, n))) →
      Follows stays (fun r wrapped => ∃ str', Owns r.2.1 cells r.1 str' wrapped) x value := by
    intro n x stays value hfollows
    refine ⟨fun hstays => ?_, hfollows.2⟩
    have hrel := hfollows.1 hstays
    cases value with
    | none =>
      cases hrel
      exact .none
    | some wrapped =>
      cases hrel with
      | some hleaves => exact .some hleaves.2
  unfold stringbufferWrapAt stringbufferWrap insertions
  rw [strAt_of_mem hh hbuffer, Option.bind_eq_bind, Option.bind_some, charsAt_of_mem hh hstr,
    Option.bind_eq_bind, Option.bind_some]
  by_cases hlong : wrapInt (L * maxlines) < wrapInt text.length
  · rw [if_pos hlong, if_pos hlong, if_pos hlong]
    exact hforget (stringbufferWrapSimpleAt_follows moves fuel L hh hbuffer hstr 0)
  · rw [if_neg hlong, if_neg hlong, if_neg hlong]
    obtain ⟨hpass, hfail⟩ := stringbufferWrapSpacesAt_follows moves fuel L hh hbuffer hstr 0
    generalize stringbufferWrapSpacesAt moves fuel h 0 buffer L = tried at hpass hfail
    by_cases hfirst : Stays moves 0 (spacesInsertions fuel text L)
    · have hrel := hpass hfirst
      cases hwrapped : stringbufferWrapSpaces fuel text L with
      | none =>
        rw [hwrapped] at hrel
        cases hrel
        exact ⟨fun _ => .none, fun _ => rfl⟩
      | some wrapped =>
        rw [hwrapped] at hrel
        cases hrel with
        | @some r _ hleaves =>
          obtain ⟨newStr, h₁, inserted⟩ := r
          obtain ⟨rfl, str', ho⟩ := hleaves
          have ho : Owns h₁ cells newStr str' wrapped := ho
          simp only [Option.bind_eq_bind, Option.bind_some, Option.elim_some, ho.strAt, ho.charsAt]
          by_cases hfew : stringbufferGetLines wrapped ≤ maxlines
          · rw [if_pos hfew, if_pos hfew, if_pos hfew]
            exact ⟨fun _ => .some ⟨str', ho⟩, fun hmoves => absurd hfirst hmoves⟩
          · obtain ⟨h₂, hfree, hh₂⟩ := exists_gStringFree ho
            have hsecond := hforget (stringbufferWrapSimpleAt_follows moves fuel L hh₂ hbuffer hstr
              (0 + spacesInsertions fuel text L))
            rw [if_neg hfew, if_neg hfew, if_neg hfew, hfree, Option.bind_some]
            exact ⟨fun hstays => hsecond.1 (stays_add.mp hstays).2,
              fun hmoves => hsecond.2 (fun hstays => hmoves (stays_add.mpr ⟨hfirst, hstays⟩))⟩
    · obtain rfl := hfail hfirst
      exact ⟨fun hstays => absurd (stays_add.mp hstays).1 hfirst, fun _ => rfl⟩

/-- **When wrapping uses no memory that was freed**: exactly if no newline that it puts in moves the
characters. Then the new string is what the functions make of the text, and all else is as it
was. -/
theorem isSome_stringbufferWrapAt_iff {fuel L : ℕ} (hL : 1 ≤ L) (hfuel : text.length + 1 < fuel)
    (maxlines : Int) :
    ((stringbufferWrapAt moves fuel h buffer L maxlines).isSome = true
        ↔ ∀ k < insertions fuel text L maxlines, moves k = false)
      ∧ ∀ r, stringbufferWrapAt moves fuel h buffer L maxlines = some r →
        ∃ wrapped str', stringbufferWrap fuel text L maxlines = some wrapped
          ∧ r.2.1.Holds (⟨r.1, .gstring str'⟩ :: ⟨str', .chars wrapped⟩ :: cells) := by
  have hfollows := stringbufferWrapAt_follows moves fuel L hh hbuffer hstr maxlines
  obtain ⟨wrapped, hwrapped, -⟩ := exists_stringbufferWrap_variant hL maxlines hfuel
  have hnumbers : Stays moves 0 (insertions fuel text L maxlines)
      ↔ ∀ k < insertions fuel text L maxlines, moves k = false :=
    forall₂_congr (fun k _ => by rw [Nat.zero_add])
  rw [← hnumbers]
  rw [hwrapped] at hfollows ⊢
  generalize stringbufferWrapAt moves fuel h buffer L maxlines = r at hfollows
  by_cases hstays : Stays moves 0 (insertions fuel text L maxlines)
  · cases hfollows.1 hstays with
    | some hr =>
      refine ⟨iff_of_true rfl hstays, fun r heq => ?_⟩
      obtain rfl := Option.some.inj heq
      obtain ⟨str', ho⟩ := hr
      exact ⟨wrapped, str', rfl, ho⟩
  · obtain rfl := hfollows.2 hstays
    exact ⟨iff_of_false Bool.false_ne_true hstays, nofun⟩

end functions

/-- In a word that is too long a newline is put in, which moves the characters. -/
theorem isSome_stringbufferWrapAt_iff_word :
    ∃ (h : Heap GStringBlock) (buffer : ℕ),
      (stringbufferWrapAt (fun _ => false) 10 h buffer (4 : ℕ) 2).isSome = true
        ∧ (stringbufferWrapAt (fun k => k = 0) 10 h buffer (4 : ℕ) 2).isSome = false := by
  obtain ⟨buffer, str, h, -, ho⟩ := exists_gStringNew Heap.holds_empty "abcdef".toList
  have hinsertions : insertions 10 "abcdef".toList (4 : ℕ) 2 = 1 := by decide +kernel
  have hiff : ∀ moves : ℕ → Bool,
      (stringbufferWrapAt moves 10 h buffer (4 : ℕ) 2).isSome = true
        ↔ ∀ k < insertions 10 "abcdef".toList (4 : ℕ) 2, moves k = false :=
    fun moves => (isSome_stringbufferWrapAt_iff moves ho List.mem_cons_self
      (List.mem_cons_of_mem _ List.mem_cons_self) (by decide) (by decide) 2).1
  refine ⟨h, buffer, (hiff _).mpr (fun _ _ => rfl), Bool.eq_false_iff.mpr (fun hsome => ?_)⟩
  exact absurd ((hiff _).mp hsome 0 (hinsertions ▸ Nat.one_pos)) (by decide)

end GStringMemory
