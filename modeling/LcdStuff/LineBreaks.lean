import Mathlib.Data.List.Basic
import Mathlib.Data.List.Forall2
import Mathlib.Tactic.Common

/-!
# Texts broken into lines

What a function does that breaks a text into lines is stated here without the
function: over any alphabet with a separator `nl` and a blank `sp`, a text is
*wrapped* when it is cut into lines of bounded length, each cut being a
separator that stands for a few blanks or for none (`LineBreaks.Wrapped`). A
wrapper may put its cuts where it likes; whatever it chooses, nothing but
blanks is lost, the order is kept, and no line is too long.

The lines of a text are what lies between its separators, where a separator
at the very end closes the last line and does not open another one
(`LineBreaks.lines`). That is the reading under which a text that was cut
right at its end has no empty line after it, and it is the one a display
needs: a line there costs a row.
-/

namespace LineBreaks

variable {α : Type*} [DecidableEq α] (nl sp : α)

/-- **The lines of a text**: what lies between its separators, an empty line
after a final separator not counted. A text always has a line. -/
def lines : List α → List (List α)
  | [] => [[]]
  | c :: s =>
    if c = nl then (if s = [] then [[]] else [] :: lines s)
    else (lines s).modifyHead (c :: ·)

theorem lines_ne_nil (s : List α) : lines nl s ≠ [] := by
  induction s with
  | nil => simp [lines]
  | cons c s ih =>
    rw [lines]
    split
    · split <;> simp
    · obtain ⟨l, ls, h⟩ := List.exists_cons_of_ne_nil ih
      rw [h]
      simp

/-- A text without separators is its only line. -/
theorem lines_of_notMem {s : List α} (h : nl ∉ s) : lines nl s = [s] := by
  induction s with
  | nil => rfl
  | cons c s ih =>
    rw [List.mem_cons, not_or] at h
    rw [lines, if_neg (Ne.symm h.1), ih h.2, List.modifyHead_cons]

/-- **The first separator ends the first line.** -/
theorem lines_append_cons {l : List α} (h : nl ∉ l) (s : List α) :
    lines nl (l ++ nl :: s) = if s = [] then [l] else l :: lines nl s := by
  induction l with
  | nil =>
    rw [List.nil_append, lines, if_pos rfl]
  | cons c l ih =>
    rw [List.mem_cons, not_or] at h
    rw [List.cons_append, lines, if_neg (Ne.symm h.1), ih h.2]
    split <;> rw [List.modifyHead_cons]

/-- The pieces between the separators of a text, without the empty one behind a
separator at its end. -/
def pieces (s : List α) : List (List α) :=
  if s.getLast? = some nl then (s.splitOn nl).dropLast else s.splitOn nl

/-- **The lines are the pieces.** -/
theorem lines_eq_pieces (s : List α) : lines nl s = pieces nl s := by
  unfold pieces
  induction s with
  | nil => rfl
  | cons c s ih =>
    rw [lines, List.splitOn_cons_eq_if_modifyHead]
    by_cases hs : s = []
    · subst hs
      by_cases hc : c = nl <;> simp [lines, hc]
    · have hlast : (c :: s).getLast? = s.getLast? := by
        obtain ⟨d, s, rfl⟩ := List.exists_cons_of_ne_nil hs
        exact List.getLast?_cons_cons
      rw [hlast, ih]
      by_cases hc : c = nl
      · rw [if_pos hc, if_neg hs, if_pos (beq_iff_eq.mpr hc)]
        split
        · rw [List.dropLast_cons_of_ne_nil (List.splitOn_ne_nil nl s)]
        · rfl
      · rw [if_neg hc, if_neg (show ¬ (c == nl) = true from fun h => hc (beq_iff_eq.mp h))]
        split
        · next hend =>
          -- behind a separator at the end there is more than one piece
          have hpieces : (s.splitOn nl).dropLast ≠ [] := by
            rw [if_pos hend] at ih
            exact ih ▸ lines_ne_nil nl s
          obtain ⟨piece, pieces, hsplit⟩ :=
            List.exists_cons_of_ne_nil (List.splitOn_ne_nil nl s)
          rw [hsplit] at hpieces ⊢
          cases pieces with
          | nil => exact absurd rfl hpieces
          | cons second pieces => rfl
        · rfl

/-- No piece is longer than the text. -/
theorem length_le_of_mem_splitOn {s l : List α} (h : l ∈ s.splitOn nl) :
    l.length ≤ s.length := by
  induction s generalizing l with
  | nil =>
    obtain rfl := List.mem_singleton.mp h
    exact Nat.le_refl 0
  | cons c s ih =>
    rw [List.splitOn_cons_eq_if_modifyHead] at h
    obtain ⟨piece, pieces, hsplit⟩ := List.exists_cons_of_ne_nil (List.splitOn_ne_nil nl s)
    rw [hsplit] at h ih
    split at h
    · rcases List.mem_cons.mp h with rfl | h
      · exact Nat.zero_le _
      · exact Nat.le_succ_of_le (ih h)
    · rw [List.modifyHead_cons] at h
      rcases List.mem_cons.mp h with rfl | h
      · exact Nat.succ_le_succ (ih (List.mem_cons_self ..))
      · exact Nat.le_succ_of_le (ih (List.mem_cons_of_mem _ h))

/-- The pieces of a text, the last one apart, and what becomes of them when it goes
on. -/
theorem exists_splitOn_append (s : List α) :
    ∃ full last, s.splitOn nl = full ++ [last]
      ∧ ∀ t, (s ++ t).splitOn nl = full ++ (t.splitOn nl).modifyHead (last ++ ·) := by
  induction s with
  | nil =>
    refine ⟨[], [], rfl, fun t => ?_⟩
    show t.splitOn nl = (t.splitOn nl).modifyHead ([] ++ ·)
    cases t.splitOn nl <;> rfl
  | cons c s ih =>
    obtain ⟨full, last, hs, happend⟩ := ih
    by_cases hc : c = nl
    · have hsep : (c == nl) = true := beq_iff_eq.mpr hc
      refine ⟨[] :: full, last, ?_, fun t => ?_⟩
      · rw [List.splitOn_cons_eq_if_modifyHead, if_pos hsep, hs, List.cons_append]
      · rw [List.cons_append, List.splitOn_cons_eq_if_modifyHead, if_pos hsep, happend,
          List.cons_append]
    · have hchar : ¬ (c == nl) = true := fun h => hc (beq_iff_eq.mp h)
      -- the character belongs to the first piece, which is the last one or is not
      cases full with
      | nil =>
        refine ⟨[], c :: last, ?_, fun t => ?_⟩
        · rw [List.splitOn_cons_eq_if_modifyHead, if_neg hchar, hs]
          rfl
        · rw [List.cons_append, List.splitOn_cons_eq_if_modifyHead, if_neg hchar, happend]
          exact List.modifyHead_modifyHead ..
      | cons line full =>
        refine ⟨(c :: line) :: full, last, ?_, fun t => ?_⟩
        · rw [List.splitOn_cons_eq_if_modifyHead, if_neg hchar, hs]
          rfl
        · rw [List.cons_append, List.splitOn_cons_eq_if_modifyHead, if_neg hchar, happend]
          rfl

variable {nl} in
/-- **When a text goes on, its last piece does.** -/
theorem splitOn_append {s : List α} {full : List (List α)} {last : List α}
    (hs : s.splitOn nl = full ++ [last]) (t : List α) :
    (s ++ t).splitOn nl = full ++ (t.splitOn nl).modifyHead (last ++ ·) := by
  obtain ⟨full', last', hs', happend⟩ := exists_splitOn_append nl s
  obtain ⟨rfl, hlast⟩ := List.append_inj' (hs.symm.trans hs') rfl
  obtain rfl := List.singleton_inj.mp hlast
  exact happend t

variable {nl} in
/-- By a character it gets longer. -/
theorem splitOn_append_of_ne {s : List α} {full : List (List α)} {last : List α} {c : α}
    (hs : s.splitOn nl = full ++ [last]) (hc : c ≠ nl) :
    (s ++ [c]).splitOn nl = full ++ [last ++ [c]] := by
  rw [splitOn_append hs, List.splitOn_eq_singleton (by simpa using hc.symm)]
  rfl

variable {nl} in
/-- By a separator it is full. -/
theorem splitOn_append_self {s : List α} {full : List (List α)} {last : List α}
    (hs : s.splitOn nl = full ++ [last]) :
    (s ++ [nl]).splitOn nl = full ++ [last] ++ [[]] := by
  rw [List.splitOn_append_cons_self, hs]
  rfl

variable {nl} in
/-- However it goes on, a piece of it begins with the last one. -/
theorem exists_mem_splitOn_append {s : List α} {full : List (List α)} {last : List α}
    (hs : s.splitOn nl = full ++ [last]) (t : List α) :
    ∃ piece ∈ (s ++ t).splitOn nl, last <+: piece := by
  obtain ⟨piece, pieces, ht⟩ := List.exists_cons_of_ne_nil (List.splitOn_ne_nil nl t)
  rw [splitOn_append hs, ht, List.modifyHead_cons]
  exact ⟨last ++ piece, List.mem_append_right _ (List.mem_cons_self ..), List.prefix_append ..⟩

/-- What the lines of a text hold, put together, is the text without its
separators. -/
theorem flatten_lines (s : List α) : (lines nl s).flatten = s.filter (· ≠ nl) := by
  induction s with
  | nil => rfl
  | cons c s ih =>
    rw [lines]
    split
    · next hc =>
      rw [List.filter_cons_of_neg (by simpa using hc)]
      split
      · next hs =>
        subst hs
        rfl
      · rw [List.flatten_cons, List.nil_append, ih]
    · next hc =>
      obtain ⟨a, as, ha⟩ := List.exists_cons_of_ne_nil (lines_ne_nil nl s)
      rw [List.filter_cons_of_pos (by simpa using hc), ← ih, ha,
        List.modifyHead_cons, List.flatten_cons, List.flatten_cons, List.cons_append]

/-- **A text wrapped into lines of at most `L` characters**: `Wrapped m L g s t`
says that `t` is `s` with separators put in, each for at most `g` blanks that
it replaces, and each ending a line of at least `m` characters. -/
inductive Wrapped (m L g : ℕ) : List α → List α → Prop
  /-- What fits on a line stays as it is. -/
  | last {s : List α} : s.length ≤ L → Wrapped m L g s s
  /-- A line is cut off, and the blanks after it go with the cut. -/
  | brk {line rest t : List α} {j : ℕ} : m ≤ line.length → line.length ≤ L →
      j ≤ g → Wrapped m L g rest t →
      Wrapped m L g (line ++ (List.replicate j sp ++ rest)) (line ++ nl :: t)

variable {nl sp} {m L g : ℕ} {s t : List α}

omit [DecidableEq α] in
/-- A wrapped text is one under any weaker bounds on lines and blanks. -/
theorem Wrapped.mono {m' g' : ℕ} (h : Wrapped nl sp m L g s t) (hm : m' ≤ m)
    (hg : g ≤ g') : Wrapped nl sp m' L g' s t := by
  induction h with
  | last hL => exact .last hL
  | brk hline hL hj _ ih => exact .brk (Nat.le_trans hm hline) hL (Nat.le_trans hj hg) ih

/-- **No line of a wrapped text is too long.** -/
theorem Wrapped.length_le (h : Wrapped nl sp m L g s t) (hs : nl ∉ s) :
    ∀ l ∈ lines nl t, l.length ≤ L := by
  induction h with
  | last hL =>
    intro l hl
    rw [lines_of_notMem nl hs, List.mem_singleton] at hl
    exact hl ▸ hL
  | @brk line rest t j _ hL _ _ ih =>
    simp only [List.mem_append, not_or] at hs
    intro l hl
    rw [lines_append_cons nl hs.1] at hl
    split at hl
    · rw [List.mem_singleton] at hl
      exact hl ▸ hL
    · rcases List.mem_cons.mp hl with rfl | hl
      · exact hL
      · exact ih hs.2.2 l hl

/-- No line is too long either if the text had separators of its own: they cut the
lines shorter. -/
theorem Wrapped.length_le_of_mem_splitOn (h : Wrapped nl sp m L g s t) :
    ∀ l ∈ t.splitOn nl, l.length ≤ L := by
  induction h with
  | last hL => exact fun l hl => Nat.le_trans (LineBreaks.length_le_of_mem_splitOn nl hl) hL
  | @brk line rest t j _ hL _ _ ih =>
    intro l hl
    rw [List.splitOn_append_cons_self] at hl
    rcases List.mem_append.mp hl with hl | hl
    · exact Nat.le_trans (LineBreaks.length_le_of_mem_splitOn nl hl) hL
    · exact ih l hl

variable (nl sp) in
/-- **Nothing but line breaks is added**: `Broken g s t` says that `s` is `t` with
some of its separators replaced, each by at most `g` blanks. Every character of `t`
becomes a part of `s`, the character itself but for those separators. -/
def Broken (g : ℕ) (s t : List α) : Prop :=
  ∃ parts : List (List α), List.Forall₂
    (fun c part => part = [c] ∨ c = nl ∧ ∃ j ≤ g, part = List.replicate j sp) t parts
    ∧ parts.flatten = s

omit [DecidableEq α] in
/-- A text is itself with nothing added. -/
theorem Broken.refl (s : List α) : Broken nl sp g s s := by
  refine ⟨s.map (fun c => [c]), ?_, ?_⟩
  · rw [List.forall₂_map_right_iff, List.forall₂_same]
    exact fun _ _ => .inl rfl
  · rw [← List.flatMap_def, List.flatMap_singleton']

omit [DecidableEq α] in
/-- What is added in two parts of a text is added in the whole. -/
theorem Broken.append {s₁ s₂ t₁ t₂ : List α} (h₁ : Broken nl sp g s₁ t₁)
    (h₂ : Broken nl sp g s₂ t₂) : Broken nl sp g (s₁ ++ s₂) (t₁ ++ t₂) := by
  obtain ⟨parts₁, hparts₁, rfl⟩ := h₁
  obtain ⟨parts₂, hparts₂, rfl⟩ := h₂
  exact ⟨parts₁ ++ parts₂, List.rel_append hparts₁ hparts₂, List.flatten_append⟩

omit [DecidableEq α] in
/-- A separator is added for a few blanks. -/
theorem Broken.separator {j : ℕ} (hj : j ≤ g) :
    Broken nl sp g (List.replicate j sp) [nl] :=
  ⟨[List.replicate j sp], .cons (.inr ⟨rfl, j, hj, rfl⟩) .nil, by simp⟩

omit [DecidableEq α] in
/-- **A wrapper adds nothing but line breaks.** -/
theorem Wrapped.broken (h : Wrapped nl sp m L g s t) : Broken nl sp g s t := by
  induction h with
  | last _ => exact .refl _
  | @brk line rest t j _ _ hj _ ih =>
    exact (Broken.refl line).append ((Broken.separator hj).append ih)

/-- **Wrapping loses nothing but blanks**, and keeps the order of what it
keeps. -/
theorem Wrapped.filter_eq (h : Wrapped nl sp m L g s t) (hnl : nl ∉ s) :
    (lines nl t).flatten.filter (· ≠ sp) = s.filter (· ≠ sp) := by
  induction h with
  | last hL => rw [lines_of_notMem nl hnl, List.flatten_singleton]
  | @brk line rest t j _ _ _ _ ih =>
    simp only [List.mem_append, not_or] at hnl
    have hblank : (List.replicate j sp).filter (· ≠ sp) = [] := by
      rw [List.filter_eq_nil_iff]
      intro a ha
      simp [List.eq_of_mem_replicate ha]
    have hline : line.filter (· ≠ nl) = line := by
      refine List.filter_eq_self.mpr (fun a ha => ?_)
      have hne : a ≠ nl := fun e => hnl.1 (e ▸ ha)
      simpa using hne
    have hih := ih hnl.2.2
    rw [flatten_lines] at hih ⊢
    rw [List.filter_append, hline, List.filter_cons_of_neg (by simp),
      List.filter_append, hih, List.filter_append, List.filter_append, hblank,
      List.nil_append]

omit [DecidableEq α] in
/-- Where every line is cut with a character in it, the empty text is wrapped
as it is. -/
theorem Wrapped.eq_nil (h : Wrapped nl sp m L g s t) (hm : 1 ≤ m) (hs : s = []) :
    t = [] := by
  cases h with
  | last _ => exact hs
  | @brk line rest t j hline _ _ _ =>
    rw [List.append_eq_nil_iff] at hs
    rw [hs.1, List.length_nil] at hline
    omega

/-- **Lines that are never cut short are few**: a text of at most `m * n`
characters, wrapped into lines of at least `m`, has at most `n` lines. -/
theorem Wrapped.length_lines_le (h : Wrapped nl sp m L g s t) (hnl : nl ∉ s)
    (hm : 1 ≤ m) {n : ℕ} (hn : 1 ≤ n) (hlen : s.length ≤ m * n) :
    (lines nl t).length ≤ n := by
  induction h generalizing n with
  | last hL =>
    rw [lines_of_notMem nl hnl]
    exact hn
  | @brk line rest t j hline _ _ hrest ih =>
    simp only [List.mem_append, not_or] at hnl
    rw [lines_append_cons nl hnl.1]
    split
    · exact hn
    · next ht =>
      -- something is left after the cut, so the first line has not used up
      -- all of the `m * n` characters
      have hpos : 0 < rest.length :=
        List.length_pos_of_ne_nil (fun e => ht (hrest.eq_nil hm e))
      simp only [List.length_append, List.length_replicate] at hlen
      obtain ⟨n, rfl⟩ : ∃ k, n = k + 1 := ⟨n - 1, by omega⟩
      rw [Nat.mul_succ] at hlen
      have hn' : 1 ≤ n := by
        rcases Nat.eq_zero_or_pos n with rfl | hn'
        · rw [Nat.mul_zero] at hlen
          omega
        · exact hn'
      rw [List.length_cons]
      exact Nat.succ_le_succ (ih hnl.2.2 hn' (by omega))

omit [DecidableEq α] in
/-- Lines set one to a row, on a page with a row for each of them, read row by
row as they do in a row. -/
theorem flatMap_getD_range (ls : List (List α)) {n : ℕ} (hn : ls.length ≤ n) :
    (List.range n).flatMap (fun i => ls.getD i []) = ls.flatten := by
  induction ls generalizing n with
  | nil => simp
  | cons l ls ih =>
    obtain ⟨n, rfl⟩ : ∃ k, n = k + 1 := ⟨n - 1, by
      rw [List.length_cons] at hn
      omega⟩
    rw [List.range_succ_eq_map, List.flatMap_cons, List.flatMap_map, List.flatten_cons,
      ← ih (Nat.le_of_succ_le_succ hn)]
    rfl

end LineBreaks

/-! ## Cutters -/

namespace LineBreaks

/-- **A cutter** for lines of at most `L` characters: of a text that does not fit on
one, it tells where the first line ends and where the next one begins. -/
structure Cutter (α : Type*) (L : ℕ) where
  /-- How long the line is. -/
  cut : List α → ℕ
  /-- What the text loses with it. -/
  next : List α → ℕ
  /-- A line has a character. -/
  pos : ∀ s, L < s.length → 0 < cut s
  /-- A line fits. -/
  le : ∀ s, cut s ≤ L
  /-- The line is lost. -/
  cut_le_next : ∀ s, cut s ≤ next s

namespace Cutter

variable {α : Type*} {L : ℕ} (c : Cutter α L) (nl : α) {s : List α}

/-- The text behind the first line. -/
def rest (s : List α) : List α := s.drop (c.next s)

/-- Less is left behind a line. -/
theorem length_rest_lt (h : L < s.length) : (c.rest s).length < s.length := by
  rw [rest, List.length_drop]
  have hpos := c.pos s h
  have hle := c.cut_le_next s
  omega

/-- **The texts that are left** as a cutter goes on. -/
inductive Remaining (s : List α) : List α → Prop
  /-- The whole text. -/
  | whole : Remaining s s
  /-- What is left of one that does not fit. -/
  | rest {r : List α} : Remaining s r → L < r.length → Remaining s (c.rest r)

/-- **The text in lines.** -/
def wrap (s : List α) : List α :=
  if h : L < s.length then
    have := c.length_rest_lt h
    s.take (c.cut s) ++ nl :: wrap (c.rest s)
  else s
termination_by s.length

/-- A text that fits is one line. -/
theorem wrap_of_le (h : s.length ≤ L) : c.wrap nl s = s := by
  rw [wrap, dif_neg (Nat.not_lt.mpr h)]

/-- Of one that does not, a line is cut off. -/
theorem wrap_of_lt (h : L < s.length) :
    c.wrap nl s = s.take (c.cut s) ++ nl :: c.wrap nl (c.rest s) := by
  rw [wrap, dif_pos h]

/-- It goes over to what is in front. -/
theorem append_wrap_of_lt (done : List α) (h : L < s.length) :
    done ++ c.wrap nl s = done ++ s.take (c.cut s) ++ [nl] ++ c.wrap nl (c.rest s) := by
  rw [c.wrap_of_lt nl h, List.append_assoc, List.append_assoc, List.singleton_append]

/-- **The first character stays the first one.** -/
theorem head?_wrap (s : List α) : (c.wrap nl s).head? = s.head? := by
  by_cases h : L < s.length
  · have hpos := c.pos s h
    cases s with
    | nil => exact absurd h (Nat.not_lt_zero L)
    | cons a s =>
      obtain ⟨k, hk⟩ := Nat.exists_eq_succ_of_ne_zero (Nat.ne_of_gt hpos)
      rw [c.wrap_of_lt nl h, hk, List.take_succ_cons]
      rfl
  · rw [c.wrap_of_le nl (Nat.le_of_not_lt h)]

variable {c nl}

/-- What is left is not more than there was. -/
theorem Remaining.length_le {r : List α} (h : c.Remaining s r) : r.length ≤ s.length := by
  induction h with
  | whole => exact Nat.le_refl _
  | rest _ hlt ih => exact Nat.le_of_lt (Nat.lt_of_lt_of_le (c.length_rest_lt hlt) ih)

/-- **Two cutters that agree where something holds**: it holds of all that one of them
leaves when it holds of all that the other one leaves. -/
theorem forall_remaining_congr {d : Cutter α L} {P : List α → Prop}
    (hrest : ∀ r, L < r.length → P r → c.rest r = d.rest r) :
    (∀ r, c.Remaining s r → L < r.length → P r)
      ↔ ∀ r, d.Remaining s r → L < r.length → P r := by
  have hmove : ∀ {c d : Cutter α L}, (∀ r, L < r.length → P r → c.rest r = d.rest r) →
      (∀ r, c.Remaining s r → L < r.length → P r) →
      ∀ r, d.Remaining s r → L < r.length → P r := by
    intro c d hrest h r hr hlt
    refine h r ?_ hlt
    clear hlt
    induction hr with
    | whole => exact .whole
    | rest _ hlt ih => exact hrest _ hlt (h _ ih hlt) ▸ .rest ih hlt
  exact ⟨hmove hrest, hmove fun r hlt hP => (hrest r hlt hP).symm⟩

end Cutter

end LineBreaks
