import Mathlib.Data.List.Basic

/-!
# One text in two cuts

A text that is sent is cut into pieces by what carries it, and whoever reads it
may take each piece for itself. Two cuts of one text are compared here by the
places where their pieces begin (`pieceAt`): if a piece of the first cut does
something only where one of the second does, the pieces of both do the same, in
the same order, exactly when at every such place they do the same
(`filterMap_eq_filterMap_iff_pieceAt`).

Where a piece does something at a place of its own, the two may still do the
same by accident. Then all that can be said is that those which do something
are in step, whatever lies between them (`filterMap_eq_filterMap_iff_inStep`).
-/

namespace Pieces

variable {α β γ : Type*}

/-! ## Two lists in step -/

/-- **Two lists are in step**: those of the first that act and those of the second that ask
come in pairs, each in its order, of which one decides the other. -/
inductive InStep (Acts : α → Prop) (Asks : β → Prop) (Decides : α → β → Prop) :
    List α → List β → Prop
  /-- Nothing is left of either. -/
  | nil : InStep Acts Asks Decides [] []
  /-- One of the first that does not act. -/
  | skip {a : α} {l : List α} {l' : List β} (h : ¬ Acts a) (rest : InStep Acts Asks Decides l l') :
    InStep Acts Asks Decides (a :: l) l'
  /-- One of the second that does not ask. -/
  | ignore {b : β} {l : List α} {l' : List β} (h : ¬ Asks b)
    (rest : InStep Acts Asks Decides l l') : InStep Acts Asks Decides l (b :: l')
  /-- A pair. -/
  | pair {a : α} {b : β} {l : List α} {l' : List β} (h : Decides a b)
    (rest : InStep Acts Asks Decides l l') : InStep Acts Asks Decides (a :: l) (b :: l')

/-- **Two lists do the same in the same order exactly when they are in step.** -/
theorem filterMap_eq_filterMap_iff_inStep {Acts : α → Prop} {Asks : β → Prop}
    {Decides : α → β → Prop} {f : α → Option γ} {g : β → Option γ}
    (hacts : ∀ a, Acts a ↔ f a ≠ none) (hasks : ∀ b, Asks b ↔ g b ≠ none)
    (hdecides : ∀ a b, Decides a b ↔ f a ≠ none ∧ f a = g b) {l : List α} {l' : List β} :
    l.filterMap f = l'.filterMap g ↔ InStep Acts Asks Decides l l' := by
  constructor
  · induction l generalizing l' with
    | nil =>
      intro heq
      induction l' with
      | nil => exact .nil
      | cons b l' ih =>
        have hnone := List.filterMap_eq_nil_iff.mp heq.symm
        refine .ignore (fun hb => (hasks b).mp hb (hnone b (List.mem_cons_self ..))) (ih ?_)
        exact (List.filterMap_eq_nil_iff.mpr
          (fun c hc => hnone c (List.mem_cons_of_mem _ hc))).symm
    | cons a l ih =>
      intro heq
      cases hf : f a with
      | none =>
        rw [List.filterMap_cons_none hf] at heq
        exact .skip (fun ha => (hacts a).mp ha hf) (ih heq)
      | some c =>
        rw [List.filterMap_cons_some hf] at heq
        -- the first of the second list that asks is the partner
        induction l' with
        | nil => exact absurd heq (List.cons_ne_nil _ _)
        | cons b l' ih' =>
          cases hg : g b with
          | none =>
            rw [List.filterMap_cons_none hg] at heq
            exact .ignore (fun hb => (hasks b).mp hb hg) (ih' heq)
          | some d =>
            rw [List.filterMap_cons_some hg] at heq
            obtain ⟨rfl, hrest⟩ := List.cons.inj heq
            refine .pair ((hdecides a b).mpr ⟨?_, hf.trans hg.symm⟩) (ih hrest)
            rw [hf]
            exact Option.some_ne_none c
  · intro h
    induction h with
    | nil => rfl
    | skip hskip _ ih => rw [List.filterMap_cons_none (not_not.mp ((hacts _).not.mp hskip)), ih]
    | ignore hignore _ ih =>
      rw [List.filterMap_cons_none (not_not.mp ((hasks _).not.mp hignore)), ih]
    | @pair a b l l' hpair _ ih =>
      obtain ⟨hsome, heq⟩ := (hdecides a b).mp hpair
      obtain ⟨c, hf⟩ := Option.ne_none_iff_exists'.mp hsome
      rw [List.filterMap_cons_some hf, List.filterMap_cons_some (heq ▸ hf), ih]

/-! ## The places where pieces begin -/

/-- The piece that begins at a place of the text. -/
def pieceAt : List (List α) → ℕ → Option (List α)
  | [], _ => none
  | piece :: pieces, n =>
    if n = 0 then some piece
    else if n < piece.length then none
    else pieceAt pieces (n - piece.length)

/-- **A piece begins where those in front of it end.** -/
theorem pieceAt_eq_some_iff {pieces : List (List α)} (hne : ∀ piece ∈ pieces, piece ≠ [])
    {n : ℕ} {piece : List α} :
    pieceAt pieces n = some piece
      ↔ ∃ before after, pieces = before ++ piece :: after ∧ before.flatten.length = n := by
  induction pieces generalizing n with
  | nil =>
    refine ⟨fun h => absurd h nofun, fun ⟨before, after, h, _⟩ => ?_⟩
    exact absurd h (by simp)
  | cons first pieces ih =>
    obtain ⟨hfirst, hne⟩ := List.forall_mem_cons.mp hne
    have hpos : 0 < first.length := List.length_pos_iff.mpr hfirst
    rw [pieceAt]
    constructor
    · intro h
      split at h
      · next hzero =>
        obtain rfl := Option.some.inj h
        exact ⟨[], pieces, rfl, hzero.symm⟩
      · split at h
        · exact absurd h nofun
        · obtain ⟨before, after, rfl, hlen⟩ := (ih hne).mp h
          refine ⟨first :: before, after, rfl, ?_⟩
          rw [List.flatten_cons, List.length_append, hlen]
          omega
    · rintro ⟨before, after, heq, rfl⟩
      cases before with
      | nil =>
        obtain ⟨rfl, -⟩ := List.cons.inj heq
        exact if_pos rfl
      | cons other before =>
        obtain ⟨rfl, rfl⟩ := List.cons.inj heq
        rw [List.flatten_cons, List.length_append, if_neg (by omega), if_neg (by omega),
          Nat.add_sub_cancel_left]
        exact (ih hne).mpr ⟨before, after, rfl, rfl⟩

/-- A piece begins within the text. -/
theorem lt_of_pieceAt {pieces : List (List α)} (hne : ∀ piece ∈ pieces, piece ≠ []) {n : ℕ}
    {piece : List α} (h : pieceAt pieces n = some piece) : n < pieces.flatten.length := by
  obtain ⟨before, after, rfl, rfl⟩ := (pieceAt_eq_some_iff hne).mp h
  have hpos : 0 < piece.length := List.length_pos_iff.mpr (hne piece (by simp))
  rw [List.flatten_append, List.flatten_cons, List.length_append, List.length_append]
  omega

/-- **The pieces in their order are those that begin at the places of the
text**, one after the other. -/
theorem filterMap_eq_range {pieces : List (List α)} (hne : ∀ piece ∈ pieces, piece ≠ [])
    (act : List α → Option β) :
    pieces.filterMap act
      = (List.range pieces.flatten.length).filterMap (fun n => (pieceAt pieces n).bind act) := by
  induction pieces with
  | nil => rfl
  | cons first pieces ih =>
    obtain ⟨hfirst, hothers⟩ := List.forall_mem_cons.mp hne
    obtain ⟨c, rest, rfl⟩ := List.exists_cons_of_ne_nil hfirst
    have hinside : ((List.range rest.length).map Nat.succ).filterMap
        (fun n => (pieceAt ((c :: rest) :: pieces) n).bind act) = [] := by
      rw [List.filterMap_eq_nil_iff]
      intro n hn
      obtain ⟨k, hk, rfl⟩ := List.mem_map.mp hn
      have hlt : k + 1 < (c :: rest).length := Nat.succ_lt_succ (List.mem_range.mp hk)
      rw [pieceAt, if_neg (Nat.succ_ne_zero k), if_pos hlt]
      rfl
    have hbehind : ((List.range pieces.flatten.length).map ((c :: rest).length + ·)).filterMap
        (fun n => (pieceAt ((c :: rest) :: pieces) n).bind act) = pieces.filterMap act := by
      rw [ih hothers, List.filterMap_map]
      refine List.filterMap_congr (fun n _ => ?_)
      have hpos : 0 < (c :: rest).length := Nat.succ_pos rest.length
      rw [Function.comp_apply, pieceAt, if_neg (by omega), if_neg (by omega),
        Nat.add_sub_cancel_left]
    have hbegin : (0 :: (List.range rest.length).map Nat.succ).filterMap
        (fun n => (pieceAt ((c :: rest) :: pieces) n).bind act) = (act (c :: rest)).toList := by
      rw [List.filterMap_cons, hinside]
      show (match act (c :: rest) with | none => [] | some b => [b]) = _
      cases act (c :: rest) <;> rfl
    rw [List.flatten_cons, List.length_append, List.range_add, List.filterMap_append, hbehind,
      List.length_cons, List.range_succ_eq_map, hbegin, List.filterMap_cons]
    cases act (c :: rest) <;> rfl

/-- **If one function gives something only where the other does**, all that they
give is the same exactly when they are. -/
theorem filterMap_eq_filterMap_iff {l : List α} {f g : α → Option β}
    (h : ∀ a ∈ l, f a ≠ none → g a ≠ none) :
    l.filterMap f = l.filterMap g ↔ ∀ a ∈ l, f a = g a := by
  refine ⟨fun heq => ?_, fun heq => List.filterMap_congr heq⟩
  have hle : ∀ l : List α, (∀ a ∈ l, f a ≠ none → g a ≠ none) →
      (l.filterMap f).length ≤ (l.filterMap g).length := by
    intro l h
    induction l with
    | nil => exact Nat.le_refl 0
    | cons a l ih =>
      obtain ⟨ha, h⟩ := List.forall_mem_cons.mp h
      have ih := ih h
      cases hf : f a with
      | none =>
        rw [List.filterMap_cons_none hf, List.filterMap_cons]
        split
        · exact ih
        · exact Nat.le_succ_of_le ih
      | some b =>
        obtain ⟨c, hg⟩ := Option.ne_none_iff_exists'.mp (ha (by rw [hf]; exact nofun))
        rw [List.filterMap_cons_some hf, List.filterMap_cons_some hg]
        exact Nat.succ_le_succ ih
  induction l with
  | nil => exact fun a ha => absurd ha List.not_mem_nil
  | cons a l ih =>
    obtain ⟨ha, h⟩ := List.forall_mem_cons.mp h
    cases hf : f a with
    | none =>
      rw [List.filterMap_cons_none hf] at heq
      cases hg : g a with
      | none =>
        rw [List.filterMap_cons_none hg] at heq
        exact List.forall_mem_cons.mpr ⟨hf.trans hg.symm, ih h heq⟩
      | some c =>
        -- what the second gives here is one more than the first can give
        rw [List.filterMap_cons_some hg] at heq
        have hlen := congrArg List.length heq
        rw [List.length_cons] at hlen
        have hle := hle l h
        omega
    | some b =>
      obtain ⟨c, hg⟩ := Option.ne_none_iff_exists'.mp (ha (by rw [hf]; exact nofun))
      rw [List.filterMap_cons_some hf, List.filterMap_cons_some hg] at heq
      obtain ⟨rfl, hrest⟩ := List.cons.inj heq
      exact List.forall_mem_cons.mpr ⟨hf.trans hg.symm, ih h hrest⟩

/-- **Two cuts of one text**, of which the first does something only where the
second does, do the same in the same order exactly when at every place where the
second does something, a piece of the first does the same. -/
theorem filterMap_eq_filterMap_iff_pieceAt {pieces parts : List (List α)}
    (hflatten : pieces.flatten = parts.flatten) (hpieces : ∀ piece ∈ pieces, piece ≠ [])
    (hparts : ∀ part ∈ parts, part ≠ []) {act : List α → Option β}
    (h : ∀ n piece, pieceAt pieces n = some piece → act piece ≠ none →
      ∃ part, pieceAt parts n = some part ∧ act part ≠ none) :
    pieces.filterMap act = parts.filterMap act
      ↔ ∀ n part, pieceAt parts n = some part → act part ≠ none →
        ∃ piece, pieceAt pieces n = some piece ∧ act piece = act part := by
  have honly : ∀ n, (pieceAt pieces n).bind act ≠ none → (pieceAt parts n).bind act ≠ none := by
    intro n hn
    cases hpiece : pieceAt pieces n with
    | none => exact absurd (by rw [hpiece]; rfl) hn
    | some piece =>
      rw [hpiece] at hn
      obtain ⟨part, hpart, hact⟩ := h n piece hpiece hn
      rw [hpart]
      exact hact
  rw [filterMap_eq_range hpieces, filterMap_eq_range hparts, hflatten,
    filterMap_eq_filterMap_iff (fun n _ => honly n)]
  constructor
  · intro heq n part hpart hact
    have hn := heq n (List.mem_range.mpr (lt_of_pieceAt hparts hpart))
    rw [hpart] at hn
    cases hpiece : pieceAt pieces n with
    | none =>
      rw [hpiece] at hn
      exact absurd hn.symm hact
    | some piece =>
      rw [hpiece] at hn
      exact ⟨piece, rfl, hn⟩
  · intro hsame n _
    by_cases hnone : (pieceAt parts n).bind act = none
    · rw [hnone]
      by_contra hne
      exact honly n hne hnone
    · cases hpart : pieceAt parts n with
      | none => exact absurd (by rw [hpart]; rfl) hnone
      | some part =>
        rw [hpart] at hnone
        obtain ⟨piece, hpiece, heq⟩ := hsame n part hpart hnone
        rw [hpiece]
        exact heq

end Pieces
