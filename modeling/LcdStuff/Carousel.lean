import Mathlib.Algebra.Order.Ring.Int
import Mathlib.Data.List.Basic
import Mathlib.Data.List.Nodup
import Mathlib.Data.List.Perm.Subperm

/-!
# Positions that go around

A list of things of which one is shown at a time has a position. It is moved by one, forward or
back, without a look at the ends, and is then pulled back: in front of the first place it becomes
the last, and behind the last the first. As long as it is moved by one this is the position modulo
the number of places (`Carousel.foldl_move`), and so a full turn in one direction comes by every
place once (`Carousel.perm_turn`).

Without a place there is nothing to go around. A position that is pulled back is then `0` or `-1`
(`Carousel.clamp_zero`).
-/

namespace Carousel

/-- **A position pulled back into `tot` places.** -/
def clamp (tot pos : Int) : Int :=
  if pos < 0 then tot - 1 else if tot ≤ pos then 0 else pos

/-- **A move**, and then the position is pulled back. -/
def move (tot pos d : Int) : Int := clamp tot (pos + d)

/-- The place where a walk along a list, counting from `i`, meets the position. -/
def itemAt {α : Type*} (pos : Int) : List α → Int → Option α
  | [], _ => none
  | item :: cur, i => if i = pos then some item else itemAt pos cur (i + 1)

/-- A move by one place. -/
def IsStep (d : Int) : Prop := d = 1 ∨ d = -1

instance (d : Int) : Decidable (IsStep d) := inferInstanceAs (Decidable (_ ∨ _))

variable {tot pos d : Int}

/-- A position that is one of the places stays. -/
theorem clamp_of_mem (h₀ : 0 ≤ pos) (h : pos < tot) : clamp tot pos = pos := by
  unfold clamp
  rw [if_neg (Int.not_lt.mpr h₀), if_neg (Int.not_le.mpr h)]

/-- **Where there is a place**, the position that is pulled back is one. -/
theorem clamp_mem (htot : 0 < tot) (pos : Int) : 0 ≤ clamp tot pos ∧ clamp tot pos < tot := by
  unfold clamp
  split
  · omega
  · split <;> omega

/-- **Where there is none**, it is `0` or `-1`. -/
theorem clamp_zero (pos : Int) : clamp 0 pos = -1 ∨ clamp 0 pos = 0 := by
  unfold clamp
  split
  · exact .inl rfl
  · rw [if_pos (by omega)]
    exact .inr rfl

/-- A position that was pulled back stays. -/
theorem clamp_clamp (htot : 0 ≤ tot) (pos : Int) : clamp tot (clamp tot pos) = clamp tot pos := by
  rcases Int.lt_or_eq_of_le htot with hpos | rfl
  · exact clamp_of_mem (clamp_mem hpos pos).1 (clamp_mem hpos pos).2
  · rcases clamp_zero pos with hclamp | hclamp
    · rw [hclamp]
      rfl
    · rw [hclamp]
      rfl

/-- **A move by one place is one modulo their number.** -/
theorem move_eq_emod (h₀ : 0 ≤ pos) (h : pos < tot) (hd : IsStep d) :
    move tot pos d = (pos + d) % tot := by
  unfold move clamp
  rcases hd with rfl | rfl
  · rw [if_neg (by omega)]
    split
    · have hlast : pos + 1 = tot := by omega
      rw [hlast, Int.emod_self]
    · exact (Int.emod_eq_of_lt (by omega) (by omega)).symm
  · split
    · have hfirst : pos + -1 = tot - 1 + tot * -1 := by omega
      rw [hfirst, Int.add_mul_emod_self_left]
      exact (Int.emod_eq_of_lt (by omega) (by omega)).symm
    · rw [if_neg (by omega)]
      exact (Int.emod_eq_of_lt (by omega) (by omega)).symm

/-- **Many moves by one place** are their sum, modulo the number of places. -/
theorem foldl_move {ds : List Int} (h₀ : 0 ≤ pos) (h : pos < tot) (hds : ∀ d ∈ ds, IsStep d) :
    ds.foldl (move tot) pos = (pos + ds.sum) % tot := by
  induction ds generalizing pos with
  | nil =>
    rw [List.sum_nil, Int.add_zero]
    exact (Int.emod_eq_of_lt h₀ h).symm
  | cons d ds ih =>
    have hmem : 0 ≤ move tot pos d ∧ move tot pos d < tot :=
      clamp_mem (Int.lt_of_le_of_lt h₀ h) (pos + d)
    show ds.foldl (move tot) (move tot pos d) = _
    rw [ih hmem.1 hmem.2 (fun d hd => hds d (List.mem_cons_of_mem _ hd)),
      move_eq_emod h₀ h (hds d (List.mem_cons_self ..)), List.sum_cons, Int.emod_add_emod,
      Int.add_assoc]

/-- **The positions on the way**, the first included. -/
theorem scanl_move {ds : List Int} (h₀ : 0 ≤ pos) (h : pos < tot) (hds : ∀ d ∈ ds, IsStep d) :
    ds.scanl (move tot) pos
      = (List.range (ds.length + 1)).map (fun k => (pos + (ds.take k).sum) % tot) := by
  refine List.ext_getElem ?_ (fun k hk _ => ?_)
  · rw [List.length_scanl, List.length_map, List.length_range]
  · rw [List.getElem_scanl, List.getElem_map, List.getElem_range]
    exact foldl_move h₀ h (fun d hd => hds d (List.mem_of_mem_take hd))

/-- The positions behind each of the moves. -/
theorem tail_scanl_move {ds : List Int} (h₀ : 0 ≤ pos) (h : pos < tot)
    (hds : ∀ d ∈ ds, IsStep d) : (ds.scanl (move tot) pos).tail
      = (List.range ds.length).map (fun k => (pos + (ds.take (k + 1)).sum) % tot) := by
  rw [scanl_move h₀ h hds, List.range_succ_eq_map, List.map_cons, List.tail_cons, List.map_map]
  rfl

/-- Every place is come to by moves the same way, of which there are no more than places. -/
theorem exists_emod_eq {tot : ℕ} {j : Int} (h₀ : 0 ≤ j) (h : j < tot) (pos : Int)
    (hd : IsStep d) : ∃ k < tot, (pos + ((k : ℕ) + 1) * d) % tot = j := by
  have htot : (0 : Int) < tot := Int.lt_of_le_of_lt h₀ h
  have hnonneg := Int.emod_nonneg ((j - pos) * d - 1) (Int.ne_of_gt htot)
  obtain ⟨k, hk⟩ := Int.eq_ofNat_of_zero_le hnonneg
  have hlt := Int.emod_lt_of_pos ((j - pos) * d - 1) htot
  refine ⟨k, by omega, ?_⟩
  rw [← hk]
  rcases hd with rfl | rfl
  · have hsum : pos + (((j - pos) * 1 - 1) % tot + 1) * 1
        = ((j - pos) * 1 - 1) % tot + (pos + 1) := by omega
    have hplace : (j - pos) * 1 - 1 + (pos + 1) = j := by omega
    rw [hsum, Int.emod_add_emod, hplace, Int.emod_eq_of_lt h₀ h]
  · have hsum : pos + (((j - pos) * -1 - 1) % tot + 1) * -1
        = pos - 1 - ((j - pos) * -1 - 1) % tot := by omega
    have hplace : pos - 1 - ((j - pos) * -1 - 1) = j := by omega
    rw [hsum, Int.sub_emod, Int.emod_emod, ← Int.sub_emod, hplace, Int.emod_eq_of_lt h₀ h]

/-- **A full turn comes by every place once**, when all moves go the same way. -/
theorem perm_turn {tot : ℕ} (h₀ : 0 ≤ pos) (h : pos < tot) (hd : IsStep d) :
    ((List.replicate tot d).scanl (move tot) pos).tail.Perm ((List.range tot).map Int.ofNat) := by
  have hrun : ((List.replicate tot d).scanl (move tot) pos).tail
      = (List.range tot).map (fun k : ℕ => (pos + (k + 1) * d) % tot) := by
    rw [tail_scanl_move h₀ h (fun e he => List.eq_of_mem_replicate he ▸ hd),
      List.length_replicate]
    refine List.map_congr_left (fun k hk => ?_)
    have hle : k + 1 ≤ tot := List.mem_range.mp hk
    rw [List.take_replicate, Nat.min_eq_left hle, List.sum_replicate_int, Int.natCast_succ]
  have hsubset : (List.range tot).map Int.ofNat ⊆
      (List.range tot).map (fun k : ℕ => (pos + (k + 1) * d) % tot) := by
    intro place hplace
    obtain ⟨j, hj, rfl⟩ := List.mem_map.mp hplace
    obtain ⟨k, hk, hplace⟩ := exists_emod_eq (Int.natCast_nonneg j)
      (Int.ofNat_lt.mpr (List.mem_range.mp hj)) pos hd
    exact List.mem_map.mpr ⟨k, List.mem_range.mpr hk, hplace⟩
  have hnodup : ((List.range tot).map Int.ofNat).Nodup :=
    List.nodup_range.map (fun _ _ heq => Int.ofNat.inj heq)
  rw [hrun]
  have hlength : ((List.range tot).map (fun k : ℕ => (pos + (k + 1) * d) % tot)).length
      = ((List.range tot).map Int.ofNat).length := by rw [List.length_map, List.length_map]
  exact ((List.subperm_of_subset hnodup hsubset).perm_of_length_le (Nat.le_of_eq hlength)).symm

/-- Without a place, every move leads to one of the two positions. -/
theorem of_mem_tail_scanl_move {ds : List Int} {place : Int}
    (h : place ∈ (ds.scanl (move 0) pos).tail) : place = -1 ∨ place = 0 := by
  obtain ⟨i, hi, rfl⟩ := List.mem_iff_getElem.mp h
  rw [List.getElem_tail, List.getElem_succ_scanl]
  exact clamp_zero _

/-- A walk meets the position at the place it is the number of. -/
theorem itemAt_add {α : Type*} (l : List α) (i : Int) (k : ℕ) : itemAt (i + k) l i = l[k]? := by
  induction l generalizing i k with
  | nil => rfl
  | cons a l ih =>
    cases k with
    | zero => exact if_pos (Int.add_zero i).symm
    | succ k =>
      have hnext : i + ((k + 1 : ℕ) : Int) = i + 1 + k := by omega
      rw [itemAt, if_neg (by omega), List.getElem?_cons_succ, hnext, ih]

/-- **A walk from the first place** finds what is there. -/
theorem itemAt_zero {α : Type*} (l : List α) (h₀ : 0 ≤ pos) :
    itemAt pos l 0 = l[pos.toNat]? := by
  have hadd := itemAt_add l 0 pos.toNat
  rwa [Int.zero_add, Int.toNat_of_nonneg h₀] at hadd

/-- **Two lists in step**: what a walk finds in one belongs to what it finds in the other. -/
theorem itemAt_rel {α β : Type*} {R : α → β → Prop} {l : List α} {l' : List β}
    (h : List.Forall₂ R l l') (pos i : Int) : Option.Rel R (itemAt pos l i) (itemAt pos l' i) := by
  induction h generalizing i with
  | nil => exact .none
  | cons head _ ih =>
    rw [itemAt, itemAt]
    by_cases hi : i = pos
    · rw [if_pos hi, if_pos hi]
      exact .some head
    · rw [if_neg hi, if_neg hi]
      exact ih (i + 1)

/-- The places of a list, one after the other, are all that is in it. -/
theorem map_itemAt_range {α : Type*} (l : List α) :
    ((List.range l.length).map Int.ofNat).map (itemAt · l 0) = l.map some := by
  refine List.ext_getElem ?_ (fun k hk _ => ?_)
  · rw [List.length_map, List.length_map, List.length_range, List.length_map]
  · rw [List.getElem_map, List.getElem_map, List.getElem_range, List.getElem_map]
    rw [List.length_map, List.length_map, List.length_range] at hk
    exact (itemAt_zero l (Int.natCast_nonneg k)).trans (List.getElem?_eq_getElem hk)

/-- What a walk finds is in the list. -/
theorem mem_of_itemAt {α : Type*} {l : List α} {i : Int} {a : α} (h : itemAt pos l i = some a) :
    a ∈ l := by
  induction l generalizing i with
  | nil => exact nomatch h
  | cons b l ih =>
    unfold itemAt at h
    split at h
    · obtain rfl := Option.some.inj h
      exact List.mem_cons_self ..
    · exact List.mem_cons_of_mem _ (ih h)

end Carousel
