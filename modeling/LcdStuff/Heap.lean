import Mathlib.Data.List.AList
import Mathlib.Data.Nat.Notation

/-!
# Memory in blocks

What a program allocates is a block that it knows by its address. It writes to the block
and reads it as long as it has not freed it, and afterwards it must do neither, nor free
it once more; and a block that nothing refers to any more is lost.

A heap is here the blocks that are allocated. An operation on an address at which there
is none has no result, so a run of operations that has one has made no such mistake, and
what is allocated behind it is what was not freed (`Heap.live`). An address is not used
twice, so that one that has been freed stays invalid.

What a part of a program owns is a list of cells, in any order, and a heap that holds
the cells of several parts, one list behind the other, holds them apart: `Heap.Holds` has
one rule for each operation, and the cells of the others are a frame that is left alone.
-/

/-- **The blocks that are allocated**, by their addresses. -/
structure Heap (β : Type*) where
  /-- The blocks. -/
  cells : AList (fun _ : ℕ => β)
  /-- The address of the next block. -/
  next : ℕ
  /-- There is no block at it, and has never been. -/
  fresh : ∀ p ∈ cells, p < next

namespace Heap

variable {β : Type*}

/-- A block at its address. -/
abbrev Cell (β : Type*) : Type _ := (_ : ℕ) × β

/-- Nothing is allocated. -/
def empty : Heap β := ⟨∅, 0, fun p hp => absurd hp (AList.notMem_empty p)⟩

/-- **A block is allocated**: its address. -/
def malloc (h : Heap β) (b : β) : ℕ × Heap β :=
  (h.next, ⟨h.cells.insert h.next b, h.next + 1, fun p hp => by
    rcases (AList.mem_insert h.cells).mp hp with rfl | hp
    · exact Nat.lt_succ_self _
    · exact Nat.lt_succ_of_lt (h.fresh p hp)⟩)

/-- The block at an address. -/
def read (h : Heap β) (p : ℕ) : Option β := h.cells.lookup p

/-- **A block is written.** -/
def write (h : Heap β) (p : ℕ) (b : β) : Option (Heap β) :=
  if p ∈ h.cells then
    some ⟨h.cells.replace p b, h.next, fun q hq => h.fresh q (AList.mem_replace.mp hq)⟩
  else none

/-- **A block is freed.** -/
def free (h : Heap β) (p : ℕ) : Option (Heap β) :=
  if p ∈ h.cells then
    some ⟨h.cells.erase p, h.next, fun q hq => h.fresh q (AList.mem_erase.mp hq).2⟩
  else none

/-- How many blocks are allocated. -/
def live (h : Heap β) : ℕ := h.cells.entries.length

/-- **The heap holds these cells and no others.** -/
def Holds (h : Heap β) (cells : List (Cell β)) : Prop := cells.Perm h.cells.entries

variable {h : Heap β} {cells cells' : List (Cell β)} {p : ℕ} {b : β}

theorem holds_empty : (empty : Heap β).Holds [] := List.Perm.refl _

namespace Holds

theorem perm (hh : h.Holds cells) (hperm : cells'.Perm cells) : h.Holds cells' :=
  hperm.trans hh

/-- The parts of the heap have no order. -/
theorem swap {a b : List (Cell β)} (hh : h.Holds (a ++ (b ++ cells))) :
    h.Holds (b ++ (a ++ cells)) := hh.perm (List.perm_append_comm_assoc b a cells)

theorem live_eq (hh : h.Holds cells) : h.live = cells.length := hh.length_eq.symm

theorem mem_cells (hh : h.Holds (⟨p, b⟩ :: cells)) : p ∈ h.cells := by
  have hmem : (⟨p, b⟩ : Cell β) ∈ h.cells.entries := hh.subset List.mem_cons_self
  exact AList.mem_keys.mpr (List.mem_keys_of_mem hmem)

/-- The addresses of the cells differ. -/
theorem nodupKeys (hh : h.Holds cells) : cells.NodupKeys :=
  (List.perm_nodupKeys hh).mpr h.cells.nodupKeys

/-- **A block that is held is read.** -/
theorem read (hh : h.Holds cells) (hmem : ⟨p, b⟩ ∈ cells) : h.read p = some b :=
  AList.mem_lookup_iff.mpr (hh.subset hmem)

/-- **A block that is allocated is held besides.** -/
theorem malloc (hh : h.Holds cells) (b : β) :
    ∃ p h', h.malloc b = (p, h') ∧ h'.Holds (⟨p, b⟩ :: cells) := by
  have hnext : h.next ∉ h.cells := fun hmem => Nat.lt_irrefl _ (h.fresh _ hmem)
  refine ⟨_, _, rfl, ?_⟩
  show (_ :: cells).Perm (h.cells.insert h.next b).entries
  rw [AList.entries_insert_of_notMem hnext]
  exact hh.cons _

/-- **A block that is held can be written.** -/
theorem write (hh : h.Holds (⟨p, b⟩ :: cells)) (b' : β) :
    ∃ h', h.write p b' = some h' ∧ h'.Holds (⟨p, b'⟩ :: cells) := by
  refine ⟨_, if_pos hh.mem_cells, ?_⟩
  have hperm := List.Perm.kreplace (a := p) (b := b') hh.nodupKeys hh
  have hhead : (⟨p, b⟩ :: cells : List (Cell β)).kreplace p b' = ⟨p, b'⟩ :: cells := by
    rw [List.kreplace, List.lookmap_cons_some _ _ (dif_pos rfl)]
  rw [hhead] at hperm
  exact hperm

/-- **A block that is held can be freed.** -/
theorem free (hh : h.Holds (⟨p, b⟩ :: cells)) :
    ∃ h', h.free p = some h' ∧ h'.Holds cells := by
  refine ⟨_, if_pos hh.mem_cells, ?_⟩
  have hperm := List.Perm.kerase (a := p) hh.nodupKeys hh
  have hhead : (⟨p, b⟩ :: cells : List (Cell β)).kerase p = cells := List.kerase_cons_eq rfl
  rw [hhead] at hperm
  exact hperm

/-- **Blocks that are held can be freed one after the other.** -/
theorem foldlM_free {owned : List (Cell β)} (hh : h.Holds (owned ++ cells)) :
    ∃ h', (owned.map Sigma.fst).foldlM Heap.free h = some h' ∧ h'.Holds cells := by
  induction owned generalizing h with
  | nil => exact ⟨h, rfl, hh⟩
  | cons cell owned ih =>
    obtain ⟨h₁, hfree, hh₁⟩ := hh.free
    obtain ⟨h', hrest, hh'⟩ := ih hh₁
    refine ⟨h', ?_, hh'⟩
    rw [List.map_cons, List.foldlM_cons, hfree]
    exact hrest

end Holds

/-! ## What is freed -/

/-- **There was a block at an address**, and it was freed. -/
structure Freed (h : Heap β) (p : ℕ) : Prop where
  /-- The address was given to a block. -/
  lt : p < h.next
  /-- The block is gone. -/
  notMem : p ∉ h.cells

namespace Freed

variable {h' : Heap β} {q : ℕ}

/-- **What was freed has no value.** -/
theorem read (hp : h.Freed p) : h.read p = none := AList.lookup_eq_none.mpr hp.notMem

/-- **A block is freed.** -/
theorem of_free (hfree : h.free p = some h') : h'.Freed p := by
  unfold Heap.free at hfree
  split at hfree
  · next hmem =>
    obtain rfl := Option.some.inj hfree
    exact ⟨h.fresh p hmem, fun hp => (AList.mem_erase.mp hp).1 rfl⟩
  · exact nomatch hfree

/-- Another one is freed. -/
theorem free (hp : h.Freed p) (hfree : h.free q = some h') : h'.Freed p := by
  unfold Heap.free at hfree
  split at hfree
  · obtain rfl := Option.some.inj hfree
    exact ⟨hp.lt, fun hmem => hp.notMem (AList.mem_erase.mp hmem).2⟩
  · exact nomatch hfree

/-- Another one is written. -/
theorem write (hp : h.Freed p) (hwrite : h.write q b = some h') : h'.Freed p := by
  unfold Heap.write at hwrite
  split at hwrite
  · obtain rfl := Option.some.inj hwrite
    exact ⟨hp.lt, fun hmem => hp.notMem (AList.mem_replace.mp hmem)⟩
  · exact nomatch hwrite

/-- **No block is allocated where one was freed.** -/
theorem malloc (hp : h.Freed p) (b : β) : (h.malloc b).2.Freed p := by
  refine ⟨Nat.lt_succ_of_lt hp.lt, fun hmem => ?_⟩
  rcases (AList.mem_insert h.cells).mp hmem with rfl | hmem
  · exact Nat.lt_irrefl _ hp.lt
  · exact hp.notMem hmem

end Freed

/-! ## Lists of objects -/

/-- **Objects in the memory**: for each address the value of the object and the cells that it
consists of. -/
inductive Each {α : Type*} (R : ℕ → α → List (Cell β) → Prop) :
    List ℕ → List α → List (Cell β) → Prop
  /-- No object. -/
  | nil : Each R [] [] []
  /-- An object, and others. -/
  | cons {p : ℕ} {x : α} {a : List (Cell β)} {ps : List ℕ} {xs : List α}
    {cells : List (Cell β)} (head : R p x a) (tail : Each R ps xs cells) :
    Each R (p :: ps) (x :: xs) (a ++ cells)

namespace Each

variable {α : Type*} {R : ℕ → α → List (Cell β) → Prop} {ps ps' : List ℕ} {xs xs' : List α}

/-- There are as many objects as addresses. -/
theorem length_eq (h : Each R ps xs cells) : ps.length = xs.length := by
  induction h with
  | nil => rfl
  | cons _ _ ih => exact congrArg (· + 1) ih

/-- No object has no cells. -/
theorem eq_nil (h : Each R ps [] cells) : cells = [] := by
  cases h
  rfl

/-- The objects, one by one: the cells of each are among those of all. -/
theorem forall₂ (h : Each R ps xs cells) :
    List.Forall₂ (fun p x => ∃ a, R p x a ∧ a ⊆ cells) ps xs := by
  induction h with
  | nil => exact .nil
  | cons head _ ih =>
    refine .cons ⟨_, head, List.subset_append_left _ _⟩ (ih.imp (fun p x hx => ?_))
    obtain ⟨a, hR, hsub⟩ := hx
    exact ⟨a, hR, List.subset_append_of_subset_right _ hsub⟩

/-- Objects behind other ones. -/
theorem append (h : Each R ps xs cells) (h' : Each R ps' xs' cells') :
    Each R (ps ++ ps') (xs ++ xs') (cells ++ cells') := by
  induction h with
  | nil => exact h'
  | cons head _ ih =>
    rw [List.append_assoc]
    exact .cons head ih

/-- One object more. -/
theorem concat {x : α} {a : List (Cell β)} (h : Each R ps xs cells) (hx : R p x a) :
    Each R (ps ++ [p]) (xs ++ [x]) (cells ++ a) := by
  have hsingle : Each R [p] [x] (a ++ []) := .cons hx .nil
  rw [List.append_nil] at hsingle
  exact h.append hsingle

/-- **The object at an index**: its cells are among those of all. -/
theorem getElem? (h : Each R ps xs cells) {i : ℕ} {x : α} (hx : xs[i]? = some x) :
    ∃ p a, ps[i]? = some p ∧ R p x a ∧ a ⊆ cells := by
  induction h generalizing i with
  | nil => exact absurd hx (by simp)
  | cons head _ ih =>
    cases i with
    | zero =>
      obtain rfl := Option.some.inj hx
      exact ⟨_, _, rfl, head, List.subset_append_left _ _⟩
    | succ i =>
      obtain ⟨p, a, hp, hR, hsub⟩ := ih hx
      exact ⟨p, a, hp, hR, List.subset_append_of_subset_right _ hsub⟩

/-- **Some objects, and the others.** -/
theorem take_drop (h : Each R ps xs cells) (k : ℕ) :
    ∃ a b, cells = a ++ b ∧ Each R (ps.take k) (xs.take k) a
      ∧ Each R (ps.drop k) (xs.drop k) b := by
  induction h generalizing k with
  | nil =>
    rw [List.take_nil, List.take_nil, List.drop_nil, List.drop_nil]
    exact ⟨[], [], rfl, .nil, .nil⟩
  | cons head tail ih =>
    cases k with
    | zero => exact ⟨[], _, rfl, .nil, .cons head tail⟩
    | succ k =>
      obtain ⟨a, b, rfl, htake, hdrop⟩ := ih k
      exact ⟨_, b, (List.append_assoc ..).symm, .cons head htake, hdrop⟩

/-- **Objects are freed one after the other**, if one is. -/
theorem foldlM_free (h : Each R ps xs cells) {free : Heap β → ℕ → Option (Heap β)}
    (hfree : ∀ {h : Heap β} {p x a frame}, R p x a → h.Holds (a ++ frame) →
      ∃ h', free h p = some h' ∧ h'.Holds frame)
    {heap : Heap β} {frame : List (Cell β)} (hh : heap.Holds (cells ++ frame)) :
    ∃ heap', ps.foldlM free heap = some heap' ∧ heap'.Holds frame := by
  induction h generalizing heap with
  | nil => exact ⟨heap, rfl, hh⟩
  | cons head _ ih =>
    rw [List.append_assoc] at hh
    obtain ⟨h₁, hfirst, hh₁⟩ := hfree head hh
    obtain ⟨h', hrest, hh'⟩ := ih hh₁
    refine ⟨h', ?_, hh'⟩
    rw [List.foldlM_cons, hfirst]
    exact hrest

end Each

end Heap
