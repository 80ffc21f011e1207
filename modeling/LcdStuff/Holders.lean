import Mathlib.Data.Finset.Card

/-!
# Counting holders

A counter that several parties share says how many of them hold something: a
reference, a registration, a lock. Each of them raises or lowers it by one, at
a time of its own, and what the counter is good for is what it says at zero:
that none of them holds it any more.

Here the parties that hold it are a predicate, and `holders` is their number.
When one party gains or loses its hold and the others keep theirs, the number
goes up or down by one (`holders_gain`, `holders_lose`), which is what a step
of a program does to the counter; and it is zero exactly when there is no
holder (`holders_eq_zero_iff`).
-/

variable {ι : Type*} {parties : Finset ι} {holds holds' : ι → Bool} {p : ι}

/-- **The number of parties that hold it.** -/
def holders (parties : Finset ι) (holds : ι → Bool) : ℕ :=
  (parties.filter (fun p => holds p = true)).card

/-- Only the parties count. -/
theorem holders_congr (h : ∀ p ∈ parties, holds p = holds' p) :
    holders parties holds = holders parties holds' :=
  congrArg Finset.card (Finset.filter_congr (fun p hp => by rw [h p hp]))

/-- **The counter at zero**: no party holds it. -/
theorem holders_eq_zero_iff :
    holders parties holds = 0 ↔ ∀ p ∈ parties, holds p = false := by
  unfold holders
  rw [Finset.card_eq_zero, Finset.filter_eq_empty_iff]
  exact forall₂_congr (fun p _ => by rw [Bool.not_eq_true])

variable [DecidableEq ι]

/-- **One party loses its hold.** -/
theorem holders_lose (hp : p ∈ parties) (hbefore : holds p = true) (hafter : holds' p = false)
    (hother : ∀ q, q ≠ p → holds' q = holds q) :
    holders parties holds' + 1 = holders parties holds := by
  have herase : parties.filter (fun q => holds' q = true)
      = (parties.filter (fun q => holds q = true)).erase p := by
    ext q
    rw [Finset.mem_erase, Finset.mem_filter, Finset.mem_filter]
    by_cases hq : q = p
    · subst hq
      simp [hafter]
    · rw [hother q hq]
      exact ⟨fun h => ⟨hq, h⟩, fun h => h.2⟩
  have hmem : p ∈ parties.filter (fun q => holds q = true) :=
    Finset.mem_filter.mpr ⟨hp, hbefore⟩
  unfold holders
  rw [herase, Finset.card_erase_add_one hmem]

/-- **One party gains its hold.** -/
theorem holders_gain (hp : p ∈ parties) (hbefore : holds p = false) (hafter : holds' p = true)
    (hother : ∀ q, q ≠ p → holds' q = holds q) :
    holders parties holds' = holders parties holds + 1 :=
  (holders_lose hp hafter hbefore (fun q hq => (hother q hq).symm)).symm
