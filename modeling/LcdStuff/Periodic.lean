import Mathlib.Algebra.Order.Ring.Int
import Mathlib.Data.List.Chain

/-!
# Work that is done again and again

A loop looks at the clock in every round. When the clock has passed a time that was set before, the
work of the round is done, the clock is read once more, and the time for the next work is set, some
interval behind that reading. How long the work takes is not known, and the rounds are not at fixed
times: all that is known of the clock is that it does not go back, and that one round begins no
more than some delay after the end of the one before it.

Between two works there is then more than the interval, and no more than the interval and the delay
(`Periodic.isChain_works`); and what the last work has found is never older than that
(`Periodic.now_le_of_getLast?`).
-/

namespace Periodic

/-- **A round of the loop**, with what the work finds if it is done. -/
structure Round (ι : Type*) where
  /-- What the clock says when it is looked at. -/
  now : Int
  /-- What it says behind the work, if the work is done. -/
  done : Int
  /-- What the work finds. -/
  input : ι
  deriving DecidableEq

variable {ι : Type*} {interval delay next last : Int}

/-- The time for the next work, behind a round. -/
def setNext (interval next : Int) (r : Round ι) : Int :=
  if next < r.now then r.done + interval else next

/-- What the clock said last, behind a round. -/
def reading (next : Int) (r : Round ι) : Int := if next < r.now then r.done else r.now

/-- **The rounds in which the work is done.** -/
def works (interval : Int) : Int → List (Round ι) → List (Round ι)
  | _, [] => []
  | next, r :: rounds =>
    (if next < r.now then [r] else []) ++ works interval (setNext interval next r) rounds

/-- The time for the next work, behind some rounds. -/
def nextAfter (interval next : Int) (rounds : List (Round ι)) : Int :=
  rounds.foldl (setNext interval) next

/-- What the clock said last, behind some rounds. -/
def lastReading (interval : Int) : Int → Int → List (Round ι) → Int
  | _, last, [] => last
  | next, _, r :: rounds => lastReading interval (setNext interval next r) (reading next r) rounds

/-- **The clock of some rounds**: it does not go back, and a round begins no more than the delay
after the clock was read last. -/
def Paced (interval delay : Int) : Int → Int → List (Round ι) → Prop
  | _, _, [] => True
  | next, last, r :: rounds => last ≤ r.now ∧ r.now ≤ last + delay ∧ r.now ≤ r.done
      ∧ Paced interval delay (setNext interval next r) (reading next r) rounds

/-- After a round the clock has not passed the next time by more than what a negative interval
sets it back. -/
theorem reading_le (next : Int) (r : Round ι) :
    reading next r ≤ setNext interval next r + max 0 (-interval) := by
  unfold reading setNext
  split
  · omega
  · omega

/-- **The first work** is not before its time, and no more than the delay after it. -/
theorem of_head?_works {rounds : List (Round ι)} (h : Paced interval delay next last rounds)
    {slack : Int} (hlast : last ≤ next + slack) {r : Round ι}
    (hr : (works interval next rounds).head? = some r) :
    next < r.now ∧ r.now ≤ next + max 0 slack + delay := by
  induction rounds generalizing next last slack with
  | nil => exact absurd hr (by simp [works])
  | cons first rounds ih =>
    obtain ⟨-, hdelay, -, hrest⟩ := h
    by_cases hdue : next < first.now
    · rw [works, if_pos hdue] at hr
      obtain rfl := Option.some.inj hr
      exact ⟨hdue, by omega⟩
    · have hnext : setNext interval next first = next := if_neg hdue
      have hreading : reading next first ≤ next + 0 := by
        unfold reading
        rw [if_neg hdue]
        omega
      rw [works, if_neg hdue, List.nil_append, hnext] at hr
      rw [hnext] at hrest
      obtain ⟨hlt, hle⟩ := ih hrest hreading hr
      exact ⟨hlt, by omega⟩

/-- **Between two works** there is more than the interval, and no more than the interval and the
delay. -/
theorem isChain_works {rounds : List (Round ι)} (h : Paced interval delay next last rounds) :
    (works interval next rounds).IsChain (fun r r' =>
      r.done + interval < r'.now ∧ r'.now ≤ r.done + max interval 0 + delay) := by
  induction rounds generalizing next last with
  | nil => exact .nil
  | cons r rounds ih =>
    obtain ⟨-, -, -, hrest⟩ := h
    by_cases hdue : next < r.now
    · have hnext : setNext interval next r = r.done + interval := if_pos hdue
      rw [works, if_pos hdue, List.singleton_append]
      refine List.isChain_cons.mpr ⟨fun r' hr' => ?_, ih hrest⟩
      obtain ⟨hlt, hle⟩ := of_head?_works hrest (reading_le next r) hr'
      rw [hnext] at hlt hle
      exact ⟨hlt, by omega⟩
    · rw [works, if_neg hdue, List.nil_append]
      exact ih hrest

/-- **The time for the next work** is set by the last one, or is the one at the start. -/
theorem nextAfter_eq (rounds : List (Round ι)) : nextAfter interval next rounds
    = (works interval next rounds).getLast?.elim next (fun r => r.done + interval) := by
  induction rounds generalizing next with
  | nil => rfl
  | cons first rounds ih =>
    show nextAfter interval (setNext interval next first) rounds = _
    rw [ih, works, List.getLast?_append]
    cases (works interval (setNext interval next first) rounds).getLast? with
    | some r => rfl
    | none =>
      by_cases hdue : next < first.now
      · rw [if_pos hdue]
        exact if_pos hdue
      · rw [if_neg hdue]
        exact if_neg hdue

/-- Behind every round the clock has not passed the next time by more than what a negative
interval sets it back. -/
theorem lastReading_le (rounds : List (Round ι)) (hlast : last ≤ next + max 0 (-interval)) :
    lastReading interval next last rounds
      ≤ nextAfter interval next rounds + max 0 (-interval) := by
  induction rounds generalizing next last with
  | nil => exact hlast
  | cons r rounds ih => exact ih (reading_le next r)

/-- **What the last work has found is never older** than the interval and the delay. -/
theorem now_le_of_getLast? {rounds : List (Round ι)} {now : Int}
    (hlast : last ≤ next + max 0 (-interval))
    (hnow : now ≤ lastReading interval next last rounds + delay) {r : Round ι}
    (hr : (works interval next rounds).getLast? = some r) :
    now ≤ r.done + max interval 0 + delay := by
  have hreading := lastReading_le rounds hlast
  rw [nextAfter_eq, hr, Option.elim_some] at hreading
  omega

/-- The work is done for the first time when the clock has passed the time at the start. -/
theorem works_ne_nil {rounds : List (Round ι)} (hlast : last ≤ next)
    (hnow : next < lastReading interval next last rounds) : works interval next rounds ≠ [] := by
  induction rounds generalizing last with
  | nil => exact absurd hnow (Int.not_lt.mpr hlast)
  | cons r rounds ih =>
    by_cases hdue : next < r.now
    · rw [works, if_pos hdue]
      exact List.cons_ne_nil _ _
    · have hnext : setNext interval next r = next := if_neg hdue
      have hreading : reading next r = r.now := if_neg hdue
      rw [lastReading, hnext, hreading] at hnow
      rw [works, if_neg hdue, hnext]
      exact ih (Int.not_lt.mp hdue) hnow

end Periodic
