import Mathlib.Data.Nat.Notation

/-!
# Threads as code

What one thread of a program does to the state it shares with others is given
here as a piece of structured code. Its atoms are the accesses to what is
shared; its tests are either of what is shared (`Code.unless`, `Code.until`)
or of what the thread has for itself, and of those nothing is known
(`Code.either`, `Code.many`). What is left to do is a list of such pieces, and
`Code.step` takes one test or one access of it, so that other threads may run
before each of them.

A `Discipline` says in which order a thread may make its accesses, as an
automaton that the accesses move. Whether code keeps to a discipline is
*computed* from the code (`Discipline.meets`), going backwards from what is
asked at its end, and `Discipline.meets_of_step` says that a step of the code
keeps to it, whatever the tests answer and however the thread is interleaved
with others. A discipline may count on the answer of a test of what is shared,
as long as the test does answer so.
-/

/-- **A piece of code**, with accesses `ω` and tests `γ` of what is shared. -/
inductive Code (ω γ : Type*) where
  /-- Nothing. -/
  | skip
  /-- An access. -/
  | act (a : ω)
  /-- One piece after another. -/
  | seq (p q : Code ω γ)
  /-- `if (!c) p` -/
  | unless (c : γ) (p : Code ω γ)
  /-- `while (!c) p` -/
  | until (c : γ) (p : Code ω γ)
  /-- One of two pieces. -/
  | either (p q : Code ω γ)
  /-- A piece any number of times. -/
  | many (p : Code ω γ)
  /-- `return` -/
  | ret
  deriving DecidableEq, Repr

namespace Code

variable {ω γ : Type*}

/-- Pieces one after another. -/
def chain : List (Code ω γ) → Code ω γ
  | [] => .skip
  | p :: ps => .seq p (chain ps)

/-- The code makes no other accesses than these, and comes to its end. -/
def only (free : ω → Bool) : Code ω γ → Bool
  | .skip => true
  | .act a => free a
  | .seq p q => only free p && only free q
  | .unless _ p => only free p
  | .until _ _ => false
  | .either p q => only free p && only free q
  | .many p => only free p
  | .ret => false

/-- **A step of what is left to do**: the access that is made, if any, and what
is then left. `eval` answers the tests of what is shared, and `choice` the
others. There is none when nothing is left. -/
def step (eval : γ → Bool) (choice : Bool) :
    List (Code ω γ) → Option (Option ω × List (Code ω γ))
  | [] => none
  | .skip :: k => some (none, k)
  | .act a :: k => some (some a, k)
  | .seq p q :: k => some (none, p :: q :: k)
  | .unless c p :: k => some (none, if eval c then k else p :: k)
  | .until c p :: k => some (none, if eval c then k else p :: .until c p :: k)
  | .either p q :: k => some (none, if choice then p :: k else q :: k)
  | .many p :: k => some (none, if choice then p :: .many p :: k else k)
  | .ret :: _ => some (none, [])

end Code

/-- **The order in which a thread may make its accesses.** -/
structure Discipline (ω γ τ : Type*) where
  /-- Where an access leads, if it may be made. -/
  next : ω → τ → Option τ
  /-- The answers that a test may give. -/
  possible : γ → Bool → Bool
  /-- Where the thread may end. -/
  final : τ → Bool

namespace Discipline

variable {ω γ τ : Type*} [DecidableEq τ] (D : Discipline ω γ τ)

/-- Where a step leads that makes an access, or none. -/
def after : Option ω → τ → Option τ
  | none, t => some t
  | some a, t => D.next a t

/-- **The code keeps to the discipline** from a place on, and reaches its end in
a place that `post` holds of. The body of a loop comes back to where it began. -/
def meets : Code ω γ → (τ → Bool) → τ → Bool
  | .skip, post, t => post t
  | .act a, post, t => (D.next a t).any post
  | .seq p q, post, t => meets p (meets q post) t
  | .unless c p, post, t =>
    (!D.possible c true || post t) && (!D.possible c false || meets p post t)
  | .until c p, post, t =>
    (!D.possible c true || post t) && (!D.possible c false || meets p (fun u => u == t) t)
  | .either p q, post, t => meets p post t && meets q post t
  | .many p, post, t => post t && meets p (fun u => u == t) t
  | .ret, _, t => D.final t

/-- What is left to do keeps to the discipline from a place on. -/
def meetsAll : List (Code ω γ) → τ → Bool
  | [], t => D.final t
  | p :: k, t => D.meets p (meetsAll k) t

variable {D} {p q : Code ω γ} {ps : List (Code ω γ)} {post : τ → Bool} {t : τ}

theorem meets_chain_nil : D.meets (Code.chain []) post t = post t := rfl

theorem meets_chain_cons :
    D.meets (Code.chain (p :: ps)) post t = D.meets p (D.meets (Code.chain ps) post) t := rfl

theorem meets_skip : D.meets .skip post t = post t := rfl

theorem meets_either :
    D.meets (.either p q) post t = (D.meets p post t && D.meets q post t) := rfl

theorem meets_ret : D.meets .ret post t = D.final t := rfl

/-- Less may be asked at the end. -/
theorem meets_mono {p : Code ω γ} {post post' : τ → Bool}
    (h : ∀ t, post t = true → post' t = true) {t : τ} (hp : D.meets p post t = true) :
    D.meets p post' t = true := by
  induction p generalizing post post' t with
  | skip => exact h t hp
  | act a =>
    obtain ⟨u, hu, hpost⟩ := (Option.any_eq_true _ _).mp hp
    exact (Option.any_eq_true _ _).mpr ⟨u, hu, h u hpost⟩
  | seq p q ihp ihq => exact ihp (fun u hu => ihq h hu) hp
  | «unless» c p ih =>
    simp only [meets, Bool.and_eq_true, Bool.or_eq_true] at hp ⊢
    exact ⟨hp.1.imp_right (h t), hp.2.imp_right (ih h)⟩
  | «until» c p =>
    simp only [meets, Bool.and_eq_true, Bool.or_eq_true] at hp ⊢
    exact ⟨hp.1.imp_right (h t), hp.2⟩
  | either p q ihp ihq =>
    simp only [meets, Bool.and_eq_true] at hp ⊢
    exact ⟨ihp h hp.1, ihq h hp.2⟩
  | many p =>
    simp only [meets, Bool.and_eq_true] at hp ⊢
    exact ⟨h t hp.1, hp.2⟩
  | ret => exact hp

/-- A body that comes back to where it began may be followed by what can be done
from there. -/
theorem meets_of_back {p : Code ω γ} {post : τ → Bool} {t : τ}
    (hp : D.meets p (fun u => u == t) t = true) (h : post t = true) :
    D.meets p post t = true :=
  meets_mono (fun _ hu => beq_iff_eq.mp hu ▸ h) hp

/-- The discipline takes no notice of the code. -/
def Ignores (D : Discipline ω γ τ) (p : Code ω γ) : Prop :=
  ∀ post t, D.meets p post t = post t

/-- **No notice is taken** of accesses that lead nowhere. -/
theorem ignores_of_only {free : ω → Bool}
    (hfree : ∀ a, free a = true → ∀ t, D.next a t = some t)
    (hpossible : ∀ c, D.possible c true = true ∨ D.possible c false = true)
    {p : Code ω γ} (hp : p.only free = true) : D.Ignores p := by
  induction p with
  | skip => exact fun _ _ => rfl
  | act a =>
    intro post t
    rw [meets, hfree a hp t]
    rfl
  | seq p q ihp ihq =>
    obtain ⟨hp, hq⟩ := Bool.and_eq_true_iff.mp hp
    intro post t
    rw [meets, ihp hp, ihq hq post t]
  | «unless» c p ih =>
    intro post t
    rw [meets, ih hp post t]
    rcases hpossible c with h | h <;> rw [h] <;> cases post t <;> simp
  | «until» c p => exact absurd hp Bool.false_ne_true
  | either p q ihp ihq =>
    obtain ⟨hp, hq⟩ := Bool.and_eq_true_iff.mp hp
    intro post t
    rw [meets, ihp hp post t, ihq hq post t, Bool.and_self]
  | many p ih =>
    intro post t
    rw [meets, ih hp _ t, beq_self_eq_true, Bool.and_true]
  | ret => exact absurd hp Bool.false_ne_true

/-- **A step keeps to the discipline**, when the tests of what is shared answer
as the discipline counts on. -/
theorem meets_of_step {eval : γ → Bool} {choice : Bool}
    (heval : ∀ c, D.possible c (eval c) = true) {k k' : List (Code ω γ)} {t : τ}
    {a : Option ω} (hk : D.meetsAll k t = true)
    (h : Code.step eval choice k = some (a, k')) :
    ∃ u, D.after a t = some u ∧ D.meetsAll k' u = true := by
  match k with
  | [] => exact absurd h (by simp [Code.step])
  | .skip :: k =>
    cases h
    exact ⟨t, rfl, hk⟩
  | .act a :: k =>
    cases h
    exact (Option.any_eq_true _ _).mp hk
  | .seq p q :: k =>
    cases h
    exact ⟨t, rfl, hk⟩
  | .unless c p :: k =>
    cases h
    refine ⟨t, rfl, ?_⟩
    have hc := heval c
    simp only [meetsAll, meets, Bool.and_eq_true, Bool.or_eq_true, Bool.not_eq_true'] at hk
    cases hans : eval c with
    | true =>
      rw [hans] at hc
      exact hk.1.resolve_left (by rw [hc]; decide)
    | false =>
      rw [hans] at hc
      exact hk.2.resolve_left (by rw [hc]; decide)
  | .until c p :: k =>
    cases h
    refine ⟨t, rfl, ?_⟩
    have hc := heval c
    have hloop := hk
    simp only [meetsAll, meets, Bool.and_eq_true, Bool.or_eq_true, Bool.not_eq_true'] at hk
    cases hans : eval c with
    | true =>
      rw [hans] at hc
      exact hk.1.resolve_left (by rw [hc]; decide)
    | false =>
      rw [hans] at hc
      exact meets_of_back (hk.2.resolve_left (by rw [hc]; decide)) hloop
  | .either p q :: k =>
    cases h
    refine ⟨t, rfl, ?_⟩
    simp only [meetsAll, meets, Bool.and_eq_true] at hk
    cases choice with
    | true => exact hk.1
    | false => exact hk.2
  | .many p :: k =>
    cases h
    refine ⟨t, rfl, ?_⟩
    have hloop := hk
    simp only [meetsAll, meets, Bool.and_eq_true] at hk
    cases choice with
    | true => exact meets_of_back hk.2 hloop
    | false => exact hk.1
  | .ret :: k =>
    cases h
    exact ⟨t, rfl, hk⟩

end Discipline
