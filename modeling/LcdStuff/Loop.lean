import Mathlib.Data.Nat.Notation

/-!
# Loops run with fuel

A `while` loop of an imperative program need not end, so a total language
cannot hold it as a function of its state alone. Here a loop is its *body*,
a function that says of a state either that the loop goes around again or
that it is left with a result, and `Loop.run` goes around at most as often as
its fuel allows. Running out of fuel is `none`: it says that the loop is
still running, never what it would have returned.

The body itself may be `none`, because a loop inside it can run out of fuel
too. A nest of loops is then one function of one fuel, and `Loop.run_mono`
says that more fuel never changes an answer that less fuel gave.

Three rules carry every proof about a loop. An invariant bounds what a loop
that is left can return (`Loop.run_invariant`); a variant shows that it is
left (`Loop.exists_run_of_variant`); and an invariant under which the body
always goes around again shows that it never is (`Loop.run_eq_none`). A relation
that the rounds of two loops keep carries one over to the other (`Loop.run_rel`). A loop that
stops in some of its rounds ends as one that does not, unless it comes to one of them
(`Loop.run_guarded`).

Where it matters how a nest of loops ends and not when, the fuel is in the way.
`Loop.Ends` says how a loop ends without it, by what a round can do, and
`Loop.exists_run_iff_ends` that this is what some fuel gives.
-/

namespace Loop

variable {σ β : Type*}

/-- **A loop, for at most `n` rounds.** `body s` is `some (inl s')` when the
loop goes around again in `s'`, `some (inr b)` when it is left with `b`, and
`none` when something inside the body has not ended. -/
def run (body : σ → Option (σ ⊕ β)) : ℕ → σ → Option β
  | 0, _ => none
  | n + 1, s =>
    match body s with
    | none => none
    | some (.inr b) => some b
    | some (.inl s') => run body n s'

@[simp] theorem run_zero (body : σ → Option (σ ⊕ β)) (s : σ) :
    run body 0 s = none := rfl

/-- A round that goes around again costs one unit of fuel. -/
theorem run_of_inl {body : σ → Option (σ ⊕ β)} {s s' : σ}
    (h : body s = some (.inl s')) (n : ℕ) :
    run body (n + 1) s = run body n s' := by
  rw [run, h]

/-- A round that leaves the loop gives its result. -/
theorem run_of_inr {body : σ → Option (σ ⊕ β)} {s : σ} {b : β}
    (h : body s = some (.inr b)) (n : ℕ) :
    run body (n + 1) s = some b := by
  rw [run, h]

/-- **More fuel never changes an answer**, in the loop or in the loops its
body runs. -/
theorem run_mono {body body' : σ → Option (σ ⊕ β)}
    (hbody : ∀ s r, body s = some r → body' s = some r) {n m : ℕ}
    (hnm : n ≤ m) {s : σ} {b : β} (h : run body n s = some b) :
    run body' m s = some b := by
  induction n generalizing m s with
  | zero => exact absurd h (by simp)
  | succ n ih =>
    obtain ⟨m, rfl⟩ : ∃ k, m = k + 1 := ⟨m - 1, by omega⟩
    rw [run] at h
    cases hs : body s with
    | none => rw [hs] at h; exact absurd h (by simp)
    | some r =>
      rw [hs] at h
      cases r with
      | inl s' =>
        rw [run_of_inl (hbody s _ hs)]
        exact ih (by omega) h
      | inr b' =>
        rw [run_of_inr (hbody s _ hs)]
        exact h

/-- Two fuels that both see the loop left see it left with one result. -/
theorem run_unique {body : σ → Option (σ ⊕ β)} {n m : ℕ} {s : σ} {b b' : β}
    (h : run body n s = some b) (h' : run body m s = some b') : b = b' := by
  have hn := run_mono (fun _ _ e => e) (Nat.le_max_left n m) h
  have hm := run_mono (fun _ _ e => e) (Nat.le_max_right n m) h'
  exact Option.some.inj (hn.symm.trans hm)

/-- **The invariant rule**: what every round preserves holds when the loop is
left, and the last round turns it into the postcondition. -/
theorem run_invariant {body : σ → Option (σ ⊕ β)} (I : σ → Prop) (Q : β → Prop)
    (hstep : ∀ s s', I s → body s = some (.inl s') → I s')
    (hexit : ∀ s b, I s → body s = some (.inr b) → Q b)
    {n : ℕ} {s : σ} {b : β} (hs : I s) (h : run body n s = some b) : Q b := by
  induction n generalizing s with
  | zero => exact absurd h (by simp)
  | succ n ih =>
    rw [run] at h
    cases hb : body s with
    | none => rw [hb] at h; exact absurd h (by simp)
    | some r =>
      rw [hb] at h
      cases r with
      | inl s' => exact ih (hstep s s' hs hb) h
      | inr b' =>
        obtain rfl := Option.some.inj h
        exact hexit s _ hs hb

/-- **The variant rule**: when every round either leaves the loop or keeps the
invariant and lowers the variant, fuel above the variant sees the loop left. -/
theorem exists_run_of_variant {body : σ → Option (σ ⊕ β)} (I : σ → Prop)
    (μ : σ → ℕ) (Q : β → Prop)
    (hstep : ∀ s, I s → (∃ b, body s = some (.inr b) ∧ Q b)
      ∨ ∃ s', body s = some (.inl s') ∧ I s' ∧ μ s' < μ s)
    {n : ℕ} {s : σ} (hs : I s) (hn : μ s < n) :
    ∃ b, run body n s = some b ∧ Q b := by
  induction n generalizing s with
  | zero => exact absurd hn (Nat.not_lt_zero _)
  | succ n ih =>
    rcases hstep s hs with ⟨b, hb, hQ⟩ | ⟨s', hb, hI, hμ⟩
    · exact ⟨b, run_of_inr hb n, hQ⟩
    · obtain ⟨b, hrun, hQ⟩ := ih hI (by omega)
      exact ⟨b, (run_of_inl hb n).trans hrun, hQ⟩

/-- Under the variant rule, whatever fuel sees the loop left sees it left with
the postcondition: the loop has only one result. -/
theorem post_of_variant {body : σ → Option (σ ⊕ β)} (I : σ → Prop)
    (μ : σ → ℕ) (Q : β → Prop)
    (hstep : ∀ s, I s → (∃ b, body s = some (.inr b) ∧ Q b)
      ∨ ∃ s', body s = some (.inl s') ∧ I s' ∧ μ s' < μ s)
    {n : ℕ} {s : σ} {b : β} (hs : I s) (h : run body n s = some b) : Q b := by
  obtain ⟨b', hrun, hQ⟩ := exists_run_of_variant I μ Q hstep hs (Nat.lt_succ_self (μ s))
  exact run_unique hrun h ▸ hQ

/-- **The divergence rule**: when no round leaves the loop, no fuel sees it
left. -/
theorem run_eq_none {body : σ → Option (σ ⊕ β)} (I : σ → Prop)
    (hstep : ∀ s, I s → body s = none ∨ ∃ s', body s = some (.inl s') ∧ I s')
    {s : σ} (hs : I s) (n : ℕ) : run body n s = none := by
  induction n generalizing s with
  | zero => rfl
  | succ n ih =>
    rcases hstep s hs with hb | ⟨s', hb, hI⟩
    · rw [run, hb]
    · rw [run_of_inl hb]
      exact ih hI

/-! ## Loops in step -/

/-- Two computations go on alike behind two that have ended alike. -/
theorem rel_bind {α α' β' : Type*} {R : α → α' → Prop} {Q : β → β' → Prop} {x : Option α}
    {x' : Option α'} {f : α → Option β} {f' : α' → Option β'} (h : Option.Rel R x x')
    (hf : ∀ a a', x' = some a' → R a a' → Option.Rel Q (f a) (f' a')) :
    Option.Rel Q (x.bind f) (x'.bind f') := by
  cases h with
  | none => exact .none
  | some hR => exact hf _ _ rfl hR

/-- What is made of two results that belong together. -/
theorem rel_map {α α' β' : Type*} {R : α → α' → Prop} {Q : β → β' → Prop} {x : Option α}
    {x' : Option α'} {f : α → β} {f' : α' → β'} (h : Option.Rel R x x')
    (hf : ∀ a a', x' = some a' → R a a' → Q (f a) (f' a')) :
    Option.Rel Q (x.map f) (x'.map f') := by
  rw [Option.map_eq_bind, Option.map_eq_bind]
  exact rel_bind h (fun a a' hx hR => .some (hf a a' hx hR))

/-- **The simulation rule**, for a loop that may notice a round too late that something is wrong:
when the rounds of two loops end alike up to that, the loops do, with the same fuel. -/
theorem run_rel_late {σ' β' : Type*} {body : σ → Option (σ ⊕ β)} {body' : σ' → Option (σ' ⊕ β')}
    (R : σ → σ' → Prop) (Q : β → β' → Prop)
    (hbody : ∀ s s', R s s' → Option.Rel (Sum.LiftRel R Q) (body s) (body' s')
      ∨ body' s' = none ∧ ∃ late, body s = some (.inl late) ∧ body late = none)
    (n : ℕ) {s : σ} {s' : σ'} (hs : R s s') : Option.Rel Q (run body n s) (run body' n s') := by
  induction n generalizing s s' with
  | zero => exact .none
  | succ n ih =>
    rw [run, run]
    rcases hbody s s' hs with hround | ⟨hnone, late, hlate, hstuck⟩
    · generalize body s = r at hround
      generalize body' s' = r' at hround
      cases hround with
      | none => exact .none
      | some hlift =>
        cases hlift with
        | inl hR => exact ih hR
        | inr hQ => exact .some hQ
    · rw [hnone, hlate]
      dsimp only
      cases n with
      | zero => exact .none
      | succ n =>
        rw [run, hstuck]
        exact .none

/-- **The simulation rule**: when the rounds of two loops end alike, the loops do, with the same
fuel. -/
theorem run_rel {σ' β' : Type*} {body : σ → Option (σ ⊕ β)} {body' : σ' → Option (σ' ⊕ β')}
    (R : σ → σ' → Prop) (Q : β → β' → Prop)
    (hbody : ∀ s s', R s s' → Option.Rel (Sum.LiftRel R Q) (body s) (body' s')) (n : ℕ) {s : σ}
    {s' : σ'} (hs : R s s') : Option.Rel Q (run body n s) (run body' n s') :=
  run_rel_late R Q (fun s s' h => .inl (hbody s s' h)) n hs

/-! ## Rounds that count -/

/-- How many rounds count of those in which a loop goes around again. -/
def rounds (body : σ → Option (σ ⊕ β)) (counts : σ → Bool) : ℕ → σ → ℕ
  | 0, _ => 0
  | n + 1, s =>
    match body s with
    | some (.inl s') => (if counts s then 1 else 0) + rounds body counts n s'
    | _ => 0

/-- **A loop that numbers the rounds that count**, and stops in those whose numbers fail. -/
def guarded (body : σ → Option (σ ⊕ β)) (counts : σ → Bool) (fails : ℕ → Bool) (s : σ × ℕ) :
    Option ((σ × ℕ) ⊕ (β × ℕ)) :=
  match body s.1 with
  | none => none
  | some (.inr b) => some (.inr (b, s.2))
  | some (.inl s') =>
    if counts s.1 then if fails s.2 then none else some (.inl (s', s.2 + 1))
    else some (.inl (s', s.2))

/-- **It ends as it would without the numbers**, if none of them fails, and otherwise it does not
end. -/
theorem run_guarded (body : σ → Option (σ ⊕ β)) (counts : σ → Bool) (fails : ℕ → Bool) (n : ℕ)
    (s : σ) (m : ℕ) :
    ((∀ k < rounds body counts n s, fails (m + k) = false) →
      run (guarded body counts fails) n (s, m)
        = (run body n s).map (fun b => (b, m + rounds body counts n s)))
    ∧ ((∃ k < rounds body counts n s, fails (m + k) = true) →
      run (guarded body counts fails) n (s, m) = none) := by
  induction n generalizing s m with
  | zero => exact ⟨fun _ => rfl, fun _ => rfl⟩
  | succ n ih =>
    rw [run, run, rounds, guarded]
    dsimp only
    cases hbody : body s with
    | none => exact ⟨fun _ => rfl, fun _ => rfl⟩
    | some r =>
      cases r with
      | inr b => exact ⟨fun _ => rfl, fun ⟨k, hk, _⟩ => absurd hk (Nat.not_lt_zero k)⟩
      | inl s' =>
        dsimp only
        cases hcounts : counts s with
        | false =>
          simp only [Bool.false_eq_true, if_false, Nat.zero_add]
          exact ih s' m
        | true =>
          obtain ⟨hpass, hfail⟩ := ih s' (m + 1)
          simp only [if_true]
          cases hm : fails m with
          | true =>
            simp only [if_true]
            refine ⟨fun h => ?_, fun _ => trivial⟩
            exact absurd (hm.symm.trans (h 0 (by omega))) (by simp)
          | false =>
            simp only [Bool.false_eq_true, if_false]
            refine ⟨fun h => ?_, ?_⟩
            · rw [← Nat.add_assoc]
              refine hpass (fun k hk => ?_)
              rw [Nat.add_assoc]
              exact h (1 + k) (by omega)
            · rintro ⟨- | k, hk, hfails⟩
              · exact absurd (hm.symm.trans hfails) (by simp)
              · refine hfail ⟨k, by omega, ?_⟩
                rw [Nat.add_assoc, Nat.add_comm 1 k]
                exact hfails

/-! ## Loops without fuel -/

/-- **How a loop ends**, by what each of its rounds does: it is left with a result, or it
goes around again. -/
inductive Ends (round : σ → σ ⊕ β → Prop) : σ → β → Prop
  /-- The loop is left. -/
  | leave {s : σ} {b : β} : round s (.inr b) → Ends round s b
  /-- It goes around again. -/
  | again {s s' : σ} {b : β} : round s (.inl s') → Ends round s' b → Ends round s b

/-- **What some fuel gives is how the loop ends**, the loops inside it included. -/
theorem exists_run_iff_ends {body : ℕ → σ → Option (σ ⊕ β)}
    (hmono : ∀ n m, n ≤ m → ∀ s r, body n s = some r → body m s = some r) {s : σ} {b : β} :
    (∃ n, run (body n) n s = some b) ↔ Ends (fun s r => ∃ n, body n s = some r) s b := by
  constructor
  · rintro ⟨k, h⟩
    have hends : ∀ n s, run (body k) n s = some b →
        Ends (fun s r => ∃ n, body n s = some r) s b := by
      intro n
      induction n with
      | zero => exact fun s h => nomatch h
      | succ n ih =>
        intro s h
        rw [run] at h
        cases hs : body k s with
        | none =>
          rw [hs] at h
          exact nomatch h
        | some r =>
          rw [hs] at h
          cases r with
          | inl s' => exact .again ⟨k, hs⟩ (ih s' h)
          | inr b' =>
            obtain rfl := Option.some.inj h
            exact .leave ⟨k, hs⟩
    exact hends k s h
  · intro h
    induction h with
    | leave hround =>
      obtain ⟨n, hn⟩ := hround
      exact ⟨n + 1, run_of_inr (hmono n (n + 1) (Nat.le_succ n) _ _ hn) n⟩
    | again hround _ ih =>
      obtain ⟨n, hn⟩ := hround
      obtain ⟨m, hm⟩ := ih
      have hfirst := hmono n (max n m + 1) (Nat.le_succ_of_le (Nat.le_max_left n m)) _ _ hn
      refine ⟨max n m + 1, (run_of_inl hfirst _).trans ?_⟩
      exact run_mono (hmono m _ (Nat.le_succ_of_le (Nat.le_max_right n m)))
        (Nat.le_max_right n m) hm

/-! ## The states on the way -/

/-- **The states a loop goes through**, from the one it is entered in. -/
inductive Visits (body : σ → Option (σ ⊕ β)) (s₀ : σ) : σ → Prop
  /-- It is entered. -/
  | entry : Visits body s₀ s₀
  /-- It goes around again. -/
  | round {s s' : σ} : Visits body s₀ s → body s = some (.inl s') → Visits body s₀ s'

/-- **What every round preserves** holds all the way. -/
theorem Visits.invariant {body : σ → Option (σ ⊕ β)} (I : σ → Prop) {s₀ s : σ}
    (hentry : I s₀) (hround : ∀ s s', I s → body s = some (.inl s') → I s')
    (h : Visits body s₀ s) : I s := by
  induction h with
  | entry => exact hentry
  | round _ hbody ih => exact hround _ _ ih hbody

end Loop
