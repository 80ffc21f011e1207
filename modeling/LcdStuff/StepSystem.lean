import Mathlib.Data.Nat.Notation

/-!
# Step systems and their runs

Several parties that share state are one transition system: a state that
holds what each party is about to do, and a step for each thing that one of
them can do next. A run is any order of steps, so a property of every run is
a property of every interleaving.

The step is a *function* of the state and a label, with `none` for a step
that cannot be taken. The label carries everything the program does not
decide – which party moves, what a system call answers, what arrives from
outside – so one definition serves to prove things of every run and to
replay a given one (`StepSystem.replay`).

A condition on steps is part of what a run is: `sys.ReachableBy P s` says
that a run whose steps all meet `P` ends in `s`, and `sys.Reachable s` that
any run does. A defect that shows only when a certain step is taken in a
certain state is then excluded by the runs that never take it, and
`StepSystem.ReachableBy.invariant` is the induction that proves what holds
in the others.

That something happens in the end is proved of replays, by a rank that the steps of a party
lower until it has happened (`StepSystem.passes_of_replay`).

A property of runs that no state tells is one of a *history*: something is
noted of every step, and stands beside the state (`StepSystem.history`). Of a log
the property is often that each entry finds what it needs among those in front of
it (`EachPrepared`).
-/

/-- A transition system: an initial state, and a step that is `none` where it
cannot be taken. -/
structure StepSystem (σ α : Type*) where
  /-- The state every run starts in. -/
  init : σ
  /-- The state a step leads to. -/
  step : σ → α → Option σ

namespace StepSystem

variable {σ α : Type*} (sys : StepSystem σ α)

/-- **The states that runs reach whose steps all meet `P`.** -/
inductive ReachableBy (P : σ → α → Prop) : σ → Prop
  /-- The run that has taken no step. -/
  | init : ReachableBy P sys.init
  /-- One step more, taken where it meets the condition. -/
  | step {s s' : σ} {a : α} : ReachableBy P s → P s a →
      sys.step s a = some s' → ReachableBy P s'

/-- The states that any run reaches. -/
def Reachable (s : σ) : Prop := sys.ReachableBy (fun _ _ => True) s

variable {sys}

/-- **The invariant rule**: what holds initially and is kept by every step
that meets the condition holds in every state such runs reach. -/
theorem ReachableBy.invariant {P : σ → α → Prop} (I : σ → Prop)
    (hinit : I sys.init)
    (hstep : ∀ s a s', I s → P s a → sys.step s a = some s' → I s')
    {s : σ} (hs : sys.ReachableBy P s) : I s := by
  induction hs with
  | init => exact hinit
  | step _ hP h ih => exact hstep _ _ _ ih hP h

variable (sys) in
/-- **The system that goes on from a state.** -/
def after (s : σ) : StepSystem σ α := { sys with init := s }

/-- A run, and one that goes on from its end, are one run. -/
theorem Reachable.trans {s₀ s : σ} (h₀ : sys.Reachable s₀) (h : (sys.after s₀).Reachable s) :
    sys.Reachable s := by
  induction h with
  | init => exact h₀
  | step _ _ hstep ih => exact .step ih trivial hstep

variable (sys)

/-- Replay a list of labels, checking the condition at every step; `none`
when a step cannot be taken or does not meet it. -/
def replay (P : σ → α → Prop) [∀ s a, Decidable (P s a)] :
    σ → List α → Option σ
  | s, [] => some s
  | s, a :: as =>
    if P s a then (sys.step s a).bind (fun s' => replay P s' as) else none

/-- The replay of a run under no condition. -/
abbrev replayAny : σ → List α → Option σ := sys.replay (fun _ _ => True)

variable {sys}

/-- **What a replay reaches, a run reaches.** -/
theorem reachableBy_of_replay {P : σ → α → Prop} [∀ s a, Decidable (P s a)]
    {as : List α} {s t : σ} (hs : sys.ReachableBy P s)
    (h : sys.replay P s as = some t) : sys.ReachableBy P t := by
  induction as generalizing s with
  | nil =>
    obtain rfl := Option.some.inj h
    exact hs
  | cons a as ih =>
    rw [replay] at h
    by_cases hP : P s a
    · rw [if_pos hP] at h
      obtain ⟨s', hstep, hrest⟩ := Option.bind_eq_some_iff.mp h
      exact ih (.step hs hP hstep) hrest
    · rw [if_neg hP] at h
      exact absurd h (by simp)

/-- **A run reaches what is read off the end of its replay.** -/
theorem exists_reachableBy_of_replay {P : σ → α → Prop} [∀ s a, Decidable (P s a)]
    {as : List α} {β : Type*} {f : σ → β} {b : β}
    (h : (sys.replay P sys.init as).map f = some b) : ∃ s, sys.ReachableBy P s ∧ f s = b := by
  obtain ⟨s, hs, hb⟩ := Option.map_eq_some_iff.mp h
  exact ⟨s, reachableBy_of_replay .init hs, hb⟩

/-- **The progress rule**: where every step lowers a rank by what is counted of it, as long
as it does not lead to where it is to lead, a replay in which enough is counted has led
there. -/
theorem passes_of_replay {P : σ → α → Prop} [∀ s a, Decidable (P s a)]
    {I done : σ → Prop} {rank : σ → ℕ} {counted : α → Bool}
    (hstep : ∀ s a s', I s → P s a → sys.step s a = some s' →
      done s' ∨ I s' ∧ rank s' + (counted a).toNat ≤ rank s)
    {as : List α} {s t : σ} (hs : I s) (h : sys.replay P s as = some t)
    (hcount : rank s < as.countP counted) :
    ∃ before after u, as = before ++ after ∧ sys.replay P s before = some u ∧ done u := by
  induction as generalizing s with
  | nil => exact absurd hcount (Nat.not_lt_zero _)
  | cons a as ih =>
    rw [replay] at h
    by_cases hP : P s a
    · rw [if_pos hP] at h
      obtain ⟨s', hs', hrest⟩ := Option.bind_eq_some_iff.mp h
      have hfirst : ∀ bs, sys.replay P s (a :: bs) = sys.replay P s' bs := by
        intro bs
        rw [replay, if_pos hP, hs', Option.bind_some]
      rcases hstep s a s' hs hP hs' with hdone | ⟨hI, hrank⟩
      · exact ⟨[a], as, s', rfl, hfirst [], hdone⟩
      · have hlower : rank s' < as.countP counted := by
          rw [List.countP_cons] at hcount
          cases hcounted : counted a with
          | true =>
            rw [hcounted, if_pos rfl] at hcount
            rw [hcounted] at hrank
            exact Nat.lt_of_succ_lt_succ (Nat.lt_of_le_of_lt hrank hcount)
          | false =>
            rw [hcounted, if_neg Bool.false_ne_true] at hcount
            rw [hcounted] at hrank
            exact Nat.lt_of_le_of_lt hrank hcount
        obtain ⟨before, after, u, rfl, hu, hdone⟩ := ih hI hrest hlower
        exact ⟨a :: before, after, u, rfl, (hfirst before).trans hu, hdone⟩
    · rw [if_neg hP] at h
      exact nomatch h

/-! ## Histories -/

section history
variable {η : Type*} {note : σ → α → η → η} {start : η}

variable (sys) in
/-- **The system with a history**, which begins with `start` and to which every
step adds what is noted of it. -/
def history (note : σ → α → η → η) (start : η) : StepSystem (σ × η) α :=
  ⟨(sys.init, start), fun s a => (sys.step s.1 a).map (fun s' => (s', note s.1 a s.2))⟩

/-- The inversion of a step. -/
theorem of_history_step {s s' : σ × η} {a : α} (h : (sys.history note start).step s a = some s') :
    ∃ t, sys.step s.1 a = some t ∧ s' = (t, note s.1 a s.2) := by
  obtain ⟨t, ht, rfl⟩ := Option.map_eq_some_iff.mp h
  exact ⟨t, ht, rfl⟩

/-- **A history neither adds a run nor takes one away.** -/
theorem reachable_iff_history {s : σ} :
    sys.Reachable s ↔ ∃ h, (sys.history note start).Reachable (s, h) := by
  constructor
  · intro hs
    refine hs.invariant (fun s => ∃ h, (sys.history note start).Reachable (s, h))
      ⟨start, .init⟩ (fun s a t hI _ ht => ?_)
    obtain ⟨h, hs⟩ := hI
    have hstep : (sys.history note start).step (s, h) a = some (t, note s a h) :=
      Option.map_eq_some_iff.mpr ⟨t, ht, rfl⟩
    exact ⟨_, .step hs trivial hstep⟩
  · rintro ⟨h, hs⟩
    have hinit : sys.Reachable sys.init := .init
    have hI : sys.Reachable (s, h).1 := hs.invariant (fun s => sys.Reachable s.1) hinit
      (fun s a s' hI _ hstep => by
        obtain ⟨t, ht, rfl⟩ := of_history_step hstep
        exact .step hI trivial ht)
    exact hI

end history

end StepSystem

/-! ## Logs in which each entry is prepared -/

/-- **Each entry of a log is prepared** by those in front of it. -/
def EachPrepared {α : Type*} (prepared : List α → α → Prop) (log : List α) : Prop :=
  ∀ before a after, log = before ++ a :: after → prepared before a

namespace EachPrepared

variable {α : Type*} {prepared : List α → α → Prop} {log : List α}

theorem nil : EachPrepared prepared [] :=
  fun _ _ _ h => absurd h.symm (List.append_ne_nil_of_right_ne_nil _ (List.cons_ne_nil _ _))

/-- An entry that is prepared by the whole log can be added. -/
theorem append_singleton (h : EachPrepared prepared log) {a : α} (ha : prepared log a) :
    EachPrepared prepared (log ++ [a]) := by
  intro before b after heq
  rcases List.eq_nil_or_concat after with rfl | ⟨rest, c, rfl⟩
  · obtain ⟨rfl, hb⟩ := List.append_inj' heq rfl
    obtain rfl := List.singleton_inj.mp hb
    exact ha
  · rw [List.concat_eq_append, ← List.cons_append, ← List.append_assoc] at heq
    exact h before b rest (List.append_inj' heq rfl).1

/-- An entry of the log is prepared by some of it. -/
theorem of_mem (h : EachPrepared prepared log) {a : α} (ha : a ∈ log) :
    ∃ before, prepared before a := by
  obtain ⟨before, after, rfl⟩ := List.append_of_mem ha
  exact ⟨before, h before a after rfl⟩

end EachPrepared
