import LcdStuff.Starting

/-!
# The standby ring

The user chooses from a ring after how many minutes the player is to be stopped.
`mpd_init` has given the entries their labels; `mpd_menu_handler` is told the index of the
entry and makes a time of it, a quarter of an hour for each; and every round of the
dispatcher compares that time with the one it has sampled.

The labels go up by a quarter of an hour as far as 90, and the next one is 115, not 105.
So the last four entries stop the player ten minutes before the time they are labelled
with (`Standby.stops_of_reachableBy`). `INT_MAX` stands for `off`, and the dispatcher
compares the time with it as with any other, and with the `UINT_MAX` it leaves behind.

All this begins at the handler, called with the module as its cookie. The dispatcher looks the
cookie up under the client and finds none (`Serving`), which is left out here.
-/

/-- `UINT_MAX` -/
def uintMax : Int := 2 ^ 32 - 1

/-- How many entries the standby ring has. -/
def standbyEntries : ℕ := (LcdModule.standbyStrings.splitOn '\t').length

/-- The number of minutes that an entry of the ring is labelled with. -/
def standbyLabel (entry : ℕ) : Int :=
  atoi ((LcdModule.standbyStrings.splitOn '\t').getD entry [])

/-- The end of a round of the dispatcher, which has sampled the time `current`: what it
leaves in the module, what the daemon is told, and the commands it queues. -/
def LcdStuffMpd.checkStopTime (mpd : LcdStuffMpd) (current : Int) :
    LcdStuffMpd × List MpdCall × List Command :=
  if mpd.stopTime < current then
    ({ mpd with stopTime := uintMax }, [.playerStop], [.menuResetStandby])
  else (mpd, [], [])

/-- What was done. -/
inductive StandbyEvent where
  /-- An entry was selected at a time. -/
  | selected (entry : ℕ) (time : Int)
  /-- The dispatcher has sampled a time, and it has stopped the player or not. -/
  | ticked (current : Int) (stop : Bool)
  deriving DecidableEq, Repr

/-- The module with what was done. -/
structure Standby where
  /-- The module. -/
  mpd : LcdStuffMpd
  /-- What was done, the latest last. -/
  log : List StandbyEvent
  deriving DecidableEq, Repr

/-- **What can happen next.** -/
inductive StandbyAct where
  /-- The user selects an entry, and `mpd_menu_handler` is called at a time, with the module as
  its cookie. -/
  | select (entry : ℕ) (now : Int)
  /-- The dispatcher ends a round in which it has sampled a time. -/
  | tick (current : Int)
  deriving DecidableEq, Repr

namespace Standby

/-- **A step.** `mpd_menu_handler` is told the index of the entry. -/
def step (s : Standby) : StandbyAct → Option Standby
  | .select entry now =>
    if entry < standbyEntries then
      match s.mpd.menuHandler now "standby".toList (decimal entry) with
      | .ok (mpd, _) => some ⟨mpd, s.log ++ [.selected entry now]⟩
      | .error _ => none
    else none
  | .tick current =>
    let (mpd, calls, _) := s.mpd.checkStopTime current
    some ⟨mpd, s.log ++ [.ticked current (decide (MpdCall.playerStop ∈ calls))]⟩

end Standby

/-- **The standby ring** of a module that `mpd_run` has just initialised. -/
def standby (mpd : LcdStuffMpd) : StepSystem Standby StandbyAct :=
  ⟨⟨{ mpd with stopTime := uintMax }, []⟩, Standby.step⟩

/-- **The entry that was selected last**, and when, unless the player was stopped since. -/
def pendingEntry (log : List StandbyEvent) : Option (ℕ × Int) :=
  log.foldl (fun pending e =>
    match e with
    | .selected entry time => some (entry, time)
    | .ticked _ stop => if stop then none else pending) none

/-- **A tick does what was selected**: it stops the player when the latest selection was of
an entry other than the first, and the time that the entry is labelled with is over. -/
def StandbyEvent.Obeys (before : List StandbyEvent) : StandbyEvent → Prop
  | .selected .. => True
  | .ticked current stop => stop = true ↔ ∃ entry time,
    pendingEntry before = some (entry, time) ∧ entry ≠ 0
      ∧ time + 60 * standbyLabel entry < current

namespace Standby

/-- **The times fit, and so do the labels.** The time that is stored is one of 32 bits;
no tick falls between the quarters of an hour an entry stands for and the minutes it is
labelled with; and none comes when the numbers that stand for no time are over. -/
def InTime (s : Standby) : StandbyAct → Prop
  | .select entry now =>
    entry ≠ 0 → 0 ≤ now + 900 * entry ∧ now + 900 * (entry : Int) < 2 ^ 32
  | .tick current =>
    match pendingEntry s.log with
    | none => current < 2 ^ 32
    | some (0, _) => current < 2 ^ 31
    | some (entry, time) =>
      ¬ (time + 900 * entry < current ∧ current ≤ time + 60 * standbyLabel entry)

/-- The time that stands for what was selected. -/
def stopTime : Option (ℕ × Int) → Int
  | none => uintMax
  | some (0, _) => LcdStuffMpd.intMax
  | some (entry + 1, time) => time + 900 * (entry + 1)

/-- No label is below what its entry stands for. -/
theorem le_standbyLabel {entry : ℕ} (h : entry < standbyEntries) :
    15 * (entry : Int) ≤ standbyLabel entry := by
  have hall : ∀ entry < standbyEntries, 15 * (entry : Int) ≤ standbyLabel entry := by decide
  exact hall entry h

/-- **An entry is made a time.** -/
theorem menuHandler_standby (mpd : LcdStuffMpd) {now : Int} {entry : ℕ}
    (h : entry < standbyEntries)
    (hnow : entry ≠ 0 → 0 ≤ now + 900 * entry ∧ now + 900 * (entry : Int) < 2 ^ 32) :
    mpd.menuHandler now "standby".toList (decimal entry)
      = .ok ({ mpd with stopTime := stopTime (some (entry, now)) }, []) := by
  have hentry : entry < 11 := h
  have hatoi : atoi (decimal entry) = entry := by
    have hdecimal := atoi_decimal_append (n := entry) (by omega) (t := []) nofun
    rwa [List.append_nil] at hdecimal
  have hminutes : wrapInt ((entry : Int) * 15) = entry * 15 :=
    wrapInt_of_mem (by omega) (by omega)
  show Except.ok (mpd.setStopTime now (decimal entry), []) = _
  rw [LcdStuffMpd.setStopTime, hatoi, hminutes]
  cases entry with
  | zero => rfl
  | succ entry =>
    have hseconds : wrapInt (60 * (((entry + 1 : ℕ) : Int) * 15)) = 900 * (entry + 1) := by
      rw [wrapInt_of_mem (by omega) (by omega)]
      omega
    obtain ⟨hle, hlt⟩ := hnow (Nat.succ_ne_zero entry)
    have htime : (now + 900 * ((entry : Int) + 1)) % 2 ^ 32 = now + 900 * (entry + 1) :=
      Int.emod_eq_of_lt (by omega) (by omega)
    rw [if_neg (by omega), hseconds, htime]
    rfl

/-- **The invariant**: the time is that of the latest selection, and every tick has done
what was selected. -/
structure Obedient (s : Standby) : Prop where
  /-- The time. -/
  stopTime : s.mpd.stopTime = Standby.stopTime (pendingEntry s.log)
  /-- The entry is one of the ring. -/
  entry : ∀ entry time, pendingEntry s.log = some (entry, time) → entry < standbyEntries
  /-- The ticks. -/
  log : EachPrepared StandbyEvent.Obeys s.log

variable {s s' : Standby}

/-- What a tick leaves pending. -/
theorem pendingEntry_ticked (log : List StandbyEvent) (current : Int) (stop : Bool) :
    pendingEntry (log ++ [.ticked current stop]) = if stop then none else pendingEntry log := by
  unfold pendingEntry
  rw [List.foldl_append]
  rfl

/-- What a selection leaves pending. -/
theorem pendingEntry_selected (log : List StandbyEvent) (entry : ℕ) (time : Int) :
    pendingEntry (log ++ [.selected entry time]) = some (entry, time) := by
  unfold pendingEntry
  rw [List.foldl_append]
  rfl

/-- **A tick stops the player when it is to**, under the condition. -/
theorem Obedient.stops_iff (hs : Obedient s) {current : Int}
    (hact : InTime s (.tick current)) :
    s.mpd.stopTime < current ↔ ∃ entry time, pendingEntry s.log = some (entry, time)
      ∧ entry ≠ 0 ∧ time + 60 * standbyLabel entry < current := by
  rw [hs.stopTime]
  unfold InTime at hact
  cases hpending : pendingEntry s.log with
  | none =>
    rw [hpending] at hact
    have hle : current < 2 ^ 32 := hact
    refine ⟨fun h => absurd h ?_, fun ⟨_, _, h, _⟩ => nomatch h⟩
    show ¬ (2 ^ 32 - 1 : Int) < current
    omega
  | some pending =>
    obtain ⟨entry, time⟩ := pending
    rw [hpending] at hact
    cases entry with
    | zero =>
      have hle : current < 2 ^ 31 := hact
      constructor
      · intro h
        refine absurd h ?_
        show ¬ (2 ^ 31 - 1 : Int) < current
        omega
      · rintro ⟨entry, time', h, hne, -⟩
        obtain ⟨rfl, rfl⟩ := Prod.mk.inj (Option.some.inj h)
        exact absurd rfl hne
    | succ entry =>
      have hbetween : ¬ (time + 900 * ((entry + 1 : ℕ) : Int) < current
          ∧ current ≤ time + 60 * standbyLabel (entry + 1)) := hact
      have hlabel := le_standbyLabel (hs.entry _ _ hpending)
      show time + 900 * ((entry : Int) + 1) < current ↔ _
      constructor
      · exact fun h => ⟨entry + 1, time, rfl, Nat.succ_ne_zero entry, by omega⟩
      · rintro ⟨entry', time', h, -, hlt⟩
        obtain ⟨rfl, rfl⟩ := Prod.mk.inj (Option.some.inj h)
        omega

/-- **Every step keeps the invariant** under the condition. -/
theorem obedient_step (hs : Obedient s) {act : StandbyAct} (hact : InTime s act)
    (h : s.step act = some s') : Obedient s' := by
  cases act with
  | select entry now =>
    rw [step] at h
    split at h
    · next hentry =>
      rw [menuHandler_standby s.mpd hentry hact] at h
      obtain rfl := Option.some.inj h
      refine ⟨?_, fun entry' time hpending => ?_, hs.log.append_singleton trivial⟩
      · rw [pendingEntry_selected]
      · rw [pendingEntry_selected] at hpending
        obtain ⟨rfl, rfl⟩ := Prod.mk.inj (Option.some.inj hpending)
        exact hentry
    · exact nomatch h
  | tick current =>
    have hstops := hs.stops_iff hact
    rw [step, LcdStuffMpd.checkStopTime] at h
    by_cases hover : s.mpd.stopTime < current
    · rw [if_pos hover] at h
      obtain rfl := Option.some.inj h
      have hobeys : StandbyEvent.Obeys s.log (.ticked current true) :=
        ⟨fun _ => hstops.mp hover, fun _ => rfl⟩
      refine ⟨?_, fun entry time hpending => ?_, hs.log.append_singleton hobeys⟩
      · exact congrArg Standby.stopTime (pendingEntry_ticked s.log current true).symm
      · exact nomatch (pendingEntry_ticked s.log current true).symm.trans hpending
    · rw [if_neg hover] at h
      obtain rfl := Option.some.inj h
      have hobeys : StandbyEvent.Obeys s.log (.ticked current false) :=
        ⟨nofun, fun hlabel => absurd (hstops.mpr hlabel) hover⟩
      have hpending := pendingEntry_ticked s.log current false
      refine ⟨?_, fun entry time hlog => ?_, hs.log.append_singleton hobeys⟩
      · exact hs.stopTime.trans (congrArg Standby.stopTime hpending.symm)
      · exact hs.entry entry time (hpending.symm.trans hlog)

/-- **A tick stops the player exactly when the time is over that the entry selected last
is labelled with**, and no tick does while the first entry is, in every run in which the
times fit and no tick falls between what an entry stands for and its label. -/
theorem stops_of_reachableBy {mpd : LcdStuffMpd} {s : Standby}
    (hs : (standby mpd).ReachableBy InTime s) : EachPrepared StandbyEvent.Obeys s.log := by
  have hinit : Obedient (standby mpd).init :=
    ⟨rfl, fun _ _ h => absurd h.symm (Option.some_ne_none _), .nil⟩
  exact (hs.invariant Obedient hinit (fun _ _ _ hI hact h => obedient_step hI hact h)).log

instance (s : Standby) (act : StandbyAct) : Decidable (InTime s act) :=
  match act with
  | .select entry now => inferInstanceAs (Decidable
      (entry ≠ 0 → 0 ≤ now + 900 * (entry : Int) ∧ now + 900 * (entry : Int) < 2 ^ 32))
  | .tick current =>
    show Decidable (match pendingEntry s.log with
      | none => current < 2 ^ 32
      | some (0, _) => current < 2 ^ 31
      | some (entry, time) =>
        ¬ (time + 900 * entry < current ∧ current ≤ time + 60 * standbyLabel entry)) by
      split <;> infer_instance

/-- Half an hour is selected, and then nothing. -/
theorem stops_of_reachableBy_half :
    ∃ s, (standby ⟨.play, false, none, 0, none, ⟨⟨⟨20, 4⟩, false⟩, "mpd".toList⟩⟩).ReachableBy
        InTime s
      ∧ s.log = [.selected 2 1000, .ticked 2800 false, .ticked 2801 true, .ticked 2802 false,
        .selected 0 3000, .ticked 9000 false]
      ∧ EachPrepared StandbyEvent.Obeys s.log := by
  let sys := standby ⟨.play, false, none, 0, none, ⟨⟨⟨20, 4⟩, false⟩, "mpd".toList⟩⟩
  let run := sys.replay InTime sys.init [.select 2 1000, .tick 2800, .tick 2801, .tick 2802,
    .select 0 3000, .tick 9000]
  have hrun : run.map (fun s => decide (s.log = [.selected 2 1000, .ticked 2800 false,
      .ticked 2801 true, .ticked 2802 false, .selected 0 3000, .ticked 9000 false]))
      = some true := by decide +kernel
  obtain ⟨s, hs, hlog⟩ := StepSystem.exists_reachableBy_of_replay hrun
  exact ⟨s, hs, of_decide_eq_true hlog, stops_of_reachableBy hs⟩

/-- The entry that is labelled 115 stops the player after 105 minutes. -/
theorem not_forall_stops :
    ¬ ∀ (mpd : LcdStuffMpd) (s : Standby), (standby mpd).Reachable s →
      EachPrepared StandbyEvent.Obeys s.log := by
  intro h
  let mpd : LcdStuffMpd := ⟨.play, false, none, 0, none, ⟨⟨⟨20, 4⟩, false⟩, "mpd".toList⟩⟩
  let run := (standby mpd).replayAny (standby mpd).init [.select 7 1000, .tick 7301]
  have hrun : run.map (fun s => decide (s.log = [.selected 7 1000] ++ [.ticked 7301 true]))
      = some true := by decide +kernel
  obtain ⟨s, hs, hlog⟩ := StepSystem.exists_reachableBy_of_replay hrun
  have hobeys := h mpd s hs _ _ [] (of_decide_eq_true hlog)
  obtain ⟨entry, time, hpending, -, hover⟩ := hobeys.mp rfl
  obtain ⟨rfl, rfl⟩ := Prod.mk.inj (Option.some.inj hpending)
  exact absurd hover (by decide)

end Standby
