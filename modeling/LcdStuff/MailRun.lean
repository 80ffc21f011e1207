import LcdStuff.MailScreen
import LcdStuff.Periodic

/-!
# How old the mail on the display is

`mail_run` looks at the clock ten times a second and has the mailboxes checked when it is time; the
next time is set when the check is over, however long it took. Between the checks the handlers go
through the e-mails. So what is on the display is never older than the interval of the settings
and the longest sleep (`LcdStuffMail.fresh_of_paced`).
-/

/-- **What happens while `mail_run` is in its loop.** -/
inductive MailTick where
  /-- A round of the loop; if it is time, libetpan answers `mail_check`. -/
  | round (r : Periodic.Round Libetpan)
  /-- A handler is called. -/
  | nav (event : NavEvent)

namespace MailTick

/-- The rounds of the loop. -/
def rounds (ticks : List MailTick) : List (Periodic.Round Libetpan) :=
  ticks.filterMap (fun tick =>
    match tick with
    | round r => some r
    | nav _ => none)

/-- What that is for the module, with the `interval` of the settings and `next_check`. -/
def events (interval : Int) : Int → List MailTick → List MailEvent
  | _, [] => []
  | nextCheck, round r :: ticks =>
    (if nextCheck < r.now then [.refresh r.input] else [])
      ++ events interval (Periodic.setNext interval nextCheck r) ticks
  | nextCheck, nav event :: ticks => .nav event :: events interval nextCheck ticks

/-- Without a check there are only handlers. -/
theorem events_of_works_eq_nil {interval nextCheck : Int} {ticks : List MailTick}
    (h : Periodic.works interval nextCheck (rounds ticks) = []) :
    ∃ navs : List NavEvent, events interval nextCheck ticks = navs.map .nav := by
  induction ticks generalizing nextCheck with
  | nil => exact ⟨[], rfl⟩
  | cons tick ticks ih =>
    cases tick with
    | round r =>
      obtain ⟨hdue, hrest⟩ := List.append_eq_nil_iff.mp
        (show _ ++ Periodic.works interval _ (rounds ticks) = [] from h)
      obtain ⟨navs, hnavs⟩ := ih hrest
      refine ⟨navs, ?_⟩
      rw [events, hnavs, if_neg (fun hlt => absurd hdue (by rw [if_pos hlt]; simp))]
      rfl
    | nav event =>
      obtain ⟨navs, hnavs⟩ := ih h
      exact ⟨event :: navs, congrArg (MailEvent.nav event :: ·) hnavs⟩

/-- **The last check**, and the handlers behind it. -/
theorem events_of_getLast? {interval nextCheck : Int} {ticks : List MailTick}
    {r : Periodic.Round Libetpan}
    (h : (Periodic.works interval nextCheck (rounds ticks)).getLast? = some r) :
    ∃ before navs, events interval nextCheck ticks
      = before ++ .refresh r.input :: List.map MailEvent.nav navs := by
  induction ticks generalizing nextCheck with
  | nil => exact absurd h (by simp [rounds, Periodic.works])
  | cons tick ticks ih =>
    cases tick with
    | nav event =>
      obtain ⟨before, navs, heq⟩ := ih h
      exact ⟨.nav event :: before, navs, congrArg (MailEvent.nav event :: ·) heq⟩
    | round first =>
      have h : (_ ++ Periodic.works interval (Periodic.setNext interval nextCheck first)
        (rounds ticks)).getLast? = some r := h
      rw [List.getLast?_append] at h
      cases hrest : (Periodic.works interval (Periodic.setNext interval nextCheck first)
          (rounds ticks)).getLast? with
      | some r' =>
        rw [hrest] at h
        obtain rfl := Option.some.inj h
        obtain ⟨before, navs, heq⟩ := ih hrest
        refine ⟨(if nextCheck < first.now then [.refresh first.input] else []) ++ before, navs, ?_⟩
        rw [events, heq, List.append_assoc]
      | none =>
        rw [hrest, Option.none_or] at h
        by_cases hdue : nextCheck < first.now
        · rw [if_pos hdue] at h
          obtain rfl := Option.some.inj h
          obtain ⟨navs, hnavs⟩ := events_of_works_eq_nil (List.getLast?_eq_none_iff.mp hrest)
          refine ⟨[], navs, ?_⟩
          rw [events, if_pos hdue, hnavs]
          rfl
        · rw [if_neg hdue] at h
          exact absurd h (by simp)

end MailTick

namespace LcdStuffMail

/-- **The mail on the display is never older** than the interval and the delay: when a second has
passed since the start, the screen shows what some check has found, moved on by the handlers since
then, and that check was over no longer ago. Between two checks there is more than the interval,
and no more than that. -/
theorem fresh_of_paced {mail : LcdStuffMail} (hboxes : mail.mailboxes ≠ []) (screenName : Str)
    {interval delay start now : Int} {ticks : List MailTick}
    (hpaced : Periodic.Paced interval delay start start (MailTick.rounds ticks))
    (hstarted : start < Periodic.lastReading interval start start (MailTick.rounds ticks))
    (hnow : now ≤ Periodic.lastReading interval start start (MailTick.rounds ticks) + delay) :
    (Periodic.works interval start (MailTick.rounds ticks)).IsChain (fun check check' =>
        check.done + interval < check'.now
          ∧ check'.now ≤ check.done + max interval 0 + delay)
      ∧ ∃ check ∈ Periodic.works interval start (MailTick.rounds ticks),
        now ≤ check.done + max interval 0 + delay
        ∧ ∃ before navs view, MailTick.events interval start ticks
            = before ++ .refresh check.input :: List.map MailEvent.nav navs
          ∧ (ScreenCall.create :: .setName screenName
              :: mail.allCalls (MailTick.events interval start ticks)).foldl
                (ScreenView.draw mail.screen) none = some view
          ∧ mail.Displays (mail.countsAfter before check.input)
              (mail.emailAfter before check.input navs) view := by
  refine ⟨Periodic.isChain_works hpaced, ?_⟩
  have hlast : start ≤ start + max 0 (-interval) := by omega
  have hne := Periodic.works_ne_nil (Int.le_refl start) hstarted
  have hcheck := List.getLast?_eq_some_getLast hne
  generalize (Periodic.works interval start (MailTick.rounds ticks)).getLast hne = check at hcheck
  obtain ⟨before, navs, heq⟩ := MailTick.events_of_getLast? hcheck
  have hunwritten : Unwritten mail.screen ⟨[], fun _ => [], some screenName, none⟩ :=
    ⟨fun _ => rfl, fun _ _ => rfl⟩
  obtain ⟨view, hview, hdisplays⟩ :=
    displays_allCalls mail hboxes before check.input navs hunwritten
  refine ⟨check, List.mem_of_getLast? hcheck, Periodic.now_le_of_getLast? hlast hnow hcheck,
    before, navs, view, heq, ?_, hdisplays⟩
  rw [heq]
  exact hview

/-- A check a second after the start, and a key. -/
theorem fresh_of_paced_one :
    let mail : LcdStuffMail := ⟨[⟨[], [], [], "box".toList, "imap".toList, [], 0, 0, 0, false⟩], [],
      0, "Mail".toList, ⟨⟨⟨20, 4⟩, false⟩, "mail".toList⟩⟩
    let etpan : Libetpan := ⟨1, some, fun _ => ⟨true, true, true, some ⟨2, 0, 2⟩,
      some (["Ann", "Bob"].map (fun sender => ⟨some [.from [some sender.toList]], some 0⟩)), true⟩⟩
    let ticks : List MailTick :=
      [.round ⟨9, 9, etpan⟩, .round ⟨10, 12, etpan⟩, .nav (.key "Up".toList)]
    ∃ check ∈ Periodic.works 300 9 (MailTick.rounds ticks), 13 ≤ check.done + max 300 0 + 1
      ∧ ∃ before navs view, MailTick.events 300 9 ticks
          = before ++ .refresh check.input :: List.map MailEvent.nav navs
        ∧ (ScreenCall.create :: .setName "Mail".toList
            :: mail.allCalls (MailTick.events 300 9 ticks)).foldl
              (ScreenView.draw mail.screen) none = some view
        ∧ mail.Displays (mail.countsAfter before check.input)
            (mail.emailAfter before check.input navs) view := by
  intro mail etpan ticks
  have hpaced : Periodic.Paced 300 1 9 9 (MailTick.rounds ticks) :=
    ⟨by decide, by decide, by decide, by decide, by decide, by decide, trivial⟩
  have hboxes : mail.mailboxes ≠ [] := List.cons_ne_nil _ _
  exact (@fresh_of_paced mail hboxes "Mail".toList 300 1 9 13 ticks hpaced (by decide)
    (by decide)).2

end LcdStuffMail
