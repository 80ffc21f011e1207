import LcdStuff.Carousel
import LcdStuff.Handshake
import LcdStuff.MailDisplay
import LcdStuff.Rss

/-!
# Going through the items of a screen

In the mail and in the RSS module the keys go through a list of items of which one is shown. A
handler moves the position without a look at the ends of the list, and the function that draws the
screen pulls it back: between two refreshes this goes around (`Navigates`).

The mail module does so always (`LcdStuffMail.navigates`). In the RSS module a handler first has to
return, and it does not if the headline that it comes to cannot be wrapped on the display
(`navigates_iff`).
-/

/-- **What moves the position.** -/
inductive NavEvent where
  /-- The key handler is called with a key. -/
  | key (str : Str)
  /-- The ignore handler is called. -/
  | ignore
  deriving DecidableEq, Repr

namespace NavEvent

/-- Where the handler moves the position. -/
def delta : NavEvent → Int
  | key str => if str = "Up".toList then 1 else -1
  | ignore => 1

/-- **How far some events move the position**: forward with every `Up` and every time the screen is
ignored, and back with every other key. -/
def offset (events : List NavEvent) : Int :=
  events.count (key "Up".toList) + events.count ignore
    - events.countP (fun event => event ≠ key "Up".toList ∧ event ≠ ignore)

/-- Every event moves the position by one. -/
theorem isStep_delta (event : NavEvent) : Carousel.IsStep event.delta := by
  cases event with
  | key str =>
    by_cases hup : str = "Up".toList
    · exact .inl (if_pos hup)
    · exact .inr (if_neg hup)
  | ignore => exact .inl rfl

/-- So does every event of some. -/
theorem isStep_of_mem_map_delta {events : List NavEvent} :
    ∀ d ∈ events.map delta, Carousel.IsStep d := by
  intro d hd
  obtain ⟨event, -, rfl⟩ := List.mem_map.mp hd
  exact event.isStep_delta

/-- What one event more adds. -/
theorem offset_cons (event : NavEvent) (events : List NavEvent) :
    offset (event :: events) = event.delta + offset events := by
  unfold offset
  cases event with
  | key str =>
    have hother : key str ≠ ignore := nofun
    rw [List.count_cons_of_ne hother]
    by_cases hup : str = "Up".toList
    · have hdelta : delta (key str) = 1 := if_pos hup
      rw [hdelta, hup, List.count_cons_self,
        List.countP_cons_of_neg (by rw [decide_eq_true_iff]; exact fun h => h.1 rfl)]
      omega
    · have hdelta : delta (key str) = -1 := if_neg hup
      have hne : key str ≠ key "Up".toList := fun h => hup (key.inj h)
      rw [hdelta, List.count_cons_of_ne hne,
        List.countP_cons_of_pos (by rw [decide_eq_true_iff]; exact ⟨hne, hother⟩)]
      omega
  | ignore =>
    have hdelta : delta ignore = 1 := rfl
    have hother : ignore ≠ key "Up".toList := nofun
    rw [hdelta, List.count_cons_self, List.count_cons_of_ne hother,
      List.countP_cons_of_neg (by rw [decide_eq_true_iff]; exact fun h => h.2 rfl)]
    omega

/-- All moves together. -/
theorem sum_map_delta (events : List NavEvent) : (events.map delta).sum = offset events := by
  induction events with
  | nil => rfl
  | cons event events ih => rw [List.map_cons, List.sum_cons, ih, offset_cons]

/-- **The item that some events have moved to**, from the first one on. -/
theorem itemAt_foldl_move {α : Type} (items : List α) (events : List NavEvent) :
    Carousel.itemAt (Carousel.clamp items.length ((events.map delta).foldl
        (Carousel.move items.length) (Carousel.clamp items.length 0))) items 0
      = items[(offset events % items.length).toNat]? := by
  rcases Nat.eq_zero_or_pos items.length with hzero | hpos
  · rw [List.length_eq_zero_iff.mp hzero]
    rfl
  · have htot : (0 : Int) < items.length := Int.ofNat_lt.mpr hpos
    rw [Carousel.clamp_of_mem (Int.le_refl 0) htot,
      Carousel.foldl_move (Int.le_refl 0) htot isStep_of_mem_map_delta, sum_map_delta,
      Int.zero_add, Carousel.clamp_of_mem (Int.emod_nonneg _ (Int.ne_of_gt htot))
        (Int.emod_lt_of_pos _ htot),
      Carousel.itemAt_zero items (Int.emod_nonneg _ (Int.ne_of_gt htot))]

end NavEvent

/-- **The items of a list are gone around**: `trace` has the positions and the items on display, the
first at the start and one more behind every event. -/
structure Navigates {α : Type} (items : List α) (p : Int) (events : List NavEvent)
    (trace : List (Int × Option α)) : Prop where
  /-- The item on display is the one that the events so far have moved to. -/
  item : 0 ≤ p → p < items.length → trace.map Prod.snd = (List.range (events.length + 1)).map
    (fun k => items[((p + NavEvent.offset (events.take k)) % items.length).toNat]?)
  /-- As many events in one direction as there are items show every item once. -/
  turn : 0 ≤ p → p < items.length → events.length = items.length →
    ∀ d, (∀ event ∈ events, event.delta = d) → (trace.tail.map Prod.snd).Perm (items.map some)
  /-- Without an item none is shown, and the position is one of two. -/
  empty : items = [] → p = 0 → ∀ q ∈ trace.tail, (q.1 = -1 ∨ q.1 = 0) ∧ q.2 = none

/-- **A position that is moved and pulled back** goes around. -/
theorem navigates_scanl {α : Type} (items : List α) (p : Int) (events : List NavEvent) :
    Navigates items p events (((events.map NavEvent.delta).scanl (Carousel.move items.length) p).map
      (fun pos => (pos, Carousel.itemAt (Carousel.clamp items.length pos) items 0))) := by
  have hsteps := @NavEvent.isStep_of_mem_map_delta events
  refine ⟨fun h₀ h => ?_, fun h₀ h hlength d hd => ?_, fun hnil hzero => ?_⟩
  · rw [Carousel.scanl_move h₀ h hsteps, List.map_map, List.map_map, List.length_map]
    refine List.map_congr_left (fun k _ => ?_)
    have htot : (0 : Int) < items.length := Int.lt_of_le_of_lt h₀ h
    show Carousel.itemAt (Carousel.clamp items.length
      ((p + ((events.map NavEvent.delta).take k).sum) % items.length)) items 0 = _
    rw [← List.map_take, NavEvent.sum_map_delta,
      Carousel.clamp_of_mem (Int.emod_nonneg _ (Int.ne_of_gt htot)) (Int.emod_lt_of_pos _ htot),
      Carousel.itemAt_zero items (Int.emod_nonneg _ (Int.ne_of_gt htot))]
  · obtain ⟨event, hevent⟩ := List.exists_mem_of_length_pos (l := events) (by omega)
    have hd' : Carousel.IsStep d := hd event hevent ▸ event.isStep_delta
    have hall : events.map NavEvent.delta = List.replicate items.length d := by
      refine List.eq_replicate_iff.mpr ⟨by rw [List.length_map, hlength], fun e he => ?_⟩
      obtain ⟨other, hother, rfl⟩ := List.mem_map.mp he
      exact hd other hother
    have hplaces : ((List.range items.length).map Int.ofNat).map
        (fun pos => Carousel.itemAt (Carousel.clamp items.length pos) items 0)
          = items.map some := by
      rw [← Carousel.map_itemAt_range]
      refine List.map_congr_left (fun pos hpos => ?_)
      obtain ⟨k, hk, rfl⟩ := List.mem_map.mp hpos
      have hclamp : Carousel.clamp items.length (Int.ofNat k) = Int.ofNat k :=
        Carousel.clamp_of_mem (Int.natCast_nonneg k) (Int.ofNat_lt.mpr (List.mem_range.mp hk))
      rw [hclamp]
    rw [hall, ← List.map_tail, List.map_map, ← hplaces]
    exact (Carousel.perm_turn h₀ h hd').map _
  · subst hnil
    intro q hq
    rw [← List.map_tail] at hq
    obtain ⟨pos, hpos, rfl⟩ := List.mem_map.mp hq
    exact ⟨Carousel.of_mem_tail_scanl_move hpos, rfl⟩

/-! ## The mail module -/

namespace LcdStuffMail

variable (mail : LcdStuffMail)

/-- What a handler leaves in the module, and the commands it queues. -/
def handle : NavEvent → LcdStuffMail × List Command
  | .key str => mail.keyHandler str
  | .ignore => mail.ignoreHandler

/-- The position and the item on display. -/
def view : Int × Option Email := (mail.currentScreen, mail.displayed)

/-- The states of the module from one event to the next. -/
def states (events : List NavEvent) : List LcdStuffMail :=
  events.scanl (fun mail event => (mail.handle event).1) mail

/-- **A handler** moves the position, and pulls it back. -/
theorem handle_eq (event : NavEvent) : (mail.handle event).1
    = mail.atScreen (Carousel.move mail.email.length mail.currentScreen event.delta) := by
  cases event with
  | key str => rfl
  | ignore => rfl

/-- What was shown stays on display. -/
theorem displayed_showScreen : mail.showScreen.1.displayed = mail.displayed := by
  have hclamp : mail.showScreen.1.clampScreen = mail.clampScreen :=
    Carousel.clamp_clamp (Int.natCast_nonneg _) _
  unfold displayed
  rw [hclamp]
  rfl

/-- The states differ in the position. -/
theorem map_view_states (events : List NavEvent) : (mail.states events).map view
    = ((events.map NavEvent.delta).scanl (Carousel.move mail.email.length)
      mail.currentScreen).map
        (fun pos =>
          (pos, Carousel.itemAt (Carousel.clamp mail.email.length pos) mail.email 0)) := by
  unfold states
  induction events generalizing mail with
  | nil => rfl
  | cons event events ih =>
    rw [List.scanl_cons, List.map_cons, ih, handle_eq, List.map_cons, List.scanl_cons,
      List.map_cons]
    rfl

/-- **The e-mails are gone around.** -/
theorem navigates (events : List NavEvent) :
    Navigates mail.email mail.currentScreen events ((mail.states events).map view) := by
  rw [map_view_states]
  exact navigates_scanl mail.email mail.currentScreen events

end LcdStuffMail

/-! ## The RSS module -/

/-- **A headline can be wrapped** on a display: on one with no columns only the empty one can, and
one of spaces whose length is a positive `int`. -/
def CanWrap (lcd : LcdStuff) (headline : Str) : Prop :=
  lcd.displaySize.width ≠ 0 ∨ headline = []
    ∨ (0 < wrapInt headline.length ∧ ∀ c ∈ headline, c = ' ')

namespace LcdStuffRss

variable (rss : LcdStuffRss)

/-- The module with a position. -/
def atScreen (pos : Int) : LcdStuffRss := { rss with currentScreen := pos }

/-- `rss_key_handler` -/
def keyHandler (fuel : ℕ) (str : Str) : Option (LcdStuffRss × List Command) :=
  (rss.atScreen (rss.currentScreen + if str = "Up".toList then 1 else -1)).updateScreenNews fuel

/-- `rss_ignore_handler` -/
def ignoreHandler (fuel : ℕ) : Option (LcdStuffRss × List Command) :=
  (rss.atScreen (rss.currentScreen + 1)).updateScreenNews fuel

/-- What a handler leaves in the module, and the commands it queues. -/
def handle (fuel : ℕ) : NavEvent → Option (LcdStuffRss × List Command)
  | .key str => rss.keyHandler fuel str
  | .ignore => rss.ignoreHandler fuel

/-- The position and the item on display. -/
def view : Int × Option Newsitem := (rss.currentScreen, rss.displayed)

/-- **Every handler returns**, and leaves the module in the next of the states. -/
inductive States : LcdStuffRss → List NavEvent → List LcdStuffRss → Prop
  /-- Nothing happens. -/
  | nil (rss : LcdStuffRss) : States rss [] [rss]
  /-- A handler returns. -/
  | cons {rss rss' : LcdStuffRss} {fuel : ℕ} {event : NavEvent} {cmds : List Command}
    {events : List NavEvent} {states : List LcdStuffRss}
    (h : rss.handle fuel event = some (rss', cmds)) (rest : States rss' events states) :
    States rss (event :: events) (rss :: states)

/-- **A handler** moves the position, and shows the item that it comes to. -/
theorem handle_eq (fuel : ℕ) (event : NavEvent) : rss.handle fuel event
    = (rss.atScreen (rss.currentScreen + event.delta)).updateScreenNews fuel := by
  cases event with
  | key str => rfl
  | ignore => rfl

/-- The headline on display was wrapped. -/
theorem of_updateScreenNews {rss rss' : LcdStuffRss} {fuel : ℕ} {cmds : List Command}
    (h : rss.updateScreenNews fuel = some (rss', cmds)) :
    rss' = rss.atScreen rss.clampScreen
      ∧ ∀ item ∈ rss.displayed, ∃ wrapped, stringbufferWrap fuel item.headline
        rss.screen.lcd.displaySize.width (rss.screen.lcd.displaySize.height - 1)
          = some wrapped := by
  unfold updateScreenNews at h
  cases hitem : rss.displayed with
  | none =>
    rw [hitem] at h
    exact ⟨(Prod.mk.inj (Option.some.inj h)).1.symm, nofun⟩
  | some item =>
    rw [hitem] at h
    obtain ⟨wrapped, hwrapped, hcmds⟩ := Option.bind_eq_some_iff.mp h
    obtain ⟨cmds', -, hpair⟩ := Option.map_eq_some_iff.mp hcmds
    refine ⟨(Prod.mk.inj hpair).1.symm, fun other hother => ?_⟩
    obtain rfl := Option.some.inj hother
    exact ⟨wrapped, hwrapped⟩

/-- What was shown stays on display. -/
theorem displayed_of_updateScreenNews {rss rss' : LcdStuffRss} {fuel : ℕ} {cmds : List Command}
    (h : rss.updateScreenNews fuel = some (rss', cmds)) : rss'.displayed = rss.displayed := by
  obtain rfl := (of_updateScreenNews h).1
  have hclamp : Carousel.clamp rss.news.length rss.clampScreen = rss.clampScreen :=
    Carousel.clamp_clamp (Int.natCast_nonneg _) _
  rw [displayed_eq, displayed_eq]
  show Carousel.itemAt (Carousel.clamp rss.news.length rss.clampScreen) rss.news 0 = _
  rw [hclamp]
  rfl

/-- **The function that draws the screen returns** exactly if the headline can be wrapped. -/
theorem exists_updateScreenNews_iff (hheight : 2 ≤ rss.screen.lcd.displaySize.height) :
    (∃ fuel r, rss.updateScreenNews fuel = some r)
      ↔ ∀ item ∈ rss.displayed, CanWrap rss.screen.lcd item.headline := by
  obtain ⟨n, hn⟩ := Int.eq_ofNat_of_zero_le
    (show 0 ≤ rss.screen.lcd.displaySize.height - 1 by omega)
  have hwraps := fun headline => exists_stringbufferWrap_iff headline
    rss.screen.lcd.displaySize.width (show 1 ≤ n by omega)
  constructor
  · rintro ⟨fuel, ⟨rss', cmds⟩, h⟩ item hitem
    obtain ⟨wrapped, hwrapped⟩ := (of_updateScreenNews h).2 item hitem
    exact (hwraps item.headline).mp ⟨fuel, wrapped, hn ▸ hwrapped⟩
  · intro h
    unfold updateScreenNews
    cases hitem : rss.displayed with
    | none => exact ⟨0, _, rfl⟩
    | some item =>
      obtain ⟨fuel, wrapped, hwrapped⟩ := (hwraps item.headline).mpr (h item hitem)
      -- enough for the headline and for its lines
      refine ⟨max fuel ((LineBreaks.lines '\n' wrapped).length + 1),
        Option.isSome_iff_exists.mp ?_⟩
      dsimp only
      rw [hn, stringbufferWrap_mono (Nat.le_max_left _ _) hwrapped, Option.bind_some,
        exists_updateScreenText _ _ _ (Nat.le_max_right _ _)]
      rfl

/-- The module at the position that an event leads to. -/
def moved (event : NavEvent) : LcdStuffRss :=
  rss.atScreen (Carousel.move rss.news.length rss.currentScreen event.delta)

/-- The positions that some events come by, the one at the start included. -/
def positions (events : List NavEvent) : List Int :=
  (events.map NavEvent.delta).scanl (Carousel.move rss.news.length) rss.currentScreen

/-- One event more in front. -/
theorem positions_cons (event : NavEvent) (events : List NavEvent) :
    rss.positions (event :: events) = rss.currentScreen :: (rss.moved event).positions events := by
  unfold positions
  rw [List.map_cons, List.scanl_cons]
  rfl

/-- The first of the positions is the one at the start. -/
theorem positions_eq_cons (events : List NavEvent) :
    rss.positions events = rss.currentScreen :: (rss.positions events).tail := by
  cases events with
  | nil => rfl
  | cons event events => rw [positions_cons, List.tail_cons]

/-- **A handler returns** exactly if the headline that it comes to can be wrapped. -/
theorem exists_handle_iff (hheight : 2 ≤ rss.screen.lcd.displaySize.height) (event : NavEvent) :
    (∃ fuel r, rss.handle fuel event = some r) ↔
      ∀ item ∈ Carousel.itemAt (rss.moved event).currentScreen rss.news 0,
        CanWrap rss.screen.lcd item.headline := by
  simp only [handle_eq]
  rw [exists_updateScreenNews_iff (rss.atScreen (rss.currentScreen + event.delta)) hheight,
    displayed_eq]
  rfl

variable {rss}

/-- A handler that returns leaves the module at the next position. -/
theorem of_handle {rss' : LcdStuffRss} {fuel : ℕ} {event : NavEvent} {cmds : List Command}
    (h : rss.handle fuel event = some (rss', cmds)) : rss' = rss.moved event := by
  rw [handle_eq] at h
  exact (of_updateScreenNews h).1

/-- The states differ in the position. -/
theorem States.eq_map {events : List NavEvent} {states : List LcdStuffRss}
    (h : States rss events states) : states = (rss.positions events).map rss.atScreen := by
  induction h with
  | nil rss => rfl
  | cons hreturns rest ih =>
    obtain rfl := of_handle hreturns
    rw [ih, positions_cons, List.map_cons]
    rfl

/-- **Every handler returns** exactly if every headline that the events come to can be wrapped. -/
theorem exists_states_iff (hheight : 2 ≤ rss.screen.lcd.displaySize.height)
    (events : List NavEvent) : (∃ states, States rss events states) ↔
      ∀ pos ∈ (rss.positions events).tail, ∀ item ∈ Carousel.itemAt pos rss.news 0,
        CanWrap rss.screen.lcd item.headline := by
  induction events generalizing rss with
  | nil => exact iff_of_true ⟨_, .nil rss⟩ (fun pos hpos => nomatch hpos)
  | cons event events ih =>
    have hrest := @ih (rss.moved event) hheight
    rw [positions_cons, List.tail_cons, positions_eq_cons, List.forall_mem_cons,
      ← exists_handle_iff rss hheight]
    constructor
    · rintro ⟨_, hstates⟩
      cases hstates with
      | cons hhandle rest =>
        obtain rfl := of_handle hhandle
        exact ⟨⟨_, _, hhandle⟩, hrest.mp ⟨_, rest⟩⟩
    · rintro ⟨⟨fuel, ⟨rss', cmds⟩, hhandle⟩, hwrap⟩
      obtain rfl := of_handle hhandle
      obtain ⟨states, hstates⟩ := hrest.mpr hwrap
      exact ⟨_, .cons hhandle hstates⟩

/-- **The headlines are gone around**, when the handlers return. -/
theorem States.navigates {events : List NavEvent} {states : List LcdStuffRss}
    (h : States rss events states) :
    Navigates rss.news rss.currentScreen events (states.map view) := by
  have hview : states.map view = (rss.positions events).map
      (fun pos => (pos, Carousel.itemAt (Carousel.clamp rss.news.length pos) rss.news 0)) := by
    rw [h.eq_map, List.map_map]
    refine List.map_congr_left (fun pos _ => ?_)
    exact congrArg (Prod.mk pos) (rss.atScreen pos).displayed_eq
  rw [hview]
  exact navigates_scanl rss.news rss.currentScreen events

end LcdStuffRss

/-! ## Both modules -/

/-- A position to start at: one of the places, or the one of an empty list behind a refresh. -/
def StartsAt (tot : ℕ) (pos : Int) : Prop := 0 ≤ pos ∧ pos < tot ∨ tot = 0 ∧ pos = 0

/-- **Both lists are gone around**, by any keys and ignored screens, exactly if every headline that
they come to can be wrapped. -/
theorem navigates_iff (mail : LcdStuffMail) {rss : LcdStuffRss} {socket : Int} {greeting : Str}
    (h : mainInit socket greeting = .ok (some rss.screen.lcd))
    (hstart : StartsAt rss.news.length rss.currentScreen) (events : List NavEvent) :
    (Navigates mail.email mail.currentScreen events ((mail.states events).map LcdStuffMail.view)
      ∧ ∃ states, LcdStuffRss.States rss events states
        ∧ Navigates rss.news rss.currentScreen events (states.map LcdStuffRss.view))
    ↔ ∀ k < events.length, ∀ item ∈ rss.news[((rss.currentScreen
        + NavEvent.offset (events.take (k + 1))) % rss.news.length).toNat]?,
      CanWrap rss.screen.lcd item.headline := by
  have hstates : (∃ states, LcdStuffRss.States rss events states
      ∧ Navigates rss.news rss.currentScreen events (states.map LcdStuffRss.view))
        ↔ ∃ states, LcdStuffRss.States rss events states :=
    exists_congr (fun states => and_iff_left_of_imp LcdStuffRss.States.navigates)
  rw [and_iff_right (mail.navigates events), hstates,
    LcdStuffRss.exists_states_iff (mainInit_bounds h).1]
  rcases hstart with ⟨h₀, hlt⟩ | ⟨hnil, -⟩
  · have hsteps := @NavEvent.isStep_of_mem_map_delta events
    have htot : (0 : Int) < rss.news.length := Int.lt_of_le_of_lt h₀ hlt
    unfold LcdStuffRss.positions
    rw [Carousel.tail_scanl_move h₀ hlt hsteps, List.forall_mem_map, List.length_map]
    refine forall_congr' (fun k => ?_)
    rw [List.mem_range, ← List.map_take, NavEvent.sum_map_delta,
      Carousel.itemAt_zero _ (Int.emod_nonneg _ (Int.ne_of_gt htot))]
  · rw [List.length_eq_zero_iff.mp hnil]
    exact iff_of_true (fun pos _ item hitem => nomatch hitem) (fun k _ item hitem => nomatch hitem)

/-- Two e-mails and three headlines, from the last of them on. -/
theorem navigates_three_headlines :
    let mail : LcdStuffMail := ⟨[], [⟨0, 1, none, none⟩, ⟨0, 2, none, none⟩], 1, "Mail".toList,
      ⟨⟨⟨20, 4⟩, false⟩, "mail".toList⟩⟩
    let rss : LcdStuffRss := ⟨900, [], ["a", "b", "c"].map (fun headline =>
      ⟨"Site".toList, headline.toList⟩), 2, ⟨⟨⟨20, 4⟩, false⟩, "rss".toList⟩⟩
    let events : List NavEvent := [.key "Up".toList, .ignore, .key "Down".toList]
    Navigates mail.email mail.currentScreen events ((mail.states events).map LcdStuffMail.view)
      ∧ ∃ states, LcdStuffRss.States rss events states
        ∧ Navigates rss.news rss.currentScreen events (states.map LcdStuffRss.view) := by
  intro mail rss events
  have hinit : mainInit 3 "connect LCDproc 0.5 protocol 0.3 lcd wid 20 hgt 4".toList
      = .ok (some rss.screen.lcd) := by decide +kernel
  exact (navigates_iff mail hinit (.inl (by decide)) events).mpr
    (fun _ _ _ _ => .inl (by decide))

/-- **On a display with no columns** the first key leads to a headline that is never shown. -/
theorem not_navigates_of_no_columns :
    ¬ ∀ (mail : LcdStuffMail) (rss : LcdStuffRss) (socket : Int) (greeting : Str)
      (events : List NavEvent), mainInit socket greeting = .ok (some rss.screen.lcd) →
      StartsAt mail.email.length mail.currentScreen →
      StartsAt rss.news.length rss.currentScreen →
      Navigates mail.email mail.currentScreen events ((mail.states events).map LcdStuffMail.view)
        ∧ ∃ states, LcdStuffRss.States rss events states
          ∧ Navigates rss.news rss.currentScreen events (states.map LcdStuffRss.view) := by
  intro h
  let mail : LcdStuffMail := ⟨[], [], 0, "Mail".toList, ⟨⟨⟨0, 4⟩, false⟩, "mail".toList⟩⟩
  let rss : LcdStuffRss := ⟨900, [], [⟨"Site".toList, "a".toList⟩], 0,
    ⟨⟨⟨0, 4⟩, false⟩, "rss".toList⟩⟩
  obtain ⟨-, states, hstates, -⟩ := h mail rss 3
    "connect LCDproc 0.5 protocol 0.3 lcd wid 0 hgt 4".toList [.ignore] (by decide +kernel)
    (.inr ⟨rfl, rfl⟩) (.inl (by decide))
  rcases (@LcdStuffRss.exists_states_iff rss (by decide) [.ignore]).mp ⟨states, hstates⟩ 0
    (List.mem_singleton_self _) ⟨"Site".toList, "a".toList⟩ rfl with hwidth | hnil | ⟨-, hspaces⟩
  · exact hwidth rfl
  · exact nomatch hnil
  · exact absurd (hspaces 'a' (List.mem_singleton_self _)) (by decide)
