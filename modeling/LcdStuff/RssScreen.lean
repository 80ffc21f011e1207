import LcdStuff.Display
import LcdStuff.Feeds
import LcdStuff.Navigation

/-!
# The headlines, from the feeds to the display

The RSS module reads its feeds every now and then, and in between its handlers go through the
headlines that it has found. While a feed is read the screen says so, and a headline is wrapped
before it is shown; without a headline the screen is left as it is.

`LcdStuffRss.showsNews_of_reachable` says what a viewer sees after all that, with the other modules
at work: the headline that the events since the last check have moved to, wrapped, and below it
nothing of an earlier one. If that check has found no headline, the screen still says that the last
of the feeds is being read.
-/

/-- **What happens to the module**, once it is set up. -/
inductive RssEvent where
  /-- It is time for `rss_check` and `update_screen_news`; the library answers. -/
  | refresh (mrss : Mrss)
  /-- A handler is called. -/
  | nav (event : NavEvent)

namespace LcdStuffRss

variable (rss : LcdStuffRss)

/-! ## The calls of the module -/

/-- The calls of `update_screen_receiving` -/
def receivingCalls (title : Str) : List ScreenCall :=
  [.setTitle (some title), .clear, .showText 0 (some "  Receiving ...".toList)]

/-- The calls of `update_screen_text`; the last line that is shown is `NULL`. -/
def textCalls (title text : Str) : List ScreenCall :=
  .setTitle (some title) :: .clear
    :: ((List.range ((LineBreaks.lines '\n' text).length + 1)).map Int.ofNat).map
      (fun i => .showText i (stringbufferGetLine text i))

/-- `update_screen_news`: what it leaves in the module, and its calls. -/
def newsCalls (fuel : ℕ) : Option (LcdStuffRss × List ScreenCall) :=
  let rss' := rss.atScreen rss.clampScreen
  match rss.displayed with
  | none => some (rss', [])
  | some item =>
    (stringbufferWrap fuel item.headline rss.screen.lcd.displaySize.width
      (rss.screen.lcd.displaySize.height - 1)).map
        (fun wrapped => (rss', textCalls item.site wrapped))

/-- The calls of `rss_check` -/
def checkCalls : List ScreenCall := rss.feeds.flatMap (fun feed => receivingCalls feed.name)

/-- **An event**: what it leaves in the module, and its calls. -/
def eventCalls (fuel : ℕ) : RssEvent → Option (LcdStuffRss × List ScreenCall)
  | .refresh mrss =>
    ((rss.check mrss).1.newsCalls fuel).map (fun r => (r.1, rss.checkCalls ++ r.2))
  | .nav event => (rss.atScreen (rss.currentScreen + event.delta)).newsCalls fuel

/-- An event: what it leaves in the module, and the commands it queues. -/
def eventCommands (fuel : ℕ) : RssEvent → Option (LcdStuffRss × List Command)
  | .refresh mrss =>
    ((rss.check mrss).1.updateScreenNews fuel).map (fun r => (r.1, (rss.check mrss).2 ++ r.2))
  | .nav event => rss.handle fuel event

/-- **The events of a run**, each of which returns: what they leave, and their calls. -/
inductive Runs : LcdStuffRss → List RssEvent → LcdStuffRss → List ScreenCall → Prop
  /-- Nothing happens. -/
  | nil (rss : LcdStuffRss) : Runs rss [] rss []
  /-- An event returns. -/
  | cons {rss rss' rss'' : LcdStuffRss} {fuel : ℕ} {event : RssEvent} {events : List RssEvent}
    {calls calls' : List ScreenCall} (h : rss.eventCalls fuel event = some (rss', calls))
    (rest : Runs rss' events rss'' calls') : Runs rss (event :: events) rss'' (calls ++ calls')

/-- The calls of `update_screen_receiving` show one line. -/
theorem receivingCalls_eq (title : Str) :
    receivingCalls title = ScreenCall.showTexts title ["  Receiving ...".toList] := rfl

/-- The calls of `update_screen_text` show the lines of the text. -/
theorem textCalls_eq (title text : Str) : textCalls title text
    = ScreenCall.showTexts title (LineBreaks.lines '\n' text)
      ++ [.showText (LineBreaks.lines '\n' text).length none] := by
  have hlines : ((List.range (LineBreaks.lines '\n' text).length).map Int.ofNat).map
      (fun i => ScreenCall.showText i (stringbufferGetLine text i))
        = (LineBreaks.lines '\n' text).zipIdx.map
          (fun p : Str × ℕ => .showText p.2 (some p.1)) := by
    rw [List.map_map]
    refine List.ext_getElem (by simp) (fun i hi _ => ?_)
    have hlt : i < (LineBreaks.lines '\n' text).length := by simpa using hi
    have hline : stringbufferGetLine text (Int.ofNat i)
        = some (LineBreaks.lines '\n' text)[i] :=
      (stringbufferGetLine_eq text i).trans (List.getElem?_eq_getElem hlt)
    rw [List.getElem_map, List.getElem_map, List.getElem_range, List.getElem_zipIdx,
      Function.comp_apply, hline, Nat.zero_add]
    rfl
  have hend : stringbufferGetLine text (Int.ofNat (LineBreaks.lines '\n' text).length) = none :=
    (stringbufferGetLine_eq text _).trans (List.getElem?_eq_none (Nat.le_refl _))
  unfold textCalls ScreenCall.showTexts
  rw [List.range_succ, List.map_append, List.map_append, hlines, List.map_singleton,
    List.map_singleton, hend]
  rfl

/-- The calls of `update_screen_text` queue its commands. -/
theorem commandsOf_textCalls {title text : Str} {fuel : ℕ} {cmds : List Command}
    (h : rss.updateScreenText fuel title text = some cmds) :
    Drawing.commandsOf rss.screen.lcd rss.screen.moduleName (textCalls title text) = cmds := by
  have hlong := exists_updateScreenText rss title text (Nat.lt_succ_self _)
  have heq := Loop.run_unique h hlong
  have hend : rss.screen.showText (Int.ofNat (LineBreaks.lines '\n' text).length)
      (stringbufferGetLine text (Int.ofNat (LineBreaks.lines '\n' text).length)) = [] := by
    have hnone : stringbufferGetLine text (Int.ofNat (LineBreaks.lines '\n' text).length)
        = none := (stringbufferGetLine_eq text _).trans (List.getElem?_eq_none (Nat.le_refl _))
    rw [hnone, Screen.showText_none]
  rw [heq, Drawing.commandsOf, textCalls, List.flatMap_cons, List.flatMap_cons, List.flatMap_map,
    List.range_succ, List.map_append, List.flatMap_append, List.map_singleton,
    List.flatMap_singleton, ← List.append_assoc]
  show _ ++ (_ ++ rss.screen.showText _ _) = _
  rw [hend, List.append_nil]
  rfl

/-- **The calls of `update_screen_news` queue its commands.** -/
theorem exists_newsCalls {rss rss' : LcdStuffRss} {fuel : ℕ} {cmds : List Command}
    (h : rss.updateScreenNews fuel = some (rss', cmds)) :
    ∃ calls, rss.newsCalls fuel = some (rss', calls)
      ∧ Drawing.commandsOf rss.screen.lcd rss.screen.moduleName calls = cmds := by
  unfold updateScreenNews at h
  unfold newsCalls
  cases hitem : rss.displayed with
  | none =>
    rw [hitem] at h
    obtain ⟨rfl, rfl⟩ := Prod.mk.inj (Option.some.inj h)
    exact ⟨[], rfl, rfl⟩
  | some item =>
    rw [hitem] at h
    obtain ⟨wrapped, hwrapped, hcmds⟩ := Option.bind_eq_some_iff.mp h
    obtain ⟨cmds', hcmds', hpair⟩ := Option.map_eq_some_iff.mp hcmds
    obtain ⟨rfl, rfl⟩ := Prod.mk.inj hpair
    refine ⟨textCalls item.site wrapped, ?_, ?_⟩
    · dsimp only
      rw [hwrapped]
      rfl
    · exact commandsOf_textCalls (rss.atScreen rss.clampScreen) hcmds'

/-- What `rss_check` queues. -/
theorem commands_check (mrss : Mrss) :
    (rss.check mrss).2 = rss.feeds.flatMap (fun feed => rss.updateScreenReceiving feed.name) := by
  have hfeed : ∀ (s : List Newsitem × List Command) (p : RssFeed × ℕ),
      (rss.checkFeed mrss s p).2 = s.2 ++ rss.updateScreenReceiving p.1.name := by
    intro s p
    unfold checkFeed
    cases mrss.parseUrl p.2 with
    | none => rfl
    | some dataCur => rfl
  rw [← List.zipIdx_map_fst 0 rss.feeds, List.flatMap_map, List.flatMap_eq_foldl]
  exact (List.foldl_hom Prod.snd (fun s p => (hfeed s p).symm)).symm

/-- **The calls of an event queue its commands.** -/
theorem exists_eventCalls {rss rss' : LcdStuffRss} {fuel : ℕ} {event : RssEvent}
    {cmds : List Command} (h : rss.eventCommands fuel event = some (rss', cmds)) :
    ∃ calls, rss.eventCalls fuel event = some (rss', calls)
      ∧ Drawing.commandsOf rss.screen.lcd rss.screen.moduleName calls = cmds := by
  cases event with
  | refresh mrss =>
    obtain ⟨⟨rss₁, cmds₁⟩, hnews, hpair⟩ := Option.map_eq_some_iff.mp h
    obtain ⟨rfl, rfl⟩ := Prod.mk.inj hpair
    obtain ⟨calls, hcalls, hcommands⟩ := exists_newsCalls hnews
    refine ⟨rss.checkCalls ++ calls, ?_, ?_⟩
    · show Option.map _ _ = _
      rw [hcalls]
      rfl
    · have hcheck : Drawing.commandsOf rss.screen.lcd rss.screen.moduleName rss.checkCalls
          = (rss.check mrss).2 := by
        rw [commands_check, Drawing.commandsOf, checkCalls, List.flatMap_assoc]
        refine List.flatMap_congr (fun feed _ => ?_)
        rw [receivingCalls, List.flatMap_cons, List.flatMap_cons, List.flatMap_singleton,
          ← List.append_assoc]
        rfl
      rw [Drawing.commandsOf, List.flatMap_append]
      exact congrArg₂ (· ++ ·) hcheck hcommands
  | nav event =>
    have h : rss.handle fuel event = some (rss', cmds) := h
    rw [handle_eq] at h
    exact exists_newsCalls h

/-! ## What is on the screen -/

/-- **What a viewer is to see**, of a headline or without one: the headline, wrapped into the lines
of the screen; or else that the last of the feeds is being read. -/
def ShowsNews (item : Option Newsitem) (title : Str) (texts : List Str) : Prop :=
  match item with
  | none => title = (rss.feeds.getLast?.map RssFeed.name).getD []
    ∧ texts = ["  Receiving ...".toList]
  | some item => title = item.site ∧ ∃ fuel wrapped, stringbufferWrap fuel item.headline
      rss.screen.lcd.displaySize.width (rss.screen.lcd.displaySize.height - 1) = some wrapped
    ∧ texts = LineBreaks.lines '\n' wrapped

/-- **The screen shows it**, of the headline on display. -/
def Displays (view : ScreenView) : Prop :=
  ∃ title texts, rss.ShowsNews rss.displayed title texts
    ∧ view.ShowsTexts rss.screen title texts

/-- Without room for a title there is none. -/
def TitleFits (view : ScreenView) : Prop := rss.screen.lcd.noTitle = true → view.title = []

variable {rss}

/-- Texts that are shown leave no title where there is no room for one. -/
theorem titleFits_of_showsTexts {title : Str} {texts : List Str} {view : ScreenView}
    (h : view.ShowsTexts rss.screen title texts) : rss.TitleFits view := by
  intro hno
  rw [h.title, if_pos hno]

/-- **`update_screen_news`** shows the headline, or leaves the screen as it is. -/
theorem exists_draw_newsCalls {rss' : LcdStuffRss} {fuel : ℕ} {calls : List ScreenCall}
    (h : rss.newsCalls fuel = some (rss', calls)) {view : ScreenView} (hview : rss.TitleFits view)
    (hreceiving : rss.displayed = none → rss.Displays view) :
    rss' = rss.atScreen rss.clampScreen
      ∧ ∃ view', calls.foldl (ScreenView.draw rss.screen) (some view) = some view'
        ∧ rss'.Displays view' ∧ rss'.TitleFits view' := by
  have hdisplayed : (rss.atScreen rss.clampScreen).displayed = rss.displayed := by
    have hclamp : Carousel.clamp rss.news.length rss.clampScreen = rss.clampScreen :=
      Carousel.clamp_clamp (Int.natCast_nonneg _) _
    rw [displayed_eq, displayed_eq]
    show Carousel.itemAt (Carousel.clamp rss.news.length rss.clampScreen) rss.news 0 = _
    rw [hclamp]
    rfl
  unfold newsCalls at h
  cases hitem : rss.displayed with
  | none =>
    rw [hitem] at h
    obtain ⟨rfl, rfl⟩ := Prod.mk.inj (Option.some.inj h)
    refine ⟨rfl, view, rfl, ?_, hview⟩
    unfold Displays
    rw [hdisplayed]
    exact hreceiving hitem
  | some item =>
    rw [hitem] at h
    obtain ⟨wrapped, hwrapped, hpair⟩ := Option.map_eq_some_iff.mp h
    obtain ⟨rfl, rfl⟩ := Prod.mk.inj hpair
    obtain ⟨view', hfold, hshows⟩ := ScreenCall.shows_showTexts rss.screen item.site
      (LineBreaks.lines '\n' wrapped) hview
    refine ⟨rfl, view', ?_, ?_, titleFits_of_showsTexts hshows⟩
    · rw [textCalls_eq, List.foldl_append, hfold]
      rfl
    · unfold Displays
      rw [hdisplayed, hitem]
      exact ⟨item.site, _, ⟨rfl, fuel, wrapped, hwrapped, rfl⟩, hshows⟩

/-- **`rss_check`** leaves on the screen that the last of the feeds is being read. -/
theorem exists_draw_checkCalls (hfeeds : rss.feeds ≠ []) {view : ScreenView}
    (hview : rss.TitleFits view) :
    ∃ view', rss.checkCalls.foldl (ScreenView.draw rss.screen) (some view) = some view'
      ∧ view'.ShowsTexts rss.screen ((rss.feeds.getLast?.map RssFeed.name).getD [])
        ["  Receiving ...".toList] := by
  unfold checkCalls
  generalize rss.feeds = feeds at hfeeds
  induction feeds generalizing view with
  | nil => exact absurd rfl hfeeds
  | cons feed feeds ih =>
    obtain ⟨view₁, hfold, hshows⟩ := ScreenCall.shows_showTexts rss.screen feed.name
      ["  Receiving ...".toList] hview
    rw [List.flatMap_cons, List.foldl_append, receivingCalls_eq, hfold]
    cases feeds with
    | nil => exact ⟨view₁, rfl, hshows⟩
    | cons feed' feeds =>
      rw [List.getLast?_cons_cons]
      exact ih (titleFits_of_showsTexts hshows) (List.cons_ne_nil _ _)

/-- Without an item on display there is none at any position. -/
theorem displayed_atScreen_eq_none {pos : Int} (h : (rss.atScreen pos).displayed = none) :
    rss.displayed = none := by
  have hnil : rss.news = [] := by
    by_contra hne
    have hnews : (rss.atScreen pos).news ≠ [] := hne
    obtain ⟨item, -, hitem⟩ := exists_displayed hnews
    exact absurd (hitem.symm.trans h) (Option.some_ne_none item)
  rw [displayed_eq, hnil]
  rfl

/-- **A handler** moves the position, and leaves on the screen what a viewer is to see. -/
theorem Displays.nav {rss' : LcdStuffRss} {fuel : ℕ} {event : NavEvent}
    {calls : List ScreenCall} (h : rss.eventCalls fuel (.nav event) = some (rss', calls))
    {view : ScreenView} (hview : rss.TitleFits view) (hdisplays : rss.Displays view) :
    rss' = rss.moved event ∧ ∃ view', calls.foldl (ScreenView.draw rss.screen) (some view)
      = some view' ∧ rss'.Displays view' ∧ rss'.TitleFits view' := by
  refine exists_draw_newsCalls h hview (fun hnone => ?_)
  unfold Displays at hdisplays ⊢
  rw [displayed_atScreen_eq_none hnone] at hdisplays
  rw [hnone]
  exact hdisplays

/-- **A check** leaves on the screen what a viewer is to see. -/
theorem exists_draw_refresh (hfeeds : rss.feeds ≠ []) {rss' : LcdStuffRss} {fuel : ℕ}
    {mrss : Mrss} {calls : List ScreenCall}
    (h : rss.eventCalls fuel (.refresh mrss) = some (rss', calls)) {view : ScreenView}
    (hview : rss.TitleFits view) :
    rss' = (rss.check mrss).1.atScreen (rss.check mrss).1.clampScreen
      ∧ ∃ view', calls.foldl (ScreenView.draw rss.screen) (some view) = some view'
        ∧ rss'.Displays view' ∧ rss'.TitleFits view' := by
  obtain ⟨⟨rss₁, news⟩, hnews, hpair⟩ := Option.map_eq_some_iff.mp h
  obtain ⟨rfl, rfl⟩ := Prod.mk.inj hpair
  obtain ⟨view₁, hfold₁, hshows⟩ := exists_draw_checkCalls hfeeds hview
  obtain ⟨heq, view₂, hfold₂, hdisplays⟩ :=
    exists_draw_newsCalls hnews (titleFits_of_showsTexts hshows) (fun hnone => by
      unfold Displays
      rw [hnone]
      exact ⟨_, _, ⟨rfl, rfl⟩, hshows⟩)
  refine ⟨heq, view₂, ?_, hdisplays⟩
  rw [List.foldl_append, hfold₁]
  exact hfold₂

/-- Handlers, one after the other, behind a check. -/
theorem Displays.runs_nav {rss' : LcdStuffRss} {events : List NavEvent} {calls : List ScreenCall}
    (h : Runs rss (events.map .nav) rss' calls) {view : ScreenView} (hview : rss.TitleFits view)
    (hdisplays : rss.Displays view) :
    rss' = rss.atScreen ((events.map NavEvent.delta).foldl (Carousel.move rss.news.length)
        rss.currentScreen)
      ∧ ∃ view', calls.foldl (ScreenView.draw rss.screen) (some view) = some view'
        ∧ rss'.Displays view' := by
  induction events generalizing rss calls view with
  | nil =>
    cases h with
    | nil => exact ⟨rfl, view, rfl, hdisplays⟩
  | cons event events ih =>
    cases h with
    | cons hevent hrest =>
      obtain ⟨rfl, view₁, hfold₁, hdisplays₁, hview₁⟩ := hdisplays.nav hevent hview
      obtain ⟨heq, view₂, hfold₂, hdisplays₂⟩ := ih hrest hview₁ hdisplays₁
      refine ⟨heq, view₂, ?_, hdisplays₂⟩
      rw [List.foldl_append, hfold₁]
      exact hfold₂

/-! ## Whole runs -/

/-- A run, and the one behind it. -/
theorem Runs.of_append {rss' : LcdStuffRss} {events events' : List RssEvent}
    {calls : List ScreenCall} (h : Runs rss (events ++ events') rss' calls) :
    ∃ mid before after, Runs rss events mid before ∧ Runs mid events' rss' after
      ∧ calls = before ++ after := by
  induction events generalizing rss calls with
  | nil => exact ⟨rss, [], calls, .nil rss, h, rfl⟩
  | cons event events ih =>
    cases h with
    | cons hevent hrest =>
      obtain ⟨mid, before, after, hbefore, hafter, rfl⟩ := ih hrest
      exact ⟨mid, _, after, .cons hevent hbefore, hafter, (List.append_assoc ..).symm⟩

/-- What `update_screen_news` does to the module, and that it writes texts. -/
theorem of_newsCalls {rss' : LcdStuffRss} {fuel : ℕ} {calls : List ScreenCall}
    (h : rss.newsCalls fuel = some (rss', calls)) :
    rss' = rss.atScreen rss.clampScreen ∧ ∀ call ∈ calls, call.WritesText := by
  unfold newsCalls at h
  cases hitem : rss.displayed with
  | none =>
    rw [hitem] at h
    obtain ⟨rfl, rfl⟩ := Prod.mk.inj (Option.some.inj h)
    exact ⟨rfl, fun call hcall => absurd hcall List.not_mem_nil⟩
  | some item =>
    rw [hitem] at h
    obtain ⟨wrapped, -, hpair⟩ := Option.map_eq_some_iff.mp h
    obtain ⟨rfl, rfl⟩ := Prod.mk.inj hpair
    refine ⟨rfl, fun call hcall => ?_⟩
    rcases List.mem_cons.mp hcall with rfl | hcall
    · trivial
    · rcases List.mem_cons.mp hcall with rfl | hcall
      · trivial
      · obtain ⟨line, -, rfl⟩ := List.mem_map.mp hcall
        trivial

/-- **An event** keeps the screen and the feeds, and writes texts. -/
theorem of_eventCalls {rss' : LcdStuffRss} {fuel : ℕ} {event : RssEvent}
    {calls : List ScreenCall} (h : rss.eventCalls fuel event = some (rss', calls)) :
    rss'.screen = rss.screen ∧ rss'.feeds = rss.feeds ∧ ∀ call ∈ calls, call.WritesText := by
  cases event with
  | refresh mrss =>
    obtain ⟨⟨rss₁, news⟩, hnews, hpair⟩ := Option.map_eq_some_iff.mp h
    obtain ⟨rfl, rfl⟩ := Prod.mk.inj hpair
    obtain ⟨rfl, hwrites⟩ := of_newsCalls hnews
    refine ⟨rfl, rfl, fun call hcall => ?_⟩
    rcases List.mem_append.mp hcall with hcall | hcall
    · obtain ⟨feed, -, hcall⟩ := List.mem_flatMap.mp hcall
      simp only [receivingCalls, List.mem_cons, List.not_mem_nil, or_false] at hcall
      rcases hcall with rfl | rfl | rfl <;> trivial
    · exact hwrites call hcall
  | nav event =>
    obtain ⟨rfl, hwrites⟩ := of_newsCalls h
    exact ⟨rfl, rfl, hwrites⟩

/-- So does a run. -/
theorem Runs.writesText {events : List RssEvent} {rss' : LcdStuffRss} {calls : List ScreenCall}
    (h : Runs rss events rss' calls) :
    rss'.screen = rss.screen ∧ rss'.feeds = rss.feeds ∧ ∀ call ∈ calls, call.WritesText := by
  induction h with
  | nil => exact ⟨rfl, rfl, fun call hcall => absurd hcall List.not_mem_nil⟩
  | cons hevent _ ih =>
    obtain ⟨hscreen, hfeeds, hwrites⟩ := of_eventCalls hevent
    refine ⟨ih.1.trans hscreen, ih.2.1.trans hfeeds, fun call hcall => ?_⟩
    rcases List.mem_append.mp hcall with hcall | hcall
    · exact hwrites call hcall
    · exact ih.2.2 call hcall

/-- **The headlines of the last check**, from the feeds. -/
def newsAfter (rss : LcdStuffRss) (mrss : Mrss) : List Newsitem :=
  rss.feeds.zipIdx.flatMap (feedNews mrss)

/-- What is to be seen depends on the feeds and the screen. -/
theorem ShowsNews.congr {rss' : LcdStuffRss} (hfeeds : rss'.feeds = rss.feeds)
    (hscreen : rss'.screen = rss.screen) {item : Option Newsitem} {title : Str} {texts : List Str}
    (h : rss'.ShowsNews item title texts) : rss.ShowsNews item title texts := by
  unfold ShowsNews at h ⊢
  rw [hfeeds, hscreen] at h
  exact h

/-- **A run that has had a check.** -/
theorem exists_draw_runs (hfeeds : rss.feeds ≠ []) {before : List RssEvent} {mrss : Mrss}
    {events : List NavEvent} {rss' : LcdStuffRss} {calls : List ScreenCall}
    (h : Runs rss (before ++ .refresh mrss :: events.map .nav) rss' calls) {view : ScreenView}
    (hview : rss.TitleFits view) :
    ∃ view' title texts, calls.foldl (ScreenView.draw rss.screen) (some view) = some view'
      ∧ rss.ShowsNews ((rss.newsAfter mrss)[(NavEvent.offset events
          % (rss.newsAfter mrss).length).toNat]?) title texts
      ∧ view'.ShowsTexts rss.screen title texts := by
  obtain ⟨mid, calls₁, calls', hbefore, hafter, rfl⟩ := h.of_append
  obtain ⟨hscreen, hsame, hwrites⟩ := hbefore.writesText
  obtain ⟨view₁, hfold₁, hview₁⟩ := ScreenCall.exists_draw_of_writesText hwrites hview
  cases hafter with
  | @cons _ _ _ _ _ _ calls₂ calls₃ hrefresh hnavs =>
    rw [← hscreen] at hview₁ hfold₁ ⊢
    have hmid : mid.feeds ≠ [] := by rwa [hsame]
    obtain ⟨rfl, view₂, hfold₂, hdisplays₂, hview₂⟩ := exists_draw_refresh hmid hrefresh hview₁
    obtain ⟨rfl, view₃, hfold₃, title, texts, hshows, hview₃⟩ := hdisplays₂.runs_nav hnavs hview₂
    have hnews : (mid.check mrss).1.news = rss.newsAfter mrss := by
      rw [check_eq, newsAfter, ← hsame]
    refine ⟨view₃, title, texts, ?_, ?_, hview₃⟩
    · rw [List.foldl_append, hfold₁, List.foldl_append, hfold₂]
      exact hfold₃
    · have hitem : LcdStuffRss.displayed (((mid.check mrss).1.atScreen
          (mid.check mrss).1.clampScreen).atScreen ((events.map NavEvent.delta).foldl
            (Carousel.move (mid.check mrss).1.news.length) (mid.check mrss).1.clampScreen))
          = (rss.newsAfter mrss)[(NavEvent.offset events
            % (rss.newsAfter mrss).length).toNat]? := by
        rw [displayed_eq, ← hnews]
        exact NavEvent.itemAt_foldl_move _ events
      rw [← hitem]
      refine ShowsNews.congr ?_ ?_ hshows
      · exact hsame
      · exact hscreen

/-- **What a viewer sees of the headlines**, in every run of the modules that the server can read:
behind the last check it is the headline that the keys and the ignored screens since then have moved
to, wrapped into the lines of the screen, with its feed as the title and nothing below it. Without
a headline it is that the last of the feeds is being read. -/
theorem showsNews_of_reachable (server : ScreenServer) {ι : Type} [DecidableEq ι] {lcd : LcdStuff}
    {name : ι → Str} {i : ι} {s : Drawing ι} {calls : ι → List ScreenCall}
    (h : (Drawing.historySystem lcd name).Reachable (s, calls))
    (hname : ∀ j, j ≠ i → name j ≠ name i) (hlegible : Drawing.Legible name calls)
    (hexit : s.gExit = false) (hleft : s.left i = [])
    {rss rss' : LcdStuffRss} (hscreen : rss.screen = ⟨lcd, name i⟩) (hfeeds : rss.feeds ≠ [])
    {before : List RssEvent} {mrss : Mrss} {events : List NavEvent} {made : List ScreenCall}
    (hruns : Runs rss (before ++ .refresh mrss :: events.map .nav) rss' made)
    (hcalls : calls i = .create :: made) :
    ∃ shown title texts, server.screen (server.replay s.queue) (name i) = some shown
      ∧ rss.ShowsNews ((rss.newsAfter mrss)[(NavEvent.offset events
          % (rss.newsAfter mrss).length).toNat]?) title texts
      ∧ shown.title = (if lcd.noTitle then none else some title)
      ∧ ∀ k : ℕ, (k : Int) ∈ rss.screen.lineNumbers →
        shown.Reads k (k + 1 + rss.screen.titleLine) (texts.getD k []) := by
  have hcreated : rss.TitleFits ⟨[], fun _ => [], none, none⟩ := fun _ => rfl
  obtain ⟨view, title, texts, hview, hnews, htexts⟩ := exists_draw_runs hfeeds hruns hcreated
  have hfold : (calls i).foldl (ScreenView.draw rss.screen) none = some view := by
    rw [hcalls]
    exact hview
  rw [hscreen] at hfold ⊢
  obtain ⟨shown, hshown, hshows⟩ :=
    Drawing.exists_shown server h hname hlegible hexit hleft hfold
  refine ⟨shown, title, texts, hshown, hnews, ?_, fun k hk => ?_⟩
  · rw [hshows.title, htexts.title, hscreen]
    split <;> rfl
  · have hreads := hshows.line k hk
    rw [← hscreen] at hk
    rwa [htexts.line k hk] at hreads

/-- A check finds two headlines, and a key moves to the second one. -/
theorem showsNews_of_reachable_two :
    let rss : LcdStuffRss := ⟨900, [⟨[], "Site".toList, 5⟩], [], 0,
      ⟨⟨⟨7, 4⟩, false⟩, "rss".toList⟩⟩
    ∃ (s : Drawing Bool) (shown : ShownScreen) (title : Str) (texts : List Str),
      ScreenServer.literal.screen (ScreenServer.literal.replay s.queue) "rss".toList = some shown
        ∧ rss.ShowsNews (some ⟨"Site".toList, "news of the day".toList⟩) title texts
        ∧ shown.title = (if false then none else some title)
        ∧ ∀ k : ℕ, (k : Int) ∈ rss.screen.lineNumbers →
          shown.Reads k (k + 1 + rss.screen.titleLine) (texts.getD k []) := by
  intro rss
  let mrss : Mrss := ⟨fun _ => some ⟨none, [some "old".toList, some "news of the day".toList]⟩,
    fun title _ => title⟩
  let name : Bool → Str := fun i => if i then "rss".toList else "mail".toList
  let first := (rss.eventCalls 40 (.refresh mrss)).getD (rss, [])
  let second := (first.1.eventCalls 40 (.nav (.key "Up".toList))).getD (rss, [])
  have hfirst : rss.eventCalls 40 (.refresh mrss) = some first := by decide +kernel
  have hsecond : first.1.eventCalls 40 (.nav (.key "Up".toList)) = some second := by
    decide +kernel
  have htwo : ∀ {r r' : LcdStuffRss × List ScreenCall} {event event' : RssEvent},
      rss.eventCalls 40 event = some r → r.1.eventCalls 40 event' = some r' →
      Runs rss [event, event'] r'.1 (r.2 ++ (r'.2 ++ [])) :=
    fun hr hr' => .cons hr (.cons hr' (.nil _))
  have hruns := htwo hfirst hsecond
  let made : List ScreenCall := first.2 ++ (second.2 ++ [])
  have hmade : ∀ call ∈ made, call.Made true := by decide +kernel
  have hlegible : Drawing.Legible name (Drawing.alone true (.create :: made)) :=
    Drawing.legible_alone (by decide) (by decide +kernel)
  obtain ⟨s, hs, hquiet⟩ := Drawing.exists_reachable_alone ⟨⟨7, 4⟩, false⟩ name true hmade
  obtain ⟨shown, title, texts, hshown, hnews, hrest⟩ := @showsNews_of_reachable .literal Bool _
    ⟨⟨7, 4⟩, false⟩ name true s _ hs (by decide) hlegible hquiet.exit hquiet.left rss _ rfl
    (List.cons_ne_nil _ _) [] mrss [.key "Up".toList] _ hruns (Function.update_self ..)
  have hitem : (rss.newsAfter mrss)[(NavEvent.offset [.key "Up".toList]
      % (rss.newsAfter mrss).length).toNat]? = some ⟨"Site".toList, "news of the day".toList⟩ := by
    decide +kernel
  rw [hitem] at hnews
  exact ⟨s, shown, title, texts, hshown, hnews, hrest⟩

end LcdStuffRss
