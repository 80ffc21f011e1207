import LcdStuff.Heap
import LcdStuff.RssScreen

/-!
# The memory of the RSS module

`rss_init` allocates a `struct rss_feed` with its address and its name for each feed, and
`rss_check` a `struct newsitem` for each headline. The name of the feed is not copied: the item
points to the string of the feed. At the end of `rss_run` the feeds are freed before the headlines,
which is all right as long as `free_news` does not look at that string.

The functions are written here once more, with pointers in place of the values, so that what is
freed too early or twice has no result. Only the pointers into the characters of a `GString` are
offsets, as in `Wrap`: a newline that is put in does not move the characters here, and what happens
when it does is said in `WrapMemory`.

`stringbuffer_get_line` returns a copy of the line, and `update_screen_text` does not free it. So
each headline that is shown leaves as many strings as it has lines, which are still there when the
program ends (`RssMemory.live_at_rssExit`), and a module that nobody touches grows with every screen
that the server goes on from (`RssMemory.le_live_at_rssExit`). The nodes of the lists are those of
GLib and left out.
-/

/-! ## What is lost -/

namespace LcdStuffRss

/-- The module behind `rss_init`. -/
def init (interval : Int) (feeds : List RssFeed) (screen : Screen) : LcdStuffRss :=
  ⟨interval, feeds, [], 0, screen⟩

/-- One event after the other: what they leave, and their commands. -/
def run (fuel : ℕ) (rss : LcdStuffRss) : List RssEvent → Option (LcdStuffRss × List Command)
  | [] => some (rss, [])
  | event :: events => do
    let (rss, cmds) ← rss.eventCommands fuel event
    let (rss, cmds') ← run fuel rss events
    some (rss, cmds ++ cmds')

/-- How many lines are shown of the headline on display. -/
def shownLines (fuel : ℕ) (rss : LcdStuffRss) : ℕ :=
  match rss.displayed with
  | none => 0
  | some item =>
    ((stringbufferWrap fuel item.headline rss.screen.lcd.displaySize.width
      (rss.screen.lcd.displaySize.height - 1)).map
        (fun wrapped => (LineBreaks.lines '\n' wrapped).length)).getD 0

/-- What is shown of a headline that is on display. -/
theorem updateScreenNews_of_displayed {fuel : ℕ} {rss : LcdStuffRss} {item : Newsitem}
    (h : rss.displayed = some item) :
    rss.updateScreenNews fuel = ((stringbufferWrap fuel item.headline
        rss.screen.lcd.displaySize.width (rss.screen.lcd.displaySize.height - 1)).bind
          ((rss.atScreen rss.clampScreen).updateScreenText fuel item.site)).map
            (fun cmds => (rss.atScreen rss.clampScreen, cmds)) := by
  unfold updateScreenNews
  rw [h, Option.map_bind]
  rfl

/-- What an event loses. -/
def lostIn (fuel : ℕ) (rss : LcdStuffRss) : RssEvent → ℕ
  | .refresh mrss => (rss.check mrss).1.shownLines fuel
  | .nav event => (rss.atScreen (rss.currentScreen + event.delta)).shownLines fuel

/-- What some events lose. -/
def lost (fuel : ℕ) (rss : LcdStuffRss) : List RssEvent → ℕ
  | [] => 0
  | event :: events =>
    rss.lostIn fuel event + (rss.eventCommands fuel event).elim 0 (fun r => r.1.lost fuel events)

/-- **A headline that is shown has a line.** -/
theorem one_le_shownLines {fuel : ℕ} {rss rss' : LcdStuffRss} {cmds : List Command}
    (h : rss.updateScreenNews fuel = some (rss', cmds)) (hnews : rss.news ≠ []) :
    1 ≤ rss.shownLines fuel ∧ rss'.news = rss.news := by
  obtain ⟨heq, hwrap⟩ := of_updateScreenNews h
  obtain ⟨item, -, hitem⟩ := exists_displayed hnews
  obtain ⟨wrapped, hwrapped⟩ := hwrap item hitem
  refine ⟨?_, by rw [heq]; rfl⟩
  unfold shownLines
  rw [hitem]
  dsimp only
  rw [hwrapped]
  exact List.length_pos_iff.mpr (LineBreaks.lines_ne_nil '\n' wrapped)

/-- **Every handler loses something**, as long as there is a headline. -/
theorem length_le_lost {fuel : ℕ} {rss : LcdStuffRss} (hnews : rss.news ≠ [])
    (events : List NavEvent) (h : (rss.run fuel (events.map .nav)).isSome = true) :
    events.length ≤ rss.lost fuel (events.map .nav) := by
  induction events generalizing rss with
  | nil => exact Nat.le_refl _
  | cons event events ih =>
    obtain ⟨r, hr⟩ := Option.isSome_iff_exists.mp h
    obtain ⟨⟨rss₁, cmds⟩, hevent, hrest⟩ := Option.bind_eq_some_iff.mp hr
    obtain ⟨r', hr', -⟩ := Option.bind_eq_some_iff.mp hrest
    have hshown : (rss.atScreen (rss.currentScreen + event.delta)).updateScreenNews fuel
        = some (rss₁, cmds) := (handle_eq rss fuel event).symm.trans hevent
    obtain ⟨hone, hsame⟩ := one_le_shownLines hshown hnews
    have hrest := ih (hsame ▸ hnews) (Option.isSome_iff_exists.mpr ⟨r', hr'⟩)
    have hlost : rss.lost fuel ((event :: events).map .nav)
        = (rss.atScreen (rss.currentScreen + event.delta)).shownLines fuel
          + rss₁.lost fuel (events.map .nav) := by
      rw [List.map_cons, lost, hevent]
      rfl
    rw [hlost, List.length_cons]
    omega

end LcdStuffRss

/-! ## The functions over the memory -/

/-- `struct rss_feed`, with the addresses of its strings -/
structure FeedBlock where
  /-- `url` -/
  url : Option ℕ
  /-- `name` -/
  name : Option ℕ
  /-- `items` -/
  items : Int
  deriving DecidableEq, Repr

/-- `struct newsitem`, with the addresses of its strings -/
structure NewsitemBlock where
  /-- `site` -/
  site : Option ℕ
  /-- `headline` -/
  headline : Option ℕ
  deriving DecidableEq, Repr

/-- **What is allocated.** -/
inductive RssBlock where
  /-- A string, or a `GString`. -/
  | string (s : Str)
  /-- A `struct rss_feed`. -/
  | feed (feed : FeedBlock)
  /-- A `struct newsitem`. -/
  | newsitem (item : NewsitemBlock)
  deriving DecidableEq, Repr

/-- `struct lcd_stuff_rss`, with the memory it points to. -/
structure RssMemory where
  /-- What is allocated. -/
  heap : Heap RssBlock
  /-- `feeds` -/
  feeds : List ℕ
  /-- `news` -/
  news : List ℕ
  /-- `current_screen` -/
  currentScreen : Int
  /-- `screen` -/
  screen : Screen

namespace RssMemory

/-- The string at an address. -/
def stringAt (h : Heap RssBlock) (p : Option ℕ) : Option Str := do
  match ← h.read (← p) with
  | .string s => some s
  | _ => none

/-- The feed at an address. -/
def feedAt (h : Heap RssBlock) (p : ℕ) : Option FeedBlock := do
  match ← h.read p with
  | .feed feed => some feed
  | _ => none

/-- The item at an address. -/
def newsitemAt (h : Heap RssBlock) (p : ℕ) : Option NewsitemBlock := do
  match ← h.read p with
  | .newsitem item => some item
  | _ => none

/-- `free` and `g_free` -/
def gFree (h : Heap RssBlock) : Option ℕ → Option (Heap RssBlock)
  | none => some h
  | some p => h.free p

/-! ### `rss_init` -/

/-- A round of the loop of `rss_init`, for what the file says of the feed. -/
def initFeed (h : Heap RssBlock) (feed : RssFeed) : Option (ℕ × Heap RssBlock) := do
  let (cur, h) := h.malloc (.feed ⟨none, none, 0⟩)
  let (url, h) := h.malloc (.string feed.url)
  let f ← feedAt h cur
  let h ← h.write cur (.feed { f with url := some url })
  let (name, h) := h.malloc (.string feed.name)
  let f ← feedAt h cur
  let h ← h.write cur (.feed { f with name := some name })
  let f ← feedAt h cur
  let h ← h.write cur (.feed { f with items := feed.items })
  some (cur, h)

/-- **`rss_init`**, for what the file says. -/
def init (feeds : List RssFeed) (screen : Screen) : Option RssMemory := do
  let (h, ps) ← feeds.foldlM (fun s feed => do
    let (cur, h) ← initFeed s.1 feed
    some (h, s.2 ++ [cur])) (Heap.empty, [])
  some ⟨h, ps, [], 0, screen⟩

/-! ### `update_screen_news` -/

/-- `stringbuffer_wrap_simple` of the buffer at an address: the new one. Its characters stay where
they are while they are edited. -/
def stringbufferWrapSimpleAt (fuel : ℕ) (h : Heap RssBlock) (buffer : ℕ) (length : Int) :
    Option (ℕ × Heap RssBlock) := do
  let wrapped ← stringbufferWrapSimple fuel (← stringAt h (some buffer)) length
  some (h.malloc (.string wrapped))

/-- `stringbuffer_wrap` of the buffer at an address: the new one. The characters of both stay where
they are while they are edited. -/
def stringbufferWrapAt (fuel : ℕ) (h : Heap RssBlock) (buffer : ℕ) (length maxlines : Int) :
    Option (ℕ × Heap RssBlock) := do
  let text ← stringAt h (some buffer)
  if wrapInt (length * maxlines) < wrapInt text.length then
    stringbufferWrapSimpleAt fuel h buffer length
  else do
    let (tried, h) := h.malloc (.string (← stringbufferWrapSpaces fuel text length))
    if stringbufferGetLines (← stringAt h (some tried)) ≤ maxlines then some (tried, h)
    else do
      let h ← h.free tried
      stringbufferWrapSimpleAt fuel h buffer length

/-- `stringbuffer_get_line` of the buffer at an address: a copy of the line, or `NULL`. -/
def stringbufferGetLineAt (h : Heap RssBlock) (buffer : ℕ) (line : Int) :
    Option (Option ℕ × Heap RssBlock) := do
  match stringbufferGetLine (← stringAt h (some buffer)) line with
  | none => some (none, h)
  | some text => do
    let (p, h) := h.malloc (.string text)
    some (some p, h)

/-- The string at an address, or `NULL`. -/
def lineAt (h : Heap RssBlock) : Option ℕ → Option (Option Str)
  | none => some none
  | some p => (stringAt h (some p)).map some

/-- A round of the loop of `update_screen_text`. -/
def updateScreenTextBody (screen : Screen) (text : ℕ) (s : Heap RssBlock × ℕ × List Command) :
    Option ((Heap RssBlock × ℕ × List Command) ⊕ (Heap RssBlock × List Command)) := do
  let (line, h) ← stringbufferGetLineAt s.1 text s.2.1
  let cmds := s.2.2 ++ screen.showText s.2.1 (← lineAt h line)
  if line.isSome then some (.inl (h, s.2.1 + 1, cmds)) else some (.inr (h, cmds))

/-- `update_screen_text` -/
def updateScreenText (fuel : ℕ) (screen : Screen) (h : Heap RssBlock) (title : Option ℕ)
    (text : ℕ) : Option (Heap RssBlock × List Command) := do
  let cmds := screen.setTitle (some (← stringAt h title)) ++ screen.clear
  Loop.run (updateScreenTextBody screen text) fuel (h, 0, cmds)

/-- The item at an address is shown. -/
def showItem (fuel : ℕ) (screen : Screen) (h : Heap RssBlock) (p : ℕ) :
    Option (Heap RssBlock × List Command) := do
  let item ← newsitemAt h p
  let (newsitem, h) := h.malloc (.string (← stringAt h item.headline))
  let (wrapped, h) ← stringbufferWrapAt fuel h newsitem screen.lcd.displaySize.width
    (screen.lcd.displaySize.height - 1)
  let (h, cmds) ← updateScreenText fuel screen h item.site wrapped
  let h ← h.free wrapped
  let h ← h.free newsitem
  some (h, cmds)

/-- **`update_screen_news`** -/
def updateScreenNews (fuel : ℕ) (m : RssMemory) : Option (RssMemory × List Command) :=
  let pos := Carousel.clamp m.news.length m.currentScreen
  match Carousel.itemAt pos m.news 0 with
  | none => some ({ m with currentScreen := pos }, [])
  | some p =>
    (showItem fuel m.screen m.heap p).map
      (fun r => ({ m with heap := r.1, currentScreen := pos }, r.2))

/-! ### `rss_check` -/

/-- A round of the loop of `free_news`. -/
def freeItem (h : Heap RssBlock) (p : ℕ) : Option (Heap RssBlock) := do
  let h ← gFree h (← newsitemAt h p).headline
  h.free p

/-- `free_news` -/
def freeNews (m : RssMemory) : Option RssMemory := do
  let h ← m.news.foldlM freeItem m.heap
  some { m with heap := h, news := [] }

variable (mrss : Mrss)

/-- The item that is made of one of a feed. -/
def newItem (feed : ℕ) (encoding : Option Str) (h : Heap RssBlock) (title : Option Str) :
    Option (ℕ × Heap RssBlock) := do
  let (newsitem, h) := h.malloc (.newsitem ⟨none, none⟩)
  let (headline, h) := h.malloc (.string ((mrss.gConvert title encoding).getD []))
  let item ← newsitemAt h newsitem
  let h ← h.write newsitem (.newsitem { item with headline := some headline })
  let f ← feedAt h feed
  let item ← newsitemAt h newsitem
  let h ← h.write newsitem (.newsitem { item with site := f.name })
  some (newsitem, h)

/-- The loop over the items of a feed, from the value of `i` on. -/
def readItems (feed : ℕ) (encoding : Option Str) :
    List (Option Str) → Int → Heap RssBlock → List ℕ → Option (Heap RssBlock × List ℕ)
  | [], _, h, news => some (h, news)
  | title :: itemCur, i, h, news => do
    if i < (← feedAt h feed).items then do
      let (p, h) ← newItem mrss feed encoding h title
      readItems feed encoding itemCur (i + 1) h (news ++ [p])
    else some (h, news)

/-- **A round of the loop over the feeds**, for the one at an address and a place. -/
def checkFeed (screen : Screen) (s : Heap RssBlock × List ℕ × List Command) (p : ℕ × ℕ) :
    Option (Heap RssBlock × List ℕ × List Command) := do
  let f ← feedAt s.1 p.1
  let cmds := s.2.2 ++ LcdStuffRss.updateScreenReceiving ⟨0, [], [], 0, screen⟩
    (← stringAt s.1 f.name)
  let _ ← stringAt s.1 f.url
  match mrss.parseUrl p.2 with
  | none => some (s.1, s.2.1, cmds)
  | some dataCur => do
    let (h, news) ← readItems mrss p.1 dataCur.encoding dataCur.items 0 s.1 s.2.1
    some (h, news, cmds)

/-- **`rss_check`** -/
def check (m : RssMemory) : Option (RssMemory × List Command) := do
  let m ← freeNews { m with currentScreen := 0 }
  let s ← m.feeds.zipIdx.foldlM (checkFeed mrss m.screen) (m.heap, m.news, [])
  some ({ m with heap := s.1, news := s.2.1 }, s.2.2)

/-! ### A run -/

/-- **An event.** -/
def next (fuel : ℕ) (m : RssMemory) : RssEvent → Option (RssMemory × List Command)
  | .refresh mrss => do
    let (m, cmds) ← m.check mrss
    let (m, cmds') ← m.updateScreenNews fuel
    some (m, cmds ++ cmds')
  | .nav event => { m with currentScreen := m.currentScreen + event.delta }.updateScreenNews fuel

/-- One event after the other. -/
def run (fuel : ℕ) (m : RssMemory) : List RssEvent → Option (RssMemory × List Command)
  | [] => some (m, [])
  | event :: events => do
    let (m, cmds) ← m.next fuel event
    let (m, cmds') ← run fuel m events
    some (m, cmds ++ cmds')

/-- What `rss_run` frees of a feed. -/
def freeFeed (h : Heap RssBlock) (p : ℕ) : Option (Heap RssBlock) := do
  let h ← gFree h (← feedAt h p).url
  let h ← gFree h (← feedAt h p).name
  h.free p

/-- **What `rss_run` frees at its end**: the feeds, and then the headlines. -/
def exit (m : RssMemory) : Option (Heap RssBlock) := do
  let h ← m.feeds.foldlM freeFeed m.heap
  let m ← freeNews { m with heap := h }
  some m.heap

/-! ## What the module owns -/

/-- **A feed in the memory**: its strings, and the `struct rss_feed`. -/
inductive FeedCells : ℕ → RssFeed → List (Heap.Cell RssBlock) → Prop
  /-- A `struct rss_feed` with its strings, as they are freed. -/
  | feed (p url name : ℕ) (feed : RssFeed) :
    FeedCells p feed [⟨url, .string feed.url⟩, ⟨name, .string feed.name⟩,
      ⟨p, .feed ⟨some url, some name, feed.items⟩⟩]

/-- **A headline in the memory**: its text, and the `struct newsitem`, which points to a string
among those of the feeds. -/
inductive NewsCells (feeds : List (Heap.Cell RssBlock)) :
    ℕ → Newsitem → List (Heap.Cell RssBlock) → Prop
  /-- A `struct newsitem` with its headline, as they are freed. -/
  | item (p headline : ℕ) {site : ℕ} {item : Newsitem}
    (hsite : ⟨site, .string item.site⟩ ∈ feeds) :
    NewsCells feeds p item [⟨headline, .string item.headline⟩,
      ⟨p, .newsitem ⟨some site, some headline⟩⟩]

variable {h : Heap RssBlock} {cells : List (Heap.Cell RssBlock)} {p : ℕ}

theorem stringAt_of_mem (hh : h.Holds cells) {s : Str} (hmem : ⟨p, .string s⟩ ∈ cells) :
    stringAt h (some p) = some s := by
  show (h.read p).bind _ = _
  rw [hh.read hmem]
  rfl

theorem feedAt_of_mem (hh : h.Holds cells) {feed : FeedBlock} (hmem : ⟨p, .feed feed⟩ ∈ cells) :
    feedAt h p = some feed := by
  show (h.read p).bind _ = _
  rw [hh.read hmem]
  rfl

theorem newsitemAt_of_mem (hh : h.Holds cells) {item : NewsitemBlock}
    (hmem : ⟨p, .newsitem item⟩ ∈ cells) : newsitemAt h p = some item := by
  show (h.read p).bind _ = _
  rw [hh.read hmem]
  rfl

/-! ## The feeds -/

/-- **A feed is allocated.** -/
theorem initFeed_eq (hh : h.Holds cells) (feed : RssFeed) :
    ∃ p h' a, initFeed h feed = some (p, h') ∧ FeedCells p feed a ∧ h'.Holds (a ++ cells) := by
  obtain ⟨p, h₁, hmalloc, hh₁⟩ := hh.malloc (.feed ⟨none, none, 0⟩)
  obtain ⟨url, h₂, hurl, hh₂⟩ := hh₁.malloc (.string feed.url)
  have hread₂ := feedAt_of_mem hh₂ (List.mem_cons_of_mem _ List.mem_cons_self)
  obtain ⟨h₃, hwrite₃, hh₃⟩ :=
    (hh₂.perm (List.Perm.swap _ _ _)).write (.feed ⟨some url, none, 0⟩)
  obtain ⟨name, h₄, hname, hh₄⟩ := hh₃.malloc (.string feed.name)
  have hread₄ := feedAt_of_mem hh₄ (List.mem_cons_of_mem _ List.mem_cons_self)
  obtain ⟨h₅, hwrite₅, hh₅⟩ :=
    (hh₄.perm (List.Perm.swap _ _ _)).write (.feed ⟨some url, some name, 0⟩)
  have hread₅ := feedAt_of_mem hh₅ List.mem_cons_self
  obtain ⟨h₆, hwrite₆, hh₆⟩ := hh₅.write (.feed ⟨some url, some name, feed.items⟩)
  refine ⟨p, h₆, _, ?_, .feed p url name feed, hh₆.perm ?_⟩
  · simp only [initFeed, hmalloc, hurl, hread₂, hwrite₃, hname, hread₄, hwrite₅, hread₅, hwrite₆,
      Option.bind_eq_bind, Option.bind_some]
  · exact ((List.Perm.swap _ _ _).trans ((List.Perm.swap _ _ _).cons _)).trans
      (List.Perm.swap _ _ _)

/-- **The feeds are allocated**, behind those that are there. -/
theorem foldlM_initFeed_eq (feeds : List RssFeed) (ps : List ℕ) (hh : h.Holds cells) :
    ∃ h' ps' a, feeds.foldlM (fun s feed => do
        let (cur, h) ← initFeed s.1 feed
        some (h, s.2 ++ [cur])) (h, ps) = some (h', ps ++ ps')
      ∧ Heap.Each FeedCells ps' feeds a ∧ h'.Holds (a ++ cells) := by
  induction feeds generalizing h ps cells with
  | nil => exact ⟨h, [], [], by rw [List.append_nil]; rfl, .nil, hh⟩
  | cons feed feeds ih =>
    obtain ⟨p, h₁, a, hfeed, hcells, hh₁⟩ := initFeed_eq hh feed
    obtain ⟨h', ps', a', hrest, heach, hh'⟩ := ih (ps ++ [p]) hh₁
    refine ⟨h', p :: ps', a ++ a', ?_, .cons hcells heach, ?_⟩
    · rw [List.foldlM_cons, hfeed, List.append_cons]
      exact hrest
    · rw [List.append_assoc]
      exact hh'.swap

/-- **A feed is freed.** -/
theorem freeFeed_eq {feed : RssFeed} {a : List (Heap.Cell RssBlock)} (hfeed : FeedCells p feed a)
    (hh : h.Holds (a ++ cells)) : ∃ h', freeFeed h p = some h' ∧ h'.Holds cells := by
  cases hfeed with
  | feed url name feed =>
    have hread : ∀ {h : Heap RssBlock} (front : List (Heap.Cell RssBlock)) {f : FeedBlock},
        h.Holds (front ++ ⟨p, .feed f⟩ :: cells) → feedAt h p = some f :=
      fun front _ hh => feedAt_of_mem hh (List.mem_append_right _ List.mem_cons_self)
    obtain ⟨h₁, hfree₁, hh₁⟩ := hh.free
    obtain ⟨h₂, hfree₂, hh₂⟩ := Heap.Holds.free hh₁
    obtain ⟨h₃, hfree₃, hh₃⟩ := Heap.Holds.free hh₂
    refine ⟨h₃, ?_, hh₃⟩
    simp only [freeFeed, gFree, hread [_, _] hh, hfree₁, hread [_] hh₁, hfree₂, hfree₃,
      Option.bind_eq_bind, Option.bind_some]

/-- **What is read of a feed** is the feed. -/
theorem FeedCells.read {feed : RssFeed} {a : List (Heap.Cell RssBlock)}
    (hfeed : FeedCells p feed a) (hh : h.Holds cells) (hsub : a ⊆ cells) :
    ∃ f url name, feedAt h p = some f ∧ f.url = some url ∧ f.name = some name
      ∧ f.items = feed.items ∧ stringAt h f.url = some feed.url
      ∧ stringAt h f.name = some feed.name ∧ ⟨name, .string feed.name⟩ ∈ a := by
  cases hfeed with
  | feed url name feed =>
    simp only [List.cons_subset] at hsub
    obtain ⟨hurl, hname, hcell, -⟩ := hsub
    exact ⟨_, url, name, feedAt_of_mem hh hcell, rfl, rfl, rfl, stringAt_of_mem hh hurl,
      stringAt_of_mem hh hname, List.mem_cons_of_mem _ List.mem_cons_self⟩

/-! ## What is shown -/

/-- **A buffer is wrapped** into a new one. -/
theorem stringbufferWrapSimpleAt_rel (fuel : ℕ) (length : Int) {text : Str} (hh : h.Holds cells)
    (hmem : ⟨p, .string text⟩ ∈ cells) :
    Option.Rel (fun r wrapped => r.2.Holds (⟨r.1, .string wrapped⟩ :: cells))
      (stringbufferWrapSimpleAt fuel h p length) (stringbufferWrapSimple fuel text length) := by
  unfold stringbufferWrapSimpleAt
  rw [stringAt_of_mem hh hmem]
  simp only [Option.bind_eq_bind, Option.bind_some]
  cases stringbufferWrapSimple fuel text length with
  | none => exact .none
  | some wrapped =>
    obtain ⟨q, h', hmalloc, hh'⟩ := hh.malloc (.string wrapped)
    rw [Option.bind_some, hmalloc]
    exact .some hh'

/-- **A buffer is wrapped** into a new one, and a first try that has too many lines is freed. -/
theorem stringbufferWrapAt_rel (fuel : ℕ) (length maxlines : Int) {text : Str}
    (hh : h.Holds cells) (hmem : ⟨p, .string text⟩ ∈ cells) :
    Option.Rel (fun r wrapped => r.2.Holds (⟨r.1, .string wrapped⟩ :: cells))
      (stringbufferWrapAt fuel h p length maxlines)
      (stringbufferWrap fuel text length maxlines) := by
  unfold stringbufferWrapAt stringbufferWrap
  rw [stringAt_of_mem hh hmem]
  by_cases hlong : wrapInt (length * maxlines) < wrapInt text.length
  · rw [Option.bind_eq_bind, Option.bind_some, if_pos hlong, if_pos hlong]
    exact stringbufferWrapSimpleAt_rel fuel length hh hmem
  · rw [Option.bind_eq_bind, Option.bind_some, if_neg hlong, if_neg hlong]
    cases stringbufferWrapSpaces fuel text length with
    | none => exact .none
    | some wrapped =>
      obtain ⟨q, h₁, hmalloc, hh₁⟩ := hh.malloc (.string wrapped)
      simp only [Option.bind_eq_bind, Option.bind_some, hmalloc,
        stringAt_of_mem hh₁ List.mem_cons_self]
      by_cases hfew : stringbufferGetLines wrapped ≤ maxlines
      · rw [if_pos hfew, if_pos hfew]
        exact .some hh₁
      · obtain ⟨h₂, hfree, hh₂⟩ := hh₁.free
        rw [if_neg hfew, if_neg hfew, hfree]
        exact stringbufferWrapSimpleAt_rel fuel length hh₂ hmem

/-- Behind the last line there is none to copy. -/
theorem stringbufferGetLineAt_none {text : Str} {line : Int} (hh : h.Holds cells)
    (hmem : ⟨p, .string text⟩ ∈ cells) (hline : stringbufferGetLine text line = none) :
    stringbufferGetLineAt h p line = some (none, h) := by
  unfold stringbufferGetLineAt
  rw [stringAt_of_mem hh hmem, Option.bind_eq_bind, Option.bind_some, hline]

/-- **A line is copied.** -/
theorem stringbufferGetLineAt_some {text s : Str} {line : Int} (hh : h.Holds cells)
    (hmem : ⟨p, .string text⟩ ∈ cells) (hline : stringbufferGetLine text line = some s) :
    ∃ q h', stringbufferGetLineAt h p line = some (some q, h')
      ∧ h'.Holds (⟨q, .string s⟩ :: cells) := by
  obtain ⟨q, h', hmalloc, hh'⟩ := hh.malloc (.string s)
  refine ⟨q, h', ?_, hh'⟩
  unfold stringbufferGetLineAt
  rw [stringAt_of_mem hh hmem, Option.bind_eq_bind, Option.bind_some, hline]
  dsimp only
  rw [hmalloc]

/-- **`update_screen_text`** shows what the values say, and leaves a copy of each of the lines. -/
theorem updateScreenText_rel (fuel : ℕ) (rss : LcdStuffRss) {t : ℕ} {title text : Str}
    (hh : h.Holds cells) (htitle : ⟨t, .string title⟩ ∈ cells) (htext : ⟨p, .string text⟩ ∈ cells) :
    Option.Rel (fun r cmds => r.2 = cmds ∧ ∃ garbage : List (Heap.Cell RssBlock),
        garbage.length = (LineBreaks.lines '\n' text).length ∧ r.1.Holds (garbage ++ cells))
      (updateScreenText fuel rss.screen h (some t) p) (rss.updateScreenText fuel title text) := by
  unfold updateScreenText LcdStuffRss.updateScreenText
  rw [stringAt_of_mem hh htitle, Option.bind_eq_bind, Option.bind_some]
  refine Loop.run_rel (fun s s' => s.2 = s' ∧ s'.1 ≤ (LineBreaks.lines '\n' text).length
    ∧ ∃ garbage : List (Heap.Cell RssBlock), garbage.length = s'.1 ∧ s.1.Holds (garbage ++ cells))
    _ ?_ fuel ⟨rfl, Nat.zero_le _, [], rfl, hh⟩
  rintro ⟨h₁, n, cmds⟩ - ⟨rfl, hle, garbage, hlength, hh₁⟩
  have hh₁ : h₁.Holds (garbage ++ cells) := hh₁
  have htext₁ := List.mem_append_right garbage htext
  have hline := stringbufferGetLine_eq text n
  unfold updateScreenTextBody LcdStuffRss.updateScreenTextBody
  dsimp only
  rcases Nat.lt_or_ge n (LineBreaks.lines '\n' text).length with hlt | hge
  · rw [List.getElem?_eq_getElem hlt] at hline
    obtain ⟨q, h₂, hcopy, hh₂⟩ := stringbufferGetLineAt_some hh₁ htext₁ hline
    simp only [hcopy, hline, lineAt, stringAt_of_mem hh₂ List.mem_cons_self, Option.map_some,
      Option.isSome_some, if_true, Option.bind_eq_bind, Option.bind_some]
    exact .some (.inl ⟨rfl, hlt, _ :: garbage, congrArg (· + 1) hlength, hh₂⟩)
  · rw [List.getElem?_eq_none hge] at hline
    simp only [stringbufferGetLineAt_none hh₁ htext₁ hline, hline, lineAt, Option.isSome_none,
      Bool.false_eq_true, if_false, Option.bind_eq_bind, Option.bind_some]
    exact .some (.inr ⟨rfl, garbage, hlength.trans (Nat.le_antisymm hle hge), hh₁⟩)

/-- **What is read of a headline** is the headline. -/
theorem NewsCells.read {item : Newsitem} {a e : List (Heap.Cell RssBlock)}
    (hitem : NewsCells a p item e) (hh : h.Holds cells) (hsub : e ⊆ cells) :
    ∃ i site, newsitemAt h p = some i ∧ stringAt h i.headline = some item.headline
      ∧ i.site = some site ∧ ⟨site, .string item.site⟩ ∈ a := by
  cases hitem with
  | item headline hsite =>
    simp only [List.cons_subset] at hsub
    obtain ⟨hheadline, hcell, -⟩ := hsub
    exact ⟨_, _, newsitemAt_of_mem hh hcell, stringAt_of_mem hh hheadline, rfl, hsite⟩

/-- **A headline is shown**, and its buffers are freed. -/
theorem showItem_rel (fuel : ℕ) (rss : LcdStuffRss) {item : Newsitem}
    {a e : List (Heap.Cell RssBlock)} (hitem : NewsCells a p item e) (hsub : e ⊆ cells)
    (hsubA : a ⊆ cells) (hh : h.Holds cells) :
    Option.Rel (fun r cmds => r.2 = cmds ∧ ∃ wrapped, ∃ garbage : List (Heap.Cell RssBlock),
        stringbufferWrap fuel item.headline rss.screen.lcd.displaySize.width
          (rss.screen.lcd.displaySize.height - 1) = some wrapped
        ∧ garbage.length = (LineBreaks.lines '\n' wrapped).length
        ∧ r.1.Holds (garbage ++ cells))
      (showItem fuel rss.screen h p)
      ((stringbufferWrap fuel item.headline rss.screen.lcd.displaySize.width
        (rss.screen.lcd.displaySize.height - 1)).bind
          (rss.updateScreenText fuel item.site)) := by
  obtain ⟨i, site, hread, hheadline, hi, hsite⟩ := hitem.read hh hsub
  obtain ⟨q, h₁, hmalloc, hh₁⟩ := hh.malloc (.string item.headline)
  unfold showItem
  simp only [hread, hheadline, hmalloc, Option.bind_eq_bind, Option.bind_some]
  refine Loop.rel_bind (stringbufferWrapAt_rel fuel _ _ hh₁ List.mem_cons_self) ?_
  rintro ⟨w, h₂⟩ wrapped hwrapped hh₂
  have hh₂ : h₂.Holds (⟨w, .string wrapped⟩ :: ⟨q, .string item.headline⟩ :: cells) := hh₂
  have htext := updateScreenText_rel fuel rss hh₂
    (List.mem_cons_of_mem _ (List.mem_cons_of_mem _ (hsubA hsite))) List.mem_cons_self
  rw [← hi] at htext
  rw [← Option.bind_fun_some (rss.updateScreenText fuel item.site wrapped)]
  refine Loop.rel_bind htext ?_
  rintro ⟨h₃, cmds⟩ - - ⟨rfl, garbage, hlength, hh₃⟩
  -- the lines stay, and the buffers are freed
  obtain ⟨h₄, hfree₄, hh₄⟩ := (hh₃.perm List.perm_middle.symm).free
  obtain ⟨h₅, hfree₅, hh₅⟩ := (hh₄.perm List.perm_middle.symm).free
  dsimp only
  rw [hfree₄, Option.bind_some, hfree₅, Option.bind_some]
  exact .some ⟨rfl, wrapped, garbage, hwrapped, hlength, hh₅⟩

/-! ## What is checked -/

/-- **A headline is freed**; the name of its feed is not looked at. -/
theorem freeItem_eq {item : Newsitem} {a e : List (Heap.Cell RssBlock)}
    (hitem : NewsCells a p item e) (hh : h.Holds (e ++ cells)) :
    ∃ h', freeItem h p = some h' ∧ h'.Holds cells := by
  cases hitem with
  | item headline hsite =>
    have hread := newsitemAt_of_mem hh (List.mem_cons_of_mem _ List.mem_cons_self)
    obtain ⟨h₁, hfree₁, hh₁⟩ := hh.free
    obtain ⟨h₂, hfree₂, hh₂⟩ := Heap.Holds.free hh₁
    refine ⟨h₂, ?_, hh₂⟩
    simp only [freeItem, gFree, hread, hfree₁, hfree₂, Option.bind_eq_bind, Option.bind_some]

variable (mrss : Mrss)

/-- **A headline is allocated**, and points to the name of its feed. -/
theorem newItem_eq {pf : ℕ} {feed : RssFeed} {a f : List (Heap.Cell RssBlock)}
    (hfeed : FeedCells pf feed f) (hsubF : f ⊆ a) (hsub : a ⊆ cells) (hh : h.Holds cells)
    (encoding title : Option Str) :
    ∃ p h' e, newItem mrss pf encoding h title = some (p, h')
      ∧ NewsCells a p (LcdStuffRss.newsitem mrss feed encoding title) e
      ∧ h'.Holds (e ++ cells) := by
  obtain ⟨p, h₁, hmalloc₁, hh₁⟩ := hh.malloc (.newsitem ⟨none, none⟩)
  obtain ⟨q, h₂, hmalloc₂, hh₂⟩ := hh₁.malloc (.string ((mrss.gConvert title encoding).getD []))
  have hread₂ := newsitemAt_of_mem hh₂ (List.mem_cons_of_mem _ List.mem_cons_self)
  obtain ⟨h₃, hwrite₃, hh₃⟩ :=
    (hh₂.perm (List.Perm.swap _ _ _)).write (.newsitem ⟨none, some q⟩)
  have hread₃ := newsitemAt_of_mem hh₃ List.mem_cons_self
  obtain ⟨block, -, name, hblock, -, hname, -, -, -, hsite⟩ := hfeed.read hh₃
    (List.subset_cons_of_subset _ (List.subset_cons_of_subset _ (List.Subset.trans hsubF hsub)))
  obtain ⟨h₄, hwrite₄, hh₄⟩ := hh₃.write (.newsitem ⟨some name, some q⟩)
  refine ⟨p, h₄, _, ?_, .item p q (hsubF hsite), hh₄.perm (List.Perm.swap _ _ _)⟩
  simp only [newItem, hmalloc₁, hmalloc₂, hread₂, hwrite₃, hread₃, hblock, hname, hwrite₄,
    Option.bind_eq_bind, Option.bind_some]

/-- **The headlines of a feed are listed**, behind those that are there. -/
theorem readItems_eq {pf : ℕ} {feed : RssFeed} {a f : List (Heap.Cell RssBlock)}
    (hfeed : FeedCells pf feed f) (hsubF : f ⊆ a) (hsub : a ⊆ cells) (encoding : Option Str)
    (items : List (Option Str)) (i : Int) {ps : List ℕ} {news : List Newsitem}
    {b : List (Heap.Cell RssBlock)} (hnews : Heap.Each (NewsCells a) ps news b)
    (hh : h.Holds (b ++ cells)) :
    ∃ h' ps' b', readItems mrss pf encoding items i h ps = some (h', ps')
      ∧ Heap.Each (NewsCells a) ps' (LcdStuffRss.readItems mrss feed encoding items i news) b'
      ∧ h'.Holds (b' ++ cells) := by
  induction items generalizing h i ps news b with
  | nil => exact ⟨h, ps, b, rfl, hnews, hh⟩
  | cons title items ih =>
    have hsub' := List.subset_append_of_subset_right b hsub
    obtain ⟨block, -, -, hblock, -, -, hitems, -, -, -⟩ :=
      hfeed.read hh (List.Subset.trans hsubF hsub')
    unfold readItems LcdStuffRss.readItems
    rw [hblock, Option.bind_eq_bind, Option.bind_some, hitems]
    by_cases hlt : i < feed.items
    · obtain ⟨p, h₁, e, hnew, hitem, hh₁⟩ := newItem_eq mrss hfeed hsubF hsub' hh encoding title
      have hh₁ := hh₁.swap
      rw [← List.append_assoc] at hh₁
      obtain ⟨h', ps', b', hrest, heach, hh'⟩ := ih (i + 1) (hnews.concat hitem) hh₁
      refine ⟨h', ps', b', ?_, ?_, hh'⟩
      · rw [if_pos hlt, hnew]
        exact hrest
      · rw [if_pos hlt]
        exact heach
    · rw [if_neg hlt, if_neg hlt]
      exact ⟨h, ps, b, rfl, hnews, hh⟩

/-- **A round of the loop over the feeds.** -/
theorem checkFeed_eq (rss : LcdStuffRss) {pf : ℕ} {feed : RssFeed}
    {a f : List (Heap.Cell RssBlock)} (hfeed : FeedCells pf feed f) (hsubF : f ⊆ a)
    (hsub : a ⊆ cells) {ps : List ℕ} {s : List Newsitem × List Command}
    {b : List (Heap.Cell RssBlock)} (hnews : Heap.Each (NewsCells a) ps s.1 b)
    (hh : h.Holds (b ++ cells)) (nf : ℕ) :
    ∃ h' ps' b', checkFeed mrss rss.screen (h, ps, s.2) (pf, nf)
        = some (h', ps', (rss.checkFeed mrss s (feed, nf)).2)
      ∧ Heap.Each (NewsCells a) ps' (rss.checkFeed mrss s (feed, nf)).1 b'
      ∧ h'.Holds (b' ++ cells) := by
  obtain ⟨block, -, -, hblock, -, -, -, hurl, hname, -⟩ := hfeed.read hh
    (List.Subset.trans hsubF (List.subset_append_of_subset_right b hsub))
  unfold checkFeed LcdStuffRss.checkFeed
  simp only [hblock, hurl, hname, Option.bind_eq_bind, Option.bind_some]
  cases mrss.parseUrl nf with
  | none => exact ⟨h, ps, b, rfl, hnews, hh⟩
  | some dataCur =>
    obtain ⟨h', ps', b', hread, heach, hh'⟩ := readItems_eq mrss hfeed hsubF hsub
      dataCur.encoding dataCur.items 0 hnews hh
    refine ⟨h', ps', b', ?_, heach, hh'⟩
    dsimp only
    rw [hread]
    rfl

/-- **The loop over the feeds.** -/
theorem foldlM_checkFeed_eq (rss : LcdStuffRss) {todo : List ℕ} {feeds : List RssFeed}
    {a c : List (Heap.Cell RssBlock)} (htodo : Heap.Each FeedCells todo feeds c) (hsubC : c ⊆ a)
    (hsub : a ⊆ cells) {ps : List ℕ} {s : List Newsitem × List Command}
    {b : List (Heap.Cell RssBlock)} (hnews : Heap.Each (NewsCells a) ps s.1 b)
    (hh : h.Holds (b ++ cells)) (nf : ℕ) :
    ∃ h' ps' b', (todo.zipIdx nf).foldlM (checkFeed mrss rss.screen) (h, ps, s.2)
        = some (h', ps', ((feeds.zipIdx nf).foldl (rss.checkFeed mrss) s).2)
      ∧ Heap.Each (NewsCells a) ps' ((feeds.zipIdx nf).foldl (rss.checkFeed mrss) s).1 b'
      ∧ h'.Holds (b' ++ cells) := by
  induction htodo generalizing h ps s b nf with
  | nil => exact ⟨h, ps, b, rfl, hnews, hh⟩
  | cons hhead _ ih =>
    obtain ⟨hsubH, hsubT⟩ := List.append_subset.mp hsubC
    obtain ⟨h₁, ps₁, b₁, hround, hnews₁, hh₁⟩ :=
      checkFeed_eq mrss rss hhead hsubH hsub hnews hh nf
    obtain ⟨h', ps', b', hrest, heach, hh'⟩ := ih hsubT hnews₁ hh₁ (nf + 1)
    refine ⟨h', ps', b', ?_, heach, hh'⟩
    rw [List.zipIdx_cons, List.foldlM_cons, hround]
    exact hrest

/-! ## A run -/

/-- **The memory of a module**: it is what the values say, and besides there is what was lost. -/
structure Represents (m : RssMemory) (rss : LcdStuffRss) (lost : ℕ) : Prop where
  /-- `current_screen` -/
  currentScreen : m.currentScreen = rss.currentScreen
  /-- `screen` -/
  screen : m.screen = rss.screen
  /-- The memory. -/
  owned : ∃ a b garbage, Heap.Each FeedCells m.feeds rss.feeds a
    ∧ Heap.Each (NewsCells a) m.news rss.news b ∧ garbage.length = lost
    ∧ m.heap.Holds (a ++ (b ++ garbage))

variable {m : RssMemory} {rss : LcdStuffRss} {lost : ℕ}

/-- **`update_screen_news`** frees its buffers, and leaves a copy of each line that it shows. -/
theorem Represents.updateScreenNews (hm : m.Represents rss lost) (fuel : ℕ) :
    Option.Rel (fun r r' => r.2 = r'.2 ∧ r.1.Represents r'.1 (lost + rss.shownLines fuel))
      (m.updateScreenNews fuel) (rss.updateScreenNews fuel) := by
  obtain ⟨a, b, garbage, hfeeds, hnews, hlost, hh⟩ := hm.owned
  have hpos : Carousel.clamp m.news.length m.currentScreen = rss.clampScreen := by
    rw [hnews.length_eq, hm.currentScreen]
    rfl
  have hitem := Carousel.itemAt_rel hnews.forall₂ rss.clampScreen 0
  rw [← LcdStuffRss.itemAt_eq_carousel] at hitem
  have hitem : Option.Rel _ _ rss.displayed := hitem
  unfold RssMemory.updateScreenNews LcdStuffRss.shownLines
  dsimp only
  rw [hpos]
  generalize Carousel.itemAt rss.clampScreen m.news 0 = place at hitem ⊢
  generalize hshown : rss.displayed = shown at hitem ⊢
  cases hitem with
  | none =>
    unfold LcdStuffRss.updateScreenNews
    rw [hshown]
    exact .some ⟨rfl, rfl, hm.screen, a, b, garbage, hfeeds, hnews, hlost, hh⟩
  | @some p item hR =>
    obtain ⟨e, hR, hsub⟩ := hR
    have hshow := showItem_rel fuel (rss.atScreen rss.clampScreen) hR
      (List.subset_append_of_subset_right a (List.subset_append_of_subset_left garbage hsub))
      (List.subset_append_left _ _) hh
    rw [LcdStuffRss.updateScreenNews_of_displayed hshown, hm.screen]
    refine Loop.rel_map hshow ?_
    rintro ⟨h', cmds⟩ - - ⟨rfl, wrapped, lines, hwrapped, hlength, hh'⟩
    have hwrapped : stringbufferWrap fuel item.headline rss.screen.lcd.displaySize.width
      (rss.screen.lcd.displaySize.height - 1) = some wrapped := hwrapped
    refine ⟨rfl, rfl, rfl, a, b, lines ++ garbage, hfeeds, hnews, ?_, ?_⟩
    · dsimp only
      rw [hwrapped, List.length_append, hlength, hlost, Nat.add_comm]
      rfl
    · refine hh'.perm (List.perm_iff_count.mpr (fun cell => ?_))
      simp only [List.count_append]
      omega

/-- **`rss_check`** -/
theorem Represents.check (hm : m.Represents rss lost) :
    ∃ m', m.check mrss = some (m', (rss.check mrss).2)
      ∧ m'.Represents (rss.check mrss).1 lost := by
  obtain ⟨a, b, garbage, hfeeds, hnews, hlost, hh⟩ := hm.owned
  obtain ⟨h₁, hfree, hh₁⟩ := hnews.foldlM_free freeItem_eq hh.swap
  obtain ⟨h', ps', b', hloop, heach, hh'⟩ := foldlM_checkFeed_eq mrss rss hfeeds
    (List.Subset.refl _) (List.subset_append_left _ _) (s := ([], [])) (b := []) .nil hh₁ 0
  rw [← hm.screen] at hloop
  refine ⟨{ m with heap := h', news := ps', currentScreen := 0 }, ?_, rfl, hm.screen, a, b',
    garbage, hfeeds, heach, hlost, hh'.swap⟩
  simp only [RssMemory.check, freeNews, hfree, hloop, Option.bind_eq_bind, Option.bind_some]
  rfl

/-- **What an event leaves**, and its commands. -/
theorem Represents.next (hm : m.Represents rss lost) (fuel : ℕ) (event : RssEvent) :
    Option.Rel (fun r r' => r.2 = r'.2 ∧ r.1.Represents r'.1 (lost + rss.lostIn fuel event))
      (m.next fuel event) (rss.eventCommands fuel event) := by
  cases event with
  | refresh mrss =>
    obtain ⟨m₁, hcheck, hm₁⟩ := hm.check mrss
    unfold RssMemory.next LcdStuffRss.eventCommands
    simp only [hcheck, Option.map_eq_bind, Option.bind_eq_bind, Option.bind_some]
    refine Loop.rel_bind (hm₁.updateScreenNews fuel) ?_
    rintro ⟨m', cmds⟩ ⟨rss', cmds'⟩ - ⟨hcmds, hm'⟩
    exact .some ⟨congrArg ((rss.check mrss).2 ++ ·) hcmds, hm'⟩
  | nav event =>
    have hmoved : { m with currentScreen := m.currentScreen + event.delta }.Represents
        (rss.atScreen (rss.currentScreen + event.delta)) lost :=
      ⟨congrArg (· + event.delta) hm.currentScreen, hm.screen, hm.owned⟩
    have hnews := hmoved.updateScreenNews fuel
    rw [← LcdStuffRss.handle_eq] at hnews
    exact hnews

/-- **What a run leaves**, and its commands. -/
theorem Represents.run (hm : m.Represents rss lost) (fuel : ℕ) (events : List RssEvent) :
    Option.Rel (fun r r' => r.2 = r'.2 ∧ r.1.Represents r'.1 (lost + rss.lost fuel events))
      (m.run fuel events) (rss.run fuel events) := by
  induction events generalizing m rss lost with
  | nil => exact .some ⟨rfl, hm⟩
  | cons event events ih =>
    unfold RssMemory.run LcdStuffRss.run LcdStuffRss.lost
    refine Loop.rel_bind (hm.next fuel event) ?_
    rintro ⟨m₁, cmds⟩ ⟨rss₁, cmds₁⟩ hevent ⟨hcmds, hm₁⟩
    obtain rfl : cmds = cmds₁ := hcmds
    refine Loop.rel_bind (ih hm₁) ?_
    rintro ⟨m', cmds'⟩ ⟨rss', cmds₁'⟩ - ⟨hcmds', hm'⟩
    obtain rfl : cmds' = cmds₁' := hcmds'
    rw [hevent, Option.elim_some, ← Nat.add_assoc]
    exact .some ⟨rfl, hm'⟩

/-- **What is left when the program ends.** -/
theorem Represents.exit (hm : m.Represents rss lost) :
    ∃ h, m.exit = some h ∧ h.live = lost := by
  obtain ⟨a, b, garbage, hfeeds, hnews, hlost, hh⟩ := hm.owned
  obtain ⟨h₁, hfree₁, hh₁⟩ := hfeeds.foldlM_free freeFeed_eq hh
  obtain ⟨h₂, hfree₂, hh₂⟩ := hnews.foldlM_free freeItem_eq hh₁
  refine ⟨h₂, ?_, hh₂.live_eq.trans hlost⟩
  simp only [RssMemory.exit, freeNews, hfree₁, hfree₂, Option.bind_eq_bind, Option.bind_some]

/-- **`rss_init`** -/
theorem exists_init (interval : Int) (feeds : List RssFeed) (screen : Screen) :
    ∃ m, init feeds screen = some m
      ∧ m.Represents (LcdStuffRss.init interval feeds screen) 0 := by
  obtain ⟨h, ps, a, hinit, hfeeds, hh⟩ :=
    foldlM_initFeed_eq feeds [] (Heap.holds_empty (β := RssBlock))
  refine ⟨⟨h, ps, [], 0, screen⟩, ?_, rfl, rfl, a, [], [], hfeeds, .nil, rfl, hh⟩
  unfold init
  rw [hinit]
  rfl

/-- **What is left when the program ends** is a string for each line of a headline that was
shown. -/
theorem live_at_rssExit (interval : Int) (feeds : List RssFeed) (screen : Screen) (fuel : ℕ)
    (events : List RssEvent) :
    ∃ m, init feeds screen = some m ∧ ((m.run fuel events).bind (·.1.exit)).map Heap.live
      = ((LcdStuffRss.init interval feeds screen).run fuel events).map
        (fun _ => (LcdStuffRss.init interval feeds screen).lost fuel events) := by
  obtain ⟨m, hinit, hm⟩ := exists_init interval feeds screen
  refine ⟨m, hinit, ?_⟩
  have hrun := hm.run fuel events
  generalize m.run fuel events = r at hrun ⊢
  generalize (LcdStuffRss.init interval feeds screen).run fuel events = r' at hrun ⊢
  cases hrun with
  | none => rfl
  | some hR =>
    obtain ⟨h, hexit, hlive⟩ := hR.2.exit
    rw [Nat.zero_add] at hlive
    rw [Option.bind_some, hexit, Option.map_some, Option.map_some, hlive]

/-- **Memory that is never freed grows with every screen** that the server goes on from, or a key: a
check that has found a headline and the handlers behind it leave a string each, at least. -/
theorem le_live_at_rssExit (interval : Int) (feeds : List RssFeed) (screen : Screen) (fuel : ℕ)
    (mrss : Mrss) (events : List NavEvent)
    (hnews : ((LcdStuffRss.init interval feeds screen).check mrss).1.news ≠ []) :
    ∃ m, init feeds screen = some m
      ∧ ∀ live ∈ ((m.run fuel (.refresh mrss :: events.map .nav)).bind (·.1.exit)).map Heap.live,
        events.length + 1 ≤ live := by
  obtain ⟨m, hinit, hm⟩ := exists_init interval feeds screen
  refine ⟨m, hinit, fun live hlive => ?_⟩
  have hrun := hm.run fuel (.refresh mrss :: events.map .nav)
  obtain ⟨h, hh, rfl⟩ := Option.map_eq_some_iff.mp hlive
  obtain ⟨r, hr, hexit⟩ := Option.bind_eq_some_iff.mp hh
  rw [hr] at hrun
  generalize hvalue : (LcdStuffRss.init interval feeds screen).run fuel
    (.refresh mrss :: events.map .nav) = r' at hrun
  cases hrun with
  | @some _ r' hR =>
    obtain ⟨h', hexit', hlive'⟩ := hR.2.exit
    obtain rfl : h = h' := Option.some.inj (hexit.symm.trans hexit')
    rw [hlive', Nat.zero_add]
    -- the check loses something, and so does each of the handlers
    obtain ⟨⟨rss₁, cmds⟩, hevent, hrest⟩ := Option.bind_eq_some_iff.mp hvalue
    obtain ⟨r'', hr'', -⟩ := Option.bind_eq_some_iff.mp hrest
    obtain ⟨⟨rss₂, cmds₂⟩, hnews₂, hpair⟩ := Option.map_eq_some_iff.mp hevent
    obtain ⟨rfl, -⟩ := Prod.mk.inj hpair
    obtain ⟨hone, hsame⟩ := LcdStuffRss.one_le_shownLines hnews₂ hnews
    have hnav : events.length ≤ rss₂.lost fuel (events.map .nav) :=
      LcdStuffRss.length_le_lost (hsame ▸ hnews) events (Option.isSome_iff_exists.mpr ⟨r'', hr''⟩)
    rw [LcdStuffRss.lost, hevent]
    show _ ≤ ((LcdStuffRss.init interval feeds screen).check mrss).1.shownLines fuel
      + rss₂.lost fuel (events.map .nav)
    omega

/-- A headline of two lines that is shown twice. -/
theorem le_live_at_rssExit_one :
    let feeds : List RssFeed := [⟨"url".toList, "feed".toList, 1⟩]
    let screen : Screen := ⟨⟨⟨7, 4⟩, false⟩, "rss".toList⟩
    let mrss : Mrss := ⟨fun _ => some ⟨none, [some "two lines".toList]⟩, fun title _ => title⟩
    ∃ m live, init feeds screen = some m
      ∧ ((m.run 40 [.refresh mrss, .nav .ignore]).bind (·.1.exit)).map Heap.live = some live
      ∧ 2 ≤ live := by
  intro feeds screen mrss
  obtain ⟨m, hinit, hlive⟩ :=
    le_live_at_rssExit 900 feeds screen 40 mrss [.ignore] (by decide +kernel)
  have hrun : (((init feeds screen).bind
      (fun m => (m.run 40 [.refresh mrss, .nav .ignore]).bind (·.1.exit))).map Heap.live)
        = some 4 := by decide +kernel
  rw [hinit, Option.bind_some] at hrun
  exact ⟨m, 4, hinit, hrun, hlive 4 hrun⟩

end RssMemory
