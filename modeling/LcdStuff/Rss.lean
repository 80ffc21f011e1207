import LcdStuff.Carousel
import LcdStuff.Screen
import LcdStuff.Wrap

/-!
# The headlines of the RSS module

`rss.c` keeps the headlines of all feeds in one list and shows one of them at
a time: the name of its feed as the title, and the headline wrapped into the
lines of the screen. The position in the list is moved past either end by the
key handlers and pulled back here, before the item is looked up.

The theorem of this module is that a headline that fits is shown whole. It
needs every part of the way from the list to the display to agree with the
next: the number of lines the wrapper aims at with the number of rows the
screen has, the line extractor with the line counter, and the loop that clears
the screen with the one that fills it.
-/

/-- `struct newsitem` -/
structure Newsitem where
  /-- The name of the feed. -/
  site : Str
  /-- The headline, in the encoding of the display. -/
  headline : Str
  deriving DecidableEq, Repr

/-- `struct rss_feed` -/
structure RssFeed where
  /-- `url` -/
  url : Str
  /-- `name` -/
  name : Str
  /-- The number of items to show. -/
  items : Int
  deriving DecidableEq, Repr

/-- `struct lcd_stuff_rss`; its `lcd` is the one of its screen. -/
structure LcdStuffRss where
  /-- `interval` -/
  interval : Int
  /-- `feeds` -/
  feeds : List RssFeed
  /-- `news` -/
  news : List Newsitem
  /-- `current_screen` -/
  currentScreen : Int
  /-- `screen` -/
  screen : Screen
  deriving DecidableEq, Repr

namespace LcdStuffRss

/-- `update_screen_receiving` -/
def updateScreenReceiving (rss : LcdStuffRss) (title : Str) : List Command :=
  rss.screen.setTitle (some title) ++ rss.screen.clear
    ++ rss.screen.showText 0 (some "  Receiving ...".toList)

/-- One round of the loop of `update_screen_text`: the text of the next line is
shown, and the first line that is `NULL` is the last one looked at. -/
def updateScreenTextBody (rss : LcdStuffRss) (text : Str) (s : ℕ × List Command) :
    Option ((ℕ × List Command) ⊕ List Command) :=
  let line := stringbufferGetLine text s.1
  let cmds := s.2 ++ rss.screen.showText s.1 line
  if line.isSome then some (.inl (s.1 + 1, cmds)) else some (.inr cmds)

/-- `update_screen_text` -/
def updateScreenText (fuel : ℕ) (rss : LcdStuffRss) (title text : Str) :
    Option (List Command) :=
  Loop.run (rss.updateScreenTextBody text) fuel
    (0, rss.screen.setTitle (some title) ++ rss.screen.clear)

/-- The loop of `update_screen_news` over the list: the item whose number `i`
is the current one. -/
def itemAt (currentScreen : Int) : List Newsitem → Int → Option Newsitem
  | [], _ => none
  | item :: cur, i =>
    if i = currentScreen then some item else itemAt currentScreen cur (i + 1)

/-- The position pulled back into the list: behind either end it goes on at the
other. -/
def clampScreen (rss : LcdStuffRss) : Int :=
  if rss.currentScreen < 0 then rss.news.length - 1
  else if rss.news.length ≤ rss.currentScreen then 0
  else rss.currentScreen

/-- The item that `update_screen_news` shows. -/
def displayed (rss : LcdStuffRss) : Option Newsitem :=
  itemAt rss.clampScreen rss.news 0

/-- `update_screen_news`: what it leaves in `current_screen`, and the commands
it hands to the service thread. -/
def updateScreenNews (fuel : ℕ) (rss : LcdStuffRss) :
    Option (LcdStuffRss × List Command) :=
  let rss' := { rss with currentScreen := rss.clampScreen }
  match rss.displayed with
  | none => some (rss', [])
  | some item =>
    (stringbufferWrap fuel item.headline rss.screen.lcd.displaySize.width
      (rss.screen.lcd.displaySize.height - 1)).bind (fun wrapped =>
        (rss'.updateScreenText fuel item.site wrapped).map (fun cmds => (rss', cmds)))

/-! ## The item that is shown -/

/-- The walk along the list of the headlines is the one along any list. -/
theorem itemAt_eq_carousel (pos : Int) (news : List Newsitem) (i : Int) :
    itemAt pos news i = Carousel.itemAt pos news i := by
  induction news generalizing i with
  | nil => rfl
  | cons item news ih =>
    unfold itemAt Carousel.itemAt
    rw [ih]

/-- The item on display depends on the position. -/
theorem displayed_eq (rss : LcdStuffRss) : rss.displayed
    = Carousel.itemAt (Carousel.clamp rss.news.length rss.currentScreen) rss.news 0 :=
  itemAt_eq_carousel _ _ _

/-- **A list that is not empty has an item on display.** -/
theorem exists_displayed {rss : LcdStuffRss} (h : rss.news ≠ []) :
    ∃ item ∈ rss.news, rss.displayed = some item := by
  have hpos : (0 : Int) < rss.news.length := Int.natCast_pos.mpr (List.length_pos_of_ne_nil h)
  obtain ⟨h₀, hlt⟩ := Carousel.clamp_mem hpos rss.currentScreen
  rw [displayed_eq, Carousel.itemAt_zero _ h₀, List.getElem?_eq_getElem (by omega)]
  exact ⟨_, List.getElem_mem _, rfl⟩

/-! ## What is put on the display -/

/-- **`update_screen_text` shows the lines of its text in order**: it ends
behind the last line and has shown each of them. -/
theorem exists_updateScreenText (rss : LcdStuffRss) (title text : Str) {fuel : ℕ}
    (hfuel : (LineBreaks.lines '\n' text).length < fuel) :
    rss.updateScreenText fuel title text
      = some (rss.screen.setTitle (some title) ++ rss.screen.clear
        ++ ((List.range (LineBreaks.lines '\n' text).length).map Int.ofNat).flatMap
          (fun i => rss.screen.showText i (stringbufferGetLine text i))) := by
  set ls := LineBreaks.lines '\n' text with hls
  set start := rss.screen.setTitle (some title) ++ rss.screen.clear with hstart
  let shown (n : ℕ) : List Command := ((List.range n).map Int.ofNat).flatMap
    (fun i => rss.screen.showText i (stringbufferGetLine text i))
  have hrun := @Loop.exists_run_of_variant _ _ (rss.updateScreenTextBody text)
    (fun s => s.1 ≤ ls.length ∧ s.2 = start ++ shown s.1)
    (fun s => ls.length - s.1) (fun cmds => cmds = start ++ shown ls.length) ?_
    fuel (0, start) ⟨Nat.zero_le _, (List.append_nil start).symm⟩ hfuel
  · obtain ⟨cmds, hrun, hcmds⟩ := hrun
    rw [updateScreenText, hrun, hcmds]
  · rintro ⟨n, cmds⟩ ⟨hn, hcmds⟩
    obtain rfl : cmds = start ++ shown n := hcmds
    have hline := stringbufferGetLine_eq text n
    rw [← hls] at hline
    rcases Nat.lt_or_ge n ls.length with hlt | hge
    · refine .inr ⟨(n + 1, start ++ shown (n + 1)), ?_, ⟨hlt, rfl⟩, ?_⟩
      · have hsucc : shown (n + 1)
            = shown n ++ rss.screen.showText n (stringbufferGetLine text n) := by
          show List.flatMap _ (List.map _ (List.range (n + 1))) = _
          rw [List.range_succ, List.map_append, List.flatMap_append]
          simp [shown]
        rw [updateScreenTextBody, hline, List.getElem?_eq_getElem hlt, hsucc, hline,
          List.getElem?_eq_getElem hlt, ← List.append_assoc start]
        rfl
      · show ls.length - (n + 1) < ls.length - n
        omega
    · obtain rfl : n = ls.length := by
        have : n ≤ ls.length := hn
        omega
      refine .inl ⟨start ++ shown ls.length, ?_, rfl⟩
      rw [updateScreenTextBody, hline, List.getElem?_eq_none (Nat.le_refl _),
        Screen.showText_none, List.append_nil]
      rfl

/-- **The rows after `update_screen_text`**: line `i` of the text in the row of
line `i`, and nothing in the rows that the text has no line for. -/
theorem replay_updateScreenText (rss : LcdStuffRss) (title text : Str) {fuel : ℕ}
    (hfuel : (LineBreaks.lines '\n' text).length < fuel) (rows : Rows) :
    ∃ cmds, rss.updateScreenText fuel title text = some cmds
      ∧ ∀ i : ℕ, (i : Int) < rss.screen.calculateLines →
        Rows.replay rss.screen.moduleName rows cmds (i + 1 + rss.screen.titleLine)
          = (LineBreaks.lines '\n' text).getD i [] := by
  refine ⟨_, exists_updateScreenText rss title text hfuel, fun i hi => ?_⟩
  set ls := LineBreaks.lines '\n' text with hls
  have hline := stringbufferGetLine_eq text i
  rw [← hls] at hline
  rw [Rows.replay_append, Rows.replay_append, Rows.replay_setTitle]
  rcases Nat.lt_or_ge i ls.length with hlt | hge
  · have hmem : (i : Int) ∈ (List.range ls.length).map Int.ofNat :=
      List.mem_map_of_mem (List.mem_range.mpr hlt)
    rw [Rows.replay_flatMap_showText rss.screen _ (Rows.nodup_map_ofNat_range _) hmem hi
      (hline.trans (List.getElem?_eq_getElem hlt)), List.getD_eq_getElem?_getD,
      List.getElem?_eq_getElem hlt, Option.getD_some]
  · have hnot : (i : Int) ∉ (List.range ls.length).map Int.ofNat := by
      rintro hmem
      obtain ⟨k, hk, hki⟩ := List.mem_map.mp hmem
      obtain rfl := Int.ofNat.inj hki
      exact absurd (List.mem_range.mp hk) (by omega)
    rw [Rows.replay_flatMap_showText_of_notMem rss.screen _ hnot,
      Rows.replay_clear rss.screen _ (Int.natCast_nonneg i) hi,
      List.getD_eq_getElem?_getD, List.getElem?_eq_none hge, Option.getD_none]

/-- **A headline that fits is shown whole.** When its characters are no more
than the rows below the title can hold, the display has a row for every line
of the wrapped headline, none of them is too long for its row, the rows below
them are empty, and what is read row by row is the headline but for spaces. -/
theorem updateScreenNews_rows (rss : LcdStuffRss) {item : Newsitem}
    (hitem : rss.displayed = some item) {w h : ℕ}
    (hsize : rss.screen.lcd.displaySize = ⟨w, h⟩) (hw : 1 ≤ w) (hh : 2 ≤ h)
    (hnl : '\n' ∉ item.headline) (hlen : item.headline.length ≤ w * (h - 1))
    {fuel : ℕ} (hfuel : item.headline.length + h + 1 < fuel) (rows : Rows) :
    ∃ rss' cmds wrapped, rss.updateScreenNews fuel = some (rss', cmds)
      ∧ stringbufferWrap fuel item.headline w (h - 1) = some wrapped
      ∧ ((LineBreaks.lines '\n' wrapped).length : Int) ≤ rss.screen.calculateLines
      ∧ (∀ line ∈ LineBreaks.lines '\n' wrapped, line.length ≤ w)
      ∧ (∀ i : ℕ, (i : Int) < rss.screen.calculateLines →
        Rows.replay rss.screen.moduleName rows (Command.queued false cmds)
          (i + 1 + rss.screen.titleLine) = (LineBreaks.lines '\n' wrapped).getD i [])
      ∧ ((Rows.replay rss.screen.moduleName rows (Command.queued false cmds)).read
          rss.screen).filter (· ≠ ' ') = item.headline.filter (· ≠ ' ') := by
  obtain ⟨h, rfl⟩ : ∃ k, h = k + 1 := ⟨h - 1, by omega⟩
  have hmax : ((h + 1 : ℕ) : Int) - 1 = (h : ℕ) := by omega
  rw [Nat.add_sub_cancel] at hlen
  rw [hmax]
  obtain ⟨wrapped, hwrap, hwrapped, hcount⟩ := exists_stringbufferWrap hw
    (show 1 ≤ h by omega) (show item.headline.length + 1 < fuel by omega)
  have hfew := hcount hnl hlen
  have hlines : ((LineBreaks.lines '\n' wrapped).length : Int)
      ≤ rss.screen.calculateLines := by
    have hrow := Screen.height_sub_one_le rss.screen
    rw [hsize] at hrow
    exact Int.le_trans (by omega) (hmax ▸ hrow)
  obtain ⟨cmds, hcmds, hrows⟩ := replay_updateScreenText
    { rss with currentScreen := rss.clampScreen } item.site wrapped
    (show (LineBreaks.lines '\n' wrapped).length < fuel by omega) rows
  refine ⟨{ rss with currentScreen := rss.clampScreen }, cmds, wrapped, ?_, hwrap, hlines,
    hwrapped.length_le hnl, hrows, ?_⟩
  · rw [updateScreenNews, hitem]
    show (stringbufferWrap fuel item.headline rss.screen.lcd.displaySize.width
      (rss.screen.lcd.displaySize.height - 1)).bind _ = _
    rw [hsize, hmax, hwrap, Option.bind_some, hcmds]
    rfl
  · rw [Command.queued_false, Rows.read_eq_flatten rss.screen hrows hlines]
    exact hwrapped.filter_eq hnl

/-- A headline of three words on a display of three rows of seven characters. -/
theorem updateScreenNews_rows_three_words :
    ∃ rss' cmds,
      updateScreenNews 40 ⟨900, [], [⟨"Site".toList, "news of the day".toList⟩], 3,
          ⟨⟨⟨7, 4⟩, false⟩, "rss".toList⟩⟩ = some (rss', cmds)
      ∧ ((Rows.replay "rss".toList (fun _ => []) cmds).read
          ⟨⟨⟨7, 4⟩, false⟩, "rss".toList⟩).filter (· ≠ ' ') = "newsoftheday".toList := by
  obtain ⟨rss', cmds, _, hcmds, _, _, _, _, hread⟩ := updateScreenNews_rows
    ⟨900, [], [⟨"Site".toList, "news of the day".toList⟩], 3,
      ⟨⟨⟨7, 4⟩, false⟩, "rss".toList⟩⟩ rfl (show _ = Size.mk (7 : ℕ) (4 : ℕ) from rfl)
    (by decide) (by decide) (by decide) (by decide) (show _ < 40 by decide) (fun _ => [])
  exact ⟨rss', cmds, hcmds, hread.trans (by decide)⟩

end LcdStuffRss
