import LcdStuff.Mpd
import LcdStuff.Mplayer
import LcdStuff.Rss
import LcdStuff.Weather

/-!
# What comes from outside

Numbers of channels and playlists come from the menu of the display and from
the remote interface; texts come from feeds, from the music player daemon,
from streams and from the weather service. This module says what the program
relies on about either, and exactly when it may.

For a number it relies on there being an entry at it
(`selection_isOk_iff`). For a text it relies on the server reading it as one
argument of one command: the argument is everything between a brace that opens
and the one that closes it, a backslash escapes, and a newline ends the
command. The mail module replaces these characters; nothing else does, and so
the commands of the other modules are well formed exactly when the texts
happen to be without them (`commands_wellFormed_iff`).
-/

/-! ## Numbers -/

/-- **When a number from outside is that of an entry**, wherever it is looked
up: for an item of the channel menu, for a remote command, and for an item of
the playlist menu. -/
theorem selection_isOk_iff (mplayer : LcdStuffMplayer) (mpd : LcdStuffMpd) (now : Int)
    (id arg : Str) (args : List Str) :
    ((∃ r, mplayer.carryOut (LcdStuffMplayer.menuHandler id) = .ok r)
        ↔ ∀ name no, gStrsplit id "_".toList 2 = [name, no] →
          gAsciiStrcaseEq name "ch".toList = true →
          1 ≤ atoi no ∨ atoi no = -2 ^ 31 ∨ 0 < mplayer.current.pid)
      ∧ ((∃ r, mplayer.carryOut (LcdStuffMplayer.netHandler args) = .ok r)
        ↔ ∀ command no rest, args = command :: no :: rest →
          startsWith command "play".toList = true →
          0 ≤ atoi no ∨ 0 < mplayer.current.pid)
      ∧ ((∃ r, mpd.menuHandler now id arg = .ok r)
        ↔ ∀ name no, gStrsplit id "_".toList 2 = [name, no] →
          gAsciiStrcaseEq name "pl".toList = true →
          0 ≤ atoi no ∨ atoi no = -2 ^ 31 ∨ mpd.currentList = none) :=
  ⟨mplayer.carryOut_menuHandler_isOk_iff id, mplayer.carryOut_netHandler_isOk_iff args,
    mpd.menuHandler_isOk_iff now id arg⟩

/-- The remote command `play -5` looks up a channel in front of the first. -/
theorem not_forall_selection_isOk :
    ¬ ∀ (mplayer : LcdStuffMplayer) (mpd : LcdStuffMpd) (now : Int) (id arg : Str)
        (args : List Str),
      (∃ r, mplayer.carryOut (LcdStuffMplayer.menuHandler id) = .ok r)
        ∧ (∃ r, mplayer.carryOut (LcdStuffMplayer.netHandler args) = .ok r)
        ∧ ∃ r, mpd.menuHandler now id arg = .ok r := by
  intro h
  obtain ⟨-, ⟨r, hr⟩, -⟩ := h
    ⟨.init, [⟨"News".toList, "http://news".toList, false⟩],
      ⟨⟨⟨20, 4⟩, false⟩, "mplayer".toList⟩⟩
    ⟨.stop, false, none, 0, none, ⟨⟨⟨20, 4⟩, false⟩, "mpd".toList⟩⟩ 0 [] []
    ["play".toList, "-5".toList]
  have hfault : LcdStuffMplayer.carryOut
      ⟨.init, [⟨"News".toList, "http://news".toList, false⟩],
        ⟨⟨⟨20, 4⟩, false⟩, "mplayer".toList⟩⟩
      (LcdStuffMplayer.netHandler ["play".toList, "-5".toList])
      = .error (.outOfBounds (-5) 1) := by decide +kernel
  rw [hfault] at hr
  exact absurd hr (by simp)

/-! ## Texts -/

/-- The text has none of the characters that mean something to the server
inside an argument, and not the one that ends a command. -/
def Clean (text : Str) : Prop :=
  ∀ c ∈ text, c ≠ '{' ∧ c ≠ '}' ∧ c ≠ '\\' ∧ c ≠ '\n'

instance (text : Str) : Decidable (Clean text) :=
  List.decidableBAll (fun c => c ≠ '{' ∧ c ≠ '}' ∧ c ≠ '\\' ∧ c ≠ '\n') text

/-- **One well-formed command**: its only newline is its last character, and
between its opening brace and the closing brace in front of that newline there
is no brace and no backslash. -/
def WellFormed (cmd : Str) : Prop :=
  ∃ start text, cmd = start ++ '{' :: (text ++ ['}', '\n'])
    ∧ (∀ c ∈ start, c ≠ '{' ∧ c ≠ '\n') ∧ Clean text

/-- What is in front of the first occurrence of a character, and what follows
it, are determined. -/
theorem append_cons_inj {α : Type} {a : α} {p q s t : List α} (hp : a ∉ p) (hq : a ∉ q)
    (h : p ++ a :: s = q ++ a :: t) : p = q ∧ s = t := by
  induction p generalizing q with
  | nil =>
    cases q with
    | nil => exact ⟨rfl, (List.cons.inj h).2⟩
    | cons b q => exact absurd (List.cons.inj h).1 (fun e => hq (e ▸ List.mem_cons_self ..))
  | cons b p ih =>
    cases q with
    | nil => exact absurd (List.cons.inj h).1.symm (fun e => hp (e ▸ List.mem_cons_self ..))
    | cons c q =>
      obtain ⟨rfl, htail⟩ := List.cons.inj h
      obtain ⟨rfl, rfl⟩ := ih (fun e => hp (List.mem_cons_of_mem _ e))
        (fun e => hq (List.mem_cons_of_mem _ e)) htail
      exact ⟨rfl, rfl⟩

/-- **A text makes a well-formed command exactly when it is clean**, behind a
start without braces and newlines. -/
theorem wellFormed_iff {start text : Str} (hstart : ∀ c ∈ start, c ≠ '{' ∧ c ≠ '\n') :
    WellFormed (start ++ '{' :: (text ++ ['}', '\n'])) ↔ Clean text := by
  constructor
  · rintro ⟨start', text', heq, hstart', hclean⟩
    obtain ⟨-, htext⟩ := append_cons_inj (fun h => (hstart _ h).1 rfl)
      (fun h => (hstart' _ h).1 rfl) heq
    rw [List.append_cancel_right htext]
    exact hclean
  · exact fun hclean => ⟨start, text, rfl, hstart, hclean⟩

/-! ## Commands that carry a text -/

/-- What `%d` prints opens no argument and ends no command. -/
theorem decimal_ne {i : Int} {c : Char} (h : c ∈ decimal i) :
    c ≠ '{' ∧ c ≠ '}' ∧ c ≠ '\\' ∧ c ≠ '\n' := by
  rcases mem_decimal h with hdigit | rfl
  · refine ⟨?_, ?_, ?_, ?_⟩ <;>
    · rintro rfl
      exact absurd hdigit (by decide)
  · decide

/-- A number is clean. -/
theorem clean_decimal (i : Int) : Clean (decimal i) := fun _ h => decimal_ne h

theorem clean_append {s t : Str} : Clean (s ++ t) ↔ Clean s ∧ Clean t :=
  List.forall_mem_append

/-- What the command for a line is in front of its text. -/
theorem exists_render_widgetSetLine {m : Str} (hm : Clean m) (line row : Int) (text : Str) :
    ∃ start, (∀ c ∈ start, c ≠ '{' ∧ c ≠ '\n')
      ∧ (Command.widgetSetLine m line row text).render = start ++ '{' :: (text ++ ['}', '\n']) := by
  refine ⟨_, fun c hc => ?_, rfl⟩
  have hstart : Clean ("widget_set ".toList ++ m ++ " line".toList ++ decimal line
      ++ " 1 ".toList ++ decimal row ++ " ".toList) := by
    simp only [clean_append]
    exact ⟨⟨⟨⟨⟨⟨by decide, hm⟩, by decide⟩, clean_decimal _⟩, by decide⟩, clean_decimal _⟩,
      by decide⟩
  exact ⟨(hstart c hc).1, (hstart c hc).2.2.2⟩

/-- The command for a line is well formed exactly when its text is clean. -/
theorem wellFormed_widgetSetLine_iff {m : Str} (hm : Clean m) (line row : Int) (text : Str) :
    WellFormed (Command.widgetSetLine m line row text).render ↔ Clean text := by
  obtain ⟨start, hstart, hrender⟩ := exists_render_widgetSetLine hm line row text
  rw [hrender]
  exact wellFormed_iff hstart

/-- The command for an item of a menu is well formed exactly when its label is
clean. -/
theorem wellFormed_menuAddAction_iff {menu : Str} (hmenu : Clean menu) (no : Int)
    (label : Str) :
    WellFormed (Command.menuAddAction menu no label).render ↔ Clean label := by
  refine wellFormed_iff (fun c hc => ?_)
  have hstart : Clean ("menu_add_item ".toList ++ menu ++ " ".toList ++ menu ++ "_".toList
      ++ decimal no ++ " action ".toList) := by
    simp only [clean_append]
    exact ⟨⟨⟨⟨⟨⟨by decide, hmenu⟩, by decide⟩, hmenu⟩, by decide⟩, clean_decimal _⟩,
      by decide⟩
  exact ⟨(hstart c hc).1, (hstart c hc).2.2.2⟩

/-- Every command for a line from number `first` on is well formed. -/
def LinesWellFormed (first : Int) (cmds : List Command) : Prop :=
  ∀ m line row text, .widgetSetLine m line row text ∈ cmds → first ≤ line →
    WellFormed (Command.widgetSetLine m line row text).render

theorem linesWellFormed_append {first : Int} {cmds cmds' : List Command} :
    LinesWellFormed first (cmds ++ cmds')
      ↔ LinesWellFormed first cmds ∧ LinesWellFormed first cmds' := by
  constructor
  · exact fun h => ⟨fun m line row text hmem => h m line row text (List.mem_append_left _ hmem),
      fun m line row text hmem => h m line row text (List.mem_append_right _ hmem)⟩
  · rintro ⟨h, h'⟩ m line row text hmem
    rcases List.mem_append.mp hmem with hmem | hmem
    · exact h m line row text hmem
    · exact h' m line row text hmem

/-- **Showing a text is well formed exactly when the text is clean**, if it is
shown at all. -/
theorem linesWellFormed_showText_iff {screen : Screen} (hm : Clean screen.moduleName)
    (first line : Int) (text : Option Str) :
    LinesWellFormed first (screen.showText line text)
      ↔ (first ≤ line → line < screen.calculateLines → ∀ t ∈ text, Clean t) := by
  constructor
  · rintro h hfirst hlt t rfl
    rw [Screen.showText_of_lt screen hlt] at h
    exact (wellFormed_widgetSetLine_iff hm _ _ _).mp
      (h _ _ _ _ (List.mem_singleton_self _) hfirst)
  · intro h m line' row t hmem hfirst
    rcases Int.lt_or_le line screen.calculateLines with hlt | hle
    · cases text with
      | none =>
        rw [Screen.showText_none] at hmem
        exact absurd hmem (by simp)
      | some text =>
        rw [Screen.showText_of_lt screen hlt, List.mem_singleton] at hmem
        cases hmem
        exact (wellFormed_widgetSetLine_iff hm _ _ _).mpr (h hfirst hlt _ rfl)
    · rw [Screen.showText_of_le screen hle] at hmem
      exact absurd hmem (by simp)

theorem linesWellFormed_flatMap {α : Type} {first : Int} {xs : List α}
    {f : α → List Command} :
    LinesWellFormed first (xs.flatMap f) ↔ ∀ x ∈ xs, LinesWellFormed first (f x) := by
  constructor
  · exact fun h x hx m line row text hmem =>
      h m line row text (List.mem_flatMap.mpr ⟨x, hx, hmem⟩)
  · intro h m line row text hmem
    obtain ⟨x, hx, hmem⟩ := List.mem_flatMap.mp hmem
    exact h x hx m line row text hmem

/-- A title is not a line. -/
theorem linesWellFormed_setTitle (screen : Screen) (first : Int) (title : Option Str) :
    LinesWellFormed first (screen.setTitle title) := by
  intro m line row text hmem
  unfold Screen.setTitle at hmem
  split at hmem
  · exact absurd hmem (by simp)
  · cases title with
    | none => exact absurd hmem (by simp)
    | some title => exact absurd hmem (by simp)

/-- An empty line is clean. -/
theorem linesWellFormed_clear {screen : Screen} (hm : Clean screen.moduleName) (first : Int) :
    LinesWellFormed first screen.clear := by
  refine linesWellFormed_flatMap.mpr (fun line _ => ?_)
  rw [linesWellFormed_showText_iff hm]
  intro _ _ t ht
  obtain rfl := Option.some.inj ht
  exact fun c hc => absurd hc (by simp)

/-! ## The paths from a text to a command -/

/-- **A headline**: the lines of the wrapped headline that the screen has a row
for. -/
theorem linesWellFormed_updateScreenNews_iff {rss rss' : LcdStuffRss}
    (hm : Clean rss.screen.moduleName) {item : Newsitem}
    (hitem : rss.displayed = some item) {fuel : ℕ} {wrapped : Str}
    (hwrap : stringbufferWrap fuel item.headline rss.screen.lcd.displaySize.width
      (rss.screen.lcd.displaySize.height - 1) = some wrapped) {cmds : List Command}
    (h : rss.updateScreenNews fuel = some (rss', cmds)) :
    LinesWellFormed 0 cmds ↔ ∀ (i : ℕ) line, (i : Int) < rss.screen.calculateLines →
      (LineBreaks.lines '\n' wrapped)[i]? = some line → Clean line := by
  unfold LcdStuffRss.updateScreenNews at h
  rw [hitem] at h
  dsimp only at h
  rw [hwrap, Option.bind_some] at h
  obtain ⟨cmds, htext, h⟩ := Option.map_eq_some_iff.mp h
  cases h
  have hall := LcdStuffRss.exists_updateScreenText { rss with currentScreen := rss.clampScreen }
    item.site wrapped (Nat.lt_succ_self _)
  obtain rfl := Loop.run_unique htext hall
  rw [linesWellFormed_append, linesWellFormed_append, linesWellFormed_flatMap]
  simp only [linesWellFormed_setTitle, linesWellFormed_clear hm, true_and]
  constructor
  · intro h i line hi hline
    have hlt := (List.getElem?_eq_some_iff.mp hline).1
    have hi' := h i (List.mem_map_of_mem (List.mem_range.mpr hlt))
    exact (linesWellFormed_showText_iff hm 0 _ _).mp hi' (by omega) hi line
      ((stringbufferGetLine_eq wrapped i).trans hline)
  · intro h l hl
    obtain ⟨i, hi, rfl⟩ := List.mem_map.mp hl
    refine (linesWellFormed_showText_iff hm 0 _ _).mpr (fun _ hlt line hline => ?_)
    exact h i line hlt ((stringbufferGetLine_eq wrapped i).symm.trans hline)

/-- The third line of the song is clean. -/
theorem clean_statusLine (elapsed total : Int) (isRepeat isRandom : Bool) :
    Clean (LcdStuffMpd.statusLine elapsed total isRepeat isRandom) := by
  have hdecimal2 : ∀ i, Clean (decimal2 i) := by
    intro i
    unfold decimal2
    refine clean_append.mpr ⟨by split <;> decide, ?_⟩
    split
    · exact List.forall_mem_cons.mpr ⟨by decide, clean_decimal _⟩
    · exact clean_decimal _
  unfold LcdStuffMpd.statusLine
  simp only [clean_append]
  exact ⟨⟨⟨⟨⟨⟨⟨⟨⟨clean_decimal _, by decide⟩, hdecimal2 _⟩, by decide⟩, clean_decimal _⟩,
    by decide⟩, hdecimal2 _⟩, by decide⟩, by cases isRepeat <;> decide⟩,
    by cases isRandom <;> decide⟩

/-- **A song**: its artist and its title, when it is not on display yet. -/
theorem linesWellFormed_updateStatusTime_iff (convert : Str → Option Str)
    {mpd : LcdStuffMpd} (hm : Clean mpd.screen.moduleName) (current : Option MpdSong)
    (elapsed total : Int) (isRepeat isRandom : Bool) :
    LinesWellFormed 0 (mpd.updateStatusTime convert current elapsed total isRepeat isRandom).2
      ↔ (mpd.currentState = .play →
        (!LcdStuffMpd.songCompare (mpd.getCurrentSong convert current) mpd.currentSong
          || !mpd.songDisplayed) = true →
        (0 < mpd.screen.calculateLines → Clean (mpd.getCurrentSong convert current).artist)
          ∧ (1 < mpd.screen.calculateLines →
            Clean (mpd.getCurrentSong convert current).title)) := by
  have hline3 : LinesWellFormed 0 (mpd.screen.showText 2
      (some (LcdStuffMpd.statusLine elapsed total isRepeat isRandom))) := by
    refine (linesWellFormed_showText_iff hm 0 2 _).mpr (fun _ _ t ht => ?_)
    obtain rfl := Option.some.inj ht
    exact clean_statusLine elapsed total isRepeat isRandom
  unfold LcdStuffMpd.updateStatusTime
  by_cases hplay : mpd.currentState = .play
  · rw [if_neg (by simpa using hplay)]
    dsimp only
    by_cases hnew : (!LcdStuffMpd.songCompare (mpd.getCurrentSong convert current)
        mpd.currentSong || !mpd.songDisplayed) = true
    · rw [if_pos hnew, linesWellFormed_append, linesWellFormed_append,
        linesWellFormed_showText_iff hm, linesWellFormed_showText_iff hm]
      simp [hline3, hplay, hnew]
    · rw [if_neg hnew]
      exact ⟨fun _ _ h => absurd h hnew, fun _ => hline3⟩
  · rw [if_pos hplay]
    exact ⟨fun _ h => absurd h hplay, fun _ m line row text hmem => absurd hmem (by simp)⟩

/-- Every item of a menu that is added is well formed. -/
def ItemsWellFormed (cmds : List Command) : Prop :=
  ∀ menu no label, .menuAddAction menu no label ∈ cmds →
    WellFormed (Command.menuAddAction menu no label).render

/-- The menu of the playlists is well formed exactly when their names are
clean. -/
theorem itemsWellFormed_playlistMenu_iff (list : List Str) :
    ItemsWellFormed (LcdStuffMpd.playlistMenu list) ↔ ∀ name ∈ list, Clean name := by
  have hmenu : Clean "mpd_pl".toList := by decide
  constructor
  · intro h name hname
    obtain ⟨i, hi, rfl⟩ := List.getElem_of_mem hname
    refine (wellFormed_menuAddAction_iff hmenu _ _).mp (h _ (i + 1) _ ?_)
    exact List.mem_cons_of_mem _ (List.mem_cons_of_mem _
      (List.mem_mapIdx.mpr ⟨i, hi, rfl⟩))
  · intro h menu no label hmem
    rcases List.mem_cons.mp hmem with hmem | hmem
    · exact absurd hmem (by simp)
    rcases List.mem_cons.mp hmem with hmem | hmem
    · cases hmem
      exact (wellFormed_menuAddAction_iff hmenu _ _).mpr (by decide)
    · obtain ⟨i, hi, heq⟩ := List.mem_mapIdx.mp hmem
      cases heq
      exact (wellFormed_menuAddAction_iff hmenu _ _).mpr (h _ (List.getElem_mem hi))

/-- **The names of the playlists**, when the menu is built anew. -/
theorem itemsWellFormed_updatePlaylistMenu_iff (mpd : LcdStuffMpd) (newList : List Str) :
    ItemsWellFormed (mpd.updatePlaylistMenu newList).2
      ↔ ((∀ oldList, mpd.currentList = some oldList →
          LcdStuffMpd.playlistsEquals oldList newList = false) →
        ∀ name ∈ newList, Clean name) := by
  unfold LcdStuffMpd.updatePlaylistMenu
  dsimp only
  cases hlist : mpd.currentList with
  | none =>
    dsimp only
    rw [itemsWellFormed_playlistMenu_iff]
    exact ⟨fun h _ => h, fun h => h (fun _ e => absurd e (by simp))⟩
  | some oldList =>
    dsimp only
    cases hequals : LcdStuffMpd.playlistsEquals oldList newList with
    | true =>
      rw [if_pos rfl]
      refine ⟨fun _ h => absurd (h oldList rfl) (by simp [hequals]), fun _ => ?_⟩
      exact fun menu no label hmem => absurd hmem (by simp)
    | false =>
      rw [if_neg (by simp), ← itemsWellFormed_playlistMenu_iff]
      constructor
      · exact fun h _ menu no label hmem => h menu no label (List.mem_cons_of_mem _ hmem)
      · intro h menu no label hmem
        refine h (fun old e => ?_) menu no label ?_
        · obtain rfl := Option.some.inj e
          exact hequals
        · exact (List.mem_cons.mp hmem).resolve_left (by simp)

/-- **A stream**: the artist and the title that `mplayer` answers with. -/
theorem linesWellFormed_updateMetainfo_iff {mplayer : LcdStuffMplayer}
    (hm : Clean mplayer.screen.moduleName) {written : Bool} {stale : Str → Str}
    {output : List Str} {artist title : Option Str}
    (hanswers : LcdStuffMplayer.metaAnswers written stale output = .ok (artist, title))
    {cmds : List Command} (h : mplayer.updateMetainfo written stale output = .ok cmds) :
    LinesWellFormed 1 cmds
      ↔ (mplayer.current.inputStream ≠ none → mplayer.current.outputStream ≠ none →
        (1 < mplayer.screen.calculateLines → Clean (artist.getD []))
          ∧ (2 < mplayer.screen.calculateLines → Clean (title.getD []))) := by
  unfold LcdStuffMplayer.updateMetainfo at h
  by_cases hstreams : mplayer.current.inputStream = none ∨ mplayer.current.outputStream = none
  · rw [if_pos hstreams] at h
    obtain rfl := Except.ok.inj h
    refine ⟨fun _ hin hout => ?_, fun _ m line row text hmem => absurd hmem (by simp)⟩
    exact absurd hstreams (by simp [hin, hout])
  · rw [if_neg hstreams, hanswers] at h
    obtain rfl := Except.ok.inj h
    have hname : LinesWellFormed 1 mplayer.showName := by
      unfold LcdStuffMplayer.showName
      split
      · exact (linesWellFormed_showText_iff hm 1 0 _).mpr (fun h => absurd h (by decide))
      · exact fun m line row text hmem => absurd hmem (by simp)
    unfold LcdStuffMplayer.showMetainfo
    rw [linesWellFormed_append, linesWellFormed_append, linesWellFormed_showText_iff hm,
      linesWellFormed_showText_iff hm]
    rw [not_or] at hstreams
    simp [hname, hstreams.1, hstreams.2]

/-- A unit is clean. -/
theorem clean_getUnitForType (unit : WeatherUnit) (type : WeatherType) :
    Clean (getUnitForType unit type) := by
  cases unit <;> cases type <;> decide

/-- The line of the temperature is clean, if the pressure is printed so. -/
theorem clean_temperatureText {weather : LcdStuffWeather} {data : WeatherData}
    (hpressure : Clean data.pressure) : Clean (weather.temperatureText data) := by
  unfold LcdStuffWeather.temperatureText
  simp only [clean_append]
  exact ⟨⟨⟨⟨⟨⟨⟨clean_decimal _, clean_getUnitForType _ _⟩, by decide⟩, clean_decimal _⟩,
    clean_getUnitForType _ _⟩, by decide⟩, hpressure⟩, clean_getUnitForType _ _⟩

/-- The line of the wind is clean exactly when its direction is. -/
theorem clean_windText_iff {weather : LcdStuffWeather} {data : WeatherData} :
    Clean (weather.windText data) ↔ Clean data.windDir := by
  unfold LcdStuffWeather.windText
  simp only [clean_append]
  exact ⟨fun h => h.2, fun h => ⟨⟨⟨⟨⟨⟨clean_decimal _, clean_getUnitForType _ _⟩, by decide⟩,
    clean_decimal _⟩, clean_getUnitForType _ _⟩, by decide⟩, h⟩⟩

/-- So is the line that has both on a small display. -/
theorem clean_shortText_iff {weather : LcdStuffWeather} {data : WeatherData} :
    Clean (weather.shortText data) ↔ Clean data.windDir := by
  unfold LcdStuffWeather.shortText
  rw [clean_append, clean_windText_iff]
  simp only [clean_append]
  exact ⟨fun h => h.2, fun h => ⟨⟨⟨clean_decimal _, clean_getUnitForType _ _⟩, by decide⟩, h⟩⟩

/-- **The weather**: its description and the direction of the wind. -/
theorem linesWellFormed_weather_iff {weather : LcdStuffWeather}
    (hm : Clean weather.screen.moduleName) {data : WeatherData}
    (hpressure : Clean data.pressure) :
    LinesWellFormed 0 (weather.update (some data))
      ↔ (0 < weather.screen.calculateLines → Clean data.weather)
        ∧ ((if 3 ≤ weather.screen.lcd.displaySize.height then 2 else 1)
          < weather.screen.calculateLines → Clean data.windDir) := by
  unfold LcdStuffWeather.update
  rw [linesWellFormed_append, linesWellFormed_showText_iff hm]
  split
  · rw [linesWellFormed_append, linesWellFormed_showText_iff hm,
      linesWellFormed_showText_iff hm]
    simp [clean_temperatureText hpressure, clean_windText_iff]
  · rw [linesWellFormed_append, linesWellFormed_showText_iff hm,
      linesWellFormed_showText_iff hm]
    simp [clean_shortText_iff]

/-- **When the texts from outside make well-formed commands**: exactly when the
ones that are shown are clean. -/
theorem commands_wellFormed_iff {rss rss' : LcdStuffRss} {item : Newsitem} {fuel : ℕ}
    {wrapped : Str} {cmds : List Command} (hrss : rss.screen.moduleName = "rss".toList)
    (hitem : rss.displayed = some item)
    (hwrap : stringbufferWrap fuel item.headline rss.screen.lcd.displaySize.width
      (rss.screen.lcd.displaySize.height - 1) = some wrapped)
    (hnews : rss.updateScreenNews fuel = some (rss', cmds))
    (convert : Str → Option Str) {mpd : LcdStuffMpd}
    (hmpd : mpd.screen.moduleName = "mpd".toList) (current : Option MpdSong)
    (elapsed total : Int) (isRepeat isRandom : Bool) (newList : List Str)
    {mplayer : LcdStuffMplayer} (hmplayer : mplayer.screen.moduleName = "mplayer".toList)
    {written : Bool} {stale : Str → Str} {output : List Str} {artist title : Option Str}
    (hanswers : LcdStuffMplayer.metaAnswers written stale output = .ok (artist, title))
    {metainfo : List Command}
    (hmetainfo : mplayer.updateMetainfo written stale output = .ok metainfo)
    {weather : LcdStuffWeather} (hweather : weather.screen.moduleName = "weather".toList)
    {data : WeatherData} (hpressure : Clean data.pressure) :
    (LinesWellFormed 0 cmds ↔ ∀ (i : ℕ) line, (i : Int) < rss.screen.calculateLines →
        (LineBreaks.lines '\n' wrapped)[i]? = some line → Clean line)
      ∧ (LinesWellFormed 0
          (mpd.updateStatusTime convert current elapsed total isRepeat isRandom).2
        ↔ (mpd.currentState = .play →
          (!LcdStuffMpd.songCompare (mpd.getCurrentSong convert current) mpd.currentSong
            || !mpd.songDisplayed) = true →
          (0 < mpd.screen.calculateLines →
              Clean (mpd.getCurrentSong convert current).artist)
            ∧ (1 < mpd.screen.calculateLines →
              Clean (mpd.getCurrentSong convert current).title)))
      ∧ (ItemsWellFormed (mpd.updatePlaylistMenu newList).2
        ↔ ((∀ oldList, mpd.currentList = some oldList →
            LcdStuffMpd.playlistsEquals oldList newList = false) →
          ∀ name ∈ newList, Clean name))
      ∧ (LinesWellFormed 1 metainfo
        ↔ (mplayer.current.inputStream ≠ none → mplayer.current.outputStream ≠ none →
          (1 < mplayer.screen.calculateLines → Clean (artist.getD []))
            ∧ (2 < mplayer.screen.calculateLines → Clean (title.getD []))))
      ∧ (LinesWellFormed 0 (weather.update (some data))
        ↔ (0 < weather.screen.calculateLines → Clean data.weather)
          ∧ ((if 3 ≤ weather.screen.lcd.displaySize.height then 2 else 1)
            < weather.screen.calculateLines → Clean data.windDir)) :=
  ⟨linesWellFormed_updateScreenNews_iff (hrss ▸ by decide) hitem hwrap hnews,
    linesWellFormed_updateStatusTime_iff convert (hmpd ▸ by decide) ..,
    itemsWellFormed_updatePlaylistMenu_iff mpd newList,
    linesWellFormed_updateMetainfo_iff (hmplayer ▸ by decide) hanswers hmetainfo,
    linesWellFormed_weather_iff (hweather ▸ by decide) hpressure⟩

/-- A headline with a brace is no well-formed command, and what the other
modules are told here are clean texts. -/
theorem commands_wellFormed_each :
    ∃ rss' cmds, LcdStuffRss.updateScreenNews 10 ⟨900, [], [⟨[], "a\x7db".toList⟩], 0,
        ⟨⟨⟨20, 4⟩, false⟩, "rss".toList⟩⟩ = some (rss', cmds)
      ∧ ¬ LinesWellFormed 0 cmds
      ∧ ItemsWellFormed (LcdStuffMpd.updatePlaylistMenu
          ⟨.play, false, none, 0, none, ⟨⟨⟨20, 4⟩, false⟩, "mpd".toList⟩⟩
          ["Best of the 80s".toList]).2
      ∧ LinesWellFormed 0 (LcdStuffWeather.update
          ⟨.metric, ⟨⟨⟨20, 4⟩, false⟩, "weather".toList⟩⟩
          (some ⟨20, 19, 50, "1013.0".toList, "Fair".toList, "NW".toList, 11⟩)) := by
  let mpd : LcdStuffMpd :=
    ⟨.play, false, none, 0, none, ⟨⟨⟨20, 4⟩, false⟩, "mpd".toList⟩⟩
  let mplayer : LcdStuffMplayer :=
    ⟨{ Program.init with inputStream := some 1, outputStream := some 2 }, [],
      ⟨⟨⟨20, 4⟩, false⟩, "mplayer".toList⟩⟩
  let weather : LcdStuffWeather := ⟨.metric, ⟨⟨⟨20, 4⟩, false⟩, "weather".toList⟩⟩
  let data : WeatherData :=
    ⟨20, 19, 50, "1013.0".toList, "Fair".toList, "NW".toList, 11⟩
  have hsome : (LcdStuffRss.updateScreenNews 10 ⟨900, [], [⟨[], "a\x7db".toList⟩], 0,
      ⟨⟨⟨20, 4⟩, false⟩, "rss".toList⟩⟩).isSome := by decide +kernel
  obtain ⟨⟨rss', cmds⟩, hnews⟩ := Option.isSome_iff_exists.mp hsome
  have hanswers : LcdStuffMplayer.metaAnswers true id
      ["ANS_META_ARTIST='A'\n".toList, "ANS_META_TITLE='B'\n".toList]
      = .ok (some "A".toList, some "B".toList) := by decide +kernel
  obtain ⟨hlines, -, hlist, -, hweather⟩ :=
    commands_wellFormed_iff rfl (show _ = some (Newsitem.mk [] "a\x7db".toList) from rfl)
      (show _ = some "a\x7db".toList by decide +kernel) hnews some
      (show mpd.screen.moduleName = _ from rfl) none 61 200 true false
      ["Best of the 80s".toList] (show mplayer.screen.moduleName = _ from rfl) hanswers
      (show mplayer.updateMetainfo true id _ = .ok _ from rfl)
      (show weather.screen.moduleName = _ from rfl) (show Clean data.pressure by decide)
  refine ⟨rss', cmds, hnews, fun h => ?_, hlist.mpr (fun _ => by decide +kernel),
    hweather.mpr (by decide +kernel)⟩
  exact absurd (hlines.mp h 0 "a\x7db".toList (by decide) (by decide +kernel)) (by decide)

/-- A playlist whose name has a brace spoils the command for its item. -/
theorem not_forall_itemsWellFormed :
    ¬ ∀ (mpd : LcdStuffMpd) (newList : List Str),
      ItemsWellFormed (mpd.updatePlaylistMenu newList).2 := by
  intro h
  have hitems := (itemsWellFormed_playlistMenu_iff ["Best of {80s}".toList]).mp
    (h ⟨.play, false, none, 0, none, ⟨⟨⟨20, 4⟩, false⟩, "mpd".toList⟩⟩ _)
  exact absurd (hitems _ (List.mem_singleton_self _)) (by decide)
