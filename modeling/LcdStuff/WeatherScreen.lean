import LcdStuff.Display
import LcdStuff.WeatherDocument
import Mathlib.Data.List.GetD

/-!
# The weather on the display

The weather module asks for the weather every now and then. It shows what it has received, in
three lines or in two, and leaves the screen as it is when nothing could be retrieved. What it
prints is on its stack, and what a document has not told is there as it happens to be.

`LcdStuffWeather.weather_of_reachable` says what a viewer sees after that, with the other modules
at work: the conditions of the last document that was received, whatever was on the stack.
-/

namespace LcdStuffWeather

variable {ε : Type} (weather : LcdStuffWeather)

/-! ## The calls of the module -/

/-- The lines of `weather_update`, from the first one on. -/
def texts (data : WeatherData) : List Str :=
  data.weather :: if 3 ≤ weather.screen.lcd.displaySize.height then
      [weather.temperatureText data, weather.windText data]
    else [weather.shortText data]

/-- The calls of `weather_update`, with what `retrieve_weather_data` has stored, if it
returned zero. -/
def updateCalls (data : Option WeatherData) : List ScreenCall :=
  match data with
  | none => []
  | some data =>
    .showText 0 (some data.weather)
      :: if 3 ≤ weather.screen.lcd.displaySize.height then
        [.showText 1 (some (weather.temperatureText data)),
          .showText 2 (some (weather.windText data))]
      else [.showText 1 (some (weather.shortText data)), .showText 2 none]

/-- What `weather_update` has retrieved, with what happens to be on its stack. -/
def retrieved (city : Str) (nxml : Nxml ε) (garbage : WeatherData) :
    Except Fault (Option WeatherData) := do
  let r ← nxml.retrieveWeatherData city (some .uninitialised) weather.unit
  return if r.1 = 0 then r.2.map (StoredData.read · garbage) else none

/-- The calls of several updates, with what the library answers and what is on the stack in
each of them. -/
def updatesCalls (city : Str) : List (Nxml ε × WeatherData) → Except Fault (List ScreenCall)
  | [] => .ok []
  | u :: updates => do
    let data ← weather.retrieved city u.1 u.2
    let calls ← updatesCalls city updates
    return weather.updateCalls data ++ calls

/-- **The calls queue the commands of `weather_update`.** -/
theorem commandsOf_updateCalls (data : Option WeatherData) :
    Drawing.commandsOf weather.screen.lcd weather.screen.moduleName (weather.updateCalls data)
      = weather.update data := by
  cases data with
  | none => rfl
  | some data =>
    unfold updateCalls update Drawing.commandsOf
    dsimp only
    rw [List.flatMap_cons]
    split <;>
    · rw [List.flatMap_cons, List.flatMap_singleton]
      rfl

/-- What `weather_update` queues is what it queues for what it has retrieved. -/
theorem weatherUpdate_eq_retrieved (city : Str) (nxml : Nxml ε) (garbage : WeatherData) :
    weatherUpdate nxml weather city garbage
      = (weather.retrieved city nxml garbage).map weather.update := by
  unfold weatherUpdate retrieved
  cases nxml.retrieveWeatherData city (some .uninitialised) weather.unit <;> rfl

/-! ## What is on the screen -/

/-- **The screen shows it**, or nothing. -/
def Shows (data : Option WeatherData) (view : ScreenView) : Prop :=
  ∀ k : ℕ, (k : Int) ∈ weather.screen.lineNumbers →
    view.lines k = (data.elim [] weather.texts).getD k []

variable {weather}

/-- All that is retrieved has as many lines. -/
theorem length_texts (data : WeatherData) : (weather.texts data).length
    = if 3 ≤ weather.screen.lcd.displaySize.height then 3 else 2 := by
  unfold texts
  split <;> rfl

/-- An update shows what was retrieved, or leaves the screen as it is. -/
theorem Shows.draw {old : Option WeatherData} {view : ScreenView}
    (h : weather.Shows old view) (data : Option WeatherData) :
    ∃ view', (weather.updateCalls data).foldl (ScreenView.draw weather.screen) (some view)
        = some view'
      ∧ view'.title = view.title ∧ weather.Shows (data.or old) view' := by
  cases data with
  | none => exact ⟨view, rfl, rfl, h⟩
  | some data =>
    obtain ⟨lines, hfold, hlines⟩ :=
      ScreenCall.foldl_draw_showText weather.screen (weather.texts data) 0 view
    refine ⟨{ view with lines := lines }, ?_, rfl, fun k hk => ?_⟩
    · rw [← hfold]
      unfold updateCalls texts
      dsimp only
      split <;> rfl
    · show lines k = (weather.texts data).getD k []
      rw [hlines k hk, if_pos (Nat.zero_le k), Nat.sub_zero]
      rcases Nat.lt_or_ge k (weather.texts data).length with hlt | hge
      · rw [List.getD_eq_getElem _ _ hlt, List.getD_eq_getElem _ _ hlt]
      · -- the lines below are those of an earlier update, which has as many
        rw [List.getD_eq_default _ _ hge, List.getD_eq_default _ _ hge, h k hk]
        cases old with
        | none => rfl
        | some old =>
          have hold : (weather.texts old).length ≤ k := by
            rw [length_texts, ← length_texts data]
            exact hge
          exact List.getD_eq_default _ _ hold

/-- So do several updates: what is shown is the last that was retrieved. -/
theorem Shows.updates {city : Str} {updates : List (Nxml ε × WeatherData)}
    {calls : List ScreenCall} (hcalls : weather.updatesCalls city updates = .ok calls)
    {old : Option WeatherData} {view : ScreenView} (h : weather.Shows old view) :
    ∃ view' data, calls.foldl (ScreenView.draw weather.screen) (some view) = some view'
      ∧ view'.title = view.title ∧ weather.Shows data view' := by
  induction updates generalizing calls old view with
  | nil =>
    obtain rfl := Except.ok.inj hcalls
    exact ⟨view, old, rfl, rfl, h⟩
  | cons u updates ih =>
    obtain ⟨data, -, hmore⟩ := bind_eq_ok_iff.mp hcalls
    obtain ⟨calls', hrest, hmade⟩ := bind_eq_ok_iff.mp hmore
    obtain rfl := Except.ok.inj hmade
    obtain ⟨view₁, hfold₁, htitle₁, hshows₁⟩ := h.draw data
    obtain ⟨view', data', hfold, htitle, hshows⟩ := ih hrest hshows₁
    refine ⟨view', data', ?_, htitle.trans htitle₁, hshows⟩
    rw [List.foldl_append, hfold₁, hfold]

/-- Updates that retrieve nothing call nothing. -/
theorem updatesCalls_of_failed {city : Str} {updates : List (Nxml ε × WeatherData)}
    (hfailed : ∀ u ∈ updates, ∃ ret data, ret ≠ 0
      ∧ u.1.retrieveWeatherData city (some .uninitialised) weather.unit = .ok (ret, data)) :
    weather.updatesCalls city updates = .ok [] := by
  induction updates with
  | nil => rfl
  | cons u updates ih =>
    obtain ⟨⟨ret, data, hret, hu⟩, hrest⟩ := List.forall_mem_cons.mp hfailed
    have hnone : weather.retrieved city u.1 u.2 = .ok none := by
      refine bind_eq_ok_iff.mpr ⟨_, hu, ?_⟩
      rw [if_neg hret]
      rfl
    exact bind_eq_ok_iff.mpr ⟨none, hnone, bind_eq_ok_iff.mpr ⟨[], ih hrest, rfl⟩⟩

/-- Updates one after the other. -/
theorem updatesCalls_append {city : Str} {updates updates' : List (Nxml ε × WeatherData)}
    {calls : List ScreenCall}
    (h : weather.updatesCalls city (updates ++ updates') = .ok calls) :
    ∃ first second, weather.updatesCalls city updates = .ok first
      ∧ weather.updatesCalls city updates' = .ok second ∧ calls = first ++ second := by
  induction updates generalizing calls with
  | nil => exact ⟨[], calls, rfl, h, rfl⟩
  | cons u updates ih =>
    obtain ⟨data, hdata, hmore⟩ := bind_eq_ok_iff.mp h
    obtain ⟨calls', hrest, hmade⟩ := bind_eq_ok_iff.mp hmore
    obtain ⟨first, second, hfirst, hsecond, rfl⟩ := ih hrest
    refine ⟨weather.updateCalls data ++ first, second, ?_, hsecond, ?_⟩
    · exact bind_eq_ok_iff.mpr ⟨data, hdata, bind_eq_ok_iff.mpr ⟨first, hfirst, rfl⟩⟩
    · rw [List.append_assoc]
      exact (Except.ok.inj hmade).symm

/-- What is printed does not depend on what was on the stack. -/
theorem texts_read_eq {data : StoredData}
    (h : data.Printable weather.screen.lcd.displaySize.height) (garbage garbage' : WeatherData) :
    weather.texts (data.read garbage) = weather.texts (data.read garbage') := by
  obtain ⟨weatherBytes, hweather, -⟩ := h.weather
  obtain ⟨windBytes, hwindDir, -⟩ := h.windDir
  obtain ⟨tempC, htempC⟩ := Option.isSome_iff_exists.mp h.tempC
  obtain ⟨humid, hhumid⟩ := Option.isSome_iff_exists.mp h.humid
  obtain ⟨windSpeed, hwindSpeed⟩ := Option.isSome_iff_exists.mp h.windSpeed
  by_cases htall : 3 ≤ weather.screen.lcd.displaySize.height
  · obtain ⟨tempFlC, htempFlC⟩ := Option.isSome_iff_exists.mp (h.tempFlC htall)
    obtain ⟨pressure, hpressure⟩ := Option.isSome_iff_exists.mp (h.pressure htall)
    have hread : data.read garbage = data.read garbage' := by
      unfold StoredData.read
      rw [hweather, hwindDir, htempC, hhumid, hwindSpeed, htempFlC, hpressure]
      rfl
    rw [hread]
  · unfold texts shortText windText StoredData.read
    rw [if_neg htall, if_neg htall, hweather, hwindDir, htempC, hhumid, hwindSpeed]
    rfl

/-- **What a viewer sees of the weather**, in every run of the modules that the server can read:
the conditions of the last document that was received, and nothing else, whatever the updates since
then have failed with and whatever was on the stack in any of them. -/
theorem weather_of_reachable (server : ScreenServer) {ι : Type} [DecidableEq ι] {lcd : LcdStuff}
    {name : ι → Str} {i : ι} {s : Drawing ι} {calls : ι → List ScreenCall}
    (h : (Drawing.historySystem lcd name).Reachable (s, calls))
    (hname : ∀ j, j ≠ i → name j ≠ name i) (hlegible : Drawing.Legible name calls)
    (hexit : s.gExit = false) (hleft : s.left i = [])
    (hscreen : weather.screen = ⟨lcd, name i⟩) {city screenName title : Str}
    {before after : List (Nxml ε × WeatherData)} {nxml : Nxml ε} {garbage : WeatherData}
    {data : StoredData} (hdata : nxml.retrieveWeatherData city (some .uninitialised) weather.unit
      = .ok (0, some data))
    (hprintable : data.Printable lcd.displaySize.height)
    (hfailed : ∀ u ∈ after, ∃ ret data, ret ≠ 0
      ∧ u.1.retrieveWeatherData city (some .uninitialised) weather.unit = .ok (ret, data))
    {made : List ScreenCall}
    (hmade : weather.updatesCalls city (before ++ (nxml, garbage) :: after) = .ok made)
    (hcalls : calls i = .create :: .setName screenName :: .setTitle (some title) :: made) :
    ∃ shown, server.screen (server.replay s.queue) (name i) = some shown
      ∧ shown.title = (if lcd.noTitle then none else some title)
      ∧ ∀ (garbage' : WeatherData) (k : ℕ), (k : Int) ∈ weather.screen.lineNumbers →
        shown.Reads k (k + 1 + weather.screen.titleLine)
          ((weather.texts (data.read garbage')).getD k []) := by
  obtain ⟨first, second, hfirst, hsecond, rfl⟩ := updatesCalls_append hmade
  have hretrieved : weather.retrieved city nxml garbage = .ok (some (data.read garbage)) :=
    bind_eq_ok_iff.mpr ⟨_, hdata, rfl⟩
  obtain rfl : weather.updateCalls (some (data.read garbage)) ++ [] = second := by
    have hupdates : weather.updatesCalls city ((nxml, garbage) :: after)
        = .ok (weather.updateCalls (some (data.read garbage)) ++ []) :=
      bind_eq_ok_iff.mpr ⟨_, hretrieved, bind_eq_ok_iff.mpr
        ⟨[], updatesCalls_of_failed hfailed, rfl⟩⟩
    exact Except.ok.inj (hupdates.symm.trans hsecond)
  let created : ScreenView :=
    ⟨if lcd.noTitle then [] else title, fun _ => [], some screenName, none⟩
  have hcreated : weather.Shows none created := fun _ _ => rfl
  obtain ⟨view₁, old, hfold₁, htitle₁, hshows₁⟩ := hcreated.updates hfirst
  obtain ⟨view₂, hfold₂, htitle₂, hshows₂⟩ := hshows₁.draw (some (data.read garbage))
  have hfold : (calls i).foldl (ScreenView.draw ⟨lcd, name i⟩) none = some view₂ := by
    rw [hcalls, List.append_nil]
    rw [hscreen] at hfold₁ hfold₂
    show (first ++ _).foldl _ (some created) = _
    rw [List.foldl_append, hfold₁, hfold₂]
  obtain ⟨shown, hshown, hshows⟩ :=
    Drawing.exists_shown server h hname hlegible hexit hleft hfold
  refine ⟨shown, hshown, ?_, fun garbage' k hk => ?_⟩
  · rw [hshows.title, htitle₂.trans htitle₁]
    show (if lcd.noTitle then none else some (if lcd.noTitle then [] else title)) = _
    split <;> rfl
  · have hheight : weather.screen.lcd.displaySize.height = lcd.displaySize.height := by
      rw [hscreen]
    have hline : view₂.lines k = (weather.texts (data.read garbage)).getD k [] := hshows₂ k hk
    rw [← texts_read_eq (hheight ▸ hprintable) garbage garbage', ← hline]
    rw [hscreen] at hk ⊢
    exact hshows.line k hk

/-- A document is received, and then the service cannot be reached. -/
theorem weather_of_reachable_two :
    let weather : LcdStuffWeather := ⟨.metric, ⟨⟨⟨20, 4⟩, false⟩, "weather".toList⟩⟩
    -- an element is the path to it
    let nxml : Nxml (List Str) := ⟨fun _ => some (some []),
      fun parent name => some (parent.getD [] ++ [name]),
      fun element => some (some (if element = ["cc".toList, "t".toList] then "Cloudy".toList
        else "7".toList)), id⟩
    ∃ (s : Drawing Bool) (shown : ShownScreen),
      ScreenServer.literal.screen (ScreenServer.literal.replay s.queue) "weather".toList
          = some shown
        ∧ shown.title = (if false then none else some "Weather".toList)
        ∧ ∀ (garbage' : WeatherData) (k : ℕ), (k : Int) ∈ weather.screen.lineNumbers →
          shown.Reads k (k + 1 + weather.screen.titleLine)
            ((weather.texts ((nxml.stored ["cc".toList]).read garbage')).getD k []) := by
  intro weather nxml
  let down : Nxml (List Str) := { nxml with parseUrl := fun _ => none }
  let garbage : WeatherData := ⟨0, 0, 0, [], [], [], 0⟩
  let updates := [(down, garbage), (nxml, garbage), (down, garbage)]
  let data : StoredData := nxml.stored ["cc".toList]
  have hdata : nxml.retrieveWeatherData "GMXX0007".toList (some .uninitialised) .metric
      = .ok (0, some data) := by decide +kernel
  have hdown : down.retrieveWeatherData "GMXX0007".toList (some .uninitialised) .metric
      = .ok (-1, some .uninitialised) := by decide +kernel
  have hprintable : data.Printable 4 := ⟨rfl, rfl, rfl,
    ⟨_, rfl, nul_mem_storeText (by decide) "Cloudy".toList⟩,
    ⟨_, rfl, nul_mem_storeText (by decide) "7".toList⟩, fun _ => rfl, fun _ => rfl⟩
  let update := weather.updateCalls (some (data.read garbage))
  have hfailed : ∀ u ∈ [(down, garbage)], ∃ ret data, ret ≠ 0
      ∧ u.1.retrieveWeatherData "GMXX0007".toList (some .uninitialised) weather.unit
        = .ok (ret, data) :=
    fun u hu => ⟨-1, some .uninitialised, by decide, List.mem_singleton.mp hu ▸ hdown⟩
  have hmade : weather.updatesCalls "GMXX0007".toList updates = .ok ([] ++ (update ++ [])) :=
    bind_eq_ok_iff.mpr ⟨none, bind_eq_ok_iff.mpr ⟨_, hdown, rfl⟩, bind_eq_ok_iff.mpr
      ⟨_, bind_eq_ok_iff.mpr ⟨some (data.read garbage), bind_eq_ok_iff.mpr ⟨_, hdata, rfl⟩,
        bind_eq_ok_iff.mpr ⟨[], updatesCalls_of_failed hfailed, rfl⟩⟩, rfl⟩⟩
  let name : Bool → Str := fun i => if i then "weather".toList else "mail".toList
  let made : List ScreenCall := .setName "Weather".toList :: .setTitle (some "Weather".toList)
    :: ([] ++ (update ++ []))
  have hmadeAll : ∀ call ∈ made, call.Made true := by decide +kernel
  have hlegible : Drawing.Legible name (Drawing.alone true (.create :: made)) :=
    Drawing.legible_alone (by decide) (by decide +kernel)
  obtain ⟨s, hs, hquiet⟩ := Drawing.exists_reachable_alone ⟨⟨20, 4⟩, false⟩ name true hmadeAll
  obtain ⟨shown, hshown⟩ := @weather_of_reachable (List Str) weather .literal Bool _
    ⟨⟨20, 4⟩, false⟩ name true s _ hs (by decide) hlegible hquiet.exit hquiet.left rfl
    "GMXX0007".toList "Weather".toList "Weather".toList [(down, garbage)] [(down, garbage)] nxml
    garbage data hdata hprintable hfailed _ hmade (Function.update_self ..)
  exact ⟨s, shown, hshown⟩

end LcdStuffWeather
