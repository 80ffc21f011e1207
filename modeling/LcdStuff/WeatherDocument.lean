import LcdStuff.Weather

/-!
# The document of the weather service

`retrieve_weather_data` takes seven values from the document that the service returns. Each is
looked for in the element for the current conditions and is left as it is if it is not found, so
that what `weather_update` has on its stack is shown in its place: the function only says that
something went wrong if the document or the element for the current conditions is missing. When
everything that is shown was stored is what `Nxml.retrieves_iff` says.

The library that reads the document is a parameter, `Nxml`, over what it keeps for an element.
-/

/-- **What is read from outside.** -/
structure Nxml (ε : Type) where
  /-- `nxml_parse_url` and `nxml_root_element`: `none` where the first fails, and else the root
  element, which can be `NULL`. -/
  parseUrl : Str → Option (Option ε)
  /-- `nxml_find_element`, where it returns `NXML_OK` and finds an element. -/
  findElement : Option ε → Str → Option ε
  /-- `nxmle_get_string`: `none` where the error is not `NXML_OK`, and else the text, which can be
  `NULL`. -/
  getString : ε → Option (Option Str)
  /-- What `%.1f` prints for the `atof` of a text. -/
  atof : Str → Str

/-- `MAX_WEATHER_LEN` -/
def maxWeatherLen : ℕ := 1024

/-- `MAX_WIND_LEN` -/
def maxWindLen : ℕ := 32

/-- `WEATHER_URL` with its arguments. -/
def weatherUrl (code : Str) (unit : WeatherUnit) : Str :=
  "http://xoap.weather.com/weather/local/".toList ++ code ++ "?unit=".toList
    ++ (if unit = .imperial then ['i'] else ['m'])
    ++ "&cc=*&par=1135709469&key=ad4915c997bebd9c".toList

/-- `strncpy`: the bytes that are written. -/
def strncpy (string : Str) (n : ℕ) : Str := (string ++ List.replicate n '\x00').take n

/-- The array that a text is copied to; its last byte is set to NUL. -/
def storeText (n : ℕ) (string : Str) : Str := (strncpy string n).set (n - 1) '\x00'

/-- A `struct weather_data` in memory; what was not assigned is `none`. -/
structure StoredData where
  /-- `temp_c` -/
  tempC : Option Int
  /-- `temp_fl_c` -/
  tempFlC : Option Int
  /-- `humid` -/
  humid : Option Int
  /-- `pressure_hPa`, as `%.1f` prints it -/
  pressure : Option Str
  /-- The bytes of `weather` -/
  weather : Option Str
  /-- The bytes of `wind_dir` -/
  windDir : Option Str
  /-- `wind_speed` -/
  windSpeed : Option Int
  deriving DecidableEq, Repr

/-- The data that `weather_update` has on its stack. -/
def StoredData.uninitialised : StoredData := ⟨none, none, none, none, none, none, none⟩

namespace Nxml

variable {ε : Type} (nxml : Nxml ε)

/-- The element that is found in one that is found. -/
def findInside (cc : ε) (name inner : Str) : Option ε :=
  (nxml.findElement (some cc) name).bind (fun element => nxml.findElement (some element) inner)

/-- **A value**: it is made of the text of an element, and stays as it is if that is not found or
has no text that can be read. The functions that it is made with take no `NULL`. -/
def readValue {α : Type} (element : Option ε) (convert : Str → α) (old : Option α) :
    Except Fault (Option α) :=
  match element.bind nxml.getString with
  | none => .ok old
  | some none => .error .null
  | some (some string) => .ok (some (convert string))

/-- The values that are taken from the element for the current conditions. -/
def readValues (cc : ε) (data : StoredData) : Except Fault StoredData := do
  let tempC ← nxml.readValue (nxml.findElement (some cc) "tmp".toList) atoi data.tempC
  let tempFlC ← nxml.readValue (nxml.findElement (some cc) "flik".toList) atoi data.tempFlC
  let humid ← nxml.readValue (nxml.findElement (some cc) "hmid".toList) atoi data.humid
  let weather ← nxml.readValue (nxml.findElement (some cc) "t".toList) (storeText maxWeatherLen)
    data.weather
  let pressure ← nxml.readValue (nxml.findInside cc "bar".toList "r".toList) nxml.atof
    data.pressure
  let windSpeed ← nxml.readValue (nxml.findInside cc "wind".toList "s".toList) atoi
    data.windSpeed
  let windDir ← nxml.readValue (nxml.findInside cc "wind".toList "t".toList)
    (storeText maxWindLen) data.windDir
  return ⟨tempC, tempFlC, humid, pressure, weather, windDir, windSpeed⟩

/-- `retrieve_weather_data`: what it returns, and the data behind it; `-EINVAL` is -22. -/
def retrieveWeatherData (code : Str) (data : Option StoredData) (unit : WeatherUnit) :
    Except Fault (Int × Option StoredData) :=
  match data with
  | none => .ok (-22, none)
  | some data =>
    match (nxml.parseUrl (weatherUrl code unit)).bind
        (fun root => nxml.findElement root "cc".toList) with
    | none => .ok (-1, some data)
    | some cc => do
      let data ← nxml.readValues cc data
      return (0, some data)

end Nxml

/-! ## What is shown -/

/-- **All that `weather_update` prints** on a display of a height is assigned, and the texts end in
their arrays. -/
structure StoredData.Printable (height : Int) (data : StoredData) : Prop where
  /-- `temp_c` -/
  tempC : data.tempC.isSome = true
  /-- `humid` -/
  humid : data.humid.isSome = true
  /-- `wind_speed` -/
  windSpeed : data.windSpeed.isSome = true
  /-- `weather` -/
  weather : ∃ bytes, data.weather = some bytes ∧ '\x00' ∈ bytes
  /-- `wind_dir` -/
  windDir : ∃ bytes, data.windDir = some bytes ∧ '\x00' ∈ bytes
  /-- `temp_fl_c` -/
  tempFlC : 3 ≤ height → data.tempFlC.isSome = true
  /-- `pressure_hPa` -/
  pressure : 3 ≤ height → data.pressure.isSome = true

/-- A text that is stored ends in its array. -/
theorem nul_mem_storeText {n : ℕ} (hn : 0 < n) (string : Str) : '\x00' ∈ storeText n string := by
  have hlength : (strncpy string n).length = n := by
    unfold strncpy
    rw [List.length_take, List.length_append, List.length_replicate]
    omega
  exact List.mem_set (by omega) _

namespace Nxml

variable {ε : Type} (nxml : Nxml ε)

/-- The elements whose values are printed on every display. -/
def shortElements (cc : ε) : List (Option ε) :=
  [nxml.findElement (some cc) "tmp".toList, nxml.findElement (some cc) "hmid".toList,
    nxml.findElement (some cc) "t".toList, nxml.findInside cc "wind".toList "s".toList,
    nxml.findInside cc "wind".toList "t".toList]

/-- The elements whose values are only printed on a display of three rows or more. -/
def longElements (cc : ε) : List (Option ε) :=
  [nxml.findElement (some cc) "flik".toList, nxml.findInside cc "bar".toList "r".toList]

/-- **What is printed can be read**: each of the elements is there with a text that can be read,
and there is none that is empty, also if it is not printed. -/
structure Answers (cc : ε) (height : Int) : Prop where
  /-- The elements that are printed on every display. -/
  short : ∀ element ∈ nxml.shortElements cc, ∃ string,
    element.bind nxml.getString = some (some string)
  /-- The others, where they are printed. -/
  long : 3 ≤ height → ∀ element ∈ nxml.longElements cc, ∃ string,
    element.bind nxml.getString = some (some string)
  /-- None of the others is empty. -/
  notNull : ∀ element ∈ nxml.longElements cc, element.bind nxml.getString ≠ some none

/-- **What a call is to do**: it returns, if it returns zero, all that is printed was assigned,
and else it returns a negative value. -/
def Retrieves (code : Str) (unit : WeatherUnit) (height : Int) : Prop :=
  ∃ ret data, nxml.retrieveWeatherData code (some .uninitialised) unit = .ok (ret, some data)
    ∧ (ret = 0 → data.Printable height) ∧ (ret ≠ 0 → ret < 0)

variable {nxml}

/-- **A value is taken** unless the text of its element is `NULL`. -/
theorem readValue_eq_ok_iff {α : Type} {element : Option ε} {convert : Str → α}
    {old value : Option α} :
    nxml.readValue element convert old = .ok value ↔
      element.bind nxml.getString ≠ some none
        ∧ value = ((element.bind nxml.getString).join.map convert).or old := by
  unfold readValue
  rcases element.bind nxml.getString with _ | _ | string
  · exact ⟨fun h => ⟨nofun, (Except.ok.inj h).symm⟩, fun h => congrArg Except.ok h.2.symm⟩
  · exact ⟨nofun, fun h => absurd rfl h.1⟩
  · exact ⟨fun h => ⟨nofun, (Except.ok.inj h).symm⟩, fun h => congrArg Except.ok h.2.symm⟩

/-- The text of an element, if it is there and can be read. -/
def text (nxml : Nxml ε) (element : Option ε) : Option Str := (element.bind nxml.getString).join

/-- The data that a document gives, on a stack where nothing was assigned. -/
def stored (nxml : Nxml ε) (cc : ε) : StoredData where
  tempC := (nxml.text (nxml.findElement (some cc) "tmp".toList)).map atoi
  tempFlC := (nxml.text (nxml.findElement (some cc) "flik".toList)).map atoi
  humid := (nxml.text (nxml.findElement (some cc) "hmid".toList)).map atoi
  pressure := (nxml.text (nxml.findInside cc "bar".toList "r".toList)).map nxml.atof
  weather := (nxml.text (nxml.findElement (some cc) "t".toList)).map (storeText maxWeatherLen)
  windDir := (nxml.text (nxml.findInside cc "wind".toList "t".toList)).map (storeText maxWindLen)
  windSpeed := (nxml.text (nxml.findInside cc "wind".toList "s".toList)).map atoi

/-- **All values are taken** unless the text of an element is `NULL`. -/
theorem readValues_eq_ok_iff {cc : ε} {data : StoredData} :
    nxml.readValues cc .uninitialised = .ok data ↔
      (∀ element ∈ nxml.shortElements cc ++ nxml.longElements cc,
        element.bind nxml.getString ≠ some none) ∧ data = nxml.stored cc := by
  unfold readValues shortElements longElements StoredData.uninitialised
  simp only [bind_eq_ok_iff, readValue_eq_ok_iff, Option.or_none, List.forall_mem_append,
    List.forall_mem_cons, List.not_mem_nil, false_implies, implies_true, and_true]
  constructor
  · rintro ⟨_, ⟨htmp, rfl⟩, _, ⟨hflik, rfl⟩, _, ⟨hhmid, rfl⟩, _, ⟨ht, rfl⟩, _, ⟨hbar, rfl⟩, _,
      ⟨hspeed, rfl⟩, _, ⟨hdir, rfl⟩, hdata⟩
    exact ⟨⟨⟨htmp, hhmid, ht, hspeed, hdir⟩, hflik, hbar⟩, (Except.ok.inj hdata).symm⟩
  · rintro ⟨⟨⟨htmp, hhmid, ht, hspeed, hdir⟩, hflik, hbar⟩, rfl⟩
    exact ⟨_, ⟨htmp, rfl⟩, _, ⟨hflik, rfl⟩, _, ⟨hhmid, rfl⟩, _, ⟨ht, rfl⟩, _, ⟨hbar, rfl⟩, _,
      ⟨hspeed, rfl⟩, _, ⟨hdir, rfl⟩, rfl⟩

/-- There is a text exactly if there is one that can be read. -/
theorem isSome_text_iff {element : Option ε} :
    (nxml.text element).isSome = true
      ↔ ∃ string, element.bind nxml.getString = some (some string) := by
  unfold text
  rcases element.bind nxml.getString with _ | _ | string
  · exact ⟨nofun, nofun⟩
  · exact ⟨nofun, fun ⟨_, h⟩ => nomatch h⟩
  · exact ⟨fun _ => ⟨string, rfl⟩, fun _ => rfl⟩

/-- A text that is stored ends in its array, and is only stored if there is one. -/
theorem exists_stored_iff {n : ℕ} (hn : 0 < n) {element : Option ε} :
    (∃ bytes, (nxml.text element).map (storeText n) = some bytes ∧ '\x00' ∈ bytes)
      ↔ (nxml.text element).isSome = true := by
  cases nxml.text element with
  | none => exact ⟨nofun, nofun⟩
  | some string => exact ⟨fun _ => rfl, fun _ => ⟨_, rfl, nul_mem_storeText hn string⟩⟩

/-- **What is stored can be printed** exactly if each of the elements has a text. -/
theorem printable_stored_iff {cc : ε} {height : Int} :
    (nxml.stored cc).Printable height ↔
      (∀ element ∈ nxml.shortElements cc, ∃ string,
        element.bind nxml.getString = some (some string))
      ∧ (3 ≤ height → ∀ element ∈ nxml.longElements cc, ∃ string,
        element.bind nxml.getString = some (some string)) := by
  have hassigned : ∀ {α : Type} (element : Option ε) (convert : Str → α),
      ((nxml.text element).map convert).isSome = true
        ↔ ∃ string, element.bind nxml.getString = some (some string) := by
    intro α element convert
    rw [Option.isSome_map, isSome_text_iff]
  have hends : ∀ {n : ℕ} (element : Option ε), 0 < n →
      ((∃ bytes, (nxml.text element).map (storeText n) = some bytes ∧ '\x00' ∈ bytes)
        ↔ ∃ string, element.bind nxml.getString = some (some string)) :=
    fun element hn => (exists_stored_iff hn).trans isSome_text_iff
  unfold shortElements longElements
  simp only [List.forall_mem_cons, List.not_mem_nil, false_implies, implies_true, and_true]
  constructor
  · rintro ⟨htmp, hhmid, hspeed, ht, hdir, hflik, hbar⟩
    exact ⟨⟨(hassigned _ _).mp htmp, (hassigned _ _).mp hhmid, (hends _ (by decide)).mp ht,
      (hassigned _ _).mp hspeed, (hends _ (by decide)).mp hdir⟩,
      fun h => ⟨(hassigned _ _).mp (hflik h), (hassigned _ _).mp (hbar h)⟩⟩
  · rintro ⟨⟨htmp, hhmid, ht, hspeed, hdir⟩, hlong⟩
    exact ⟨(hassigned _ _).mpr htmp, (hassigned _ _).mpr hhmid, (hassigned _ _).mpr hspeed,
      (hends _ (by decide)).mpr ht, (hends _ (by decide)).mpr hdir,
      fun h => (hassigned _ _).mpr (hlong h).1, fun h => (hassigned _ _).mpr (hlong h).2⟩

/-- **The values can all be taken and printed** exactly if the element answers for them. -/
theorem exists_readValues_iff {cc : ε} {height : Int} :
    (∃ data, nxml.readValues cc .uninitialised = .ok data ∧ data.Printable height)
      ↔ nxml.Answers cc height := by
  constructor
  · rintro ⟨data, hread, hprintable⟩
    obtain ⟨hnull, rfl⟩ := readValues_eq_ok_iff.mp hread
    obtain ⟨hshort, hlong⟩ := printable_stored_iff.mp hprintable
    exact ⟨hshort, hlong, fun element hmem => hnull element (List.mem_append_right _ hmem)⟩
  · intro h
    refine ⟨nxml.stored cc, readValues_eq_ok_iff.mpr ⟨?_, rfl⟩,
      printable_stored_iff.mpr ⟨h.short, h.long⟩⟩
    refine List.forall_mem_append.mpr ⟨fun element hmem hnull => ?_, h.notNull⟩
    obtain ⟨string, hstring⟩ := h.short element hmem
    exact nomatch hnull.symm.trans hstring

/-- **When a call does what it is to do**: if the document cannot be read, or has no element for
the current conditions, or answers for all that is printed. -/
theorem retrieves_iff (nxml : Nxml ε) (code : Str) (unit : WeatherUnit) (height : Int) :
    nxml.Retrieves code unit height ↔
      ∀ root, nxml.parseUrl (weatherUrl code unit) = some root →
        ∀ cc, nxml.findElement root "cc".toList = some cc → nxml.Answers cc height := by
  have hfails : ∃ ret data, Except.ok (-1, some StoredData.uninitialised)
      = (Except.ok (ret, some data) : Except Fault (Int × Option StoredData))
      ∧ (ret = 0 → data.Printable height) ∧ (ret ≠ 0 → ret < 0) :=
    ⟨-1, .uninitialised, rfl, fun h => absurd h (by decide), fun _ => by decide⟩
  unfold Retrieves retrieveWeatherData
  dsimp only
  cases hroot : nxml.parseUrl (weatherUrl code unit) with
  | none => exact ⟨fun _ root h => (nomatch h), fun _ => hfails⟩
  | some root =>
    cases hcc : nxml.findElement root "cc".toList with
    | none =>
      rw [Option.bind_some, hcc]
      refine ⟨fun _ root' hroot' cc hcc' => ?_, fun _ => hfails⟩
      obtain rfl := Option.some.inj hroot'
      exact nomatch hcc.symm.trans hcc'
    | some cc =>
      rw [Option.bind_some, hcc]
      constructor
      · rintro ⟨ret, data, hret, hprintable, -⟩ root' hroot' cc' hcc'
        obtain rfl := Option.some.inj hroot'
        obtain rfl := Option.some.inj (hcc.symm.trans hcc')
        obtain ⟨data', hread, hpair⟩ := bind_eq_ok_iff.mp hret
        obtain ⟨rfl, hdata⟩ := Prod.mk.inj (Except.ok.inj hpair)
        obtain rfl := Option.some.inj hdata
        exact exists_readValues_iff.mp ⟨_, hread, hprintable rfl⟩
      · intro h
        obtain ⟨data, hread, hprintable⟩ := exists_readValues_iff.mpr (h root rfl cc hcc)
        exact ⟨0, data, bind_eq_ok_iff.mpr ⟨data, hread, rfl⟩, fun _ => hprintable,
          fun hne => absurd rfl hne⟩

/-- **A document without a temperature**: the element for the current conditions is empty, and the
call returns zero. -/
theorem not_retrieves_of_no_tmp :
    ¬ ∀ (nxml : Nxml ℕ) (code : Str) (unit : WeatherUnit) (height : Int),
      nxml.Retrieves code unit height := by
  intro h
  -- element 0 is the root, and element 1 the one for the current conditions
  let nxml : Nxml ℕ := ⟨fun _ => some (some 0),
    fun parent name => if parent = some 0 ∧ name = "cc".toList then some 1 else none,
    fun _ => some none, id⟩
  obtain ⟨ret, data, hret, hprintable, -⟩ := h nxml "GMXX0007".toList .metric 4
  have hzero : nxml.retrieveWeatherData "GMXX0007".toList (some .uninitialised) .metric
      = .ok (0, some .uninitialised) := by decide +kernel
  obtain ⟨rfl, hdata⟩ := Prod.mk.inj (Except.ok.inj (hzero.symm.trans hret))
  obtain rfl := Option.some.inj hdata
  exact nomatch (hprintable rfl).tempC

end Nxml

/-! ## What is on the display -/

/-- What is read from memory; where nothing was assigned, it is what happens to be there. -/
def StoredData.read (data : StoredData) (garbage : WeatherData) : WeatherData where
  tempC := data.tempC.getD garbage.tempC
  tempFlC := data.tempFlC.getD garbage.tempFlC
  humid := data.humid.getD garbage.humid
  pressure := data.pressure.getD garbage.pressure
  weather := (data.weather.map (List.takeWhile (· ≠ '\x00'))).getD garbage.weather
  windDir := (data.windDir.map (List.takeWhile (· ≠ '\x00'))).getD garbage.windDir
  windSpeed := data.windSpeed.getD garbage.windSpeed

namespace LcdStuffWeather

variable {ε : Type} {nxml : Nxml ε}

/-- `weather_update`, with what happens to be on its stack. -/
def weatherUpdate (nxml : Nxml ε) (weather : LcdStuffWeather) (city : Str)
    (garbage : WeatherData) : Except Fault (List Command) := do
  let r ← nxml.retrieveWeatherData city (some .uninitialised) weather.unit
  return weather.update (if r.1 = 0 then r.2.map (StoredData.read · garbage) else none)

/-- What can be printed is printed as it was stored. -/
theorem update_read_eq (weather : LcdStuffWeather) {data : StoredData}
    (h : data.Printable weather.screen.lcd.displaySize.height) (garbage garbage' : WeatherData) :
    weather.update (some (data.read garbage)) = weather.update (some (data.read garbage')) := by
  have hsame : ∀ {α : Type} {o : Option α}, o.isSome = true → ∀ a b, o.getD a = o.getD b := by
    intro α o hsome a b
    obtain ⟨c, rfl⟩ := Option.isSome_iff_exists.mp hsome
    rfl
  have htempC : (data.read garbage).tempC = (data.read garbage').tempC := hsame h.tempC _ _
  have hwind : weather.windText (data.read garbage) = weather.windText (data.read garbage') := by
    obtain ⟨bytes, hbytes, -⟩ := h.windDir
    have hwindDir : (data.read garbage).windDir = (data.read garbage').windDir := by
      unfold StoredData.read
      rw [hbytes]
      rfl
    have hhumid : (data.read garbage).humid = (data.read garbage').humid := hsame h.humid _ _
    have hspeed : (data.read garbage).windSpeed = (data.read garbage').windSpeed :=
      hsame h.windSpeed _ _
    unfold windText
    rw [hhumid, hspeed, hwindDir]
  have hweather : (data.read garbage).weather = (data.read garbage').weather := by
    obtain ⟨bytes, hbytes, -⟩ := h.weather
    unfold StoredData.read
    rw [hbytes]
    rfl
  unfold update
  dsimp only
  rw [hweather, hwind]
  split
  · next htall =>
    have htempFlC : (data.read garbage).tempFlC = (data.read garbage').tempFlC :=
      hsame (h.tempFlC htall) _ _
    have hpressure : (data.read garbage).pressure = (data.read garbage').pressure :=
      hsame (h.pressure htall) _ _
    unfold temperatureText
    rw [htempC, htempFlC, hpressure]
  · unfold shortText
    rw [htempC, hwind]

/-- **Nothing that was not assigned is shown**, when a call does what it is to do. -/
theorem weatherUpdate_eq {weather : LcdStuffWeather} {city : Str}
    (h : nxml.Retrieves city weather.unit weather.screen.lcd.displaySize.height)
    (garbage garbage' : WeatherData) :
    weatherUpdate nxml weather city garbage = weatherUpdate nxml weather city garbage' := by
  obtain ⟨ret, data, hret, hprintable, -⟩ := h
  unfold weatherUpdate
  rw [hret]
  show Except.ok (weather.update (if ret = 0 then some (data.read garbage) else none))
    = Except.ok (weather.update (if ret = 0 then some (data.read garbage') else none))
  by_cases hzero : ret = 0
  · rw [if_pos hzero, if_pos hzero, weather.update_read_eq (hprintable hzero) garbage garbage']
  · rw [if_neg hzero, if_neg hzero]

end LcdStuffWeather
