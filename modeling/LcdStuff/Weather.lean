import LcdStuff.Screen

/-!
# The weather module

`weather.c` shows what `weatherlib.c` has taken from the document that the
weather service returns. The pressure is a floating-point number that is only
printed, so it is here what `%.1f` prints for it.
-/

/-- `enum unit` -/
inductive WeatherUnit where
  /-- `UNIT_METRIC` -/
  | metric
  /-- `UNIT_IMPERIAL` -/
  | imperial
  deriving DecidableEq, Repr

/-- `enum weather_type` -/
inductive WeatherType where
  /-- `TYPE_TEMPERATURE` -/
  | temperature
  /-- `TYPE_PRESSURE` -/
  | pressure
  /-- `TYPE_WINDSPEED` -/
  | windspeed
  /-- `TYPE_HUMIDITY` -/
  | humidity
  deriving DecidableEq, Repr

/-- `get_unit_for_type` -/
def getUnitForType : WeatherUnit → WeatherType → Str
  | .metric, .temperature => "C".toList
  | .metric, .pressure => "hPa".toList
  | .metric, .windspeed => "km/h".toList
  | .metric, .humidity => "%".toList
  | .imperial, .temperature => "F".toList
  | .imperial, .pressure => "in".toList
  | .imperial, .windspeed => "mph".toList
  | .imperial, .humidity => "%".toList

/-- `struct weather_data` -/
structure WeatherData where
  /-- `temp_c` -/
  tempC : Int
  /-- `temp_fl_c` -/
  tempFlC : Int
  /-- `humid` -/
  humid : Int
  /-- `pressure_hPa`, as `%.1f` prints it -/
  pressure : Str
  /-- `weather` -/
  weather : Str
  /-- `wind_dir` -/
  windDir : Str
  /-- `wind_speed` -/
  windSpeed : Int
  deriving DecidableEq, Repr

/-- `struct lcd_stuff_weather`, as far as it is looked at once it is set up. -/
structure LcdStuffWeather where
  /-- `unit` -/
  unit : WeatherUnit
  /-- `screen` -/
  screen : Screen
  deriving DecidableEq, Repr

namespace LcdStuffWeather

/-- `%d%s (%d%s)  %.1f%s`: the temperature and the pressure. -/
def temperatureText (weather : LcdStuffWeather) (data : WeatherData) : Str :=
  decimal data.tempC ++ getUnitForType weather.unit .temperature ++ " (".toList
    ++ decimal data.tempFlC ++ getUnitForType weather.unit .temperature ++ ")  ".toList
    ++ data.pressure ++ getUnitForType weather.unit .pressure

/-- `%d%s  %d%s %s`: the humidity and the wind. -/
def windText (weather : LcdStuffWeather) (data : WeatherData) : Str :=
  decimal data.humid ++ getUnitForType weather.unit .humidity ++ "  ".toList
    ++ decimal data.windSpeed ++ getUnitForType weather.unit .windspeed ++ " ".toList
    ++ data.windDir

/-- `%d%s %d%s  %d%s %s`: the temperature, the humidity and the wind. -/
def shortText (weather : LcdStuffWeather) (data : WeatherData) : Str :=
  decimal data.tempC ++ getUnitForType weather.unit .temperature ++ " ".toList
    ++ weather.windText data

/-- `weather_update`, with what `retrieve_weather_data` has stored, if it
returned zero. -/
def update (weather : LcdStuffWeather) (data : Option WeatherData) : List Command :=
  match data with
  | none => []
  | some data =>
    weather.screen.showText 0 (some data.weather)
      ++ (if 3 ≤ weather.screen.lcd.displaySize.height then
        weather.screen.showText 1 (some (weather.temperatureText data))
          ++ weather.screen.showText 2 (some (weather.windText data))
      else
        weather.screen.showText 1 (some (weather.shortText data))
          ++ weather.screen.showText 2 none)

end LcdStuffWeather
