import LcdStuff.CString
import LcdStuff.LineBreaks

/-!
# Screens and the commands that draw them

A module draws its screen by queueing LCDproc commands for the service
thread: it adds a screen with a title widget and one string widget for each
line, and then sets the texts of the widgets. `screen.c` is the only place
that knows how many lines a screen has and which row of the display each of
them is on; a display of at most three rows has no title, and then the lines
begin one row higher.

A queued command is a text for the server. `Command` keeps what the text is
made of, and `Command.render` is the text itself, format by format as the
program writes it, so that what the server reads (`Command.render`) and what
a command is meant to do (`Rows.replay`) are two readings of one value.
-/

/-- **A command for the LCDproc server**, with the arguments its format string
is filled with. -/
inductive Command where
  /-- `screen_add %s \n` -/
  | screenAdd (moduleName : Str)
  /-- `widget_add %s title title\n` -/
  | widgetAddTitle (moduleName : Str)
  /-- `widget_add %s line%d string\n` -/
  | widgetAddLine (moduleName : Str) (line : Int)
  /-- `widget_set %s title {%s}\n` -/
  | widgetSetTitle (moduleName title : Str)
  /-- `widget_set %s line%d 1 %d {%s}\n` -/
  | widgetSetLine (moduleName : Str) (line row : Int) (text : Str)
  /-- `screen_set %s -name %s\n` -/
  | screenSetName (moduleName name : Str)
  /-- `screen_set %s -priority %s\n` -/
  | screenSetPriority (moduleName priority : Str)
  /-- `screen_del %s\n` -/
  | screenDel (moduleName : Str)
  /-- `client_add_key %s\n` -/
  | clientAddKey (key : Str)
  /-- `menu_add_item "" %s menu {%s}\n` -/
  | menuAddMenu (menu label : Str)
  /-- `menu_add_item %s %s_%d action {%s}\n`, the item named after its menu -/
  | menuAddAction (menu : Str) (no : Int) (label : Str)
  /-- `menu_set_item %s %s_%d -menu_result quit\n` -/
  | menuSetQuit (menu : Str) (no : Int)
  /-- `menu_del_item "" %s\n` -/
  | menuDelItem (menu : Str)
  /-- `menu_add_item "" mpd_standby ring "Standby" -strings "%s"\n` -/
  | menuAddStandby (strings : Str)
  /-- `menu_set_item "" mpd_standby -value 0\n` -/
  | menuResetStandby
  deriving DecidableEq, Repr

/-- **The text of a command**, as it is sent. -/
def Command.render : Command → Str
  | .screenAdd m => "screen_add ".toList ++ m ++ " \n".toList
  | .widgetAddTitle m => "widget_add ".toList ++ m ++ " title title\n".toList
  | .widgetAddLine m line =>
    "widget_add ".toList ++ m ++ " line".toList ++ decimal line ++ " string\n".toList
  | .widgetSetTitle m title =>
    "widget_set ".toList ++ m ++ " title ".toList ++ '{' :: (title ++ ['}', '\n'])
  | .widgetSetLine m line row text =>
    "widget_set ".toList ++ m ++ " line".toList ++ decimal line ++ " 1 ".toList
      ++ decimal row ++ " ".toList ++ '{' :: (text ++ ['}', '\n'])
  | .screenSetName m name =>
    "screen_set ".toList ++ m ++ " -name ".toList ++ name ++ "\n".toList
  | .screenSetPriority m priority =>
    "screen_set ".toList ++ m ++ " -priority ".toList ++ priority ++ "\n".toList
  | .screenDel m => "screen_del ".toList ++ m ++ "\n".toList
  | .clientAddKey key => "client_add_key ".toList ++ key ++ "\n".toList
  | .menuAddMenu menu label =>
    "menu_add_item \"\" ".toList ++ menu ++ " menu ".toList
      ++ '{' :: (label ++ ['}', '\n'])
  | .menuAddAction menu no label =>
    "menu_add_item ".toList ++ menu ++ " ".toList ++ menu ++ "_".toList ++ decimal no
      ++ " action ".toList ++ '{' :: (label ++ ['}', '\n'])
  | .menuSetQuit menu no =>
    "menu_set_item ".toList ++ menu ++ " ".toList ++ menu ++ "_".toList ++ decimal no
      ++ " -menu_result quit\n".toList
  | .menuDelItem menu => "menu_del_item \"\" ".toList ++ menu ++ "\n".toList
  | .menuAddStandby strings =>
    "menu_add_item \"\" mpd_standby ring \"Standby\" -strings \"".toList ++ strings
      ++ "\"\n".toList
  | .menuResetStandby => "menu_set_item \"\" mpd_standby -value 0\n".toList

/-- What `service_thread_command` queues of the commands handed to it, with
`g_exit` as it is: nothing once the program is to end. -/
def Command.queued (gExit : Bool) (cmds : List Command) : List Command :=
  if gExit then [] else cmds

@[simp] theorem Command.queued_false (cmds : List Command) :
    Command.queued false cmds = cmds := rfl

/-- `struct size`: the display in characters. -/
structure Size where
  /-- Characters in a row. -/
  width : Int
  /-- Rows. -/
  height : Int
  deriving DecidableEq, Repr

/-- What the modules read of `struct lcd_stuff`. -/
structure LcdStuff where
  /-- `display_size` -/
  displaySize : Size
  /-- `no_title` -/
  noTitle : Bool
  deriving DecidableEq, Repr

/-- `struct screen`: the screen of a module. -/
structure Screen where
  /-- `lcd` -/
  lcd : LcdStuff
  /-- `module_name` -/
  moduleName : Str
  deriving DecidableEq, Repr

namespace Screen

/-! ## The functions of `screen.c`

Each gives the commands it hands to `service_thread_command`, in order. -/

/-- `screen_calculate_lines` -/
def calculateLines (screen : Screen) : Int :=
  if screen.lcd.noTitle then screen.lcd.displaySize.height
  else screen.lcd.displaySize.height - 1

/-- The lines `0, …, height - 1` that the loops over a screen run through. -/
def lineNumbers (screen : Screen) : List Int :=
  (List.range screen.calculateLines.toNat).map Int.ofNat

/-- `screen_create` -/
def create (lcd : LcdStuff) (name : Str) : Screen × List Command :=
  let screen : Screen := ⟨lcd, name⟩
  (screen, .screenAdd name :: (if lcd.noTitle then [] else [.widgetAddTitle name])
    ++ screen.lineNumbers.map (.widgetAddLine name))

/-- `screen_set_title`; a `NULL` title is no title. -/
def setTitle (screen : Screen) (title : Option Str) : List Command :=
  if screen.lcd.noTitle then []
  else
    match title with
    | none => []
    | some title => [.widgetSetTitle screen.moduleName title]

/-- The row of the display in front of the first line. -/
def titleLine (screen : Screen) : Int := if screen.lcd.noTitle then 0 else 1

/-- `screen_show_text`; a line behind the last one and a `NULL` text are not
shown. -/
def showText (screen : Screen) (line : Int) (text : Option Str) : List Command :=
  if screen.calculateLines ≤ line then []
  else
    match text with
    | none => []
    | some text =>
      [.widgetSetLine screen.moduleName line (line + 1 + screen.titleLine) text]

/-- `screen_clear` -/
def clear (screen : Screen) : List Command :=
  screen.lineNumbers.flatMap (fun line => screen.showText line (some []))

/-- `screen_set_name` -/
def setName (screen : Screen) (name : Str) : List Command :=
  [.screenSetName screen.moduleName name]

/-- `screen_set_priority` -/
def setPriority (screen : Screen) (priority : Str) : List Command :=
  [.screenSetPriority screen.moduleName priority]

/-- `screen_destroy` -/
def destroy (screen : Screen) : List Command := [.screenDel screen.moduleName]

variable (screen : Screen)

@[simp] theorem showText_none (line : Int) : screen.showText line none = [] := by
  unfold showText
  split <;> rfl

/-- Without a title the screen has a row more. -/
theorem height_sub_one_le :
    screen.lcd.displaySize.height - 1 ≤ screen.calculateLines := by
  unfold calculateLines
  split <;> omega

/-- A line of the screen is shown. -/
theorem showText_of_lt {line : Int} (h : line < screen.calculateLines) (text : Str) :
    screen.showText line (some text)
      = [.widgetSetLine screen.moduleName line (line + 1 + screen.titleLine) text] := by
  unfold showText
  rw [if_neg (by omega)]

/-- A line behind the last one is not shown. -/
theorem showText_of_le {line : Int} (h : screen.calculateLines ≤ line)
    (text : Option Str) : screen.showText line text = [] := by
  unfold showText
  rw [if_pos h]

/-- The lines of a screen are those from `0` to the number of its lines. -/
theorem mem_lineNumbers {line : Int} :
    line ∈ screen.lineNumbers ↔ 0 ≤ line ∧ line < screen.calculateLines := by
  unfold lineNumbers
  rw [List.mem_map]
  constructor
  · rintro ⟨n, hn, rfl⟩
    rw [List.mem_range] at hn
    exact ⟨Int.natCast_nonneg n, by
      show (n : Int) < _
      omega⟩
  · rintro ⟨h₀, h⟩
    exact ⟨line.toNat, List.mem_range.mpr (by omega), Int.toNat_of_nonneg h₀⟩

end Screen

/-! ## What the commands put on the display -/

/-- What the string widgets of a screen show: the text of each row. -/
abbrev Rows := Int → Str

namespace Rows

/-- A command sets the row it was formatted with, if it is for the screen of
module `m`. -/
def carryOut (m : Str) (rows : Rows) : Command → Rows
  | .widgetSetLine m' _ row text => if m' = m then Function.update rows row text else rows
  | _ => rows

/-- **The rows after a list of commands**, carried out in order. -/
def replay (m : Str) (rows : Rows) (cmds : List Command) : Rows :=
  cmds.foldl (carryOut m) rows

variable (screen : Screen)

theorem replay_append (m : Str) (rows : Rows) (cmds cmds' : List Command) :
    replay m rows (cmds ++ cmds') = replay m (replay m rows cmds) cmds' :=
  List.foldl_append

/-- Setting the title leaves the lines as they are. -/
@[simp] theorem replay_setTitle (m : Str) (rows : Rows) (title : Option Str) :
    replay m rows (screen.setTitle title) = rows := by
  unfold Screen.setTitle
  split
  · rfl
  · cases title <;> rfl

/-- **Showing a text sets the row of its line** and no other. -/
theorem replay_showText {line : Int} (h : line < screen.calculateLines) (rows : Rows)
    (text : Str) :
    replay screen.moduleName rows (screen.showText line (some text))
      = Function.update rows (line + 1 + screen.titleLine) text := by
  rw [Screen.showText_of_lt screen h]
  exact if_pos rfl

/-- The row of a line that is not touched keeps its text. -/
theorem replay_flatMap_showText_of_notMem (text : Int → Option Str) {ls : List Int}
    {i : Int} (hi : i ∉ ls) (rows : Rows) :
    replay screen.moduleName rows (ls.flatMap (fun l => screen.showText l (text l)))
        (i + 1 + screen.titleLine)
      = rows (i + 1 + screen.titleLine) := by
  induction ls generalizing rows with
  | nil => rfl
  | cons l ls ih =>
    rw [List.mem_cons, not_or] at hi
    rw [List.flatMap_cons, replay_append, ih hi.2]
    by_cases hl : l < screen.calculateLines
    · cases htext : text l with
      | none =>
        rw [Screen.showText_none]
        rfl
      | some t =>
        rw [replay_showText screen hl, Function.update_of_ne]
        have hne : i ≠ l := hi.1
        omega
    · rw [Screen.showText_of_le screen (by omega)]
      rfl

/-- **The row of a line shows the text it was given**, when lines are shown one
after the other. -/
theorem replay_flatMap_showText (text : Int → Option Str) {ls : List Int}
    (hls : ls.Nodup) {i : Int} (hi : i ∈ ls) (hlt : i < screen.calculateLines)
    {t : Str} (ht : text i = some t) (rows : Rows) :
    replay screen.moduleName rows (ls.flatMap (fun l => screen.showText l (text l)))
        (i + 1 + screen.titleLine) = t := by
  induction ls generalizing rows with
  | nil => exact absurd hi (by simp)
  | cons l ls ih =>
    rw [List.nodup_cons] at hls
    rw [List.flatMap_cons, replay_append]
    rcases List.mem_cons.mp hi with rfl | hi
    · rw [replay_flatMap_showText_of_notMem screen text hls.1, ht,
        replay_showText screen hlt, Function.update_self]
    · exact ih hls.2 hi _

/-- What a reader sees of the screen: the texts of its lines, row by row. -/
def read (rows : Rows) : Str :=
  screen.lineNumbers.flatMap (fun line => rows (line + 1 + screen.titleLine))

/-- **Lines set one to a row are read as they are**, when there is a row for
each of them. -/
theorem read_eq_flatten {rows : Rows} {ls : List Str}
    (hrows : ∀ i : ℕ, (i : Int) < screen.calculateLines →
      rows (i + 1 + screen.titleLine) = ls.getD i [])
    (hls : (ls.length : Int) ≤ screen.calculateLines) : rows.read screen = ls.flatten := by
  rw [← LineBreaks.flatMap_getD_range ls (n := screen.calculateLines.toNat) (by omega)]
  unfold read Screen.lineNumbers
  rw [List.flatMap_map]
  refine List.flatMap_congr (fun i hi => hrows i ?_)
  rw [List.mem_range] at hi
  omega

/-- The numbers of the lines of a screen are distinct. -/
theorem nodup_map_ofNat_range (n : ℕ) : ((List.range n).map Int.ofNat).Nodup :=
  List.Pairwise.map _ (fun _ _ hne h => hne (Int.ofNat.inj h)) List.nodup_range

/-- **Clearing empties every line.** -/
theorem replay_clear (rows : Rows) {i : Int} (h₀ : 0 ≤ i) (hi : i < screen.calculateLines) :
    replay screen.moduleName rows screen.clear (i + 1 + screen.titleLine) = [] := by
  exact replay_flatMap_showText screen (fun _ => some []) (nodup_map_ofNat_range _)
    ((Screen.mem_lineNumbers screen).mpr ⟨h₀, hi⟩) hi rfl rows

end Rows
