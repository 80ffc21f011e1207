import LcdStuff.FromOutside
import LcdStuff.Widgets

/-!
# The server that keeps the screens

The server that the program draws on is a program of its own. All that is known of it here is
what its protocol says of the commands of `screen.c`, and only of those which it can read: an
argument in braces must have no brace, backslash or newline in it (`Clean`), and any other must be
one word (`IsArgWord`). What it makes of a command that it cannot read is left open, and so is
everything else about it (`ScreenServer`).

The commands of the modules arrive in one queue. As long as all of them can be read, the screen of
a module depends on its own commands only (`ScreenServer.screen_replay`).
-/

/-! ## Commands that can be read -/

/-- An argument that is not in braces: one word. -/
def IsArgWord (w : Str) : Prop :=
  w ≠ [] ∧ ∀ c ∈ w, c ∉ [' ', '\t', '\r', '\n', '"', '{', '}', '\\']

instance (w : Str) : Decidable (IsArgWord w) :=
  @instDecidableAnd _ _ _
    (List.decidableBAll (fun c => c ∉ [' ', '\t', '\r', '\n', '"', '{', '}', '\\']) w)

/-- The names of the priorities that a screen can have. -/
def screenPriorities : List Str :=
  ["hidden".toList, "background".toList, "info".toList, "foreground".toList, "alert".toList,
    "input".toList]

namespace Command

/-- **A command can be read**: each of its arguments is read as the one that was meant. -/
def Readable : Command → Prop
  | .screenAdd m | .widgetAddTitle m | .widgetAddLine m _ | .screenDel m => IsArgWord m
  | .widgetSetTitle m title => IsArgWord m ∧ Clean title
  | .widgetSetLine m _ row text => IsArgWord m ∧ 0 < row ∧ Clean text
  | .screenSetName m name => IsArgWord m ∧ IsArgWord name
  | .screenSetPriority m priority => IsArgWord m ∧ priority ∈ screenPriorities
  | .clientAddKey key => IsArgWord key
  | .menuAddMenu menu label | .menuAddAction menu _ label => IsArgWord menu ∧ Clean label
  | .menuSetQuit menu _ | .menuDelItem menu => IsArgWord menu
  | .menuAddStandby _ | .menuResetStandby => True

/-- The module whose screen a command is for. -/
def moduleName : Command → Option Str
  | .screenAdd m | .widgetAddTitle m | .widgetAddLine m _ | .widgetSetTitle m _
  | .widgetSetLine m _ _ _ | .screenSetName m _ | .screenSetPriority m _ | .screenDel m => some m
  | .clientAddKey _ | .menuAddMenu _ _ | .menuAddAction _ _ _ | .menuSetQuit _ _ | .menuDelItem _
  | .menuAddStandby _ | .menuResetStandby => none

/-- The commands for the screen of a module. -/
def ofModule (m : Str) (cmds : List Command) : List Command :=
  cmds.filter (fun cmd => cmd.moduleName = some m)

theorem ofModule_cons_of_eq {m : Str} {cmd : Command} (h : cmd.moduleName = some m)
    (cmds : List Command) : ofModule m (cmd :: cmds) = cmd :: ofModule m cmds :=
  List.filter_cons_of_pos (decide_eq_true h)

theorem ofModule_cons_of_ne {m : Str} {cmd : Command} (h : cmd.moduleName ≠ some m)
    (cmds : List Command) : ofModule m (cmd :: cmds) = ofModule m cmds :=
  List.filter_cons_of_neg (fun heq => h (of_decide_eq_true heq))

end Command

/-! ## Screens -/

/-- **A string widget.** -/
structure LineWidget where
  /-- The row of the display that it was set to, if it was set. -/
  row : Option Int
  /-- Its text. -/
  text : Str
  deriving DecidableEq, Repr

/-- **A screen as the server keeps it.** -/
structure ShownScreen where
  /-- The text of the title widget, if there is one. -/
  title : Option Str
  /-- The string widgets, by their numbers. -/
  lines : Int → Option LineWidget
  /-- The name, if it was set. -/
  name : Option Str
  /-- The priority, if it was set. -/
  priority : Option Str

namespace ShownScreen

/-- A screen that was just added. -/
def blank : ShownScreen := ⟨none, fun _ => none, none, none⟩

/-- **A text is read on a row**: a widget has it there, or it was not set to anything yet and
there is no text. -/
def Reads (s : ShownScreen) (line row : Int) (text : Str) : Prop :=
  s.lines line = some ⟨some row, text⟩ ∨ s.lines line = some ⟨none, []⟩ ∧ text = []

end ShownScreen

/-- What the protocol says that a command makes of the screen that it is for. A screen or a
widget that is there is not added again, and nothing is set on one that is not. -/
def Command.onScreen : Command → Option ShownScreen → Option ShownScreen
  | .screenAdd _, none => some .blank
  | .widgetAddTitle _, some s => some { s with title := some (s.title.getD []) }
  | .widgetAddLine _ line, some s => some { s with
      lines := Function.update s.lines line (some ((s.lines line).getD ⟨none, []⟩)) }
  | .widgetSetTitle _ title, some s => some { s with title := s.title.map (fun _ => title) }
  | .widgetSetLine _ line row text, some s => some { s with
      lines := Function.update s.lines line ((s.lines line).map (fun _ => ⟨some row, text⟩)) }
  | .screenSetName _ name, some s => some { s with name := some name }
  | .screenSetPriority _ priority, some s => some { s with priority := some priority }
  | .screenDel _, _ => none
  | _, s => s

/-! ## The server -/

/-- **A server that keeps screens**, as far as its protocol tells. -/
structure ScreenServer where
  /-- What it keeps. -/
  State : Type
  /-- What it begins with. -/
  init : State
  /-- A command is carried out. -/
  carryOut : State → Command → State
  /-- The screen of a module, if there is one. -/
  screen : State → Str → Option ShownScreen
  /-- There is none at first. -/
  screen_init : ∀ m, screen init m = none
  /-- A command that can be read changes the screen that it is for, as it is meant to, -/
  screen_carryOut : ∀ state cmd m, cmd.Readable → cmd.moduleName = some m →
    screen (carryOut state cmd) m = cmd.onScreen (screen state m)
  /-- and no other. -/
  screen_carryOut_of_ne : ∀ state cmd m, cmd.Readable → cmd.moduleName ≠ some m →
    screen (carryOut state cmd) m = screen state m

namespace ScreenServer

/-- The server after some commands, one after the other. -/
def replay (server : ScreenServer) (cmds : List Command) : server.State :=
  cmds.foldl server.carryOut server.init

/-- **The screen of a module depends on its own commands only**, as long as all can be read. -/
theorem screen_replay (server : ScreenServer) {cmds : List Command}
    (h : ∀ cmd ∈ cmds, cmd.Readable) (m : Str) :
    server.screen (server.replay cmds) m
      = (Command.ofModule m cmds).foldl (fun s cmd => cmd.onScreen s) none := by
  rw [← server.screen_init m]
  unfold replay
  generalize server.init = state
  induction cmds generalizing state with
  | nil => rfl
  | cons cmd cmds ih =>
    obtain ⟨hcmd, hcmds⟩ := List.forall_mem_cons.mp h
    rw [List.foldl_cons, ih hcmds]
    by_cases hm : cmd.moduleName = some m
    · rw [Command.ofModule_cons_of_eq hm, List.foldl_cons, server.screen_carryOut _ _ _ hcmd hm]
    · rw [Command.ofModule_cons_of_ne hm, server.screen_carryOut_of_ne _ _ _ hcmd hm]

/-- **A server that reads every command as it was meant**, by the modules. -/
def literal : ScreenServer where
  State := Str → Option ShownScreen
  init _ := none
  carryOut state cmd m := if cmd.moduleName = some m then cmd.onScreen (state m) else state m
  screen state m := state m
  screen_init _ := rfl
  screen_carryOut _ _ _ _ hm := if_pos hm
  screen_carryOut_of_ne _ _ _ _ hm := if_neg hm

end ScreenServer
