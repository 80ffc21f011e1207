import LcdStuff.FromOutside
import LcdStuff.Modules
import LcdStuff.ServiceLoop
import LcdStuff.StepSystem

/-!
# The menu of the playlists

The mpd module asks the daemon for its playlists again and again. When they have
changed it queues the commands that build their menu anew, one after the other, and
stores the new list behind the last of them. Meanwhile the service thread sends what
is in the queue, the server carries out what has arrived, the user selects an item
that is shown, and the line that says so is read and handed to `mpd_menu_handler`,
which looks the item up in the list that is stored then.

The line only says which number the item has. So every command is kept with the list
that it was made from, and an item that was selected with the list of the command
that has added it. In runs in which the list that is looked at has the same name at
that place as the list that the item was made from, the playlist that is loaded is
the one the label said (`PlaylistMenu.loaded_of_reachableBy`).

How the server keeps its menus is a parameter (`MenuServer`): all that is known is
that an item is not shown unless a command has added it. And the handler is taken with
the cookie of the module (`PlaylistMenu.OwnCookie`): the dispatcher looks it up under
the address of the client, where as a rule there is none, and then the handler does not
come to load anything.
-/

/-! ## The handler in two steps -/

namespace LcdStuffMpd

/-- The number of the playlist that an item stands for, counted from zero. -/
def playlistNumber (id : Str) : Option Int :=
  match gStrsplit id "_".toList 2 with
  | [name, no] => if gAsciiStrcaseEq name "pl".toList then some (wrapInt (atoi no - 1)) else none
  | _ => none

/-- What `mpd_menu_handler` tests: that the number is not that of the item that
clears, and that it is below the length of `current_list`. -/
def testPlaylist (mpd : LcdStuffMpd) (id : Str) : Option Int :=
  match playlistNumber id, mpd.currentList with
  | some no, some list => if no ≠ -1 ∧ no < wrapInt list.length then some no else none
  | _, _ => none

/-- What was tested is the number of the item. -/
theorem of_testPlaylist {mpd : LcdStuffMpd} {id : Str} {no : Int}
    (h : mpd.testPlaylist id = some no) : no ≠ -1 ∧ playlistNumber id = some no := by
  unfold testPlaylist at h
  split at h
  · next no' list hnumber hlist =>
    split at h
    · next htest =>
      obtain rfl := Option.some.inj h
      exact ⟨htest.1, hnumber⟩
    · exact absurd h nofun
  · exact absurd h nofun

/-- What it then reads and copies: `g_strconcat (mpd->current_list->pdata[no], NULL)`. -/
def readPlaylist (mpd : LcdStuffMpd) (no : Int) : Except Fault Str :=
  readAt (mpd.currentList.getD []) no

/-- **The two steps make the handler**: where nothing comes between them, it loads
what the second of them reads. -/
theorem mem_menuHandler_iff {mpd mpd' : LcdStuffMpd} {now : Int} {id arg : Str}
    {calls : List MpdCall} (h : mpd.menuHandler now id arg = .ok (mpd', calls))
    (hlength : ∀ list ∈ mpd.currentList, list.length < 2 ^ 31) (name : Str) :
    .playlistQueueLoad name ∈ calls
      ↔ ∃ no, mpd.testPlaylist id = some no ∧ mpd.readPlaylist no = .ok name := by
  unfold testPlaylist readPlaylist
  by_cases hload : ∃ name no, gStrsplit id "_".toList 2 = [name, no]
      ∧ gAsciiStrcaseEq name "pl".toList = true
  · -- an item of the menu
    obtain ⟨item, no, hsplit, hitem⟩ := hload
    have hnumber : playlistNumber id = some (wrapInt (atoi no - 1)) := by
      unfold playlistNumber
      rw [hsplit]
      exact if_pos hitem
    rw [mpd.menuHandler_eq now arg hsplit hitem] at h
    obtain ⟨loaded, hloaded, hpair⟩ := bind_eq_ok_iff.mp h
    obtain rfl : loaded = calls := (Prod.mk.inj (Except.ok.inj hpair)).2
    rw [mem_loadPlaylist_iff hloaded, hnumber]
    cases hlist : mpd.currentList with
    | none =>
      exact ⟨fun ⟨_, _, hnone, _⟩ => absurd hnone nofun, fun ⟨_, hnone, _⟩ => absurd hnone nofun⟩
    | some list =>
      have hwrap : wrapInt list.length = list.length := by
        have hlt := hlength list hlist
        exact wrapInt_of_mem (by omega) (by omega)
      dsimp only
      rw [hwrap]
      constructor
      · rintro ⟨hclear, list', hlist', hno, hread⟩
        obtain rfl := Option.some.inj hlist'
        exact ⟨_, if_pos ⟨hclear, hno⟩, hread⟩
      · rintro ⟨no', hno', hread⟩
        split at hno'
        · next htest =>
          obtain rfl := Option.some.inj hno'
          exact ⟨htest.1, list, rfl, htest.2, hread⟩
        · exact absurd hno' nofun
  · -- any other item
    have hnil : calls = [] := eq_nil_of_menuHandler h (fun name no hsplit =>
      Bool.eq_false_iff.mpr (fun hname => hload ⟨name, no, hsplit, hname⟩))
    have hnumber : playlistNumber id = none := by
      unfold playlistNumber
      split
      · next item no hsplit =>
        exact if_neg (fun hitem => hload ⟨item, no, hsplit, hitem⟩)
      · rfl
    rw [hnil, hnumber]
    exact ⟨fun hmem => absurd hmem List.not_mem_nil, fun ⟨_, hnone, _⟩ => absurd hnone nofun⟩

end LcdStuffMpd

/-! ## The server -/

/-- **A server that keeps menus**: what it shows of the items of the playlist menu,
with their numbers and labels, after the commands that it has carried out. An item is
shown only if it was shown before or the command adds it, for a label that is one
argument of the command. -/
structure MenuServer where
  /-- What it keeps. -/
  State : Type
  /-- What it begins with. -/
  init : State
  /-- A command is carried out. -/
  carryOut : State → Command → State
  /-- The items that are shown. -/
  shown : State → List (Int × Str)
  /-- There is none at first. -/
  shown_init : shown init = []
  /-- An item is shown that was shown before, or that is added. -/
  shown_carryOut : ∀ state cmd,
    (∀ menu no label, cmd = .menuAddAction menu no label → Clean label) →
    ∀ item ∈ shown (carryOut state cmd),
      item ∈ shown state ∨ cmd = .menuAddAction "mpd_pl".toList item.1 item.2

namespace MenuServer

/-- The menu of the playlists, if there is one, and its items: what is there
already is not added, what is not there is not deleted, and a menu that is deleted
takes its items with it. -/
def carryOutMenu (menu : Option (List (Int × Str))) : Command → Option (List (Int × Str))
  | .menuAddMenu name _ => if name = "mpd_pl".toList then some (menu.getD []) else menu
  | .menuAddAction name no label => menu.map (fun items =>
      if name = "mpd_pl".toList ∧ ∀ item ∈ items, item.1 ≠ no then items ++ [(no, label)]
      else items)
  | .menuDelItem name => if name = "mpd_pl".toList then none else menu
  | _ => menu

/-- **A server with that menu.** -/
def playlistMenu : MenuServer where
  State := Option (List (Int × Str))
  init := none
  carryOut := carryOutMenu
  shown menu := menu.getD []
  shown_init := rfl
  shown_carryOut menu cmd _ item hitem := by
    cases cmd with
    | menuAddMenu name label =>
      refine .inl ?_
      unfold carryOutMenu at hitem
      dsimp only at hitem
      split at hitem <;> exact hitem
    | menuAddAction name no label =>
      unfold carryOutMenu at hitem
      cases menu with
      | none => exact .inl hitem
      | some items =>
        dsimp only [Option.map_some, Option.getD_some] at hitem
        split at hitem
        · next h =>
          rcases List.mem_append.mp hitem with hitem | hitem
          · exact .inl hitem
          · obtain rfl := List.mem_singleton.mp hitem
            exact .inr (by rw [h.1])
        · exact .inl hitem
    | menuDelItem name =>
      refine .inl ?_
      unfold carryOutMenu at hitem
      dsimp only at hitem
      split at hitem
      · exact absurd hitem List.not_mem_nil
      · exact hitem
    | _ => exact .inl hitem

end MenuServer

/-! ## The system -/

/-- **An item that was selected**, with the list that it was made from. -/
structure Selection where
  /-- Its number. -/
  no : Int
  /-- Its label, when it was selected. -/
  label : Str
  /-- The list. -/
  made : List Str
  deriving DecidableEq, Repr

/-- The line that the server sends for an item that was selected. -/
def Selection.line (no : Int) : Str := "menuevent select mpd_pl_".toList ++ decimal no

/-- **The playlists on their way**: from the daemon over the queue to the server, and
from there back to the handler. -/
structure PlaylistMenu (server : MenuServer) where
  /-- The service thread. -/
  loop : ServiceLoop LcdModule
  /-- `g_exit` -/
  gExit : Bool
  /-- The mpd module. -/
  mpd : LcdStuffMpd
  /-- `new_list` in `mpd_update_playlist_menu`, and the commands that are left. -/
  update : Option (List Str × List Command)
  /-- The queue, each command with the list that it was made from. -/
  queue : List (Command × List Str)
  /-- The command that is being sent. -/
  sending : Option (Command × List Str)
  /-- The commands that were sent and not carried out yet. -/
  transit : List (Command × List Str)
  /-- The server. -/
  shows : server.State
  /-- The commands that it has carried out. -/
  carried : List (Command × List Str)
  /-- The lines of the server that were not read yet, each with what was selected. -/
  wire : List (Str × Option Selection)
  /-- What was selected, of the line that was read last. -/
  selection : Option Selection
  /-- The number in `mpd_menu_handler` behind its test. -/
  handler : Option Int
  /-- The playlists that were loaded for a selection, the latest first, each behind
  the label. -/
  log : List (Str × Str)

/-- **What can happen next.** -/
inductive PlaylistAct where
  /-- `g_exit` is set. -/
  | exit
  /-- `mpd_get_playlists` returns, and what is to be queued is known. -/
  | getPlaylists (list : List Str)
  /-- `service_thread_command` -/
  | push
  /-- `current_list` is set to the new list. -/
  | assign
  /-- The service thread takes a command out of the queue. -/
  | pop
  /-- It has sent it, or a `noop`, or it could not. -/
  | sent (ok : Bool)
  /-- It reads a line. -/
  | receive
  /-- It takes another step, outside of the menu handler. -/
  | service (input : LoopInput)
  /-- It takes a step in the menu handler. -/
  | handle
  /-- The server carries out a command. -/
  | carryOut
  /-- The server sends a line: an answer, or what has nothing to do with the menu. -/
  | sends (line : Str)
  /-- The user selects an item that is shown. -/
  | select (no : Int) (label : Str)
  deriving DecidableEq, Repr

/-- What the service thread does without a command, without a line of the server and
without having sent. -/
def LoopInput.alone : LoopInput → Bool
  | .go | .popped none | .received .nothing | .received .failed | .packet _ => true
  | .popped (some _) | .received (.line _) | .sent _ => false

namespace PlaylistMenu

variable {server : MenuServer}

/-- The item that `mpd_menu_handler` is called with, where it is. -/
def menuCall (bytes : LcdModule → Str) (s : PlaylistMenu server) : Option Str :=
  match s.loop.pc with
  | .call _ ⟨client, .menu _ (some id) _, some .mpd⟩ =>
    if client = LcdModule.mpd.client bytes then some id else none
  | _ => none

/-- The list that an item was made from that is shown: that of the last command that
has added it. -/
def madeFrom (s : PlaylistMenu server) (no : Int) (label : Str) : List Str :=
  match s.carried.reverse.find? (fun c => c.1 = .menuAddAction "mpd_pl".toList no label) with
  | some c => c.2
  | none => []

/-- A step in `mpd_menu_handler`, which was called with an item: the test, or what it
reads. -/
def handleStep (s : PlaylistMenu server) (id : Str) : Option (PlaylistMenu server) :=
  match s.handler with
  | none =>
    match s.mpd.testPlaylist id with
    | some no => some { s with handler := some no }
    | none => (s.loop.step s.gExit .go).map (fun loop => { s with loop := loop })
  | some no =>
    -- the list may be another one by now, or too short
    match s.mpd.readPlaylist no with
    | .ok name => (s.loop.step s.gExit .go).map (fun loop => { s with
        loop := loop
        handler := none
        log := (s.selection.map (fun selection => (selection.label, name))).toList ++ s.log })
    | .error _ => none

/-- **A step.** -/
def step (bytes : LcdModule → Str) (s : PlaylistMenu server) :
    PlaylistAct → Option (PlaylistMenu server)
  | .exit => some { s with gExit := true }
  | .getPlaylists list =>
    match s.update with
    | none => some { s with update := some (list, (s.mpd.updatePlaylistMenu list).2) }
    | some _ => none
  | .push =>
    match s.update with
    | some (list, cmd :: rest) => some { s with
        update := some (list, rest)
        queue := if s.gExit then s.queue else s.queue ++ [(cmd, list)] }
    | _ => none
  | .assign =>
    -- the commands need not have been sent, let alone carried out
    match s.update with
    | some (list, []) => some { s with mpd := (s.mpd.updatePlaylistMenu list).1, update := none }
    | _ => none
  | .pop =>
    match s.queue with
    | c :: rest => (s.loop.step s.gExit (.popped (some c.1.render))).map (fun loop => { s with
        loop := loop
        queue := rest
        sending := some c })
    | [] => none
  | .sent ok => (s.loop.step s.gExit (.sent ok)).map (fun loop => { s with
      loop := loop
      sending := none
      transit := if ok then s.transit ++ s.sending.toList else s.transit })
  | .receive =>
    match s.wire with
    | (line, selection) :: rest =>
      (s.loop.step s.gExit (.received (.line line))).map (fun loop => { s with
        loop := loop
        wire := rest
        selection := selection })
    | [] => none
  | .service input =>
    if input.alone = true ∧ s.menuCall bytes = none then
      (s.loop.step s.gExit input).map (fun loop => { s with
        loop := loop
        selection := match input with | .packet _ => none | _ => s.selection })
    else none
  | .handle => (s.menuCall bytes).bind s.handleStep
  | .carryOut =>
    match s.transit with
    | c :: rest => some { s with
        transit := rest
        shows := server.carryOut s.shows c.1
        carried := s.carried ++ [c] }
    | [] => none
  | .sends line => some { s with wire := s.wire ++ [(line, none)] }
  | .select no label =>
    if (no, label) ∈ server.shown s.shows then
      some { s with wire := s.wire ++
        [(Selection.line no, some ⟨no, label, s.madeFrom no label⟩)] }
    else none

/-- The mpd module has registered, and has no list yet. -/
def init (server : MenuServer) (bytes : LcdModule → Str) (mpd : LcdStuffMpd) :
    PlaylistMenu server where
  loop := ⟨ServiceThread.init.registerClient false (LcdModule.mpd.client bytes) (some .mpd), 0,
    .test⟩
  gExit := false
  mpd := { mpd with currentList := none }
  update := none
  queue := []
  sending := none
  transit := []
  shows := server.init
  carried := []
  wire := []
  selection := none
  handler := none
  log := []

/-- **The handler gets the cookie of the module**: it is found under what the memory of
its client reads as. -/
def OwnCookie (server : MenuServer) (bytes : LcdModule → Str) (mpd : LcdStuffMpd) : Prop :=
  (init server bytes mpd).loop.svc.clientData (LcdModule.mpd.client bytes).bytes = some .mpd

/-- The playlists on their way, with a server and a module. -/
def system (server : MenuServer) (bytes : LcdModule → Str) (mpd : LcdStuffMpd) :
    StepSystem (PlaylistMenu server) PlaylistAct := ⟨init server bytes mpd, step bytes⟩

/-- The list that is looked at has the same name at the place of an item as the list
that the item was made from, and the number of the item fits into an `int`. -/
def Current (s : PlaylistMenu server) (selection : Selection) : Prop :=
  selection.no < 2 ^ 31 ∧ ∀ list ∈ s.mpd.currentList,
    list[(selection.no - 1).toNat]? = selection.made[(selection.no - 1).toNat]?

instance (s : PlaylistMenu server) (selection : Selection) : Decidable (s.Current selection) :=
  inferInstanceAs (Decidable (_ ∧ _))

/-- **No item is stale when its playlist is read**, and every name is one argument of
its command. -/
def InTime (s : PlaylistMenu server) : PlaylistAct → Prop
  | .getPlaylists list => ∀ name ∈ list, Clean name
  | .handle => s.handler ≠ none → ∀ selection ∈ s.selection, s.Current selection
  | _ => True

instance (s : PlaylistMenu server) (act : PlaylistAct) : Decidable (s.InTime act) :=
  match act with
  | .getPlaylists list => inferInstanceAs (Decidable (∀ name ∈ list, Clean name))
  | .handle => inferInstanceAs
      (Decidable (s.handler ≠ none → ∀ selection ∈ s.selection, s.Current selection))
  | .exit | .push | .assign | .pop | .sent _ | .receive | .service _ | .carryOut | .sends _
  | .select .. => inferInstanceAs (Decidable True)

end PlaylistMenu

/-! ## From a label to the number -/

/-- The event that the line for an item becomes. -/
def Selection.event (no : Int) : Event :=
  .menu "select".toList (some ("pl".toList ++ '_' :: decimal no)) []

/-- **The line for an item becomes its event**, if it becomes one. -/
theorem Selection.event_of_mem_selects {loop : ServiceLoop LcdModule} {no : Int} {d : Dispatch}
    (h : d ∈ loop.selects (.received (.line (Selection.line no)))) : d.event = event no := by
  have hdispatch := loop.svc.lcdDispatch_select "mpd".toList "pl".toList (by decide) (by decide) no
  have hline : Selection.line no = "menuevent select ".toList
      ++ ("mpd".toList ++ '_' :: "pl".toList ++ '_' :: decimal no) := by
    have hstart : "menuevent select mpd_pl_".toList
        = "menuevent select ".toList ++ ("mpd".toList ++ '_' :: "pl".toList ++ ['_']) := by
      decide
    unfold Selection.line
    rw [hstart, List.append_assoc, List.append_assoc, List.append_assoc]
    rfl
  unfold ServiceLoop.selects at h
  dsimp only at h
  rw [hline, hdispatch] at h
  obtain ⟨client, -, hclient⟩ := Option.bind_eq_some_iff.mp h
  split at hclient
  · obtain rfl := Option.some.inj hclient
    rfl
  · exact absurd hclient nofun

/-- **The number of an item is read back** and counted from zero. -/
theorem LcdStuffMpd.playlistNumber_decimal {no : Int} (hlow : 0 ≤ no) (hhigh : no < 2 ^ 31) :
    playlistNumber ("pl".toList ++ '_' :: decimal no) = some (no - 1) := by
  obtain ⟨n, rfl⟩ := Int.eq_ofNat_of_zero_le hlow
  have hsplit : gStrsplit ("pl".toList ++ '_' :: decimal n) "_".toList 2
      = ["pl".toList, decimal n] := gStrsplit_two_append (by decide)
  have hatoi := atoi_decimal_append (n := n) (by omega) (t := []) nofun
  rw [List.append_nil] at hatoi
  unfold playlistNumber
  rw [hsplit]
  dsimp only
  rw [if_pos (show gAsciiStrcaseEq "pl".toList "pl".toList = true from rfl), hatoi,
    wrapInt_of_mem (by omega) (by omega)]

/-! ## What was queued -/

/-- The items that a command adds are those of a list, counted from one, and an item
that clears. -/
def MadeFrom (list : List Str) (cmd : Command) : Prop :=
  ∀ menu no label, cmd = .menuAddAction menu no label →
    Clean label ∧ 0 ≤ no ∧ (0 < no → list[(no - 1).toNat]? = some label)

/-- **What `mpd_update_playlist_menu` queues is made from its list.** -/
theorem madeFrom_updatePlaylistMenu (mpd : LcdStuffMpd) {list : List Str}
    (hclean : ∀ name ∈ list, Clean name) :
    ∀ cmd ∈ (mpd.updatePlaylistMenu list).2, MadeFrom list cmd := by
  have hmenu : ∀ cmd ∈ LcdStuffMpd.playlistMenu list, MadeFrom list cmd := by
    intro cmd hcmd menu no label heq
    subst heq
    have hcmd := (List.mem_cons.mp hcmd).resolve_left nofun
    rcases List.mem_cons.mp hcmd with hcmd | hcmd
    · obtain ⟨-, rfl, rfl⟩ := Command.menuAddAction.inj hcmd
      exact ⟨by decide, Int.le_refl 0, fun h => absurd h (Int.lt_irrefl 0)⟩
    · obtain ⟨i, hi, heq⟩ := List.mem_mapIdx.mp hcmd
      obtain ⟨-, rfl, rfl⟩ := Command.menuAddAction.inj heq
      refine ⟨hclean _ (List.getElem_mem hi), by omega, fun _ => ?_⟩
      rw [show ((i : Int) + 1 - 1).toNat = i by omega]
      exact List.getElem?_eq_getElem hi
  intro cmd hcmd
  unfold LcdStuffMpd.updatePlaylistMenu at hcmd
  dsimp only at hcmd
  split at hcmd
  · exact hmenu cmd hcmd
  · split at hcmd
    · exact absurd hcmd List.not_mem_nil
    · rcases List.mem_cons.mp hcmd with rfl | hcmd
      · exact fun _ _ _ heq => absurd heq nofun
      · exact hmenu cmd hcmd

/-- The label of an item that was selected is the name in the list that it was made
from. -/
def Selection.Sound (selection : Selection) : Prop :=
  0 ≤ selection.no ∧ (0 < selection.no →
    selection.made[(selection.no - 1).toNat]? = some selection.label)

namespace PlaylistMenu

variable {server : MenuServer} {bytes : LcdModule → Str} {s s' : PlaylistMenu server}

/-- **What holds of the playlists on their way.** -/
structure Labelled (bytes : LcdModule → Str) (s : PlaylistMenu server) : Prop where
  /-- What is left to be queued is made from the new list. -/
  update : ∀ u ∈ s.update, ∀ cmd ∈ u.2, MadeFrom u.1 cmd
  /-- What is in the queue is made from the list it is kept with. -/
  queue : ∀ c ∈ s.queue, MadeFrom c.2 c.1
  /-- So is what is being sent. -/
  sending : ∀ c ∈ s.sending, MadeFrom c.2 c.1
  /-- So is what was sent. -/
  transit : ∀ c ∈ s.transit, MadeFrom c.2 c.1
  /-- So is what was carried out. -/
  carried : ∀ c ∈ s.carried, MadeFrom c.2 c.1
  /-- What is shown was added. -/
  shown : ∀ item ∈ server.shown s.shows,
    ∃ c ∈ s.carried, c.1 = .menuAddAction "mpd_pl".toList item.1 item.2
  /-- The lines of what was selected say its number. -/
  wire : ∀ e ∈ s.wire, ∀ selection ∈ e.2,
    e.1 = Selection.line selection.no ∧ selection.Sound
  /-- What is under way for a selection is its event. -/
  selection : ∀ selection ∈ s.selection, selection.Sound
    ∧ ∀ p ∈ s.loop.pc.pending, p.2 = Selection.event selection.no
  /-- The number behind the test is that of the item of the call. -/
  handler : ∀ no ∈ s.handler, no ≠ -1
    ∧ ∃ id, s.menuCall bytes = some id ∧ LcdStuffMpd.playlistNumber id = some no
  /-- What was loaded is what the labels said. -/
  log : ∀ entry ∈ s.log, entry.2 = entry.1

/-- The menu handler is called with the item of the event that is under way. -/
theorem pending_of_menuCall {id : Str} (h : s.menuCall bytes = some id) :
    ∃ client event arg, (client, Event.menu event (some id) arg) ∈ s.loop.pc.pending := by
  unfold menuCall at h
  split at h
  · next client event id' arg hpc =>
    split at h
    · obtain rfl := Option.some.inj h
      exact ⟨client, event, arg, by rw [hpc]; rfl⟩
    · exact absurd h nofun
  · exact absurd h nofun

/-- Outside of the call nothing is behind the test. -/
theorem Labelled.handler_eq_none (h : Labelled bytes s) (hcall : s.menuCall bytes = none) :
    s.handler = none := by
  cases hhandler : s.handler with
  | none => rfl
  | some no =>
    obtain ⟨-, id, hid, -⟩ := h.handler no hhandler
    rw [hcall] at hid
    exact absurd hid nofun

/-- Where the service thread takes something in, it is not in the menu handler. -/
theorem menuCall_eq_none {input : LoopInput} {loop : ServiceLoop LcdModule}
    (h : s.loop.step s.gExit input = some loop) (hinput : input ≠ .go) :
    s.menuCall bytes = none := by
  have hpending := ServiceLoop.pending_eq_none_of_step h hinput
  cases hcall : s.menuCall bytes with
  | none => rfl
  | some id =>
    obtain ⟨client, event, arg, hmem⟩ := pending_of_menuCall hcall
    rw [hpending] at hmem
    exact absurd hmem (Option.not_mem_none _)

/-- A step of the service thread that reads no line of the server. -/
theorem Labelled.of_loop (h : Labelled bytes s) {input : LoopInput} {loop : ServiceLoop LcdModule}
    (hstep : s.loop.step s.gExit input = some loop) (hselects : s.loop.selects input = none)
    (hcall : s.menuCall bytes = none) :
    Labelled bytes { s with loop := loop } where
  update := h.update
  queue := h.queue
  sending := h.sending
  transit := h.transit
  carried := h.carried
  shown := h.shown
  wire := h.wire
  selection selection hselection := by
    refine ⟨(h.selection selection hselection).1, fun p hp => ?_⟩
    rcases ServiceLoop.pending_of_step hstep hp with hp | ⟨d, hd, -⟩
    · exact (h.selection selection hselection).2 p hp
    · rw [hselects] at hd
      exact absurd hd (Option.not_mem_none d)
  handler no hno := by
    rw [h.handler_eq_none hcall] at hno
    exact absurd hno (Option.not_mem_none no)
  log := h.log

/-- An update is begun. -/
theorem Labelled.getPlaylists (h : Labelled bytes s) {list : List Str}
    (hclean : ∀ name ∈ list, Clean name)
    (hstep : s.step bytes (.getPlaylists list) = some s') : Labelled bytes s' := by
  unfold PlaylistMenu.step at hstep
  dsimp only at hstep
  split at hstep
  · obtain rfl := Option.some.inj hstep
    refine { h with update := fun u hu => ?_ }
    obtain rfl := Option.some.inj hu
    exact madeFrom_updatePlaylistMenu s.mpd hclean
  · exact absurd hstep nofun

/-- A command is queued. -/
theorem Labelled.push (h : Labelled bytes s) (hstep : s.step bytes .push = some s') :
    Labelled bytes s' := by
  unfold PlaylistMenu.step at hstep
  dsimp only at hstep
  split at hstep
  · next list cmd rest hupdate =>
    obtain rfl := Option.some.inj hstep
    obtain ⟨hcmd, hrest⟩ := List.forall_mem_cons.mp (h.update _ hupdate)
    refine { h with update := fun u hu => ?_, queue := ?_ }
    · obtain rfl := Option.some.inj hu
      exact hrest
    · dsimp only
      split
      · exact h.queue
      · exact List.forall_mem_append.mpr ⟨h.queue, List.forall_mem_singleton.mpr hcmd⟩
  · exact absurd hstep nofun

/-- The new list is stored. -/
theorem Labelled.assign (h : Labelled bytes s) (hstep : s.step bytes .assign = some s') :
    Labelled bytes s' := by
  unfold PlaylistMenu.step at hstep
  dsimp only at hstep
  split at hstep
  · obtain rfl := Option.some.inj hstep
    exact { h with update := fun _ hu => absurd hu (Option.not_mem_none _) }
  · exact absurd hstep nofun

/-- The service thread takes a command out of the queue. -/
theorem Labelled.pop (h : Labelled bytes s) (hstep : s.step bytes .pop = some s') :
    Labelled bytes s' := by
  unfold PlaylistMenu.step at hstep
  dsimp only at hstep
  split at hstep
  · next c rest hqueue =>
    obtain ⟨loop, hloop, rfl⟩ := Option.map_eq_some_iff.mp hstep
    obtain ⟨hc, hrest⟩ := List.forall_mem_cons.mp (hqueue ▸ h.queue)
    have hlabelled := h.of_loop hloop rfl (menuCall_eq_none hloop nofun)
    refine { hlabelled with queue := hrest, sending := fun c' hc' => ?_ }
    obtain rfl := Option.some.inj hc'
    exact hc
  · exact absurd hstep nofun

/-- The service thread has sent a command, or could not. -/
theorem Labelled.sent (h : Labelled bytes s) {ok : Bool}
    (hstep : s.step bytes (.sent ok) = some s') : Labelled bytes s' := by
  obtain ⟨loop, hloop, rfl⟩ := Option.map_eq_some_iff.mp hstep
  have hlabelled := h.of_loop hloop rfl (menuCall_eq_none hloop nofun)
  refine { hlabelled with
    sending := fun _ hc => absurd hc (Option.not_mem_none _), transit := ?_ }
  dsimp only
  split
  · refine List.forall_mem_append.mpr ⟨h.transit, fun c hc => h.sending c ?_⟩
    exact Option.mem_toList.mp hc
  · exact h.transit

/-- **A line is read**, and what it says was selected. -/
theorem Labelled.receive (h : Labelled bytes s) (hstep : s.step bytes .receive = some s') :
    Labelled bytes s' := by
  unfold PlaylistMenu.step at hstep
  dsimp only at hstep
  split at hstep
  · next line selection rest hwire =>
    obtain ⟨loop, hloop, rfl⟩ := Option.map_eq_some_iff.mp hstep
    obtain ⟨hline, hrest⟩ := List.forall_mem_cons.mp (hwire ▸ h.wire)
    refine { h with wire := hrest, selection := fun sel hsel => ?_, handler := fun no hno => ?_ }
    · obtain ⟨rfl, hsound⟩ := hline sel hsel
      refine ⟨hsound, fun p hp => ?_⟩
      rcases ServiceLoop.pending_of_step hloop hp with hp | ⟨d, hd, rfl⟩
      · rw [ServiceLoop.pending_eq_none_of_step hloop nofun] at hp
        exact absurd hp (Option.not_mem_none p)
      · exact Selection.event_of_mem_selects hd
    · rw [h.handler_eq_none (menuCall_eq_none hloop nofun)] at hno
      exact absurd hno (Option.not_mem_none no)
  · exact absurd hstep nofun

/-- The service thread takes another step outside of the menu handler. -/
theorem Labelled.service (h : Labelled bytes s) {input : LoopInput}
    (hstep : s.step bytes (.service input) = some s') : Labelled bytes s' := by
  unfold PlaylistMenu.step at hstep
  dsimp only at hstep
  split at hstep
  · next hinput =>
    obtain ⟨halone, hcall⟩ := hinput
    obtain ⟨loop, hloop, rfl⟩ := Option.map_eq_some_iff.mp hstep
    cases input with
    | go => exact h.of_loop hloop rfl hcall
    | popped command => exact h.of_loop hloop rfl hcall
    | sent ok => exact absurd halone nofun
    | received received =>
      cases received with
      | line string => exact absurd halone nofun
      | nothing | failed => exact h.of_loop hloop rfl hcall
    | packet buffer =>
      -- what is called now was not selected by the user
      refine { h with
        selection := fun _ hsel => absurd hsel (Option.not_mem_none _)
        handler := fun no hno => ?_ }
      rw [h.handler_eq_none hcall] at hno
      exact absurd hno (Option.not_mem_none no)
  · exact absurd hstep nofun

/-- Behind the call of the menu handler nothing is under way. -/
theorem pending_eq_none_of_menuCall {id : Str} (hcall : s.menuCall bytes = some id)
    {loop : ServiceLoop LcdModule} (hstep : s.loop.step s.gExit .go = some loop) :
    loop.pc.pending = none := by
  unfold menuCall at hcall
  split at hcall
  · next reader client event id' arg hpc =>
    unfold ServiceLoop.step at hstep
    dsimp only at hstep
    rw [hpc] at hstep
    obtain rfl := Option.some.inj hstep
    exact LoopPc.pending_of_quiet (s.loop.respond_frame reader .callback).2
  · exact absurd hcall nofun

/-- **What is read for a selection that is not stale is what its label said.** -/
theorem Labelled.name_eq_label (h : Labelled bytes s) {no : Int} (hhandler : s.handler = some no)
    {selection : Selection} (hselection : s.selection = some selection)
    (hcurrent : s.Current selection) {name : Str} (hread : s.mpd.readPlaylist no = .ok name) :
    name = selection.label := by
  obtain ⟨hclear, id, hcall, hnumber⟩ := h.handler no hhandler
  obtain ⟨⟨hlow, hmade⟩, hevent⟩ := h.selection selection hselection
  obtain ⟨hhigh, hcurrent⟩ := hcurrent
  -- the number in the handler is that of the item that was selected
  obtain ⟨client, event, arg, hpending⟩ := pending_of_menuCall hcall
  obtain ⟨-, hid, -⟩ := Event.menu.inj (hevent _ hpending)
  obtain rfl := Option.some.inj hid
  rw [LcdStuffMpd.playlistNumber_decimal hlow hhigh] at hnumber
  have hno : selection.no - 1 = no := Option.some.inj hnumber
  have hmade := hmade (by omega)
  -- and the list has the same name at its place
  obtain ⟨n, rfl⟩ := Int.eq_ofNat_of_zero_le (a := no) (by omega)
  have hfound := getElem?_of_readAt hread
  cases hlist : s.mpd.currentList with
  | none =>
    rw [hlist] at hfound
    exact absurd hfound nofun
  | some list =>
    rw [hlist] at hfound
    have hsame := hcurrent list hlist
    rw [hmade, hno, Int.toNat_natCast] at hsame
    exact Option.some.inj (hfound.symm.trans hsame)

/-- **A step in the menu handler.** What it reads for a selection that is not stale is
what the label said. -/
theorem Labelled.handle (h : Labelled bytes s) (hintime : s.InTime .handle)
    (hstep : s.step bytes .handle = some s') : Labelled bytes s' := by
  obtain ⟨id, hcall, hstep⟩ := Option.bind_eq_some_iff.mp hstep
  have hproceed : ∀ {loop : ServiceLoop LcdModule}, s.loop.step s.gExit .go = some loop →
      ∀ selection ∈ s.selection, selection.Sound
        ∧ ∀ p ∈ loop.pc.pending, p.2 = Selection.event selection.no := by
    intro loop hloop selection hselection
    refine ⟨(h.selection selection hselection).1, fun p hp => ?_⟩
    rw [pending_eq_none_of_menuCall hcall hloop] at hp
    exact absurd hp (Option.not_mem_none p)
  unfold handleStep at hstep
  cases hhandler : s.handler with
  | none =>
    -- the test
    rw [hhandler] at hstep
    dsimp only at hstep
    split at hstep
    · next no htest =>
      obtain rfl := Option.some.inj hstep
      refine { h with handler := fun no' hno' => ?_ }
      obtain rfl := Option.some.inj hno'
      obtain ⟨hclear, hnumber⟩ := LcdStuffMpd.of_testPlaylist htest
      exact ⟨hclear, id, hcall, hnumber⟩
    · obtain ⟨loop, hloop, rfl⟩ := Option.map_eq_some_iff.mp hstep
      refine { h with selection := hproceed hloop, handler := fun no hno => ?_ }
      exact absurd (hhandler ▸ hno) (Option.not_mem_none no)
  | some no =>
    -- what is read
    rw [hhandler] at hstep
    dsimp only at hstep
    split at hstep
    · next name hread =>
      obtain ⟨loop, hloop, rfl⟩ := Option.map_eq_some_iff.mp hstep
      refine { h with
        selection := hproceed hloop
        handler := fun no hno => absurd hno (Option.not_mem_none no)
        log := List.forall_mem_append.mpr ⟨fun entry hentry => ?_, h.log⟩ }
      obtain ⟨selection, hselection, rfl⟩ := Option.map_eq_some_iff.mp (Option.mem_toList.mp hentry)
      exact h.name_eq_label hhandler hselection
        (hintime (by rw [hhandler]; exact Option.some_ne_none no) selection hselection) hread
    · exact absurd hstep nofun

/-- The server carries out a command. -/
theorem Labelled.carryOut (h : Labelled bytes s) (hstep : s.step bytes .carryOut = some s') :
    Labelled bytes s' := by
  unfold PlaylistMenu.step at hstep
  dsimp only at hstep
  split at hstep
  · next c rest htransit =>
    obtain rfl := Option.some.inj hstep
    obtain ⟨hc, hrest⟩ := List.forall_mem_cons.mp (htransit ▸ h.transit)
    refine { h with
      transit := hrest
      carried := List.forall_mem_append.mpr ⟨h.carried, List.forall_mem_singleton.mpr hc⟩
      shown := fun item hitem => ?_ }
    have hclean : ∀ menu no label, c.1 = .menuAddAction menu no label → Clean label :=
      fun menu no label heq => (hc menu no label heq).1
    rcases server.shown_carryOut s.shows c.1 hclean item hitem with hitem | hadds
    · obtain ⟨c', hc', hadds⟩ := h.shown item hitem
      exact ⟨c', List.mem_append_left _ hc', hadds⟩
    · exact ⟨c, List.mem_append_right _ (List.mem_singleton_self c), hadds⟩
  · exact absurd hstep nofun

/-- **An item that is shown has the name at its place in the list that it was made
from.** -/
theorem Labelled.sound_of_shown (h : Labelled bytes s) {no : Int} {label : Str}
    (hshown : (no, label) ∈ server.shown s.shows) :
    Selection.Sound ⟨no, label, s.madeFrom no label⟩ := by
  obtain ⟨c, hc, hadds⟩ := h.shown _ hshown
  unfold madeFrom
  cases hfind : s.carried.reverse.find?
      (fun c => c.1 = .menuAddAction "mpd_pl".toList no label) with
  | none =>
    have hno := List.find?_eq_none.mp hfind c (List.mem_reverse.mpr hc)
    exact absurd (decide_eq_true hadds) hno
  | some c' =>
    have hmem := List.mem_reverse.mp (List.mem_of_find?_eq_some hfind)
    have hadds' : c'.1 = .menuAddAction "mpd_pl".toList no label :=
      of_decide_eq_true (List.find?_some hfind :)
    exact (h.carried c' hmem _ no label hadds').2

/-- **The user selects an item that is shown.** -/
theorem Labelled.select (h : Labelled bytes s) {no : Int} {label : Str}
    (hstep : s.step bytes (.select no label) = some s') : Labelled bytes s' := by
  unfold PlaylistMenu.step at hstep
  dsimp only at hstep
  split at hstep
  · next hshown =>
    obtain rfl := Option.some.inj hstep
    refine { h with
      wire := List.forall_mem_append.mpr
        ⟨h.wire, List.forall_mem_singleton.mpr (fun selection hselection => ?_)⟩ }
    obtain rfl := Option.some.inj hselection
    exact ⟨rfl, h.sound_of_shown hshown⟩
  · exact absurd hstep nofun

/-- **A step in which nothing stale is read** keeps what holds of the playlists on
their way. -/
theorem Labelled.step (h : Labelled bytes s) {act : PlaylistAct} (hintime : s.InTime act)
    (hstep : s.step bytes act = some s') : Labelled bytes s' := by
  cases act with
  | exit =>
    obtain rfl := Option.some.inj hstep
    exact { h with }
  | getPlaylists list => exact h.getPlaylists hintime hstep
  | push => exact h.push hstep
  | assign => exact h.assign hstep
  | pop => exact h.pop hstep
  | sent ok => exact h.sent hstep
  | receive => exact h.receive hstep
  | service input => exact h.service hstep
  | handle => exact h.handle hintime hstep
  | carryOut => exact h.carryOut hstep
  | sends line =>
    obtain rfl := Option.some.inj hstep
    refine { h with
      wire := List.forall_mem_append.mpr
        ⟨h.wire, List.forall_mem_singleton.mpr (fun _ hnone => ?_)⟩ }
    exact absurd hnone (Option.not_mem_none _)
  | select no label => exact h.select hstep

theorem labelled_init (server : MenuServer) (bytes : LcdModule → Str) (mpd : LcdStuffMpd) :
    Labelled bytes (init server bytes mpd) where
  update _ h := absurd h (Option.not_mem_none _)
  queue _ h := absurd h List.not_mem_nil
  sending _ h := absurd h (Option.not_mem_none _)
  transit _ h := absurd h List.not_mem_nil
  carried _ h := absurd h List.not_mem_nil
  shown item h := by
    rw [show server.shown (init server bytes mpd).shows = [] from server.shown_init] at h
    exact absurd h List.not_mem_nil
  wire _ h := absurd h List.not_mem_nil
  selection _ h := absurd h (Option.not_mem_none _)
  handler _ h := absurd h (Option.not_mem_none _)
  log _ h := absurd h List.not_mem_nil

/-! ## The playlist that is loaded -/

/-- **The playlist that is loaded is the one that the label said**, when the handler
gets the cookie of the module, in every run in which every name is one argument of its
command and, whenever the name of a selected item is read, the list still has at that
place the name that the list had which the item was made from. -/
theorem loaded_of_reachableBy {server : MenuServer} {bytes : LcdModule → Str} {mpd : LcdStuffMpd}
    (_hcookie : OwnCookie server bytes mpd) {s : PlaylistMenu server}
    (hs : (system server bytes mpd).ReachableBy InTime s) :
    ∀ entry ∈ s.log, entry.2 = entry.1 :=
  (hs.invariant (Labelled bytes) (labelled_init server bytes mpd)
    (fun _ _ _ hI hP h => hI.step hP h)).log

/-- A command is queued, sent and carried out, in a round of the loop. -/
def deliver : List PlaylistAct :=
  [.service .go, .pop, .sent true, .carryOut, .sends "success".toList, .receive,
    .service (.packet none)]

/-- What the daemon has is fetched, queued and stored. -/
def refresh (list : List Str) (commands : ℕ) : List PlaylistAct :=
  .getPlaylists list :: List.replicate commands .push ++ [.assign]

/-- A playlist is selected when its menu was built, and loaded. -/
theorem loaded_of_reachableBy_select :
    ∃ s : PlaylistMenu .playlistMenu, (system .playlistMenu (fun _ => "mpd".toList)
        ⟨.stop, false, none, 0, none, ⟨⟨⟨20, 4⟩, false⟩, "mpd".toList⟩⟩).ReachableBy InTime s
      ∧ s.log ≠ [] ∧ ∀ entry ∈ s.log, entry.2 = entry.1 := by
  let mpd : LcdStuffMpd := ⟨.stop, false, none, 0, none, ⟨⟨⟨20, 4⟩, false⟩, "mpd".toList⟩⟩
  have hcookie : OwnCookie .playlistMenu (fun _ => "mpd".toList) mpd := rfl
  let sys := system .playlistMenu (fun _ => "mpd".toList) mpd
  let run := sys.replay InTime sys.init (refresh ["rock".toList] 3 ++ deliver ++ deliver ++ deliver
    ++ [.select 1 "rock".toList, .service .go, .service (.popped none), .receive, .service .go,
      .handle, .handle])
  have hrun : run.map (fun s => decide (s.log ≠ [])) = some true := by decide +kernel
  obtain ⟨s, hs, hlog⟩ := StepSystem.exists_reachableBy_of_replay hrun
  exact ⟨s, hs, of_decide_eq_true hlog, loaded_of_reachableBy hcookie hs⟩

/-- The list is replaced between the selection and the line that says so. -/
theorem not_forall_loaded :
    ¬ ∀ (server : MenuServer) (bytes : LcdModule → Str) (mpd : LcdStuffMpd),
      OwnCookie server bytes mpd →
      ∀ s : PlaylistMenu server, (system server bytes mpd).Reachable s →
        ∀ entry ∈ s.log, entry.2 = entry.1 := by
  intro h
  let mpd : LcdStuffMpd := ⟨.stop, false, none, 0, none, ⟨⟨⟨20, 4⟩, false⟩, "mpd".toList⟩⟩
  have hcookie : OwnCookie .playlistMenu (fun _ => "mpd".toList) mpd := rfl
  let sys := system .playlistMenu (fun _ => "mpd".toList) mpd
  let run := sys.replayAny sys.init (refresh ["rock".toList] 3 ++ deliver ++ deliver ++ deliver
    ++ [.select 1 "rock".toList] ++ refresh ["jazz".toList] 4
    ++ [.service .go, .pop, .sent true, .receive, .service .go, .handle, .handle])
  have hrun : run.map PlaylistMenu.log = some [("rock".toList, "jazz".toList)] := by
    decide +kernel
  obtain ⟨s, hs, hlog⟩ := StepSystem.exists_reachableBy_of_replay hrun
  have hentry := h _ _ _ hcookie s hs ("rock".toList, "jazz".toList)
    (hlog ▸ List.mem_singleton_self _)
  exact absurd hentry (by decide)

end PlaylistMenu
