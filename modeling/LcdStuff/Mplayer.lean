import LcdStuff.Screen

/-!
# The mplayer module

`mplayer.c` starts one `mplayer` at a time for a channel of the configuration
file, tells it through a pipe what to do, and shows what it answers. What a
user wants reaches it in three ways: as a key, as an item of the menu, and as
a command of the remote interface. Each handler either raises a flag that the
next round of the dispatcher looks at, or starts a channel.

The number of the channel is decoded by the handler and checked in
`mplayer_start_program`, which makes sure that it is below the number of
channels but not that it is above zero (`startProgram_isOk_iff`).
-/

/-- `struct channel` -/
structure Channel where
  /-- `name` -/
  name : Str
  /-- `url` -/
  url : Str
  /-- `playlist` -/
  playlist : Bool
  deriving DecidableEq, Repr

/-- `FILE`: a stream, told from every other one that is ever opened. -/
abbrev File := ℕ

/-- `struct program` -/
structure Program where
  /-- `pid` -/
  pid : Int
  /-- `input_stream` -/
  inputStream : Option File
  /-- `output_stream` -/
  outputStream : Option File
  /-- `stop_request` -/
  stopRequest : Bool
  /-- `pause_play_request` -/
  pausePlayRequest : Bool
  /-- `paused` -/
  paused : Bool
  /-- `channel_number` -/
  channelNumber : Int
  deriving DecidableEq, Repr

/-- The program that `memset` leaves. -/
def Program.init : Program := ⟨0, none, none, false, false, false, 0⟩

/-- `struct lcd_stuff_mplayer`; `channel_number` is the number of its
channels. -/
structure LcdStuffMplayer where
  /-- `current` -/
  current : Program
  /-- `channels` -/
  channels : List Channel
  /-- `screen` -/
  screen : Screen
  deriving DecidableEq, Repr

/-- **What a handler asks for.** -/
inductive MplayerRequest where
  /-- `mplayer_start_program (mplayer, no)` -/
  | start (no : Int)
  /-- The names of the channels are written to the socket. -/
  | streams
  /-- `stop_request` is set. -/
  | stop
  /-- `pause_play_request` is set. -/
  | pausePlay
  deriving DecidableEq, Repr

namespace LcdStuffMplayer

/-- `mplayer_key_handler` while a program runs -/
def keyHandler (str : Str) : MplayerRequest :=
  if gAsciiStrcaseEq str "Up".toList then .pausePlay else .stop

/-- `mplayer_menu_handler`; the event and the argument are not looked at. -/
def menuHandler (id : Str) : Option MplayerRequest :=
  if id = [] then none
  else
    match gStrsplit id "_".toList 2 with
    | [name, no] =>
      if gAsciiStrcaseEq name "ch".toList then some (.start (wrapInt (atoi no - 1)))
      else none
    | _ => none

/-- `mplayer_net_handler` -/
def netHandler (args : List Str) : Option MplayerRequest :=
  match args with
  | [] => none
  | arg :: rest =>
    if startsWith arg "streams".toList then some .streams
    else
      match startsWith arg "play".toList, rest with
      | true, no :: _ => some (.start (atoi no))
      | _, _ =>
        if startsWith arg "stop".toList then some .stop
        else if startsWith arg "pause_play".toList then some .pausePlay
        else none

/-- The arguments that `mplayer_start_program` starts `mplayer` with. -/
def programArgs (channel : Channel) : List Str :=
  ["mplayer".toList, "-quiet".toList, "-slave".toList]
    ++ (if channel.playlist then ["-playlist".toList] else []) ++ [channel.url]

/-- `mplayer_start_program` up to `g_spawn_async_with_pipes`: the arguments of
the program that is to be started, if one is. -/
def startProgram (mplayer : LcdStuffMplayer) (no : Int) :
    Except Fault (Option (List Str)) :=
  if (mplayer.channels.length : Int) ≤ no then .ok none
  else if 0 < mplayer.current.pid then .ok none
  else do
    let channel ← readAt mplayer.channels no
    return some (programArgs channel)

/-- A request as it is carried out, up to the start of a program. -/
def carryOut (mplayer : LcdStuffMplayer) :
    Option MplayerRequest → Except Fault (Option (List Str))
  | some (.start no) => mplayer.startProgram no
  | _ => .ok none

/-! ## What is shown of the program -/

/-- What `mplayer_update_metainfo` copies out of a line that begins with
`start`: what follows it, without the quotation marks that are expected around
it and without the newline. In a line that ends behind `start` the copy begins
behind the end, where `stale` is. -/
def answerText (start stale buffer : Str) : Except Fault Str :=
  let text := if start.length < buffer.length then buffer.drop (start.length + 1) else stale
  if text.length < 2 then .error (.outOfBounds ((text.length : Int) - 2) text.length)
  else .ok (text.take (text.length - 2))

/-- The loop of `mplayer_update_metainfo` that reads up to the answer that
begins with `start`: the text of the answer, and the lines not read yet. -/
def readAnswer (start stale : Str) : List Str → Except Fault (Option Str × List Str)
  | [] => .ok (none, [])
  | buffer :: output =>
    if startsWith buffer start then do
      let text ← answerText start stale buffer
      return (some text, output)
    else readAnswer start stale output

/-- The artist and the title that `mplayer_update_metainfo` reads from the
output of the program, if `fprintf` could write to its input. -/
def metaAnswers (written : Bool) (stale : Str → Str) (output : List Str) :
    Except Fault (Option Str × Option Str) :=
  if written then do
    let (artist, output) ←
      readAnswer "ANS_META_ARTIST=".toList (stale "ANS_META_ARTIST=".toList) output
    let (title, _) ←
      readAnswer "ANS_META_TITLE=".toList (stale "ANS_META_TITLE=".toList) output
    return (artist, title)
  else .ok (none, none)

/-- The name of the channel is shown, if its number is one of a channel. -/
def showName (mplayer : LcdStuffMplayer) : List Command :=
  match readAt mplayer.channels mplayer.current.channelNumber with
  | .ok channel => mplayer.screen.showText 0 (some channel.name)
  | .error _ => []

/-- The end of `mplayer_update_metainfo`, which shows what there is to show. -/
def showMetainfo (mplayer : LcdStuffMplayer) (artist title : Option Str) : List Command :=
  mplayer.showName ++ mplayer.screen.showText 1 (some (artist.getD []))
    ++ mplayer.screen.showText 2 (some (title.getD []))

/-- `mplayer_update_metainfo` -/
def updateMetainfo (mplayer : LcdStuffMplayer) (written : Bool) (stale : Str → Str)
    (output : List Str) : Except Fault (List Command) :=
  if mplayer.current.inputStream = none ∨ mplayer.current.outputStream = none then .ok []
  else do
    let (artist, title) ← metaAnswers written stale output
    return mplayer.showMetainfo artist title

/-! ## Which channel is started -/

/-- **When a channel is looked up where there is one**: unless the number is
negative and no program runs. -/
theorem startProgram_isOk_iff (mplayer : LcdStuffMplayer) (no : Int) :
    (∃ args, mplayer.startProgram no = .ok args) ↔ 0 ≤ no ∨ 0 < mplayer.current.pid := by
  unfold startProgram
  by_cases hlen : (mplayer.channels.length : Int) ≤ no
  · rw [if_pos hlen]
    exact ⟨fun _ => .inl (by omega), fun _ => ⟨none, rfl⟩⟩
  · rw [if_neg hlen]
    by_cases hpid : 0 < mplayer.current.pid
    · rw [if_pos hpid]
      exact ⟨fun _ => .inr hpid, fun _ => ⟨none, rfl⟩⟩
    · rw [if_neg hpid]
      constructor
      · rintro ⟨args, hargs⟩
        obtain ⟨channel, hread, -⟩ := bind_eq_ok_iff.mp hargs
        exact .inl ((readAt_isOk_iff _ no).mp ⟨channel, hread⟩).1
      · intro h
        obtain ⟨channel, hread⟩ := (readAt_isOk_iff mplayer.channels no).mpr
          ⟨h.resolve_right hpid, by omega⟩
        exact ⟨some (programArgs channel), by
          rw [hread]
          rfl⟩

/-- A menu item starts the channel whose number it is, counted from one. -/
theorem menuHandler_eq {id name no : Str} (h : gStrsplit id "_".toList 2 = [name, no])
    (hname : gAsciiStrcaseEq name "ch".toList = true) :
    menuHandler id = some (.start (wrapInt (atoi no - 1))) := by
  unfold menuHandler
  have hne : id ≠ [] := by
    rintro rfl
    exact absurd h (by simp [gStrsplit])
  rw [if_neg hne, h]
  dsimp only
  rw [if_pos hname]

/-- **When a menu item is looked up where there is a channel.** -/
theorem carryOut_menuHandler_isOk_iff (mplayer : LcdStuffMplayer) (id : Str) :
    (∃ args, mplayer.carryOut (menuHandler id) = .ok args)
      ↔ ∀ name no, gStrsplit id "_".toList 2 = [name, no] →
        gAsciiStrcaseEq name "ch".toList = true →
        1 ≤ atoi no ∨ atoi no = -2 ^ 31 ∨ 0 < mplayer.current.pid := by
  constructor
  · intro h name no hsplit hname
    rw [menuHandler_eq hsplit hname] at h
    rcases (mplayer.startProgram_isOk_iff _).mp h with hno | hpid
    · rw [le_wrapInt_atoi_sub_one_iff no (by decide) (by decide)] at hno
      exact hno.imp (fun h => by omega) .inl
    · exact .inr (.inr hpid)
  · intro h
    by_cases hstart : ∃ name no, gStrsplit id "_".toList 2 = [name, no]
        ∧ gAsciiStrcaseEq name "ch".toList = true
    · obtain ⟨name, no, hsplit, hname⟩ := hstart
      rw [menuHandler_eq hsplit hname]
      refine (mplayer.startProgram_isOk_iff _).mpr ?_
      rw [le_wrapInt_atoi_sub_one_iff no (by decide) (by decide), or_assoc]
      exact (h name no hsplit hname).imp_left (fun h => by omega)
    · refine ⟨none, ?_⟩
      have hnone : menuHandler id = none := by
        unfold menuHandler
        split
        · rfl
        · split
          · next name no hsplit =>
            rw [if_neg (fun hname => hstart ⟨name, no, hsplit, hname⟩)]
          · rfl
      rw [hnone]
      rfl

/-- The remote command `play` starts the channel whose number it is given. -/
theorem netHandler_eq {arg no : Str} {rest : List Str}
    (h : startsWith arg "play".toList = true) :
    netHandler (arg :: no :: rest) = some (.start (atoi no)) := by
  have hstreams : startsWith arg "streams".toList = false := by
    obtain ⟨suffix, rfl⟩ := List.isPrefixOf_iff_prefix.mp h
    rfl
  unfold netHandler
  dsimp only
  rw [hstreams, h]
  rfl

/-- **When a remote command is looked up where there is a channel.** -/
theorem carryOut_netHandler_isOk_iff (mplayer : LcdStuffMplayer) (args : List Str) :
    (∃ r, mplayer.carryOut (netHandler args) = .ok r)
      ↔ ∀ arg no rest, args = arg :: no :: rest → startsWith arg "play".toList = true →
        0 ≤ atoi no ∨ 0 < mplayer.current.pid := by
  constructor
  · rintro h arg no rest rfl hplay
    rw [netHandler_eq hplay] at h
    exact (mplayer.startProgram_isOk_iff _).mp h
  · intro h
    by_cases hstart : ∃ arg no rest, args = arg :: no :: rest
        ∧ startsWith arg "play".toList = true
    · obtain ⟨arg, no, rest, rfl, hplay⟩ := hstart
      rw [netHandler_eq hplay]
      exact (mplayer.startProgram_isOk_iff _).mpr (h arg no rest rfl hplay)
    · refine ⟨none, ?_⟩
      unfold netHandler
      split
      · rfl
      · next arg rest =>
        split
        · rfl
        · cases hplay : startsWith arg "play".toList with
          | true =>
            cases rest with
            | nil => dsimp only; split <;> [rfl; split <;> rfl]
            | cons no rest => exact absurd ⟨arg, no, rest, rfl, hplay⟩ hstart
          | false => dsimp only; split <;> [rfl; split <;> rfl]

end LcdStuffMplayer
