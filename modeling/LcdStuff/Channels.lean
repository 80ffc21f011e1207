import Mathlib.Data.List.Forall2
import LcdStuff.Mplayer
import LcdStuff.Service

/-!
# The channels of the configuration file

Every key of the group `mplayer` but `name` is a channel. `mplayer_init` runs
through the keys with two indices, of the key and of the entry of `channels`,
and corrects the number of the channels when it comes to `name`; the entries
that have a value are put into the menu, where they are counted from one, and
the remote interface counts them from zero and lists them through a buffer of
1024 bytes.

What the init function stores and queues is a list of operations
(`KeyGroup.initOps`), in the order of the source, because the handlers of the
module may look at the array between any two of them. Here the list is carried
out as a whole (`KeyGroup.mplayerInit`): the array, the menu and the remote
interface agree on every channel exactly when every key has a value and every
name fits into the buffer (`KeyGroup.agree_iff`).
-/

/-- **A group of the configuration file**: its keys in order, each with the value
that `key_file_get_string` returns, or `NULL`. A key stands on a line of the
file. -/
structure KeyGroup where
  /-- The keys and the values. -/
  entries : List (Str × Option Str)
  /-- No key is there twice. -/
  nodup : (entries.map Prod.fst).Nodup
  /-- No key goes over the end of its line. -/
  line : ∀ entry ∈ entries, '\n' ∉ entry.1

/-- `g_ascii_isspace` -/
def gAsciiIsspace (c : Char) : Bool :=
  c ∈ [' ', '\t', '\n', '\x0c', '\r']

/-- `g_strchug` -/
def gStrchug (s : Str) : Str := s.dropWhile gAsciiIsspace

/-- An entry of `channels`; what was not stored yet is `none`. -/
structure ChannelEntry where
  /-- `name` -/
  name : Option Str
  /-- `url` -/
  url : Option Str
  /-- `playlist` -/
  playlist : Option Bool
  deriving DecidableEq, Repr

/-- An entry of which everything was stored. -/
def Channel.entry (channel : Channel) : ChannelEntry :=
  ⟨some channel.name, some channel.url, some channel.playlist⟩

/-- The number of the channels and their array, `NULL` before `g_new`. -/
structure ChannelTable where
  /-- `channel_number` -/
  channelNumber : Int
  /-- `channels` -/
  channels : Option (List ChannelEntry)
  deriving DecidableEq, Repr

/-- **What `mplayer_init` does** that its handlers or the server can see. -/
inductive ChannelsOp where
  /-- `key_file_get_keys` stores the number of the keys. -/
  | getKeys (number : Int)
  /-- `g_new` -/
  | gNew
  /-- `channel_number--` -/
  | decrement
  /-- `channels[j].name` is stored. -/
  | storeName (j : Int) (name : Str)
  /-- `channels[j].playlist` is stored. -/
  | storePlaylist (j : Int) (playlist : Bool)
  /-- `channels[j].url` is stored. -/
  | storeUrl (j : Int) (url : Str)
  /-- `g_strchug (channels[j].url)` -/
  | chugUrl (j : Int)
  /-- `service_thread_command` -/
  | command (cmd : Command)
  deriving DecidableEq, Repr

namespace ChannelTable

/-- The number and the array that `memset` leaves. -/
def init : ChannelTable := ⟨0, none⟩

/-- An entry is changed, if there is one at the index. -/
def store (table : ChannelTable) (j : Int) (f : ChannelEntry → ChannelEntry) :
    Option ChannelTable :=
  match table.channels with
  | none => none
  | some channels =>
    if 0 ≤ j ∧ j < channels.length then
      some { table with channels := some (channels.modify j.toNat f) }
    else none

/-- **An operation is carried out.** There is no table where `g_new` aborts the
program, or where an entry is stored behind the array. For no entries `g_new`
returns `NULL`. -/
def perform (table : ChannelTable) : ChannelsOp → Option ChannelTable
  | .getKeys number => some { table with channelNumber := number }
  | .gNew =>
    if table.channelNumber < 0 then none
    else if table.channelNumber = 0 then some { table with channels := none }
    else some { table with
      channels := some (List.replicate table.channelNumber.toNat ⟨none, none, none⟩) }
  | .decrement => some { table with channelNumber := table.channelNumber - 1 }
  | .storeName j name => table.store j (fun entry => { entry with name := some name })
  | .storePlaylist j playlist =>
    table.store j (fun entry => { entry with playlist := some playlist })
  | .storeUrl j url => table.store j (fun entry => { entry with url := some url })
  | .chugUrl j => table.store j (fun entry => { entry with url := entry.url.map gStrchug })
  | .command _ => some table

/-- Operations are carried out one after the other. -/
def performAll (table : ChannelTable) : List ChannelsOp → Option ChannelTable
  | [] => some table
  | op :: ops => (table.perform op).bind (fun table => table.performAll ops)

end ChannelTable

/-- The commands among the operations. -/
def ChannelsOp.commands (ops : List ChannelsOp) : List Command :=
  ops.filterMap (fun op => match op with
    | .command cmd => some cmd
    | _ => none)

/-- `"mplayer_ch"`, the menu of the channels. -/
def channelMenu : Str := "mplayer_ch".toList

namespace KeyGroup

variable (group : KeyGroup)

/-- `key_file_get_string` -/
def getString (key : Str) : Option Str :=
  (group.entries.find? (fun entry => decide (entry.1 = key))).bind Prod.snd

/-- The loop of `mplayer_init` from the entry `j` on. -/
def loopOps (j : Int) : List Str → List ChannelsOp
  | [] => []
  | key :: keys =>
    if key = "name".toList then .decrement :: loopOps j keys
    else
      .storeName j key ::
        (match group.getString key with
          | none => []
          | some value =>
            let playlist := startsWith value "playlist".toList
            [.storePlaylist j playlist,
              .storeUrl j (if playlist then value.drop "playlist".toList.length else value),
              .chugUrl j, .command (.menuAddAction channelMenu (j + 1) key),
              .command (.menuSetQuit channelMenu (j + 1))])
        ++ loopOps (j + 1) keys

/-- The screen, the keys and the title of the module. -/
def screenCommands (lcd : LcdStuff) (title : Str) : List Command :=
  let (screen, create) := Screen.create lcd "mplayer".toList
  create ++ screen.setPriority "hidden".toList
    ++ [.clientAddKey "Up".toList, .clientAddKey "Down".toList]
    ++ screen.setTitle (some title)

/-- **`mplayer_init`** behind the registration, for the title of the screen. The
number of the keys is stored in an `int`; for none `mplayer_init` returns
`false`. -/
def initOps (lcd : LcdStuff) (title : Str) : List ChannelsOp :=
  (screenCommands lcd title).map .command ++ .getKeys (wrapInt group.entries.length) :: .gNew
    :: if wrapInt group.entries.length = 0 then []
      else .command (.menuAddMenu channelMenu "Web-Channels".toList)
        :: group.loopOps 0 (group.entries.map Prod.fst)

/-- What `mplayer_init` leaves in the table. -/
def mplayerInit (lcd : LcdStuff) (title : Str) : Option ChannelTable :=
  ChannelTable.init.performAll (group.initOps lcd title)

end KeyGroup

/-- What is written for a channel when `streams` is answered: `snprintf` puts at
most 1023 characters into the buffer. -/
def streamLine (name : Str) : Str := (name ++ ['\n']).take 1023

/-- **The answer to `streams`.** -/
def streamsReply (channels : List Channel) : Str :=
  channels.flatMap (fun channel => streamLine channel.name) ++ "__END__".toList

/-! ## What the property is -/

/-- The packet with which channel `no` is to be played. -/
def playPacket (no : ℕ) : Str := "mplayer play ".toList ++ decimal no ++ ['\n']

/-- **The remote command starts the channel of its number**: its packet goes to
`mplayer_net_handler`, with the cookie that is registered under the name of the module. -/
def PlayStarts (no : ℕ) : Prop :=
  ∀ {β : Type} (svc : ServiceThread β) (bytes : Str),
    svc.clients "mplayer".toList = some (mplayerClient bytes) →
    ∃ args, svc.netDispatch (playPacket no)
        = some ⟨mplayerClient bytes, .net args, "mplayer".toList⟩
      ∧ svc.checkForNetInput (playPacket no)
        = some ⟨mplayerClient bytes, .net args, svc.clientData "mplayer".toList⟩
      ∧ LcdStuffMplayer.netHandler args = some (.start no)

namespace KeyGroup

/-- **Every channel can be served**: it has a value, its name and a newline fit
into the buffer, and the number of the keys fits into an `int`. -/
def Served (group : KeyGroup) : Prop :=
  (∀ entry ∈ group.entries, entry.1 ≠ "name".toList → entry.2 ≠ none ∧ entry.1.length < 1023)
    ∧ group.entries.length < 2 ^ 31

variable {group : KeyGroup}

end KeyGroup

namespace ChannelTable

end ChannelTable

namespace KeyGroup

variable {group : KeyGroup}

/-- What an operation does to the number of the channels. -/
def numberAfter (number : Int) : ChannelsOp → Int
  | .getKeys keys => keys
  | .decrement => number - 1
  | _ => number

theorem channelNumber_of_store {table table' : ChannelTable} {j : Int}
    {f : ChannelEntry → ChannelEntry} (h : table.store j f = some table') :
    table'.channelNumber = table.channelNumber := by
  unfold ChannelTable.store at h
  split at h
  · exact absurd h (by simp)
  · split at h
    · obtain rfl := Option.some.inj h
      rfl
    · exact absurd h (by simp)

theorem channelNumber_of_perform {table table' : ChannelTable} {op : ChannelsOp}
    (h : table.perform op = some table') :
    table'.channelNumber = numberAfter table.channelNumber op := by
  cases op with
  | getKeys | decrement | command =>
    obtain rfl := Option.some.inj h
    rfl
  | gNew =>
    unfold ChannelTable.perform at h
    dsimp only at h
    split at h
    · exact absurd h (by simp)
    · split at h
      · obtain rfl := Option.some.inj h
        rfl
      · obtain rfl := Option.some.inj h
        rfl
  | storeName | storePlaylist | storeUrl | chugUrl => exact channelNumber_of_store h

end KeyGroup

/-! ## The answer to `streams` -/

/-- A name and a newline that fit into the buffer are a line. -/
theorem streamLine_of_lt {name : Str} (h : name.length < 1023) :
    streamLine name = name ++ ['\n'] :=
  List.take_of_length_le (by rw [List.length_append, List.length_singleton]; omega)

/-- **The remote command starts the channel of its number.** -/
theorem playStarts {j : ℕ} (hj : j < 2 ^ 31) : PlayStarts j := by
  intro β svc bytes hclient
  have hline : playPacket j = "mplayer".toList ++ ' ' :: ("play".toList ++ ' '
      :: (decimal j ++ ['\n'])) := rfl
  have hlast : ' ' ∉ decimal j ++ ['\n'] := by
    intro hmem
    rcases List.mem_append.mp hmem with hmem | hmem
    · exact notMem_of_mem_decimal hmem (List.mem_cons_self ..)
    · exact absurd hmem (by decide)
  have hsplit : gStrsplit (playPacket j) " ".toList 0
      = ["mplayer".toList, "play".toList, decimal j ++ ['\n']] := by
    rw [show " ".toList = [' '] from rfl, gStrsplit_all (by rw [hline]; nofun), hline,
      splitOn_append_cons (by decide), splitOn_append_cons (by decide),
      List.splitOn_eq_singleton hlast]
  have hdispatch : svc.netDispatch (playPacket j) = some ⟨mplayerClient bytes,
      .net ["play".toList, decimal j ++ ['\n']], "mplayer".toList⟩ := by
    unfold ServiceThread.netDispatch
    rw [hsplit]
    dsimp only
    rw [hclient]
    rfl
  refine ⟨_, hdispatch, ?_, ?_⟩
  · unfold ServiceThread.checkForNetInput
    rw [hdispatch]
    rfl
  · rw [LcdStuffMplayer.netHandler_eq rfl, atoi_decimal_append hj]
    intro c hc
    obtain rfl := Option.some.inj hc
    rfl

/-! ## When the interfaces agree -/

/-- A channel that is there is started, if no program runs. -/
theorem LcdStuffMplayer.startProgram_of_getElem? {mplayer : LcdStuffMplayer} {j : ℕ}
    {channel : Channel} (h : mplayer.channels[j]? = some channel)
    (hpid : mplayer.current.pid ≤ 0) :
    mplayer.startProgram j = .ok (some (programArgs channel)) := by
  have hlt := (List.getElem?_eq_some_iff.mp h).1
  unfold startProgram
  rw [if_neg (by omega), if_neg (by omega), readAt_of_getElem? h]
  rfl

namespace KeyGroup

variable {group : KeyGroup} {lcd : LcdStuff} {title : Str}

end KeyGroup
