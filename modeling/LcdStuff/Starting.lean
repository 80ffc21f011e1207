import LcdStuff.Channels
import LcdStuff.Mpd
import LcdStuff.Threads

/-!
# Modules that start while callbacks are called

An init function registers its client first, and stores what the callbacks look
at afterwards. From the registration on, a line of the server or a packet of the
remote interface may call a callback, in the thread of the service thread, while
the init function is anywhere.

An init function is a list of operations here (`LcdModule.start`), and what it
has stored is data (`StartData`). A callback looks at the data as it is called;
as nothing that was stored is taken away, what is there then is there later. In
runs in which no line or packet is taken up before the init function has come far
enough for it, every callback finds what it looks at set up
(`Starting.setUp_of_reachableBy`).
-/

/-- **What an init function does** that matters to a callback or to the server. -/
inductive StartOp where
  /-- `service_thread_register_client` -/
  | register
  /-- `screen_create` stores the display and the name in the screen. -/
  | createScreen
  /-- `service_thread_command` -/
  | command (cmd : Command)
  /-- An operation of `mplayer_init`. -/
  | channels (op : ChannelsOp)
  /-- `title_prefix` of the mail module is stored. -/
  | titlePrefix
  /-- `g_ptr_array_sized_new`: `mailboxes` is stored. -/
  | gPtrArraySizedNew
  /-- `g_ptr_array_add`: a mailbox of which everything was stored is added. -/
  | gPtrArrayAdd
  /-- `mpd_new` in `mpd_start_connection` -/
  | mpdNew
  deriving DecidableEq, Repr

/-- What the init functions read from the configuration file, and whether
`mpd_init_connection` succeeds. -/
structure StartConfig where
  /-- The display. -/
  lcd : LcdStuff
  /-- The group `mplayer`. -/
  channels : KeyGroup
  /-- The title of its screen. -/
  mplayerTitle : Str
  /-- The name of the mail screen. -/
  mailName : Str
  /-- `number_of_servers` -/
  numberOfServers : Int
  /-- The name of the weather screen. -/
  weatherName : Str
  /-- Its title. -/
  weatherTitle : Str
  /-- The title of the mpd screen. -/
  mpdTitle : Str
  /-- `mpd_init_connection` returns `true`. -/
  mpdInitConnection : Bool

namespace LcdModule

/-- The keys that are registered. -/
def keys : List Command := [.clientAddKey "Up".toList, .clientAddKey "Down".toList]

/-- The strings of the standby ring. -/
def standbyStrings : Str := "0\t15\t30\t45\t60\t75\t90\t115\t130\t145\t160".toList

/-- `mail_init` -/
def mailStart (config : StartConfig) : List StartOp :=
  let (screen, create) := Screen.create config.lcd "mail".toList
  .register :: .createScreen :: (create ++ screen.setName config.mailName).map .command
    ++ .titlePrefix :: keys.map .command
    -- without a mailbox `mail_init` fails before the array is made
    ++ (if config.numberOfServers = 0 then []
      else .gPtrArraySizedNew :: List.replicate config.numberOfServers.toNat .gPtrArrayAdd)

/-- `mpd_init`, `mpd_init_connection` and the object of `mpd_start_connection` -/
def mpdStart (config : StartConfig) : List StartOp :=
  let (screen, create) := Screen.create config.lcd "mpd".toList
  .register :: .createScreen :: (create ++ keys ++ [Command.menuAddStandby standbyStrings]
      ++ screen.setTitle (some config.mpdTitle)).map .command
    ++ (if config.mpdInitConnection then [.mpdNew] else [])

/-- **The init function of a module.** -/
def start (config : StartConfig) : LcdModule → List StartOp
  | .mplayer => .register :: .createScreen
      :: (config.channels.initOps config.lcd config.mplayerTitle).map .channels
  | .rss => .register :: .createScreen
      :: ((Screen.create config.lcd "rss".toList).2 ++ keys).map .command
  | .mail => mailStart config
  | .weather =>
    let (screen, create) := Screen.create config.lcd "weather".toList
    .register :: .createScreen :: (create ++ screen.setName config.weatherName
      ++ screen.setTitle (some config.weatherTitle)).map .command
  | .mpd => mpdStart config

end LcdModule

/-! ## What was stored -/

/-- An entry of `channels`, if there is one at the index. -/
def ChannelTable.entryAt (table : ChannelTable) (j : Int) : Option ChannelEntry :=
  match table.channels with
  | none => none
  | some channels => if 0 ≤ j then channels[j.toNat]? else none

/-- **What the callbacks look at.** -/
structure StartData where
  /-- The display and the name were stored in the screen of a module. -/
  screens : LcdModule → Bool
  /-- `channel_number` was stored. -/
  keysRead : Bool
  /-- `channel_number` and `channels` -/
  table : ChannelTable
  /-- `current.pid` is positive. -/
  running : Bool
  /-- `title_prefix` was stored. -/
  titlePrefix : Bool
  /-- How many `mailboxes` there are, or `NULL`. -/
  mailboxes : Option ℕ
  /-- `news` is not empty. -/
  news : Bool
  /-- `mpd` of the mpd module is not `NULL`. -/
  mpdObject : Bool
  /-- `current_list` -/
  currentList : Option (List Str)

/-- `mpd_menu_handler` uses the object, for what `current_list` is. -/
def LcdStuffMpd.menuUses (currentList : Option (List Str)) (id : Str) : Bool :=
  match gStrsplit id "_".toList 2 with
  | [name, no] => gAsciiStrcaseEq name "pl".toList && (decide (wrapInt (atoi no - 1) = -1)
      || currentList.any (fun list => decide (wrapInt (atoi no - 1) < list.length)))
  | _ => false

/-- **A menu handler that tells the daemon something has used the object.** -/
theorem LcdStuffMpd.menuUses_of_menuHandler {mpd mpd' : LcdStuffMpd} {now : Int} {id arg : Str}
    {calls : List MpdCall} (h : mpd.menuHandler now id arg = .ok (mpd', calls))
    (hcalls : calls ≠ []) : menuUses mpd.currentList id = true := by
  by_cases hload : ∃ name no, gStrsplit id "_".toList 2 = [name, no]
      ∧ gAsciiStrcaseEq name "pl".toList = true
  · obtain ⟨name, no, hsplit, hname⟩ := hload
    rw [mpd.menuHandler_eq now arg hsplit hname] at h
    obtain ⟨loaded, hloaded, hpair⟩ := bind_eq_ok_iff.mp h
    obtain rfl : loaded = calls := (Prod.mk.inj (Except.ok.inj hpair)).2
    unfold menuUses
    rw [hsplit]
    dsimp only
    rw [hname, Bool.true_and, Bool.or_eq_true, decide_eq_true_eq]
    unfold loadPlaylist at hloaded
    split at hloaded
    · next hclear => exact .inl hclear
    · refine .inr ?_
      split at hloaded
      · exact absurd (Except.ok.inj hloaded).symm hcalls
      · next list hlist =>
        split at hloaded
        · next hno =>
          rw [hlist]
          exact decide_eq_true hno
        · exact absurd (Except.ok.inj hloaded).symm hcalls
  · refine absurd (eq_nil_of_menuHandler h (fun name no hsplit => ?_)) hcalls
    exact Bool.eq_false_iff.mpr (fun hname => hload ⟨name, no, hsplit, hname⟩)

namespace StartData

/-- What the run functions begin with. -/
def init : StartData :=
  ⟨fun _ => false, false, .init, false, false, none, false, false, none⟩

/-- An operation of a module is carried out; there is no data where it aborts the
program. -/
def perform (d : StartData) (m : LcdModule) : StartOp → Option StartData
  | .register => some d
  | .createScreen => some { d with screens := Function.update d.screens m true }
  | .command _ => some d
  | .channels op => (d.table.perform op).map (fun table => { d with
      keysRead := d.keysRead || (match op with | .getKeys _ => true | _ => false)
      table := table })
  | .titlePrefix => some { d with titlePrefix := true }
  | .gPtrArraySizedNew => some { d with mailboxes := some 0 }
  | .gPtrArrayAdd => some { d with mailboxes := d.mailboxes.map (· + 1) }
  | .mpdNew => some { d with mpdObject := true }

/-- **What a request for the mplayer module looks at was stored**: the number of the
channels, and if a program is to be started, its entry and the screen, or else the
names that are listed. -/
def requestSetUp (d : StartData) : Option MplayerRequest → Bool
  | some (.start no) => d.keysRead && (decide (d.table.channelNumber ≤ no) || d.running
      || (d.screens .mplayer
        && (d.table.entryAt no).any (fun entry => entry.url.isSome && entry.playlist.isSome)))
  | some .streams => d.keysRead && (List.range d.table.channelNumber.toNat).all
      (fun i => (d.table.entryAt i).any (fun entry => entry.name.isSome))
  | _ => true

/-- **What a callback of a module looks at was set up**: what `show_screen` does for
the mail module, and `update_screen_news` for the rss module. -/
def setUp (d : StartData) : LcdModule → Event → Bool
  | .mplayer, .menu _ (some id) _ => d.requestSetUp (LcdStuffMplayer.menuHandler id)
  | .mplayer, .net args => d.requestSetUp (LcdStuffMplayer.netHandler args)
  | .rss, .key _ | .rss, .ignore => !d.news || d.screens .rss
  | .mail, .key _ | .mail, .ignore => d.mailboxes.isSome && d.titlePrefix && d.screens .mail
  | .mpd, .key _ => d.mpdObject
  | .mpd, .menu _ (some id) _ => !LcdStuffMpd.menuUses d.currentList id || d.mpdObject
  | _, _ => true

/-- The channel that a callback of the mplayer module asks for. -/
def request : Event → Option MplayerRequest
  | .menu _ (some id) _ => LcdStuffMplayer.menuHandler id
  | .net args => LcdStuffMplayer.netHandler args
  | _ => none

/-- A callback was called; `g_spawn_async_with_pipes` may have started a program. -/
def called (d : StartData) (spawned : Bool) : LcdModule → Event → StartData
  | .mplayer, event =>
    match request event with
    | some (.start no) =>
      { d with running := d.running || (spawned && decide (no < d.table.channelNumber)) }
    | _ => d
  | _, _ => d

end StartData

/-- **The program as its modules start.** -/
structure Starting where
  /-- The service thread. -/
  loop : ServiceLoop LcdModule
  /-- `g_exit` -/
  gExit : Bool
  /-- What the init function of a module has done. -/
  done : LcdModule → List StartOp
  /-- What is left of it. -/
  left : LcdModule → List StartOp
  /-- What the callbacks look at. -/
  data : StartData
  /-- The callbacks that were called, the latest first, each with whether what it
  looked at was set up. -/
  log : List (LcdModule × Event × Bool)

/-- **What can happen next.** -/
inductive StartingAct where
  /-- `g_exit` is set. -/
  | exit
  /-- The service thread takes a step; what it starts may be started or not. -/
  | service (input : LoopInput) (spawned : Bool)
  /-- An init function goes on. -/
  | start (m : LcdModule)
  /-- The dispatcher of the mplayer module has reaped the program. -/
  | reap
  /-- The dispatcher of the rss module has read the feeds. -/
  | news (nonempty : Bool)
  /-- The dispatcher of the mpd module has read the playlists. -/
  | playlists (list : List Str)
  deriving DecidableEq, Repr

namespace Starting

/-- The callback that is called in the next step of the service thread, with the
module whose data it gets. A callback that gets no data, or that of another module,
is not looked at here. -/
def call (bytes : LcdModule → Str) (s : Starting) : Option (LcdModule × Event) :=
  match s.loop.pc with
  | .call _ ⟨client, event, some m⟩ => if client = m.client bytes then some (m, event) else none
  | _ => none

/-- The service thread takes a step. -/
def serviceStep (bytes : LcdModule → Str) (s : Starting) (input : LoopInput) (spawned : Bool) :
    Option Starting :=
  (s.loop.step s.gExit input).map (fun loop =>
    match s.call bytes with
    | none => { s with loop := loop }
    | some (m, event) => { s with
        loop := loop
        data := s.data.called spawned m event
        log := (m, event, s.data.setUp m event) :: s.log })

/-- An init function goes on. -/
def startStep (bytes : LcdModule → Str) (s : Starting) (m : LcdModule) : Option Starting :=
  match s.left m with
  | [] => none
  | op :: rest => (s.data.perform m op).map (fun data => { s with
      loop := if op = .register then { s.loop with
          svc := s.loop.svc.registerClient s.gExit (m.client bytes) (some m) }
        else s.loop
      done := Function.update s.done m (s.done m ++ [op])
      left := Function.update s.left m rest
      data := data })

/-- **A step of the program.** A dispatcher runs when its init function has
returned. -/
def step (bytes : LcdModule → Str) (s : Starting) : StartingAct → Option Starting
  | .exit => some { s with gExit := true }
  | .service input spawned => s.serviceStep bytes input spawned
  | .start m => s.startStep bytes m
  | .reap => if s.left .mplayer = [] then some { s with data := { s.data with running := false } }
    else none
  | .news nonempty => if s.left .rss = [] then
      some { s with data := { s.data with news := nonempty } }
    else none
  | .playlists list => if s.left .mpd = [] ∧ s.data.mpdObject = true then
      some { s with data := { s.data with currentList := some list } }
    else none

/-- The program before any module has begun. -/
def init (config : StartConfig) : Starting :=
  ⟨.init, false, fun _ => [], fun m => m.start config, .init, []⟩

/-- The program, for the configuration and what the memory of the clients reads
as. -/
def system (config : StartConfig) (bytes : LcdModule → Str) : StepSystem Starting StartingAct :=
  ⟨init config, step bytes⟩

/-! ## How far the init functions are -/

/-- The init function of a module is past an operation of a kind. -/
def Past (s : Starting) (m : LcdModule) (kind : StartOp → Bool) : Prop :=
  ∃ op ∈ s.done m, kind op = true

instance (s : Starting) (m : LcdModule) (kind : StartOp → Bool) : Decidable (s.Past m kind) :=
  inferInstanceAs (Decidable (∃ op ∈ s.done m, kind op = true))

end Starting

namespace StartOp

/-- `key_file_get_keys` -/
def isGetKeys : StartOp → Bool
  | .channels (.getKeys _) => true
  | _ => false

/-- The name of an entry is stored. -/
def isStoreName (j : Int) : StartOp → Bool
  | .channels (.storeName i _) => decide (i = j)
  | _ => false

end StartOp

namespace Starting

/-- `mplayer_init` has come far enough for a request: it has the number of the
channels, and it is past the entry that is to be started, unless the number is too
high or a program runs; or it is past the names that are listed. -/
def ReadyRequest (s : Starting) : Option MplayerRequest → Prop
  | some (.start no) => s.Past .mplayer StartOp.isGetKeys
      ∧ (s.data.table.channelNumber ≤ no ∨ s.data.running = true
        ∨ .channels (.chugUrl no) ∈ s.done .mplayer)
  | some .streams => s.Past .mplayer StartOp.isGetKeys
      ∧ ∀ i ∈ List.range s.data.table.channelNumber.toNat,
        s.Past .mplayer (StartOp.isStoreName i)
  | _ => True

/-- **An init function has come far enough for an event**: for the mail module it
has the mailboxes, and for the mpd module the object, if the event needs it. -/
def Ready (s : Starting) : LcdModule → Event → Prop
  | .mplayer, event => s.ReadyRequest (StartData.request event)
  | .mail, .key _ | .mail, .ignore => .gPtrArraySizedNew ∈ s.done .mail
  | .mpd, .key _ => .mpdNew ∈ s.done .mpd
  | .mpd, .menu _ (some id) _ => LcdStuffMpd.menuUses none id = true → .mpdNew ∈ s.done .mpd
  | _, _ => True

/-- **No line and no packet comes too early**: when it is taken up, the init
function of its module has come far enough for it. A program whose run has kept a
request from looking at an entry is not reaped before the request was carried out,
unless the entry is there. -/
def InTime (bytes : LcdModule → Str) (s : Starting) : StartingAct → Prop
  | .service input _ => ∀ d ∈ s.loop.selects input, ∀ m : LcdModule, d.client = m.client bytes →
      s.Ready m d.event
  | .reap => ∀ p ∈ s.loop.pc.pending, p.1 = LcdModule.mplayer.client bytes →
      Ready { s with data := { s.data with running := false } } .mplayer p.2
  | _ => True

end Starting

/-! ## The order of the operations -/

namespace StartOp

/-- Something is stored in an entry of `channels`. -/
def isStore : StartOp → Bool
  | .channels (.storeName _ _) | .channels (.storePlaylist _ _) | .channels (.storeUrl _ _)
  | .channels (.chugUrl _) => true
  | _ => false

/-- **The order of the operations of an init function**: the number of the channels
is stored once, the array is made before anything is stored in it, an entry is
finished when all of it was stored, and the mailboxes come behind the screen and
the title. -/
def Ordered (before : List StartOp) : StartOp → Prop
  | .channels (.getKeys _) => ∀ op ∈ before, op.isGetKeys = false
  | .channels .gNew => ∀ op ∈ before, op.isStore = false
  | .channels (.chugUrl j) => .createScreen ∈ before
      ∧ (∃ playlist, .channels (.storePlaylist j playlist) ∈ before)
      ∧ ∃ url, .channels (.storeUrl j url) ∈ before
  | .gPtrArraySizedNew => .createScreen ∈ before ∧ .titlePrefix ∈ before
  | _ => True

/-- The operations that can come anywhere. -/
def Free : StartOp → Prop
  | .channels (.getKeys _) | .channels .gNew | .channels (.chugUrl _) | .gPtrArraySizedNew => False
  | _ => True

theorem Free.ordered {op : StartOp} (h : op.Free) (before : List StartOp) :
    Ordered before op := by
  cases op with
  | channels op =>
    cases op with
    | getKeys | gNew | chugUrl => exact absurd h id
    | decrement | storeName | storePlaylist | storeUrl | command => trivial
  | gPtrArraySizedNew => exact absurd h id
  | register | createScreen | command | titlePrefix | gPtrArrayAdd | mpdNew => trivial

/-- Operations that can come anywhere can be added. -/
theorem eachPrepared_append_free {log ops : List StartOp} (h : EachPrepared Ordered log)
    (hops : ∀ op ∈ ops, op.Free) : EachPrepared Ordered (log ++ ops) := by
  induction ops generalizing log with
  | nil => rwa [List.append_nil]
  | cons op ops ih =>
    obtain ⟨hop, hops⟩ := List.forall_mem_cons.mp hops
    rw [List.append_cons]
    exact ih (h.append_singleton (hop.ordered log)) hops

theorem free_of_mem_map_command {cmds : List Command} {op : StartOp}
    (h : op ∈ cmds.map StartOp.command) : op.Free := by
  obtain ⟨cmd, -, rfl⟩ := List.mem_map.mp h
  trivial

/-- **The loop of `mplayer_init` finishes an entry when all of it was stored.** -/
theorem eachPrepared_loopOps (group : KeyGroup) {log : List StartOp}
    (h : EachPrepared Ordered log) (hscreen : .createScreen ∈ log) (keys : List Str) (j : Int) :
    EachPrepared Ordered (log ++ (group.loopOps j keys).map .channels) := by
  induction keys generalizing log j with
  | nil => rwa [KeyGroup.loopOps, List.map_nil, List.append_nil]
  | cons key keys ih =>
    rw [KeyGroup.loopOps]
    split
    · rw [List.map_cons, List.append_cons]
      have hdecrement : Ordered log (.channels .decrement) := trivial
      exact ih (h.append_singleton hdecrement) (List.mem_append_left _ hscreen) j
    · rw [List.map_append, ← List.append_assoc]
      refine ih ?_ (List.mem_append_left _ hscreen) (j + 1)
      rw [List.map_cons, List.append_cons]
      have hname : EachPrepared Ordered (log ++ [.channels (.storeName j key)]) :=
        eachPrepared_append_free h (List.forall_mem_singleton.mpr trivial)
      cases group.getString key with
      | none => rwa [List.map_nil, List.append_nil]
      | some value =>
        dsimp only
        generalize startsWith value "playlist".toList = playlist
        generalize (if playlist = true then value.drop "playlist".toList.length else value) = url
        rw [List.map_cons, List.append_cons, List.map_cons, List.append_cons, List.map_cons,
          List.append_cons]
        refine eachPrepared_append_free ((EachPrepared.append_singleton
          (EachPrepared.append_singleton hname ?_) ?_).append_singleton
            ⟨?_, ⟨playlist, ?_⟩, ⟨url, ?_⟩⟩) ?_
        · trivial
        · trivial
        · simp [hscreen]
        · exact List.mem_append_left _ (List.mem_append_right _ (List.mem_singleton_self _))
        · exact List.mem_append_right _ (List.mem_singleton_self _)
        · intro op hop
          rcases List.mem_cons.mp hop with rfl | hop
          · trivial
          · obtain rfl := List.mem_singleton.mp hop
            trivial

end StartOp

namespace LcdModule

open StartOp

/-- A list of operations that can come anywhere stores in order. -/
theorem eachPrepared_of_free {ops : List StartOp} (h : ∀ op ∈ ops, op.Free) :
    EachPrepared Ordered ops := by
  have hnil := eachPrepared_append_free EachPrepared.nil h
  rwa [List.nil_append] at hnil

/-- What every init function begins with can come anywhere. -/
theorem free_begin (cmds : List Command) :
    ∀ op ∈ StartOp.register :: .createScreen :: cmds.map .command, op.Free :=
  List.forall_mem_cons.mpr ⟨trivial, List.forall_mem_cons.mpr
    ⟨trivial, fun _ => free_of_mem_map_command⟩⟩

/-- `mplayer_init` stores in order. -/
theorem eachPrepared_mplayer (config : StartConfig) :
    EachPrepared Ordered (start config .mplayer) := by
  let log : List StartOp := [.register, .createScreen]
    ++ ((KeyGroup.screenCommands config.lcd config.mplayerTitle).map ChannelsOp.command).map
      .channels
  have hfree : ∀ op ∈ log, op.Free ∧ op.isGetKeys = false ∧ op.isStore = false := by
    intro op hop
    rcases List.mem_append.mp hop with hop | hop
    · rcases List.mem_cons.mp hop with rfl | hop
      · exact ⟨trivial, rfl, rfl⟩
      · obtain rfl := List.mem_singleton.mp hop
        exact ⟨trivial, rfl, rfl⟩
    · rw [List.map_map] at hop
      obtain ⟨cmd, -, rfl⟩ := List.mem_map.mp hop
      exact ⟨trivial, rfl, rfl⟩
  have hlog : EachPrepared Ordered log := eachPrepared_of_free (fun op hop => (hfree op hop).1)
  have hscreen : .createScreen ∈ log := List.mem_cons_of_mem _ (List.mem_cons_self ..)
  let number := wrapInt config.channels.entries.length
  -- the number and the array come once, behind what can come anywhere
  have hkeys : EachPrepared Ordered (log ++ [.channels (.getKeys number)]) :=
    hlog.append_singleton (fun op hop => (hfree op hop).2.1)
  have hnew : EachPrepared Ordered (log ++ [.channels (.getKeys number)] ++ [.channels .gNew]) := by
    refine hkeys.append_singleton (fun op hop => ?_)
    rcases List.mem_append.mp hop with hop | hop
    · exact (hfree op hop).2.2
    · obtain rfl := List.mem_singleton.mp hop
      rfl
  have hstart : start config .mplayer = log ++ [.channels (.getKeys number)] ++ [.channels .gNew]
      ++ (if number = 0 then [] else
        .command (.menuAddMenu channelMenu "Web-Channels".toList)
          :: config.channels.loopOps 0 (config.channels.entries.map Prod.fst)).map .channels := by
    simp only [start, KeyGroup.initOps, log, number, List.map_append, List.map_cons,
      List.append_assoc, List.cons_append, List.nil_append]
  rw [hstart]
  split
  · rwa [List.map_nil, List.append_nil]
  · rw [List.map_cons, List.append_cons]
    refine eachPrepared_loopOps _ (EachPrepared.append_singleton hnew ?_) ?_ _ _
    · trivial
    · exact List.mem_append_left _ (List.mem_append_left _ (List.mem_append_left _ hscreen))

/-- `mail_init` stores in order. -/
theorem eachPrepared_mail (config : StartConfig) : EachPrepared Ordered (mailStart config) := by
  unfold mailStart
  dsimp only
  generalize (Screen.create config.lcd "mail".toList).2
    ++ Screen.setName _ config.mailName = cmds
  have hkeys : ∀ op ∈ StartOp.titlePrefix :: keys.map StartOp.command, op.Free :=
    List.forall_mem_cons.mpr ⟨trivial, fun _ => free_of_mem_map_command⟩
  have hlog := eachPrepared_append_free (eachPrepared_of_free (free_begin cmds)) hkeys
  split
  · rwa [List.append_nil]
  · rw [List.append_cons]
    refine eachPrepared_append_free (hlog.append_singleton ⟨?_, ?_⟩) (fun op hop => ?_)
    · exact List.mem_append_left _ (List.mem_cons_of_mem _ (List.mem_cons_self ..))
    · exact List.mem_append_right _ (List.mem_cons_self ..)
    · obtain rfl := List.eq_of_mem_replicate hop
      trivial

/-- **Every init function stores in order.** -/
theorem eachPrepared_start (config : StartConfig) (m : LcdModule) :
    EachPrepared Ordered (m.start config) := by
  cases m with
  | mplayer => exact eachPrepared_mplayer config
  | mail => exact eachPrepared_mail config
  | rss => exact eachPrepared_of_free (free_begin _)
  | weather => exact eachPrepared_of_free (free_begin _)
  | mpd =>
    refine eachPrepared_append_free (eachPrepared_of_free (free_begin _)) ?_
    intro op hop
    split at hop
    · obtain rfl := List.mem_singleton.mp hop
      trivial
    · exact absurd hop List.not_mem_nil

end LcdModule

/-! ## What the operations leave -/

namespace ChannelTable

/-- What an operation stores in an entry is there. -/
def Stored (table : ChannelTable) : ChannelsOp → Bool
  | .storeName j _ => (table.entryAt j).any (fun entry => entry.name.isSome)
  | .storePlaylist j _ => (table.entryAt j).any (fun entry => entry.playlist.isSome)
  | .storeUrl j _ => (table.entryAt j).any (fun entry => entry.url.isSome)
  | _ => true

/-- An entry that is changed is there, and the others stay as they are. -/
theorem entryAt_of_store {table table' : ChannelTable} {j : Int} {f : ChannelEntry → ChannelEntry}
    (h : table.store j f = some table') :
    (∃ entry, table'.entryAt j = some (f entry))
      ∧ ∀ i, table'.entryAt i = if i = j then (table.entryAt i).map f else table.entryAt i := by
  unfold store at h
  split at h
  · exact absurd h nofun
  · next channels hchannels =>
    split at h
    · next hj =>
      obtain rfl := Option.some.inj h
      have hentry : ∀ i : Int, entryAt { table with channels := some (channels.modify j.toNat f) } i
          = if i = j then (table.entryAt i).map f else table.entryAt i := by
        intro i
        unfold entryAt
        rw [hchannels]
        dsimp only
        by_cases hi : 0 ≤ i
        · rw [if_pos hi, if_pos hi, List.getElem?_modify]
          by_cases hij : i = j
          · rw [if_pos hij, hij]
            simp
          · rw [if_neg hij]
            have hne : j.toNat ≠ i.toNat := by omega
            simp [hne]
        · rw [if_neg hi, if_neg hi]
          split <;> rfl
      refine ⟨?_, hentry⟩
      have hlt : j.toNat < channels.length := by omega
      refine ⟨channels[j.toNat], ?_⟩
      rw [hentry, if_pos rfl]
      unfold entryAt
      rw [hchannels]
      dsimp only
      rw [if_pos hj.1, List.getElem?_eq_getElem hlt]
      rfl
    · exact absurd h nofun

/-- What was stored in an entry stays there when another thing is stored. -/
theorem any_entryAt_of_store {table table' : ChannelTable} {j : Int}
    {f : ChannelEntry → ChannelEntry} (h : table.store j f = some table')
    {p : ChannelEntry → Bool} (hp : ∀ entry, p entry = true → p (f entry) = true) {i : Int}
    (hi : (table.entryAt i).any p = true) : (table'.entryAt i).any p = true := by
  rw [(entryAt_of_store h).2 i]
  split
  · cases hentry : table.entryAt i with
    | none =>
      rw [hentry] at hi
      exact hi
    | some entry =>
      rw [hentry] at hi
      exact hp entry hi
  · exact hi

/-- **What an operation has stored is there**, and stays there unless the array is
made anew. -/
theorem stored_of_perform {table table' : ChannelTable} {op : ChannelsOp}
    (h : table.perform op = some table') : table'.Stored op = true := by
  cases op with
  | storeName | storePlaylist | storeUrl =>
    obtain ⟨entry, hentry⟩ := (entryAt_of_store h).1
    show (table'.entryAt _).any _ = true
    rw [hentry]
    rfl
  | getKeys | gNew | decrement | chugUrl | command => rfl

theorem Stored.of_perform {table table' : ChannelTable} {op op' : ChannelsOp}
    (h : table.perform op = some table') (hnew : op ≠ .gNew) (hstored : table.Stored op' = true) :
    table'.Stored op' = true := by
  have hany : ∀ {p : ChannelEntry → Bool} {i : Int},
      (∀ entry name, p entry = true → p { entry with name := some name } = true) →
      (∀ entry playlist, p entry = true → p { entry with playlist := some playlist } = true) →
      (∀ entry url, p entry = true → p { entry with url := some url } = true) →
      (∀ entry, p entry = true → p { entry with url := entry.url.map gStrchug } = true) →
      (table.entryAt i).any p = true → (table'.entryAt i).any p = true := by
    intro p i hname hplaylist hurl hchug hi
    cases op with
    | getKeys | decrement | command =>
      obtain rfl := Option.some.inj h
      exact hi
    | gNew => exact absurd rfl hnew
    | storeName j name => exact any_entryAt_of_store h (fun entry => hname entry name) hi
    | storePlaylist j playlist =>
      exact any_entryAt_of_store h (fun entry => hplaylist entry playlist) hi
    | storeUrl j url => exact any_entryAt_of_store h (fun entry => hurl entry url) hi
    | chugUrl j => exact any_entryAt_of_store h hchug hi
  cases op' with
  | storeName =>
    exact hany (fun _ _ _ => rfl) (fun _ _ h => h) (fun _ _ h => h) (fun _ h => h) hstored
  | storePlaylist =>
    exact hany (fun _ _ h => h) (fun _ _ _ => rfl) (fun _ _ h => h) (fun _ h => h) hstored
  | storeUrl =>
    exact hany (fun _ _ h => h) (fun _ _ h => h) (fun _ _ _ => rfl)
      (fun entry h => by rw [Option.isSome_map]; exact h) hstored
  | getKeys | gNew | decrement | chugUrl | command => rfl

end ChannelTable

namespace StartData

/-- What an operation of a module stores is there. -/
def Has (d : StartData) (m : LcdModule) : StartOp → Prop
  | .createScreen => d.screens m = true
  | .channels op => d.table.Stored op = true
      ∧ ((StartOp.channels op).isGetKeys = true → d.keysRead = true)
  | .titlePrefix => d.titlePrefix = true
  | .gPtrArraySizedNew => d.mailboxes ≠ none
  | .mpdNew => d.mpdObject = true
  | _ => True

/-- **What an operation has stored is there.** -/
theorem has_of_perform {d d' : StartData} {m : LcdModule} {op : StartOp}
    (h : d.perform m op = some d') : d'.Has m op := by
  cases op with
  | createScreen =>
    obtain rfl := Option.some.inj h
    exact Function.update_self ..
  | channels op =>
    obtain ⟨table, htable, rfl⟩ := Option.map_eq_some_iff.mp h
    refine ⟨ChannelTable.stored_of_perform htable, fun hkeys => ?_⟩
    cases op with
    | getKeys => exact Bool.or_true _
    | gNew | decrement | storeName | storePlaylist | storeUrl | chugUrl | command =>
      exact absurd hkeys Bool.false_ne_true
  | titlePrefix | mpdNew =>
    obtain rfl := Option.some.inj h
    rfl
  | gPtrArraySizedNew =>
    obtain rfl := Option.some.inj h
    exact Option.some_ne_none 0
  | register | command | gPtrArrayAdd => trivial

/-- **What was stored stays there**, unless it is an entry of an array that is made
anew. -/
theorem Has.of_perform {d d' : StartData} {m m' : LcdModule} {op op' : StartOp}
    (h : d.perform m op = some d') (hnew : op = .channels .gNew → op'.isStore = false)
    (hhas : d.Has m' op') : d'.Has m' op' := by
  -- each operation can only affect what one of its own kind has stored
  cases op with
  | register | command =>
    obtain rfl := Option.some.inj h
    exact hhas
  | createScreen =>
    obtain rfl := Option.some.inj h
    cases op' with
    | createScreen =>
      show Function.update d.screens m true m' = true
      by_cases hm : m' = m
      · rw [hm, Function.update_self]
      · rw [Function.update_of_ne hm]
        exact hhas
    | _ => exact hhas
  | channels op =>
    obtain ⟨table, htable, rfl⟩ := Option.map_eq_some_iff.mp h
    cases op' with
    | channels op' =>
      refine ⟨?_, fun hkeys => Bool.or_eq_true_iff.mpr (.inl (hhas.2 hkeys))⟩
      -- to make the array anew is all that takes something away
      by_cases hop : op = .gNew
      · have hfree := hnew (by rw [hop])
        cases op' with
        | storeName | storePlaylist | storeUrl => exact absurd hfree nofun
        | _ => rfl
      · exact ChannelTable.Stored.of_perform htable hop hhas.1
    | _ => exact hhas
  | titlePrefix =>
    obtain rfl := Option.some.inj h
    cases op' with
    | titlePrefix => rfl
    | _ => exact hhas
  | gPtrArraySizedNew =>
    obtain rfl := Option.some.inj h
    cases op' with
    | gPtrArraySizedNew => exact Option.some_ne_none 0
    | _ => exact hhas
  | gPtrArrayAdd =>
    obtain rfl := Option.some.inj h
    cases op' with
    | gPtrArraySizedNew =>
      show d.mailboxes.map (· + 1) ≠ none
      rw [Ne, Option.map_eq_none_iff]
      exact hhas
    | _ => exact hhas
  | mpdNew =>
    obtain rfl := Option.some.inj h
    cases op' with
    | mpdNew => rfl
    | _ => exact hhas

/-- What the dispatchers store is of no init function. -/
theorem perform_frame {d d' : StartData} {m : LcdModule} {op : StartOp}
    (h : d.perform m op = some d') :
    d'.news = d.news ∧ d'.currentList = d.currentList ∧ d'.running = d.running := by
  cases op with
  | channels op =>
    obtain ⟨table, -, rfl⟩ := Option.map_eq_some_iff.mp h
    exact ⟨rfl, rfl, rfl⟩
  | _ =>
    obtain rfl := Option.some.inj h
    exact ⟨rfl, rfl, rfl⟩

/-- **The number of the channels does not grow**, unless the keys are counted. -/
theorem channelNumber_le_of_perform {d d' : StartData} {m : LcdModule} {op : StartOp}
    (h : d.perform m op = some d') (hkeys : op.isGetKeys = false) :
    d'.table.channelNumber ≤ d.table.channelNumber := by
  cases op with
  | channels op =>
    obtain ⟨table, htable, rfl⟩ := Option.map_eq_some_iff.mp h
    show table.channelNumber ≤ d.table.channelNumber
    rw [KeyGroup.channelNumber_of_perform htable]
    cases op with
    | getKeys => exact absurd hkeys nofun
    | decrement => exact Int.sub_le_self _ (by decide)
    | _ => exact Int.le_refl _
  | _ =>
    obtain rfl := Option.some.inj h
    exact Int.le_refl _

end StartData

/-! ## What a callback finds -/

/-- The operations of `mplayer_init` are of no other module. -/
theorem LcdModule.ne_channels_of_start (config : StartConfig) {m : LcdModule} (hm : m ≠ .mplayer)
    {op : StartOp} (hop : op ∈ m.start config) : ∀ channelsOp, op ≠ .channels channelsOp := by
  have hcommand : ∀ (cmds : List Command) (op : StartOp),
      op ∈ StartOp.register :: .createScreen :: cmds.map .command →
      ∀ channelsOp, op ≠ .channels channelsOp := by
    intro cmds op hop
    rcases List.mem_cons.mp hop with rfl | hop
    · nofun
    rcases List.mem_cons.mp hop with rfl | hop
    · nofun
    obtain ⟨cmd, -, rfl⟩ := List.mem_map.mp hop
    nofun
  cases m with
  | mplayer => exact absurd rfl hm
  | rss | weather => exact hcommand _ op hop
  | mail =>
    rcases List.mem_append.mp hop with hop | hop
    · rcases List.mem_append.mp hop with hop | hop
      · exact hcommand _ op hop
      · rcases List.mem_cons.mp hop with rfl | hop
        · nofun
        · obtain ⟨cmd, -, rfl⟩ := List.mem_map.mp hop
          nofun
    · split at hop
      · exact absurd hop List.not_mem_nil
      · rcases List.mem_cons.mp hop with rfl | hop
        · nofun
        · obtain rfl := List.eq_of_mem_replicate hop
          nofun
  | mpd =>
    rcases List.mem_append.mp hop with hop | hop
    · exact hcommand _ op hop
    · split at hop
      · obtain rfl := List.mem_singleton.mp hop
        nofun
      · exact absurd hop List.not_mem_nil

/-- What is no operation of `mplayer_init` stores nothing in an entry. -/
theorem StartOp.isStore_of_ne_channels {op : StartOp}
    (h : ∀ channelsOp, op ≠ .channels channelsOp) : op.isStore = false := by
  cases op with
  | channels op => exact absurd rfl (h op)
  | _ => rfl

namespace Starting

variable {config : StartConfig} {bytes : LcdModule → Str} {s s' : Starting}

/-- **What holds while the modules start.** -/
structure Sound (config : StartConfig) (bytes : LcdModule → Str) (s : Starting) : Prop where
  /-- The init functions are where they are. -/
  program : ∀ m, s.done m ++ s.left m = m.start config
  /-- What they have stored is there. -/
  has : ∀ m, ∀ op ∈ s.done m, s.data.Has m op
  /-- The rss module has news only with a screen. -/
  news : s.data.news = true → s.data.screens .rss = true
  /-- The mpd module has playlists only with an object. -/
  currentList : s.data.currentList ≠ none → s.data.mpdObject = true
  /-- A callback that is under way is not too early. -/
  pending : ∀ p ∈ s.loop.pc.pending, ∀ m : LcdModule, p.1 = m.client bytes → s.Ready m p.2
  /-- No callback was. -/
  log : ∀ entry ∈ s.log, entry.2.2 = true

/-- What an init function has done was in order. -/
theorem Sound.ordered (h : Sound config bytes s) (m : LcdModule) :
    EachPrepared StartOp.Ordered (s.done m) := by
  intro before op after heq
  refine LcdModule.eachPrepared_start config m before op (after ++ s.left m) ?_
  rw [← h.program m, heq, List.append_assoc, List.cons_append]

/-- A kind of operation that is past was carried out. -/
theorem Sound.past (h : Sound config bytes s) {m : LcdModule} {kind : StartOp → Bool}
    (hpast : s.Past m kind) : ∃ op, kind op = true ∧ s.data.Has m op := by
  obtain ⟨op, hop, hkind⟩ := hpast
  exact ⟨op, hkind, h.has m op hop⟩

/-- `channel_number` was stored. -/
theorem Sound.keysRead (h : Sound config bytes s) (hpast : s.Past .mplayer StartOp.isGetKeys) :
    s.data.keysRead = true := by
  obtain ⟨op, hkind, hhas⟩ := h.past hpast
  cases op with
  | channels op => exact hhas.2 hkind
  | register | createScreen | command | titlePrefix | gPtrArraySizedNew | gPtrArrayAdd | mpdNew =>
    exact absurd hkind Bool.false_ne_true

/-- An entry that is finished has all that a program is started with. -/
theorem Sound.entry (h : Sound config bytes s) {j : Int}
    (hchug : .channels (.chugUrl j) ∈ s.done .mplayer) :
    s.data.screens .mplayer = true ∧ (s.data.table.entryAt j).any
      (fun entry => entry.url.isSome && entry.playlist.isSome) = true := by
  obtain ⟨before, after, hdone⟩ := List.append_of_mem hchug
  obtain ⟨hscreen, ⟨playlist, hplaylist⟩, ⟨url, hurl⟩⟩ := h.ordered .mplayer _ _ _ hdone
  have hhas : ∀ op ∈ before, s.data.Has .mplayer op :=
    fun op hop => h.has .mplayer op (hdone ▸ List.mem_append_left _ hop)
  refine ⟨hhas _ hscreen, ?_⟩
  have hplaylist := (hhas _ hplaylist).1
  have hurl := (hhas _ hurl).1
  unfold ChannelTable.Stored at hplaylist hurl
  dsimp only at hplaylist hurl
  cases hentry : s.data.table.entryAt j with
  | none =>
    rw [hentry] at hurl
    exact absurd hurl Bool.false_ne_true
  | some entry =>
    rw [hentry] at hplaylist hurl
    exact Bool.and_eq_true_iff.mpr ⟨hurl, hplaylist⟩

/-- **A request that is not too early finds what it looks at.** -/
theorem Sound.requestSetUp (h : Sound config bytes s) {request : Option MplayerRequest}
    (hready : s.ReadyRequest request) : s.data.requestSetUp request = true := by
  match request with
  | none | some .stop | some .pausePlay => rfl
  | some (.start no) =>
    obtain ⟨hkeys, hentry⟩ := hready
    unfold StartData.requestSetUp
    dsimp only
    rw [h.keysRead hkeys, Bool.true_and]
    -- the entry is looked at only if the number is one and no program runs
    rcases hentry with hno | hrunning | hchug
    · rw [decide_eq_true hno]
      rfl
    · rw [hrunning, Bool.or_true, Bool.true_or]
    · obtain ⟨hscreen, hany⟩ := h.entry hchug
      rw [hscreen, hany, Bool.and_true, Bool.or_true]
  | some .streams =>
    obtain ⟨hkeys, hnames⟩ := hready
    unfold StartData.requestSetUp
    dsimp only
    rw [h.keysRead hkeys, Bool.true_and, List.all_eq_true]
    intro i hi
    obtain ⟨op, hkind, hhas⟩ := h.past (hnames i hi)
    cases op with
    | channels op =>
      cases op with
      | storeName j name =>
        obtain rfl : j = i := of_decide_eq_true hkind
        exact hhas.1
      | _ => exact absurd hkind Bool.false_ne_true
    | _ => exact absurd hkind Bool.false_ne_true

/-- **A callback that is not too early finds what it looks at.** -/
theorem Sound.setUp (h : Sound config bytes s) {m : LcdModule} {event : Event}
    (hready : s.Ready m event) : s.data.setUp m event = true := by
  have hmail : .gPtrArraySizedNew ∈ s.done .mail →
      (s.data.mailboxes.isSome && s.data.titlePrefix && s.data.screens .mail) = true := by
    intro hmem
    obtain ⟨before, after, hdone⟩ := List.append_of_mem hmem
    obtain ⟨hscreen, htitle⟩ := h.ordered .mail _ _ _ hdone
    have hhas : ∀ op ∈ before, s.data.Has .mail op :=
      fun op hop => h.has .mail op (hdone ▸ List.mem_append_left _ hop)
    have hmailboxes : s.data.mailboxes ≠ none := h.has .mail _ hmem
    rw [show s.data.titlePrefix = true from hhas _ htitle,
      show s.data.screens .mail = true from hhas _ hscreen, Bool.and_true, Bool.and_true,
      Option.isSome_iff_ne_none]
    exact hmailboxes
  have hrss : (!s.data.news || s.data.screens .rss) = true := by
    cases hnews : s.data.news with
    | false => rfl
    | true => exact h.news hnews
  cases m with
  | mplayer =>
    cases event with
    | menu event id arg =>
      cases id with
      | none => rfl
      | some id => exact h.requestSetUp hready
    | net args => exact h.requestSetUp hready
    | key | listen | ignore => rfl
  | rss =>
    cases event with
    | key | ignore => exact hrss
    | listen | menu | net => rfl
  | mail =>
    cases event with
    | key | ignore => exact hmail hready
    | listen | menu | net => rfl
  | weather => rfl
  | mpd =>
    cases event with
    | key => exact h.has .mpd _ hready
    | menu event id arg =>
      cases id with
      | none => rfl
      | some id =>
        show (!LcdStuffMpd.menuUses s.data.currentList id || s.data.mpdObject) = true
        cases hlist : s.data.currentList with
        | none =>
          cases huses : LcdStuffMpd.menuUses none id with
          | false => rfl
          | true => exact h.has .mpd _ (hready huses)
        | some list => rw [h.currentList (by rw [hlist]; exact nofun), Bool.or_true]
    | listen | ignore | net => rfl

/-! ## What a step keeps -/

/-- What is not too early for a module other than `mplayer` stays so. -/
theorem Ready.of_ne_mplayer (hdone : ∀ m, s.done m ⊆ s'.done m) {m : LcdModule} (hm : m ≠ .mplayer)
    {event : Event} (h : s.Ready m event) : s'.Ready m event := by
  cases m with
  | mplayer => exact absurd rfl hm
  | rss | weather => trivial
  | mail =>
    cases event with
    | key | ignore => exact hdone .mail h
    | listen | menu | net => trivial
  | mpd =>
    cases event with
    | key => exact hdone .mpd h
    | menu event id arg =>
      cases id with
      | none => trivial
      | some id => exact fun huses => hdone .mpd (h huses)
    | listen | ignore | net => trivial

/-- **What is not too early stays so**, while the init functions go on. -/
theorem Ready.mono (hdone : ∀ m, s.done m ⊆ s'.done m)
    (hnumber : s.Past .mplayer StartOp.isGetKeys →
      s'.data.table.channelNumber ≤ s.data.table.channelNumber)
    (hrunning : s.data.running = true → s'.data.running = true) {m : LcdModule} {event : Event}
    (h : s.Ready m event) : s'.Ready m event := by
  have hpast : ∀ {kind}, s.Past .mplayer kind → s'.Past .mplayer kind :=
    fun ⟨op, hop, hkind⟩ => ⟨op, hdone .mplayer hop, hkind⟩
  have hrequest : ∀ {request}, s.ReadyRequest request → s'.ReadyRequest request := by
    intro request h
    match request with
    | none | some .stop | some .pausePlay => trivial
    | some (.start no) =>
      obtain ⟨hkeys, hentry⟩ := h
      have hle := hnumber hkeys
      exact ⟨hpast hkeys, hentry.imp (fun hno => by omega)
        (fun h => h.imp hrunning (fun hmem => hdone .mplayer hmem))⟩
    | some .streams =>
      obtain ⟨hkeys, hnames⟩ := h
      have hle := hnumber hkeys
      refine ⟨hpast hkeys, fun i hi => hpast (hnames i ?_)⟩
      rw [List.mem_range] at hi ⊢
      omega
  by_cases hm : m = .mplayer
  · subst hm
    exact hrequest h
  · exact h.of_ne_mplayer hdone hm

/-- The callback that is called was under way. -/
theorem pending_of_call {m : LcdModule} {event : Event} (h : s.call bytes = some (m, event)) :
    (m.client bytes, event) ∈ s.loop.pc.pending := by
  unfold call at h
  split at h
  · next client event' m' hpc =>
    split at h
    · next hclient =>
      obtain ⟨hm, hevent⟩ := Prod.mk.inj (Option.some.inj h)
      rw [hpc, ← hm, ← hevent, ← hclient]
      rfl
    · exact absurd h nofun
  · exact absurd h nofun

/-- A callback that is called leaves all but the program of the mplayer module. -/
theorem called_frame (d : StartData) (spawned : Bool) (m : LcdModule) (event : Event) :
    ∃ running, d.called spawned m event = { d with running := running }
      ∧ (d.running = true → running = true) := by
  cases m with
  | mplayer =>
    unfold StartData.called
    dsimp only
    split
    · exact ⟨_, rfl, fun h => by rw [h, Bool.true_or]⟩
    · exact ⟨d.running, rfl, id⟩
  | rss | mail | weather | mpd => exact ⟨d.running, rfl, id⟩

/-- Steps that neither store nor select anything. -/
theorem Sound.of_data (h : Sound config bytes s) {data : StartData}
    (hhas : ∀ m op, s.data.Has m op → data.Has m op)
    (hnews : data.news = true → data.screens .rss = true)
    (hlist : data.currentList ≠ none → data.mpdObject = true)
    (hready : ∀ p ∈ s.loop.pc.pending, ∀ m : LcdModule, p.1 = m.client bytes →
      Ready ({ s with data := data } : Starting) m p.2) :
    Sound config bytes ({ s with data := data } : Starting) :=
  { h with
    has := fun m op hop => hhas m op (h.has m op hop)
    news := hnews
    currentList := hlist
    pending := hready }

/-- **A step of the service thread**, which takes nothing up too early. -/
theorem Sound.serviceStep (h : Sound config bytes s) {input : LoopInput} {spawned : Bool}
    (hintime : ∀ d ∈ s.loop.selects input, ∀ m : LcdModule, d.client = m.client bytes →
      s.Ready m d.event) (hstep : s.serviceStep bytes input spawned = some s') :
    Sound config bytes s' := by
  obtain ⟨loop, hloop, rfl⟩ := Option.map_eq_some_iff.mp hstep
  have hpending : ∀ p ∈ loop.pc.pending, ∀ m : LcdModule,
      p.1 = m.client bytes → s.Ready m p.2 := by
    intro p hp m hclient
    rcases ServiceLoop.pending_of_step hloop hp with hp | ⟨d, hd, rfl⟩
    · exact h.pending p hp m hclient
    · exact hintime d hd m hclient
  split
  · exact { h with pending := hpending }
  · next m event hcall =>
    -- the callback that is called was selected when its module was far enough
    obtain ⟨running, hdata, hrunning⟩ := called_frame s.data spawned m event
    have hready : s.Ready m event := h.pending _ (pending_of_call hcall) m rfl
    rw [hdata]
    exact { h with
      has := fun m op hop => by
        have hhas := h.has m op hop
        cases op <;> exact hhas
      pending := fun p hp m hclient => by
        have hready := hpending p hp m hclient
        refine Ready.mono ?_ ?_ ?_ hready
        · exact fun _ => List.Subset.refl _
        · exact fun _ => Int.le_refl _
        · exact hrunning
      log := List.forall_mem_cons.mpr ⟨h.setUp hready, h.log⟩ }

/-- What the init functions have done stays done. -/
theorem done_subset (s : Starting) (m : LcdModule) (op : StartOp) (m' : LcdModule) :
    s.done m' ⊆ Function.update s.done m (s.done m ++ [op]) m' := by
  by_cases hm : m' = m
  · rw [hm, Function.update_self]
    exact List.subset_append_left ..
  · rw [Function.update_of_ne hm]
    exact List.Subset.refl _

/-- **A step of an init function.** -/
theorem Sound.startStep (h : Sound config bytes s) {m : LcdModule}
    (hstep : s.startStep bytes m = some s') : Sound config bytes s' := by
  unfold Starting.startStep at hstep
  split at hstep
  · exact absurd hstep nofun
  · next op rest hleft =>
    obtain ⟨data, hdata, rfl⟩ := Option.map_eq_some_iff.mp hstep
    have hprogram := h.program m
    rw [hleft] at hprogram
    have hordered : StartOp.Ordered (s.done m) op :=
      LcdModule.eachPrepared_start config m _ _ _ hprogram.symm
    have hmplayer : ∀ channelsOp, op = .channels channelsOp → m = .mplayer := by
      intro channelsOp hop
      by_contra hm
      refine LcdModule.ne_channels_of_start config hm ?_ channelsOp hop
      exact hprogram ▸ List.mem_append_right _ (List.mem_cons_self ..)
    have hold : ∀ m', ∀ op' ∈ s.done m', data.Has m' op' := by
      intro m' op' hop'
      refine StartData.Has.of_perform hdata (fun hnew => ?_) (h.has m' op' hop')
      by_cases hm' : m' = .mplayer
      · obtain rfl := hmplayer _ hnew
        subst hm' hnew
        exact hordered op' hop'
      · refine StartOp.isStore_of_ne_channels (LcdModule.ne_channels_of_start config hm' ?_)
        exact h.program m' ▸ List.mem_append_left _ hop'
    have hscreens : s.data.Has .rss .createScreen → data.Has .rss .createScreen :=
      StartData.Has.of_perform hdata (fun _ => rfl)
    have hobject : s.data.Has .mpd .mpdNew → data.Has .mpd .mpdNew :=
      StartData.Has.of_perform hdata (fun _ => rfl)
    obtain ⟨hnews, hlist, hrunning⟩ := StartData.perform_frame hdata
    exact {
      program := fun m' => by
        show Function.update s.done m _ m' ++ Function.update s.left m rest m' = _
        by_cases hm : m' = m
        · subst hm
          rw [Function.update_self, Function.update_self, List.append_assoc,
            List.singleton_append]
          exact hprogram
        · rw [Function.update_of_ne hm, Function.update_of_ne hm]
          exact h.program m'
      has := fun m' op' hop' => by
        have hop' : op' ∈ Function.update s.done m (s.done m ++ [op]) m' := hop'
        by_cases hm : m' = m
        · subst hm
          rw [Function.update_self] at hop'
          rcases List.mem_append.mp hop' with hop' | hop'
          · exact hold m' op' hop'
          · obtain rfl := List.mem_singleton.mp hop'
            exact StartData.has_of_perform hdata
        · rw [Function.update_of_ne hm] at hop'
          exact hold m' op' hop'
      news := fun hnonempty => hscreens (h.news (hnews ▸ hnonempty))
      currentList := fun hne => hobject (h.currentList (hlist ▸ hne))
      pending := fun p hp m' hclient => by
        have hp : p ∈ s.loop.pc.pending := by
          dsimp only at hp
          split at hp <;> exact hp
        refine Ready.mono (s.done_subset m op) (fun ⟨op', hop', hkind⟩ => ?_)
          (fun h => hrunning ▸ h) (h.pending p hp m' hclient)
        refine StartData.channelNumber_le_of_perform hdata (Bool.not_eq_true _ ▸ fun hkeys => ?_)
        -- the keys are not counted again
        cases op with
        | channels op =>
          cases op with
          | getKeys number =>
            obtain rfl := hmplayer _ rfl
            rw [hordered op' hop'] at hkind
            exact absurd hkind nofun
          | _ => exact absurd hkeys nofun
        | _ => exact absurd hkeys nofun
      log := h.log }

/-- What does not end a program is not too early afterwards either. -/
theorem Sound.ready_of_data (h : Sound config bytes s) {data : StartData}
    (htable : data.table = s.data.table) (hrunning : data.running = s.data.running) :
    ∀ p ∈ s.loop.pc.pending, ∀ m : LcdModule, p.1 = m.client bytes →
      Ready ({ s with data := data } : Starting) m p.2 := by
  intro p hp m hclient
  have hready := h.pending p hp m hclient
  refine Ready.mono ?_ ?_ ?_ hready
  · exact fun _ => List.Subset.refl _
  · exact fun _ => Int.le_of_eq (congrArg ChannelTable.channelNumber htable)
  · exact hrunning.trans

/-- **A step that takes nothing up too early** keeps what holds while the modules
start. -/
theorem Sound.step (h : Sound config bytes s) {act : StartingAct} (hintime : InTime bytes s act)
    (hstep : Starting.step bytes s act = some s') : Sound config bytes s' := by
  cases act with
  | exit =>
    obtain rfl := Option.some.inj hstep
    exact { h with }
  | service input spawned => exact h.serviceStep hintime hstep
  | start m => exact h.startStep hstep
  | reap =>
    unfold Starting.step at hstep
    dsimp only at hstep
    split at hstep
    · obtain rfl := Option.some.inj hstep
      refine h.of_data (fun m op hhas => ?_) h.news h.currentList (fun p hp m hclient => ?_)
      · cases op <;> exact hhas
      · -- only a request for a program looks at whether one runs
        by_cases hm : m = .mplayer
        · subst hm
          exact hintime p hp hclient
        · have hready := h.pending p hp m hclient
          refine hready.of_ne_mplayer ?_ hm
          exact fun _ => List.Subset.refl _
    · exact absurd hstep nofun
  | news nonempty =>
    unfold Starting.step at hstep
    dsimp only at hstep
    split at hstep
    · next hleft =>
      obtain rfl := Option.some.inj hstep
      have hdone : s.done .rss = LcdModule.rss.start config := by
        rw [← h.program .rss, hleft, List.append_nil]
      refine h.of_data (fun m op hhas => ?_) (fun _ => ?_) h.currentList
        (h.ready_of_data rfl rfl)
      · cases op <;> exact hhas
      · refine h.has .rss .createScreen ?_
        rw [hdone]
        exact List.mem_cons_of_mem _ (List.mem_cons_self ..)
    · exact absurd hstep nofun
  | playlists list =>
    unfold Starting.step at hstep
    dsimp only at hstep
    split at hstep
    · next hobject =>
      obtain rfl := Option.some.inj hstep
      refine h.of_data (fun m op hhas => ?_) h.news (fun _ => hobject.2) (h.ready_of_data rfl rfl)
      cases op <;> exact hhas
    · exact absurd hstep nofun

theorem sound_init (config : StartConfig) (bytes : LcdModule → Str) :
    Sound config bytes (init config) where
  program := fun _ => List.nil_append _
  has := fun _ _ h => absurd h List.not_mem_nil
  news := nofun
  currentList := fun h => absurd rfl h
  pending := fun _ h => absurd h (Option.not_mem_none _)
  log := fun _ h => absurd h List.not_mem_nil

/-! ## Every callback finds what it looks at -/

instance (s : Starting) (request : Option MplayerRequest) : Decidable (s.ReadyRequest request) :=
  match request with
  | some (.start no) => inferInstanceAs (Decidable (s.Past .mplayer StartOp.isGetKeys
      ∧ (s.data.table.channelNumber ≤ no ∨ s.data.running = true
        ∨ .channels (.chugUrl no) ∈ s.done .mplayer)))
  | some .streams => inferInstanceAs (Decidable (s.Past .mplayer StartOp.isGetKeys
      ∧ ∀ i ∈ List.range s.data.table.channelNumber.toNat,
        s.Past .mplayer (StartOp.isStoreName i)))
  | none | some .stop | some .pausePlay => inferInstanceAs (Decidable True)

instance (s : Starting) (m : LcdModule) (event : Event) : Decidable (s.Ready m event) :=
  match m, event with
  | .mplayer, event => inferInstanceAs (Decidable (s.ReadyRequest (StartData.request event)))
  | .mail, .key _ | .mail, .ignore =>
    inferInstanceAs (Decidable (StartOp.gPtrArraySizedNew ∈ s.done .mail))
  | .mpd, .key _ => inferInstanceAs (Decidable (StartOp.mpdNew ∈ s.done .mpd))
  | .mpd, .menu _ (some id) _ => inferInstanceAs
      (Decidable (LcdStuffMpd.menuUses none id = true → StartOp.mpdNew ∈ s.done .mpd))
  | .mpd, .menu _ none _ | .mpd, .listen | .mpd, .ignore | .mpd, .net _
  | .mail, .listen | .mail, .menu .. | .mail, .net _ | .rss, _ | .weather, _ =>
    inferInstanceAs (Decidable True)

instance (bytes : LcdModule → Str) (s : Starting) (act : StartingAct) :
    Decidable (InTime bytes s act) :=
  match act with
  | .service input _ => inferInstanceAs (Decidable (∀ d ∈ s.loop.selects input, ∀ m : LcdModule,
      d.client = m.client bytes → s.Ready m d.event))
  | .reap => inferInstanceAs (Decidable (∀ p ∈ s.loop.pc.pending,
      p.1 = LcdModule.mplayer.client bytes →
        Ready { s with data := { s.data with running := false } } .mplayer p.2))
  | .exit | .start _ | .news _ | .playlists _ => inferInstanceAs (Decidable True)

/-- **No callback is called before what it looks at was set up**, in every run in
which no line and no packet is taken up before the init function of its module has
come far enough for it. -/
theorem setUp_of_reachableBy {config : StartConfig} {bytes : LcdModule → Str} {s : Starting}
    (hs : (system config bytes).ReachableBy (InTime bytes) s) :
    ∀ entry ∈ s.log, entry.2.2 = true :=
  (hs.invariant (Sound config bytes) (sound_init config bytes)
    (fun _ _ _ hI hP h => hI.step hP h)).log

/-- A display of four rows, one channel and one mailbox. -/
def radioConfig : StartConfig where
  lcd := ⟨⟨20, 4⟩, false⟩
  channels := ⟨[("radio".toList, some "http://radio".toList)], by decide, by decide⟩
  mplayerTitle := []
  mailName := "mail".toList
  numberOfServers := 1
  weatherName := []
  weatherTitle := []
  mpdTitle := []
  mpdInitConnection := true

/-- A key is pressed on the mail screen when the mailboxes are there, and a program
is started over the remote interface when its entry is finished. -/
theorem setUp_of_reachableBy_key_play :
    ∃ (config : StartConfig) (s : Starting),
      (system config LcdModule.name).ReachableBy (InTime LcdModule.name) s
      ∧ s.log.length = 2 ∧ s.left .mail ≠ [] ∧ s.left .mplayer ≠ []
      ∧ ∀ entry ∈ s.log, entry.2.2 = true := by
  let config := radioConfig
  let sys := system config LcdModule.name
  let run := sys.replay (InTime LcdModule.name) sys.init
    (List.replicate 12 (.start .mail) ++ List.replicate 18 (.start .mplayer)
      ++ [.service .go false, .service (.popped none) false,
        .service (.received (.line "listen mail".toList)) false,
        .service (.received (.line "key Up".toList)) false, .service .go false, .service .go false,
        .service (.received .nothing) false,
        .service (.packet (some "mplayer play 0".toList)) false, .service .go false,
        .service .go true])
  have hrun : run.map (fun s => decide (s.log.length = 2 ∧ s.left .mail ≠ []
      ∧ s.left .mplayer ≠ [])) = some true := by decide +kernel
  obtain ⟨s, hs, hend⟩ := StepSystem.exists_reachableBy_of_replay hrun
  obtain ⟨hlog, hmail, hmplayer⟩ := of_decide_eq_true hend
  exact ⟨config, s, hs, hlog, hmail, hmplayer, setUp_of_reachableBy hs⟩

/-- A key is pressed on the mail screen when the mailboxes are not there yet. -/
theorem not_forall_setUp :
    ¬ ∀ (config : StartConfig) (bytes : LcdModule → Str) (s : Starting),
      (system config bytes).Reachable s → ∀ entry ∈ s.log, entry.2.2 = true := by
  intro h
  let config := radioConfig
  let sys := system config LcdModule.name
  let run := sys.replayAny sys.init (List.replicate 11 (.start .mail)
    ++ [.service .go false, .service (.popped none) false,
      .service (.received (.line "listen mail".toList)) false,
      .service (.received (.line "key Up".toList)) false, .service .go false, .service .go false])
  have hrun : run.map Starting.log = some [(.mail, .key "Up".toList, false)] := by
    decide +kernel
  obtain ⟨s, hs, hlog⟩ := StepSystem.exists_reachableBy_of_replay hrun
  have hentry := h config _ s hs (.mail, .key "Up".toList, false)
    (hlog ▸ List.mem_singleton_self _)
  exact Bool.false_ne_true hentry

end Starting
