import LcdStuff.Mplayer
import LcdStuff.StepSystem

/-!
# The two threads of the mplayer module

The handlers of the mplayer module run in the service thread, and the
dispatcher of `mplayer_run` runs in a thread of its own. They share the
program that is running: the service thread starts it and raises the request
flags, the dispatcher looks at the flags, talks to the program, and reaps it.
No lock protects what they share, so every access is a step of its own here,
and any step of the other thread, or the end of the program, may come between
two of them.

What keeps the threads apart is `pid`. The service thread starts a program
only when it is not positive, and it becomes positive only when the program
plays; the dispatcher does nothing unless it is positive, and resets it only
when the program was reaped (`MplayerThreads.not_busy_of_starting`). Between a
stop and the reaping the program has no streams any more while `pid` is still
positive. The dispatcher looks for that before it asks for the artist, but not
before it pauses (`MplayerThreads.write_of_pause_killed`).
-/

/-- What is left to do of `mplayer_kill`. -/
inductive KillPc where
  /-- The input stream is looked at, closed and set to `NULL`. -/
  | closeInput
  /-- The output stream is looked at, closed and set to `NULL`. -/
  | closeOutput
  /-- `kill` -/
  | signal
  deriving DecidableEq, Repr

/-- **Where the service thread is** in the handlers of the module. -/
inductive ServicePc where
  /-- In none of them. -/
  | idle
  /-- In `mplayer_key_handler`, past the test of `pid`. -/
  | keyed (request : MplayerRequest)
  /-- In `mplayer_start_program`, past the test of the number. -/
  | testPid (no : Int)
  /-- Past the test of `pid`. -/
  | spawn (no : Int)
  /-- The program was started, and its input is to be opened. -/
  | openInput (no pid : Int)
  /-- Its output is to be opened. -/
  | openOutput (no pid : Int)
  /-- Its output could not be opened; the input stream is to be closed. -/
  | closeInput
  /-- One of its streams could not be opened. -/
  | kill (pc : KillPc)
  /-- The screen is to be shown. -/
  | show (no pid : Int)
  /-- In `mplayer_wait_for_playback`. -/
  | waitForPlayback (no pid : Int)
  /-- `pid` is to be set. -/
  | setPid (no pid : Int)
  /-- `channel_number` is to be set. -/
  | setChannel (no : Int)
  deriving DecidableEq, Repr

/-- **Where the dispatcher is** in `mplayer_run`. -/
inductive DispatcherPc where
  /-- In `g_usleep`. -/
  | asleep
  /-- `stop_request` is to be looked at. -/
  | testStop
  /-- `pause_play_request` is to be looked at. -/
  | testPause
  /-- `paused` is to be looked at. -/
  | testPaused
  /-- In `mplayer_kill`. -/
  | kill (pc : KillPc)
  /-- `stop_request` is to be reset. -/
  | clearStop
  /-- In `mplayer_play_pause`, before the write. -/
  | playPause
  /-- In `mplayer_play_pause`, behind the write. -/
  | togglePaused
  /-- `pause_play_request` is to be reset. -/
  | clearPause
  /-- In `mplayer_update_metainfo`, before the test of the streams. -/
  | testStreams
  /-- Before the artist is asked for. -/
  | askArtist
  /-- Before the title is asked for. -/
  | askTitle
  /-- Before what is known of the program is shown. -/
  | showMetainfo
  /-- In `mplayer_check_child`, before `waitpid`. -/
  | waitpid
  /-- `pid` is to be reset. -/
  | clearPid
  /-- The screen is to be cleared. -/
  | clearScreen
  /-- The screen is to be hidden. -/
  | hide
  deriving DecidableEq, Repr

/-- What the threads have done that is seen outside of what they share. -/
inductive MplayerEvent where
  /-- A command was written to a stream, which was open or not. -/
  | write (stream : Option File) (command : Str) (isOpen : Bool)
  /-- `fclose` of a stream, which was open or not. -/
  | close (stream : File) (isOpen : Bool)
  /-- `kill (pid, SIGTERM)` -/
  | kill (pid : Int)
  /-- `screen_set_priority` -/
  | priority (priority : Str)
  deriving DecidableEq, Repr

/-- **The module while both threads run.** -/
structure MplayerThreads where
  /-- `current` -/
  current : Program
  /-- The streams that are open. -/
  files : List File
  /-- The stream that is opened next. -/
  nextFile : File
  /-- The programs that were started and not reaped yet. -/
  children : List Int
  /-- Those of them that have ended. -/
  ended : List Int
  /-- The dispatcher has taken up a request to stop the program and has not
  reaped it yet. -/
  killed : Bool
  /-- The service thread. -/
  service : ServicePc
  /-- The dispatcher. -/
  dispatcher : DispatcherPc
  /-- What was done, the latest first. -/
  log : List MplayerEvent
  deriving DecidableEq, Repr

/-- How a step ends whose end is not up to the module. -/
inductive Outcome where
  /-- It does what it is for. -/
  | done
  /-- It fails. -/
  | failed
  /-- `g_spawn_async_with_pipes` has started a program. -/
  | spawned (pid : Int)
  deriving DecidableEq, Repr

/-- **What can happen next.** -/
inductive MplayerAct where
  /-- `mplayer_key_handler` is called. -/
  | key (str : Str)
  /-- `mplayer_menu_handler` is called. -/
  | menu (id : Str)
  /-- `mplayer_net_handler` is called. -/
  | net (args : List Str)
  /-- The service thread takes a step. -/
  | service (outcome : Outcome)
  /-- The dispatcher takes a step. -/
  | dispatcher (outcome : Outcome)
  /-- A program ends. -/
  | exit (pid : Int)
  deriving DecidableEq, Repr

namespace MplayerThreads

/-! ## The steps -/

/-- `fclose` -/
def fclose (s : MplayerThreads) (stream : File) : MplayerThreads :=
  { s with
    files := s.files.erase stream
    log := .close stream (decide (stream ∈ s.files)) :: s.log }

/-- `fdopen`: the stream that is opened is `nextFile`. -/
def fdopen (s : MplayerThreads) : MplayerThreads :=
  { s with files := s.nextFile :: s.files, nextFile := s.nextFile + 1 }

/-- `fprintf` to the input of the program. -/
def fprintf (s : MplayerThreads) (command : Str) : MplayerThreads :=
  let isOpen := s.current.inputStream.any (· ∈ s.files)
  { s with log := .write s.current.inputStream command isOpen :: s.log }

/-- `screen_set_priority` -/
def setPriority (s : MplayerThreads) (priority : Str) : MplayerThreads :=
  { s with log := .priority priority :: s.log }

/-- The first part of `mplayer_kill`. -/
def closeInput (s : MplayerThreads) : MplayerThreads :=
  match s.current.inputStream with
  | none => s
  | some stream =>
    { s.fclose stream with current := { s.current with inputStream := none } }

/-- The second part of `mplayer_kill`. -/
def closeOutput (s : MplayerThreads) : MplayerThreads :=
  match s.current.outputStream with
  | none => s
  | some stream =>
    { s.fclose stream with current := { s.current with outputStream := none } }

/-- The last part of `mplayer_kill`. -/
def signal (s : MplayerThreads) : MplayerThreads :=
  { s with log := .kill s.current.pid :: s.log }

/-- A handler of the service thread begins with a request. -/
def carryOut (channels : List Channel) (s : MplayerThreads) :
    Option MplayerRequest → MplayerThreads
  | none => s
  | some (.start no) =>
    if (channels.length : Int) ≤ no then s else { s with service := .testPid no }
  | some .streams => s
  | some .stop => { s with current := { s.current with stopRequest := true } }
  | some .pausePlay => { s with current := { s.current with pausePlayRequest := true } }

/-- **A step of the service thread** inside of a handler. There is none from a
number that is not one of a channel, see `LcdStuffMplayer.startProgram`. -/
def serviceStep (channels : List Channel) (s : MplayerThreads) (outcome : Outcome) :
    Option MplayerThreads :=
  match s.service, outcome with
  | .keyed request, .done =>
    let s := carryOut channels s (some request)
    some { s with service := .idle }
  | .testPid no, .done =>
    if 0 < s.current.pid then some { s with service := .idle }
    else if 0 ≤ no then some { s with service := .spawn no } else none
  | .spawn _, .failed => some { s with service := .idle }
  | .spawn no, .spawned pid =>
    if 0 < pid ∧ pid ∉ s.children then
      some { s with children := pid :: s.children, service := .openInput no pid }
    else none
  | .openInput no pid, .done => some { s.fdopen with
      current := { s.current with inputStream := some s.nextFile }
      service := .openOutput no pid }
  | .openInput .., .failed => some { s with
      current := { s.current with inputStream := none }
      service := .kill .closeInput }
  | .openOutput no pid, .done => some { s.fdopen with
      current := { s.current with outputStream := some s.nextFile }
      service := .show no pid }
  | .openOutput .., .failed => some { s with
      current := { s.current with outputStream := none }
      service := .closeInput }
  | .closeInput, .done =>
    match s.current.inputStream with
    | none => none
    | some stream => some { s.fclose stream with service := .kill .closeInput }
  | .kill .closeInput, .done => some { s.closeInput with service := .kill .closeOutput }
  | .kill .closeOutput, .done => some { s.closeOutput with service := .kill .signal }
  | .kill .signal, .done => some { s.signal with service := .idle }
  | .show no pid, .done =>
    some { s.setPriority "info".toList with service := .waitForPlayback no pid }
  | .waitForPlayback no pid, .done => some { s with service := .setPid no pid }
  | .setPid no pid, .done => some { s with
      current := { s.current with pid := pid }
      service := .setChannel no }
  | .setChannel no, .done => some { s with
      current := { s.current with channelNumber := no }
      service := .idle }
  | _, _ => none

/-- **A step of the dispatcher.** -/
def dispatcherStep (s : MplayerThreads) (outcome : Outcome) : Option MplayerThreads :=
  match s.dispatcher, outcome with
  | .asleep, .done =>
    if s.current.pid ≤ 0 then some s else some { s with dispatcher := .testStop }
  | .testStop, .done =>
    if s.current.stopRequest then
      some { s with killed := true, dispatcher := .kill .closeInput }
    else some { s with dispatcher := .testPause }
  | .testPause, .done =>
    if s.current.pausePlayRequest then some { s with dispatcher := .playPause }
    else some { s with dispatcher := .testPaused }
  | .testPaused, .done =>
    if s.current.paused then some { s with dispatcher := .waitpid }
    else some { s with dispatcher := .testStreams }
  | .kill .closeInput, .done => some { s.closeInput with dispatcher := .kill .closeOutput }
  | .kill .closeOutput, .done => some { s.closeOutput with dispatcher := .kill .signal }
  | .kill .signal, .done => some { s.signal with dispatcher := .clearStop }
  | .clearStop, .done => some { s with
      current := { s.current with stopRequest := false }
      dispatcher := .waitpid }
  | .playPause, .done => some { s.fprintf "p\n".toList with dispatcher := .togglePaused }
  | .togglePaused, .done => some { s with
      current := { s.current with paused := !s.current.paused }
      dispatcher := .clearPause }
  | .clearPause, .done => some { s with
      current := { s.current with pausePlayRequest := false }
      dispatcher := .waitpid }
  | .testStreams, .done =>
    if s.current.inputStream = none ∨ s.current.outputStream = none then
      some { s with dispatcher := .waitpid }
    else some { s with dispatcher := .askArtist }
  | .askArtist, .done =>
    some { s.fprintf "get_meta_artist\n".toList with dispatcher := .askTitle }
  | .askTitle, .done =>
    some { s.fprintf "get_meta_title\n".toList with dispatcher := .showMetainfo }
  | .showMetainfo, .done => some { s with dispatcher := .waitpid }
  | .waitpid, .done =>
    if s.current.pid ∈ s.ended then some { s with
      children := s.children.erase s.current.pid
      ended := s.ended.erase s.current.pid
      dispatcher := .clearPid }
    else some { s with dispatcher := .asleep }
  | .clearPid, .done => some { s with
      current := { s.current with pid := 0 }
      killed := false
      dispatcher := .clearScreen }
  | .clearScreen, .done => some { s with dispatcher := .hide }
  | .hide, .done => some { s.setPriority "hidden".toList with dispatcher := .asleep }
  | _, _ => none

/-- **A step of the module.** A handler is called when the service thread is in
none. -/
def step (channels : List Channel) (s : MplayerThreads) : MplayerAct → Option MplayerThreads
  | .key str =>
    if s.service ≠ .idle then none
    else if s.current.pid ≤ 0 then some s
    else some { s with service := .keyed (LcdStuffMplayer.keyHandler str) }
  | .menu id =>
    if s.service ≠ .idle then none
    else some (carryOut channels s (LcdStuffMplayer.menuHandler id))
  | .net args =>
    if s.service ≠ .idle then none
    else some (carryOut channels s (LcdStuffMplayer.netHandler args))
  | .service outcome => s.serviceStep channels outcome
  | .dispatcher outcome => s.dispatcherStep outcome
  | .exit pid =>
    if pid ∈ s.children ∧ pid ∉ s.ended then some { s with ended := pid :: s.ended }
    else none

/-- The module once `mplayer_init` has returned. -/
def init : MplayerThreads :=
  ⟨.init, [], 0, [], [], false, .idle, .asleep, []⟩

/-- **The mplayer module**, for the channels of the configuration file. -/
def system (channels : List Channel) : StepSystem MplayerThreads MplayerAct :=
  ⟨init, step channels⟩

/-! ## What a step can do -/

/-- **The steps of the service thread**, each with the place it is taken from. -/
inductive ServiceTaken (channels : List Channel) (s : MplayerThreads) :
    Outcome → MplayerThreads → Prop
  /-- The flag that a key asks for. -/
  | keyed {request : MplayerRequest} : s.service = .keyed request →
      ServiceTaken channels s .done
        { carryOut channels s (some request) with service := .idle }
  /-- A program runs. -/
  | running {no : Int} : s.service = .testPid no → 0 < s.current.pid →
      ServiceTaken channels s .done { s with service := .idle }
  /-- No program runs. -/
  | stopped {no : Int} : s.service = .testPid no → s.current.pid ≤ 0 →
      ServiceTaken channels s .done { s with service := .spawn no }
  /-- `g_spawn_async_with_pipes` fails. -/
  | spawnFailed {no : Int} : s.service = .spawn no →
      ServiceTaken channels s .failed { s with service := .idle }
  /-- It has started a program. -/
  | spawned {no pid : Int} : s.service = .spawn no → 0 < pid →
      ServiceTaken channels s (.spawned pid)
        { s with children := pid :: s.children, service := .openInput no pid }
  /-- The input is opened. -/
  | openInput {no pid : Int} : s.service = .openInput no pid →
      ServiceTaken channels s .done { s.fdopen with
        current := { s.current with inputStream := some s.nextFile }
        service := .openOutput no pid }
  /-- It cannot be opened. -/
  | openInputFailed {no pid : Int} : s.service = .openInput no pid →
      ServiceTaken channels s .failed { s with
        current := { s.current with inputStream := none }
        service := .kill .closeInput }
  /-- The output is opened. -/
  | openOutput {no pid : Int} : s.service = .openOutput no pid →
      ServiceTaken channels s .done { s.fdopen with
        current := { s.current with outputStream := some s.nextFile }
        service := .show no pid }
  /-- It cannot be opened. -/
  | openOutputFailed {no pid : Int} : s.service = .openOutput no pid →
      ServiceTaken channels s .failed { s with
        current := { s.current with outputStream := none }
        service := .closeInput }
  /-- The input is closed behind that. -/
  | closeInput {stream : File} : s.service = .closeInput →
      s.current.inputStream = some stream →
      ServiceTaken channels s .done { s.fclose stream with service := .kill .closeInput }
  /-- `mplayer_kill` begins. -/
  | killCloseInput : s.service = .kill .closeInput →
      ServiceTaken channels s .done { s.closeInput with service := .kill .closeOutput }
  /-- It goes on. -/
  | killCloseOutput : s.service = .kill .closeOutput →
      ServiceTaken channels s .done { s.closeOutput with service := .kill .signal }
  /-- It ends. -/
  | killSignal : s.service = .kill .signal →
      ServiceTaken channels s .done { s.signal with service := .idle }
  /-- The screen is shown. -/
  | shown {no pid : Int} : s.service = .show no pid →
      ServiceTaken channels s .done
        { s.setPriority "info".toList with service := .waitForPlayback no pid }
  /-- The program plays. -/
  | waitForPlayback {no pid : Int} : s.service = .waitForPlayback no pid →
      ServiceTaken channels s .done { s with service := .setPid no pid }
  /-- `pid` is set. -/
  | setPid {no pid : Int} : s.service = .setPid no pid →
      ServiceTaken channels s .done { s with
        current := { s.current with pid := pid }
        service := .setChannel no }
  /-- `channel_number` is set. -/
  | setChannel {no : Int} : s.service = .setChannel no →
      ServiceTaken channels s .done { s with
        current := { s.current with channelNumber := no }
        service := .idle }

/-- **The inversion of a step of the service thread.** -/
theorem serviceTaken_of_step {channels : List Channel} {s s' : MplayerThreads}
    {outcome : Outcome} (h : s.serviceStep channels outcome = some s') :
    ServiceTaken channels s outcome s' := by
  unfold serviceStep at h
  split at h
  · next hpc => exact Option.some.inj h ▸ .keyed hpc
  · next hpc =>
    split at h
    · next hrunning => exact Option.some.inj h ▸ .running hpc hrunning
    · next hrunning =>
      split at h
      · exact Option.some.inj h ▸ .stopped hpc (Int.not_lt.mp hrunning)
      · exact absurd h nofun
  · next hpc => exact Option.some.inj h ▸ .spawnFailed hpc
  · next hpc =>
    split at h
    · next hnew => exact Option.some.inj h ▸ .spawned hpc hnew.1
    · exact absurd h nofun
  · next hpc => exact Option.some.inj h ▸ .openInput hpc
  · next hpc => exact Option.some.inj h ▸ .openInputFailed hpc
  · next hpc => exact Option.some.inj h ▸ .openOutput hpc
  · next hpc => exact Option.some.inj h ▸ .openOutputFailed hpc
  · next hpc =>
    split at h
    · exact absurd h nofun
    · next hinput => exact Option.some.inj h ▸ .closeInput hpc hinput
  · next hpc => exact Option.some.inj h ▸ .killCloseInput hpc
  · next hpc => exact Option.some.inj h ▸ .killCloseOutput hpc
  · next hpc => exact Option.some.inj h ▸ .killSignal hpc
  · next hpc => exact Option.some.inj h ▸ .shown hpc
  · next hpc => exact Option.some.inj h ▸ .waitForPlayback hpc
  · next hpc => exact Option.some.inj h ▸ .setPid hpc
  · next hpc => exact Option.some.inj h ▸ .setChannel hpc
  · exact absurd h nofun

/-- **The steps of the dispatcher**, each with the place it is taken from. -/
inductive DispatcherTaken (s : MplayerThreads) : MplayerThreads → Prop
  /-- No program runs. -/
  | stopped : s.dispatcher = .asleep → s.current.pid ≤ 0 → DispatcherTaken s s
  /-- A program runs. -/
  | running : s.dispatcher = .asleep → 0 < s.current.pid →
      DispatcherTaken s { s with dispatcher := .testStop }
  /-- The program is to be stopped. -/
  | stop : s.dispatcher = .testStop → s.current.stopRequest = true →
      DispatcherTaken s { s with killed := true, dispatcher := .kill .closeInput }
  /-- It is not to be stopped. -/
  | noStop : s.dispatcher = .testStop → s.current.stopRequest = false →
      DispatcherTaken s { s with dispatcher := .testPause }
  /-- It is to be paused, or to go on. -/
  | pause : s.dispatcher = .testPause → s.current.pausePlayRequest = true →
      DispatcherTaken s { s with dispatcher := .playPause }
  /-- Neither of them. -/
  | noPause : s.dispatcher = .testPause → s.current.pausePlayRequest = false →
      DispatcherTaken s { s with dispatcher := .testPaused }
  /-- It is paused. -/
  | paused : s.dispatcher = .testPaused → s.current.paused = true →
      DispatcherTaken s { s with dispatcher := .waitpid }
  /-- It plays. -/
  | playing : s.dispatcher = .testPaused → s.current.paused = false →
      DispatcherTaken s { s with dispatcher := .testStreams }
  /-- `mplayer_kill` begins. -/
  | killCloseInput : s.dispatcher = .kill .closeInput →
      DispatcherTaken s { s.closeInput with dispatcher := .kill .closeOutput }
  /-- It goes on. -/
  | killCloseOutput : s.dispatcher = .kill .closeOutput →
      DispatcherTaken s { s.closeOutput with dispatcher := .kill .signal }
  /-- It ends. -/
  | killSignal : s.dispatcher = .kill .signal →
      DispatcherTaken s { s.signal with dispatcher := .clearStop }
  /-- `stop_request` is reset. -/
  | clearStop : s.dispatcher = .clearStop → DispatcherTaken s { s with
      current := { s.current with stopRequest := false }
      dispatcher := .waitpid }
  /-- The program is told to pause, or to go on. -/
  | playPause : s.dispatcher = .playPause →
      DispatcherTaken s { s.fprintf "p\n".toList with dispatcher := .togglePaused }
  /-- `paused` is toggled. -/
  | togglePaused : s.dispatcher = .togglePaused → DispatcherTaken s { s with
      current := { s.current with paused := !s.current.paused }
      dispatcher := .clearPause }
  /-- `pause_play_request` is reset. -/
  | clearPause : s.dispatcher = .clearPause → DispatcherTaken s { s with
      current := { s.current with pausePlayRequest := false }
      dispatcher := .waitpid }
  /-- There is no stream. -/
  | noStreams : s.dispatcher = .testStreams →
      DispatcherTaken s { s with dispatcher := .waitpid }
  /-- There are both. -/
  | streams : s.dispatcher = .testStreams → s.current.inputStream ≠ none →
      DispatcherTaken s { s with dispatcher := .askArtist }
  /-- The artist is asked for. -/
  | askArtist : s.dispatcher = .askArtist →
      DispatcherTaken s { s.fprintf "get_meta_artist\n".toList with dispatcher := .askTitle }
  /-- The title is asked for. -/
  | askTitle : s.dispatcher = .askTitle →
      DispatcherTaken s { s.fprintf "get_meta_title\n".toList with dispatcher := .showMetainfo }
  /-- What is known is shown. -/
  | showMetainfo : s.dispatcher = .showMetainfo →
      DispatcherTaken s { s with dispatcher := .waitpid }
  /-- The program has ended. -/
  | ended : s.dispatcher = .waitpid → s.current.pid ∈ s.ended → DispatcherTaken s { s with
      children := s.children.erase s.current.pid
      ended := s.ended.erase s.current.pid
      dispatcher := .clearPid }
  /-- It has not. -/
  | notEnded : s.dispatcher = .waitpid → s.current.pid ∉ s.ended →
      DispatcherTaken s { s with dispatcher := .asleep }
  /-- `pid` is reset. -/
  | clearPid : s.dispatcher = .clearPid → DispatcherTaken s { s with
      current := { s.current with pid := 0 }
      killed := false
      dispatcher := .clearScreen }
  /-- The screen is cleared. -/
  | clearScreen : s.dispatcher = .clearScreen →
      DispatcherTaken s { s with dispatcher := .hide }
  /-- The screen is hidden. -/
  | hide : s.dispatcher = .hide →
      DispatcherTaken s { s.setPriority "hidden".toList with dispatcher := .asleep }

/-- **The inversion of a step of the dispatcher.** -/
theorem dispatcherTaken_of_step {s s' : MplayerThreads} {outcome : Outcome}
    (h : s.dispatcherStep outcome = some s') : DispatcherTaken s s' := by
  unfold dispatcherStep at h
  split at h
  · next hpc =>
    split at h
    · next hstopped => exact Option.some.inj h ▸ .stopped hpc hstopped
    · next hstopped => exact Option.some.inj h ▸ .running hpc (Int.not_le.mp hstopped)
  · next hpc =>
    split at h
    · next hstop => exact Option.some.inj h ▸ .stop hpc hstop
    · next hstop => exact Option.some.inj h ▸ .noStop hpc (Bool.eq_false_iff.mpr hstop)
  · next hpc =>
    split at h
    · next hpause => exact Option.some.inj h ▸ .pause hpc hpause
    · next hpause => exact Option.some.inj h ▸ .noPause hpc (Bool.eq_false_iff.mpr hpause)
  · next hpc =>
    split at h
    · next hpaused => exact Option.some.inj h ▸ .paused hpc hpaused
    · next hpaused => exact Option.some.inj h ▸ .playing hpc (Bool.eq_false_iff.mpr hpaused)
  · next hpc => exact Option.some.inj h ▸ .killCloseInput hpc
  · next hpc => exact Option.some.inj h ▸ .killCloseOutput hpc
  · next hpc => exact Option.some.inj h ▸ .killSignal hpc
  · next hpc => exact Option.some.inj h ▸ .clearStop hpc
  · next hpc => exact Option.some.inj h ▸ .playPause hpc
  · next hpc => exact Option.some.inj h ▸ .togglePaused hpc
  · next hpc => exact Option.some.inj h ▸ .clearPause hpc
  · next hpc =>
    split at h
    · exact Option.some.inj h ▸ .noStreams hpc
    · next hstreams =>
      exact Option.some.inj h ▸ .streams hpc (fun hinput => hstreams (.inl hinput))
  · next hpc => exact Option.some.inj h ▸ .askArtist hpc
  · next hpc => exact Option.some.inj h ▸ .askTitle hpc
  · next hpc => exact Option.some.inj h ▸ .showMetainfo hpc
  · next hpc =>
    split at h
    · next hended => exact Option.some.inj h ▸ .ended hpc hended
    · next hended => exact Option.some.inj h ▸ .notEnded hpc hended
  · next hpc => exact Option.some.inj h ▸ .clearPid hpc
  · next hpc => exact Option.some.inj h ▸ .clearScreen hpc
  · next hpc => exact Option.some.inj h ▸ .hide hpc
  · exact absurd h nofun

/-- **The steps of the module.** -/
inductive Taken (channels : List Channel) (s : MplayerThreads) :
    MplayerAct → MplayerThreads → Prop
  /-- A key, while no program runs. -/
  | unheard {str : Str} : s.current.pid ≤ 0 → Taken channels s (.key str) s
  /-- A key, while one runs. -/
  | key {str : Str} : s.service = .idle → Taken channels s (.key str)
      { s with service := .keyed (LcdStuffMplayer.keyHandler str) }
  /-- An item of the menu. -/
  | menu {id : Str} : s.service = .idle →
      Taken channels s (.menu id) (carryOut channels s (LcdStuffMplayer.menuHandler id))
  /-- A remote command. -/
  | net {args : List Str} : s.service = .idle →
      Taken channels s (.net args) (carryOut channels s (LcdStuffMplayer.netHandler args))
  /-- The service thread goes on. -/
  | service {outcome : Outcome} {s' : MplayerThreads} :
      s.serviceStep channels outcome = some s' → Taken channels s (.service outcome) s'
  /-- The dispatcher goes on. -/
  | dispatcher {outcome : Outcome} {s' : MplayerThreads} :
      s.dispatcherStep outcome = some s' → Taken channels s (.dispatcher outcome) s'
  /-- A program ends. -/
  | exit {pid : Int} : Taken channels s (.exit pid) { s with ended := pid :: s.ended }

/-- **The inversion of a step.** -/
theorem taken_of_step {channels : List Channel} {s s' : MplayerThreads} {act : MplayerAct}
    (h : step channels s act = some s') : Taken channels s act s' := by
  cases act with
  | key str =>
    rw [step] at h
    split at h
    · exact absurd h nofun
    · next hidle =>
      split at h
      · next hpid => exact Option.some.inj h ▸ .unheard hpid
      · exact Option.some.inj h ▸ .key (not_not.mp hidle)
  | menu id =>
    rw [step] at h
    split at h
    · exact absurd h nofun
    · next hidle => exact Option.some.inj h ▸ .menu (not_not.mp hidle)
  | net args =>
    rw [step] at h
    split at h
    · exact absurd h nofun
    · next hidle => exact Option.some.inj h ▸ .net (not_not.mp hidle)
  | service outcome => exact .service h
  | dispatcher outcome => exact .dispatcher h
  | exit pid =>
    rw [step] at h
    split at h
    · exact Option.some.inj h ▸ .exit
    · exact absurd h nofun

end MplayerThreads

/-! ## Who may touch what -/

/-- The service thread is starting a program: it has seen that none runs, and
`pid` is not set yet. -/
def ServicePc.starting : ServicePc → Bool
  | .spawn _ | .openInput .. | .openOutput .. | .closeInput | .kill _ | .show ..
  | .waitForPlayback .. | .setPid .. => true
  | .idle | .keyed _ | .testPid _ | .setChannel _ => false

/-- The input of the program that is being started is open. -/
def ServicePc.opened : ServicePc → Bool
  | .openOutput .. | .show .. | .waitForPlayback .. | .setPid .. => true
  | _ => false

/-- The program that is being started. -/
def ServicePc.newPid : ServicePc → Option Int
  | .openInput _ pid | .openOutput _ pid | .show _ pid | .waitForPlayback _ pid
  | .setPid _ pid => some pid
  | _ => none

/-- The dispatcher deals with the program: it has seen that one runs, and `pid`
is not reset yet. -/
def DispatcherPc.busy : DispatcherPc → Bool
  | .asleep | .clearScreen | .hide => false
  | _ => true

/-- The dispatcher is about to write to the program. -/
def DispatcherPc.writing : DispatcherPc → Bool
  | .playPause | .askArtist | .askTitle => true
  | _ => false

namespace MplayerThreads

/-- The input stream of the program is open. -/
def InputOpen (s : MplayerThreads) : Prop :=
  s.current.inputStream.any (· ∈ s.files) = true

/-- **What keeps the threads apart**, and what is known of the streams of the
program that runs. -/
structure Invariant (s : MplayerThreads) : Prop where
  /-- The dispatcher deals with a program only while one runs. -/
  busy : s.dispatcher.busy = true → 0 < s.current.pid
  /-- The service thread starts a program only while none runs. -/
  starting : s.service.starting = true → s.current.pid ≤ 0
  /-- The program being started has a number. -/
  newPid : ∀ pid, s.service.newPid = some pid → 0 < pid
  /-- Its input is open once it was opened. -/
  opened : s.service.opened = true → s.InputOpen
  /-- Only a program that runs is killed. -/
  killed : s.killed = true → 0 < s.current.pid
  /-- What the dispatcher kills is killed. -/
  killing : ∀ pc, s.dispatcher = .kill pc → s.killed = true
  /-- A program that runs and is not killed has its input open. -/
  playing : 0 < s.current.pid → s.killed = false → s.InputOpen
  /-- A program that is killed has no input. -/
  closed : s.killed = true → s.dispatcher ≠ .kill .closeInput →
    s.current.inputStream = none
  /-- Nothing is written to a program that is killed. -/
  writing : s.dispatcher.writing = true → s.killed = false
  /-- Nothing was ever written to a stream that was not open. -/
  log : ∀ stream command isOpen, .write stream command isOpen ∈ s.log → isOpen = true

/-- The step is not one in which the dispatcher takes up a request to pause a
program that it has killed. -/
def PausesAlive (s : MplayerThreads) : MplayerAct → Prop
  | .dispatcher _ =>
    s.dispatcher = .testPause → s.current.pausePlayRequest = true → s.killed = false
  | _ => True

variable {s s' : MplayerThreads} {channels : List Channel} {outcome : Outcome}

/-- The service thread in a place where it starts nothing. -/
theorem Invariant.service (hs : Invariant s) {pc : ServicePc} (hstarting : pc.starting = false)
    (hopened : pc.opened = false) (hnewPid : pc.newPid = none) :
    Invariant { s with service := pc } :=
  { hs with
    starting := fun h => absurd h (by rw [hstarting]; decide)
    opened := fun h => absurd h (by rw [hopened]; decide)
    newPid := fun pid h => absurd h (by rw [hnewPid]; simp) }

/-- The flags and the number of the channel are of no account. -/
theorem Invariant.current (hs : Invariant s) {current : Program}
    (hpid : current.pid = s.current.pid)
    (hinput : current.inputStream = s.current.inputStream) :
    Invariant { s with current := current } := by
  obtain ⟨pid, input, _, _, _, _, _⟩ := current
  obtain rfl : pid = s.current.pid := hpid
  obtain rfl : input = s.current.inputStream := hinput
  exact { hs with }

/-- A request is carried out. -/
theorem Invariant.carryOut (hs : Invariant s) (request : Option MplayerRequest) :
    Invariant (carryOut channels s request) := by
  unfold MplayerThreads.carryOut
  split
  · exact hs
  · split
    · exact hs
    · exact hs.service rfl rfl rfl
  · exact hs
  · exact hs.current rfl rfl
  · exact hs.current rfl rfl

/-- **While no program runs**, the service thread may do to the streams what it
likes, as long as it says so. -/
theorem Invariant.stopped (hs : Invariant s) (hpid : s.current.pid ≤ 0) {pc : ServicePc}
    {current : Program} {files : List File} {nextFile : File} {log : List MplayerEvent}
    (hcurrent : current.pid = s.current.pid)
    (hopened : pc.opened = true → current.inputStream.any (· ∈ files) = true)
    (hnewPid : ∀ pid, pc.newPid = some pid → 0 < pid)
    (hlog : ∀ stream command isOpen, .write stream command isOpen ∈ log → isOpen = true) :
    Invariant { s with
      current := current, files := files, nextFile := nextFile, log := log
      service := pc } where
  busy := fun h => absurd (hs.busy h) (by omega)
  starting := fun _ => by
    show current.pid ≤ 0
    omega
  newPid := hnewPid
  opened := hopened
  killed := fun h => absurd (hs.killed h) (by omega)
  killing := hs.killing
  playing := fun h => absurd h (by
    show ¬ 0 < current.pid
    omega)
  closed := fun h => absurd (hs.killed h) (by omega)
  writing := hs.writing
  log := hlog

/-- Only writes are of account in what was done. -/
theorem log_cons {log : List MplayerEvent} {e : MplayerEvent}
    (he : ∀ stream command isOpen, e = .write stream command isOpen → isOpen = true)
    (hlog : ∀ stream command isOpen, .write stream command isOpen ∈ log → isOpen = true) :
    ∀ stream command isOpen, .write stream command isOpen ∈ e :: log → isOpen = true := by
  intro stream command isOpen hmem
  rcases List.mem_cons.mp hmem with hmem | hmem
  · exact he stream command isOpen hmem.symm
  · exact hlog stream command isOpen hmem

/-- Nothing has to be said of the streams where none is said to be open. -/
theorem Invariant.unopened (hs : Invariant s) (hpid : s.current.pid ≤ 0) {pc : ServicePc}
    {current : Program} {files : List File} {nextFile : File} {log : List MplayerEvent}
    (hcurrent : current.pid = s.current.pid) (hopened : pc.opened = false)
    (hnewPid : pc.newPid = none)
    (hlog : ∀ stream command isOpen, .write stream command isOpen ∈ log → isOpen = true) :
    Invariant { s with
      current := current, files := files, nextFile := nextFile, log := log
      service := pc } :=
  hs.stopped hpid hcurrent (fun h => absurd h (by rw [hopened]; decide))
    (fun _ h => absurd h (by rw [hnewPid]; simp)) hlog

/-- What `mplayer_kill` does to the streams while no program runs. -/
theorem Invariant.close_stopped (hs : Invariant s) (hpid : s.current.pid ≤ 0) :
    Invariant { s.closeInput with service := .kill .closeOutput }
      ∧ Invariant { s.closeOutput with service := .kill .signal } := by
  constructor
  · unfold closeInput
    split
    · exact hs.unopened hpid rfl rfl rfl hs.log
    · exact hs.unopened hpid rfl rfl rfl (log_cons (by simp) hs.log)
  · unfold closeOutput
    split
    · exact hs.unopened hpid rfl rfl rfl hs.log
    · exact hs.unopened hpid rfl rfl rfl (log_cons (by simp) hs.log)

/-- **A program was started** while none ran, and its input is open. -/
theorem Invariant.started (hs : Invariant s) (hstopped : s.current.pid ≤ 0) {no pid : Int}
    (hpid : 0 < pid) (hopen : s.InputOpen) :
    Invariant { s with
      current := { s.current with pid := pid }
      service := .setChannel no } where
  busy := fun _ => hpid
  starting := fun h => (Bool.false_ne_true h).elim
  newPid := fun _ h => absurd h (by simp [ServicePc.newPid])
  opened := fun h => (Bool.false_ne_true h).elim
  killed := fun _ => hpid
  killing := hs.killing
  playing := fun _ _ => hopen
  closed := fun h => absurd (hs.killed h) (by omega)
  writing := hs.writing
  log := hs.log

/-- **The service thread keeps the invariant.** -/
theorem invariant_serviceStep (hs : Invariant s)
    (h : s.serviceStep channels outcome = some s') : Invariant s' := by
  have hstopped : ∀ {pc}, s.service = pc → pc.starting = true → s.current.pid ≤ 0 :=
    fun hpc h => hs.starting (hpc ▸ h)
  have hnewPid : ∀ {pc pid}, s.service = pc → pc.newPid = some pid → 0 < pid :=
    fun hpc h => hs.newPid _ (hpc ▸ h)
  have hopened : ∀ {pc}, s.service = pc → pc.opened = true → s.InputOpen :=
    fun hpc h => hs.opened (hpc ▸ h)
  cases serviceTaken_of_step h with
  | keyed => exact (hs.carryOut _).service rfl rfl rfl
  | running | spawnFailed => exact hs.service rfl rfl rfl
  | stopped hpc hpid => exact hs.unopened hpid rfl rfl rfl hs.log
  | @spawned no pid hpc hpid =>
    have hstart : Invariant { s with service := .openInput no pid } :=
      hs.stopped (hstopped hpc rfl) rfl (fun h => (Bool.false_ne_true h).elim)
        (fun p h => Option.some.inj h ▸ hpid) hs.log
    exact { hstart with }
  | openInput hpc =>
    refine hs.stopped (hstopped hpc rfl) rfl (fun _ => ?_)
      (fun p h => Option.some.inj h ▸ hnewPid hpc rfl) hs.log
    exact decide_eq_true (List.mem_cons_self ..)
  | openInputFailed hpc | openOutputFailed hpc =>
    exact hs.unopened (hstopped hpc rfl) rfl rfl rfl hs.log
  | openOutput hpc =>
    -- the input stays open when the output is opened
    refine hs.stopped (hstopped hpc rfl) rfl (fun _ => ?_)
      (fun p h => Option.some.inj h ▸ hnewPid hpc rfl) hs.log
    obtain ⟨f, hf, hopen⟩ := (Option.any_eq_true _ _).mp (hopened hpc rfl)
    have hmem : f ∈ s.files := of_decide_eq_true hopen
    exact (Option.any_eq_true _ _).mpr
      ⟨f, hf, decide_eq_true (List.mem_cons_of_mem _ hmem)⟩
  | closeInput hpc | killSignal hpc =>
    exact hs.unopened (hstopped hpc rfl) rfl rfl rfl (log_cons (by simp) hs.log)
  | killCloseInput hpc => exact (hs.close_stopped (hstopped hpc rfl)).1
  | killCloseOutput hpc => exact (hs.close_stopped (hstopped hpc rfl)).2
  | shown hpc =>
    exact hs.stopped (hstopped hpc rfl) rfl (fun _ => hopened hpc rfl)
      (fun p h => Option.some.inj h ▸ hnewPid hpc rfl) (log_cons (by simp) hs.log)
  | waitForPlayback hpc =>
    exact hs.stopped (hstopped hpc rfl) rfl (fun _ => hopened hpc rfl)
      (fun p h => Option.some.inj h ▸ hnewPid hpc rfl) hs.log
  | setPid hpc =>
    -- from here on the program runs
    exact hs.started (hstopped hpc rfl) (hnewPid hpc rfl) (hopened hpc rfl)
  | @setChannel no =>
    have hset : Invariant { s with current := { s.current with channelNumber := no } } :=
      hs.current rfl rfl
    exact hset.service rfl rfl rfl

/-- The dispatcher in another place, but not in `mplayer_kill`. -/
theorem Invariant.dispatcher (hs : Invariant s) {pc : DispatcherPc}
    (hbusy : pc.busy = true → 0 < s.current.pid)
    (hclosed : s.killed = true → s.current.inputStream = none)
    (hwriting : pc.writing = true → s.killed = false)
    (hkilling : ∀ k, pc ≠ .kill k) : Invariant { s with dispatcher := pc } :=
  { hs with
    busy := hbusy
    killing := fun k h => absurd h (hkilling k)
    closed := fun h _ => hclosed h
    writing := hwriting }

/-- A command is written while the input is open. -/
theorem Invariant.fprintf (hs : Invariant s) (hopen : s.InputOpen) (command : Str) :
    Invariant (s.fprintf command) :=
  { hs with
    log := log_cons (fun _ _ _ h => by
      injection h with _ _ h
      rw [← h]
      exact hopen) hs.log }

/-- What `mplayer_kill` does to the streams of a program that is killed. -/
theorem Invariant.close_killed (hs : Invariant s) (hkilled : s.killed = true) :
    Invariant { s.closeInput with dispatcher := .kill .closeOutput }
      ∧ (s.current.inputStream = none →
        Invariant { s.closeOutput with dispatcher := .kill .signal }) := by
  have hpid := hs.killed hkilled
  have hservice : s.service.opened = true → s.service.starting = true := by
    cases s.service <;> simp [ServicePc.opened, ServicePc.starting]
  have hopened : s.service.opened ≠ true :=
    fun h => absurd (hs.starting (hservice h)) (by omega)
  have hplaying : s.killed ≠ false := by
    rw [hkilled]
    decide
  have hstays {current : Program} {files : List File} {log : List MplayerEvent} {k : KillPc}
      (hcurrent : current.pid = s.current.pid) (hclosed : current.inputStream = none)
      (hlog : ∀ stream command isOpen, .write stream command isOpen ∈ log → isOpen = true) :
      Invariant { s with
        current := current, files := files, log := log, dispatcher := .kill k } :=
    { hs with
      busy := fun _ => hcurrent ▸ hpid
      starting := fun h => hcurrent ▸ hs.starting h
      opened := fun h => absurd h hopened
      killed := fun _ => hcurrent ▸ hpid
      killing := fun _ _ => hkilled
      playing := fun _ h => absurd h hplaying
      closed := fun _ _ => hclosed
      writing := fun h => (Bool.false_ne_true h).elim
      log := hlog }
  constructor
  · unfold closeInput
    split
    · next hinput => exact hstays rfl hinput hs.log
    · exact hstays rfl rfl (log_cons (by simp) hs.log)
  · intro hinput
    unfold closeOutput
    split
    · exact hstays rfl hinput hs.log
    · exact hstays rfl hinput (log_cons (by simp) hs.log)

/-- A request to stop the program is taken up. -/
theorem Invariant.takenUp (hs : Invariant s) (hpid : 0 < s.current.pid) :
    Invariant { s with killed := true, dispatcher := .kill .closeInput } :=
  { hs with
    busy := fun _ => hpid
    killed := fun _ => hpid
    killing := fun _ _ => rfl
    playing := fun _ h => absurd h (by simp)
    closed := fun _ h => absurd rfl h
    writing := fun h => (Bool.false_ne_true h).elim }

/-- The program was reaped. -/
theorem Invariant.reaped (hs : Invariant s) :
    Invariant { s with
      current := { s.current with pid := 0 }
      killed := false
      dispatcher := .clearScreen } :=
  { hs with
    busy := fun h => (Bool.false_ne_true h).elim
    starting := fun _ => Int.le_refl 0
    killed := fun h => (Bool.false_ne_true h).elim
    killing := fun _ h => absurd h (by simp)
    playing := fun h => absurd h (by simp)
    closed := fun h => (Bool.false_ne_true h).elim
    writing := fun _ => rfl }

/-- **The dispatcher keeps the invariant** when it takes up no request to pause
a program that it has killed. -/
theorem invariant_dispatcherStep (hs : Invariant s)
    (hpauses : s.dispatcher = .testPause → s.current.pausePlayRequest = true →
      s.killed = false)
    (h : s.dispatcherStep outcome = some s') : Invariant s' := by
  have hbusy : ∀ {pc}, s.dispatcher = pc → pc.busy = true → 0 < s.current.pid :=
    fun hpc h => hs.busy (hpc ▸ h)
  have hclosed : ∀ {pc}, s.dispatcher = pc → pc ≠ .kill .closeInput → s.killed = true →
      s.current.inputStream = none :=
    fun hpc hne h => hs.closed h (hpc ▸ hne)
  have hopen : ∀ {pc}, s.dispatcher = pc → pc.busy = true → pc.writing = true →
      s.InputOpen :=
    fun hpc hb hw => hs.playing (hbusy hpc hb) (hs.writing (hpc ▸ hw))
  -- most steps only move on
  have hmove : ∀ {pc}, s.dispatcher = pc → pc.busy = true → pc ≠ .kill .closeInput →
      ∀ pc' : DispatcherPc, pc'.writing = false → (∀ k, pc' ≠ .kill k) →
      Invariant { s with dispatcher := pc' } :=
    fun hpc hb hne _ hw hk => hs.dispatcher (fun _ => hbusy hpc hb) (hclosed hpc hne)
      (fun h => absurd h (by rw [hw]; decide)) hk
  cases dispatcherTaken_of_step h with
  | stopped => exact hs
  | running hpc hpid =>
    exact hs.dispatcher (fun _ => hpid) (hclosed hpc (by simp))
      (fun h => (Bool.false_ne_true h).elim) (by simp)
  | stop hpc => exact hs.takenUp (hbusy hpc rfl)
  | pause hpc hpause =>
    exact hs.dispatcher (fun _ => hbusy hpc rfl) (hclosed hpc (by simp))
      (fun _ => hpauses hpc hpause) (by simp)
  | noStop hpc | noPause hpc | paused hpc | playing hpc | noStreams hpc | showMetainfo hpc
  | notEnded hpc => exact hmove hpc rfl (by simp) _ rfl (by simp)
  | killCloseInput hpc => exact (hs.close_killed (hs.killing _ hpc)).1
  | killCloseOutput hpc =>
    have hkilled := hs.killing _ hpc
    exact (hs.close_killed hkilled).2 (hclosed hpc (by simp) hkilled)
  | killSignal hpc =>
    have hstop := hmove hpc rfl (by simp) .clearStop rfl (by simp)
    exact { hstop with log := log_cons (by simp) hs.log }
  | clearStop hpc | clearPause hpc =>
    exact (hmove hpc rfl (by simp) .waitpid rfl (by simp)).current rfl rfl
  | playPause hpc =>
    have hpaused := hmove hpc rfl (by simp) .togglePaused rfl (by simp)
    exact { hpaused with log := (hs.fprintf (hopen hpc rfl rfl) _).log }
  | togglePaused hpc => exact (hmove hpc rfl (by simp) .clearPause rfl (by simp)).current rfl rfl
  | streams hpc hinput =>
    -- a program that is killed has lost its input
    refine hs.dispatcher (fun _ => hbusy hpc rfl) (hclosed hpc (by simp)) (fun _ => ?_)
      (by simp)
    exact Bool.eq_false_iff.mpr (fun hkilled => hinput (hclosed hpc (by simp) hkilled))
  | askArtist hpc =>
    have htitle : Invariant { s with dispatcher := .askTitle } :=
      hs.dispatcher (fun _ => hbusy hpc rfl) (hclosed hpc (by simp))
        (fun _ => hs.writing (hpc ▸ rfl)) (by simp)
    exact { htitle with log := (hs.fprintf (hopen hpc rfl rfl) _).log }
  | askTitle hpc =>
    have hshow := hmove hpc rfl (by simp) .showMetainfo rfl (by simp)
    exact { hshow with log := (hs.fprintf (hopen hpc rfl rfl) _).log }
  | ended hpc =>
    have hreap := hmove hpc rfl (by simp) .clearPid rfl (by simp)
    exact { hreap with }
  | clearPid => exact hs.reaped
  | clearScreen hpc =>
    exact hs.dispatcher (fun h => (Bool.false_ne_true h).elim) (hclosed hpc (by simp))
      (fun h => (Bool.false_ne_true h).elim) (by simp)
  | hide hpc =>
    have hasleep : Invariant { s with dispatcher := .asleep } :=
      hs.dispatcher (fun h => (Bool.false_ne_true h).elim) (hclosed hpc (by simp))
        (fun h => (Bool.false_ne_true h).elim) (by simp)
    exact { hasleep with log := log_cons (by simp) hs.log }

/-- **Every step keeps the invariant** under the condition. -/
theorem invariant_step (hs : Invariant s) {act : MplayerAct} (hpauses : PausesAlive s act)
    (h : step channels s act = some s') : Invariant s' := by
  cases taken_of_step h with
  | unheard => exact hs
  | key => exact hs.service rfl rfl rfl
  | menu | net => exact hs.carryOut _
  | service hservice => exact invariant_serviceStep hs hservice
  | dispatcher hdispatcher => exact invariant_dispatcherStep hs hpauses hdispatcher
  | exit => exact { hs with }

/-- The invariant holds once `mplayer_init` has returned. -/
theorem invariant_init : Invariant init where
  busy := fun h => (Bool.false_ne_true h).elim
  starting := fun h => (Bool.false_ne_true h).elim
  newPid := fun _ h => absurd h (by simp [init, ServicePc.newPid])
  opened := fun h => (Bool.false_ne_true h).elim
  killed := fun h => (Bool.false_ne_true h).elim
  killing := fun _ h => absurd h (by simp [init])
  playing := fun h => absurd h (by decide)
  closed := fun h => (Bool.false_ne_true h).elim
  writing := fun h => (Bool.false_ne_true h).elim
  log := fun _ _ _ h => absurd h (by simp [init])

/-- **Whoever is at it is alone**: while a program is started the dispatcher
deals with none. -/
theorem not_busy_of_starting (hs : Invariant s) (h : s.service.starting = true) :
    s.dispatcher.busy = false :=
  Bool.eq_false_iff.mpr (fun hbusy => absurd (hs.starting h) (by
    have := hs.busy hbusy
    omega))

/-- A request to pause that is taken up for a program that was killed is
written to `NULL`. -/
theorem write_of_pause_killed (hs : Invariant s) (hpc : s.dispatcher = .testPause)
    (hpause : s.current.pausePlayRequest = true) (hkilled : s.killed = true) :
    ∃ s₁ s₂, s.dispatcherStep .done = some s₁ ∧ s₁.dispatcherStep .done = some s₂
      ∧ .write none "p\n".toList false ∈ s₂.log := by
  have hinput : s.current.inputStream = none := hs.closed hkilled (by rw [hpc]; simp)
  refine ⟨{ s with dispatcher := .playPause }, _, ?_, rfl, ?_⟩
  · simp [dispatcherStep, hpc, hpause]
  · rw [← hinput]
    have hclosed : s.current.inputStream.any (· ∈ s.files) = false := by
      rw [hinput]
      rfl
    rw [← hclosed]
    exact List.mem_cons_self ..

instance (s : MplayerThreads) (act : MplayerAct) : Decidable (PausesAlive s act) :=
  match act with
  | .dispatcher _ =>
    inferInstanceAs (Decidable (s.dispatcher = .testPause →
      s.current.pausePlayRequest = true → s.killed = false))
  | .key _ | .menu _ | .net _ | .service _ | .exit _ => inferInstanceAs (Decidable True)

/-- **A command is written only while the input is open**, in every run in
which no request to pause is taken up between a stop and the reaping. -/
theorem writes_open_of_reachableBy {channels : List Channel} {s : MplayerThreads}
    (hs : (system channels).ReachableBy PausesAlive s) :
    ∀ stream command isOpen, .write stream command isOpen ∈ s.log → isOpen = true :=
  (hs.invariant Invariant invariant_init
    (fun _ _ _ hI hpauses h => invariant_step hI hpauses h)).log

/-- A program is started and paused. -/
theorem writes_open_of_reachableBy_pause :
    ∃ s, (system [⟨"radio".toList, "http://radio".toList, false⟩]).ReachableBy PausesAlive s
      ∧ .write (some 0) "p\n".toList true ∈ s.log
      ∧ ∀ stream command isOpen, .write stream command isOpen ∈ s.log → isOpen = true := by
  let sys := system [⟨"radio".toList, "http://radio".toList, false⟩]
  let start : List MplayerAct := [.net ["play".toList, "0".toList], .service .done,
    .service (.spawned 42), .service .done, .service .done, .service .done, .service .done,
    .service .done, .service .done]
  let run := sys.replay PausesAlive sys.init (start ++ [.key "Up".toList, .service .done,
    .dispatcher .done, .dispatcher .done, .dispatcher .done, .dispatcher .done])
  have hrun : run.map (fun s => decide (.write (some 0) "p\n".toList true ∈ s.log))
      = some true := by decide +kernel
  obtain ⟨s, hs, hlog⟩ := StepSystem.exists_reachableBy_of_replay hrun
  exact ⟨s, hs, of_decide_eq_true hlog, writes_open_of_reachableBy hs⟩

/-- A program is stopped, and before it is reaped a request to pause is taken
up. -/
theorem not_forall_writes_open :
    ¬ ∀ (channels : List Channel) (s : MplayerThreads), (system channels).Reachable s →
      ∀ stream command isOpen, .write stream command isOpen ∈ s.log → isOpen = true := by
  intro h
  let sys := system [⟨"radio".toList, "http://radio".toList, false⟩]
  let start : List MplayerAct := [.net ["play".toList, "0".toList], .service .done,
    .service (.spawned 42), .service .done, .service .done, .service .done, .service .done,
    .service .done, .service .done]
  let stop : List MplayerAct := [.net ["stop".toList], .dispatcher .done, .dispatcher .done,
    .dispatcher .done, .dispatcher .done, .dispatcher .done, .dispatcher .done,
    .dispatcher .done]
  let run := sys.replayAny sys.init (start ++ stop ++ [.net ["pause_play".toList],
    .dispatcher .done, .dispatcher .done, .dispatcher .done, .dispatcher .done])
  have hrun : run.map (fun s => decide (.write none "p\n".toList false ∈ s.log))
      = some true := by decide +kernel
  obtain ⟨s, hs, hlog⟩ := StepSystem.exists_reachableBy_of_replay hrun
  exact absurd (h _ s hs _ _ _ (of_decide_eq_true hlog)) (by decide)

end MplayerThreads
