import LcdStuff.Code
import LcdStuff.Service

/-!
# The threads of the modules

Each of the five modules runs in a thread of its own. Of what these threads do
only matters here how they use the service thread: they register a client,
queue commands, and unregister. Their run functions are given as code whose
accesses are those of `service_thread_register_client`,
`service_thread_command` and `service_thread_unregister_client`. Each of the
three functions looks at `g_exit` first, and at nothing else afterwards, so
another thread may change `g_exit` between the two.

What a function of a module is called with, and how often it loops, is left
open where it depends on the configuration or on what the module has
downloaded.
-/

/-- The modules, in the order in which `main` starts them. -/
inductive LcdModule where
  /-- `mplayer_run` -/
  | mplayer
  /-- `rss_run` -/
  | rss
  /-- `mail_run` -/
  | mail
  /-- `weather_run` -/
  | weather
  /-- `mpd_run` -/
  | mpd
  deriving DecidableEq, Repr

/-- What a module's thread does with what it shares. -/
inductive Access where
  /-- The insertions into the two tables, under the mutex. -/
  | insert (client : Client)
  /-- `g_atomic_int_inc (&client_number)` -/
  | countUp
  /-- The removals from the two tables, under the mutex. -/
  | remove (name : Str)
  /-- `g_atomic_int_dec_and_test (&client_number)` -/
  | countDown
  /-- `g_exit = true`, if it was the last client. -/
  | exitIfLast
  /-- `g_async_queue_push` -/
  | push
  /-- `rss_init` or `mail_init` has returned `false`. It touches nothing. -/
  | initFailed
  deriving DecidableEq, Repr

/-- What a module's thread tests of what it shares. -/
inductive Test where
  /-- `g_exit` -/
  | gExit
  deriving DecidableEq, Repr

/-- The code of a module's thread. -/
abbrev ModuleCode := Code Access Test

namespace LcdModule

open Code

/-! ## The interface of the service thread -/

/-- `service_thread_register_client` -/
def registerClient (client : Client) : ModuleCode :=
  .unless .gExit (chain [.act (.insert client), .act .countUp])

/-- `service_thread_unregister_client` -/
def unregisterClient (name : Str) : ModuleCode :=
  .unless .gExit (chain [.act (.remove name), .act .countDown, .act .exitIfLast])

/-- `service_thread_command` -/
def command : ModuleCode := .unless .gExit (.act .push)

/-! ## The commands of a screen -/

/-- `screen_create` -/
def screenCreate : ModuleCode := chain [command, .either .skip command, .many command]

/-- `screen_set_title`: there may be no room for a title. -/
def screenSetTitle : ModuleCode := .either .skip command

/-- `screen_set_name` -/
def screenSetName : ModuleCode := command

/-- `screen_set_priority` -/
def screenSetPriority : ModuleCode := command

/-- `screen_show_text`: the line may not be there, or the text. -/
def screenShowText : ModuleCode := .either .skip command

/-- `screen_clear` -/
def screenClear : ModuleCode := .many screenShowText

/-- `screen_destroy` -/
def screenDestroy : ModuleCode := command

/-! ## `mplayer.c` -/

/-- `mplayer_init`, and what is done when it returns `true` or `false`. -/
def mplayerInit (client : Client) (yes no : ModuleCode) : ModuleCode :=
  chain [registerClient client, screenCreate, screenSetPriority, command, command,
    screenSetTitle,
    .either no (chain [command, .many (.either .skip (chain [command, command])), yes])]

/-- `mplayer_update_metainfo` -/
def mplayerUpdateMetainfo : ModuleCode :=
  .either .skip (chain [screenShowText, screenShowText, screenShowText])

/-- `mplayer_check_child` -/
def mplayerCheckChild : ModuleCode := .either .skip (chain [screenClear, screenSetPriority])

/-- A round of the dispatcher of `mplayer_run`. -/
def mplayerDispatch : ModuleCode :=
  .either .skip (chain [mplayerUpdateMetainfo, mplayerCheckChild])

/-- `mplayer_run` -/
def mplayerRun (client : Client) : ModuleCode :=
  chain [.either .ret .skip,
    mplayerInit client (chain [.until .gExit mplayerDispatch, screenDestroy]) .skip,
    unregisterClient "mplayer".toList]

/-! ## `rss.c` -/

/-- `rss_init`, and what is done when it returns `true` or `false`. -/
def rssInit (client : Client) (yes no : ModuleCode) : ModuleCode :=
  chain [registerClient client, screenCreate, command, command, .either no yes]

/-- `update_screen_receiving` -/
def updateScreenReceiving : ModuleCode := chain [screenSetTitle, screenClear, screenShowText]

/-- `update_screen_news` -/
def updateScreenNews : ModuleCode :=
  .either .skip (chain [screenSetTitle, screenClear, .many screenShowText])

/-- A round of the dispatcher of `rss_run`. -/
def rssDispatch : ModuleCode :=
  .either .skip (chain [.many updateScreenReceiving, updateScreenNews])

/-- `rss_run` -/
def rssRun (client : Client) : ModuleCode :=
  chain [.either .ret .skip,
    rssInit client
      (chain [.until .gExit rssDispatch, unregisterClient "rss".toList, screenDestroy])
      (chain [.act .initFailed, .ret])]

/-! ## `mail.c` -/

/-- `mail_init`, and what is done when it returns `true` or `false`. -/
def mailInit (client : Client) (yes no : ModuleCode) : ModuleCode :=
  chain [registerClient client, screenCreate, screenSetName, command, command,
    .either no yes]

/-- `update_screen` -/
def updateScreen : ModuleCode :=
  chain [screenSetTitle, screenShowText, screenShowText, screenShowText]

/-- A round of the dispatcher of `mail_run`. -/
def mailDispatch : ModuleCode := .either .skip (chain [.many updateScreen, updateScreen])

/-- `mail_run` -/
def mailRun (client : Client) : ModuleCode :=
  chain [.either .ret .skip,
    mailInit client
      (chain [.until .gExit mailDispatch, unregisterClient "mail".toList, screenDestroy])
      (chain [.act .initFailed, .ret])]

/-! ## `weather.c` -/

/-- `weather_init`, which never returns `false`. -/
def weatherInit (client : Client) : ModuleCode :=
  chain [registerClient client, screenCreate, screenSetName, screenSetTitle]

/-- `weather_update` -/
def weatherUpdate : ModuleCode :=
  .either .skip (chain [screenShowText, screenShowText, screenShowText])

/-- `weather_run` -/
def weatherRun (client : Client) : ModuleCode :=
  chain [.either .ret .skip, weatherInit client,
    .until .gExit (.either .skip weatherUpdate),
    unregisterClient "weather".toList, screenDestroy]

/-! ## `mpd.c` -/

/-- `mpd_init`, which never returns `false`. -/
def mpdInit (client : Client) : ModuleCode :=
  chain [registerClient client, screenCreate, command, command, command, screenSetTitle]

/-- The handlers that the library for the player calls. -/
def mpdStateChangedHandler : ModuleCode := .many screenClear

/-- `mpd_update_status_time` -/
def mpdUpdateStatusTime : ModuleCode :=
  .either .skip
    (chain [.either .skip (chain [screenShowText, screenShowText]), screenShowText])

/-- `mpd_update_playlist_menu` -/
def mpdUpdatePlaylistMenu : ModuleCode :=
  .either .skip (chain [.either .skip command, command, command, .many command])

/-- A round of the dispatcher of `mpd_run`. -/
def mpdDispatch : ModuleCode :=
  chain [.either .skip mpdStateChangedHandler,
    .either .skip
      (chain [mpdStateChangedHandler, mpdUpdateStatusTime,
        .either .skip mpdUpdatePlaylistMenu, .either .skip command])]

/-- `mpd_run`: one of `mpd_init_connection` and `mpd_start_connection` may
fail. -/
def mpdRun (client : Client) : ModuleCode :=
  chain [.either .ret .skip, mpdInit client, mpdStateChangedHandler,
    .either .skip (.until .gExit mpdDispatch),
    screenDestroy, unregisterClient "mpd".toList]

/-! ## The five of them -/

/-- The client that a module registers, with what its memory reads as. -/
def client (bytes : LcdModule → Str) : LcdModule → Client
  | .mplayer => mplayerClient (bytes .mplayer)
  | .rss => rssClient (bytes .rss)
  | .mail => mailClient (bytes .mail)
  | .weather => weatherClient (bytes .weather)
  | .mpd => mpdClient (bytes .mpd)

/-- The run function of a module. -/
def run (bytes : LcdModule → Str) (m : LcdModule) : ModuleCode :=
  match m with
  | .mplayer => mplayerRun (m.client bytes)
  | .rss => rssRun (m.client bytes)
  | .mail => mailRun (m.client bytes)
  | .weather => weatherRun (m.client bytes)
  | .mpd => mpdRun (m.client bytes)

end LcdModule
