import LcdStuff.Loop
import LcdStuff.StepSystem
import LcdStuff.Code
import LcdStuff.Holders
import LcdStuff.LineBreaks
import LcdStuff.Carousel
import LcdStuff.Periodic
import LcdStuff.Heap
import LcdStuff.Numbered
import LcdStuff.Getopt
import LcdStuff.CString
import LcdStuff.Wrap
import LcdStuff.LineEnds
import LcdStuff.Screen
import LcdStuff.Widgets
import LcdStuff.LcdServer
import LcdStuff.Display
import LcdStuff.Rss
import LcdStuff.Feeds
import LcdStuff.Handshake
import LcdStuff.Service
import LcdStuff.Serving
import LcdStuff.ServiceLoop
import LcdStuff.Keepalive
import LcdStuff.Sending
import LcdStuff.Server
import LcdStuff.Receiving
import LcdStuff.Sockets
import LcdStuff.Greeting
import LcdStuff.CommandLine
import LcdStuff.NetInput
import LcdStuff.Replies
import LcdStuff.Modules
import LcdStuff.Threads
import LcdStuff.Release
import LcdStuff.Lifetime
import LcdStuff.Configuration
import LcdStuff.Exit
import LcdStuff.Mplayer
import LcdStuff.Metainfo
import LcdStuff.Channels
import LcdStuff.Pieces
import LcdStuff.Remote
import LcdStuff.MplayerThreads
import LcdStuff.MplayerRequests
import LcdStuff.MplayerProcess
import LcdStuff.MplayerStreams
import LcdStuff.MplayerSlave
import LcdStuff.RemoteScript
import LcdStuff.Mpd
import LcdStuff.SongDisplay
import LcdStuff.MpdMemory
import LcdStuff.MpdScreen
import LcdStuff.Starting
import LcdStuff.Standby
import LcdStuff.Reconnect
import LcdStuff.Weather
import LcdStuff.WeatherDocument
import LcdStuff.WeatherScreen
import LcdStuff.FromOutside
import LcdStuff.Playlists
import LcdStuff.MenuInStep
import LcdStuff.Mail
import LcdStuff.MailDisplay
import LcdStuff.MailCounts
import LcdStuff.MailTypes
import LcdStuff.Navigation
import LcdStuff.MailScreen
import LcdStuff.MailRun
import LcdStuff.MailMemory
import LcdStuff.MailMemoryRun
import LcdStuff.RssScreen
import LcdStuff.WrapMemory
import LcdStuff.RssMemory
import LcdStuff.Settings
