import AsciiStreamer.Lib.Machine
import AsciiStreamer.Lib.Text
import AsciiStreamer.Lib.FileStream
import AsciiStreamer.Lib.Timer
import AsciiStreamer.Recording.RecordController
import AsciiStreamer.Recording.Format
import AsciiStreamer.Recording.Playback
import AsciiStreamer.Recording.RoundTrip
import AsciiStreamer.Recording.Commands
import AsciiStreamer.Stream.StreamController
import AsciiStreamer.Stream.StreamSystem
import AsciiStreamer.Stream.CaptureLoop
import AsciiStreamer.Stream.Camera
import AsciiStreamer.Lib.DropOldest
import AsciiStreamer.Lib.Json
import AsciiStreamer.Lib.Utf8
import AsciiStreamer.Lib.Dump
import AsciiStreamer.Session.WebSocketSession
import AsciiStreamer.Session.Messages
import AsciiStreamer.Session.Writer
import AsciiStreamer.Session.BackPressure
import AsciiStreamer.Session.Replies
import AsciiStreamer.Session.Frames
import AsciiStreamer.Session.InFlight
import AsciiStreamer.Session.Authority
import AsciiStreamer.Server.Server
import AsciiStreamer.Stream.Viewers
import AsciiStreamer.Server.Access
import AsciiStreamer.Session.Lifetime
import AsciiStreamer.Server.Subscription
import AsciiStreamer.Server.Order
import AsciiStreamer.Lib.Path
import AsciiStreamer.Http.HttpSession
import AsciiStreamer.Http.Confinement
import AsciiStreamer.Recording.Shown
import AsciiStreamer.Recording.CutOff
import AsciiStreamer.Http.Listing
import AsciiStreamer.Http.Reported
import AsciiStreamer.Http.Handler
import AsciiStreamer.Http.Escape
import AsciiStreamer.Http.Names
import AsciiStreamer.Recording.Overwrite
import AsciiStreamer.Server.Handlers
import AsciiStreamer.Server.Acknowledged
import AsciiStreamer.Server.Failures
import AsciiStreamer.Stream.Resolution
import AsciiStreamer.Stream.Stopping
import AsciiStreamer.Recording.Timing
import AsciiStreamer.Recording.History
import AsciiStreamer.Stream.AsciiConverter
import AsciiStreamer.Http.Complete
import AsciiStreamer.Server.Arithmetic
import AsciiStreamer.Server.Duplicates
import AsciiStreamer.Stream.PlaybackSession
import AsciiStreamer.Server.PlaybackSession
import AsciiStreamer.Server.Outliving
import AsciiStreamer.Http.Tunnel
import AsciiStreamer.Recording.Written
import AsciiStreamer.Recording.Delays
import AsciiStreamer.Server.Answers
import AsciiStreamer.Session.Dialogue
import AsciiStreamer.Server.Sessions
import AsciiStreamer.Server.Delivery
import AsciiStreamer.Recording.Finishing
import AsciiStreamer.Server.Ending
import AsciiStreamer.Server.Pictures
import AsciiStreamer.Stream.Replay
import AsciiStreamer.Server.Replay
import AsciiStreamer.Server.Stops
import AsciiStreamer.Server.Serving
import AsciiStreamer.Lib.Folder
import AsciiStreamer.Program.Program
import AsciiStreamer.Program.Listed
import AsciiStreamer.Program.Recordings
import AsciiStreamer.Lib.Browser
import AsciiStreamer.Server.Handed
import AsciiStreamer.Web.Visit
import AsciiStreamer.Web.Coming
import AsciiStreamer.Web.App
import AsciiStreamer.Web.Controller
import AsciiStreamer.Web.Screen
import AsciiStreamer.Web.RecordingsManager
import AsciiStreamer.Web.RemoteStreamViewer
