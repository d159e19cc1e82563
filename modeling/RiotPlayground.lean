import RiotPlayground.Lib.TransitionSystem
import RiotPlayground.Lib.FirstWins
import RiotPlayground.Lib.Tiling
import RiotPlayground.Lib.PyText
import RiotPlayground.Lib.Buffer
import RiotPlayground.Lib.OnesComplement
import RiotPlayground.Lib.Scanf
import RiotPlayground.Lib.FlatJson
import RiotPlayground.Lib.Dict
import RiotPlayground.Lib.SendLimit
import RiotPlayground.Lib.Logged
import RiotPlayground.Lib.UdpNhc
import RiotPlayground.Lib.BitField
import RiotPlayground.Lib.Mutex
import RiotPlayground.Lib.Atoi
import RiotPlayground.Websniffer.Sixlowpan
import RiotPlayground.Websniffer.Dissect
import RiotPlayground.Websniffer.ReassemblySound
import RiotPlayground.Websniffer.ReassemblyComplete
import RiotPlayground.Websniffer.ReassemblyTimers
import RiotPlayground.Websniffer.ReassemblyBounded
import RiotPlayground.Websniffer.Sniffer
import RiotPlayground.Websniffer.Dump
import RiotPlayground.Websniffer.PktLine
import RiotPlayground.Websniffer.CaptureLog
import RiotPlayground.Websniffer.Resync
import RiotPlayground.Websniffer.Follow
import RiotPlayground.Websniffer.EmptyLog
import RiotPlayground.Websniffer.Config
import RiotPlayground.Websniffer.PktDict
import RiotPlayground.Websniffer.Closing
import RiotPlayground.StackComparison.Exp
import RiotPlayground.StackComparison.ExpRiot
import RiotPlayground.StackComparison.ExpLoops
import RiotPlayground.StackComparison.ExpFrames
import RiotPlayground.StackComparison.ExpSweep
import RiotPlayground.StackComparison.ExpChecksum
import RiotPlayground.StackComparison.ExpPorts
import RiotPlayground.StackComparison.SendProbe
import RiotPlayground.StackComparison.Adapters
import RiotPlayground.StackComparison.Power
import RiotPlayground.StackComparison.SendWindow
import RiotPlayground.Client.Parse
import RiotPlayground.Client.HexText
import RiotPlayground.Client.Userctx
import RiotPlayground.Client.Commit
import RiotPlayground.Client.Shell
import RiotPlayground.Client.Bounds
import RiotPlayground.Client.Atomic
import RiotPlayground.Client.Pieces
import RiotPlayground.Client.Switch
import RiotPlayground.Luke.Common
import RiotPlayground.Luke.Controller
import RiotPlayground.Luke.Conservation
import RiotPlayground.Luke.SendLimit
import RiotPlayground.Luke.SendChain
import RiotPlayground.Luke.Pdu
import RiotPlayground.Luke.Display
import RiotPlayground.Luke.DisplayCounter
import RiotPlayground.Luke.Dino
import RiotPlayground.Luke.DinoTimer
import RiotPlayground.Luke.PointsMessage
import RiotPlayground.Luke.PointsFormat
import RiotPlayground.Luke.Victory
import RiotPlayground.Luke.DisplayThreads
import RiotPlayground.Luke.Wakeup
import RiotPlayground.Luke.DisplayRanges
import RiotPlayground.Luke.NearlyFull
import RiotPlayground.Luke.Observers
import RiotPlayground.Luke.Target
import RiotPlayground.Luke.TargetUpdate
import RiotPlayground.Luke.TargetRoundTrip
import RiotPlayground.Luke.TargetWalk
import RiotPlayground.Luke.TargetPath
import RiotPlayground.Luke.TargetReads
import RiotPlayground.Button.Button
import RiotPlayground.Button.TargetReads
import RiotPlayground.Button.SendLimit
import RiotPlayground.Button.LastTarget
import RiotPlayground.Button.Debounce
import RiotPlayground.Button.Setup
import RiotPlayground.Webterminal.Terminal
import RiotPlayground.Webterminal.Isolated
import RiotPlayground.Webterminal.Configured
import RiotPlayground.Webterminal.LogLines
import RiotPlayground.Webterminal.Page
import RiotPlayground.Webterminal.Query
import RiotPlayground.CoapService.Client
import RiotPlayground.CoapService.Observer
import RiotPlayground.CoapService.Service
import RiotPlayground.CoapService.MainCalls
import RiotPlayground.CoapService.MainTasks
import RiotPlayground.CoapService.Balanced
import RiotPlayground.CoapService.Wiring
import RiotPlayground.CoapService.Restarts
import RiotPlayground.Webfrontend.Registry
import RiotPlayground.Webfrontend.Sockets
import RiotPlayground.Webfrontend.ParseLink
import RiotPlayground.Webfrontend.NodeNames
import RiotPlayground.Webfrontend.View
import RiotPlayground.Webfrontend.LinkOrder
import RiotPlayground.Wand.Clock
import RiotPlayground.Wand.Registered
import RiotPlayground.Wand.Light
import RiotPlayground.Wand.Channels
import RiotPlayground.Wand.Shown
import RiotPlayground.BitfieldTest.Nib
import RiotPlayground.GcoapObsTest.Pauser
import RiotPlayground.UdpTest.Send
import RiotPlayground.UdpTest.Server
import RiotPlayground.UdpTest.Session
import RiotPlayground.CoapService.RequestHandler
import RiotPlayground.Webfrontend.DropTarget
import RiotPlayground.Webfrontend.DifficultyButtons
