import PixelPilot.Library.Transition
import PixelPilot.Library.LatestSlot
import PixelPilot.Library.Fallible
import PixelPilot.Library.Handover
import PixelPilot.Library.Rounding
import PixelPilot.Library.Ledger
import PixelPilot.Library.Terminated
import PixelPilot.Library.Assignments
import PixelPilot.Library.ArgumentLoop
import PixelPilot.Library.Letterbox
import PixelPilot.Library.Search
import PixelPilot.Library.Block
import PixelPilot.Library.Custody
import PixelPilot.Library.ByteReader
import PixelPilot.Library.BoxFile
import PixelPilot.Library.MediaFile
import PixelPilot.Library.DecoderConfiguration
import PixelPilot.Library.ByteStream
import PixelPilot.Library.PositionedWrites
import PixelPilot.Decoder.Model
import PixelPilot.Decoder.Mailbox
import PixelPilot.Decoder.Framebuffers
import PixelPilot.Decoder.Resources
import PixelPilot.Decoder.Lifetime
import PixelPilot.Decoder.Plane
import PixelPilot.Decoder.CopyPacket
import PixelPilot.Decoder.Packets
import PixelPilot.Pipeline.UdpReceiver
import PixelPilot.Pipeline.Datagrams
import PixelPilot.Pipeline.ReceiverLifecycle
import PixelPilot.Pipeline.Model
import PixelPilot.Pipeline.BusThread
import PixelPilot.Pipeline.AppsinkJoin
import PixelPilot.Pipeline.ReceiverJoin
import PixelPilot.Pipeline.Start
import PixelPilot.Pipeline.StartFailures
import PixelPilot.Pipeline.Fields
import PixelPilot.Minimp4.Boxes
import PixelPilot.Minimp4.Mux
import PixelPilot.Minimp4.NalUnits
import PixelPilot.Minimp4.Errors
import PixelPilot.Minimp4.Waiting
import PixelPilot.Minimp4.Timeline
import PixelPilot.Minimp4.Layout
import PixelPilot.Minimp4.IndexTables
import PixelPilot.Minimp4.Playback
import PixelPilot.Minimp4.ParameterSets
import PixelPilot.Minimp4.IndexBuffer
import PixelPilot.Minimp4.Appending
import PixelPilot.Recorder.OutputPath
import PixelPilot.Recorder.OutputName
import PixelPilot.Recorder.VideoRecorder
import PixelPilot.Recorder.Steps
import PixelPilot.Recorder.WriteErrors
import PixelPilot.Recorder.SampleFlow
import PixelPilot.Recorder.MediaDuration
import PixelPilot.Recorder.SyncStart
import PixelPilot.Recorder.Durations
import PixelPilot.Recorder.Playback
import PixelPilot.Recorder.Configuration
import PixelPilot.Recorder.Appending
import PixelPilot.Pipeline.Recording
import PixelPilot.Pipeline.Sessions
import PixelPilot.Pipeline.EnableRecording
import PixelPilot.Pipeline.Calls
import PixelPilot.Pipeline.SharedRecorder
import PixelPilot.Pipeline.RecorderOwnership
import PixelPilot.Pipeline.SessionPlayback
import PixelPilot.Main.Loop
import PixelPilot.Main.RecordingState
import PixelPilot.Main.RecordSignals
import PixelPilot.Main.PidFile
import PixelPilot.Main.SingleInstance
import PixelPilot.Config.Model
import PixelPilot.Config.IniFile
import PixelPilot.Config.Settings
import PixelPilot.Config.CommandLine
import PixelPilot.Config.Passes
import PixelPilot.Config.FrontEnds
import PixelPilot.Config.Narrowing
import PixelPilot.Modeset.Model
import PixelPilot.Modeset.Modes
import PixelPilot.Modeset.Selection
import PixelPilot.Modeset.Objects
import PixelPilot.Modeset.Release
