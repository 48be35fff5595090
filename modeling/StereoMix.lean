import StereoMix.Lib.EventSystem
import StereoMix.Encode.WavFile
import StereoMix.Encode.FlacFile
import StereoMix.Encode.AgentStatus
import StereoMix.Ui.Header
import StereoMix.Encode.AgentFiles
import StereoMix.Encode.AgentIds
import StereoMix.Encode.OutputRoot
import StereoMix.Ipc.StopTotals
import StereoMix.Ipc.ReportedState
import StereoMix.Ipc.ShutdownAll
import StereoMix.Ipc.ShutdownWake
import StereoMix.Ipc.Correlation
import StereoMix.Ipc.OneRecorder
import StereoMix.Ipc.Subscription
import StereoMix.Hrt.Actions
import StereoMix.Hrt.Client
import StereoMix.Ipc.LiveRuntime
import StereoMix.Hrt.StaysDown
import StereoMix.Hrt.EachOnce
import StereoMix.Encode.SessionFile
import StereoMix.Encode.EndOfInput
import StereoMix.Encode.ClosedMuxer
import StereoMix.Audio.FailedOpen
import StereoMix.Audio.StaysOpen
import StereoMix.Core.Instances
import StereoMix.Audio.Preference
import StereoMix.Audio.Loopback
import StereoMix.Lib.LongerFile
import StereoMix.Encode.MuxerReuse
import StereoMix.Encode.FlacFailures
import StereoMix.Audio.Mappers
import StereoMix.Ui.Peaks
import StereoMix.Encode.PacketCuts
import StereoMix.Ui.Takes
import StereoMix.Encode.TokenGuard
import StereoMix.Encode.FrameParts
import StereoMix.Encode.WriterCalls
import StereoMix.Lib.CrcPolynomial
import StereoMix.Encode.Checksums
import StereoMix.Encode.HeaderFields
import StereoMix.Encode.StreamInfoPatch
import StereoMix.Encode.RiceParam
import StereoMix.Audio.Preview
import StereoMix.Encode.Duration
import StereoMix.Encode.FreeName
import StereoMix.Ipc.DeviceIndex
import StereoMix.Lib.ExtendedUtf8
import StereoMix.Encode.FrameNumbers
import StereoMix.Encode.SessionFlac
import StereoMix.Encode.SessionStop
import StereoMix.Encode.InterruptedFlac
import StereoMix.Audio.Sequence
import StereoMix.Ui.Readers
import StereoMix.Ipc.AfterCtrlC
import StereoMix.Ipc.FramesKept
import StereoMix.Ipc.FrameLedger
import StereoMix.Encode.FileSize
import StereoMix.Ui.Stretches
import StereoMix.Ui.Settings
import StereoMix.Encode.AgentAccount
import StereoMix.Encode.SequentialTake
import StereoMix.Encode.Mp3File
import StereoMix.Encode.CrashLoss
import StereoMix.Ipc.Wire
import StereoMix.Ui.TelemetryClient
import StereoMix.Core.InstanceGuard
