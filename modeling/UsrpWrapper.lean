import UsrpWrapper.Config
import UsrpWrapper.BlockOffsetTracker
import UsrpWrapper.ReplayBlockConfig
import UsrpWrapper.ReplayMemorySafety
import UsrpWrapper.StreamMapper
import UsrpWrapper.RfConfiguration
import UsrpWrapper.RfReconfiguration
import UsrpWrapper.PpsThread
import UsrpWrapper.Usrp
import UsrpWrapper.ReplayHardware
import UsrpWrapper.Streaming
import UsrpWrapper.ReplayOrder
import UsrpWrapper.ReplaySequence
import UsrpWrapper.Execution
import UsrpWrapper.Reception
import UsrpWrapper.Transmission
import UsrpWrapper.RunIsolation
import UsrpWrapper.AntennaRouting
import UsrpWrapper.StreamingSchedule
import UsrpWrapper.RfReadback
import UsrpWrapper.CollectRetry
import UsrpWrapper.Serialization
import UsrpWrapper.Lib.Trace
import UsrpWrapper.RpcClient
import UsrpWrapper.Lib.Dict
import UsrpWrapper.Lib.Triple
import UsrpWrapper.System
import UsrpWrapper.Synchronisation
import UsrpWrapper.Dispatch
import UsrpWrapper.Registration
import UsrpWrapper.Lib.Deadline
import UsrpWrapper.Lib.Exceptions
import UsrpWrapper.StreamTiming
import UsrpWrapper.SamplingRates
import UsrpWrapper.ExecuteGuard
import UsrpWrapper.Lib.Loop
import UsrpWrapper.PacketTransfer
import UsrpWrapper.RfVerification
import UsrpWrapper.StreamerBookkeeping
import UsrpWrapper.Lib.Timer
import UsrpWrapper.TimedFlag
import UsrpWrapper.RecordClearing
import UsrpWrapper.SignalEquality
import UsrpWrapper.UsrpServer
import UsrpWrapper.Cycles
import UsrpWrapper.ServerNetwork
import UsrpWrapper.Delivery
import UsrpWrapper.TimedSystem
import UsrpWrapper.Lib.Threads
import UsrpWrapper.ThreadLifecycle
import UsrpWrapper.SyncSource
import UsrpWrapper.FpgaClocks
import UsrpWrapper.CollectErrors
import UsrpWrapper.Lib.Emit
import UsrpWrapper.StreamCommands
import UsrpWrapper.AlignedStreams
