import Windmi.Core.Interference
import Windmi.Core.PriorityRegister
import Windmi.Core.WorkingModes
import Windmi.Modbus.EndToEnd
import Windmi.Modbus.Matching
import Windmi.Modbus.Recording
import Windmi.Modbus.Soundness
import Windmi.Core.CmdQueue
import Windmi.Library.Rounding
import Windmi.Web.WebServer
import Windmi.Web.System
import Windmi.Web.Delivery
import Windmi.Core.Drift
import Windmi.Core.Restart
import Windmi.Core.FaultyBus
import Windmi.Core.Recovery
import Windmi.Core.TargetWrites
import Windmi.Core.Provenance
import Windmi.Web.Legality
import Windmi.Utils.Config
import Windmi.Web.Domains
import Windmi.Web.App
import Windmi.Library.Trials
import Windmi.Modbus.Retries
import Windmi.Modbus.ReplyLink
import Windmi.Modbus.Grammar
import Windmi.Modbus.Exceptions
import Windmi.Modbus.Buffers
import Windmi.Modbus.Operations
import Windmi.Modbus.Interchange
import Windmi.Library.Handles
import Windmi.Modbus.Connection
import Windmi.Modbus.HandleLeaks
import Windmi.Modbus.Wrappers
import Windmi.Modbus.Shutdown
import Windmi.Core.SnapshotFields
import Windmi.Modbus.SilentRegisters
import Windmi.Library.Spsc
import Windmi.Library.SpscRuns
import Windmi.Core.CmdQueueThreads
import Windmi.Core.WakeUp
import Windmi.Core.NoLostWakeUp
import Windmi.Core.StatusQueue
import Windmi.Core.StatusQueueSteps
import Windmi.Core.StatusQueueOrder
import Windmi.Library.Crc
import Windmi.Library.DropOldest
import Windmi.Modbus.Checksum
import Windmi.Modbus.LineNoise
import Windmi.Core.StatusQueueCalls
import Windmi.Core.DerivedFields
import Windmi.Core.Isolation
import Windmi.Core.FreshReadings
import Windmi.Core.Selftest
import Windmi.Utils.ConditionVariable
import Windmi.Core.ReconnectWaits
import Windmi.Modbus.Simulation
import Windmi.Library.SortedMap
import Windmi.Library.Lines
import Windmi.Utils.ConfigFile
import Windmi.Core.LastKnown
import Windmi.Library.Decimal
import Windmi.Library.Json
import Windmi.Library.LockFile
import Windmi.Utils.InstanceLock
import Windmi.Utils.SettingsFile
import Windmi.Web.SettingsRestart
import Windmi.Web.StatusReply
import Windmi.Web.Page
import Windmi.Web.PageChoices
import Windmi.Web.PageRuns
import Windmi.Web.PageRequests
import Windmi.Web.PageSession
import Windmi.Core.Mirroring
import Windmi.Modbus.DemoMode
import Windmi.Modbus.LoopOverSlave
import Windmi.Utils.CommandLine
import Windmi.Web.Lifecycle
import Windmi.Web.ShutdownProgress
