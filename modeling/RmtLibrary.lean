import RmtLibrary.GuardedExecution
import RmtLibrary.TwoRuns
import RmtLibrary.HeapChain
import RmtLibrary.RingQueue
import RmtLibrary.BoundedFifo
import RmtLibrary.MessagePool
import RmtLibrary.CString
import RmtLibrary.Idl
import RmtLibrary.DdsTransport
import RmtLibrary.FailingDrains
import RmtLibrary.DevinfoServer
import RmtLibrary.DeviceRegistry
import RmtLibrary.DeviceCallbacks
import RmtLibrary.RobotLoss
import RmtLibrary.LiveDevices
import RmtLibrary.GhostDevices
import RmtLibrary.DatainfoAgent
import RmtLibrary.AgentReplies
import RmtLibrary.ReplyRing
import RmtLibrary.FileCalls
import RmtLibrary.GetReply
import RmtLibrary.DevinfoAgent
import RmtLibrary.ChangeDetection
import RmtLibrary.RmtAgent
import RmtLibrary.AgentLifecycle
import RmtLibrary.AgentAnnouncement
import RmtLibrary.DomainLifecycle
import RmtLibrary.DatainfoServer
import RmtLibrary.ReplyCollection
import RmtLibrary.SetItems
import RmtLibrary.SetParsing
import RmtLibrary.SetRoundTrip
import RmtLibrary.SetIsolation
import RmtLibrary.SetReplies
import RmtLibrary.ReplyStrings
import RmtLibrary.InfoProtocol
import RmtLibrary.InfoCorrectness
import RmtLibrary.FileTransfer
import RmtLibrary.RequestBuffers
import RmtLibrary.TransferNames
import RmtLibrary.LexicalPath
import RmtLibrary.FilePaths
import RmtLibrary.TransferEffects
import RmtLibrary.TransferHistory
import RmtLibrary.TransferDeadline
import RmtLibrary.TransferCompletion
import RmtLibrary.FileTransferRace
import RmtLibrary.RmtServer
import RmtLibrary.TransportInit
import RmtLibrary.CallbackResult
import RmtLibrary.ServerLifecycle
import RmtLibrary.ReinitRequest
import RmtLibrary.UnmixedReplies
import RmtLibrary.FileLengths
import RmtLibrary.ConcurrentDrains
import RmtLibrary.ServerCalls
import RmtLibrary.DefinedOutputs
import RmtLibrary.DeviceListing
import RmtLibrary.ByteBlock
import RmtLibrary.RmtConfig
import RmtLibrary.ConfigLines
import RmtLibrary.ConfigFields
import RmtLibrary.ConfigFrame
import RmtLibrary.ConfigWidths
import RmtLibrary.ConfigMeaning
import RmtLibrary.Network
import RmtLibrary.GeneratedId
import RmtLibrary.SequentialObject
import RmtLibrary.CallOrder
import RmtLibrary.RemoteSettings
import RmtLibrary.DeviceDiscovery
import RmtLibrary.DiscoveryCorrectness
import RmtLibrary.FileStore
import RmtLibrary.BlockHeap
import RmtLibrary.DeviceStrings
import RmtLibrary.StringOwnership
import RmtLibrary.ConfigPrint
import RmtLibrary.Logger
import RmtLibrary.Sessions
import RmtLibrary.SessionMeaning
import RmtLibrary.SessionRefinement
import RmtLibrary.SettingsInForce
import RmtLibrary.FairRuns
import RmtLibrary.RestartProgress
import RmtLibrary.AgentBlocks
import RmtLibrary.ReplyOwnership
import RmtLibrary.ServerSafety
import RmtLibrary.TransferProgress
