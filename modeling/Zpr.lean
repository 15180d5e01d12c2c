import Zpr.Foundation.Execution
import Zpr.GrpcServer.CompressedMessage
import Zpr.GrpcServer.ClientDone
import Zpr.GrpcServer.ResponseFrames
import Zpr.GrpcServer.Reconfiguration
import Zpr.GrpcServer.Shutdown
import Zpr.GrpcServer.QueueStats
import Zpr.GrpcServer.ModeEquivalence
import Zpr.Grpc.BidiStream
import Zpr.Grpc.ChannelCache
import Zpr.Grpc.OpenTimeout
import Zpr.Grpc.PullMode
import Zpr.Grpc.RingMode
import Zpr.Pascal.ReadInto
import Zpr.Foundation.History
import Zpr.Grpc.Eviction
import Zpr.Grpc.Proxy
import Zpr.Grpc.PumpRelease
import Zpr.Grpc.RequestHalf
import Zpr.ErrorSlot.Calls
import Zpr.ErrorSlot.Describes
import Zpr.Pascal.Json
import Zpr.Pascal.JsonOwnership
import Zpr.Transcode.ServeOne
import Zpr.Foundation.Delimiter
import Zpr.Foundation.GrowingRead
import Zpr.Foundation.PercentCoding
import Zpr.Foundation.Poisoning
import Zpr.Grpc.ConnectRequest
import Zpr.Grpc.ConnectTunnel
import Zpr.Grpc.RingFailure
import Zpr.GrpcServer.StatusMessage
import Zpr.GrpcServer.UnreadMessages
import Zpr.Pascal.Accept
import Zpr.Pascal.CallRead
import Zpr.Pascal.JsonKeys
import Zpr.PoisonedLocks
import Zpr.Transcode.Routing
import Zpr.Foundation.MachineWord
import Zpr.Foundation.MultiMap
import Zpr.Foundation.Segments
import Zpr.Grpc.ProxyEnvironment
import Zpr.GrpcServer.FrameDecoding
import Zpr.GrpcServer.FramedMessages
import Zpr.RequestHeaders
import Zpr.EndToEnd.BufferedDownload
import Zpr.EndToEnd.Upload
import Zpr.Foundation.Strands
import Zpr.GrpcServer.Backpressure
import Zpr.GrpcServer.CallFootprint
import Zpr.GrpcServer.CallIsolation
import Zpr.Pascal.JsonTrees
import Zpr.Ffi.OwnedMemory
import Zpr.Pascal.OnCall
import Zpr.Pascal.TrampolineLeaks
import Zpr.EndToEnd.Gateway
import Zpr.Http.Request
import Zpr.Pascal.CallObjects
import Zpr.Pascal.ObjectCalls
import Zpr.GrpcServer.ForgottenCalls
import Zpr.GrpcServer.ModeDialogues
