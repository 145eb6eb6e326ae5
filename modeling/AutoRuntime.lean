import AutoRuntime.SubscriptionDelivery
import AutoRuntime.SubscriptionArming
import AutoRuntime.ServiceProgress
import AutoRuntime.ExecutorPort
import AutoRuntime.DiscoveryRejected
import AutoRuntime.TraceBurst
import AutoRuntime.HealthLog
import AutoRuntime.HealthAlive
import AutoRuntime.HealthFence
import AutoRuntime.ServiceCalls
import AutoRuntime.SubscriptionOwnership
import AutoRuntime.DdsTransportDeadlock
import AutoRuntime.ExecutorFinal
import AutoRuntime.RecordingStrict
import AutoRuntime.SubscriptionStats
import AutoRuntime.LoanedRelease
import AutoRuntime.FastIpcPaths
import AutoRuntime.FastIpcSubscription
import AutoRuntime.DdsRpcFidelity
import AutoRuntime.ExecutorAdd
import AutoRuntime.TcpRpcServer
import AutoRuntime.ExecutorDispatch
import AutoRuntime.ExecutorAudit
import AutoRuntime.ExecutorPace
import AutoRuntime.DiscoveryAddress
import AutoRuntime.HealthReplay
import AutoRuntime.ReplaySession
import AutoRuntime.RpcAccounting
import AutoRuntime.DeadlineAfter
import AutoRuntime.DiscoveryTimes
import AutoRuntime.HealthTimeouts
import AutoRuntime.InMemoryRegistry
import AutoRuntime.TraceSpans
