import EventQueue.Lib.Transition
import EventQueue.Lib.Parties
import EventQueue.Lib.ExpiringStore
import EventQueue.Lib.Value
import EventQueue.Lib.Dict
import EventQueue.Constants
import EventQueue.WorkerQueue
import EventQueue.WorkerQueueScan
import EventQueue.WorkerQueueAccounting
import EventQueue.DistributedLock
import EventQueue.RedisLockExclusion
import EventQueue.KeepAliveLock
import EventQueue.StatusMap
import EventQueue.PersistEventStatus
import EventQueue.PersistableStatus
import EventQueue.Chunk
import EventQueue.ChunkIsolated
import EventQueue.ChunkHandled
import EventQueue.ChunkComplete
import EventQueue.ChunkTransactions
import EventQueue.ChunkConsistent
import EventQueue.EventTable
import EventQueue.System
import EventQueue.SystemOwnership
import EventQueue.SystemStatus
import EventQueue.PeriodicEvent
import EventQueue.PeriodicEventChain
import EventQueue.Saga
import EventQueue.SagaExactlyOnce
import EventQueue.ChunkSelection
import EventQueue.SagaChain
import EventQueue.ChunkFrame
import EventQueue.ChunkExceeded
import EventQueue.ChunkAttempts
import EventQueue.SystemAttempts
import EventQueue.SystemExceeded
import EventQueue.ChunkFenced
import EventQueue.SystemFencing
import EventQueue.PublishEvent
import EventQueue.OutboxRoundTrip
import EventQueue.OutboxSubType
import EventQueue.PeriodicStartup
import EventQueue.QueueStats
import EventQueue.Lib.Separated
import EventQueue.LockBackends
import EventQueue.LockListing
import EventQueue.OutboxServiceName
import EventQueue.SagaInsertModes
import EventQueue.BroadcastEvent
import EventQueue.Selection
import EventQueue.OpenEvents
import EventQueue.FirstRun
import EventQueue.StatusGrouping
import EventQueue.ChunkLoop
import EventQueue.StatusAggregation
import EventQueue.NewTransaction
import EventQueue.SystemFirstTry
import EventQueue.KeepAliveTick
import EventQueue.ChunkSurvives
import EventQueue.ChunkHandling
import EventQueue.ChunkReports
import EventQueue.HandlerResult
import EventQueue.SuccessorData
import EventQueue.OutboxCluster
import EventQueue.WorkerQueueAgeing
import EventQueue.PeriodicExecution
import EventQueue.PeriodicSchedule
import EventQueue.PeriodicUnchanged
import EventQueue.AfterCommit
import EventQueue.ClusterTransaction
import EventQueue.PayloadRoundTrip
import EventQueue.OutboxConfig
import EventQueue.SuccessorConfig
import EventQueue.SuccessorKeyOrder
import EventQueue.Lib.Timers
import EventQueue.SetIntervalDriftSafe
import EventQueue.EventScheduler
import EventQueue.ExpiringLazyCache
import EventQueue.Limiter
import EventQueue.DeleteEvents
import EventQueue.ApplicationFilter
import EventQueue.StartAfter
import EventQueue.SkipBroadcast
import EventQueue.Lib.Lease
import EventQueue.Lib.Registry
import EventQueue.TenantIds
import EventQueue.MessageHandler
import EventQueue.MessageProtocol
import EventQueue.MultiTenancyRunner
import EventQueue.ConfigFile
import EventQueue.ProcessEventQueue
import EventQueue.Lib.Counters
import EventQueue.EventQueueStats
import EventQueue.EventQueueStatsTotals
import EventQueue.CrashRecovery
import EventQueue.Unsubscribe
import EventQueue.RunnerCycles
import EventQueue.AuthContext
import EventQueue.SingleTenantRunner
import EventQueue.OutboxedService
import EventQueue.Startup
