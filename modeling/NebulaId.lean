import NebulaId.Algorithm.CircuitEvidence
import NebulaId.Algorithm.Recovery
import NebulaId.Coordinator.Local
import NebulaId.Coordinator.EtcdLock
import NebulaId.Database.Allocation
import NebulaId.Database.Concurrent
import NebulaId.Database.FailedAllocation
import NebulaId.Segment.DefaultLoader
import NebulaId.Snowflake.Interleaved
import NebulaId.Snowflake.Nodes
import NebulaId.Snowflake.Parse
import NebulaId.Store.RangePool
import NebulaId.Algorithm.Router
import NebulaId.Server.IdHandlers
import NebulaId.Algorithm.Tags
import NebulaId.Database.ApiKeys
import NebulaId.Machine.Crowd
import NebulaId.Server.AuthMiddleware
import NebulaId.Server.AuthLimits
import NebulaId.Config.Settings
import NebulaId.Config.Merge
import NebulaId.Server.HotReload
import NebulaId.Server.RateLimit
import NebulaId.Coordinator.HealthMonitor
import NebulaId.Database.Updates
import NebulaId.Database.Catalog
import NebulaId.Machine.Along
import NebulaId.Machine.Script
import NebulaId.Database.KeyStore
import NebulaId.Server.KeyHandlers
import NebulaId.Server.TwoWrites
import NebulaId.Server.AdminKey
import NebulaId.Server.UserKeys
import NebulaId.Server.KeyRotation
import NebulaId.Server.Startup
import NebulaId.Server.AuditLogger
import NebulaId.Server.ConfigAudit
import NebulaId.Server.RateLimitAgreement
import NebulaId.Server.Router
import NebulaId.Server.RequestBudget
import NebulaId.Server.EntryPoints
import NebulaId.Store.Owned
import NebulaId.Database.Tenants
import NebulaId.Database.Views
import NebulaId.Server.TenantHandlers
import NebulaId.Server.Isolation
import NebulaId.Algorithm.EffectiveAlgorithm
import NebulaId.Monitoring.Alerts
import NebulaId.Server.Reload
import NebulaId.Database.Statements
import NebulaId.Database.OwnGroups
import NebulaId.Database.Quotas
import NebulaId.Server.ActiveWorkspaces
import NebulaId.Machine.Simulation
import NebulaId.Server.Listing
import NebulaId.Server.MemoryDao
import NebulaId.Store.Glob
import NebulaId.Server.DaoMap
import NebulaId.Server.TagSettings
import NebulaId.Server.GrpcAgreement
import NebulaId.Segment.LoadingFlag
import NebulaId.Machine.Executor
import NebulaId.Segment.Workers
import NebulaId.Segment.Lost
import NebulaId.Machine.Alone
import NebulaId.Segment.Alone
import NebulaId.Segment.LoneBatch
import NebulaId.Segment.LoneGenerate
import NebulaId.Snowflake.Drift
import NebulaId.Machine.Retry
import NebulaId.Snowflake.Batch
import NebulaId.Algorithm.Implementations
import NebulaId.Server.BatchSizes
import NebulaId.Algorithm.Fallback
import NebulaId.Server.IdTexts
import NebulaId.Algorithm.HealthCounters
import NebulaId.Arith.Checked
import NebulaId.Config.Faults
import NebulaId.Types.Floats
import NebulaId.Monitoring.Evaluator
import NebulaId.Monitoring.Addresses
import NebulaId.Monitoring.Webhooks
import NebulaId.Coordinator.LockLeases
import NebulaId.Config.Dynamic
import NebulaId.Segment.Datacenters
import NebulaId.Segment.Steps
import NebulaId.Store.Ranking
import NebulaId.Server.Locale
import NebulaId.Store.Joins
import NebulaId.Database.EagerLoading
import NebulaId.Server.AuditIds
import NebulaId.Config.Adapter
import NebulaId.Server.ErrorTexts
import NebulaId.Server.GenerationMetrics
import NebulaId.Server.GrpcStream
import NebulaId.Monitoring.EvaluationLoop
import NebulaId.Server.AuditTrail
import NebulaId.Auth.Manager
import NebulaId.Arith.Numerals
import NebulaId.Types.Base36
import NebulaId.Machine.Mutex
import NebulaId.Segment.Tiling
import NebulaId.Arith.NearestRank
import NebulaId.Monitoring.Percentiles
import NebulaId.Monitoring.QpsEstimate
import NebulaId.Segment.LoadRate
import NebulaId.Machine.Parts
import NebulaId.Segment.Cluster
import NebulaId.Algorithm.RoutingTable
import NebulaId.Algorithm.BackgroundCheck
import NebulaId.Segment.Failover
import NebulaId.Snowflake.Restart
import NebulaId.Machine.Mailbox
import NebulaId.Server.AuditFlush
import NebulaId.Store.Paths
import NebulaId.Config.Provider
import NebulaId.Coordinator.LocalCache
import NebulaId.Database.SegmentRows
import NebulaId.Server.FileWatch
import NebulaId.Algorithm.FailFast
import NebulaId.Server.Redaction
