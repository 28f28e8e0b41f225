import Promch.Library.Dict
import Promch.Library.Grouping
import Promch.Library.Python
import Promch.Library.StampedFlag
import Promch.Library.NewestWins
import Promch.Library.LastChange
import Promch.Library.MergePatch
import Promch.Library.Coroutine
import Promch.Library.Contract
import Promch.Library.EventLoop
import Promch.Library.Turns
import Promch.Library.AsyncLock
import Promch.Library.Subroutines
import Promch.Library.LockQueue
import Promch.Library.GuardedRuns
import Promch.Library.Replay
import Promch.Library.Settling
import Promch.Library.Typestate
import Promch.Library.LockOrder
import Promch.Library.LockedTable
import Promch.Library.TableHistory
import Promch.Library.Base64
import Promch.Library.Provenance
import Promch.Library.Attainment
import Promch.Library.Simulation
import Promch.Clickhouse.Types
import Promch.Clickhouse.Node
import Promch.Clickhouse.Liveness
import Promch.Clickhouse.Topology
import Promch.Clickhouse.SystemQuery
import Promch.Clickhouse.Coverage
import Promch.Clickhouse.DataQuery
import Promch.Clickhouse.Attempts
import Promch.Clickhouse.ConnectionState
import Promch.Clickhouse.Programs
import Promch.Clickhouse.Permissions
import Promch.Clickhouse.Conduct
import Promch.Clickhouse.PoolConduct
import Promch.Clickhouse.FacadeConduct
import Promch.Clickhouse.ClientLeaks
import Promch.Clickhouse.BusyClients
import Promch.Clickhouse.PassTurns
import Promch.Clickhouse.IdleEviction
import Promch.Clickhouse.NodeReplays
import Promch.Clickhouse.Reconciliation
import Promch.Clickhouse.TopologyRefresh
import Promch.Clickhouse.PoolMembership
import Promch.Clickhouse.ReportedTopology
import Promch.Clickhouse.InterruptedRefresh
import Promch.Clickhouse.PoolRefinement
import Promch.Clickhouse.ClientCalls
import Promch.Clickhouse.ClientCreation
import Promch.Clickhouse.Progress
import Promch.Clickhouse.HealthReports
import Promch.Clickhouse.StatusReports
import Promch.Clickhouse.FailoverReplays
import Promch.Collector.Metrics
import Promch.Collector.NewestRows
import Promch.Collector.Collect
import Promch.Collector.Labels
import Promch.Collector.Threads
import Promch.Config
import Promch.K8sSecrets
import Promch.Leadership
import Promch.Handlers.QueryStatus
import Promch.Handlers.Conditions
import Promch.Handlers.Operations
import Promch.Handlers.Execute
import Promch.Handlers.SystemReports
import Promch.Handlers.DataReports
import Promch.Handlers.History
import Promch.Handlers.TickOrder
import Promch.Handlers.Families
import Promch.Handlers.Scheduler
import Promch.Handlers.Concurrency
import Promch.Handlers.Successors
import Promch.Handlers.SourceLabels
import Promch.Handlers.Views
import Promch.Handlers.Waiting
import Promch.Handlers.Reflector
import Promch.Handlers.Reflections
import Promch.Handlers.ConditionHistory
import Promch.Handlers.MetricNames
import Promch.Handlers.Registry
import Promch.Handlers.RegistryPermissions
import Promch.Handlers.RegistryConduct
import Promch.Handlers.ConnectionAccounts
import Promch.Handlers.LifecycleEvents
import Promch.Handlers.ConnectionEffects
import Promch.Handlers.RegistryTurns
import Promch.Handlers.WarmUp
import Promch.Handlers.ExecutionReports
import Promch.Handlers.Answers
import Promch.Handlers.Credentials
import Promch.Handlers.Slots
import Promch.Handlers.OperatorView
import Promch.Handlers.OperatorRuns
import Promch.Handlers.Events
import Promch.Handlers.ConnectionDocument
