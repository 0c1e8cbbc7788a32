import AppSalmon.Library.UnixPath
import AppSalmon.Library.KeyedTable
import AppSalmon.Library.Future
import AppSalmon.Domain.TarValidation
import AppSalmon.Domain.TarSizes
import AppSalmon.Domain.TarModes
import AppSalmon.Domain.Time
import AppSalmon.Domain.Cluster
import AppSalmon.Ports.Repository
import AppSalmon.Library.SerdeJson
import AppSalmon.Library.Decoding
import AppSalmon.Library.Hexadecimal
import AppSalmon.Adapters.PersistedCluster
import AppSalmon.Adapters.SqliteRepository
import AppSalmon.Adapters.SlotQuota
import AppSalmon.Ports.ClusterRepository
import AppSalmon.Adapters.StoredRows
import AppSalmon.Adapters.InMemoryRepository
import AppSalmon.Config
import AppSalmon.ClientWorkers
import AppSalmon.Library.TaskPool
import AppSalmon.Service.Deps
import AppSalmon.Auth.Hashing
import AppSalmon.Auth
import AppSalmon.Accounts
import AppSalmon.Service.ClusterService
import AppSalmon.Service.Tasks
import AppSalmon.Service.Successors
import AppSalmon.Service.System
import AppSalmon.Service.Lifecycle
import AppSalmon.Service.Ownership
import AppSalmon.Http.ClusterInfo
import AppSalmon.Http.Error
import AppSalmon.Http.Handlers
import AppSalmon.Http.CancelSafety
import AppSalmon.Service.DeletionAbsorbs
import AppSalmon.Service.TeardownOnce
import AppSalmon.Service.NoStuckRow
import AppSalmon.Service.Placement
import AppSalmon.Service.Exclusivity
import AppSalmon.Service.Directories
import AppSalmon.Service.CrashRecovery
import AppSalmon.Service.SlotReuse
import AppSalmon.Service.AdoptedTree
import AppSalmon.Service.SpawnInFlight
import AppSalmon.Service.OverRepository
import AppSalmon.Service.ReconcilePolicy
import AppSalmon.Service.OwnerIsolation
import AppSalmon.Service.Passes
import AppSalmon.Service.TtlContract
import AppSalmon.Main
import AppSalmon.Service.BadRows
import AppSalmon.Adapters.SudoExec
import AppSalmon.Service.PrivilegedCommands
import AppSalmon.Library.Cancellation
import AppSalmon.Adapters.DockerBollard
import AppSalmon.Backends
import AppSalmon.Backends.HealthWait
import AppSalmon.Backends.Resources
import AppSalmon.Service.CancelledSpawn
import AppSalmon.Library.Exchanges
import AppSalmon.Service.SpawnRun
import AppSalmon.Service.FailureSummaries
import AppSalmon.Service.SpawnSteps
import AppSalmon.Adapters.TokioFilesystem
import AppSalmon.Service.LogRotation
import AppSalmon.Service.LogKeeping
import AppSalmon.Service.LogCollisions
import AppSalmon.Backends.BestEffort
import AppSalmon.Service.FailedPersist
import AppSalmon.Library.Histories
import AppSalmon.Backends.StartOrder
import AppSalmon.Library.Sharing
import AppSalmon.Backends.Neighbours
import AppSalmon.Ports.ContainerRuntime
import AppSalmon.Adapters.EngineApi
import AppSalmon.Adapters.DaemonReading
import AppSalmon.Backends.Specs
import AppSalmon.Library.Simulation
import AppSalmon.Backends.Wire
import AppSalmon.Backends.Confinement
import AppSalmon.Backends.Secrecy
import AppSalmon.Service.Registry
import AppSalmon.Library.Progress
import AppSalmon.Service.Liveness
import AppSalmon.Service.Quiescence
import AppSalmon.Http.Multipart
import AppSalmon.Http.Server
import AppSalmon.Http.Answers
import AppSalmon.Http.Process
import AppSalmon.Http.Refinement
import AppSalmon.Http.Disclosure
