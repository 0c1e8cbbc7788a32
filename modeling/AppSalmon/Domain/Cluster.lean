import AppSalmon.Domain.Time
import AppSalmon.Domain.TarValidation

/-! The cluster row, its lifecycle states and the errors of lifecycle operations.

Error texts of the drivers underneath are kept as strings; what the program
matches on keeps its own constructor.
-/

set_option autoImplicit false

namespace AppSalmon

/-! ## Identifiers -/

structure ClusterId where
  ulid : BitVec 128
  deriving DecidableEq

structure ClientId where
  name : String
  deriving DecidableEq

structure WorkerUser where
  name : String
  uid : UInt32
  gid : UInt32
  deriving DecidableEq

/-! ## Services -/

inductive ServiceKind where
  | postgres | supabase
  deriving DecidableEq

structure ServiceSpec where
  kind : ServiceKind
  pgvector : Bool
  deriving DecidableEq

/-- A secret that is only read through `expose`. -/
structure Redacted (α : Type) where
  expose : α
  deriving DecidableEq

structure PostgresConnectionInfo where
  host : String
  port : UInt16
  dbname : String
  user : String
  password : Redacted String
  deriving DecidableEq

structure SupabaseConnectionInfo where
  apiUrl : String
  postgres : PostgresConnectionInfo
  anonKey : Redacted String
  serviceRoleKey : Redacted String
  jwtSecret : Redacted String
  deriving DecidableEq

inductive ConnectionInfo where
  | postgres (info : PostgresConnectionInfo)
  | supabase (info : SupabaseConnectionInfo)
  deriving DecidableEq

/-! ## The row -/

inductive DeleteReason where
  | userRequested | ttlExpired | spawnFailed | adminForced
  deriving DecidableEq

inductive ClusterState where
  | spawning (startedAt : DateTime)
  | ready (readyAt decommissionAt : DateTime) (connection : ConnectionInfo)
  | failed (failedAt : DateTime) (errorSummary : String)
  | deleting (deletingSince : DateTime) (reason : DeleteReason)
  deriving DecidableEq

structure Cluster where
  id : ClusterId
  owner : ClientId
  service : ServiceSpec
  requestedTtl : TimeDelta
  requestedAt : DateTime
  state : ClusterState
  worker : Option WorkerUser
  slot : UInt32
  deriving DecidableEq

namespace ClusterState

def isSpawning : ClusterState → Bool
  | .spawning _ => true
  | .ready .. | .failed .. | .deleting .. => false

def isDeleting : ClusterState → Bool
  | .deleting .. => true
  | .spawning _ | .ready .. | .failed .. => false

/-- `Ready` or `Failed`: the spawn is over and no deletion has begun. -/
def isSettled : ClusterState → Bool
  | .ready .. | .failed .. => true
  | .spawning _ | .deleting .. => false

theorem isSettled_eq (state : ClusterState) :
    state.isSettled = (!state.isSpawning && !state.isDeleting) := by
  cases state <;> rfl

theorem calm_of_isDeleting {state : ClusterState} (doomed : state.isDeleting = true) :
    state.isSettled = false ∧ state.isSpawning = false := by
  cases state <;> simp_all [isDeleting, isSettled, isSpawning]

theorem isDeleting_iff {state : ClusterState} :
    state.isDeleting = true ↔ ∃ since reason, state = .deleting since reason := by
  cases state <;> simp [isDeleting]

end ClusterState

inductive ClusterEvent where
  | spawnSucceeded (readyAt decommissionAt : DateTime) (connection : ConnectionInfo)
  | spawnFailed (failedAt : DateTime) (errorSummary : String)
  | deleteRequested (at_ : DateTime) (reason : DeleteReason)
  deriving DecidableEq

/-! ## Errors -/

inductive PrivilegedExecError where
  | spawn (worker : WorkerUser) (source : String)
  | nonZeroExit (worker : WorkerUser) (status : Int32) (stderr : String)
  | timeout (worker : WorkerUser) (waitedSecs : UInt64)
  deriving DecidableEq

inductive ClientWorkerError where
  | unknownClient (client : ClientId)
  | prepare (source : PrivilegedExecError)
  | wipe (source : PrivilegedExecError)
  deriving DecidableEq

inductive DockerError where
  | connect (socket source : String)
  | createContainer (source : String)
  | startContainer (container source : String)
  | inspectContainer (container source : String)
  | removeContainer (container source : String)
  | healthCheckTimeout (container : String) (waitedSecs : UInt64)
  | containerNotHealthy (container : String) (exitCode : Option Int32)
  | createNetwork (name source : String)
  | removeNetwork (network source : String)
  deriving DecidableEq

inductive RepositoryError where
  | db (source : String)
  | serde (source : String)
  | migration (what : String)
  | taskJoin (why : String)
  | corruptRow (what : String)
  deriving DecidableEq

inductive ClusterError where
  | ttlOutOfBounds (requestedSecs minSecs maxSecs : Int64)
  | quotaExceeded (owner : ClientId) (count limit : UInt32)
  | notFound (id : ClusterId)
  | invalidTransition (from_ : ClusterState) (event : ClusterEvent)
  | clientWorker (source : ClientWorkerError)
  | docker (source : DockerError)
  | repository (source : RepositoryError)
  | backendSpawnFailed (message : String)
  deriving DecidableEq

/-! ## Transitions -/

def transition (current : ClusterState) (event : ClusterEvent) : Except ClusterError ClusterState :=
  match current, event with
  | .spawning _, .spawnSucceeded readyAt decommissionAt connection =>
    .ok (.ready readyAt decommissionAt connection)
  | .spawning _, .spawnFailed failedAt errorSummary => .ok (.failed failedAt errorSummary)
  | .spawning _, .deleteRequested at_ reason
  | .ready .., .deleteRequested at_ reason
  | .failed .., .deleteRequested at_ reason => .ok (.deleting at_ reason)
  | .deleting .., .deleteRequested .. => .ok current
  | .ready .., .spawnSucceeded .. | .ready .., .spawnFailed ..
  | .failed .., .spawnSucceeded .. | .failed .., .spawnFailed ..
  | .deleting .., .spawnSucceeded .. | .deleting .., .spawnFailed .. =>
    .error (.invalidTransition current event)

/-- A delete request is accepted in every state, and keeps a deletion that has begun. -/
theorem transition_deleteRequested (current : ClusterState) (at_ : DateTime) (reason : DeleteReason) :
    transition current (.deleteRequested at_ reason) =
      .ok (if current.isDeleting then current else .deleting at_ reason) := by
  cases current <;> rfl

/-- Either way the state that is written is `Deleting`. -/
theorem condemned_isDeleting (read : ClusterState) (now : DateTime) (reason : DeleteReason) :
    (if read.isDeleting then read else .deleting now reason).isDeleting = true := by
  split
  · assumption
  · rfl

theorem transition_spawnSucceeded {current next : ClusterState} {readyAt decommissionAt : DateTime}
    {connection : ConnectionInfo} :
    transition current (.spawnSucceeded readyAt decommissionAt connection) = .ok next ↔
      current.isSpawning = true ∧ next = .ready readyAt decommissionAt connection := by
  cases current <;> simp [transition, ClusterState.isSpawning, eq_comm]

theorem transition_spawnFailed {current next : ClusterState} {failedAt : DateTime}
    {errorSummary : String} :
    transition current (.spawnFailed failedAt errorSummary) = .ok next ↔
      current.isSpawning = true ∧ next = .failed failedAt errorSummary := by
  cases current <;> simp [transition, ClusterState.isSpawning, eq_comm]

/-! ## Directories -/

/-- `base.join(worker).join("slot-<slot>")`. -/
def workerDataDir (base : UnixPath.Path) (worker : WorkerUser) (slot : UInt32) : UnixPath.Path :=
  UnixPath.join (UnixPath.join base worker.name.toList) ("slot-" ++ toString slot.toNat).toList

/-- What `worker_data_dir` depends on: the account's name and the slot number. -/
structure SlotDir where
  account : String
  slot : UInt32
  deriving DecidableEq

def slotDir (worker : WorkerUser) (slot : UInt32) : SlotDir := ⟨worker.name, slot⟩

/-- The directory of a row, once its account is resolved. -/
def Cluster.dir (cluster : Cluster) : Option SlotDir := cluster.worker.map (slotDir · cluster.slot)

/-- Two versions of a row, which agree on all that decides its directory but the account. -/
structure Cluster.Alike (first second : Cluster) : Prop where
  owner : first.owner = second.owner
  service : first.service = second.service
  slot : first.slot = second.slot

theorem Cluster.Alike.refl (cluster : Cluster) : cluster.Alike cluster := ⟨rfl, rfl, rfl⟩

theorem Cluster.Alike.symm {first second : Cluster} (alike : first.Alike second) : second.Alike first :=
  ⟨alike.owner.symm, alike.service.symm, alike.slot.symm⟩

theorem Cluster.Alike.trans {first second third : Cluster} (early : first.Alike second) (late : second.Alike third) :
    first.Alike third :=
  ⟨early.owner.trans late.owner, early.service.trans late.service, early.slot.trans late.slot⟩

theorem Cluster.dir_eq_some {cluster : Cluster} {dir : SlotDir} :
    cluster.dir = some dir ↔
      ∃ worker, cluster.worker = some worker ∧ worker.name = dir.account ∧ cluster.slot = dir.slot := by
  cases dir
  cases found : cluster.worker <;> simp [dir, found, slotDir]

end AppSalmon
