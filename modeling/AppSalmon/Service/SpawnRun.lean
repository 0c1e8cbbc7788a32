import AppSalmon.Adapters.SudoExec
import AppSalmon.Backends
import AppSalmon.Library.Exchanges
import AppSalmon.Service.Tasks

/-! `spawn_task::run`, call by call, with the errors and texts it makes on the way.

A reply carries an answer for every kind of call; each call reads its own. The
teardown is one call here.
-/

set_option autoImplicit false

namespace AppSalmon

open Cancellation (Client)
open TarValidation (TarLimits TarValidationError)

/-- Nothing of the error of the crate. -/
def SupabaseBackend.signJwt (encode : String → String → Except String String) (secret role : String) :
    Except ClusterError String :=
  (encode secret role).mapError fun _ => .backendSpawnFailed "failed to sign JWT"

namespace SpawnRun

inductive Call where
  | setWorker (id : ClusterId) (worker : WorkerUser)
  | runAs (worker : WorkerUser) (command : PrivilegedCommand)
  | createDirAll (dir : UnixPath.Path)
  | setPermissions (path : UnixPath.Path) (mode : Nat)
  | validateAndExtract (tarBytes : List UInt8) (dest : UnixPath.Path) (limits : TarLimits)
  | removeDirAll (dir : UnixPath.Path)
  | backend (call : ExternalCall)
  | getAny (id : ClusterId)
  | updateState (id : ClusterId) (state : ClusterState)
  | teardown

structure Reply where
  /-- The error of a repository call. -/
  repository : Option RepositoryError := none
  row : Option Cluster := none
  /-- The error of a privileged command. -/
  executor : Option PrivilegedExecError := none
  /-- The error of a call of the file system. -/
  fs : Option String := none
  /-- The error of the blocking closure's thread, or what the closure returns. -/
  extracted : Except String (Except TarValidationError Unit) := .ok (.ok ())
  backend : ExternalReply := .done

abbrev Process (α : Type) := Client Call Reply α

abbrev Exchange := Call × Reply

/-- What stays the same from one spawn to the other. -/
structure Setting where
  deps : TaskDeps
  idText : ClusterId → String
  generatedConfigDirBase : UnixPath.Path

/-- What the generator, the clock, the crates and the caller's upload bring to one spawn. -/
structure Inputs where
  password : String
  jwtSecret : String
  encode : String → String → Except String String
  polls : String → Nat
  now : DateTime
  projectTar : Option (List UInt8)

def Setting.params (setting : Setting) (inputs : Inputs) (cluster : Cluster) : SpawnParams where
  clusterId := setting.idText cluster.id
  pgvector := cluster.service.pgvector
  password := inputs.password
  jwtSecret := inputs.jwtSecret
  signJwt := SupabaseBackend.signJwt inputs.encode
  generatedConfigDirBase := setting.generatedConfigDirBase
  healthCheckTimeoutSecs := setting.deps.config.limits.healthCheckTimeoutSecs
  polls := inputs.polls

/-! ## `do_spawn` -/

def setWorker (id : ClusterId) (worker : WorkerUser) : Process (Except ClusterError Unit) :=
  (Client.send (.setWorker id worker)).map fun reply =>
    match reply.repository with
    | some error => .error (.repository error)
    | none => .ok ()

def runAs (worker : WorkerUser) (command : PrivilegedCommand) : Process (Except ClusterError Unit) :=
  (Client.send (.runAs worker command)).map fun reply =>
    match reply.executor with
    | some error => .error (.clientWorker (.prepare error))
    | none => .ok ()

/-- A call of the file system whose error is replaced by a message. -/
def fsOrFail (call : Call) (message : String) : Process (Except ClusterError Unit) :=
  (Client.send call).map fun reply =>
    match reply.fs with
    | some _ => .error (.backendSpawnFailed message)
    | none => .ok ()

/-- The first command that fails ends it. -/
def prepareAll (worker : WorkerUser) : List UnixPath.Path → Process (Except ClusterError Unit)
  | [] => .ready (.ok ())
  | target :: rest => (runAs worker (.prepareWorkerDir target)).andThen fun _ => prepareAll worker rest

/-- What becomes of the extraction, before the staging directory goes. -/
def adoptExtracted (worker : WorkerUser) (staging dest : UnixPath.Path) :
    Except String (Except TarValidationError Unit) → Process (Except ClusterError Unit)
  -- only a tree that is extracted whole is handed to the worker
  | .ok (.ok ()) => runAs worker (.adoptStagedTree staging dest)
  | .ok (.error error) => .ready (.error (.backendSpawnFailed (SpawnTask.sanitizeTarError error)))
  | .error _ => .ready (.error (.backendSpawnFailed "internal error while extracting project_tar"))

def adoptProjectTar (deps : TaskDeps) (worker : WorkerUser) (slot : UInt32) (dest : UnixPath.Path)
    (tarBytes : List UInt8) : Process (Except ClusterError Unit) :=
  let staging := workerDataDir deps.tarStagingDirBase worker slot
  let ancestor := UnixPath.join deps.tarStagingDirBase worker.name.toList
  (fsOrFail (.createDirAll staging) "failed to prepare staging directory").andThen fun _ =>
    -- to reach the tree, the worker passes through the directory of all its slots
    (fsOrFail (.setPermissions ancestor 0o755) "failed to prepare staging directory permissions").andThen fun _ =>
      (fsOrFail (.setPermissions staging 0o755) "failed to prepare staging directory permissions").andThen fun _ =>
        (Client.send (.validateAndExtract tarBytes staging deps.tarLimits)).bind fun reply =>
          (adoptExtracted worker staging dest reply.extracted).bind fun outcome =>
            -- a staging directory that cannot be removed is only logged
            (Client.send (.removeDirAll staging)).map fun _ => outcome

/-- The upload, where there is one. -/
def adoptUpload (deps : TaskDeps) (worker : WorkerUser) (slot : UInt32) (dest : UnixPath.Path) :
    Option (List UInt8) → Process (Except ClusterError Unit)
  | none => .ready (.ok ())
  | some tarBytes => adoptProjectTar deps worker slot dest tarBytes

def doSpawn (setting : Setting) (inputs : Inputs) (cluster : Cluster) : Process (Except ClusterError ConnectionInfo) :=
  match setting.deps.backend cluster.service.kind with
  | none => .ready (.error (.backendSpawnFailed "no backend registered for this service kind"))
  | some backend =>
    match setting.deps.clientWorkers.get cluster.owner with
    | .error error => .ready (.error (.clientWorker error))
    | .ok worker =>
      let base := workerDataDir setting.deps.workerDataDirBase worker cluster.slot
      -- a backend that names no directories gets the base itself
      let targets := if backend.workerSubdirs = [] then [base]
        else backend.workerSubdirs.map fun subdir => UnixPath.join base subdir.toList
      -- the account is in the row before anything is made under it
      (setWorker cluster.id worker).andThen fun _ =>
        (prepareAll worker targets).andThen fun _ =>
          (adoptUpload setting.deps worker cluster.slot (UnixPath.join base "project".toList) inputs.projectTar).andThen
            fun _ => (cluster.service.kind.spawn (setting.params inputs cluster)).lift .backend Reply.backend

/-! ## The rest of `run` -/

def teardown : Process Unit := (Client.send .teardown).map fun _ => ()

/-- An outcome that the state does not take is only logged, as is an error of the repository. -/
def persist (cluster : Cluster) (now : DateTime) (result : Except ClusterError ConnectionInfo) (current : ClusterState) :
    Process Unit :=
  match SpawnTask.outcomeEvent now cluster.requestedTtl result with
  -- the lifetime ends past every date of chrono: the task panics, and the row stays as it is
  | none => .ready ()
  | some event =>
    match transition current event with
    | .error _ => .ready ()
    | .ok state => (Client.send (.updateState cluster.id state)).map fun _ => ()

/-- Behind the select, whose result is absent after a cancellation. -/
def conclude (cluster : Cluster) (now : DateTime) : Option (Except ClusterError ConnectionInfo) → Process Unit
  -- cancelled: whatever the dropped call had made is torn down, without a look at the row
  | none => teardown
  | some result =>
    (Client.send (.getAny cluster.id)).bind fun reply =>
      match reply.repository, reply.row with
      -- the row is gone
      | none, none => teardown
      | none, some row => if row.state.isDeleting then teardown else persist cluster now result row.state
      -- the row cannot be read: the copy from before the spawn decides
      | some _, _ => if cluster.state.isDeleting then teardown else persist cluster now result cluster.state

/-- A whole execution of `run`, cancelled or not. -/
structure Execution (setting : Setting) (cluster : Cluster) where
  inputs : Inputs
  steps : List Exchange
  outcome : Option (Except ClusterError ConnectionInfo)
  rest : List Exchange
  spawned : (doSpawn setting inputs cluster).Selects steps outcome
  concluded : (conclude cluster inputs.now outcome).Selects rest (some ())

end SpawnRun

end AppSalmon
