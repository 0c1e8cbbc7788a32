import AppSalmon.Service.ClusterService
import AppSalmon.Library.TaskPool

/-! The tasks of one process: handlers, sweeps, spawns, teardowns and startup reconciliation.

A constructor stands for a task that waits for one call to return. What the
process has given up, the call of a dropped future or a command that timed out,
stays behind as a task of its own that may still take effect.
-/

set_option autoImplicit false

namespace AppSalmon

open TarValidation (TarValidationError)

/-- Where `do_spawn` waits once the account is known. -/
inductive Phase where
  | settingWorker (targets : List String)
  | preparing (targets : List String)
  | creatingStaging
  | settingModes (left : Nat)
  | extracting (remaining : List TarValidation.Effect) (result : Except TarValidationError Unit)
  | adopting
  | unstaging (outcome : Except ClusterError Unit)
  | spawning

inductive SpawnStage where
  | start
  | working (worker : WorkerUser) (phase : Phase)
  /-- `do_spawn` has returned; the row is being read again. -/
  | checking (result : Except ClusterError ConnectionInfo)
  /-- The row was read; its outcome is being written. -/
  | persisting (current : ClusterState) (result : Except ClusterError ConnectionInfo)

inductive TeardownStage where
  | backend | wipe | delete
  deriving DecidableEq

/-- What follows a call of `teardown`. -/
inductive After where
  | done
  | unregister
  | resume (todo : List Cluster)

/-- Who calls `request_delete`. -/
inductive Caller where
  | handler
  | reaper (now : DateTime) (todo : List Cluster) (results : List (Cluster × DeleteOutcome))

/-- The effect of a call that the process no longer waits for. -/
inductive LateEffect where
  | setWorker (id : ClusterId) (worker : WorkerUser)
  | writes (dir : SlotDir) (id : ClusterId)
  | wipes (cluster : Cluster) (worker : WorkerUser)
  | creates (id : ClusterId) (dir : SlotDir)
  | removes (id : ClusterId)
  deriving DecidableEq

/-- A blocking closure on a staging directory that outlives the future awaiting it. -/
inductive StagingWork where
  | create
  | extract (remaining : List TarValidation.Effect)
  | remove

inductive Task where
  | create (owner : ClientId) (service : ServiceSpec) (ttl : TimeDelta) (projectTar : Option (List UInt8))
  | launch (cluster : Cluster) (projectTar : Option (List UInt8))
  | spawn (cluster : Cluster) (token : CancellationToken) (projectTar : Option (List UInt8)) (stage : SpawnStage)
  | unregister (id : ClusterId)
  | teardown (cluster : Cluster) (stage : TeardownStage) (after : After)
  /-- Reading the row while `read` is empty, writing it afterwards. -/
  | requestDelete (id : ClusterId) (owner : ClientId) (reason : DeleteReason) (caller : Caller)
      (read : Option Cluster)
  | followDelete (cluster : Cluster) (outcome : DeleteOutcome)
  | sweep
  | reap (now : DateTime) (todo : List Cluster) (results : List (Cluster × DeleteOutcome))
  | dispatch (results : List (Cluster × DeleteOutcome))
  | late (effect : LateEffect)
  | staging (dir : SlotDir) (upload : ClusterId) (work : StagingWork)
  | reconcile
  | reconcileRows (todo : List Cluster)
  | reconcileLost (cluster : Cluster) (todo : List Cluster)

/-- The tasks of startup reconciliation, which runs before any request is served. -/
def Task.isStartup : Task → Bool
  | .reconcile | .reconcileRows _ | .reconcileLost _ _ | .teardown _ _ (.resume _) => true
  | _ => false

def Task.isReaper : Task → Bool
  | .sweep | .reap .. | .dispatch _ | .requestDelete _ _ _ (.reaper ..) _ => true
  | _ => false

abbrev Step := Shared × List Task

/-! ## Teardown -/

namespace TeardownTask

def enter (shared : Shared) (cluster : Cluster) (after : After) : Step :=
  ({ shared with teardowns := cluster.id :: shared.teardowns }, [.teardown cluster .backend after])

def After.tasks (id : ClusterId) : After → List Task
  | .done => []
  | .unregister => [.unregister id]
  | .resume todo => [.reconcileRows todo]

/-- A step that fails is logged and the next one follows. -/
def step (deps : TaskDeps) (answer : Answer) (shared : Shared) (cluster : Cluster) (after : After) :
    TeardownStage → Step
  | .backend =>
    match deps.backend cluster.service.kind with
    | none => (shared, [.teardown cluster .wipe after])
    | some _ =>
      match answer.teardown with
      | some _ => ({ shared with stray := cluster.id :: shared.stray },
          [.teardown cluster .wipe after, .late (.removes cluster.id)])
      | none => ({ shared with world := shared.world.teardown cluster.id }, [.teardown cluster .wipe after])
  | .wipe =>
    match cluster.worker with
    | none => (shared, [.teardown cluster .delete after])
    | some worker =>
      match answer.executor with
      | some _ => ({ shared with stray := cluster.id :: shared.stray },
          [.teardown cluster .delete after, .late (.wipes cluster worker)])
      | none => ({ shared with world := shared.world.wipe (slotDir worker cluster.slot) },
          [.teardown cluster .delete after])
  | .delete =>
    match answer.repository with
    | some _ => (shared, After.tasks cluster.id after)
    | none => ({ shared with rows := Repository.delete shared.rows cluster.id }, After.tasks cluster.id after)

end TeardownTask

/-! ## Spawn -/

namespace SpawnTask

def sanitizeTarError : TarValidationError → String
  | .disallowedEntryType .. =>
    "project_tar contains an entry type that isn't allowed (only regular files and directories are)"
  | .entryTooLarge .. | .totalTooLarge .. => "project_tar exceeds the configured size limit"
  | .unsafeEntry .. => "project_tar contains an entry with an unsafe path"
  | .read .. | .extract .. => "project_tar could not be read or extracted"

def sanitize : ClusterError → String
  | .docker (.healthCheckTimeout ..) => "container did not become healthy in time"
  | .docker (.containerNotHealthy ..) => "container exited unexpectedly during startup"
  | .docker _ => "container creation failed"
  | .clientWorker _ => "worker preparation failed"
  | .repository _ => "internal storage error"
  | .backendSpawnFailed message => message
  | .ttlOutOfBounds .. | .quotaExceeded .. | .notFound _ | .invalidTransition .. => "spawn failed"

/-- The subdirectories to prepare, the directory itself when there are none. -/
def prepareTargets (backend : Backend) : List String :=
  if backend.workerSubdirs = [] then [""] else backend.workerSubdirs

/-- `registry.cancel` has reached the token, or `do_spawn` has failed: the call it was in is left alone. -/
def abandoned (cluster : Cluster) (worker : WorkerUser) : Phase → List Task
  | .settingWorker _ => [.late (.setWorker cluster.id worker)]
  | .preparing _ | .adopting => [.late (.writes (slotDir worker cluster.slot) cluster.id)]
  | .creatingStaging => [.staging (slotDir worker cluster.slot) cluster.id .create]
  | .settingModes _ => []
  | .extracting remaining _ => [.staging (slotDir worker cluster.slot) cluster.id (.extract remaining)]
  | .unstaging _ => [.staging (slotDir worker cluster.slot) cluster.id .remove]
  | .spawning => [.late (.creates cluster.id (slotDir worker cluster.slot))]

def stagingPath (deps : TaskDeps) (cluster : Cluster) (worker : WorkerUser) : UnixPath.Path :=
  workerDataDir deps.tarStagingDirBase worker cluster.slot

/-- The blocking closure's effects and result, had it run alone and met no error. -/
def extraction (deps : TaskDeps) (cluster : Cluster) (worker : WorkerUser) (tarBytes : List UInt8) :
    TarValidation.Extraction :=
  TarValidation.validateAndExtract deps.tar.crate deps.tar.setPermissions (stagingPath deps cluster worker)
    deps.tarLimits tarBytes

/-- The phase after the last directory is prepared. -/
def afterPrepare (projectTar : Option (List UInt8)) : Phase :=
  match projectTar with
  | some _ => .creatingStaging
  | none => .spawning

/-- One await of `do_spawn`, for a task whose token is not cancelled. -/
def work (deps : TaskDeps) (answer : Answer) (shared : Shared) (cluster : Cluster) (token : CancellationToken)
    (projectTar : Option (List UInt8)) (worker : WorkerUser) (phase : Phase) : Step :=
  let dir := slotDir worker cluster.slot
  let continue_ (shared : Shared) (phase : Phase) : Step :=
    (shared, [.spawn cluster token projectTar (.working worker phase)])
  let finish (shared : Shared) (result : Except ClusterError ConnectionInfo) (left : List Task) : Step :=
    (shared, .spawn cluster token projectTar (.checking result) :: left)
  match phase with
  | .settingWorker targets =>
    match answer.repository with
    | some error => finish shared (.error (.repository error)) []
    | none =>
      match Repository.setWorker shared.rows cluster.id worker with
      | .error error => finish shared (.error (.repository error)) []
      | .ok rows => continue_ { shared with rows := rows } (.preparing targets)
  | .preparing targets =>
    match answer.executor with
    | some error => finish shared (.error (.clientWorker (.prepare error))) (abandoned cluster worker phase)
    | none =>
      let shared := { shared with world := shared.world.write dir cluster.id }
      match targets with
      | _ :: next :: rest => continue_ shared (.preparing (next :: rest))
      | _ => continue_ shared (afterPrepare projectTar)
  | .creatingStaging =>
    match answer.fs with
    | some _ => finish shared (.error (.backendSpawnFailed "failed to prepare staging directory")) []
    | none => continue_ { shared with staging := shared.staging.createDirAll dir } (.settingModes 2)
  | .settingModes left =>
    match answer.fs with
    | some _ => finish shared
        (.error (.backendSpawnFailed "failed to prepare staging directory permissions")) []
    | none =>
      match left with
      | next + 2 => continue_ shared (.settingModes (next + 1))
      | _ =>
        let outcome := extraction deps cluster worker (projectTar.getD [])
        continue_ shared (.extracting outcome.effects outcome.result)
  | .extracting remaining result =>
    match answer.fs with
    | some _ => continue_ shared
        (.unstaging (.error (.backendSpawnFailed "internal error while extracting project_tar")))
    | none =>
      match remaining, result with
      | effect :: rest, result =>
        match answer.untar, shared.staging.write dir ⟨cluster.id, effect⟩ with
        | some error, _ => continue_ shared (.extracting [] (.error error))
        | none, some staging => continue_ { shared with staging := staging } (.extracting rest result)
        | none, none => continue_ shared (.extracting [] (.error (.extract 0 [] ⟨"No such file or directory"⟩)))
      | [], .ok () => continue_ shared .adopting
      | [], .error error =>
        continue_ shared (.unstaging (.error (.backendSpawnFailed (sanitizeTarError error))))
  | .adopting =>
    match answer.executor with
    | some error =>
      (shared, .spawn cluster token projectTar (.working worker (.unstaging (.error (.clientWorker (.prepare error)))))
        :: abandoned cluster worker phase)
    | none => continue_ { shared with world := shared.world.write dir cluster.id } (.unstaging (.ok ()))
  | .unstaging outcome =>
    let staging := match answer.fs with
      | some _ => shared.staging.removePart dir answer.kept
      | none => shared.staging.removeDirAll dir
    match outcome with
    | .ok () => continue_ { shared with staging := staging } .spawning
    | .error error => finish { shared with staging := staging } (.error error) []
  | .spawning =>
    match answer.spawn with
    | .creates => continue_ { shared with world := shared.world.create cluster.id dir } .spawning
    | .returns (.ok connection) => finish shared (.ok connection) []
    | .returns (.error error) => finish shared (.error error) (abandoned cluster worker phase)
    | .panics => (shared, [])

/-- The event that records the outcome, absent where chrono panics. -/
def outcomeEvent (now : DateTime) (requestedTtl : TimeDelta) :
    Except ClusterError ConnectionInfo → Option ClusterEvent
  | .ok connection => (now.add? requestedTtl).map fun decommissionAt => .spawnSucceeded now decommissionAt connection
  | .error error => some (.spawnFailed now (sanitize error))

/-- Any error on the way is logged. -/
def persist (shared : Shared) (fault : Option RepositoryError) (id : ClusterId) (current : ClusterState)
    (event : ClusterEvent) : Shared :=
  match transition current event, fault with
  | .ok state, none =>
    match Repository.updateState shared.rows id state with
    | .ok rows => { shared with rows := rows }
    | .error _ => shared
  | _, _ => shared

def step (deps : TaskDeps) (answer : Answer) (shared : Shared) (cluster : Cluster) (token : CancellationToken)
    (projectTar : Option (List UInt8)) : SpawnStage → Step
  | .start =>
    if shared.registry.isCancelled token then TeardownTask.enter shared cluster .unregister
    else match deps.backend cluster.service.kind with
      | none => (shared, [.spawn cluster token projectTar (.checking (.error
          (.backendSpawnFailed "no backend registered for this service kind")))])
      | some backend =>
        match deps.clientWorkers.get cluster.owner with
        | .error error => (shared, [.spawn cluster token projectTar (.checking (.error (.clientWorker error)))])
        | .ok worker => (shared, [.spawn { cluster with worker := some worker } token projectTar
            (.working worker (.settingWorker (prepareTargets backend)))])
  | .working worker phase =>
    -- the select is biased: a cancelled token wins over a call that has returned
    if shared.registry.isCancelled token then
      let entered := TeardownTask.enter shared cluster .unregister
      (entered.1, entered.2 ++ abandoned cluster worker phase)
    else work deps answer shared cluster token projectTar worker phase
  | .checking result =>
    match answer.repository, Repository.getAny shared.rows cluster.id with
    | some _, _ => (shared, [.spawn cluster token projectTar (.persisting cluster.state result)])
    | none, none => TeardownTask.enter shared cluster .unregister
    | none, some row =>
      if row.state.isDeleting then TeardownTask.enter shared cluster .unregister
      else (shared, [.spawn cluster token projectTar (.persisting row.state result)])
  | .persisting current result =>
    match outcomeEvent answer.now cluster.requestedTtl result with
    | none => (shared, [])
    | some event => (persist shared answer.repository cluster.id current event, [.unregister cluster.id])

/-- What one await of `do_spawn` may do: the state after it, the task's next stage, and what else it leaves. -/
inductive Awaited (deps : TaskDeps) (answer : Answer) (shared : Shared) (cluster : Cluster)
    (projectTar : Option (List UInt8)) (worker : WorkerUser) : Phase → Shared → SpawnStage → List Task → Prop
  /-- A call has failed that is not left alone. -/
  | fails {phase : Phase} (error : ClusterError) :
      Awaited deps answer shared cluster projectTar worker phase shared (.checking (.error error)) []
  | assigns {targets : List String} {rows : List Cluster} (written : Repository.setWorker shared.rows cluster.id worker = .ok rows) :
      Awaited deps answer shared cluster projectTar worker (.settingWorker targets) { shared with rows := rows }
        (.working worker (.preparing targets)) []
  | prepares {target next : String} {rest : List String} :
      Awaited deps answer shared cluster projectTar worker (.preparing (target :: next :: rest))
        { shared with world := shared.world.write (slotDir worker cluster.slot) cluster.id }
        (.working worker (.preparing (next :: rest))) []
  | prepared {targets : List String} :
      Awaited deps answer shared cluster projectTar worker (.preparing targets)
        { shared with world := shared.world.write (slotDir worker cluster.slot) cluster.id }
        (.working worker (afterPrepare projectTar)) []
  | unprepared {targets : List String} (error : ClusterError) :
      Awaited deps answer shared cluster projectTar worker (.preparing targets) shared (.checking (.error error))
        (abandoned cluster worker (.preparing targets))
  | stages (works : answer.fs = none) :
      Awaited deps answer shared cluster projectTar worker .creatingStaging
        { shared with staging := shared.staging.createDirAll (slotDir worker cluster.slot) }
        (.working worker (.settingModes 2)) []
  | setsMode {left : Nat} :
      Awaited deps answer shared cluster projectTar worker (.settingModes (left + 2)) shared
        (.working worker (.settingModes (left + 1))) []
  | validates {left : Nat} :
      Awaited deps answer shared cluster projectTar worker (.settingModes left) shared
        (.working worker (.extracting (extraction deps cluster worker (projectTar.getD [])).effects
          (extraction deps cluster worker (projectTar.getD [])).result)) []
  | extracts {effect : TarValidation.Effect} {rest : List TarValidation.Effect}
      {result : Except TarValidationError Unit} {staging : Staging}
      (written : shared.staging.write (slotDir worker cluster.slot) ⟨cluster.id, effect⟩ = some staging) :
      Awaited deps answer shared cluster projectTar worker (.extracting (effect :: rest) result)
        { shared with staging := staging } (.working worker (.extracting rest result)) []
  /-- The directory is gone, or something else fails. -/
  | misses {effect : TarValidation.Effect} {rest : List TarValidation.Effect}
      {result : Except TarValidationError Unit} (error : TarValidationError) :
      Awaited deps answer shared cluster projectTar worker (.extracting (effect :: rest) result) shared
        (.working worker (.extracting [] (.error error))) []
  | extracted :
      Awaited deps answer shared cluster projectTar worker (.extracting [] (.ok ())) shared (.working worker .adopting) []
  | unextracted {remaining : List TarValidation.Effect} {result : Except TarValidationError Unit} (error : ClusterError) :
      Awaited deps answer shared cluster projectTar worker (.extracting remaining result) shared
        (.working worker (.unstaging (.error error))) []
  | adopts :
      Awaited deps answer shared cluster projectTar worker .adopting
        { shared with world := shared.world.write (slotDir worker cluster.slot) cluster.id }
        (.working worker (.unstaging (.ok ()))) []
  | unadopted (error : ClusterError) :
      Awaited deps answer shared cluster projectTar worker .adopting shared
        (.working worker (.unstaging (.error error))) (abandoned cluster worker .adopting)
  /-- Whether or not all of the directory could be removed. -/
  | unstages {outcome : Except ClusterError Unit} {staging : Staging} {later : SpawnStage}
      (removed : staging = shared.staging.removePart (slotDir worker cluster.slot) answer.kept ∨
        staging = shared.staging.removeDirAll (slotDir worker cluster.slot))
      (goesOn : later = .working worker .spawning ∨ ∃ error, later = .checking (.error error)) :
      Awaited deps answer shared cluster projectTar worker (.unstaging outcome) { shared with staging := staging } later []
  | creates :
      Awaited deps answer shared cluster projectTar worker .spawning
        { shared with world := shared.world.create cluster.id (slotDir worker cluster.slot) } (.working worker .spawning) []
  | spawned (connection : ConnectionInfo) :
      Awaited deps answer shared cluster projectTar worker .spawning shared (.checking (.ok connection)) []
  | unspawned (error : ClusterError) :
      Awaited deps answer shared cluster projectTar worker .spawning shared (.checking (.error error))
        (abandoned cluster worker .spawning)

/-- A panic in the backend leaves nothing. -/
def panics (answer : Answer) : Phase → Bool
  | .spawning => match answer.spawn with
    | .panics => true
    | .creates | .returns _ => false
  | _ => false

theorem work_panics {deps : TaskDeps} {answer : Answer} {shared : Shared} {cluster : Cluster} {token : CancellationToken}
    {projectTar : Option (List UInt8)} {worker : WorkerUser} {phase : Phase} (panicked : panics answer phase = true) :
    work deps answer shared cluster token projectTar worker phase = (shared, []) := by
  cases phase with
  | spawning =>
    cases told : answer.spawn with
    | panics => simp only [work, told]
    | creates | returns => simp [panics, told] at panicked
  | settingWorker | preparing | creatingStaging | settingModes | extracting | adopting | unstaging => cases panicked

theorem work_awaited (deps : TaskDeps) {answer : Answer} (shared : Shared) (cluster : Cluster) (token : CancellationToken)
    (projectTar : Option (List UInt8)) (worker : WorkerUser) {phase : Phase} (calm : panics answer phase = false) :
    ∃ after later left, work deps answer shared cluster token projectTar worker phase =
        (after, .spawn cluster token projectTar later :: left) ∧
      Awaited deps answer shared cluster projectTar worker phase after later left := by
  cases phase with
  | settingWorker targets =>
    simp only [work]
    split
    · exact ⟨_, _, _, rfl, .fails _⟩
    · split
      · exact ⟨_, _, _, rfl, .fails _⟩
      · next rows written => exact ⟨_, _, _, rfl, .assigns written⟩
  | preparing targets =>
    simp only [work]
    split
    · exact ⟨_, _, _, rfl, .unprepared _⟩
    · split
      · exact ⟨_, _, _, rfl, .prepares⟩
      · exact ⟨_, _, _, rfl, .prepared⟩
  | creatingStaging =>
    simp only [work]
    split
    · exact ⟨_, _, _, rfl, .fails _⟩
    · next works => exact ⟨_, _, _, rfl, .stages works⟩
  | settingModes left =>
    simp only [work]
    split
    · exact ⟨_, _, _, rfl, .fails _⟩
    · split
      · exact ⟨_, _, _, rfl, .setsMode⟩
      · exact ⟨_, _, _, rfl, .validates⟩
  | extracting remaining result =>
    simp only [work]
    split
    · exact ⟨_, _, _, rfl, .unextracted _⟩
    · split
      · split
        · exact ⟨_, _, _, rfl, .misses _⟩
        · next staging unbroken written => exact ⟨_, _, _, rfl, .extracts written⟩
        · exact ⟨_, _, _, rfl, .misses _⟩
      · exact ⟨_, _, _, rfl, .extracted⟩
      · exact ⟨_, _, _, rfl, .unextracted _⟩
  | adopting =>
    simp only [work]
    split
    · exact ⟨_, _, _, rfl, .unadopted _⟩
    · exact ⟨_, _, _, rfl, .adopts⟩
  | unstaging outcome =>
    cases fault : answer.fs <;> cases outcome <;> simp only [work, fault]
    · exact ⟨_, _, _, rfl, .unstages (.inr rfl) (.inr ⟨_, rfl⟩)⟩
    · exact ⟨_, _, _, rfl, .unstages (.inr rfl) (.inl rfl)⟩
    · exact ⟨_, _, _, rfl, .unstages (.inl rfl) (.inr ⟨_, rfl⟩)⟩
    · exact ⟨_, _, _, rfl, .unstages (.inl rfl) (.inl rfl)⟩
  | spawning =>
    simp only [work]
    split
    · exact ⟨_, _, _, rfl, .creates⟩
    · exact ⟨_, _, _, rfl, .spawned _⟩
    · exact ⟨_, _, _, rfl, .unspawned _⟩
    · next told => simp [panics, told] at calm

/-- An await of `do_spawn` leaves the spawn, and perhaps the call it was in. -/
theorem work_leaves (deps : TaskDeps) {answer : Answer} (shared : Shared) (cluster : Cluster) (token : CancellationToken)
    (projectTar : Option (List UInt8)) (worker : WorkerUser) {phase : Phase} (calm : panics answer phase = false) :
    ∃ stage left, (work deps answer shared cluster token projectTar worker phase).2 =
      .spawn cluster token projectTar stage :: left ∧ (left = [] ∨ left = abandoned cluster worker phase) := by
  obtain ⟨after, later, left, moved, awaited⟩ :=
    work_awaited deps shared cluster token projectTar worker calm
  refine ⟨later, left, congrArg Prod.snd moved, ?_⟩
  cases awaited with
  | unprepared | unadopted | unspawned => exact .inr rfl
  | fails | assigns | prepares | prepared | stages | setsMode | validates | extracts | misses | extracted | unextracted
  | adopts | unstages | creates | spawned => exact .inl rfl

end SpawnTask

/-! ## Requests -/

namespace Handlers

/-- The rest of `create_cluster` runs without an await: the estimate, the token and the new task. -/
def launchSpawn (deps : TaskDeps) (shared : Shared) (cluster : Cluster) (projectTar : Option (List UInt8)) : Step :=
  match cluster.requestedAt.add? deps.spawnEstimate with
  | none => (shared, [])
  | some _ =>
    let registered := shared.registry.register cluster.id
    ({ shared with registry := registered.2 }, [.spawn cluster registered.1 projectTar .start])

def create (deps : TaskDeps) (answer : Answer) (shared : Shared) (owner : ClientId) (service : ServiceSpec)
    (ttl : TimeDelta) (projectTar : Option (List UInt8)) : Step :=
  let cluster := ClusterService.newCluster answer.id owner service ttl answer.now
  let done := ClusterService.create deps.limits shared.rows answer.repository cluster
  match done.1 with
  | .ok made => ({ shared with rows := done.2, born := made.id :: shared.born }, [.launch made projectTar])
  | .error _ => ({ shared with rows := done.2 }, [])

/-- The end of `delete_cluster`, answered with 202. -/
def followDelete (shared : Shared) (cluster : Cluster) (outcome : DeleteOutcome) : Step :=
  let shared := { shared with accepted := cluster.id :: shared.accepted }
  match outcome with
  | .cancelSpawn => ({ shared with registry := shared.registry.cancel cluster.id }, [])
  | .startTeardown => TeardownTask.enter shared cluster .done
  | .alreadyDeleting => (shared, [])

end Handlers

/-- The task that receives the result of `request_delete`. -/
def Caller.receive (result : Except ClusterError (Cluster × DeleteOutcome)) : Caller → List Task
  | .handler =>
    match result with
    | .ok (cluster, outcome) => [.followDelete cluster outcome]
    | .error _ => []
  | .reaper now todo results =>
    match result with
    | .ok done => [.reap now todo (results ++ [done])]
    | .error _ => [.reap now todo results]

namespace ClusterService

def requestDelete (answer : Answer) (shared : Shared) (id : ClusterId) (owner : ClientId) (reason : DeleteReason)
    (caller : Caller) : Option Cluster → Step
  | none =>
    match info shared.rows answer.repository id owner with
    | .ok cluster => (shared, [.requestDelete id owner reason caller (some cluster)])
    | .error error => (shared, caller.receive (.error error))
  | some cluster =>
    let done := writeDeletion shared.rows answer.repository cluster answer.now reason
    ({ shared with rows := done.2 }, caller.receive done.1)

end ClusterService

/-! ## The reaper -/

namespace TtlReaper

/-- The outer option is empty where chrono panics. -/
def dueForReaping (state : ClusterState) (now : DateTime) (failedGracePeriod : TimeDelta) :
    Option (Option DeleteReason) :=
  match state with
  | .ready _ decommissionAt _ => some (if decommissionAt ≤ now then some .ttlExpired else none)
  | .failed failedAt _ => (failedAt.add? failedGracePeriod).map fun until_ =>
      if until_ ≤ now then some .spawnFailed else none
  | .spawning _ | .deleting .. => some none

def sweep (answer : Answer) (shared : Shared) : Step :=
  match answer.repository with
  | some _ => (shared, [.dispatch []])
  | none => (shared, [.reap answer.now (Repository.listAll shared.rows) []])

def reap (deps : TaskDeps) (shared : Shared) (now : DateTime) (todo : List Cluster)
    (results : List (Cluster × DeleteOutcome)) : Step :=
  match todo with
  | [] => (shared, [.dispatch results])
  | cluster :: rest =>
    match dueForReaping cluster.state now deps.failedGracePeriod with
    | none => (shared, [])
    | some none => (shared, [.reap now rest results])
    | some (some reason) =>
      (shared, [.requestDelete cluster.id cluster.owner reason (.reaper now rest results) none])

def dispatch (shared : Shared) : List (Cluster × DeleteOutcome) → Step
  | [] => (shared, [])
  | (cluster, .startTeardown) :: rest =>
    let entered := TeardownTask.enter shared cluster .done
    (entered.1, entered.2 ++ [.dispatch rest])
  | (_, .cancelSpawn) :: rest | (_, .alreadyDeleting) :: rest => (shared, [.dispatch rest])

end TtlReaper

/-! ## Startup -/

namespace Reconciliation

def start (answer : Answer) (shared : Shared) : Step :=
  match answer.repository with
  | some _ => (shared, [])
  | none => (shared, [.reconcileRows (Repository.listAll shared.rows)])

def rows (deps : TaskDeps) (answer : Answer) (shared : Shared) : List Cluster → Step
  | [] => (shared, [])
  | cluster :: todo =>
    match cluster.state with
    | .spawning _ =>
      let state := ClusterState.deleting answer.now .adminForced
      match answer.repository, Repository.updateState shared.rows cluster.id state with
      | none, .ok rows =>
        TeardownTask.enter { shared with rows := rows } { cluster with state := state } (.resume todo)
      | _, _ => (shared, [.reconcileRows todo])
    | .ready .. =>
      match deps.backend cluster.service.kind, answer.isAlive with
      | some _, .ok false => (shared, [.reconcileLost cluster todo])
      | _, _ => (shared, [.reconcileRows todo])
    | .deleting .. => TeardownTask.enter shared cluster (.resume todo)
    | .failed .. => (shared, [.reconcileRows todo])

/-- A `Ready` row whose backend is gone; an error is logged. -/
def lost (answer : Answer) (shared : Shared) (cluster : Cluster) (todo : List Cluster) : Step :=
  match answer.repository, Repository.updateState shared.rows cluster.id (.failed answer.now "lost after restart") with
  | none, .ok rows => ({ shared with rows := rows }, [.reconcileRows todo])
  | _, _ => (shared, [.reconcileRows todo])

end Reconciliation

/-! ## What was left behind -/

def LateEffect.apply (shared : Shared) : LateEffect → Shared
  | .setWorker id worker =>
    match Repository.setWorker shared.rows id worker with
    | .ok rows => { shared with rows := rows }
    | .error _ => shared
  | .writes dir id => { shared with world := shared.world.write dir id, stray := id :: shared.stray }
  | .wipes cluster worker => { shared with world := shared.world.wipe (slotDir worker cluster.slot) }
  | .creates id dir => { shared with world := shared.world.create id dir, stray := id :: shared.stray }
  | .removes id => { shared with world := shared.world.teardown id }

def StagingWork.step (answer : Answer) (shared : Shared) (dir : SlotDir) (upload : ClusterId) : StagingWork → Step
  | .create =>
    match answer.fs with
    | some _ => (shared, [])
    | none => ({ shared with staging := shared.staging.createDirAll dir }, [])
  | .extract [] => (shared, [])
  | .extract (effect :: rest) =>
    match answer.untar, shared.staging.write dir ⟨upload, effect⟩ with
    | none, some staging => ({ shared with staging := staging }, [.staging dir upload (.extract rest)])
    | _, _ => (shared, [])
  | .remove =>
    match answer.fs with
    | some _ => ({ shared with staging := shared.staging.removePart dir answer.kept }, [])
    | none => ({ shared with staging := shared.staging.removeDirAll dir }, [])

/-! ## One step of any task -/

def Task.step (deps : TaskDeps) (answer : Answer) (shared : Shared) : Task → Step
  | .create owner service ttl projectTar => Handlers.create deps answer shared owner service ttl projectTar
  | .launch cluster projectTar => Handlers.launchSpawn deps shared cluster projectTar
  | .spawn cluster token projectTar stage => SpawnTask.step deps answer shared cluster token projectTar stage
  | .unregister id => ({ shared with registry := shared.registry.unregister id }, [])
  | .teardown cluster stage after => TeardownTask.step deps answer shared cluster after stage
  | .requestDelete id owner reason caller read =>
    ClusterService.requestDelete answer shared id owner reason caller read
  | .followDelete cluster outcome => Handlers.followDelete shared cluster outcome
  | .sweep => TtlReaper.sweep answer shared
  | .reap now todo results => TtlReaper.reap deps shared now todo results
  | .dispatch results => TtlReaper.dispatch shared results
  | .late effect => (if answer.lands then effect.apply shared else shared, [])
  | .staging dir upload work => work.step answer shared dir upload
  | .reconcile => Reconciliation.start answer shared
  | .reconcileRows todo => Reconciliation.rows deps answer shared todo
  | .reconcileLost cluster todo => Reconciliation.lost answer shared cluster todo

end AppSalmon
