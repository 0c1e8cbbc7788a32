import AppSalmon.Service.Tasks

/-! The tasks that a step leaves.

A step takes the place of the task that acts. What may come after it is told
here once, with what the step has read by then.
-/

set_option autoImplicit false

namespace AppSalmon

/-- A task that a step of another one may leave. -/
inductive Successor (deps : TaskDeps) (answer : Answer) (shared : Shared) : Task → Task → Prop where
  | launches {owner : ClientId} {service : ServiceSpec} {ttl : TimeDelta} {projectTar : Option (List UInt8)} {made : Cluster}
      (created : (ClusterService.create deps.limits shared.rows answer.repository
        (ClusterService.newCluster answer.id owner service ttl answer.now)).1 = .ok made) :
      Successor deps answer shared (.create owner service ttl projectTar) (.launch made projectTar)
  | registers {cluster : Cluster} {projectTar : Option (List UInt8)} (token : CancellationToken) :
      Successor deps answer shared (.launch cluster projectTar) (.spawn cluster token projectTar .start)
  /-- A spawn that is cancelled, or whose row is gone, tears down. -/
  | turns {cluster : Cluster} {token : CancellationToken} {projectTar : Option (List UInt8)} {stage : SpawnStage} :
      Successor deps answer shared (.spawn cluster token projectTar stage) (.teardown cluster .backend .unregister)
  | begins {cluster : Cluster} {token : CancellationToken} {projectTar : Option (List UInt8)} {backend : Backend}
      {worker : WorkerUser} (registered : deps.backend cluster.service.kind = some backend)
      (account : deps.clientWorkers.get cluster.owner = .ok worker) :
      Successor deps answer shared (.spawn cluster token projectTar .start)
        (.spawn { cluster with worker := some worker } token projectTar
          (.working worker (.settingWorker (SpawnTask.prepareTargets backend))))
  | declines {cluster : Cluster} {token : CancellationToken} {projectTar : Option (List UInt8)}
      (result : Except ClusterError ConnectionInfo) :
      Successor deps answer shared (.spawn cluster token projectTar .start)
        (.spawn cluster token projectTar (.checking result))
  | works {cluster : Cluster} {token : CancellationToken} {projectTar : Option (List UInt8)} {worker : WorkerUser}
      {phase : Phase} (later : SpawnStage) :
      Successor deps answer shared (.spawn cluster token projectTar (.working worker phase))
        (.spawn cluster token projectTar later)
  | abandons {cluster : Cluster} {token : CancellationToken} {projectTar : Option (List UInt8)} {worker : WorkerUser}
      {phase : Phase} {fresh : Task} (dropped : fresh ∈ SpawnTask.abandoned cluster worker phase) :
      Successor deps answer shared (.spawn cluster token projectTar (.working worker phase)) fresh
  | checks {cluster : Cluster} {token : CancellationToken} {projectTar : Option (List UInt8)}
      {result : Except ClusterError ConnectionInfo} (current : ClusterState) :
      Successor deps answer shared (.spawn cluster token projectTar (.checking result))
        (.spawn cluster token projectTar (.persisting current result))
  | ends {cluster : Cluster} {token : CancellationToken} {projectTar : Option (List UInt8)} {current : ClusterState}
      {result : Except ClusterError ConnectionInfo} :
      Successor deps answer shared (.spawn cluster token projectTar (.persisting current result)) (.unregister cluster.id)
  | tears {cluster : Cluster} {stage : TeardownStage} {next : After} (later : TeardownStage) :
      Successor deps answer shared (.teardown cluster stage next) (.teardown cluster later next)
  | removesLate {cluster : Cluster} {next : After} :
      Successor deps answer shared (.teardown cluster .backend next) (.late (.removes cluster.id))
  | wipesLate {cluster : Cluster} {next : After} {worker : WorkerUser} (has : cluster.worker = some worker) :
      Successor deps answer shared (.teardown cluster .wipe next) (.late (.wipes cluster worker))
  | unregisters {cluster : Cluster} :
      Successor deps answer shared (.teardown cluster .delete .unregister) (.unregister cluster.id)
  | resumes {cluster : Cluster} {todo : List Cluster} :
      Successor deps answer shared (.teardown cluster .delete (.resume todo)) (.reconcileRows todo)
  | reads {id : ClusterId} {owner : ClientId} {reason : DeleteReason} {caller : Caller} {row : Cluster}
      (found : ClusterService.info shared.rows answer.repository id owner = .ok row) :
      Successor deps answer shared (.requestDelete id owner reason caller none)
        (.requestDelete id owner reason caller (some row))
  /-- An error of the request is passed over by the sweep. -/
  | passesOver {id : ClusterId} {owner : ClientId} {reason : DeleteReason} {now : DateTime} {todo : List Cluster}
      {results : List (Cluster × DeleteOutcome)} {read : Option Cluster} :
      Successor deps answer shared (.requestDelete id owner reason (.reaper now todo results) read)
        (.reap now todo results)
  | answers {id : ClusterId} {owner : ClientId} {reason : DeleteReason} {read cluster : Cluster} {outcome : DeleteOutcome}
      (written : (ClusterService.writeDeletion shared.rows answer.repository read answer.now reason).1 =
        .ok (cluster, outcome)) :
      Successor deps answer shared (.requestDelete id owner reason .handler (some read)) (.followDelete cluster outcome)
  | collects {id : ClusterId} {owner : ClientId} {reason : DeleteReason} {now : DateTime} {todo : List Cluster}
      {results : List (Cluster × DeleteOutcome)} {read cluster : Cluster} {outcome : DeleteOutcome}
      (written : (ClusterService.writeDeletion shared.rows answer.repository read answer.now reason).1 =
        .ok (cluster, outcome)) :
      Successor deps answer shared (.requestDelete id owner reason (.reaper now todo results) (some read))
        (.reap now todo (results ++ [(cluster, outcome)]))
  | follows {cluster : Cluster} :
      Successor deps answer shared (.followDelete cluster .startTeardown) (.teardown cluster .backend .done)
  | gathers : Successor deps answer shared .sweep (.reap answer.now (Repository.listAll shared.rows) [])
  | gathersNothing : Successor deps answer shared .sweep (.dispatch [])
  | gathered {now : DateTime} {results : List (Cluster × DeleteOutcome)} :
      Successor deps answer shared (.reap now [] results) (.dispatch results)
  | spares {now : DateTime} {cluster : Cluster} {todo : List Cluster} {results : List (Cluster × DeleteOutcome)} :
      Successor deps answer shared (.reap now (cluster :: todo) results) (.reap now todo results)
  | expires {now : DateTime} {cluster : Cluster} {todo : List Cluster} {results : List (Cluster × DeleteOutcome)}
      {reason : DeleteReason}
      (due : TtlReaper.dueForReaping cluster.state now deps.failedGracePeriod = some (some reason)) :
      Successor deps answer shared (.reap now (cluster :: todo) results)
        (.requestDelete cluster.id cluster.owner reason (.reaper now todo results) none)
  | dispatches {result : Cluster × DeleteOutcome} {rest : List (Cluster × DeleteOutcome)} :
      Successor deps answer shared (.dispatch (result :: rest)) (.dispatch rest)
  | starts {cluster : Cluster} {rest : List (Cluster × DeleteOutcome)} :
      Successor deps answer shared (.dispatch ((cluster, .startTeardown) :: rest)) (.teardown cluster .backend .done)
  | extracts {dir : SlotDir} {upload : ClusterId} {effect : TarValidation.Effect} {rest : List TarValidation.Effect} :
      Successor deps answer shared (.staging dir upload (.extract (effect :: rest))) (.staging dir upload (.extract rest))
  | lists : Successor deps answer shared .reconcile (.reconcileRows (Repository.listAll shared.rows))
  | orphans {cluster : Cluster} {todo : List Cluster} :
      Successor deps answer shared (.reconcileRows (cluster :: todo))
        (.teardown { cluster with state := .deleting answer.now .adminForced } .backend (.resume todo))
  | finishes {cluster : Cluster} {todo : List Cluster} :
      Successor deps answer shared (.reconcileRows (cluster :: todo)) (.teardown cluster .backend (.resume todo))
  | loses {cluster : Cluster} {todo : List Cluster} :
      Successor deps answer shared (.reconcileRows (cluster :: todo)) (.reconcileLost cluster todo)
  | leaves {cluster : Cluster} {todo : List Cluster} :
      Successor deps answer shared (.reconcileRows (cluster :: todo)) (.reconcileRows todo)
  | notes {cluster : Cluster} {todo : List Cluster} :
      Successor deps answer shared (.reconcileLost cluster todo) (.reconcileRows todo)

variable {deps : TaskDeps} {answer : Answer} {shared : Shared} {fresh : Task}

theorem spawn_successor {cluster : Cluster} {token : CancellationToken} {projectTar : Option (List UInt8)} {stage : SpawnStage}
    (member : fresh ∈ (SpawnTask.step deps answer shared cluster token projectTar stage).2) :
    Successor deps answer shared (.spawn cluster token projectTar stage) fresh := by
  cases stage with
  | start =>
    simp only [SpawnTask.step] at member
    split at member
    · rw [List.mem_singleton.mp member]
      exact .turns
    · split at member
      · rw [List.mem_singleton.mp member]
        exact .declines _
      · next backend registered =>
        split at member
        · rw [List.mem_singleton.mp member]
          exact .declines _
        · next worker account =>
          rw [List.mem_singleton.mp member]
          exact .begins registered account
  | working worker phase =>
    simp only [SpawnTask.step] at member
    split at member
    · rcases List.mem_cons.mp member with rfl | dropped
      · exact .turns
      · exact .abandons dropped
    · by_cases panicked : SpawnTask.panics answer phase = true
      · rw [SpawnTask.work_panics panicked] at member
        cases member
      obtain ⟨later, left, leaves, rest⟩ :=
        SpawnTask.work_leaves deps shared cluster token projectTar worker (Bool.eq_false_of_not_eq_true panicked)
      rw [leaves] at member
      rcases List.mem_cons.mp member with rfl | dropped
      · exact .works later
      · rcases rest with rfl | rfl
        · cases dropped
        · exact .abandons dropped
  | checking result =>
    simp only [SpawnTask.step] at member
    split at member
    · rw [List.mem_singleton.mp member]
      exact .checks _
    · rw [List.mem_singleton.mp member]
      exact .turns
    · split at member
      · rw [List.mem_singleton.mp member]
        exact .turns
      · rw [List.mem_singleton.mp member]
        exact .checks _
  | persisting current result =>
    simp only [SpawnTask.step] at member
    split at member
    · cases member
    · rw [List.mem_singleton.mp member]
      exact .ends

theorem teardown_successor {cluster : Cluster} {stage : TeardownStage} {next : After}
    (member : fresh ∈ (TeardownTask.step deps answer shared cluster next stage).2) :
    Successor deps answer shared (.teardown cluster stage next) fresh := by
  cases stage with
  | backend =>
    simp only [TeardownTask.step] at member
    split at member
    · rw [List.mem_singleton.mp member]
      exact .tears _
    · split at member
      · rcases List.mem_pair.mp member with rfl | rfl
        · exact .tears _
        · exact .removesLate
      · rw [List.mem_singleton.mp member]
        exact .tears _
  | wipe =>
    simp only [TeardownTask.step] at member
    split at member
    · rw [List.mem_singleton.mp member]
      exact .tears _
    · next worker has =>
      split at member
      · rcases List.mem_pair.mp member with rfl | rfl
        · exact .tears _
        · exact .wipesLate has
      · rw [List.mem_singleton.mp member]
        exact .tears _
  | delete =>
    have ends : fresh ∈ TeardownTask.After.tasks cluster.id next := by
      simp only [TeardownTask.step] at member
      split at member <;> exact member
    cases next with
    | done => cases ends
    | unregister =>
      rw [List.mem_singleton.mp ends]
      exact .unregisters
    | resume todo =>
      rw [List.mem_singleton.mp ends]
      exact .resumes

theorem requestDelete_successor {id : ClusterId} {owner : ClientId} {reason : DeleteReason} {caller : Caller}
    {read : Option Cluster} (member : fresh ∈ (ClusterService.requestDelete answer shared id owner reason caller read).2) :
    Successor deps answer shared (.requestDelete id owner reason caller read) fresh := by
  cases read with
  | none =>
    simp only [ClusterService.requestDelete] at member
    split at member
    · next row found =>
      rw [List.mem_singleton.mp member]
      exact .reads found
    · cases caller with
      | handler => cases member
      | reaper now todo results =>
        rw [List.mem_singleton.mp member]
        exact .passesOver
  | some read =>
    simp only [ClusterService.requestDelete] at member
    cases written : (ClusterService.writeDeletion shared.rows answer.repository read answer.now reason).1 with
    | error error =>
      rw [written] at member
      cases caller with
      | handler => cases member
      | reaper now todo results =>
        rw [List.mem_singleton.mp member]
        exact .passesOver
    | ok done =>
      rw [written] at member
      cases caller with
      | handler =>
        rw [List.mem_singleton.mp member]
        exact .answers written
      | reaper now todo results =>
        rw [List.mem_singleton.mp member]
        exact .collects written

theorem reconcileRows_successor {todo : List Cluster}
    (member : fresh ∈ (Reconciliation.rows deps answer shared todo).2) :
    Successor deps answer shared (.reconcileRows todo) fresh := by
  cases todo with
  | nil => cases member
  | cons cluster todo =>
    simp only [Reconciliation.rows] at member
    split at member
    · split at member
      · rw [List.mem_singleton.mp member]
        exact .orphans
      · rw [List.mem_singleton.mp member]
        exact .leaves
    · split at member
      · rw [List.mem_singleton.mp member]
        exact .loses
      · rw [List.mem_singleton.mp member]
        exact .leaves
    · rw [List.mem_singleton.mp member]
      exact .finishes
    · rw [List.mem_singleton.mp member]
      exact .leaves

/-- A step leaves nothing else. -/
theorem Task.successor {task : Task} (member : fresh ∈ (task.step deps answer shared).2) :
    Successor deps answer shared task fresh := by
  cases task with
  | unregister | late => cases member
  | spawn => exact spawn_successor member
  | teardown => exact teardown_successor member
  | requestDelete => exact requestDelete_successor member
  | reconcileRows => exact reconcileRows_successor member
  | create owner service ttl projectTar =>
    simp only [Task.step, Handlers.create] at member
    split at member
    · next made created =>
      rw [List.mem_singleton.mp member]
      exact .launches created
    · cases member
  | launch cluster projectTar =>
    simp only [Task.step, Handlers.launchSpawn] at member
    split at member
    · cases member
    · rw [List.mem_singleton.mp member]
      exact .registers _
  | followDelete cluster outcome =>
    cases outcome with
    | cancelSpawn | alreadyDeleting => cases member
    | startTeardown =>
      rw [List.mem_singleton.mp member]
      exact .follows
  | sweep =>
    simp only [Task.step, TtlReaper.sweep] at member
    split at member
    · rw [List.mem_singleton.mp member]
      exact .gathersNothing
    · rw [List.mem_singleton.mp member]
      exact .gathers
  | reap now todo results =>
    simp only [Task.step, TtlReaper.reap] at member
    split at member
    · rw [List.mem_singleton.mp member]
      exact .gathered
    · split at member
      · cases member
      · rw [List.mem_singleton.mp member]
        exact .spares
      · next reason due =>
        rw [List.mem_singleton.mp member]
        exact .expires due
  | dispatch results =>
    rcases results with _ | ⟨⟨cluster, outcome⟩, rest⟩
    · cases member
    · cases outcome with
      | cancelSpawn | alreadyDeleting =>
        rw [List.mem_singleton.mp member]
        exact .dispatches
      | startTeardown =>
        rcases List.mem_pair.mp member with rfl | rfl
        · exact .starts
        · exact .dispatches
  | staging dir upload work =>
    cases work with
    | create | remove =>
      simp only [Task.step, StagingWork.step] at member
      split at member <;> cases member
    | extract remaining =>
      cases remaining with
      | nil => cases member
      | cons effect rest =>
        simp only [Task.step, StagingWork.step] at member
        split at member
        · rw [List.mem_singleton.mp member]
          exact .extracts
        · cases member
  | reconcile =>
    simp only [Task.step, Reconciliation.start] at member
    split at member
    · cases member
    · rw [List.mem_singleton.mp member]
      exact .lists
  | reconcileLost cluster todo =>
    simp only [Task.step, Reconciliation.lost] at member
    split at member <;>
    · rw [List.mem_singleton.mp member]
      exact .notes

end AppSalmon
