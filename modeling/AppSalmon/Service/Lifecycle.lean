import AppSalmon.Service.System

/-! What each task owes to the rows, and what one step of a task does to the rows and to what is owed.

The table, the calls and the awaits are forgotten here. What is left of a task
is its list of duties; a step is one of the effects below.
-/

set_option autoImplicit false

namespace AppSalmon

open Repository (Rows stateOf)

inductive Duty where
  /-- A request that is still under way. -/
  | request
  /-- The spawn of a row, and the state it takes the row to be in. -/
  | spawn (id : ClusterId) (believed : ClusterState)
  | setWorker (id : ClusterId)
  /-- A delete request between its two repository calls. -/
  | holds (id : ClusterId) (read : ClusterState)
  /-- A `DELETE` that is about to be answered with 202. -/
  | accept (id : ClusterId)
  /-- A `StartTeardown` that nobody has acted on yet. -/
  | pledge (id : ClusterId)
  | teardown (id : ClusterId)
  | startup
  /-- A row that reconciliation has listed and not visited yet. -/
  | recover (id : ClusterId) (listed : ClusterState)
  /-- A `Ready` row whose backend is gone. -/
  | lost (id : ClusterId)

def pledgeOf (id : ClusterId) : DeleteOutcome → List Duty
  | .startTeardown => [.pledge id]
  | .cancelSpawn | .alreadyDeleting => []

def pledges (results : List (Cluster × DeleteOutcome)) : List Duty :=
  results.flatMap fun result => pledgeOf result.1.id result.2

def recoveries (todo : List Cluster) : List Duty := todo.map fun cluster => .recover cluster.id cluster.state

def Caller.duties : Caller → List Duty
  | .handler => []
  | .reaper _ _ results => pledges results

/-- What a delete request owes on the way back to its caller. -/
def Caller.answers (id : ClusterId) : Caller → List Duty
  | .handler => [.accept id]
  | .reaper .. => []

def After.duties : After → List Duty
  | .done | .unregister => []
  | .resume todo => recoveries todo

def SpawnStage.believed (state : ClusterState) : SpawnStage → ClusterState
  | .persisting current _ => current
  | .start | .working .. | .checking _ => state

def Task.duties : Task → List Duty
  | .create .. | .sweep => [.request]
  | .launch cluster _ => [.spawn cluster.id cluster.state]
  | .spawn cluster _ _ stage => [.spawn cluster.id (stage.believed cluster.state)]
  | .unregister _ | .staging .. => []
  | .teardown cluster _ after => .teardown cluster.id :: after.duties
  | .requestDelete _ _ _ caller none => .request :: caller.duties
  | .requestDelete _ _ _ caller (some read) => .request :: .holds read.id read.state :: caller.duties
  | .followDelete cluster outcome => .request :: .accept cluster.id :: pledgeOf cluster.id outcome
  | .reap _ _ results | .dispatch results => .request :: pledges results
  | .late (.setWorker id _) => [.setWorker id]
  | .late (.writes ..) | .late (.wipes ..) | .late (.creates ..) | .late (.removes _) => []
  | .reconcile => [.startup]
  | .reconcileRows todo => recoveries todo
  | .reconcileLost cluster todo => .lost cluster.id :: recoveries todo

/-- The account a task is about to write on a row, or may still write. -/
def Task.setter : Task → Option (ClusterId × WorkerUser)
  | .spawn cluster _ _ (.working worker (.settingWorker _)) => some (cluster.id, worker)
  | .late (.setWorker id worker) => some (id, worker)
  | _ => none

theorem Task.setter_cases {task : Task} {id : ClusterId} {worker : WorkerUser} (sets : task.setter = some (id, worker)) :
    (∃ cluster token projectTar targets,
      task = .spawn cluster token projectTar (.working worker (.settingWorker targets)) ∧ cluster.id = id) ∨
      task = .late (.setWorker id worker) := by
  cases task with
  | spawn cluster token projectTar stage =>
    cases stage with
    | start | checking | persisting => cases sets
    | working own phase =>
      cases phase with
      | settingWorker targets =>
        cases sets
        exact .inl ⟨cluster, token, projectTar, targets, rfl, rfl⟩
      | preparing | creatingStaging | settingModes | extracting | adopting | unstaging | spawning => cases sets
  | late effect =>
    cases effect with
    | setWorker =>
      cases sets
      exact .inr rfl
    | writes | wipes | creates | removes => cases sets
  | create | launch | unregister | teardown | requestDelete | followDelete | sweep | reap | dispatch | staging | reconcile
  | reconcileRows | reconcileLost => cases sets

/-- The ghost lists that the lifecycle is about. -/
def Shared.log (shared : Shared) : List ClusterId × List ClusterId × List ClusterId :=
  (shared.born, shared.teardowns, shared.accepted)

/-- No repository call outside `do_spawn` fails. -/
def callsSucceed (answer : Answer) : Task → Bool
  | .spawn _ _ _ .start | .spawn _ _ _ (.working ..) => true
  | _ => answer.repository.isNone

/-- Nothing panics under a task that has a row to bring to its end. -/
def noPanic (deps : TaskDeps) (answer : Answer) : Task → Bool
  | .launch cluster _ => (cluster.requestedAt.add? deps.spawnEstimate).isSome
  | .spawn _ _ _ (.working _ phase) => !SpawnTask.panics answer phase
  | .spawn cluster _ _ (.persisting _ result) =>
    (SpawnTask.outcomeEvent answer.now cluster.requestedTtl result).isSome
  | .reap now (cluster :: _) results =>
    (pledges results).isEmpty || (TtlReaper.dueForReaping cluster.state now deps.failedGracePeriod).isSome
  | _ => true

def Faultless (deps : TaskDeps) (answer : Answer) (task : Task) : Prop :=
  callsSucceed answer task = true ∧ noPanic deps answer task = true

/-- A duty that no row needs any more. -/
def Duty.Spent (rows : Rows) : Duty → Prop
  | .request | .setWorker _ | .holds .. | .accept _ | .lost _ => True
  | .spawn id believed => believed.isSpawning = false ∨ stateOf rows id = none
  | .recover id listed => listed.isSettled = true ∨ stateOf rows id = none
  | .pledge _ | .teardown _ | .startup => False

/-- What one step of a task does to the rows and the ghost lists, and the duties of what it becomes. -/
inductive Effect (deps : TaskDeps) (answer : Answer) (shared after : Shared) : Task → List Duty → Prop where
  /-- No row changes its state. -/
  | quiet {task : Task} {left : List Duty}
      (rows : after.rows = shared.rows ∨ ∃ id worker, task.setter = some (id, worker) ∧
        Repository.setWorker shared.rows id worker = .ok after.rows)
      (log : after.log = shared.log) (fewer : left.Sublist task.duties)
      (kept : Faultless deps answer task → ∀ duty ∈ task.duties, duty ∈ left ∨ duty.Spent shared.rows) :
      Effect deps answer shared after task left
  | inserted {owner : ClientId} {service : ServiceSpec} {ttl : TimeDelta} {projectTar : Option (List UInt8)}
      {slot : UInt32}
      (rows : Repository.tryInsertIfUnderQuota shared.rows
        (ClusterService.newCluster answer.id owner service ttl answer.now) deps.limits.maxClustersPerUser =
          .ok (after.rows, .inserted slot))
      (log : after.log = (answer.id :: shared.born, shared.teardowns, shared.accepted)) :
      Effect deps answer shared after (.create owner service ttl projectTar)
        [.spawn answer.id (.spawning answer.now)]
  /-- The spawn is cancelled, or finds its row deleted: it tears down what it has made. -/
  | turned {cluster : Cluster} {token : CancellationToken} {projectTar : Option (List UInt8)} {stage : SpawnStage}
      {left : List Duty} (rows : after.rows = shared.rows)
      (log : after.log = (shared.born, cluster.id :: shared.teardowns, shared.accepted))
      (fewer : left.Sublist [.setWorker cluster.id]) :
      Effect deps answer shared after (.spawn cluster token projectTar stage) (.teardown cluster.id :: left)
  | checked {cluster row : Cluster} {token : CancellationToken} {projectTar : Option (List UInt8)}
      {result : Except ClusterError ConnectionInfo} (rows : after.rows = shared.rows) (log : after.log = shared.log)
      (found : shared.row? cluster.id = some row) (alive : row.state.isDeleting = false) :
      Effect deps answer shared after (.spawn cluster token projectTar (.checking result))
        [.spawn cluster.id row.state]
  | persisted {cluster : Cluster} {token : CancellationToken} {projectTar : Option (List UInt8)}
      {current state : ClusterState} {result : Except ClusterError ConnectionInfo}
      (rows : Repository.updateState shared.rows cluster.id state = .ok after.rows) (log : after.log = shared.log)
      (settled : state.isSettled = true) (calm : answer.repository = none)
      (made : SpawnTask.outcomeEvent answer.now cluster.requestedTtl result ≠ none) :
      Effect deps answer shared after (.spawn cluster token projectTar (.persisting current result)) []
  | read {id : ClusterId} {owner : ClientId} {reason : DeleteReason} {caller : Caller} {row : Cluster}
      (rows : after.rows = shared.rows) (log : after.log = shared.log)
      (found : shared.row? id = some row) (owned : row.owner = owner) :
      Effect deps answer shared after (.requestDelete id owner reason caller none)
        (.request :: .holds row.id row.state :: caller.duties)
  | condemned {id : ClusterId} {owner : ClientId} {reason : DeleteReason} {caller : Caller} {read : Cluster}
      {state : ClusterState}
      (written : state = if read.state.isDeleting then read.state else .deleting answer.now reason)
      (rows : Repository.updateState shared.rows read.id state = .ok after.rows) (log : after.log = shared.log)
      (calm : answer.repository = none) :
      Effect deps answer shared after (.requestDelete id owner reason caller (some read))
        (.request :: (caller.answers read.id ++ caller.duties ++
          pledgeOf read.id (ClusterService.deleteOutcome read.state)))
  | answered {cluster : Cluster} {outcome : DeleteOutcome} (other : outcome ≠ .startTeardown)
      (rows : after.rows = shared.rows)
      (log : after.log = (shared.born, shared.teardowns, cluster.id :: shared.accepted)) :
      Effect deps answer shared after (.followDelete cluster outcome) []
  | followed {cluster : Cluster} (rows : after.rows = shared.rows)
      (log : after.log = (shared.born, cluster.id :: shared.teardowns, cluster.id :: shared.accepted)) :
      Effect deps answer shared after (.followDelete cluster .startTeardown) [.teardown cluster.id]
  | dispatched {cluster : Cluster} {rest : List (Cluster × DeleteOutcome)} (rows : after.rows = shared.rows)
      (log : after.log = (shared.born, cluster.id :: shared.teardowns, shared.accepted)) :
      Effect deps answer shared after (.dispatch ((cluster, .startTeardown) :: rest))
        (.teardown cluster.id :: .request :: pledges rest)
  | removed {cluster : Cluster} {next : After} (rows : after.rows = Repository.delete shared.rows cluster.id)
      (log : after.log = shared.log) :
      Effect deps answer shared after (.teardown cluster .delete next) next.duties
  | listed (rows : after.rows = shared.rows) (log : after.log = shared.log) :
      Effect deps answer shared after .reconcile (recoveries shared.rows)
  | marked {cluster : Cluster} {todo : List Cluster} (orphan : cluster.state.isSpawning = true)
      (rows : Repository.updateState shared.rows cluster.id (.deleting answer.now .adminForced) = .ok after.rows)
      (log : after.log = (shared.born, cluster.id :: shared.teardowns, shared.accepted)) :
      Effect deps answer shared after (.reconcileRows (cluster :: todo)) (.teardown cluster.id :: recoveries todo)
  | resumed {cluster : Cluster} {todo : List Cluster} (doomed : cluster.state.isDeleting = true)
      (rows : after.rows = shared.rows)
      (log : after.log = (shared.born, cluster.id :: shared.teardowns, shared.accepted)) :
      Effect deps answer shared after (.reconcileRows (cluster :: todo)) (.teardown cluster.id :: recoveries todo)
  | missed {cluster : Cluster} {todo : List Cluster} (ready : cluster.state.isSettled = true)
      (rows : after.rows = shared.rows) (log : after.log = shared.log) :
      Effect deps answer shared after (.reconcileRows (cluster :: todo)) (.lost cluster.id :: recoveries todo)
  | failed {cluster : Cluster} {todo : List Cluster}
      (rows : Repository.updateState shared.rows cluster.id (.failed answer.now "lost after restart") =
        .ok after.rows) (log : after.log = shared.log) :
      Effect deps answer shared after (.reconcileLost cluster todo) (recoveries todo)

variable {deps : TaskDeps} {answer : Answer} {shared : Shared}

/-- Nothing is written and every duty stays. -/
theorem Effect.same {task : Task} {after : Shared} {left : List Duty} (rows : after.rows = shared.rows)
    (log : after.log = shared.log) (duties : left = task.duties) : Effect deps answer shared after task left :=
  .quiet (.inl rows) log (by rw [duties]) fun _ duty member => .inl (duties ▸ member)

/-- The outcome of one step, as an effect. -/
abbrev Acts (deps : TaskDeps) (answer : Answer) (shared : Shared) (task : Task) (moved : Step) : Prop :=
  Effect deps answer shared moved.1 task (moved.2.flatMap Task.duties)

/-! ## Every step has an effect -/

theorem enter_acts_spawn {cluster : Cluster} {token : CancellationToken} {projectTar : Option (List UInt8)}
    {stage : SpawnStage} {left : List Task} (fewer : (left.flatMap Task.duties).Sublist [.setWorker cluster.id]) :
    Acts deps answer shared (.spawn cluster token projectTar stage)
      ((TeardownTask.enter shared cluster .unregister).1,
        (TeardownTask.enter shared cluster .unregister).2 ++ left) :=
  .turned rfl rfl fewer

theorem abandoned_duties (cluster : Cluster) (worker : WorkerUser) (phase : Phase) :
    ((SpawnTask.abandoned cluster worker phase).flatMap Task.duties).Sublist [.setWorker cluster.id] := by
  cases phase <;> simp [SpawnTask.abandoned, Task.duties]

/-- `do_spawn` writes nothing to the table but the account, and its task stays a spawn. -/
theorem work_acts (cluster : Cluster) (token : CancellationToken) (projectTar : Option (List UInt8))
    (worker : WorkerUser) (phase : Phase) :
    Acts deps answer shared (.spawn cluster token projectTar (.working worker phase))
      (SpawnTask.work deps answer shared cluster token projectTar worker phase) := by
  by_cases panicked : SpawnTask.panics answer phase = true
  · rw [SpawnTask.work_panics panicked]
    refine .quiet (.inl rfl) rfl (List.nil_sublist _) fun faultless => ?_
    have calm := faultless.2
    simp [noPanic, panicked] at calm
  obtain ⟨after, later, left, moved, awaited⟩ :=
    SpawnTask.work_awaited deps shared cluster token projectTar worker (Bool.eq_false_of_not_eq_true panicked)
  rw [moved]
  cases awaited with
  | assigns written =>
    exact .quiet (.inr ⟨_, _, rfl, written⟩) rfl (List.Sublist.refl _) fun _ duty member => .inl member
  | unstages removed goesOn => rcases goesOn with rfl | ⟨error, rfl⟩ <;> exact .same rfl rfl rfl
  | fails | prepares | prepared | unprepared | stages | setsMode | validates | extracts | misses | extracted
  | unextracted | adopts | unadopted | creates | spawned | unspawned => exact .same rfl rfl rfl

/-- A spawn's own event turns a `Spawning` row into a settled one, and is refused on any other. -/
theorem transition_outcomeEvent {now : DateTime} {ttl : TimeDelta} {result : Except ClusterError ConnectionInfo}
    {event : ClusterEvent} (made : SpawnTask.outcomeEvent now ttl result = some event) (current : ClusterState) :
    (current.isSpawning = false ∧ ∃ error, transition current event = .error error) ∨
      ∃ state, transition current event = .ok state ∧ state.isSettled = true := by
  cases result with
  | ok connection =>
    obtain ⟨decommissionAt, -, rfl⟩ := Option.map_eq_some_iff.mp made
    cases current <;> simp [transition, ClusterState.isSpawning, ClusterState.isSettled]
  | error error =>
    cases made
    cases current <;> simp [transition, ClusterState.isSpawning, ClusterState.isSettled]

theorem updateState_error {rows : Rows} {id : ClusterId} {state : ClusterState} {error : RepositoryError}
    (failed : Repository.updateState rows id state = .error error) : stateOf rows id = none := by
  rw [Repository.stateOf_eq_none]
  unfold Repository.updateState Repository.modify at failed
  split at failed
  · assumption
  · cases failed

theorem persist_acts (cluster : Cluster) (token : CancellationToken) (projectTar : Option (List UInt8))
    (current : ClusterState) (result : Except ClusterError ConnectionInfo) :
    Acts deps answer shared (.spawn cluster token projectTar (.persisting current result))
      (SpawnTask.step deps answer shared cluster token projectTar (.persisting current result)) := by
  simp only [SpawnTask.step]
  split
  · next panics =>
    refine .quiet (.inl rfl) rfl (List.nil_sublist _) fun faultless => ?_
    have calm := faultless.2
    rw [noPanic, panics] at calm
    cases calm
  · next event made =>
    unfold SpawnTask.persist
    rcases transition_outcomeEvent made current with ⟨refused, error, same⟩ | ⟨state, same, settled⟩
    · rw [same]
      refine .quiet (.inl rfl) rfl (List.nil_sublist _) fun _ duty member => .inr ?_
      cases List.mem_singleton.mp member
      exact .inl refused
    · rw [same]
      cases fault : answer.repository with
      | some error =>
        refine .quiet (.inl rfl) rfl (List.nil_sublist _) fun faultless => ?_
        have calm := faultless.1
        rw [callsSucceed, fault] at calm
        · cases calm
        · simp
        · simp
      | none =>
        simp only
        split
        · next rows written => exact .persisted written rfl settled fault (by simp [made])
        · next error failed =>
          refine .quiet (.inl rfl) rfl (List.nil_sublist _) fun _ duty member => .inr ?_
          cases List.mem_singleton.mp member
          exact .inr (updateState_error failed)

theorem spawn_acts (cluster : Cluster) (token : CancellationToken) (projectTar : Option (List UInt8))
    (stage : SpawnStage) :
    Acts deps answer shared (.spawn cluster token projectTar stage)
      (SpawnTask.step deps answer shared cluster token projectTar stage) := by
  cases stage with
  | start =>
    simp only [SpawnTask.step]
    split
    · exact .turned rfl rfl (List.nil_sublist _)
    · split
      · exact .same rfl rfl rfl
      · split <;> exact .same rfl rfl rfl
  | working worker phase =>
    simp only [SpawnTask.step]
    split
    · exact enter_acts_spawn (abandoned_duties cluster worker phase)
    · exact work_acts cluster token projectTar worker phase
  | checking result =>
    simp only [SpawnTask.step]
    split
    · exact .same rfl rfl rfl
    · exact .turned rfl rfl (List.nil_sublist _)
    · next row calm found =>
      split
      · exact .turned rfl rfl (List.nil_sublist _)
      · next alive => exact .checked rfl rfl found (by simpa using alive)
  | persisting current result => exact persist_acts cluster token projectTar current result

theorem launch_acts (cluster : Cluster) (projectTar : Option (List UInt8)) :
    Acts deps answer shared (.launch cluster projectTar) (Handlers.launchSpawn deps shared cluster projectTar) := by
  unfold Handlers.launchSpawn
  split
  · next panics =>
    refine .quiet (.inl rfl) rfl (List.nil_sublist _) fun faultless => ?_
    have calm := faultless.2
    rw [noPanic, panics] at calm
    cases calm
  · exact .same rfl rfl rfl

theorem create_acts (owner : ClientId) (service : ServiceSpec) (ttl : TimeDelta)
    (projectTar : Option (List UInt8)) :
    Acts deps answer shared (.create owner service ttl projectTar)
      (Handlers.create deps answer shared owner service ttl projectTar) := by
  simp only [Handlers.create]
  generalize outcome : ClusterService.create deps.limits shared.rows answer.repository _ = done
  obtain ⟨result, next⟩ := done
  cases result with
  | ok made =>
    obtain ⟨slot, inserted, rfl⟩ := ClusterService.create_ok outcome
    exact .inserted inserted rfl
  | error error =>
    refine .quiet (.inl (ClusterService.create_error outcome)) rfl (List.nil_sublist _) fun _ duty member => ?_
    cases List.mem_singleton.mp member
    exact .inr trivial

theorem teardown_acts (cluster : Cluster) (stage : TeardownStage) (after : After) :
    Acts deps answer shared (.teardown cluster stage after)
      (TeardownTask.step deps answer shared cluster after stage) := by
  have remains : ((TeardownTask.After.tasks cluster.id after).flatMap Task.duties) = after.duties := by
    cases after <;> simp [TeardownTask.After.tasks, Task.duties, After.duties]
  cases stage with
  | backend =>
    simp only [TeardownTask.step]
    split
    · exact .same rfl rfl (by simp [Task.duties])
    · split <;> exact .same rfl rfl (by simp [Task.duties])
  | wipe =>
    simp only [TeardownTask.step]
    split
    · exact .same rfl rfl (by simp [Task.duties])
    · split <;> exact .same rfl rfl (by simp [Task.duties])
  | delete =>
    simp only [TeardownTask.step]
    split
    · next error fault =>
      refine .quiet (.inl rfl) rfl ?_ fun faultless => ?_
      · rw [remains]
        exact List.sublist_cons_self ..
      · cases fault.symm.trans (Option.isNone_iff_eq_none.mp faultless.1)
    · rw [Acts, remains]
      exact .removed rfl rfl

theorem receive_ok_duties (caller : Caller) (cluster : Cluster) (outcome : DeleteOutcome) :
    (caller.receive (.ok (cluster, outcome))).flatMap Task.duties =
      .request :: (caller.answers cluster.id ++ caller.duties ++ pledgeOf cluster.id outcome) := by
  cases caller <;> simp [Caller.receive, Caller.answers, Caller.duties, Task.duties, pledges]

theorem receive_error_duties (caller : Caller) (error : ClusterError) :
    (caller.receive (.error error)).flatMap Task.duties = .request :: caller.duties ∨
      (caller.duties = [] ∧ (caller.receive (.error error)).flatMap Task.duties = []) := by
  cases caller <;> simp [Caller.receive, Caller.duties, Task.duties]

theorem receive_error_fewer (caller : Caller) (error : ClusterError) :
    ((caller.receive (.error error)).flatMap Task.duties).Sublist (.request :: caller.duties) ∧
      ∀ duty ∈ caller.duties, duty ∈ (caller.receive (.error error)).flatMap Task.duties := by
  rcases receive_error_duties caller error with same | ⟨none_owed, same⟩
  · rw [same]
    exact ⟨List.Sublist.refl _, fun duty member => List.mem_cons_of_mem _ member⟩
  · rw [same, none_owed]
    exact ⟨List.nil_sublist _, fun duty member => member⟩

theorem requestDelete_acts (distinct : KeyedTable.Distinct Cluster.id shared.rows) (id : ClusterId)
    (owner : ClientId) (reason : DeleteReason) (caller : Caller) (read : Option Cluster) :
    Acts deps answer shared (.requestDelete id owner reason caller read)
      (ClusterService.requestDelete answer shared id owner reason caller read) := by
  cases read with
  | none =>
    simp only [ClusterService.requestDelete, ClusterService.info]
    cases fault : answer.repository with
    | some error =>
      obtain ⟨fewer, kept⟩ := receive_error_fewer caller (.repository error)
      refine .quiet (.inl rfl) rfl fewer fun faultless => ?_
      cases fault.symm.trans (Option.isNone_iff_eq_none.mp faultless.1)
    | none =>
      cases found : Repository.getOwned shared.rows id owner with
      | none =>
        obtain ⟨fewer, kept⟩ := receive_error_fewer caller (.notFound id)
        refine .quiet (.inl rfl) rfl fewer fun _ duty member => ?_
        rcases List.mem_cons.mp member with rfl | owed
        · exact .inr trivial
        · exact .inl (kept duty owed)
      | some row =>
        obtain ⟨here, owned⟩ := (Repository.getOwned_eq_some distinct).mp found
        have effect : Effect deps answer shared shared (.requestDelete id owner reason caller none)
            (.request :: .holds row.id row.state :: caller.duties) := .read rfl rfl here owned
        simpa [Acts, Task.duties] using effect
  | some read =>
    simp only [ClusterService.requestDelete]
    generalize outcome : ClusterService.writeDeletion shared.rows answer.repository read answer.now reason = done
    obtain ⟨result, next⟩ := done
    cases result with
    | ok result =>
      obtain ⟨updated, decided⟩ := result
      obtain ⟨calm, rfl, rfl, written⟩ := ClusterService.writeDeletion_ok outcome
      simp only [Acts, receive_ok_duties]
      exact .condemned rfl written rfl calm
    | error error =>
      obtain ⟨fewer, kept⟩ := receive_error_fewer caller error
      refine .quiet (.inl (ClusterService.writeDeletion_error outcome)) rfl ?_ fun _ duty member => ?_
      · exact fewer.trans (List.Sublist.cons_cons _ (List.sublist_cons_self ..))
      · rcases List.mem_cons.mp member with rfl | inner
        · exact .inr trivial
        · rcases List.mem_cons.mp inner with rfl | owed
          · exact .inr trivial
          · exact .inl (kept duty owed)

theorem followDelete_acts (cluster : Cluster) (outcome : DeleteOutcome) :
    Acts deps answer shared (.followDelete cluster outcome) (Handlers.followDelete shared cluster outcome) := by
  cases outcome with
  | cancelSpawn => exact .answered (by simp) rfl rfl
  | startTeardown => exact .followed rfl rfl
  | alreadyDeleting => exact .answered (by simp) rfl rfl

theorem sweep_acts : Acts deps answer shared .sweep (TtlReaper.sweep answer shared) := by
  unfold TtlReaper.sweep
  split <;> exact .same rfl rfl rfl

theorem reap_acts (now : DateTime) (todo : List Cluster) (results : List (Cluster × DeleteOutcome)) :
    Acts deps answer shared (.reap now todo results) (TtlReaper.reap deps shared now todo results) := by
  unfold TtlReaper.reap
  cases todo with
  | nil => exact .same rfl rfl (by simp [Task.duties])
  | cons cluster rest =>
    simp only
    split
    · next panics =>
      refine .quiet (.inl rfl) rfl (List.nil_sublist _) fun faultless duty member => ?_
      have nothing : pledges results = [] := by simpa [noPanic, panics] using faultless.2
      rw [Task.duties, nothing, List.mem_singleton] at member
      subst member
      exact .inr trivial
    · exact .same rfl rfl (by simp [Task.duties])
    · exact .same rfl rfl (by simp [Task.duties, Caller.duties])

theorem dispatch_acts (results : List (Cluster × DeleteOutcome)) :
    Acts deps answer shared (.dispatch results) (TtlReaper.dispatch shared results) := by
  cases results with
  | nil =>
    refine .quiet (.inl rfl) rfl (List.nil_sublist _) fun _ duty member => ?_
    cases List.mem_singleton.mp member
    exact .inr trivial
  | cons result rest =>
    obtain ⟨cluster, outcome⟩ := result
    cases outcome with
    | cancelSpawn => exact .same rfl rfl (by simp [TtlReaper.dispatch, Task.duties, pledges, pledgeOf])
    | alreadyDeleting => exact .same rfl rfl (by simp [TtlReaper.dispatch, Task.duties, pledges, pledgeOf])
    | startTeardown =>
      have become : ((TtlReaper.dispatch shared ((cluster, .startTeardown) :: rest)).2.flatMap Task.duties) =
          .teardown cluster.id :: .request :: pledges rest := by
        simp [TtlReaper.dispatch, TeardownTask.enter, Task.duties, After.duties]
      rw [Acts, become]
      exact .dispatched rfl rfl

theorem late_acts (effect : LateEffect) :
    Acts deps answer shared (.late effect)
      (if answer.lands then effect.apply shared else shared, []) := by
  have spent : ∀ duty ∈ (Task.late effect).duties, duty ∈ ([] : List Duty) ∨ duty.Spent shared.rows := by
    intro duty member
    cases effect <;> simp only [Task.duties, List.mem_singleton, List.not_mem_nil] at member
    subst member
    exact .inr trivial
  cases answer.lands with
  | false => exact .quiet (.inl rfl) rfl (List.nil_sublist _) fun _ => spent
  | true =>
    cases effect with
    | setWorker id worker =>
      simp only [if_true, LateEffect.apply]
      split
      · next rows written => exact .quiet (.inr ⟨_, _, rfl, written⟩) rfl (List.nil_sublist _) fun _ => spent
      · exact .quiet (.inl rfl) rfl (List.nil_sublist _) fun _ => spent
    | writes dir id => exact .quiet (.inl rfl) rfl (List.nil_sublist _) fun _ => spent
    | wipes cluster worker => exact .quiet (.inl rfl) rfl (List.nil_sublist _) fun _ => spent
    | creates id dir => exact .quiet (.inl rfl) rfl (List.nil_sublist _) fun _ => spent
    | removes id => exact .quiet (.inl rfl) rfl (List.nil_sublist _) fun _ => spent

theorem staging_acts (dir : SlotDir) (upload : ClusterId) (work : StagingWork) :
    Acts deps answer shared (.staging dir upload work) (work.step answer shared dir upload) := by
  cases work with
  | create =>
    simp only [StagingWork.step]
    split <;> exact .same rfl rfl rfl
  | extract remaining =>
    cases remaining with
    | nil => exact .same rfl rfl rfl
    | cons effect rest =>
      simp only [StagingWork.step]
      split <;> exact .same rfl rfl rfl
  | remove =>
    simp only [StagingWork.step]
    split <;> exact .same rfl rfl rfl

theorem reconcileRows_acts (todo : List Cluster) :
    Acts deps answer shared (.reconcileRows todo) (Reconciliation.rows deps answer shared todo) := by
  cases todo with
  | nil => exact .same rfl rfl rfl
  | cons cluster todo =>
    have visited (spent : Faultless deps answer (.reconcileRows (cluster :: todo)) →
        cluster.state.isSettled = true ∨ stateOf shared.rows cluster.id = none) :
        Acts deps answer shared (.reconcileRows (cluster :: todo)) (shared, [.reconcileRows todo]) := by
      refine .quiet (.inl rfl) rfl ?_ fun faultless duty member => ?_
      · simp only [List.flatMap_singleton, Task.duties]
        exact List.sublist_cons_self ..
      · rcases List.mem_cons.mp member with rfl | later
        · exact .inr (spent faultless)
        · exact .inl (by simpa [Task.duties, recoveries] using later)
    cases state : cluster.state with
    | spawning startedAt =>
      simp only [Reconciliation.rows, state]
      split
      · next rows calm written =>
        have become : ((TeardownTask.enter { shared with rows := rows }
            { cluster with state := .deleting answer.now .adminForced } (.resume todo)).2.flatMap Task.duties) =
              .teardown cluster.id :: recoveries todo := by
          simp [TeardownTask.enter, Task.duties, After.duties]
        rw [Acts, become]
        exact .marked (by rw [state, ClusterState.isSpawning]) written rfl
      · next unwritten =>
        refine visited fun faultless => .inr ?_
        cases written : Repository.updateState shared.rows cluster.id (.deleting answer.now .adminForced) with
        | ok rows => exact absurd written (unwritten rows (Option.isNone_iff_eq_none.mp faultless.1))
        | error error => exact updateState_error written
    | ready readyAt decommissionAt connection =>
      simp only [Reconciliation.rows, state]
      split
      · have become : (([.reconcileLost cluster todo] : List Task).flatMap Task.duties) =
            .lost cluster.id :: recoveries todo := by simp [Task.duties]
        rw [Acts, become]
        exact .missed (by rw [state, ClusterState.isSettled]) rfl rfl
      · exact visited fun _ => .inl (by rw [state, ClusterState.isSettled])
    | failed failedAt errorSummary =>
      simp only [Reconciliation.rows, state]
      exact visited fun _ => .inl (by rw [state, ClusterState.isSettled])
    | deleting since reason =>
      have become : ((TeardownTask.enter shared cluster (.resume todo)).2.flatMap Task.duties) =
          .teardown cluster.id :: recoveries todo := by
        simp [TeardownTask.enter, Task.duties, After.duties]
      simp only [Reconciliation.rows, state]
      rw [Acts, become]
      exact .resumed (by rw [state, ClusterState.isDeleting]) rfl rfl

theorem reconcileLost_acts (cluster : Cluster) (todo : List Cluster) :
    Acts deps answer shared (.reconcileLost cluster todo) (Reconciliation.lost answer shared cluster todo) := by
  unfold Reconciliation.lost
  have same : (([.reconcileRows todo] : List Task).flatMap Task.duties) = recoveries todo := by simp [Task.duties]
  split
  · next rows calm written =>
    rw [Acts, same]
    exact .failed written rfl
  · rw [Acts, same]
    refine .quiet (.inl rfl) rfl (List.sublist_cons_self ..) fun _ duty member => ?_
    rcases List.mem_cons.mp member with rfl | later
    · exact .inr trivial
    · exact .inl later

theorem reconcile_acts : Acts deps answer shared .reconcile (Reconciliation.start answer shared) := by
  unfold Reconciliation.start
  split
  · next error fault =>
    refine .quiet (.inl rfl) rfl (List.nil_sublist _) fun faultless => ?_
    cases fault.symm.trans (Option.isNone_iff_eq_none.mp faultless.1)
  · have become : (([.reconcileRows (Repository.listAll shared.rows)] : List Task).flatMap Task.duties) =
        recoveries shared.rows := by simp [Task.duties, Repository.listAll]
    rw [Acts, become]
    exact .listed rfl rfl

theorem step_acts (distinct : KeyedTable.Distinct Cluster.id shared.rows) (task : Task) :
    Acts deps answer shared task (task.step deps answer shared) := by
  cases task with
  | create owner service ttl projectTar => exact create_acts owner service ttl projectTar
  | launch cluster projectTar => exact launch_acts cluster projectTar
  | spawn cluster token projectTar stage => exact spawn_acts cluster token projectTar stage
  | unregister id => exact .same rfl rfl rfl
  | teardown cluster stage after => exact teardown_acts cluster stage after
  | requestDelete id owner reason caller read => exact requestDelete_acts distinct id owner reason caller read
  | followDelete cluster outcome => exact followDelete_acts cluster outcome
  | sweep => exact sweep_acts
  | reap now todo results => exact reap_acts now todo results
  | dispatch results => exact dispatch_acts results
  | late effect => exact late_acts effect
  | staging dir upload work => exact staging_acts dir upload work
  | reconcile => exact reconcile_acts
  | reconcileRows todo => exact reconcileRows_acts todo
  | reconcileLost cluster todo => exact reconcileLost_acts cluster todo

end AppSalmon
