import AppSalmon.Adapters.SudoExec
import AppSalmon.Service.Ownership
import AppSalmon.Service.Successors

/-! Every privileged command of a run is one that the setup script's sudoers file allows.

A command is made of an account and a slot. Both come from the row that the task
works for, and a row has its slot from the insert and its account from the
configuration.
-/

set_option autoImplicit false

namespace AppSalmon

open TaskPool
open Repository (Rows)

/-! ## What a task asks for -/

/-- The directory of one of a backend's subdirectories; the empty one is the slot's directory itself. -/
def SpawnTask.prepareTarget (deps : TaskDeps) (cluster : Cluster) (worker : WorkerUser) (target : String) : UnixPath.Path :=
  let base := workerDataDir deps.workerDataDirBase worker cluster.slot
  if target = "" then base else UnixPath.join base target.toList

/-- The command that the task waits for. -/
def Task.command (deps : TaskDeps) : Task → Option (WorkerUser × PrivilegedCommand)
  | .spawn cluster _ _ (.working worker (.preparing targets)) =>
    some (worker, .prepareWorkerDir (SpawnTask.prepareTarget deps cluster worker (targets.headD "")))
  | .spawn cluster _ _ (.working worker .adopting) =>
    some (worker, .adoptStagedTree (SpawnTask.stagingPath deps cluster worker)
      (UnixPath.join (workerDataDir deps.workerDataDirBase worker cluster.slot) "project".toList))
  | .teardown cluster .wipe _ =>
    cluster.worker.map fun worker => (worker, .wipeWorkerDir (workerDataDir deps.workerDataDirBase worker cluster.slot))
  | _ => none

/-- No other task goes by what the executor answers. -/
theorem step_of_no_command {deps : TaskDeps} {answer : Answer} {shared : Shared} {task : Task}
    (asksNothing : task.command deps = none) (executor : Option PrivilegedExecError) :
    task.step deps { answer with executor := executor } shared = task.step deps answer shared := by
  cases task with
  | spawn cluster token projectTar stage =>
    cases stage with
    | start | checking | persisting => rfl
    | working worker phase =>
      cases phase with
      | preparing | adopting => cases asksNothing
      | settingWorker | creatingStaging | settingModes | extracting | unstaging | spawning => rfl
  | teardown cluster stage next =>
    cases stage with
    | backend | delete => rfl
    | wipe =>
      have none_left : cluster.worker = none := by simpa [Task.command] using asksNothing
      simp only [Task.step, TeardownTask.step, none_left]
  | create | launch | unregister | requestDelete | followDelete | sweep | reap | dispatch | late | staging | reconcile
  | reconcileRows | reconcileLost => rfl

/-! ## What tasks and rows are made of -/

section
variable (accounts : List String) (limit : UInt32)

/-- A slot below the limit, and one of the accounts. -/
structure Cluster.Granted (cluster : Cluster) : Prop where
  slot : cluster.slot < limit
  account : ∀ worker, cluster.worker = some worker → worker.name ∈ accounts

def Rows.Granted (rows : Rows) : Prop := ∀ row ∈ rows, row.Granted accounts limit

/-- The subdirectories that some registered backend declares. -/
def Targeted (targets : List String) : Prop := ∀ target ∈ targets, target = "" ∨ target = "project/functions"

def SpawnStage.Granted : SpawnStage → Prop
  | .start | .checking _ | .persisting .. => True
  | .working worker (.settingWorker targets) | .working worker (.preparing targets) =>
    worker.name ∈ accounts ∧ Targeted targets
  | .working worker _ => worker.name ∈ accounts

def ResultsGranted (results : List (Cluster × DeleteOutcome)) : Prop := ∀ result ∈ results, result.1.Granted accounts limit

def Caller.Granted : Caller → Prop
  | .handler => True
  | .reaper _ _ results => ResultsGranted accounts limit results

def After.Granted : After → Prop
  | .done | .unregister => True
  | .resume todo => Rows.Granted accounts limit todo

def Task.Granted : Task → Prop
  | .launch cluster _ | .followDelete cluster _ => cluster.Granted accounts limit
  | .spawn cluster _ _ stage => cluster.Granted accounts limit ∧ stage.Granted accounts
  | .teardown cluster _ next => cluster.Granted accounts limit ∧ next.Granted accounts limit
  | .requestDelete _ _ _ caller read => caller.Granted accounts limit ∧ ∀ row, read = some row → row.Granted accounts limit
  | .reap _ _ results | .dispatch results => ResultsGranted accounts limit results
  | .late (.setWorker _ worker) => worker.name ∈ accounts
  | .reconcileRows todo => Rows.Granted accounts limit todo
  | .reconcileLost _ todo => Rows.Granted accounts limit todo
  | .late _ | .create .. | .unregister _ | .sweep | .staging .. | .reconcile => True

end

section
variable {accounts : List String} {limit : UInt32} {rows next : Rows} {id : ClusterId}

/-! ## Rows -/

theorem Rows.Granted.modify (granted : Rows.Granted accounts limit rows) {change : Cluster → Cluster}
    (kept : ∀ row : Cluster, row.Granted accounts limit → (change row).Granted accounts limit)
    (done : Repository.modify rows id change = .ok next) : Rows.Granted accounts limit next := by
  obtain ⟨-, rfl⟩ := Repository.modify_eq_ok.mp done
  intro row member
  obtain ⟨old, stored, rfl⟩ := KeyedTable.mem_update.mp member
  split
  · exact kept old (granted old stored)
  · exact granted old stored

theorem Rows.Granted.updateState (granted : Rows.Granted accounts limit rows) {state : ClusterState}
    (done : Repository.updateState rows id state = .ok next) : Rows.Granted accounts limit next := by
  apply granted.modify _ done
  exact fun _ held => ⟨held.slot, held.account⟩

theorem Rows.Granted.setWorker (granted : Rows.Granted accounts limit rows) {worker : WorkerUser}
    (known : worker.name ∈ accounts) (done : Repository.setWorker rows id worker = .ok next) :
    Rows.Granted accounts limit next := by
  apply granted.modify _ done
  rintro row ⟨slot, -⟩
  refine ⟨slot, fun other same => ?_⟩
  rw [← Option.some.inj same]
  exact known

theorem Rows.Granted.delete (granted : Rows.Granted accounts limit rows) (id : ClusterId) :
    Rows.Granted accounts limit (Repository.delete rows id) :=
  fun row member => granted row (KeyedTable.mem_remove.mp member).1

theorem Rows.Granted.insert (granted : Rows.Granted accounts limit rows) {cluster : Cluster} {slot : UInt32}
    (inserted : Repository.tryInsertIfUnderQuota rows cluster limit = .ok (next, .inserted slot))
    (fresh : cluster.worker = none) :
    Rows.Granted accounts limit next ∧ Cluster.Granted accounts limit { cluster with slot := slot } := by
  have below : slot < limit ∧ next = rows ++ [Repository.stored { cluster with slot := slot }] := by
    rcases Repository.tryInsertIfUnderQuota_cases inserted with ⟨-, -, refused⟩ | ⟨least, -, found, -, chosen, grown⟩
    · cases refused
    · cases chosen
      exact ⟨(Repository.leastFreeSlot_eq_some.mp found).1, grown⟩
  have held : ∀ ttl, Cluster.Granted accounts limit { cluster with slot := slot, requestedTtl := ttl } := by
    intro ttl
    refine ⟨below.1, fun worker has => ?_⟩
    rw [fresh] at has
    cases has
  constructor
  · intro row member
    rw [below.2] at member
    rcases List.mem_append.mp member with old | new
    · exact granted row old
    · rw [List.mem_singleton.mp new]
      exact held _
  · exact held _

/-! ## One step -/

/-- What a step leaves, of tasks and of rows. -/
structure Leaves (accounts : List String) (limit : UInt32) (step : Step) : Prop where
  rows : Rows.Granted accounts limit step.1.rows
  tasks : ∀ task ∈ step.2, task.Granted accounts limit

variable {deps : TaskDeps} {answer : Answer} {shared : Shared} {cluster : Cluster}

theorem Leaves.one {shared : Shared} {task : Task} (rows : Rows.Granted accounts limit shared.rows)
    (granted : task.Granted accounts limit) : Leaves accounts limit (shared, [task]) :=
  ⟨rows, fun _ member => List.mem_singleton.mp member ▸ granted⟩

theorem abandoned_granted {worker : WorkerUser} {phase : Phase} (known : worker.name ∈ accounts) :
    ∀ task ∈ SpawnTask.abandoned cluster worker phase, task.Granted accounts limit := by
  cases phase <;> simp only [SpawnTask.abandoned, List.forall_mem_singleton, List.not_mem_nil, false_implies, implies_true]
  all_goals first | exact known | trivial

/-- What a call left behind runs for is the account that was resolved. -/
theorem Leaves.abandoned {step : Step} {worker : WorkerUser} {phase : Phase} (left : Leaves accounts limit step)
    (known : worker.name ∈ accounts) :
    Leaves accounts limit (step.1, step.2 ++ SpawnTask.abandoned cluster worker phase) := by
  refine ⟨left.rows, fun task member => ?_⟩
  rcases List.mem_append.mp member with earlier | dropped
  · exact left.tasks task earlier
  · exact abandoned_granted known task dropped

theorem SpawnStage.Granted.known {worker : WorkerUser} {phase : Phase}
    (stage : (SpawnStage.working worker phase).Granted accounts) : worker.name ∈ accounts := by
  cases phase with
  | settingWorker | preparing => exact stage.1
  | creatingStaging | settingModes | extracting | adopting | unstaging | spawning => exact stage

/-- What the configuration, the passwd text and the registered backends give. -/
structure TaskDeps.Grants (deps : TaskDeps) (accounts : List String) (limit : UInt32) : Prop where
  accounts : ∀ client worker, deps.clientWorkers.get client = .ok worker → worker.name ∈ accounts
  limit : deps.limits.maxClustersPerUser = limit
  targets : ∀ kind backend, deps.backend kind = some backend → Targeted (SpawnTask.prepareTargets backend)

theorem work_granted (rows : Rows.Granted accounts limit shared.rows)
    (granted : cluster.Granted accounts limit) (token : CancellationToken) (projectTar : Option (List UInt8))
    {worker : WorkerUser} {phase : Phase} (stage : (SpawnStage.working worker phase).Granted accounts) :
    Leaves accounts limit (SpawnTask.work deps answer shared cluster token projectTar worker phase) := by
  have known := stage.known
  have abandons (later : SpawnStage) (held : later.Granted accounts) {shared : Shared}
      (rows : Rows.Granted accounts limit shared.rows) :
      Leaves accounts limit (shared, .spawn cluster token projectTar later :: SpawnTask.abandoned cluster worker phase) := by
    have goesOn : (Task.spawn cluster token projectTar later).Granted accounts limit := ⟨granted, held⟩
    exact (Leaves.one rows goesOn).abandoned known
  by_cases panicked : SpawnTask.panics answer phase = true
  · rw [SpawnTask.work_panics panicked]
    exact ⟨rows, fun _ none_left => (List.not_mem_nil none_left).elim⟩
  obtain ⟨after, later, left, moved, awaited⟩ :=
    SpawnTask.work_awaited deps shared cluster token projectTar worker (Bool.eq_false_of_not_eq_true panicked)
  rw [moved]
  cases awaited with
  | assigns written => exact .one (rows.setWorker known written) ⟨granted, stage⟩
  | prepares =>
    exact .one rows ⟨granted, known, fun target member => stage.2 target (List.mem_cons_of_mem _ member)⟩
  | prepared =>
    have goesOn : (SpawnStage.working worker (SpawnTask.afterPrepare projectTar)).Granted accounts := by
      cases projectTar <;> exact known
    exact .one rows ⟨granted, goesOn⟩
  | unprepared | unspawned => exact abandons (.checking _) trivial rows
  | unadopted => exact abandons (.working worker (.unstaging _)) known rows
  | unstages removed goesOn =>
    rcases goesOn with rfl | ⟨error, rfl⟩
    · exact .one rows ⟨granted, known⟩
    · exact .one rows ⟨granted, trivial⟩
  | stages | setsMode | validates | extracts | misses | extracted | unextracted | adopts | creates =>
    exact .one rows ⟨granted, known⟩
  | fails | spawned => exact .one rows ⟨granted, trivial⟩

theorem working_granted (rows : Rows.Granted accounts limit shared.rows) (granted : cluster.Granted accounts limit)
    (token : CancellationToken) (projectTar : Option (List UInt8)) {worker : WorkerUser} {phase : Phase}
    (stage : (SpawnStage.working worker phase).Granted accounts) :
    Leaves accounts limit (SpawnTask.step deps answer shared cluster token projectTar (.working worker phase)) := by
  simp only [SpawnTask.step]
  split
  · have turned : (Task.teardown cluster .backend .unregister).Granted accounts limit := ⟨granted, trivial⟩
    have entered : Leaves accounts limit (TeardownTask.enter shared cluster .unregister) := .one rows turned
    exact entered.abandoned stage.known
  · exact work_granted rows granted token projectTar stage

variable {task : Task}

/-- The account that a task is about to write was resolved. -/
theorem Task.Granted.setter (granted : task.Granted accounts limit) {id : ClusterId} {worker : WorkerUser}
    (sets : task.setter = some (id, worker)) : worker.name ∈ accounts := by
  rcases Task.setter_cases sets with ⟨cluster, token, projectTar, targets, rfl, -⟩ | rfl
  · exact granted.2.1
  · exact granted

theorem Effect.granted {after : Shared} {left : List Duty} (effect : Effect deps answer shared after task left)
    (granted : task.Granted accounts limit) (grants : deps.Grants accounts limit)
    (rows : Rows.Granted accounts limit shared.rows) : Rows.Granted accounts limit after.rows := by
  cases effect with
  | quiet unchanged =>
    rcases unchanged with same | ⟨id, worker, sets, written⟩
    · exact same ▸ rows
    · exact rows.setWorker (granted.setter sets) written
  | inserted inserted =>
    rw [grants.limit] at inserted
    exact (rows.insert inserted rfl).1
  | persisted written | marked orphan written | failed written => exact rows.updateState written
  | condemned state written => exact rows.updateState written
  | removed deleted =>
    rw [deleted]
    exact rows.delete _
  | turned same | checked same | read same | answered other same | followed same | dispatched same | listed same
  | resumed doomed same | missed ready same => exact same ▸ rows

/-- A row that is written back is granted as it was when it was read. -/
theorem written_granted {read cluster : Cluster} {now : DateTime} {reason : DeleteReason} {outcome : DeleteOutcome}
    (written : (ClusterService.writeDeletion shared.rows answer.repository read now reason).1 = .ok (cluster, outcome))
    (granted : read.Granted accounts limit) : cluster.Granted accounts limit := by
  obtain ⟨-, -, rfl, -⟩ := ClusterService.writeDeletion_ok (Prod.ext written rfl)
  exact ⟨granted.slot, granted.account⟩

/-- What comes after a task other than a spawn at work. -/
theorem Successor.granted {fresh : Task} (successor : Successor deps answer shared task fresh)
    (outside : ∀ cluster token projectTar worker phase, task ≠ .spawn cluster token projectTar (.working worker phase))
    (granted : task.Granted accounts limit) (grants : deps.Grants accounts limit)
    (rows : Rows.Granted accounts limit shared.rows) : fresh.Granted accounts limit := by
  cases successor with
  | works | abandons => exact absurd rfl (outside _ _ _ _ _)
  | launches created =>
    obtain ⟨slot, inserted, rfl⟩ := ClusterService.create_ok (Prod.ext created rfl)
    rw [grants.limit] at inserted
    exact (rows.insert inserted rfl).2
  | registers | follows => exact ⟨granted, trivial⟩
  | turns | declines | checks => exact ⟨granted.1, trivial⟩
  | begins registered account =>
    have known := grants.accounts _ _ account
    exact ⟨⟨granted.1.slot, fun _ same => Option.some.inj same ▸ known⟩, known, grants.targets _ _ registered⟩
  | ends | removesLate | wipesLate | unregisters | extracts => trivial
  | tears | gathered | spares | notes => exact granted
  | resumes => exact granted.2
  | reads found =>
    have stored := List.mem_of_find?_eq_some (ClusterService.info_ok found)
    exact ⟨granted.1, fun _ same => Option.some.inj same ▸ rows _ stored⟩
  | passesOver => exact granted.1
  | answers written => exact written_granted written (granted.2 _ rfl)
  | collects written =>
    intro result inside
    rcases List.mem_append.mp inside with old | new
    · exact granted.1 result old
    · rw [List.mem_singleton.mp new]
      exact written_granted written (granted.2 _ rfl)
  | gathers | gathersNothing => exact fun _ member => (List.not_mem_nil member).elim
  | expires => exact ⟨granted, fun _ unread => by cases unread⟩
  | dispatches => exact fun result member => granted result (List.mem_cons_of_mem _ member)
  | starts => exact ⟨granted _ List.mem_cons_self, trivial⟩
  | lists => exact rows
  | orphans =>
    have mine := granted _ List.mem_cons_self
    exact ⟨⟨mine.slot, mine.account⟩, fun row member => granted row (List.mem_cons_of_mem _ member)⟩
  | finishes => exact ⟨granted _ List.mem_cons_self, fun row member => granted row (List.mem_cons_of_mem _ member)⟩
  | loses | leaves => exact fun row member => granted row (List.mem_cons_of_mem _ member)

theorem Task.Granted.step (granted : task.Granted accounts limit) (grants : deps.Grants accounts limit)
    (distinct : KeyedTable.Distinct Cluster.id shared.rows) (rows : Rows.Granted accounts limit shared.rows) :
    Leaves accounts limit (task.step deps answer shared) := by
  by_cases works : ∃ cluster token projectTar worker phase, task = .spawn cluster token projectTar (.working worker phase)
  · obtain ⟨cluster, token, projectTar, worker, phase, rfl⟩ := works
    exact working_granted rows granted.1 token projectTar granted.2
  · refine ⟨(step_acts distinct task).granted granted grants rows, fun fresh member => ?_⟩
    refine (Task.successor member).granted (fun cluster token projectTar worker phase same => works ?_) granted grants rows
    exact ⟨cluster, token, projectTar, worker, phase, same⟩

/-! ## The rules of the script -/

theorem Targeted.head {targets : List String} (targeted : Targeted targets) :
    targets.headD "" = "" ∨ targets.headD "" = "project/functions" := by
  cases targets with
  | nil => exact .inl rfl
  | cons target rest => exact targeted target List.mem_cons_self

/-- A granted task asks for what the script wrote down for one account and one slot. -/
theorem Task.Granted.rule {task : Task} (granted : task.Granted accounts limit)
    (workerBase : Unslashed deps.workerDataDirBase) (stagingBase : Unslashed deps.tarStagingDirBase)
    (names : ∀ name ∈ accounts, IsAccountName name) {worker : WorkerUser} {command : PrivilegedCommand}
    (asks : task.command deps = some (worker, command)) :
    worker.name ∈ accounts ∧ ∃ slot < limit, SudoExecutor.runAs worker command ∈
      SetupScript.slotRules deps.workerDataDirBase deps.tarStagingDirBase worker.name.toList slot.toNat := by
  have dataDir (known : worker.name ∈ accounts) (slot : UInt32) := workerDataDir_eq workerBase (names _ known) slot
  have stagingDir (known : worker.name ∈ accounts) (slot : UInt32) := workerDataDir_eq stagingBase (names _ known) slot
  have below (slot : UInt32) {path : UnixPath.Path} (relative : UnixPath.hasRoot path = false) :=
    join_unslashed (slotPath_unslashed deps.workerDataDirBase worker.name.toList slot.toNat) relative
  unfold Task.command at asks
  split at asks
  · next cluster token projectTar worker' targets =>
    cases asks
    obtain ⟨⟨small, -⟩, known, targeted⟩ := granted
    refine ⟨known, cluster.slot, small, ?_⟩
    rcases targeted.head with here | here
    · rw [SpawnTask.prepareTarget, if_pos here, dataDir known]
      exact SetupScript.allows_slot _ _ worker _
    · rw [SpawnTask.prepareTarget, if_neg (by rw [here]; decide), dataDir known, here, below cluster.slot (by decide)]
      exact SetupScript.allows_functions _ _ worker _
  · next cluster token projectTar worker' =>
    cases asks
    obtain ⟨⟨small, -⟩, known⟩ := granted
    refine ⟨known, cluster.slot, small, ?_⟩
    rw [SpawnTask.stagingPath, dataDir known, stagingDir known, below cluster.slot (by decide)]
    exact SetupScript.allows_adopt _ _ worker _
  · next cluster after =>
    obtain ⟨owner, has, same⟩ := Option.map_eq_some_iff.mp asks
    cases same
    obtain ⟨⟨small, account⟩, -⟩ := granted
    have known := account _ has
    refine ⟨known, cluster.slot, small, ?_⟩
    rw [dataDir known]
    exact SetupScript.allows_wipe _ _ worker _
  · cases asks

end

/-! ## Runs under one configuration -/

variable {deps : TaskDeps}

/-- Every later process is started with the same configuration. -/
def SameConfig (deps : TaskDeps) (_ : System) : Label → Prop
  | .request _ | .step .. | .world _ => True
  | .restart later =>
    later.config = deps.config ∧ later.workerDataDirBase = deps.workerDataDirBase ∧
      later.tarStagingDirBase = deps.tarStagingDirBase

def TaskDeps.unixUsers (deps : TaskDeps) : List String := deps.config.clients.map ClientConfig.unixUser

structure System.Granted (deps : TaskDeps) (system : System) : Prop where
  config : system.deps.config = deps.config
  workerDataDirBase : system.deps.workerDataDirBase = deps.workerDataDirBase
  tarStagingDirBase : system.deps.tarStagingDirBase = deps.tarStagingDirBase
  backends : system.deps.backends = registeredBackends
  rows : Rows.Granted deps.unixUsers deps.config.limits.maxClustersPerUser system.shared.rows
  tasks : ∀ task ∈ system.tasks, task.Granted deps.unixUsers deps.config.limits.maxClustersPerUser

theorem TaskDeps.account_known (deps : TaskDeps) {client : ClientId} {worker : WorkerUser}
    (found : deps.clientWorkers.get client = .ok worker) : worker.name ∈ deps.unixUsers := by
  have resolved := deps.resolved
  unfold resolveClientWorkers at resolved
  cases pairs : deps.config.clients.mapM (resolveClient deps.passwd) with
  | error why => simp [pairs, bind, Except.bind] at resolved
  | ok accounts =>
    simp only [pairs, bind, Except.bind, pure, Except.pure, Except.ok.injEq] at resolved
    have member := ClientWorkers.get_eq_ok found
    rw [← resolved, List.mem_reverse] at member
    have names : accounts.map (fun entry => entry.2.name) = deps.unixUsers := by
      have users := congrArg (List.map Prod.snd) (resolveClients_names pairs)
      rwa [List.map_map, List.map_map] at users
    rw [← names]
    exact List.mem_map.mpr ⟨_, member, rfl⟩

theorem registered_targeted {kind : ServiceKind} {backend : Backend} (registered : deps.backends = registeredBackends)
    (found : deps.backend kind = some backend) : Targeted (SpawnTask.prepareTargets backend) := by
  rw [TaskDeps.backend, registered] at found
  cases kind with
  | postgres =>
    obtain rfl : (⟨[]⟩ : Backend) = backend := Option.some.inj found
    exact List.forall_mem_singleton.mpr (.inl rfl)
  | supabase =>
    obtain rfl : (⟨["project/functions"]⟩ : Backend) = backend := Option.some.inj found
    exact List.forall_mem_singleton.mpr (.inr rfl)

theorem System.Granted.grants {system : System} (granted : system.Granted deps) :
    system.deps.Grants deps.unixUsers deps.config.limits.maxClustersPerUser := by
  constructor
  · intro client worker found
    rw [TaskDeps.unixUsers, ← granted.config]
    exact system.deps.account_known found
  · rw [system.deps.quota, granted.config]
  · exact fun kind backend found => registered_targeted granted.backends found

theorem System.Granted.next {system after : System} {label : Label} (granted : system.Granted deps) (owned : system.Owned)
    (same : SameConfig deps system label) (moved : system.next label = some after) : after.Granted deps := by
  cases label with
  | request request =>
    obtain ⟨-, rfl⟩ := next_request moved
    refine ⟨granted.config, granted.workerDataDirBase, granted.tarStagingDirBase, granted.backends, granted.rows, ?_⟩
    intro task member
    rcases List.mem_append.mp member with old | new
    · exact granted.tasks task old
    · rw [List.mem_singleton.mp new]
      cases request with
      | create | sweep => trivial
      | delete => exact ⟨trivial, fun _ unread => by cases unread⟩
  | step index answer =>
    obtain ⟨task, found, -, rfl⟩ := next_step moved
    have leaves : Leaves deps.unixUsers deps.config.limits.maxClustersPerUser
        (task.step system.deps answer system.shared) :=
      (granted.tasks task (List.mem_of_getElem? found)).step granted.grants owned.shared.ids granted.rows
    refine ⟨granted.config, granted.workerDataDirBase, granted.tarStagingDirBase, granted.backends, leaves.rows, ?_⟩
    intro other member
    rcases List.mem_append.mp member with old | new
    · exact granted.tasks other (List.mem_of_mem_eraseIdx old)
    · exact leaves.tasks other new
  | world change =>
    obtain ⟨world, -, rfl⟩ := next_world moved
    exact ⟨granted.config, granted.workerDataDirBase, granted.tarStagingDirBase, granted.backends, granted.rows,
      granted.tasks⟩
  | restart later =>
    obtain ⟨⟨backends, -, -⟩, rfl⟩ := next_restart moved
    obtain ⟨config, workerDataDirBase, tarStagingDirBase⟩ := same
    refine ⟨config, workerDataDirBase, tarStagingDirBase, backends.trans granted.backends, granted.rows, ?_⟩
    exact List.forall_mem_singleton.mpr trivial

theorem boot_granted (registered : deps.backends = registeredBackends) :
    System.Granted deps (.boot deps .empty) :=
  ⟨rfl, rfl, rfl, registered, fun _ none_yet => (by cases none_yet), List.forall_mem_singleton.mpr trivial⟩

theorem granted_of_run (registered : deps.backends = registeredBackends) {finish : System}
    (run : Run System.next (SameConfig deps) (.boot deps .empty) finish) : finish.Granted deps := by
  have both : finish.Owned ∧ finish.Granted deps := by
    apply run.invariant ⟨boot_owned deps empty_tableSound, boot_granted registered⟩
    exact fun system label after held same moved => ⟨held.1.next moved, held.2.next held.1 same moved⟩
  exact both.2

/-- The accounts as the script's list has them. -/
def TaskDeps.scriptNames (deps : TaskDeps) : List (List Char) := deps.unixUsers.map String.toList

def AllowedByScript (deps : TaskDeps) (invocation : Invocation) : Prop :=
  invocation ∈ SetupScript.sudoersRules deps.workerDataDirBase deps.tarStagingDirBase deps.scriptNames
      deps.config.limits.maxClustersPerUser.toNat ∧
    ∀ user, invocation.line user ∈ SetupScript.sudoersLines deps.workerDataDirBase deps.tarStagingDirBase
      deps.scriptNames deps.config.limits.maxClustersPerUser.toNat user

/-- Whatever a task asks sudo for, at any point of a run, is a line of the script for that account. -/
theorem command_allowed (deps : TaskDeps) (registered : deps.backends = registeredBackends)
    (workerBase : Unslashed deps.workerDataDirBase) (stagingBase : Unslashed deps.tarStagingDirBase)
    (names : ∀ name ∈ deps.unixUsers, IsAccountName name) (finish : System)
    (run : Run System.next (SameConfig deps) (.boot deps .empty) finish) (task : Task) (member : task ∈ finish.tasks)
    (worker : WorkerUser) (command : PrivilegedCommand) (asks : task.command finish.deps = some (worker, command)) :
    AllowedByScript deps (SudoExecutor.runAs worker command) := by
  have granted := granted_of_run registered run
  obtain ⟨known, slot, small, rule⟩ := (granted.tasks task member).rule
    (granted.workerDataDirBase ▸ workerBase) (granted.tarStagingDirBase ▸ stagingBase) names asks
  rw [granted.workerDataDirBase, granted.tarStagingDirBase] at rule
  have allowed : SudoExecutor.runAs worker command ∈ SetupScript.sudoersRules deps.workerDataDirBase
      deps.tarStagingDirBase deps.scriptNames deps.config.limits.maxClustersPerUser.toNat :=
    SetupScript.mem_sudoersRules (List.mem_map_of_mem known) (UInt32.lt_iff_toNat_lt.mp small) rule
  refine ⟨allowed, fun user => ?_⟩
  rw [SetupScript.sudoersLines_eq]
  exact List.mem_map_of_mem allowed

/-- Every command that a task of a run asks for is one that the script allows, and no task goes by an answer of the executor
that has asked for none. -/
theorem privileged_commands_allowed (deps : TaskDeps) (registered : deps.backends = registeredBackends)
    (workerBase : Unslashed deps.workerDataDirBase) (stagingBase : Unslashed deps.tarStagingDirBase)
    (names : ∀ name ∈ deps.unixUsers, IsAccountName name) (finish : System)
    (run : Run System.next (SameConfig deps) (.boot deps .empty) finish) (task : Task) (member : task ∈ finish.tasks) :
    (∀ worker command, task.command finish.deps = some (worker, command) →
      AllowedByScript deps (SudoExecutor.runAs worker command)) ∧
    (task.command finish.deps = none → ∀ answer executor,
      task.step finish.deps { answer with executor := executor } finish.shared = task.step finish.deps answer finish.shared) :=
  ⟨fun _ _ asks => command_allowed deps registered workerBase stagingBase names finish run task member _ _ asks,
    fun asksNothing _ executor => step_of_no_command asksNothing executor⟩

/-- Until the first command of a spawn. -/
def untilPreparing : List Label :=
  [.step 0 {}, .step 0 {}, .request (.create ⟨"alice"⟩ ⟨.postgres, false⟩ smallTtl none), .step 0 {}, .step 0 {},
    .step 0 {}, .step 0 {}]

def keepsConfig (_ : System) : Label → Bool
  | .request _ | .step .. | .world _ => true
  | .restart _ => false

/-- The first directory of the small installation. -/
theorem privileged_commands_allowed_small : ∃ finish task worker command,
    Run System.next (SameConfig smallDeps) (.boot smallDeps .empty) finish ∧ task ∈ finish.tasks ∧
      task.command finish.deps = some (worker, command) ∧ AllowedByScript smallDeps (SudoExecutor.runAs worker command) := by
  have seen : (follow System.next keepsConfig smallStart untilPreparing).bind (fun finish =>
      finish.tasks.head?.bind fun task => task.command finish.deps) =
      some (⟨"agent1", 1001, 1001⟩, .prepareWorkerDir "/srv/agent1/slot-0".toList) := by decide +kernel
  obtain ⟨finish, followed, first⟩ := Option.bind_eq_some_iff.mp seen
  obtain ⟨task, here, asks⟩ := Option.bind_eq_some_iff.mp first
  have run : Run System.next (SameConfig smallDeps) (.boot smallDeps .empty) finish := by
    apply (run_of_follow untilPreparing followed).weaken
    intro state label kept
    cases label with
    | request | step | world => trivial
    | restart => cases kept
  have member := List.mem_of_head? here
  refine ⟨finish, task, _, _, run, member, asks, ?_⟩
  apply (privileged_commands_allowed smallDeps rfl (by decide) (by decide) _ finish run task member).1 _ _ asks
  decide

end AppSalmon
