import AppSalmon.Service.PrivilegedCommands
import AppSalmon.Service.SpawnRun

/-! The tasks of the system run `do_spawn` as it is told call by call.

The system knows neither passwords nor polls, and a backend's spawn is one call
there that may make containers before it returns. Each of its phases still leaves
the same calls to do, and whatever a task comes to, the calls come to it as well.
-/

set_option autoImplicit false

namespace AppSalmon.SpawnRun

open Cancellation (Client)
open SpawnTask (work prepareTarget)

variable (setting : Setting) (inputs : Inputs) (cluster : Cluster) (worker : WorkerUser)

/-! ## The calls that are left -/

/-- The call of the backend's `spawn`. -/
def connects : Process (Except ClusterError ConnectionInfo) :=
  (cluster.service.kind.spawn (setting.params inputs cluster)).lift .backend Reply.backend

def projectDir : UnixPath.Path :=
  UnixPath.join (workerDataDir setting.deps.workerDataDirBase worker cluster.slot) "project".toList

def removesStaging (outcome : Except ClusterError Unit) : Process (Except ClusterError Unit) :=
  (Client.send (.removeDirAll (SpawnTask.stagingPath setting.deps cluster worker))).map fun _ => outcome

/-- The staging directory belongs to its worker's, whose mode is set first. -/
def setsModes (rest : Process (Except ClusterError Unit)) : Nat → Process (Except ClusterError Unit)
  | next + 2 =>
    (fsOrFail (.setPermissions (UnixPath.join setting.deps.tarStagingDirBase worker.name.toList) 0o755)
      "failed to prepare staging directory permissions").andThen fun _ => setsModes rest (next + 1)
  | _ =>
    (fsOrFail (.setPermissions (SpawnTask.stagingPath setting.deps cluster worker) 0o755)
      "failed to prepare staging directory permissions").andThen fun _ => rest

def adopts (extracted : Except String (Except TarValidation.TarValidationError Unit)) : Process (Except ClusterError Unit) :=
  (adoptExtracted worker (SpawnTask.stagingPath setting.deps cluster worker) (projectDir setting cluster worker) extracted).bind
    (removesStaging setting cluster worker)

def extracts : Process (Except ClusterError Unit) :=
  (Client.send (.validateAndExtract (inputs.projectTar.getD []) (SpawnTask.stagingPath setting.deps cluster worker)
    setting.deps.tarLimits)).bind fun reply => adopts setting cluster worker reply.extracted

def prepares (targets : List String) : Process (Except ClusterError ConnectionInfo) :=
  (prepareAll worker ((targets.headD "" :: targets.tail).map (prepareTarget setting.deps cluster worker))).andThen fun _ =>
    (adoptUpload setting.deps worker cluster.slot (projectDir setting cluster worker) inputs.projectTar).andThen fun _ =>
      connects setting inputs cluster

/-- What a phase leaves of `do_spawn`. -/
def remains : Phase → Process (Except ClusterError ConnectionInfo)
  | .settingWorker targets => (setWorker cluster.id worker).andThen fun _ => prepares setting inputs cluster worker targets
  | .preparing targets => prepares setting inputs cluster worker targets
  | .creatingStaging =>
    (adoptProjectTar setting.deps worker cluster.slot (projectDir setting cluster worker)
      (inputs.projectTar.getD [])).andThen fun _ => connects setting inputs cluster
  | .settingModes count =>
    (setsModes setting cluster worker (extracts setting inputs cluster worker) count).andThen fun _ =>
      connects setting inputs cluster
  | .extracting _ _ => (extracts setting inputs cluster worker).andThen fun _ => connects setting inputs cluster
  | .adopting => (adopts setting cluster worker (.ok (.ok ()))).andThen fun _ => connects setting inputs cluster
  | .unstaging outcome => (removesStaging setting cluster worker outcome).andThen fun _ => connects setting inputs cluster
  | .spawning => connects setting inputs cluster

/-- What a phase leaves comes to what the next stage comes to. -/
def ComesTo (phase : Phase) : SpawnStage → Prop
  | .working _ next => ∃ exchanges, ∀ {later : List Exchange} {outcome : Option (Except ClusterError ConnectionInfo)},
      (remains setting inputs cluster worker next).Selects later outcome →
        (remains setting inputs cluster worker phase).Selects (exchanges ++ later) outcome
  | .checking result => ∃ exchanges, (remains setting inputs cluster worker phase).Selects exchanges (some result)
  | .start | .persisting .. => False

/-- A result that the backend may return. -/
def Returns (result : Except ClusterError ConnectionInfo) : Prop :=
  ∃ calls, (cluster.service.kind.spawn (setting.params inputs cluster)).Selects calls (some result)

variable {setting : Setting} {inputs : Inputs} {cluster : Cluster} {worker : WorkerUser}
variable {answer : Answer} {shared after : Shared} {token : CancellationToken} {phase : Phase} {stage : SpawnStage}
variable {beside : List Task} {result : Except ClusterError ConnectionInfo}

theorem remains_afterPrepare : remains setting inputs cluster worker (SpawnTask.afterPrepare inputs.projectTar) =
    (adoptUpload setting.deps worker cluster.slot (projectDir setting cluster worker) inputs.projectTar).andThen fun _ =>
      connects setting inputs cluster := by
  cases upload : inputs.projectTar with
  | none => rfl
  | some tarBytes => simp [SpawnTask.afterPrepare, remains, adoptUpload, upload]

/-- One await of a task is so many calls of `do_spawn`, none while an extraction or a backend goes on. -/
theorem work_comesTo (returns : ∀ result, answer.spawn = .returns result → Returns setting inputs cluster result)
    (moved : work setting.deps answer shared cluster token inputs.projectTar worker phase =
      (after, .spawn cluster token inputs.projectTar stage :: beside)) :
    ComesTo setting inputs cluster worker phase stage := by
  cases phase with
  | settingWorker targets =>
    simp only [work] at moved
    split at moved
    · next error told =>
      cases moved
      exact ⟨[(_, { repository := some error })], .request .ready⟩
    · split at moved
      · next error told =>
        cases moved
        exact ⟨[(_, { repository := some error })], .request .ready⟩
      · cases moved
        exact ⟨[(_, {})], fun rest => .request rest⟩
  | preparing targets =>
    simp only [work] at moved
    split at moved
    · next error told =>
      cases moved
      exact ⟨[(_, { executor := some error })], .request .ready⟩
    · split at moved
      · cases moved
        exact ⟨[(_, {})], fun rest => .request rest⟩
      · next single =>
        cases moved
        rw [ComesTo, remains_afterPrepare]
        cases targets with
        | nil => exact ⟨[(_, {})], fun rest => .request rest⟩
        | cons target others =>
          cases others with
          | nil => exact ⟨[(_, {})], fun rest => .request rest⟩
          | cons next more => exact absurd rfl (single target next more)
  | creatingStaging =>
    simp only [work] at moved
    split at moved
    · next error told =>
      cases moved
      exact ⟨[(_, { fs := some error })], .request .ready⟩
    · cases moved
      exact ⟨[(_, {})], fun rest => .request rest⟩
  | settingModes count =>
    simp only [work] at moved
    split at moved
    · next error told =>
      cases moved
      cases count with
      | zero => exact ⟨[(_, { fs := some error })], .request .ready⟩
      | succ count => cases count <;> exact ⟨[(_, { fs := some error })], .request .ready⟩
    · split at moved
      · cases moved
        exact ⟨[(_, {})], fun rest => .request rest⟩
      · next last =>
        cases moved
        cases count with
        | zero => exact ⟨[(_, {})], fun rest => .request rest⟩
        | succ count =>
          cases count with
          | zero => exact ⟨[(_, {})], fun rest => .request rest⟩
          | succ count => exact absurd rfl (last count)
  | extracting remaining outcome =>
    simp only [work] at moved
    split at moved
    · next error told =>
      cases moved
      exact ⟨[(_, { extracted := .error error })], fun rest => .request rest⟩
    · split at moved
      · split at moved <;>
        · cases moved
          exact ⟨[], fun rest => rest⟩
      · cases moved
        exact ⟨[(_, {})], fun rest => .request rest⟩
      · next error =>
        cases moved
        exact ⟨[(_, { extracted := .ok (.error error) })], fun rest => .request rest⟩
  | adopting =>
    simp only [work] at moved
    split at moved
    · next error told =>
      cases moved
      exact ⟨[(_, { executor := some error })], fun rest => .request rest⟩
    · cases moved
      exact ⟨[(_, {})], fun rest => .request rest⟩
  | unstaging outcome =>
    simp only [work] at moved
    split at moved
    · cases moved
      exact ⟨[(_, {})], fun rest => .request rest⟩
    · cases moved
      exact ⟨[(_, {})], .request .ready⟩
  | spawning =>
    have lifts {result : Except ClusterError ConnectionInfo} (told : answer.spawn = .returns result) :
        ComesTo setting inputs cluster worker .spawning (.checking result) := by
      obtain ⟨calls, selects⟩ := returns result told
      exact selects.lift Call.backend Reply.backend fun reply => ⟨{ backend := reply }, rfl⟩
    simp only [work] at moved
    split at moved
    · cases moved
      exact ⟨[], fun rest => rest⟩
    · next connection told =>
      cases moved
      exact lifts told
    · next error told =>
      cases moved
      exact lifts told
    · cases moved

/-! ## Whole spawns -/

variable (setting inputs cluster token worker) in
/-- `do_spawn` as a task runs it, from a phase to its result, whatever the rest of the system does meanwhile. -/
inductive Works : Phase → Except ClusterError ConnectionInfo → Prop where
  | ends {phase : Phase} {result : Except ClusterError ConnectionInfo} {answer : Answer} {shared after : Shared}
      {beside : List Task} (returns : ∀ result, answer.spawn = .returns result → Returns setting inputs cluster result)
      (moved : work setting.deps answer shared cluster token inputs.projectTar worker phase =
        (after, .spawn cluster token inputs.projectTar (.checking result) :: beside)) : Works phase result
  | goesOn {phase next : Phase} {result : Except ClusterError ConnectionInfo} {answer : Answer} {shared after : Shared}
      {beside : List Task} (returns : ∀ result, answer.spawn = .returns result → Returns setting inputs cluster result)
      (moved : work setting.deps answer shared cluster token inputs.projectTar worker phase =
        (after, .spawn cluster token inputs.projectTar (.working worker next) :: beside))
      (rest : Works next result) : Works phase result

theorem Works.selects (works : Works setting inputs cluster worker token phase result) :
    ∃ steps, (remains setting inputs cluster worker phase).Selects steps (some result) := by
  induction works with
  | ends returns moved => exact work_comesTo returns moved
  | goesOn returns moved rest ih =>
    obtain ⟨steps, later⟩ := ih
    obtain ⟨exchanges, before⟩ := work_comesTo returns moved
    exact ⟨exchanges ++ steps, before later⟩

variable {backend : Backend}

theorem doSpawn_eq_remains (found : setting.deps.backend cluster.service.kind = some backend)
    (account : setting.deps.clientWorkers.get cluster.owner = .ok worker)
    (named : ∀ subdir ∈ backend.workerSubdirs, subdir ≠ "") :
    doSpawn setting inputs cluster =
      remains setting inputs { cluster with worker := some worker } worker (.settingWorker (SpawnTask.prepareTargets backend)) := by
  have targets : (if backend.workerSubdirs = [] then [workerDataDir setting.deps.workerDataDirBase worker cluster.slot]
      else backend.workerSubdirs.map fun subdir =>
        UnixPath.join (workerDataDir setting.deps.workerDataDirBase worker cluster.slot) subdir.toList) =
      ((SpawnTask.prepareTargets backend).headD "" :: (SpawnTask.prepareTargets backend).tail).map
        (prepareTarget setting.deps { cluster with worker := some worker } worker) := by
    cases listed : backend.workerSubdirs with
    | nil => simp [SpawnTask.prepareTargets, listed, prepareTarget]
    | cons first rest =>
      rw [listed] at named
      simp only [SpawnTask.prepareTargets, listed, reduceCtorEq, if_false, List.headD_cons, List.tail_cons]
      exact List.map_congr_left fun subdir member => by simp [prepareTarget, named subdir member]
  simp only [doSpawn, found, account, remains, prepares, targets]
  rfl

theorem registered_named {deps : TaskDeps} {kind : ServiceKind} (registered : deps.backends = registeredBackends)
    (found : deps.backend kind = some backend) : ∀ subdir ∈ backend.workerSubdirs, subdir ≠ "" := by
  rw [TaskDeps.backend, registered] at found
  cases kind with
  | postgres =>
    obtain rfl : (⟨[]⟩ : Backend) = backend := Option.some.inj found
    exact List.forall_mem_nil _
  | supabase =>
    obtain rfl : (⟨["project/functions"]⟩ : Backend) = backend := Option.some.inj found
    exact List.forall_mem_singleton.mpr (by decide)

variable (setting inputs cluster token) in
/-- A task runs `do_spawn` from its start to this result. -/
inductive Runs : Except ClusterError ConnectionInfo → Prop where
  | declines {result : Except ClusterError ConnectionInfo} {answer : Answer} {shared after : Shared}
      (moved : SpawnTask.step setting.deps answer shared cluster token inputs.projectTar .start =
        (after, [.spawn cluster token inputs.projectTar (.checking result)])) : Runs result
  | works {result : Except ClusterError ConnectionInfo} {answer : Answer} {shared after : Shared} {started : Cluster}
      {worker : WorkerUser} {phase : Phase}
      (moved : SpawnTask.step setting.deps answer shared cluster token inputs.projectTar .start =
        (after, [.spawn started token inputs.projectTar (.working worker phase)]))
      (works : Works setting inputs started worker token phase result) : Runs result

/-- What comes of `do_spawn` in a task, comes of it call by call. -/
theorem Runs.selects (runs : Runs setting inputs cluster token result)
    (registered : setting.deps.backends = registeredBackends) :
    ∃ steps, (doSpawn setting inputs cluster).Selects steps (some result) := by
  cases runs with
  | declines moved =>
    simp only [SpawnTask.step] at moved
    split at moved
    · simp [TeardownTask.enter] at moved
    · split at moved
      · next none_there =>
        cases moved
        exact ⟨[], by simpa only [doSpawn, none_there] using .ready⟩
      · next backend found =>
        split at moved
        · next error unknown =>
          cases moved
          exact ⟨[], by simpa only [doSpawn, found, unknown] using .ready⟩
        · simp at moved
  | works moved works =>
    simp only [SpawnTask.step] at moved
    split at moved
    · simp [TeardownTask.enter] at moved
    · split at moved
      · cases moved
      · next backend found =>
        split at moved
        · cases moved
        · next worker account =>
          cases moved
          rw [doSpawn_eq_remains found account (registered_named registered found)]
          exact works.selects

theorem persist_ends (cluster : Cluster) (now : DateTime) (result : Except ClusterError ConnectionInfo) (current : ClusterState) :
    ∃ later, (persist cluster now result current).Selects later (some ()) := by
  unfold persist
  split
  · exact ⟨[], .ready⟩
  · split
    · exact ⟨[], .ready⟩
    · exact ⟨[(_, {})], .request .ready⟩

/-- A task that has run `do_spawn` and looks at its row is an execution of `run`: it tears down where the execution
does, and goes on to record the outcome on the state that the execution records it on. -/
theorem Runs.execution (runs : Runs setting inputs cluster token result)
    (registered : setting.deps.backends = registeredBackends)
    (spawning : cluster.state.isDeleting = false) {given : Option WorkerUser}
    (moved : SpawnTask.step setting.deps answer shared { cluster with worker := given } token inputs.projectTar
      (.checking result) = (after, beside)) :
    ∃ execution : Execution setting cluster, execution.inputs = inputs ∧ execution.outcome = some result ∧
      ((after, beside) = TeardownTask.enter shared { cluster with worker := given } .unregister ∧
          (∃ reply, execution.rest = [(.getAny cluster.id, reply), (.teardown, {})]) ∨
        ∃ current, (after, beside) =
            (shared, [.spawn { cluster with worker := given } token inputs.projectTar (.persisting current result)]) ∧
          ∃ reply later, execution.rest = (.getAny cluster.id, reply) :: later ∧
            (persist cluster inputs.now result current).Selects later (some ())) := by
  obtain ⟨steps, spawned⟩ := runs.selects registered
  have torn : teardown.Selects [(.teardown, {})] (some ()) := .request .ready
  simp only [SpawnTask.step] at moved
  split at moved
  · next error told =>
    -- the row cannot be read
    obtain ⟨later, recorded⟩ := persist_ends cluster inputs.now result cluster.state
    refine ⟨⟨inputs, steps, some result, (.getAny cluster.id, { repository := some error }) :: later, spawned, .request ?_⟩,
      rfl, rfl, .inr ⟨cluster.state, moved.symm, _, later, rfl, recorded⟩⟩
    simpa only [Client.bind, spawning, Bool.false_eq_true, if_false] using recorded
  · exact ⟨⟨inputs, steps, some result, [(.getAny cluster.id, {}), (.teardown, {})], spawned, .request torn⟩,
      rfl, rfl, .inl ⟨moved.symm, _, rfl⟩⟩
  · next row told found =>
    split at moved
    · next deleting =>
      refine ⟨⟨inputs, steps, some result, [(.getAny cluster.id, { row := some row }), (.teardown, {})], spawned, .request ?_⟩,
        rfl, rfl, .inl ⟨moved.symm, _, rfl⟩⟩
      simpa only [Client.bind, deleting, if_true] using torn
    · next standing =>
      obtain ⟨later, recorded⟩ := persist_ends cluster inputs.now result row.state
      refine ⟨⟨inputs, steps, some result, (.getAny cluster.id, { row := some row }) :: later, spawned, .request ?_⟩,
        rfl, rfl, .inr ⟨row.state, moved.symm, _, later, rfl, recorded⟩⟩
      simpa only [Client.bind, standing, Bool.false_eq_true, if_false] using recorded

end AppSalmon.SpawnRun
