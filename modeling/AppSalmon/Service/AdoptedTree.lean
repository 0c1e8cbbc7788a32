import AppSalmon.Service.Placement

/-! Whether the tree that a cluster adopts is the one extracted from its own upload.

A staging directory is named by account and slot, created if it is not there,
and removed at the end of one function. Whatever that function leaves, or a
closure that outlives it still writes, the next upload finds.
-/

set_option autoImplicit false

namespace AppSalmon

open KeyedTable TaskPool
open Repository (Rows stateOf)
open Duty (Valid Apart)

/-- A closure of a spawn that is gone still has something to write, or to remove. -/
def Task.disturbs (dir : SlotDir) : Task → Bool
  | .staging place _ (.extract (_ :: _)) | .staging place _ .remove => place = dir
  | _ => false

/-- Where a staging directory is created, nothing is in it, and nothing is still at work there. -/
def stagesAlone (system : System) : Label → Bool
  | .step index answer =>
    match system.tasks[index]? with
    | some (.spawn cluster token _ (.working worker .creatingStaging)) =>
      system.shared.registry.isCancelled token || answer.fs.isSome ||
        (((system.shared.staging (slotDir worker cluster.slot)).getD []).isEmpty &&
          system.tasks.all fun other => !other.disturbs (slotDir worker cluster.slot))
    | _ => true
  | .request _ | .world _ | .restart _ => true

/-- The staging directory holds what one extraction of the upload, which succeeded, has written. -/
def HoldsOwnTree (deps : TaskDeps) (shared : Shared) (cluster : Cluster) (projectTar : Option (List UInt8))
    (worker : WorkerUser) : Prop :=
  ∃ tar, projectTar = some tar ∧ (SpawnTask.extraction deps cluster worker tar).result = .ok () ∧
    shared.staging (slotDir worker cluster.slot) =
      some ((SpawnTask.extraction deps cluster worker tar).effects.map fun effect => ⟨cluster.id, effect⟩)

theorem HoldsOwnTree.upload {deps : TaskDeps} {shared : Shared} {cluster : Cluster}
    {projectTar : Option (List UInt8)} {worker : WorkerUser} (holds : HoldsOwnTree deps shared cluster projectTar worker)
    {content : List Staged} (stored : shared.staging (slotDir worker cluster.slot) = some content) :
    ∀ staged ∈ content, staged.upload = cluster.id := by
  obtain ⟨tar, -, -, written⟩ := holds
  obtain rfl := Option.some.inj (stored.symm.trans written)
  intro staged member
  obtain ⟨effect, -, rfl⟩ := List.mem_map.mp member
  rfl

/-! ## What a spawn knows of its staging directory -/

/-- An extraction that may still succeed has written a beginning of what it is to write. -/
def ExtractsOwn (deps : TaskDeps) (shared : Shared) (cluster : Cluster) (projectTar : Option (List UInt8))
    (worker : WorkerUser) (remaining : List TarValidation.Effect)
    (result : Except TarValidation.TarValidationError Unit) : Prop :=
  result = .ok () → ∃ tar content, projectTar = some tar ∧
    (SpawnTask.extraction deps cluster worker tar).result = .ok () ∧
    shared.staging (slotDir worker cluster.slot) = some content ∧
    content ++ remaining.map (fun effect => ⟨cluster.id, effect⟩) =
      (SpawnTask.extraction deps cluster worker tar).effects.map fun effect => ⟨cluster.id, effect⟩

def Phase.Stages (deps : TaskDeps) (shared : Shared) (cluster : Cluster) (projectTar : Option (List UInt8))
    (worker : WorkerUser) : Phase → Prop
  | .creatingStaging => projectTar.isSome = true
  | .settingModes _ => projectTar.isSome = true ∧ shared.staging (slotDir worker cluster.slot) = some []
  | .extracting remaining result => ExtractsOwn deps shared cluster projectTar worker remaining result
  | .adopting => HoldsOwnTree deps shared cluster projectTar worker
  | .settingWorker _ | .preparing _ | .unstaging _ | .spawning => True

def Task.StagesOwn (deps : TaskDeps) (shared : Shared) : Task → Prop
  | .spawn cluster _ projectTar (.working worker phase) => phase.Stages deps shared cluster projectTar worker
  | _ => True

/-- Between the creation of its staging directory and its removal. -/
def Phase.staged : Phase → Bool
  | .settingModes _ | .extracting .. | .adopting => true
  | .settingWorker _ | .preparing _ | .creatingStaging | .unstaging _ | .spawning => false

def Phase.seated : Phase → Bool
  | .settingWorker _ => false
  | _ => true

def Task.staged : Task → Option SlotDir
  | .spawn cluster _ _ (.working worker phase) => if phase.staged then some (slotDir worker cluster.slot) else none
  | _ => none

/-- Where a spawn has its account on the row. -/
def Task.seat : Task → Option SlotDir
  | .spawn cluster _ _ (.working worker phase) => if phase.seated then some (slotDir worker cluster.slot) else none
  | _ => none

variable {deps : TaskDeps} {answer : Answer} {shared after : Shared} {task : Task} {dir : SlotDir}

theorem Task.seat_of_staged (staged : task.staged = some dir) : task.seat = some dir := by
  cases task with
  | spawn cluster token projectTar stage =>
    cases stage with
    | start | checking | persisting => cases staged
    | working worker phase => cases phase <;> first | exact staged | cases staged
  | create | launch | unregister | teardown | requestDelete | followDelete | sweep | reap | dispatch | late | staging
  | reconcile | reconcileRows | reconcileLost => cases staged

/-- What a task knows lasts as long as nothing is written into its directory. -/
theorem Task.StagesOwn.congr (stages : task.StagesOwn deps shared)
    (same : ∀ place content, task.staged = some place → shared.staging place = some content →
      after.staging place = some content) : task.StagesOwn deps after := by
  cases task with
  | spawn cluster token projectTar stage =>
    cases stage with
    | start | checking | persisting => trivial
    | working worker phase =>
      cases phase with
      | settingWorker | preparing | unstaging | spawning => trivial
      | creatingStaging => exact stages
      | settingModes left => exact ⟨stages.1, same _ _ rfl stages.2⟩
      | extracting remaining result =>
        intro succeeds
        obtain ⟨tar, content, uploaded, complete, stored, whole⟩ := stages succeeds
        exact ⟨tar, content, uploaded, complete, same _ _ rfl stored, whole⟩
      | adopting =>
        obtain ⟨tar, uploaded, complete, stored⟩ := stages
        exact ⟨tar, uploaded, complete, same _ _ rfl stored⟩
  | create | launch | unregister | teardown | requestDelete | followDelete | sweep | reap | dispatch | late | staging
  | reconcile | reconcileRows | reconcileLost => trivial

/-! ## No two spawns in one directory -/

/-- Within one lifetime an account is its owner's alone, and the owner's slots are distinct. -/
theorem System.Placed.one_seat {system : System} (placed : system.Placed) {index : Nat} {other : Task}
    (found : system.tasks[index]? = some task) (member : other ∈ system.tasks.eraseIdx index)
    (mine : task.seat = some dir) (theirs : other.seat = some dir) : False := by
  have resident : ∀ resident ∈ system.tasks, resident.seat = some dir →
      ∃ row ∈ system.shared.rows, row.dir = some dir ∧
        (∃ worker, worker.name = dir.account ∧ system.deps.clientWorkers.get row.owner = .ok worker) ∧
        ∃ believed, .spawn row.id believed ∈ resident.duties := by
    intro resident inside seated
    cases resident with
    | spawn cluster token projectTar stage =>
      cases stage with
      | start | checking | persisting => cases seated
      | working worker phase =>
        have sites := placed.tasks _ inside
        have tenant : (Site.tenant cluster).Sound system.deps system.shared := sites _ (by simp [Task.sites])
        have seat : (Site.seat cluster.id dir).Sound system.deps system.shared := by
          apply sites
          cases phase with
          | settingWorker => cases seated
          | preparing | creatingStaging | settingModes | extracting | adopting | unstaging | spawning =>
            cases seated
            simp [Task.sites, SpawnStage.sites]
        obtain ⟨-, state, there, -⟩ := (placed.owned.each _ inside _ List.mem_cons_self).sound
        obtain ⟨row, here, -⟩ := Repository.stateOf_eq_some.mp there
        have home : system.deps.Houses row dir := seat.fits row here
        obtain ⟨account, has, named, -⟩ := Cluster.dir_eq_some.mp home.dir
        obtain ⟨before, serves⟩ := tenant.fits row here
        have copied : cluster.worker = some account := by
          rcases before with none_yet | same
          · rw [none_yet] at has
            cases has
          · exact same.symm.trans has
        refine ⟨row, Repository.getAny_mem here, home.dir, ⟨account, named, (serves account copied).account⟩, ?_⟩
        rw [Repository.getAny_id here]
        exact ⟨_, List.mem_cons_self⟩
    | create | launch | unregister | teardown | requestDelete | followDelete | sweep | reap | dispatch | late | staging
    | reconcile | reconcileRows | reconcileLost => cases seated
  obtain ⟨first, isFirst, placedFirst, ⟨worker, named, account⟩, believed, owed⟩ :=
    resident task (List.mem_of_getElem? found) mine
  obtain ⟨second, isSecond, placedSecond, ⟨account', called, given⟩, believed', owed'⟩ :=
    resident other (List.mem_of_mem_eraseIdx member) theirs
  have owner : first.owner = second.owner :=
    system.deps.private first.owner second.owner worker account' account given (named.trans called.symm)
  obtain ⟨-, -, -, slot⟩ := Cluster.dir_eq_some.mp placedFirst
  obtain ⟨-, -, -, slot'⟩ := Cluster.dir_eq_some.mp placedSecond
  have one := placed.owned.shared.slots.eq_of_mem isFirst isSecond owner (slot.trans slot'.symm)
  subst one
  exact (placed.owned.apart found member _ owed _ owed').exclusive rfl rfl (.inl rfl) rfl rfl

/-! ## What a step does to staging directories -/

/-- The staging directory that a step of a task may change. -/
def Task.touches : Task → Option SlotDir
  | .spawn cluster _ _ (.working worker .creatingStaging) | .spawn cluster _ _ (.working worker (.extracting ..))
  | .spawn cluster _ _ (.working worker (.unstaging _)) => some (slotDir worker cluster.slot)
  | .staging place _ _ => some place
  | _ => none

theorem work_staging (cluster : Cluster) (token : CancellationToken) (projectTar : Option (List UInt8))
    (worker : WorkerUser) (phase : Phase)
    (other : (Task.spawn cluster token projectTar (.working worker phase)).touches ≠ some dir) :
    (SpawnTask.work deps answer shared cluster token projectTar worker phase).1.staging dir = shared.staging dir := by
  by_cases panicked : SpawnTask.panics answer phase = true
  · rw [SpawnTask.work_panics panicked]
  obtain ⟨after, later, left, moved, awaited⟩ :=
    SpawnTask.work_awaited deps shared cluster token projectTar worker (Bool.eq_false_of_not_eq_true panicked)
  rw [moved]
  cases awaited with
  | stages =>
    have away : dir ≠ slotDir worker cluster.slot := fun same => other (congrArg some same.symm)
    exact Staging.set_other _ _ away
  | extracts written =>
    have away : dir ≠ slotDir worker cluster.slot := fun same => other (congrArg some same.symm)
    obtain ⟨content, -, rfl⟩ := Option.map_eq_some_iff.mp written
    exact Staging.set_other _ _ away
  | unstages removed =>
    have away : dir ≠ slotDir worker cluster.slot := fun same => other (congrArg some same.symm)
    rcases removed with rfl | rfl <;> exact Staging.set_other _ _ away
  | fails | assigns | prepares | prepared | unprepared | setsMode | validates | misses | extracted | unextracted
  | adopts | unadopted | creates | spawned | unspawned => rfl

theorem persist_staging (fault : Option RepositoryError) (id : ClusterId) (current : ClusterState)
    (event : ClusterEvent) : (SpawnTask.persist shared fault id current event).staging = shared.staging := by
  unfold SpawnTask.persist
  split
  · split <;> rfl
  · rfl

theorem spawn_staging (cluster : Cluster) (token : CancellationToken) (projectTar : Option (List UInt8))
    (stage : SpawnStage) (other : (Task.spawn cluster token projectTar stage).touches ≠ some dir) :
    (SpawnTask.step deps answer shared cluster token projectTar stage).1.staging dir = shared.staging dir := by
  cases stage with
  | start =>
    simp only [SpawnTask.step]
    split
    · rfl
    · split
      · rfl
      · split <;> rfl
  | working worker phase =>
    simp only [SpawnTask.step]
    split
    · rfl
    · exact work_staging cluster token projectTar worker phase other
  | checking result =>
    simp only [SpawnTask.step]
    split
    · rfl
    · rfl
    · split <;> rfl
  | persisting current result =>
    simp only [SpawnTask.step]
    split
    · rfl
    · exact congrFun (persist_staging ..) dir

/-- A step leaves every staging directory alone but the one it is for. -/
theorem step_staging (task : Task) (other : task.touches ≠ some dir) :
    (task.step deps answer shared).1.staging dir = shared.staging dir := by
  cases task with
  | spawn cluster token projectTar stage => exact spawn_staging cluster token projectTar stage other
  | staging place upload work =>
    have away : dir ≠ place := fun same => other (congrArg some same.symm)
    cases work with
    | create | remove =>
      simp only [Task.step, StagingWork.step]
      split
      · first | rfl | exact Staging.set_other _ _ away
      · exact Staging.set_other _ _ away
    | extract remaining =>
      cases remaining with
      | nil => rfl
      | cons effect rest =>
        simp only [Task.step, StagingWork.step]
        split
        · next staging written =>
          obtain ⟨content, -, rfl⟩ := Option.map_eq_some_iff.mp written
          exact Staging.set_other _ _ away
        · rfl
  | create owner service ttl projectTar =>
    simp only [Task.step, Handlers.create]
    split <;> rfl
  | launch cluster projectTar =>
    simp only [Task.step, Handlers.launchSpawn]
    split <;> rfl
  | unregister id => rfl
  | teardown cluster stage next =>
    cases stage with
    | backend | wipe =>
      simp only [Task.step, TeardownTask.step]
      split
      · rfl
      · split <;> rfl
    | delete =>
      simp only [Task.step, TeardownTask.step]
      split <;> rfl
  | requestDelete id owner reason caller read =>
    cases read with
    | none =>
      simp only [Task.step, ClusterService.requestDelete]
      split <;> rfl
    | some read => rfl
  | followDelete cluster outcome => cases outcome <;> rfl
  | sweep =>
    simp only [Task.step, TtlReaper.sweep]
    split <;> rfl
  | reap now todo results =>
    simp only [Task.step, TtlReaper.reap]
    split
    · rfl
    · split <;> rfl
  | dispatch results =>
    cases results with
    | nil => rfl
    | cons result rest =>
      obtain ⟨cluster, outcome⟩ := result
      cases outcome <;> rfl
  | late effect =>
    simp only [Task.step]
    split
    · cases effect with
      | setWorker id worker =>
        simp only [LateEffect.apply]
        split <;> rfl
      | writes | wipes | creates | removes => rfl
    · rfl
  | reconcile =>
    simp only [Task.step, Reconciliation.start]
    split <;> rfl
  | reconcileRows todo =>
    cases todo with
    | nil => rfl
    | cons cluster todo =>
      simp only [Task.step, Reconciliation.rows]
      split
      · split <;> rfl
      · split <;> rfl
      · rfl
      · rfl
  | reconcileLost cluster todo =>
    simp only [Task.step, Reconciliation.lost]
    split <;> rfl

/-! ## What a task becomes -/

/-- Nothing the task knows or does is about what a staging directory holds. -/
def Task.idle : Task → Bool
  | .spawn _ _ _ (.working _ phase) =>
    match phase with
    | .settingWorker _ | .preparing _ | .unstaging _ | .spawning => true
    | .creatingStaging | .settingModes _ | .extracting .. | .adopting => false
  | .staging _ _ (.extract (_ :: _)) | .staging _ _ .remove => false
  | _ => true

theorem Task.StagesOwn.of_idle (idle : task.idle = true) : task.StagesOwn deps shared := by
  cases task with
  | spawn cluster token projectTar stage =>
    cases stage with
    | start | checking | persisting => trivial
    | working worker phase => cases phase <;> trivial
  | create | launch | unregister | teardown | requestDelete | followDelete | sweep | reap | dispatch | late | staging
  | reconcile | reconcileRows | reconcileLost => trivial

theorem Task.staged_of_idle (idle : task.idle = true) : task.staged = none := by
  cases task with
  | spawn cluster token projectTar stage =>
    cases stage with
    | start | checking | persisting => rfl
    | working worker phase => cases phase <;> first | rfl | cases idle
  | create | launch | unregister | teardown | requestDelete | followDelete | sweep | reap | dispatch | late | staging
  | reconcile | reconcileRows | reconcileLost => rfl

theorem Task.disturbs_of_idle (idle : task.idle = true) : task.disturbs dir = false := by
  cases task with
  | staging place upload work =>
    cases work with
    | create => rfl
    | remove => cases idle
    | extract remaining =>
      cases remaining with
      | nil => rfl
      | cons effect rest => cases idle
  | spawn | create | launch | unregister | teardown | requestDelete | followDelete | sweep | reap | dispatch | late
  | reconcile | reconcileRows | reconcileLost => rfl

theorem enter_idle {cluster : Cluster} {next : After} {fresh : Task}
    (member : fresh ∈ (TeardownTask.enter shared cluster next).2) : fresh.idle = true := by
  rw [List.mem_singleton.mp member]
  rfl

/-- A closure on a staging directory goes on only while it has effects left to write. -/
theorem Successor.of_staging {place : SlotDir} {upload : ClusterId} {work : StagingWork} {fresh : Task}
    (successor : Successor deps answer shared (.staging place upload work) fresh) :
    ∃ effect rest, work = .extract (effect :: rest) ∧ fresh = .staging place upload (.extract rest) := by
  cases successor with
  | extracts => exact ⟨_, _, rfl, rfl⟩

/-- Only a spawn at work, and the closure it leaves behind, have to do with staging directories. -/
theorem Successor.idle {fresh : Task} (successor : Successor deps answer shared task fresh)
    (outside : ∀ cluster token projectTar worker phase, task ≠ .spawn cluster token projectTar (.working worker phase))
    (apart : ∀ place upload work, task ≠ .staging place upload work) : fresh.idle = true := by
  cases successor with
  | works | abandons => exact absurd rfl (outside _ _ _ _ _)
  | extracts => exact absurd rfl (apart _ _ _)
  | launches | registers | turns | begins | declines | checks | ends | tears | removesLate | wipesLate | unregisters
  | resumes | reads | passesOver | answers | collects | follows | gathers | gathersNothing | gathered | spares | expires
  | dispatches | starts | lists | orphans | finishes | loses | leaves | notes => rfl

theorem abandoned_disturbs {cluster : Cluster} {worker : WorkerUser} {phase : Phase} {fresh : Task}
    (member : fresh ∈ SpawnTask.abandoned cluster worker phase) (disturbs : fresh.disturbs dir = true) :
    phase.seated = true ∧ slotDir worker cluster.slot = dir := by
  cases phase with
  | settingModes => cases member
  | settingWorker | preparing | creatingStaging | adopting | spawning =>
    rw [List.mem_singleton.mp member] at disturbs
    cases disturbs
  | unstaging =>
    rw [List.mem_singleton.mp member] at disturbs
    exact ⟨rfl, of_decide_eq_true disturbs⟩
  | extracting remaining result =>
    rw [List.mem_singleton.mp member] at disturbs
    cases remaining with
    | nil => cases disturbs
    | cons => exact ⟨rfl, of_decide_eq_true disturbs⟩

theorem abandoned_staged {cluster : Cluster} {worker : WorkerUser} {phase : Phase} {fresh : Task}
    (member : fresh ∈ SpawnTask.abandoned cluster worker phase) :
    fresh.staged = none ∧ fresh.StagesOwn deps shared := by
  cases phase with
  | settingModes => cases member
  | settingWorker | preparing | creatingStaging | extracting | adopting | unstaging | spawning =>
    rw [List.mem_singleton.mp member]
    exact ⟨rfl, trivial⟩

/-- What a spawn knows of the tree in its staging directory, one await later. The directory it creates is empty. -/
theorem work_stages {cluster : Cluster} {token : CancellationToken} {projectTar : Option (List UInt8)}
    {worker : WorkerUser} {phase : Phase} (stages : phase.Stages deps shared cluster projectTar worker)
    (alone : phase = .creatingStaging → answer.fs = none →
      (shared.staging (slotDir worker cluster.slot)).getD [] = []) :
    ∀ fresh ∈ (SpawnTask.work deps answer shared cluster token projectTar worker phase).2,
      fresh.StagesOwn deps (SpawnTask.work deps answer shared cluster token projectTar worker phase).1 := by
  by_cases panicked : SpawnTask.panics answer phase = true
  · rw [SpawnTask.work_panics panicked]
    exact List.forall_mem_nil _
  obtain ⟨after, later, left, moved, awaited⟩ :=
    SpawnTask.work_awaited deps shared cluster token projectTar worker (Bool.eq_false_of_not_eq_true panicked)
  rw [moved]
  have goesOn {after : Shared} {next : Phase} (knows : next.Stages deps after cluster projectTar worker) :
      ∀ fresh ∈ [Task.spawn cluster token projectTar (.working worker next)], fresh.StagesOwn deps after := by
    intro fresh member
    rw [List.mem_singleton.mp member]
    exact knows
  have ends {after : Shared} {result : Except ClusterError ConnectionInfo} {dropped : List Task}
      (gone : dropped = [] ∨ dropped = SpawnTask.abandoned cluster worker phase) :
      ∀ fresh ∈ Task.spawn cluster token projectTar (.checking result) :: dropped, fresh.StagesOwn deps after := by
    intro fresh member
    rcases List.mem_cons.mp member with rfl | left
    · trivial
    · rcases gone with rfl | rfl
      · cases left
      · exact (abandoned_staged left).2
  cases awaited with
  | prepared =>
    apply goesOn
    cases projectTar with
    | none => trivial
    | some tar => exact rfl
  | stages works =>
    apply goesOn
    exact ⟨stages, (Staging.set_same ..).trans (congrArg some (alone rfl works))⟩
  | setsMode => exact goesOn stages
  | validates =>
    apply goesOn
    intro complete
    obtain ⟨tar, rfl⟩ := Option.isSome_iff_exists.mp stages.1
    exact ⟨tar, [], rfl, complete, stages.2, List.nil_append _⟩
  | extracts written =>
    obtain ⟨content, stored, rfl⟩ := Option.map_eq_some_iff.mp written
    apply goesOn
    intro complete
    obtain ⟨tar, before, uploaded, whole, here, all⟩ := stages complete
    obtain rfl : before = content := Option.some.inj (here.symm.trans stored)
    refine ⟨tar, _, uploaded, whole, Staging.set_same .., ?_⟩
    rw [← all, List.map_cons, List.append_assoc, List.singleton_append]
  | misses => exact goesOn fun complete => by cases complete
  | extracted =>
    apply goesOn
    obtain ⟨tar, content, uploaded, whole, here, all⟩ := stages rfl
    rw [List.map_nil, List.append_nil] at all
    exact ⟨tar, uploaded, whole, here.trans (congrArg some all)⟩
  | unadopted error =>
    intro fresh member
    rcases List.mem_cons.mp member with rfl | gone
    · trivial
    · exact (abandoned_staged gone).2
  | unstages removed onward =>
    rcases onward with rfl | ⟨error, rfl⟩
    · exact goesOn trivial
    · exact ends (.inl rfl)
  | assigns | prepares | unextracted | adopts | creates => exact goesOn trivial
  | fails | spawned => exact ends (.inl rfl)
  | unprepared | unspawned => exact ends (.inr rfl)

/-- What `do_spawn` itself leaves behind is never at work on the staging directory. -/
theorem work_calm {cluster : Cluster} {token : CancellationToken} {projectTar : Option (List UInt8)}
    {worker : WorkerUser} {phase : Phase} :
    ∀ fresh ∈ (SpawnTask.work deps answer shared cluster token projectTar worker phase).2,
      fresh.disturbs dir = false := by
  have late {next : Task} {effect : LateEffect} (calm : next.disturbs dir = false) :
      ∀ fresh ∈ [next, .late effect], fresh.disturbs dir = false := by
    intro fresh member
    rcases List.mem_pair.mp member with rfl | rfl
    · exact calm
    · rfl
  have alone {stage : SpawnStage} :
      ∀ fresh ∈ [Task.spawn cluster token projectTar stage], fresh.disturbs dir = false := by
    intro fresh member
    rw [List.mem_singleton.mp member]
    rfl
  by_cases panicked : SpawnTask.panics answer phase = true
  · rw [SpawnTask.work_panics panicked]
    exact List.forall_mem_nil _
  obtain ⟨after, later, left, moved, awaited⟩ :=
    SpawnTask.work_awaited deps shared cluster token projectTar worker (Bool.eq_false_of_not_eq_true panicked)
  rw [moved]
  cases awaited with
  | unprepared | unadopted | unspawned => exact late rfl
  | fails | assigns | prepares | prepared | stages | setsMode | validates | extracts | misses | extracted | unextracted
  | adopts | unstages | creates | spawned => exact alone

/-- A spawn has a staging directory because it had one, or has just created it. -/
theorem work_staged {cluster : Cluster} {token : CancellationToken} {projectTar : Option (List UInt8)}
    {worker : WorkerUser} {phase : Phase} {fresh : Task}
    (member : fresh ∈ (SpawnTask.work deps answer shared cluster token projectTar worker phase).2)
    (staged : fresh.staged = some dir) :
    slotDir worker cluster.slot = dir ∧ (phase.staged = true ∨ phase = .creatingStaging ∧ answer.fs = none) := by
  have only {next : Task} (same : fresh ∈ [next]) (none_staged : next.staged = none) : False := by
    rw [List.mem_singleton.mp same, none_staged] at staged
    cases staged
  have goesOn {next : Phase} (same : fresh ∈ [Task.spawn cluster token projectTar (.working worker next)]) :
      slotDir worker cluster.slot = dir := by
    rw [List.mem_singleton.mp same, Task.staged] at staged
    split at staged
    · exact Option.some.inj staged
    · cases staged
  by_cases panicked : SpawnTask.panics answer phase = true
  · rw [SpawnTask.work_panics panicked] at member
    cases member
  obtain ⟨after, later, left, moved, awaited⟩ :=
    SpawnTask.work_awaited deps shared cluster token projectTar worker (Bool.eq_false_of_not_eq_true panicked)
  rw [moved] at member
  cases awaited with
  | stages works => exact ⟨goesOn member, .inr ⟨rfl, works⟩⟩
  | setsMode | validates | extracts | misses | extracted => exact ⟨goesOn member, .inl rfl⟩
  | unprepared | unadopted | unspawned => rcases List.mem_pair.mp member with rfl | rfl <;> cases staged
  | prepared => cases projectTar <;> exact (only member rfl).elim
  | unstages removed onward => rcases onward with rfl | ⟨error, rfl⟩ <;> exact (only member rfl).elim
  | fails | assigns | prepares | unextracted | adopts | creates | spawned => exact (only member rfl).elim

/-- A spawn at work, or one that is cancelled there. -/
theorem working_step {cluster : Cluster} {token : CancellationToken} {projectTar : Option (List UInt8)}
    {worker : WorkerUser} {phase : Phase} :
    SpawnTask.step deps answer shared cluster token projectTar (.working worker phase) =
      if shared.registry.isCancelled token then
        ((TeardownTask.enter shared cluster .unregister).1,
          (TeardownTask.enter shared cluster .unregister).2 ++ SpawnTask.abandoned cluster worker phase)
      else SpawnTask.work deps answer shared cluster token projectTar worker phase := rfl

/-- Only a cancelled spawn leaves something at work on its staging directory, and nothing else. -/
theorem step_disturbs {fresh : Task} (member : fresh ∈ (task.step deps answer shared).2)
    (disturbs : fresh.disturbs dir = true) :
    task.disturbs dir = true ∨
      task.seat = some dir ∧ ∀ other ∈ (task.step deps answer shared).2, other.staged = none := by
  cases task with
  | spawn cluster token projectTar stage =>
    right
    cases stage with
    | working worker phase =>
      simp only [Task.step, working_step] at member ⊢
      split at member
      · next cancelled =>
        rw [if_pos cancelled]
        rcases List.mem_append.mp member with entered | left
        · rw [Task.disturbs_of_idle (enter_idle entered)] at disturbs
          cases disturbs
        · obtain ⟨seated, rfl⟩ := abandoned_disturbs left disturbs
          refine ⟨by rw [Task.seat, if_pos seated], fun other inside => ?_⟩
          rcases List.mem_append.mp inside with entered | gone
          · exact Task.staged_of_idle (enter_idle entered)
          · have left : other.staged = none ∧ other.StagesOwn deps shared := abandoned_staged gone
            exact left.1
      · rw [work_calm fresh member] at disturbs
        cases disturbs
    | start | checking | persisting =>
      have idle := (Task.successor member).idle (by simp) (by simp)
      rw [Task.disturbs_of_idle idle] at disturbs
      cases disturbs
  | staging place upload work =>
    left
    obtain ⟨effect, rest, rfl, rfl⟩ := (Task.successor member).of_staging
    cases rest with
    | nil => cases disturbs
    | cons => exact disturbs
  | create | launch | unregister | teardown | requestDelete | followDelete | sweep | reap | dispatch | late
  | reconcile | reconcileRows | reconcileLost =>
    have idle := (Task.successor member).idle (by simp) (by simp)
    rw [Task.disturbs_of_idle idle] at disturbs
    cases disturbs

/-- Who has a staging directory after a step had it before, or has created it. -/
theorem step_staged {fresh : Task} (member : fresh ∈ (task.step deps answer shared).2)
    (staged : fresh.staged = some dir) :
    ∃ cluster token projectTar worker phase, task = .spawn cluster token projectTar (.working worker phase) ∧
      slotDir worker cluster.slot = dir ∧ shared.registry.isCancelled token = false ∧
      (phase.staged = true ∨ phase = .creatingStaging ∧ answer.fs = none) := by
  cases task with
  | spawn cluster token projectTar stage =>
    cases stage with
    | working worker phase =>
      simp only [Task.step, working_step] at member
      split at member
      · rcases List.mem_append.mp member with entered | left
        · rw [Task.staged_of_idle (enter_idle entered)] at staged
          cases staged
        · have gone : fresh.staged = none ∧ fresh.StagesOwn deps shared := abandoned_staged left
          rw [gone.1] at staged
          cases staged
      · next going =>
        obtain ⟨same, had⟩ := work_staged member staged
        exact ⟨cluster, token, projectTar, worker, phase, rfl, same, Bool.not_eq_true _ ▸ going, had⟩
    | start | checking | persisting =>
      have idle := (Task.successor member).idle (by simp) (by simp)
      rw [Task.staged_of_idle idle] at staged
      cases staged
  | staging place upload work =>
    obtain ⟨effect, rest, rfl, rfl⟩ := (Task.successor member).of_staging
    cases staged
  | create | launch | unregister | teardown | requestDelete | followDelete | sweep | reap | dispatch | late
  | reconcile | reconcileRows | reconcileLost =>
    have idle := (Task.successor member).idle (by simp) (by simp)
    rw [Task.staged_of_idle idle] at staged
    cases staged

/-! ## Runs -/

theorem alone_of_stagesAlone {system : System} {index : Nat} {answer : Answer} {cluster : Cluster}
    {token : CancellationToken} {projectTar : Option (List UInt8)} {worker : WorkerUser}
    (permitted : stagesAlone system (.step index answer) = true)
    (found : system.tasks[index]? = some (.spawn cluster token projectTar (.working worker .creatingStaging)))
    (going : system.shared.registry.isCancelled token = false) (works : answer.fs = none) :
    (system.shared.staging (slotDir worker cluster.slot)).getD [] = [] ∧
      ∀ other ∈ system.tasks, other.disturbs (slotDir worker cluster.slot) = false := by
  simpa [stagesAlone, found, going, works] using permitted

/-- Every staging directory in use belongs to one spawn, which knows what it holds. -/
structure System.StagesOwn (system : System) : Prop where
  placed : system.Placed
  stages : ∀ task ∈ system.tasks, task.StagesOwn system.deps system.shared
  alone : ∀ task ∈ system.tasks, ∀ dir, task.staged = some dir → ∀ other ∈ system.tasks, other.disturbs dir = false

variable {system : System}

/-- A step of one task keeps the trees that others have extracted. -/
theorem System.StagesOwn.keeps (own : system.StagesOwn) {index : Nat} {other : Task}
    (found : system.tasks[index]? = some task) (member : other ∈ system.tasks.eraseIdx index)
    {content : List Staged} (staged : other.staged = some dir)
    (stored : system.shared.staging dir = some content) :
    (task.step system.deps answer system.shared).1.staging dir = some content := by
  by_cases touches : task.touches = some dir
  · cases task with
    | spawn cluster token projectTar stage =>
      -- two spawns would have one account and one slot
      have mine : (Task.spawn cluster token projectTar stage).seat = some dir := by
        cases stage with
        | start | checking | persisting => cases touches
        | working worker phase =>
          cases phase with
          | settingWorker | preparing | settingModes | adopting | spawning => cases touches
          | creatingStaging | extracting | unstaging => exact touches
      exact (own.placed.one_seat found member mine (Task.seat_of_staged staged)).elim
    | staging place upload work =>
      cases touches
      have calm := own.alone other (List.mem_of_mem_eraseIdx member) dir staged _ (List.mem_of_getElem? found)
      cases work with
      | create =>
        simp only [Task.step, StagingWork.step]
        split
        · exact stored
        · simp [Staging.createDirAll, stored]
      | remove => simp [Task.disturbs] at calm
      | extract remaining =>
        cases remaining with
        | nil => exact stored
        | cons => simp [Task.disturbs] at calm
    | create | launch | unregister | teardown | requestDelete | followDelete | sweep | reap | dispatch | late
    | reconcile | reconcileRows | reconcileLost => cases touches
  · exact (step_staging task touches).trans stored

/-- What the acting task becomes knows the tree it has extracted so far. -/
theorem System.StagesOwn.fresh (own : system.StagesOwn) {index : Nat}
    (permitted : stagesAlone system (.step index answer) = true) (found : system.tasks[index]? = some task) :
    ∀ fresh ∈ (task.step system.deps answer system.shared).2,
      fresh.StagesOwn system.deps (task.step system.deps answer system.shared).1 := by
  have mine := own.stages task (List.mem_of_getElem? found)
  intro fresh member
  cases task with
  | spawn cluster token projectTar stage =>
    cases stage with
    | working worker phase =>
      simp only [Task.step, working_step] at member ⊢
      split at member
      · rcases List.mem_append.mp member with entered | left
        · exact .of_idle (enter_idle entered)
        · exact (abandoned_staged left).2
      · next going =>
        rw [if_neg going]
        refine work_stages mine (fun creates works => ?_) fresh member
        subst creates
        exact (alone_of_stagesAlone permitted found (Bool.not_eq_true _ ▸ going) works).1
    | start | checking | persisting => exact .of_idle ((Task.successor member).idle (by simp) (by simp))
  | staging place upload work =>
    obtain ⟨effect, rest, rfl, rfl⟩ := (Task.successor member).of_staging
    trivial
  | create | launch | unregister | teardown | requestDelete | followDelete | sweep | reap | dispatch | late
  | reconcile | reconcileRows | reconcileLost => exact .of_idle ((Task.successor member).idle (by simp) (by simp))

/-- Nothing comes to be at work where a spawn has its staging directory. -/
theorem System.StagesOwn.calm (own : system.StagesOwn) {index : Nat}
    (permitted : stagesAlone system (.step index answer) = true) (found : system.tasks[index]? = some task)
    {user other : Task} (isUser : user ∈ (system.advance index answer task).tasks) (staged : user.staged = some dir)
    (isOther : other ∈ (system.advance index answer task).tasks) : other.disturbs dir = false := by
  have inside := List.mem_of_getElem? found
  by_contra disturbed
  have disturbs : other.disturbs dir = true := (Bool.not_eq_false _).mp disturbed
  -- before the step, the user had the directory or was about to create it, and nothing was at work there
  have before : (∀ old ∈ system.tasks, old.disturbs dir = false) ∧
      (user ∈ (task.step system.deps answer system.shared).2 ∨
        user ∈ system.tasks.eraseIdx index) := by
    rcases List.mem_append.mp isUser with old | new
    · exact ⟨own.alone user (List.mem_of_mem_eraseIdx old) dir staged, .inr old⟩
    · refine ⟨?_, .inl new⟩
      obtain ⟨cluster, token, projectTar, worker, phase, rfl, rfl, going, had⟩ := step_staged new staged
      rcases had with had | ⟨rfl, works⟩
      · exact own.alone _ inside _ (if_pos had)
      · exact (alone_of_stagesAlone permitted found going works).2
  obtain ⟨quiet, whose⟩ := before
  rcases List.mem_append.mp isOther with old | new
  · rw [quiet other (List.mem_of_mem_eraseIdx old)] at disturbs
    cases disturbs
  · rcases step_disturbs new disturbs with again | ⟨seated, none_staged⟩
    · rw [quiet task inside] at again
      cases again
    · rcases whose with fresh | old
      · rw [none_staged user fresh] at staged
        cases staged
      · exact own.placed.one_seat found old seated (Task.seat_of_staged staged)

theorem System.StagesOwn.next {later : System} {label : Label} (own : system.StagesOwn)
    (permitted : stagesAlone system label = true) (moved : system.next label = some later) : later.StagesOwn := by
  have placed := own.placed.next moved
  cases label with
  | request request =>
    obtain ⟨-, rfl⟩ := next_request moved
    have idle : request.task.idle = true := by cases request <;> rfl
    refine ⟨placed, fun task member => ?_, fun task member dir staged other isOther => ?_⟩
    · rcases List.mem_append.mp member with old | new
      · exact own.stages task old
      · rw [List.mem_singleton.mp new]
        exact .of_idle idle
    · rcases List.mem_append.mp member with old | new
      · rcases List.mem_append.mp isOther with before | added
        · exact own.alone task old dir staged other before
        · rw [List.mem_singleton.mp added]
          exact Task.disturbs_of_idle idle
      · rw [List.mem_singleton.mp new, Task.staged_of_idle idle] at staged
        cases staged
  | world change =>
    obtain ⟨world, -, rfl⟩ := next_world moved
    exact ⟨placed, fun task member => (own.stages task member).congr fun _ _ _ stored => stored, own.alone⟩
  | restart deps =>
    -- the closures of a process die with it
    obtain ⟨-, rfl⟩ := next_restart moved
    refine ⟨placed, fun task member => ?_, fun task member dir staged => ?_⟩
    · rw [List.mem_singleton.mp member]
      trivial
    · rw [List.mem_singleton.mp member] at staged
      cases staged
  | step index answer =>
    obtain ⟨task, found, -, rfl⟩ := next_step moved
    refine ⟨placed, fun other member => ?_, fun user isUser dir staged other isOther =>
      own.calm permitted found isUser staged isOther⟩
    rcases List.mem_append.mp member with old | new
    · exact (own.stages other (List.mem_of_mem_eraseIdx old)).congr fun _ _ staged stored =>
        own.keeps found old staged stored
    · exact own.fresh permitted found other new

def Task.Carries (upload : ClusterId → Option (List UInt8)) : Task → Prop
  | .launch cluster projectTar | .spawn cluster _ projectTar _ => upload cluster.id = projectTar
  | _ => True

variable {upload : ClusterId → Option (List UInt8)}

theorem abandoned_carries {cluster : Cluster} {worker : WorkerUser} {phase : Phase} {fresh : Task}
    (member : fresh ∈ SpawnTask.abandoned cluster worker phase) : fresh.Carries upload := by
  cases phase with
  | settingModes => cases member
  | settingWorker | preparing | creatingStaging | extracting | adopting | unstaging | spawning =>
    rw [List.mem_singleton.mp member]
    trivial

/-- The handler, the launch and the spawn hand the same bytes on. -/
theorem Successor.carries {fresh : Task} (successor : Successor deps answer shared task fresh)
    (carries : task.Carries upload)
    (inserts : ∀ owner service ttl projectTar, task = .create owner service ttl projectTar →
      upload answer.id = projectTar) : fresh.Carries upload := by
  cases successor with
  | launches created =>
    obtain ⟨slot, -, rfl⟩ := ClusterService.create_ok (Prod.ext created rfl)
    exact inserts _ _ _ _ rfl
  | registers | begins | declines | works | checks => exact carries
  | abandons dropped => exact abandoned_carries dropped
  | turns | ends | tears | removesLate | wipesLate | unregisters | resumes | reads | passesOver | answers | collects
  | follows | gathers | gathersNothing | gathered | spares | expires | dispatches | starts | extracts | lists | orphans
  | finishes | loses | leaves | notes => trivial

/-- An extraction, of a spawn or of one that is gone, that has still to write into the directory. -/
def Task.extracts (dir : SlotDir) : Task → Bool
  | .spawn cluster _ _ (.working worker (.extracting (_ :: _) _)) => slotDir worker cluster.slot = dir
  | .staging place _ (.extract (_ :: _)) => place = dir
  | _ => false

section Upload

open TarValidation

example : headerSum "a.txt" "00000000004" = 0o5420 := by decide +kernel

end Upload

/-- The cluster that is adopting a tree, and where it is staged. -/
def Task.adopting : Task → Option (ClusterId × SlotDir)
  | .spawn cluster _ _ (.working worker .adopting) => some (cluster.id, slotDir worker cluster.slot)
  | _ => none

end AppSalmon
