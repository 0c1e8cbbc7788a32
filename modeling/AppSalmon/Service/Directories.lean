import AppSalmon.Service.Placement

/-! Where the containers, the networks and the files of a cluster are.

While its row is there they are in the directory of the row. A teardown all of
whose calls succeed leaves none; a call that fails makes the cluster a stray one.
-/

set_option autoImplicit false

namespace AppSalmon

open KeyedTable TaskPool
open Repository (Rows stateOf)
open Duty (Valid Apart)
open Site (Sound)

/-- A container of the cluster mounts the directory, or a file was written there for it. -/
def World.Has (world : World) (id : ClusterId) (dir : SlotDir) : Prop :=
  (id, dir) ∈ world.resources ∨ (dir, id) ∈ world.contents

/-- For whom, and where, the next step of a task may make or write something. -/
def Task.builds : Task → Option (ClusterId × SlotDir)
  | .spawn cluster _ _ (.working worker (.preparing _)) | .spawn cluster _ _ (.working worker .adopting)
  | .spawn cluster _ _ (.working worker .spawning) => some (cluster.id, slotDir worker cluster.slot)
  | .late (.writes dir id) | .late (.creates id dir) => some (id, dir)
  | _ => none

/-- Built by a spawn that is under way, or by a call that one has given up. -/
structure Task.Built (task : Task) (after : Shared) (id : ClusterId) (dir : SlotDir) : Prop where
  there : task.builds = some (id, dir)
  late : id ∈ after.stray ∨ ∃ believed, .spawn id believed ∈ task.duties

/-- What a step of a task may do to the world. -/
structure Task.Spreads (task : Task) (before after : Shared) : Prop where
  resources : ∀ id dir, (id, dir) ∈ after.world.resources →
    (id, dir) ∈ before.world.resources ∨ task.Built after id dir
  contents : ∀ id dir, (dir, id) ∈ after.world.contents →
    (dir, id) ∈ before.world.contents ∨ task.Built after id dir
  stray : ∀ id ∈ before.stray, id ∈ after.stray

variable {deps : TaskDeps} {answer : Answer} {shared after : Shared} {task : Task} {left : List Duty}

theorem Task.Spreads.has (spreads : task.Spreads shared after) {id : ClusterId} {dir : SlotDir}
    (has : after.world.Has id dir) : shared.world.Has id dir ∨ task.Built after id dir := by
  rcases has with resource | content
  · exact (spreads.resources id dir resource).imp .inl fun built => built
  · exact (spreads.contents id dir content).imp .inr fun built => built

theorem Task.Spreads.same (world : after.world = shared.world) (stray : after.stray = shared.stray) :
    task.Spreads shared after := by
  constructor
  · intro id dir member
    exact .inl (world ▸ member)
  · intro id dir member
    exact .inl (world ▸ member)
  · intro id member
    exact stray ▸ member

theorem Task.Spreads.write {id : ClusterId} {dir : SlotDir} (built : task.Built after id dir)
    (world : after.world = shared.world.write dir id) (stray : ∀ id ∈ shared.stray, id ∈ after.stray) :
    task.Spreads shared after := by
  refine ⟨fun other place member => ?_, fun other place member => ?_, stray⟩
  · rw [world] at member
    exact .inl member
  · rw [world, World.mem_write] at member
    rcases member with fresh | old
    · cases fresh
      exact .inr built
    · exact .inl old

theorem Task.Spreads.create {id : ClusterId} {dir : SlotDir} (built : task.Built after id dir)
    (world : after.world = shared.world.create id dir) (stray : ∀ id ∈ shared.stray, id ∈ after.stray) :
    task.Spreads shared after := by
  refine ⟨fun other place member => ?_, fun other place member => ?_, stray⟩
  · rw [world, World.mem_create] at member
    rcases member with fresh | old
    · cases fresh
      exact .inr built
    · exact .inl old
  · rw [world] at member
    exact .inl member

/-- Nothing is made or written, and no stray cluster is forgotten. -/
theorem Task.Spreads.shrink (resources : ∀ entry ∈ after.world.resources, entry ∈ shared.world.resources)
    (contents : ∀ entry ∈ after.world.contents, entry ∈ shared.world.contents)
    (stray : ∀ id ∈ shared.stray, id ∈ after.stray) : task.Spreads shared after :=
  ⟨fun _ _ member => .inl (resources _ member), fun _ _ member => .inl (contents _ member), stray⟩

theorem work_spreads (cluster : Cluster) (token : CancellationToken) (projectTar : Option (List UInt8))
    (worker : WorkerUser) (phase : Phase) :
    (Task.spawn cluster token projectTar (.working worker phase)).Spreads shared
      (SpawnTask.work deps answer shared cluster token projectTar worker phase).1 := by
  by_cases panicked : SpawnTask.panics answer phase = true
  · rw [SpawnTask.work_panics panicked]
    exact .same rfl rfl
  obtain ⟨after, later, left, moved, awaited⟩ :=
    SpawnTask.work_awaited deps shared cluster token projectTar worker (Bool.eq_false_of_not_eq_true panicked)
  rw [moved]
  cases awaited with
  | prepares | prepared | adopts => exact .write ⟨rfl, .inr ⟨_, List.mem_cons_self⟩⟩ rfl fun _ known => known
  | creates => exact .create ⟨rfl, .inr ⟨_, List.mem_cons_self⟩⟩ rfl fun _ known => known
  | fails | assigns | unprepared | stages | setsMode | validates | extracts | misses | extracted | unextracted
  | unadopted | unstages | spawned | unspawned => exact .same rfl rfl

theorem persist_world (shared : Shared) (fault : Option RepositoryError) (id : ClusterId) (current : ClusterState) (event : ClusterEvent) :
    (SpawnTask.persist shared fault id current event).world = shared.world ∧
      (SpawnTask.persist shared fault id current event).stray = shared.stray := by
  unfold SpawnTask.persist
  split
  · split <;> exact ⟨rfl, rfl⟩
  · exact ⟨rfl, rfl⟩

theorem spawn_spreads (cluster : Cluster) (token : CancellationToken) (projectTar : Option (List UInt8))
    (stage : SpawnStage) :
    (Task.spawn cluster token projectTar stage).Spreads shared
      (SpawnTask.step deps answer shared cluster token projectTar stage).1 := by
  cases stage with
  | start =>
    simp only [SpawnTask.step]
    split
    · exact .same rfl rfl
    · split
      · exact .same rfl rfl
      · split <;> exact .same rfl rfl
  | working worker phase =>
    simp only [SpawnTask.step]
    split
    · exact .same rfl rfl
    · exact work_spreads cluster token projectTar worker phase
  | checking result =>
    simp only [SpawnTask.step]
    split
    · exact .same rfl rfl
    · exact .same rfl rfl
    · split <;> exact .same rfl rfl
  | persisting current result =>
    simp only [SpawnTask.step]
    split
    · exact .same rfl rfl
    · next event made =>
      have kept := persist_world shared answer.repository cluster.id current event
      exact .same kept.1 kept.2

theorem teardown_spreads (cluster : Cluster) (stage : TeardownStage) (next : After) :
    (Task.teardown cluster stage next).Spreads shared
      (TeardownTask.step deps answer shared cluster next stage).1 := by
  cases stage with
  | backend =>
    simp only [TeardownTask.step]
    split
    · exact .same rfl rfl
    · split
      · exact .shrink (fun _ member => member) (fun _ member => member) fun _ known => List.mem_cons_of_mem _ known
      · exact .shrink (fun _ member => (World.mem_teardown.mp member).1) (fun _ member => member) fun _ known => known
  | wipe =>
    simp only [TeardownTask.step]
    split
    · exact .same rfl rfl
    · split
      · exact .shrink (fun _ member => member) (fun _ member => member) fun _ known => List.mem_cons_of_mem _ known
      · exact .shrink (fun _ member => member) (fun _ member => (World.mem_wipe.mp member).1) fun _ known => known
  | delete =>
    simp only [TeardownTask.step]
    split <;> exact .same rfl rfl

theorem late_spreads (effect : LateEffect) :
    (Task.late effect).Spreads shared (if answer.lands then effect.apply shared else shared) := by
  cases answer.lands with
  | false => exact .same rfl rfl
  | true =>
    rw [if_pos rfl]
    cases effect with
    | setWorker id worker =>
      simp only [LateEffect.apply]
      split <;> exact .same rfl rfl
    | writes dir id => exact .write ⟨rfl, .inl List.mem_cons_self⟩ rfl fun _ known => List.mem_cons_of_mem _ known
    | creates id dir => exact .create ⟨rfl, .inl List.mem_cons_self⟩ rfl fun _ known => List.mem_cons_of_mem _ known
    | wipes cluster worker =>
      exact .shrink (fun _ member => member) (fun _ member => (World.mem_wipe.mp member).1) fun _ known => known
    | removes id =>
      exact .shrink (fun _ member => (World.mem_teardown.mp member).1) (fun _ member => member) fun _ known => known

theorem step_spreads (task : Task) : task.Spreads shared (task.step deps answer shared).1 := by
  cases task with
  | spawn cluster token projectTar stage => exact spawn_spreads cluster token projectTar stage
  | teardown cluster stage next => exact teardown_spreads cluster stage next
  | late effect => exact late_spreads effect
  | create owner service ttl projectTar =>
    simp only [Task.step, Handlers.create]
    split <;> exact .same rfl rfl
  | launch cluster projectTar =>
    simp only [Task.step, Handlers.launchSpawn]
    split <;> exact .same rfl rfl
  | unregister id => exact .same rfl rfl
  | requestDelete id owner reason caller read =>
    cases read with
    | none =>
      simp only [Task.step, ClusterService.requestDelete]
      split <;> exact .same rfl rfl
    | some read => exact .same rfl rfl
  | followDelete cluster outcome => cases outcome <;> exact .same rfl rfl
  | sweep =>
    simp only [Task.step, TtlReaper.sweep]
    split <;> exact .same rfl rfl
  | reap now todo results =>
    simp only [Task.step, TtlReaper.reap]
    split
    · exact .same rfl rfl
    · split <;> exact .same rfl rfl
  | dispatch results =>
    cases results with
    | nil => exact .same rfl rfl
    | cons result rest =>
      obtain ⟨cluster, outcome⟩ := result
      cases outcome <;> exact .same rfl rfl
  | staging dir upload work =>
    cases work with
    | create =>
      simp only [Task.step, StagingWork.step]
      split <;> exact .same rfl rfl
    | remove =>
      simp only [Task.step, StagingWork.step]
      split <;> exact .same rfl rfl
    | extract remaining =>
      cases remaining with
      | nil => exact .same rfl rfl
      | cons effect rest =>
        simp only [Task.step, StagingWork.step]
        split <;> exact .same rfl rfl
  | reconcile =>
    simp only [Task.step, Reconciliation.start]
    split <;> exact .same rfl rfl
  | reconcileRows todo =>
    cases todo with
    | nil => exact .same rfl rfl
    | cons cluster todo =>
      simp only [Task.step, Reconciliation.rows]
      split
      · split <;> exact .same rfl rfl
      · split <;> exact .same rfl rfl
      · exact .same rfl rfl
      · exact .same rfl rfl
  | reconcileLost cluster todo =>
    simp only [Task.step, Reconciliation.lost]
    split <;> exact .same rfl rfl

/-! ## Everything is in its place -/

/-- What was made or written for a cluster is in the directory of its row, and if the row is gone the
cluster is a stray one. -/
structure Shared.Housed (deps : TaskDeps) (shared : Shared) : Prop where
  seats : ∀ id dir, shared.world.Has id dir → (Site.seat id dir).Sound deps shared
  gone : ∀ id dir, shared.world.Has id dir → shared.row? id = none → id ∈ shared.stray

/-- How far a teardown has come, unless its cluster is a stray one. -/
structure Shared.Razed (deps : TaskDeps) (shared : Shared) (cluster : Cluster) (stage : TeardownStage) : Prop where
  houses : ∀ dir, shared.world.Has cluster.id dir → cluster.id ∈ shared.stray ∨ deps.Houses cluster dir
  resources : stage ≠ .backend → ∀ dir, (cluster.id, dir) ∈ shared.world.resources → cluster.id ∈ shared.stray
  contents : stage = .delete → ∀ dir, (dir, cluster.id) ∈ shared.world.contents → cluster.id ∈ shared.stray

def Task.Razes (deps : TaskDeps) (shared : Shared) : Task → Prop
  | .teardown cluster stage _ => shared.Razed deps cluster stage
  | _ => True

theorem Task.Placed.built (placed : task.Placed deps shared) {id : ClusterId} {dir : SlotDir}
    (built : task.builds = some (id, dir)) : (Site.seat id dir).Sound deps shared := by
  cases task with
  | spawn cluster token projectTar stage =>
    cases stage with
    | start | checking | persisting => cases built
    | working worker phase =>
      cases phase with
      | preparing | adopting | spawning =>
        cases built
        exact placed _ (by simp [sites, SpawnStage.sites])
      | settingWorker | creatingStaging | settingModes | extracting | unstaging => cases built
  | late effect =>
    cases effect with
    | writes | creates =>
      cases built
      exact placed _ (by simp [sites, LateEffect.sites])
    | setWorker | wipes | removes => cases built
  | create | launch | unregister | teardown | requestDelete | followDelete | sweep | reap | dispatch | staging
  | reconcile | reconcileRows | reconcileLost => cases built

/-- Only the last step of a teardown takes a row away. -/
theorem Effect.removed_row (effect : Effect deps answer shared after task left) {id : ClusterId} {row : Cluster}
    (here : shared.row? id = some row) (missing : after.row? id = none) :
    ∃ cluster next, task = .teardown cluster .delete next ∧ cluster.id = id := by
  have same (rows : after.rows = shared.rows) : False := by
    rw [Shared.row?, rows, ← Shared.row?, here] at missing
    cases missing
  have written {other : ClusterId} {change : Cluster → Cluster}
      (done : Repository.modify shared.rows other change = .ok after.rows) (named : ∀ row, (change row).id = row.id) :
      False := by
    rw [Shared.row?, Repository.getAny_modify named done] at missing
    split at missing
    · next asked =>
      rw [← asked, ← Shared.row?, here] at missing
      cases missing
    · rw [← Shared.row?, here] at missing
      cases missing
  cases effect with
  | removed rows log =>
    rw [Shared.row?, rows, Repository.getAny_delete] at missing
    split at missing
    · next asked => exact ⟨_, _, rfl, asked.symm⟩
    · rw [← Shared.row?, here] at missing
      cases missing
  | quiet rows log =>
    rcases rows with rows | ⟨other, worker, -, done⟩
    · exact (same rows).elim
    · exact (written done fun _ => rfl).elim
  | inserted rows log =>
    rw [Shared.row?, Repository.getAny_insert rows] at missing
    split at missing
    · cases missing
    · rw [← Shared.row?, here] at missing
      cases missing
  | persisted rows | marked orphan rows | failed rows => exact (written rows fun _ => rfl).elim
  | condemned done rows => exact (written rows fun _ => rfl).elim
  | turned rows log | checked rows log | read rows log | answered other rows log | followed rows log
  | dispatched rows log | listed rows log | resumed doomed rows log | missed ready rows log => exact (same rows).elim

/-- One step keeps everything in its place. -/
theorem Shared.Housed.step (housed : shared.Housed deps) (table : shared.TableSound)
    (drawn : task.draws answer shared = true) (placed : task.Placed deps shared)
    (own : ∀ duty ∈ task.duties, Valid shared duty) (razes : task.Razes deps shared) :
    (task.step deps answer shared).1.Housed deps := by
  have effect : Effect deps answer shared (task.step deps answer shared).1 task _ := step_acts table.ids task
  have spreads : task.Spreads shared (task.step deps answer shared).1 := step_spreads task
  constructor
  · intro id dir has
    rcases spreads.has has with old | built
    · exact (housed.seats id dir old).step effect drawn placed fun guards => by cases guards
    · exact (placed.built built.there).step effect drawn placed fun guards => by cases guards
  · intro id dir has missing
    rcases spreads.has has with old | built
    · apply spreads.stray
      cases here : shared.row? id with
      | none => exact housed.gone id dir old here
      | some row =>
        obtain ⟨cluster, next, rfl, rfl⟩ := effect.removed_row here missing
        rcases old with resource | content
        · exact razes.resources (by simp) dir resource
        · exact razes.contents rfl dir content
    · rcases built.late with landed | ⟨believed, owed⟩
      · exact landed
      · -- a spawn that is under way still has its row
        obtain ⟨-, state, there, -⟩ := (own _ owed).sound
        obtain ⟨row, here, -⟩ := Repository.stateOf_eq_some.mp there
        obtain ⟨cluster, next, rfl, -⟩ := effect.removed_row here missing
        cases built.there

/-! ## Teardowns -/

theorem Shared.Razed.same {cluster : Cluster} {stage : TeardownStage} (razed : shared.Razed deps cluster stage)
    (world : after.world = shared.world) (stray : after.stray = shared.stray) : after.Razed deps cluster stage := by
  obtain ⟨houses, resources, contents⟩ := razed
  constructor
  · rwa [world, stray]
  · rwa [world, stray]
  · rwa [world, stray]

/-- A teardown that begins with a copy made after the account was written. -/
theorem Shared.Housed.razed (housed : shared.Housed deps) {cluster : Cluster}
    (copy : (Site.copy cluster).Sound deps shared)
    (account : ∀ row, shared.row? cluster.id = some row → row.worker = none ∨ row.worker = cluster.worker) :
    shared.Razed deps cluster .backend := by
  refine ⟨fun dir has => ?_, fun late => absurd rfl late, fun late => by cases late⟩
  cases here : shared.row? cluster.id with
  | none => exact .inl (housed.gone cluster.id dir has here)
  | some row =>
    have houses : deps.Houses row dir := (housed.seats cluster.id dir has).fits row here
    rcases account row here with none_yet | same
    · have placed := houses.dir
      rw [Cluster.dir, none_yet] at placed
      cases placed
    · exact .inr (houses.alike ((copy.fits row here).symm) same.symm)

theorem Shared.Razed.others {cluster : Cluster} {stage : TeardownStage} (razed : shared.Razed deps cluster stage)
    (apart : ∀ mine ∈ task.duties, Apart mine (.teardown cluster.id)) :
    (task.step deps answer shared).1.Razed deps cluster stage := by
  have spreads : task.Spreads shared (task.step deps answer shared).1 := step_spreads task
  -- a spawn of the same cluster would have the row to itself
  have built {dir : SlotDir} (built : task.Built (task.step deps answer shared).1 cluster.id dir) :
      cluster.id ∈ (task.step deps answer shared).1.stray := by
    rcases built.late with landed | ⟨believed, owed⟩
    · exact landed
    · cases (apart _ owed).claims cluster.id rfl rfl .spawning .tearing rfl rfl
  constructor
  · intro dir has
    rcases spreads.has has with old | fresh
    · exact (razed.houses dir old).imp_left (spreads.stray _)
    · exact .inl (built fresh)
  · intro late dir resource
    rcases spreads.resources _ dir resource with old | fresh
    · exact spreads.stray _ (razed.resources late dir old)
    · exact built fresh
  · intro late dir content
    rcases spreads.contents _ dir content with old | fresh
    · exact spreads.stray _ (razed.contents late dir old)
    · exact built fresh

/-- Each stage does its part, or the cluster is a stray one from then on. -/
theorem teardown_razed {cluster : Cluster} {stage : TeardownStage} {next : After}
    (razed : shared.Razed deps cluster stage) :
    ∀ fresh ∈ (TeardownTask.step deps answer shared cluster next stage).2,
      fresh.Razes deps (TeardownTask.step deps answer shared cluster next stage).1 := by
  cases stage with
  | backend =>
    simp only [TeardownTask.step]
    split
    · next unregistered =>
      intro fresh member
      rw [List.mem_singleton.mp member]
      refine ⟨razed.houses, fun _ dir resource => ?_, fun late => by cases late⟩
      rcases razed.houses dir (.inl resource) with stray | houses
      · exact stray
      · have runs := houses.runs
        rw [unregistered] at runs
        cases runs
    · split
      · intro fresh member
        rcases List.mem_cons.mp member with rfl | gone
        · exact ⟨fun dir has => .inl List.mem_cons_self, fun _ dir resource => List.mem_cons_self,
            fun late => by cases late⟩
        · rw [List.mem_singleton.mp gone]
          trivial
      · intro fresh member
        rw [List.mem_singleton.mp member]
        refine ⟨fun dir has => ?_, fun _ dir resource => ?_, fun late => by cases late⟩
        · apply razed.houses dir
          exact has.imp (fun resource => (World.mem_teardown.mp resource).1) fun content => content
        · exact absurd rfl (World.mem_teardown.mp resource).2
  | wipe =>
    simp only [TeardownTask.step]
    split
    · next unknown =>
      intro fresh member
      rw [List.mem_singleton.mp member]
      refine ⟨razed.houses, fun _ => razed.resources (by simp), fun _ dir content => ?_⟩
      rcases razed.houses dir (.inr content) with stray | houses
      · exact stray
      · have placed := houses.dir
        rw [Cluster.dir, unknown] at placed
        cases placed
    · next worker account =>
      split
      · intro fresh member
        rcases List.mem_cons.mp member with rfl | gone
        · exact ⟨fun dir has => .inl List.mem_cons_self, fun _ dir resource => List.mem_cons_self,
            fun _ dir content => List.mem_cons_self⟩
        · rw [List.mem_singleton.mp gone]
          trivial
      · intro fresh member
        rw [List.mem_singleton.mp member]
        refine ⟨fun dir has => ?_, fun _ => razed.resources (by simp), fun _ dir content => ?_⟩
        · apply razed.houses dir
          exact has.imp (fun resource => resource) fun content => (World.mem_wipe.mp content).1
        · -- the directory that was wiped is the one the cluster is in
          obtain ⟨kept, elsewhere⟩ := World.mem_wipe.mp content
          rcases razed.houses dir (.inr kept) with stray | houses
          · exact stray
          · have placed := houses.dir
            rw [Cluster.dir, account] at placed
            exact absurd (Option.some.inj placed).symm elsewhere
  | delete =>
    have quiet : ∀ fresh ∈ TeardownTask.After.tasks cluster.id next, fresh.Razes deps
        (TeardownTask.step deps answer shared cluster next .delete).1 := by
      intro fresh member
      cases next with
      | done => cases member
      | unregister | resume =>
        rw [List.mem_singleton.mp member]
        trivial
    intro fresh member
    apply quiet fresh
    simp only [TeardownTask.step] at member
    split at member <;> exact member

/-- A task that is no teardown razes nothing. -/
def Task.isTeardown : Task → Bool
  | .teardown .. => true
  | _ => false

theorem Task.Razes.of_other (other : task.isTeardown = false) : task.Razes deps shared := by
  cases task with
  | teardown => cases other
  | create | launch | spawn | unregister | requestDelete | followDelete | sweep | reap | dispatch | late | staging
  | reconcile | reconcileRows | reconcileLost => trivial

theorem abandoned_others {cluster : Cluster} {worker : WorkerUser} {phase : Phase} {fresh : Task}
    (member : fresh ∈ SpawnTask.abandoned cluster worker phase) : fresh.isTeardown = false := by
  cases phase with
  | settingModes => cases member
  | settingWorker | preparing | creatingStaging | extracting | adopting | unstaging | spawning =>
    rw [List.mem_singleton.mp member]
    rfl

theorem spawn_razes (housed : shared.Housed deps) {cluster : Cluster} {token : CancellationToken}
    {projectTar : Option (List UInt8)} {stage : SpawnStage}
    (placed : (Task.spawn cluster token projectTar stage).Placed deps shared) :
    ∀ fresh ∈ (SpawnTask.step deps answer shared cluster token projectTar stage).2,
      fresh.Razes deps (SpawnTask.step deps answer shared cluster token projectTar stage).1 := by
  have copy : (Site.copy cluster).Sound deps shared := placed _ List.mem_cons_self
  have tenant : (Site.tenant cluster).Sound deps shared := placed _ (by simp [Task.sites])
  have razed : shared.Razed deps cluster .backend := housed.razed copy fun row found => (tenant.fits row found).1
  have turned : ∀ fresh ∈ (TeardownTask.enter shared cluster .unregister).2,
      fresh.Razes deps (TeardownTask.enter shared cluster .unregister).1 := by
    intro fresh member
    rw [List.mem_singleton.mp member]
    exact razed.same rfl rfl
  have goesOn {after : Shared} {stage : SpawnStage} :
      ∀ fresh ∈ [Task.spawn cluster token projectTar stage], fresh.Razes deps after := by
    intro fresh member
    rw [List.mem_singleton.mp member]
    trivial
  cases stage with
  | start =>
    simp only [SpawnTask.step]
    split
    · exact turned
    · split
      · exact goesOn
      · split
        · exact goesOn
        · intro fresh member
          rw [List.mem_singleton.mp member]
          trivial
  | working worker phase =>
    simp only [SpawnTask.step]
    split
    · intro fresh member
      rcases List.mem_append.mp member with entered | gone
      · exact turned fresh entered
      · exact .of_other (abandoned_others gone)
    · by_cases panicked : SpawnTask.panics answer phase = true
      · rw [SpawnTask.work_panics panicked]
        exact List.forall_mem_nil _
      obtain ⟨stage, dropped, left, kept⟩ :=
        SpawnTask.work_leaves deps shared cluster token projectTar worker (Bool.eq_false_of_not_eq_true panicked)
      intro fresh member
      rw [left] at member
      rcases List.mem_cons.mp member with rfl | gone
      · trivial
      · rcases kept with rfl | rfl
        · cases gone
        · exact .of_other (abandoned_others gone)
  | checking result =>
    simp only [SpawnTask.step]
    split
    · exact goesOn
    · exact turned
    · split
      · exact turned
      · exact goesOn
  | persisting current result =>
    simp only [SpawnTask.step]
    split
    · exact fun _ member => (List.not_mem_nil member).elim
    · intro fresh member
      rw [List.mem_singleton.mp member]
      trivial

/-- A teardown that follows a `StartTeardown`. -/
theorem Shared.Housed.pledged (housed : shared.Housed deps) {cluster : Cluster}
    (pledged : ∀ site ∈ outcomeSites cluster .startTeardown, site.Sound deps shared) :
    shared.Razed deps cluster .backend := by
  have copy : (Site.copy cluster).Sound deps shared := pledged _ (by simp [outcomeSites])
  have snapshot : (Site.snapshot cluster).Sound deps shared := pledged _ (by simp [outcomeSites])
  exact housed.razed copy fun row found => .inr (snapshot.fits row found)

theorem reconcileRows_razes (housed : shared.Housed deps) {todo : List Cluster}
    (placed : (Task.reconcileRows todo).Placed deps shared) :
    ∀ fresh ∈ (Reconciliation.rows deps answer shared todo).2,
      fresh.Razes deps (Reconciliation.rows deps answer shared todo).1 := by
  cases todo with
  | nil => exact fun _ member => (List.not_mem_nil member).elim
  | cons cluster todo =>
    have copy : (Site.copy cluster).Sound deps shared := placed _ (by simp [Task.sites, listedSites])
    have snapshot : (Site.snapshot cluster).Sound deps shared := placed _ (by simp [Task.sites, listedSites])
    cases state : cluster.state with
    | spawning startedAt =>
      simp only [Reconciliation.rows, state]
      split
      · intro fresh member
        rw [List.mem_singleton.mp member]
        have razed : shared.Razed deps { cluster with state := .deleting answer.now .adminForced } .backend :=
          housed.razed (copy.copy_state _) fun row found => .inr (snapshot.fits row found)
        exact razed.same rfl rfl
      · intro fresh member
        rw [List.mem_singleton.mp member]
        trivial
    | ready readyAt decommissionAt connection =>
      simp only [Reconciliation.rows, state]
      split <;>
      · intro fresh member
        rw [List.mem_singleton.mp member]
        trivial
    | failed failedAt errorSummary =>
      simp only [Reconciliation.rows, state]
      intro fresh member
      rw [List.mem_singleton.mp member]
      trivial
    | deleting since reason =>
      simp only [Reconciliation.rows, state]
      intro fresh member
      rw [List.mem_singleton.mp member]
      have razed : shared.Razed deps cluster .backend :=
        housed.razed copy fun row found => .inr (snapshot.fits row found)
      exact razed.same rfl rfl

/-- Every teardown starts from where its cluster is. -/
theorem Task.Razes.step (razes : task.Razes deps shared) (housed : shared.Housed deps)
    (placed : task.Placed deps shared) :
    ∀ fresh ∈ (task.step deps answer shared).2, fresh.Razes deps (task.step deps answer shared).1 := by
  cases task with
  | spawn cluster token projectTar stage => exact spawn_razes housed placed
  | teardown cluster stage next => exact teardown_razed razes
  | reconcileRows todo => exact reconcileRows_razes housed placed
  | followDelete cluster outcome =>
    intro fresh member
    cases outcome with
    | cancelSpawn | alreadyDeleting => cases member
    | startTeardown =>
      rw [List.mem_singleton.mp member]
      exact (housed.pledged placed).same rfl rfl
  | dispatch results =>
    intro fresh member
    cases results with
    | nil => cases member
    | cons result rest =>
      obtain ⟨cluster, outcome⟩ := result
      cases outcome with
      | cancelSpawn | alreadyDeleting =>
        rw [List.mem_singleton.mp member]
        trivial
      | startTeardown =>
        rcases List.mem_append.mp member with entered | others
        · rw [List.mem_singleton.mp entered]
          have pledged := housed.pledged fun site inside => placed site (List.mem_append_left _ inside)
          exact pledged.same rfl rfl
        · rw [List.mem_singleton.mp others]
          trivial
  | create | launch | unregister | requestDelete | sweep | reap | late | staging | reconcile | reconcileLost =>
    intro fresh member
    apply Task.Razes.of_other
    cases Task.successor member <;> rfl

/-! ## Runs -/

structure System.Housed (system : System) : Prop where
  placed : system.Placed
  world : system.shared.Housed system.deps
  tasks : ∀ task ∈ system.tasks, task.Razes system.deps system.shared

/-- A container writes where it is, and what is lost is gone. -/
theorem change_has {world next : World} {change : WorldChange} (changed : world.change change = some next) :
    (∀ entry ∈ next.resources, entry ∈ world.resources) ∧
      ∀ id dir, (dir, id) ∈ next.contents → (dir, id) ∈ world.contents ∨ (id, dir) ∈ world.resources := by
  cases change with
  | containerWrites id dir =>
    simp only [World.change] at changed
    split at changed
    · next mounted =>
      cases changed
      refine ⟨fun _ member => member, fun other place member => ?_⟩
      rcases World.mem_write.mp member with fresh | old
      · cases fresh
        exact .inr mounted
      · exact .inl old
    · cases changed
  | resourceLost entry =>
    cases changed
    exact ⟨fun _ member => List.mem_of_mem_erase member, fun _ _ member => .inl member⟩
  | contentLost entry =>
    cases changed
    exact ⟨fun _ member => member, fun _ _ member => .inl (List.mem_of_mem_erase member)⟩

theorem has_of_change {world next : World} {change : WorldChange} (changed : world.change change = some next)
    {id : ClusterId} {dir : SlotDir} (has : next.Has id dir) : world.Has id dir := by
  rcases has with resource | content
  · exact .inl ((change_has changed).1 _ resource)
  · exact ((change_has changed).2 id dir content).symm.imp (fun mounted => mounted) fun old => old

theorem Shared.Razed.change {world : World} {change : WorldChange} {cluster : Cluster} {stage : TeardownStage}
    (razed : shared.Razed deps cluster stage) (changed : shared.world.change change = some world) :
    Shared.Razed deps { shared with world := world } cluster stage := by
  constructor
  · exact fun dir has => razed.houses dir (has_of_change changed has)
  · exact fun late dir resource => razed.resources late dir ((change_has changed).1 _ resource)
  · intro late dir content
    rcases (change_has changed).2 _ _ content with old | mounted
    · exact razed.contents late dir old
    · exact razed.resources (by simp [late]) dir mounted

theorem TaskDeps.Houses.backends {other : TaskDeps} {cluster : Cluster} {dir : SlotDir}
    (houses : deps.Houses cluster dir) (same : other.backends = deps.backends) : other.Houses cluster dir := by
  refine ⟨houses.dir, ?_⟩
  have runs := houses.runs
  rwa [TaskDeps.backend, ← same] at runs

theorem System.Housed.next {system after : System} {label : Label} (housed : system.Housed)
    (moved : system.next label = some after) : after.Housed := by
  have placed := housed.placed.next moved
  cases label with
  | request request =>
    obtain ⟨-, rfl⟩ := next_request moved
    refine ⟨placed, housed.world, fun task member => ?_⟩
    rcases List.mem_append.mp member with old | new
    · exact housed.tasks task old
    · rw [List.mem_singleton.mp new]
      cases request <;> trivial
  | world change =>
    obtain ⟨world, changed, rfl⟩ := next_world moved
    refine ⟨placed, ⟨fun id dir has => ?_, fun id dir has => ?_⟩, fun task member => ?_⟩
    · exact (housed.world.seats id dir (has_of_change changed has)).same rfl rfl
    · exact housed.world.gone id dir (has_of_change changed has)
    · have razes := housed.tasks task member
      cases teardown : task.isTeardown with
      | false => exact .of_other teardown
      | true =>
        cases task <;> cases teardown
        exact razes.change changed
  | restart deps =>
    obtain ⟨same, rfl⟩ := next_restart moved
    refine ⟨placed, ⟨fun id dir has => ?_, fun id dir has missing => ?_⟩, fun task member => ?_⟩
    · have seat := housed.world.seats id dir has
      exact ⟨seat.known, fun row found => TaskDeps.Houses.backends (seat.fits row found) same.1⟩
    · have gone : system.shared.row? id = none := missing
      exact List.mem_filter.mpr ⟨housed.world.gone id dir has gone, by rw [gone]; rfl⟩
    · rw [List.mem_singleton.mp member]
      trivial
  | step index answer =>
    obtain ⟨task, found, draws, effect, rfl⟩ := housed.placed.owned.effect moved
    have inside := List.mem_of_getElem? found
    have mine := housed.placed.tasks task inside
    have valid : ∀ duty ∈ task.duties, Valid system.shared duty := (housed.placed.owned.own found).1
    refine ⟨placed, housed.world.step housed.placed.owned.shared draws mine valid (housed.tasks task inside),
      fun other member => ?_⟩
    rcases List.mem_append.mp member with old | new
    · have theirs := housed.tasks other (List.mem_of_mem_eraseIdx old)
      cases teardown : other.isTeardown with
      | false => exact .of_other teardown
      | true =>
        cases other <;> cases teardown
        exact theirs.others fun duty isMine => housed.placed.owned.apart found old duty isMine _ List.mem_cons_self
    · exact (housed.tasks task inside).step housed.world mine other new

theorem boot_housed (deps : TaskDeps) : (System.boot deps .empty).Housed := by
  refine ⟨boot_placed deps empty_tableSound, ⟨?_, ?_⟩, fun task member => ?_⟩
  · exact fun _ _ has => by rcases has with resource | content <;> contradiction
  · exact fun _ _ has => by rcases has with resource | content <;> contradiction
  · rw [List.mem_singleton.mp member]
    trivial

theorem housed_of_run {deps : TaskDeps} {finish : System}
    (run : Run System.next (fun _ _ => True) (.boot deps .empty) finish) : finish.Housed :=
  run.invariant (boot_housed deps) fun _ _ _ housed _ moved => housed.next moved

end AppSalmon
