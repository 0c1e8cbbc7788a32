import AppSalmon.Service.NoStuckRow
import AppSalmon.Service.Successors

/-! The row of a spawn that is still under way.

Nobody settles or removes it but the spawn itself: neither while `do_spawn` runs,
nor during the teardown that a cancelled spawn makes on its own. None of this
depends on calls succeeding.
-/

set_option autoImplicit false

namespace AppSalmon

open KeyedTable TaskPool
open Repository (Rows stateOf)
open Duty (Valid Apart)

/-- The cluster whose spawn this task still is, its own teardown included. -/
def Task.spawns : Task → Option ClusterId
  | .launch cluster _ | .spawn cluster _ _ _ | .teardown cluster _ .unregister => some cluster.id
  | _ => none

/-- The cluster that a spawn is tearing down on its own. -/
def Task.unwinds : Task → Option ClusterId
  | .teardown cluster _ .unregister => some cluster.id
  | _ => none

/-- A duty that may settle the row, or remove it. -/
def Duty.Grips (id : ClusterId) (duty : Duty) : Prop :=
  duty.subject = some id ∧ ∃ side, duty.side = some side ∧ side ≠ .setting

def Task.Grips (task : Task) (id : ClusterId) : Prop := ∃ duty ∈ task.duties, duty.Grips id

variable {deps : TaskDeps} {answer : Answer} {shared after : Shared} {task : Task} {left : List Duty} {id : ClusterId}

theorem Shared.Unsettled.same (unsettled : shared.Unsettled id) (rows : stateOf after.rows id = stateOf shared.rows id) :
    after.Unsettled id := by
  obtain ⟨state, here, is⟩ := unsettled
  exact ⟨state, rows.trans here, is⟩

theorem Shared.Unsettled.known (unsettled : shared.Unsettled id) (table : shared.TableSound) : id ∈ shared.born := by
  obtain ⟨state, here, -⟩ := unsettled
  exact table.stateOf_born here

theorem Duty.grips_of_side {duty : Duty} {side : Side} (about : duty.subject = some id) (has : duty.side = some side)
    (firm : side ≠ .setting) : duty.Grips id := ⟨about, side, has, firm⟩

/-- A task without a grip on the row leaves it unsettled. -/
theorem Effect.leaves (effect : Effect deps answer shared after task left) (drawn : task.draws answer shared = true)
    (table : shared.TableSound) (loose : ∀ mine ∈ task.duties, ¬ mine.Grips id) (unsettled : shared.Unsettled id) :
    after.Unsettled id := by
  have elsewhere {other : ClusterId} {state : ClusterState}
      (written : Repository.updateState shared.rows other state = .ok after.rows) (different : id ≠ other) :
      after.Unsettled id := by
    apply unsettled.same
    rw [Repository.stateOf_updateState written, if_neg different]
  cases effect with
  | quiet rows log => exact unsettled.same (stateOf_quiet rows id)
  | inserted rows log =>
    apply unsettled.same
    rw [Repository.stateOf_insert rows, if_neg]
    rintro rfl
    simp only [Task.draws, decide_eq_true_eq] at drawn
    exact drawn (unsettled.known table)
  | persisted rows =>
    apply elsewhere rows
    rintro rfl
    exact loose _ List.mem_cons_self (Duty.grips_of_side rfl rfl (by decide))
  | marked orphan rows | failed rows =>
    apply elsewhere rows
    rintro rfl
    exact loose _ List.mem_cons_self (Duty.grips_of_side rfl rfl (by decide))
  | @condemned other owner reason caller read state written rows =>
    by_cases same : id = read.id
    · refine ⟨state, ?_, (ClusterState.calm_of_isDeleting (written ▸ condemned_isDeleting ..)).1⟩
      rw [Repository.stateOf_updateState rows, if_pos same]
    · exact elsewhere rows same
  | removed rows log =>
    apply unsettled.same
    rw [rows, Repository.stateOf_delete, if_neg]
    rintro rfl
    exact loose _ List.mem_cons_self (Duty.grips_of_side rfl rfl (by decide))
  | turned rows log | checked rows log | read rows log | answered other rows log | followed rows log
  | dispatched rows log | listed rows log | resumed doomed rows log | missed ready rows log =>
    apply unsettled.same
    rw [rows]

/-- It does not get one either: what a request reads of the row says that it is not settled. -/
theorem Effect.loose (effect : Effect deps answer shared after task left) (drawn : task.draws answer shared = true)
    (table : shared.TableSound) (serving : .startup ∉ task.duties) (loose : ∀ mine ∈ task.duties, ¬ mine.Grips id)
    (unsettled : shared.Unsettled id) : ∀ fresh ∈ left, ¬ fresh.Grips id := by
  have free {duty : Duty} {other : ClusterId} {side : Side} (mine : duty ∈ task.duties)
      (about : duty.subject = some other) (has : duty.side = some side) (firm : side ≠ .setting) : other ≠ id := by
    rintro rfl
    exact loose _ mine (Duty.grips_of_side about has firm)
  have elsewhere {duty : Duty} {other : ClusterId} (about : duty.subject = some other) (different : other ≠ id) :
      ¬ duty.Grips id := by
    rintro ⟨same, -⟩
    exact different (Option.some.inj (about.symm.trans same))
  have request : ¬ Duty.request.Grips id := by
    rintro ⟨about, -⟩
    cases about
  cases effect with
  | quiet rows log fewer => exact fun fresh member => loose fresh (fewer.subset member)
  | inserted rows log =>
    intro fresh member
    rw [List.mem_singleton.mp member]
    apply elsewhere rfl
    rintro rfl
    simp only [Task.draws, decide_eq_true_eq] at drawn
    exact drawn (unsettled.known table)
  | turned rows log fewer =>
    intro fresh member
    rcases List.mem_cons.mp member with rfl | later
    · exact elsewhere rfl (free List.mem_cons_self rfl rfl (by decide))
    · rw [List.mem_singleton.mp (fewer.subset later)]
      exact elsewhere rfl (free List.mem_cons_self rfl rfl (by decide))
  | checked rows log =>
    intro fresh member
    rw [List.mem_singleton.mp member]
    exact elsewhere rfl (free List.mem_cons_self rfl rfl (by decide))
  | persisted | answered => exact fun fresh member => (List.not_mem_nil member).elim
  | @read asked owner reason caller row rows log found owned =>
    intro fresh member
    rcases List.mem_cons.mp member with rfl | inner
    · exact request
    rcases List.mem_cons.mp inner with rfl | owed
    · rintro ⟨about, side, has, -⟩
      simp only [Duty.side] at has
      split at has
      · next settled =>
        have here : row.id = id := Option.some.inj about
        apply unsettled.of_settled (Repository.stateOf_eq_some.mpr ⟨row, _, rfl⟩) settled
        rw [← here, Repository.getAny_id found]
        exact found
      · cases has
    · exact loose fresh (List.mem_cons_of_mem _ owed)
  | @condemned other owner reason caller read state written rows log calm =>
    intro fresh member
    rcases Duty.of_mem_condemned member with rfl | rfl | owed | ⟨started, rfl⟩
    · exact request
    · rintro ⟨-, side, has, -⟩
      cases has
    · exact loose fresh (by simp [Task.duties, owed])
    · have settled := ClusterService.deleteOutcome_eq_startTeardown.mp started
      have held : Duty.holds read.id read.state ∈ (Task.requestDelete other owner reason caller (some read)).duties := by
        simp [Task.duties]
      exact elsewhere rfl (free held rfl (if_pos settled) (by decide))
  | @followed cluster rows log =>
    intro fresh member
    rw [List.mem_singleton.mp member]
    have pledged : Duty.pledge cluster.id ∈ (Task.followDelete cluster .startTeardown).duties := by
      simp [Task.duties, pledgeOf]
    exact elsewhere rfl (free pledged rfl rfl (by decide))
  | @dispatched cluster rest rows log =>
    have pledged : Duty.pledge cluster.id ∈ (Task.dispatch ((cluster, .startTeardown) :: rest)).duties := by
      simp [Task.duties, pledges, pledgeOf]
    intro fresh member
    rcases List.mem_cons.mp member with rfl | inner
    · exact elsewhere rfl (free pledged rfl rfl (by decide))
    rcases List.mem_cons.mp inner with rfl | owed
    · exact request
    · exact loose fresh (List.mem_cons_of_mem _ (List.mem_cons_of_mem _ owed))
  | removed rows log => exact fun fresh member => loose fresh (List.mem_cons_of_mem _ member)
  | listed rows log => exact (serving List.mem_cons_self).elim
  | marked orphan rows log | resumed doomed rows log | missed ready rows log =>
    intro fresh member
    rcases List.mem_cons.mp member with rfl | later
    · exact elsewhere rfl (free List.mem_cons_self rfl rfl (by decide))
    · exact loose fresh (List.mem_cons_of_mem _ later)
  | failed rows log => exact fun fresh member => loose fresh (List.mem_cons_of_mem _ member)

/-! ## The tasks of a step -/

/-- A spawn that does not tear down yet has its row to itself. -/
theorem Task.alone_of_spawns (spawns : task.spawns = some id) : task.unwinds = some id ∨
    ∃ mine ∈ task.duties, mine.subject = some id ∧ mine.side = some .spawning := by
  cases task with
  | launch | spawn =>
    cases spawns
    exact .inr ⟨_, List.mem_cons_self, rfl, rfl⟩
  | teardown cluster stage next =>
    cases next with
    | unregister => exact .inl spawns
    | done | resume => cases spawns
  | create | unregister | requestDelete | followDelete | sweep | reap | dispatch | late | staging | reconcile
  | reconcileRows | reconcileLost => cases spawns

/-- A teardown that a spawn makes on its own leaves the row to no other task. -/
def Task.Beside (first second : Task) : Prop :=
  ∀ id, (first.unwinds = some id → ¬ second.Grips id) ∧ (second.unwinds = some id → ¬ first.Grips id)

theorem Task.Beside.symm {first second : Task} (beside : Beside first second) : Beside second first :=
  fun id => ⟨(beside id).2, (beside id).1⟩

/-- Two tasks whose duties keep apart. -/
def Task.Apart (first second : Task) : Prop :=
  ∀ mine ∈ first.duties, ∀ duty ∈ second.duties, Duty.Apart mine duty

theorem Task.Apart.symm {first second : Task} (apart : Task.Apart first second) : Task.Apart second first :=
  fun duty theirs mine isMine => (apart mine isMine duty theirs).symm

theorem System.Owned.tasks {system : System} (owned : system.Owned) : system.tasks.Pairwise Task.Apart :=
  (List.pairwise_flatMap.mp owned.pairs).2

theorem pairwise_beside {spawned : List Task} (calm : ∀ fresh ∈ spawned, fresh.unwinds = none) :
    spawned.Pairwise Task.Beside := by
  apply List.pairwise_of_forall_mem_list
  intro first left second right id
  rw [calm first left, calm second right]
  simp

/-- A task whose only duty is to set the account of the row. -/
def Task.Light (task : Task) : Prop := task.unwinds = none ∧ ∀ duty ∈ task.duties, ∃ id, duty = .setWorker id

theorem Task.Light.loose (light : task.Light) (id : ClusterId) : ¬ task.Grips id := by
  rintro ⟨duty, member, -, side, has, firm⟩
  obtain ⟨other, rfl⟩ := light.2 duty member
  exact firm (Option.some.inj has).symm

theorem pairwise_beside_light {first : Task} {rest : List Task} (light : ∀ fresh ∈ rest, fresh.Light) :
    (first :: rest).Pairwise Task.Beside := by
  apply List.pairwise_cons.mpr
  constructor
  · intro fresh member id
    constructor
    · exact fun _ => (light fresh member).loose id
    · rw [(light fresh member).1]
      exact fun unwinds => by cases unwinds
  · exact pairwise_beside fun fresh member => (light fresh member).1

theorem abandoned_light (cluster : Cluster) (worker : WorkerUser) (phase : Phase) :
    ∀ fresh ∈ SpawnTask.abandoned cluster worker phase, fresh.Light := by
  cases phase <;> simp [SpawnTask.abandoned, Task.Light, Task.unwinds, Task.duties]

theorem work_unwinds (cluster : Cluster) (token : CancellationToken) (projectTar : Option (List UInt8))
    (worker : WorkerUser) (phase : Phase) :
    ∀ fresh ∈ (SpawnTask.work deps answer shared cluster token projectTar worker phase).2, fresh.unwinds = none := by
  by_cases panicked : SpawnTask.panics answer phase = true
  · rw [SpawnTask.work_panics panicked]
    exact List.forall_mem_nil _
  obtain ⟨stage, left, leaves, rest⟩ :=
    SpawnTask.work_leaves deps shared cluster token projectTar worker (Bool.eq_false_of_not_eq_true panicked)
  rw [leaves, List.forall_mem_cons]
  constructor
  · rfl
  · intro fresh member
    rcases rest with rfl | rfl
    · cases member
    · exact (abandoned_light cluster worker phase fresh member).1

/-- A spawn's own teardown comes from that spawn, by a step that leaves the table alone. -/
structure Unwinds (shared : Shared) (task : Task) (moved : Step) : Prop where
  source : ∀ fresh ∈ moved.2, ∀ id, fresh.unwinds = some id → task.spawns = some id ∧ moved.1.rows = shared.rows
  beside : moved.2.Pairwise Task.Beside

theorem Unwinds.of_calm {moved : Step} (calm : ∀ fresh ∈ moved.2, fresh.unwinds = none) : Unwinds shared task moved where
  source := by
    intro fresh member id unwinds
    rw [calm fresh member] at unwinds
    cases unwinds
  beside := pairwise_beside calm

theorem spawn_unwinds (cluster : Cluster) (token : CancellationToken) (projectTar : Option (List UInt8))
    (stage : SpawnStage) :
    Unwinds shared (.spawn cluster token projectTar stage)
      (SpawnTask.step deps answer shared cluster token projectTar stage) := by
  have entered {left : List Task} (light : ∀ fresh ∈ left, fresh.Light) :
      Unwinds shared (.spawn cluster token projectTar stage)
        ((TeardownTask.enter shared cluster .unregister).1,
          (TeardownTask.enter shared cluster .unregister).2 ++ left) := by
    refine ⟨fun fresh member id unwinds => ?_, pairwise_beside_light light⟩
    rcases List.mem_cons.mp member with rfl | later
    · exact ⟨unwinds, rfl⟩
    · rw [(light fresh later).1] at unwinds
      cases unwinds
  have alone : Unwinds shared (.spawn cluster token projectTar stage)
      (TeardownTask.enter shared cluster .unregister) := by
    have whole := entered fun fresh (member : fresh ∈ []) => (List.not_mem_nil member).elim
    simpa using whole
  cases stage with
  | start =>
    simp only [SpawnTask.step]
    split
    · exact alone
    · split
      · exact .of_calm (by simp [Task.unwinds])
      · split <;> exact .of_calm (by simp [Task.unwinds])
  | working worker phase =>
    simp only [SpawnTask.step]
    split
    · exact entered (abandoned_light cluster worker phase)
    · exact .of_calm (work_unwinds cluster token projectTar worker phase)
  | checking result =>
    simp only [SpawnTask.step]
    split
    · exact .of_calm (by simp [Task.unwinds])
    · exact alone
    · split
      · exact alone
      · exact .of_calm (by simp [Task.unwinds])
  | persisting current result =>
    simp only [SpawnTask.step]
    split <;> exact .of_calm (by simp [Task.unwinds])

theorem teardown_unwinds (cluster : Cluster) (stage : TeardownStage) (next : After) :
    Unwinds shared (.teardown cluster stage next) (TeardownTask.step deps answer shared cluster next stage) := by
  have onward {later : TeardownStage} {moved : Shared} {left : List Task} (rows : moved.rows = shared.rows)
      (light : ∀ fresh ∈ left, fresh.Light) :
      Unwinds shared (.teardown cluster stage next) (moved, .teardown cluster later next :: left) := by
    refine ⟨fun fresh member id unwinds => ?_, pairwise_beside_light light⟩
    rcases List.mem_cons.mp member with rfl | later
    · cases next with
      | unregister => exact ⟨unwinds, rows⟩
      | done | resume => cases unwinds
    · rw [(light fresh later).1] at unwinds
      cases unwinds
  have late {effect : LateEffect} (none_owed : (Task.late effect).duties = []) :
      ∀ fresh ∈ [Task.late effect], fresh.Light := by
    intro fresh member
    rw [List.mem_singleton.mp member]
    exact ⟨rfl, by simp [none_owed]⟩
  have nothing : ∀ fresh ∈ ([] : List Task), fresh.Light := fun fresh member => (List.not_mem_nil member).elim
  cases stage with
  | backend =>
    simp only [TeardownTask.step]
    split
    · exact onward rfl nothing
    · split
      · exact onward rfl (late rfl)
      · exact onward rfl nothing
  | wipe =>
    simp only [TeardownTask.step]
    split
    · exact onward rfl nothing
    · split
      · exact onward rfl (late rfl)
      · exact onward rfl nothing
  | delete =>
    simp only [TeardownTask.step]
    cases next <;> split <;> exact .of_calm (by simp [TeardownTask.After.tasks, Task.unwinds])

theorem step_unwinds (task : Task) : Unwinds shared task (task.step deps answer shared) := by
  cases task with
  | spawn cluster token projectTar stage => exact spawn_unwinds cluster token projectTar stage
  | teardown cluster stage next => exact teardown_unwinds cluster stage next
  | create | launch | unregister | requestDelete | followDelete | sweep | reap | dispatch | late | staging | reconcile
  | reconcileRows | reconcileLost =>
    apply Unwinds.of_calm
    intro fresh member
    cases Task.successor member <;> rfl

/-! ## Runs -/

/-- Claims on rows, and the spawns that tear down on their own. -/
structure System.Unwinding (system : System) : Prop where
  owned : system.Owned
  unwinding : Holds (fun task => [task]) (fun _ => True)
    (fun shared task => ∀ id, task.unwinds = some id → shared.Unsettled id) Task.Beside system.pool

/-- Whoever spawns has a row that is not settled. -/
theorem System.Unwinding.row {system : System} (unwinding : system.Unwinding) {task : Task} (member : task ∈ system.tasks)
    {id : ClusterId} (spawns : task.spawns = some id) : system.shared.Unsettled id := by
  have valid := unwinding.owned.each task member
  have alone := unwinding.unwinding.each task member task List.mem_cons_self
  cases task with
  | launch cluster projectTar =>
    cases spawns
    exact (valid _ List.mem_cons_self).sound.2
  | spawn cluster token projectTar stage =>
    cases spawns
    exact (valid _ List.mem_cons_self).sound.2
  | teardown cluster stage next =>
    cases next with
    | unregister => exact alone id spawns
    | done | resume => cases spawns
  | create | unregister | requestDelete | followDelete | sweep | reap | dispatch | late | staging | reconcile
  | reconcileRows | reconcileLost => cases spawns

theorem Task.teardown_of_unwinds (unwinds : task.unwinds = some id) : .teardown id ∈ task.duties := by
  cases task with
  | teardown cluster stage next =>
    cases next <;> cases unwinds
    exact List.mem_cons_self
  | create | launch | spawn | unregister | requestDelete | followDelete | sweep | reap | dispatch | late | staging
  | reconcile | reconcileRows | reconcileLost => cases unwinds

/-- A task beside a spawn's own teardown has no part in startup. -/
theorem Task.Apart.serving {first second : Task} (apart : Task.Apart first second) (unwinds : second.unwinds = some id) :
    .startup ∉ first.duties := by
  intro starting
  cases (apart _ starting _ (Task.teardown_of_unwinds unwinds)).before

theorem System.Unwinding.next {system after : System} {label : Label} (unwinding : system.Unwinding)
    (permitted : OneLifetime system label) (moved : system.next label = some after) : after.Unwinding := by
  refine ⟨unwinding.owned.next moved, ?_⟩
  cases label with
  | request request =>
    obtain ⟨-, rfl⟩ := next_request moved
    have calm : request.task.unwinds = none := by cases request <;> rfl
    have loose (id : ClusterId) : ¬ request.task.Grips id := by
      rintro ⟨duty, member, about, -⟩
      rw [Request.duties] at member
      cases List.mem_singleton.mp member
      cases about
    apply unwinding.unwinding.join fun _ _ => Task.Beside.symm
    · intro fresh member id unwinds
      obtain rfl : fresh = request.task := by simpa using member
      rw [calm] at unwinds
      cases unwinds
    · simp
    · intro fresh member task _ duty _ id
      obtain rfl : fresh = request.task := by simpa using member
      rw [calm]
      exact ⟨fun unwinds => (by cases unwinds), fun _ => loose id⟩
  | world change =>
    obtain ⟨world, -, rfl⟩ := next_world moved
    exact unwinding.unwinding.shift trivial (fun _ unsettled => unsettled) fun _ _ beside => beside
  | restart deps => exact permitted.elim
  | step index answer =>
    obtain ⟨task, found, draws, effect, rfl⟩ := unwinding.owned.effect moved
    have member := List.mem_of_getElem? found
    have apart : Holds (fun task : Task => [task]) (fun _ => True) (fun _ _ => True) Task.Apart system.pool :=
      ⟨trivial, fun _ _ _ _ => trivial, by simpa [System.tasks] using unwinding.owned.tasks⟩
    have unwinds : Unwinds system.shared task (task.step system.deps answer system.shared) := step_unwinds task
    obtain ⟨source, beside⟩ := unwinds
    refine Holds.replace (fun _ _ both => ⟨both.1.symm, both.2.symm⟩) (fun _ _ => Task.Beside.symm)
      (unwinding.unwinding.and apart) found trivial ?_ ?_ (fun _ _ both => both.1) ?_ ?_
    · intro fresh inside id unwinds
      obtain ⟨spawns, rows⟩ := source fresh (by simpa using inside) id unwinds
      exact (unwinding.row member spawns).same (by rw [rows])
    · intro other theirs both id unwinds
      obtain ⟨unsettled, -⟩ := theirs
      obtain ⟨aside, -⟩ := both task List.mem_cons_self
      have loose : ∀ mine ∈ task.duties, ¬ mine.Grips id :=
        fun mine isMine grips => (aside id).2 unwinds ⟨mine, isMine, grips⟩
      exact effect.leaves draws unwinding.owned.shared loose (unsettled id unwinds)
    · simpa using beside
    · intro fresh inside other theirs both id
      obtain ⟨aside, keeps⟩ := both task List.mem_cons_self
      have inside' : fresh ∈ (task.step system.deps answer system.shared).2 := by simpa using inside
      constructor
      · intro unwinds
        obtain ⟨spawns, -⟩ := source fresh inside' id unwinds
        rcases Task.alone_of_spawns spawns with tearing | ⟨mine, isMine, about, has⟩
        · exact (aside id).1 tearing
        · rintro ⟨duty, isTheirs, same, side, claimed, -⟩
          exact (keeps mine isMine duty isTheirs).exclusive about has (.inl rfl) same claimed
      · rintro unwinds ⟨duty, isFresh, grips⟩
        have loose : ∀ mine ∈ task.duties, ¬ mine.Grips id :=
          fun mine isMine grips => (aside id).2 unwinds ⟨mine, isMine, grips⟩
        exact effect.loose draws unwinding.owned.shared (keeps.serving unwinds) loose (theirs.1 id unwinds) duty
          (List.mem_flatMap.mpr ⟨fresh, inside', isFresh⟩) grips

theorem boot_unwinding (deps : TaskDeps) {shared : Shared} (table : shared.TableSound) :
    (System.boot deps shared).Unwinding := by
  refine ⟨boot_owned deps table, trivial, fun task member other inside id unwinds => ?_, List.pairwise_singleton ..⟩
  cases List.mem_singleton.mp member
  cases List.mem_singleton.mp inside
  cases unwinds

theorem unwinding_of_run {start finish : System} (started : Started start)
    (run : Run System.next OneLifetime start finish) : finish.Unwinding := by
  cases started with
  | boot deps earlier =>
    exact run.invariant (boot_unwinding deps (owned_of_run earlier).shared) fun _ _ _ unwinding permitted moved =>
      unwinding.next permitted moved

/-- While a spawn has neither written its outcome nor ended its teardown, its row is there, `Spawning` or
`Deleting`. So a call that succeeds finds the row, and neither the outcome of a spawn nor a delete request is
refused by `transition`. -/
theorem spawn_in_flight {start finish : System} (started : Started start)
    (run : Run System.next OneLifetime start finish) :
    (∀ task ∈ finish.tasks, ∀ id, task.spawns = some id →
      ∃ row, finish.shared.row? id = some row ∧ (row.state.isSpawning = true ∨ row.state.isDeleting = true)) ∧
    (∀ cluster token projectTar result, .spawn cluster token projectTar (.checking result) ∈ finish.tasks →
      finish.shared.row? cluster.id ≠ none) ∧
    (∀ cluster token projectTar current result,
      .spawn cluster token projectTar (.persisting current result) ∈ finish.tasks →
      ∀ now event, SpawnTask.outcomeEvent now cluster.requestedTtl result = some event →
        ∃ state, transition current event = .ok state) ∧
    ∀ id owner reason caller read, .requestDelete id owner reason caller (some read) ∈ finish.tasks →
      ∀ now, ∃ state, transition read.state (.deleteRequested now reason) = .ok state := by
  have unwinding := unwinding_of_run started run
  refine ⟨fun task member id spawns => ?_, fun cluster token projectTar result member => ?_,
    fun cluster token projectTar current result member now event made => ?_,
    fun id owner reason caller read _ now => ⟨_, transition_deleteRequested ..⟩⟩
  · obtain ⟨state, here, unsettled⟩ := unwinding.row member spawns
    obtain ⟨row, found, rfl⟩ := Repository.stateOf_eq_some.mp here
    refine ⟨row, found, ?_⟩
    cases state : row.state <;> simp_all [ClusterState.isSpawning, ClusterState.isDeleting, ClusterState.isSettled]
  · obtain ⟨state, here, -⟩ := unwinding.row member rfl
    obtain ⟨row, found, -⟩ := Repository.stateOf_eq_some.mp here
    rw [Shared.row?, found]
    exact Option.some_ne_none row
  · obtain ⟨believed, -⟩ := (unwinding.owned.each _ member _ List.mem_cons_self).sound
    rcases transition_outcomeEvent made current with ⟨awake, -⟩ | ⟨state, moved, -⟩
    · rw [show current.isSpawning = true from believed] at awake
      cases awake
    · exact ⟨state, moved⟩

/-- A delete that comes while the backend is busy: the spawn is tearing down on its own. -/
theorem spawn_in_flight_cancelled : ∃ finish : System,
    finish.tasks.map Task.spawns = [some smallId, none] ∧
    ∀ task ∈ finish.tasks, ∀ id, task.spawns = some id →
      ∃ row, finish.shared.row? id = some row ∧ (row.state.isSpawning = true ∨ row.state.isDeleting = true) := by
  have evaluated : (follow System.next (permitted fun _ _ _ _ => true) smallStart
      (untilCreated ++ [smallDelete, .step 1 {}, .step 1 {}, .step 1 {}, .step 0 {}])).map
        (fun finish => finish.tasks.map Task.spawns) = some [some smallId, none] := by
    decide +kernel
  obtain ⟨finish, run, seen⟩ := exists_run evaluated
  exact ⟨finish, seen, (spawn_in_flight smallStart_started (run.weaken fun _ _ => Permits.oneLifetime)).1⟩

end AppSalmon
