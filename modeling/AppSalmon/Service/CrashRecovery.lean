import AppSalmon.Service.Directories
import AppSalmon.Service.NoStuckRow

/-! What startup reconciliation makes of a process that was killed anywhere.

Nothing is made or written for a cluster before its account is on the row, so
the rows that are left tell where everything is.
-/

set_option autoImplicit false

namespace AppSalmon

open KeyedTable TaskPool
open Repository (Rows stateOf)
open Duty (Valid Apart)

/-- Every call of the step succeeds. -/
def Answer.succeeds (answer : Answer) : Bool :=
  answer.repository.isNone && answer.executor.isNone && answer.teardown.isNone && answer.isAlive.isOk

/-- Reconciliation goes on, with all calls succeeding, while containers may write and be lost. -/
def recovers (_ : System) : Label → Bool
  | .step _ answer => answer.succeeds
  | .world _ => true
  | .request _ | .restart _ => false

def Label.isStep : Label → Bool
  | .step .. => true
  | .request _ | .world _ | .restart _ => false

/-- What is there after the recovery of a crashed process. -/
structure Shared.Reclaimed (crashed : Shared) (labels : List Label) (after : Shared) : Prop where
  settled : ∀ row ∈ after.rows, row.state.isSettled = true
  cleared : ∀ row ∈ crashed.rows, row.state.isSettled = false → ∀ dir, ¬ after.world.Has row.id dir
  /-- What is in its directory all the same was written meanwhile, by a container of another cluster. -/
  swept : ∀ row ∈ crashed.rows, row.state.isSettled = false → ∀ dir, row.dir = some dir →
    ∀ other, (dir, other) ∈ after.world.contents → .world (.containerWrites other dir) ∈ labels ∧ other ≠ row.id

/-! ## One step of reconciliation -/

/-- A step of reconciliation whose calls succeed, and the task it becomes. -/
inductive Recovers (shared after : Shared) : Task → Option Task → Prop where
  | listed (rows : after.rows = shared.rows) (stray : after.stray = shared.stray) :
      Recovers shared after .reconcile (some (.reconcileRows shared.rows))
  | ended (rows : after.rows = shared.rows) (stray : after.stray = shared.stray) :
      Recovers shared after (.reconcileRows []) none
  | passed {cluster : Cluster} {todo : List Cluster} {next : Task} (rows : after.rows = shared.rows)
      (stray : after.stray = shared.stray)
      (calm : cluster.state.isSettled = true ∨ stateOf shared.rows cluster.id = none)
      (goesOn : next = .reconcileRows todo ∨ next = .reconcileLost cluster todo) :
      Recovers shared after (.reconcileRows (cluster :: todo)) (some next)
  | entered {cluster copy : Cluster} {todo : List Cluster} (stray : after.stray = shared.stray)
      (same : copy.worker = cluster.worker ∧ copy.slot = cluster.slot)
      (states : ∀ id state, stateOf after.rows id = some state →
        stateOf shared.rows id = some state ∨ state.isSettled = false) :
      Recovers shared after (.reconcileRows (cluster :: todo)) (some (.teardown copy .backend (.resume todo)))
  | failed {cluster : Cluster} {todo : List Cluster} (stray : after.stray = shared.stray)
      (states : ∀ id, id ≠ cluster.id → stateOf after.rows id = stateOf shared.rows id) :
      Recovers shared after (.reconcileLost cluster todo) (some (.reconcileRows todo))
  | removed {cluster : Cluster} {todo : List Cluster} (rows : after.rows = shared.rows)
      (stray : after.stray = shared.stray) :
      Recovers shared after (.teardown cluster .backend (.resume todo)) (some (.teardown cluster .wipe (.resume todo)))
  | wiped {cluster : Cluster} {todo : List Cluster} (rows : after.rows = shared.rows)
      (stray : after.stray = shared.stray)
      (empty : ∀ dir, cluster.dir = some dir → ∀ id, (dir, id) ∉ after.world.contents) :
      Recovers shared after (.teardown cluster .wipe (.resume todo)) (some (.teardown cluster .delete (.resume todo)))
  | deleted {cluster : Cluster} {todo : List Cluster} (rows : after.rows = Repository.delete shared.rows cluster.id)
      (stray : after.stray = shared.stray) :
      Recovers shared after (.teardown cluster .delete (.resume todo)) (some (.reconcileRows todo))

variable {deps : TaskDeps} {answer : Answer} {shared after : Shared} {task : Task}

theorem Answer.succeeds_parts (succeeds : answer.succeeds = true) :
    answer.repository = none ∧ answer.executor = none ∧ answer.teardown = none ∧
      ∃ alive, answer.isAlive = .ok alive := by
  simp only [Answer.succeeds, Bool.and_eq_true, Option.isNone_iff_eq_none] at succeeds
  obtain ⟨⟨⟨repository, executor⟩, teardown⟩, alive⟩ := succeeds
  refine ⟨repository, executor, teardown, ?_⟩
  cases found : answer.isAlive with
  | ok alive => exact ⟨alive, rfl⟩
  | error why =>
    rw [found] at alive
    cases alive

theorem rows_recovers (calm : answer.repository = none) (todo : List Cluster) :
    ∃ next, (Reconciliation.rows deps answer shared todo).2 = next.toList ∧
      Recovers shared (Reconciliation.rows deps answer shared todo).1 (.reconcileRows todo) next := by
  cases todo with
  | nil => exact ⟨none, rfl, .ended rfl rfl⟩
  | cons cluster todo =>
    cases state : cluster.state with
    | spawning startedAt =>
      simp only [Reconciliation.rows, state, calm]
      cases written : Repository.updateState shared.rows cluster.id (.deleting answer.now .adminForced) with
      | error error =>
        exact ⟨some (.reconcileRows todo), rfl, .passed rfl rfl (.inr (updateState_error written)) (.inl rfl)⟩
      | ok rows =>
        refine ⟨some _, rfl, .entered rfl ⟨rfl, rfl⟩ fun id state found => ?_⟩
        have stored : stateOf rows id = some state := found
        rw [Repository.stateOf_updateState written] at stored
        split at stored
        · rw [← Option.some.inj stored]
          exact .inr rfl
        · exact .inl stored
    | ready readyAt decommissionAt connection =>
      have settled : cluster.state.isSettled = true := by rw [state, ClusterState.isSettled]
      simp only [Reconciliation.rows, state]
      split
      · exact ⟨some _, rfl, .passed rfl rfl (.inl settled) (.inr rfl)⟩
      · exact ⟨some _, rfl, .passed rfl rfl (.inl settled) (.inl rfl)⟩
    | failed failedAt errorSummary =>
      have settled : cluster.state.isSettled = true := by rw [state, ClusterState.isSettled]
      simp only [Reconciliation.rows, state]
      exact ⟨some _, rfl, .passed rfl rfl (.inl settled) (.inl rfl)⟩
    | deleting since reason =>
      simp only [Reconciliation.rows, state]
      exact ⟨some _, rfl, .entered rfl ⟨rfl, rfl⟩ fun id state found => .inl found⟩

theorem teardown_recovers (succeeds : answer.succeeds = true) (cluster : Cluster) (stage : TeardownStage)
    (todo : List Cluster) :
    ∃ next, (TeardownTask.step deps answer shared cluster (.resume todo) stage).2 = next.toList ∧
      Recovers shared (TeardownTask.step deps answer shared cluster (.resume todo) stage).1
        (.teardown cluster stage (.resume todo)) next := by
  obtain ⟨repository, executor, teardown, -⟩ := Answer.succeeds_parts succeeds
  cases stage with
  | backend =>
    simp only [TeardownTask.step, teardown]
    split <;> exact ⟨some _, rfl, .removed rfl rfl⟩
  | wipe =>
    simp only [TeardownTask.step, executor]
    split
    · next unknown =>
      refine ⟨some _, rfl, .wiped rfl rfl fun dir placed => ?_⟩
      rw [Cluster.dir, unknown] at placed
      cases placed
    · next worker account =>
      refine ⟨some _, rfl, .wiped rfl rfl fun dir placed id content => ?_⟩
      rw [Cluster.dir, account] at placed
      exact (World.mem_wipe.mp content).2 (Option.some.inj placed).symm
  | delete =>
    simp only [TeardownTask.step, repository]
    exact ⟨some _, rfl, .deleted rfl rfl⟩

theorem step_recovers (succeeds : answer.succeeds = true) (startup : task.isStartup = true) :
    ∃ next, (task.step deps answer shared).2 = next.toList ∧
      Recovers shared (task.step deps answer shared).1 task next := by
  obtain ⟨repository, executor, teardown, alive⟩ := Answer.succeeds_parts succeeds
  cases task with
  | reconcile =>
    simp only [Task.step, Reconciliation.start, repository]
    exact ⟨some _, rfl, .listed rfl rfl⟩
  | reconcileRows todo => exact rows_recovers repository todo
  | reconcileLost cluster todo =>
    simp only [Task.step, Reconciliation.lost, repository]
    split
    · next rows calm written =>
      refine ⟨some _, rfl, .failed rfl fun id different => ?_⟩
      exact (Repository.stateOf_updateState written).trans (if_neg different)
    · exact ⟨some _, rfl, .failed rfl fun id different => rfl⟩
  | teardown cluster stage next =>
    cases next with
    | done | unregister => cases startup
    | resume todo => exact teardown_recovers succeeds cluster stage todo
  | create | launch | spawn | unregister | requestDelete | followDelete | sweep | reap | dispatch | late | staging =>
    cases startup

/-! ## What one step preserves -/

/-- The task still has the directory of the row to wipe. -/
def Task.WillWipe (rows : Rows) (row : Cluster) : Task → Prop
  | .reconcile => row ∈ rows
  | .reconcileRows todo | .reconcileLost _ todo => row ∈ todo
  | .teardown cluster stage (.resume todo) =>
    row ∈ todo ∨ (stage ≠ .delete ∧ cluster.worker = row.worker ∧ cluster.slot = row.slot)
  | _ => False

/-- Whatever is in the directory of the row was written by one of these container writes. -/
def Cluster.Swept (row : Cluster) (done : List Label) (world : World) : Prop :=
  ∀ dir, row.dir = some dir → ∀ other, (dir, other) ∈ world.contents → .world (.containerWrites other dir) ∈ done

def TeardownStage.remaining : TeardownStage → Nat
  | .backend => 3
  | .wipe => 2
  | .delete => 1

/-- A bound on the steps that reconciliation still makes. -/
def Task.remaining (rows : Rows) : Task → Nat
  | .reconcile => 5 * rows.length + 2
  | .reconcileRows todo => 5 * todo.length + 1
  | .reconcileLost _ todo => 5 * todo.length + 2
  | .teardown _ stage (.resume todo) => 5 * todo.length + 1 + stage.remaining
  | _ => 0

def System.remaining (system : System) : Nat := (system.tasks.map (Task.remaining system.shared.rows)).sum

variable {left : Option Task}

theorem Recovers.startup (recovers : Recovers shared after task left) : ∀ fresh ∈ left, fresh.isStartup = true := by
  cases recovers with
  | ended => exact fun _ member => by cases member
  | listed | entered | failed | removed | wiped | deleted =>
    intro fresh member
    cases member
    rfl
  | passed rows stray calm goesOn =>
    intro fresh member
    cases member
    rcases goesOn with rfl | rfl <;> rfl

theorem Recovers.stray (recovers : Recovers shared after task left) : after.stray = shared.stray := by
  cases recovers <;> assumption

theorem Recovers.remaining (recovers : Recovers shared after task left) :
    (left.toList.map (Task.remaining after.rows)).sum < task.remaining shared.rows := by
  cases recovers with
  | passed rows stray calm goesOn =>
    rcases goesOn with rfl | rfl
    · simp [Task.remaining]
    · simp [Task.remaining]
      omega
  | listed | ended | entered | failed | removed | wiped | deleted =>
    simp [Task.remaining, TeardownStage.remaining]
    try omega

/-- A row that is not settled is not settled by reconciliation. -/
theorem Recovers.unsettled (recovers : Recovers shared after task left)
    (own : ∀ duty ∈ task.duties, Valid shared duty) {id : ClusterId}
    (before : ∀ state, stateOf shared.rows id = some state → state.isSettled = false) :
    ∀ state, stateOf after.rows id = some state → state.isSettled = false := by
  intro state found
  cases recovers with
  | listed rows | ended rows | passed rows | removed rows | wiped rows =>
    rw [rows] at found
    exact before state found
  | entered stray same states =>
    rcases states id state found with old | fresh
    · exact before state old
    · exact fresh
  | @failed cluster todo stray states =>
    by_cases lost : id = cluster.id
    · -- only a row that was listed as settled is marked as lost
      obtain ⟨listed, there, settled⟩ := (own _ List.mem_cons_self).sound
      rw [← lost] at there
      rw [before listed there] at settled
      cases settled
    · rw [states id lost] at found
      exact before state found
  | deleted rows =>
    rw [rows, Repository.stateOf_delete] at found
    split at found
    · cases found
    · exact before state found

/-- Every unsettled row that is still to be visited is visited, and its directory wiped. -/
theorem Recovers.wipes (recovers : Recovers shared after task left) (own : ∀ duty ∈ task.duties, Valid shared duty)
    {row : Cluster} (unsettled : row.state.isSettled = false) (will : task.WillWipe shared.rows row) :
    (∃ fresh ∈ left.toList, fresh.WillWipe after.rows row) ∨
      ∀ dir, row.dir = some dir → ∀ other, (dir, other) ∉ after.world.contents := by
  cases recovers with
  | listed rows => exact .inl ⟨_, List.mem_singleton_self _, will⟩
  | ended rows => cases will
  | @passed cluster todo left rows stray calm goesOn =>
    have visited : row ∈ todo := by
      rcases List.mem_cons.mp will with rfl | later
      · rcases calm with settled | missing
        · rw [unsettled] at settled
          cases settled
        · have listed : stateOf shared.rows row.id = some row.state := (own _ List.mem_cons_self).sound
          rw [missing] at listed
          cases listed
      · exact later
    refine .inl ⟨left, List.mem_singleton_self _, ?_⟩
    rcases goesOn with rfl | rfl <;> exact visited
  | entered stray same =>
    refine .inl ⟨_, List.mem_singleton_self _, ?_⟩
    rcases List.mem_cons.mp will with rfl | later
    · exact .inr ⟨by simp, same⟩
    · exact .inl later
  | failed => exact .inl ⟨_, List.mem_singleton_self _, will⟩
  | removed rows =>
    refine .inl ⟨_, List.mem_singleton_self _, ?_⟩
    exact will.imp (fun later => later) fun mine => ⟨by simp, mine.2⟩
  | @wiped cluster todo rows stray empty =>
    rcases will with later | ⟨-, worker, slot⟩
    · exact .inl ⟨_, List.mem_singleton_self _, .inl later⟩
    · right
      intro dir placed
      apply empty dir
      rw [Cluster.dir, worker, slot]
      exact placed
  | deleted rows =>
    rcases will with later | ⟨early, -⟩
    · exact .inl ⟨_, List.mem_singleton_self _, later⟩
    · exact absurd rfl early

theorem builds_of_startup (startup : task.isStartup = true) : task.builds = none := by
  cases task with
  | reconcile | reconcileRows | reconcileLost | teardown => rfl
  | create | launch | spawn | unregister | requestDelete | followDelete | sweep | reap | dispatch | late | staging =>
    cases startup

theorem bringsToEnd_of_startup (startup : task.isStartup = true) (succeeds : answer.succeeds = true) :
    bringsToEnd deps answer shared task = true := by
  have calm := (Answer.succeeds_parts succeeds).1
  cases task with
  | reconcile | reconcileRows | reconcileLost | teardown =>
    simp [bringsToEnd, callsSucceed, noPanic, handsOver, calm]
  | create | launch | spawn | unregister | requestDelete | followDelete | sweep | reap | dispatch | late | staging =>
    cases startup

theorem contents_of_change {world next : World} {change : WorldChange} (changed : world.change change = some next)
    {id : ClusterId} {dir : SlotDir} (content : (dir, id) ∈ next.contents) :
    (dir, id) ∈ world.contents ∨ change = .containerWrites id dir := by
  cases change with
  | containerWrites other place =>
    simp only [World.change] at changed
    split at changed
    · cases changed
      rcases World.mem_write.mp content with fresh | old
      · cases fresh
        exact .inr rfl
      · exact .inl old
    · cases changed
  | resourceLost entry =>
    cases changed
    exact .inl content
  | contentLost entry =>
    cases changed
    exact .inl (List.mem_of_mem_erase content)

/-! ## The whole recovery -/

structure System.Recovering (crashed : Shared) (done : List Label) (system : System) : Prop where
  housed : system.Housed
  kept : system.WordKept
  answered : system.AnsweredFor
  alone : system.tasks = [] ∨ ∃ task, system.tasks = [task] ∧ task.isStartup = true
  strays : ∀ row ∈ crashed.rows, row.id ∉ system.shared.stray
  unsettled : ∀ row ∈ crashed.rows, row.state.isSettled = false →
    ∀ state, stateOf system.shared.rows row.id = some state → state.isSettled = false
  swept : ∀ row ∈ crashed.rows, row.state.isSettled = false →
    (∃ task ∈ system.tasks, task.WillWipe system.shared.rows row) ∨ row.Swept done system.shared.world
  bounded : (done.filter Label.isStep).length + system.remaining ≤ 5 * crashed.rows.length + 2

theorem System.Recovering.next {crashed : Shared} {done : List Label} {system after : System} {label : Label}
    (recovering : system.Recovering crashed done) (permitted : recovers system label = true)
    (moved : system.next label = some after) : after.Recovering crashed (done ++ [label]) := by
  have housed := recovering.housed.next moved
  cases label with
  | request | restart => cases permitted
  | world change =>
    have brings : BringingToEnd system (.world change) := trivial
    have kept := recovering.kept.next brings moved
    have answered := recovering.answered.next recovering.kept brings moved
    obtain ⟨world, changed, rfl⟩ := next_world moved
    refine ⟨housed, kept, answered, recovering.alone, recovering.strays, recovering.unsettled,
      fun row member unsettled => ?_, ?_⟩
    · rcases recovering.swept row member unsettled with will | swept
      · exact .inl will
      · right
        intro dir placed other content
        rcases contents_of_change changed content with old | rfl
        · exact List.mem_append_left _ (swept dir placed other old)
        · exact List.mem_append_right _ (List.mem_singleton_self _)
    · have no_step : [Label.world change].filter Label.isStep = [] := rfl
      rw [List.filter_append, no_step, List.append_nil]
      exact recovering.bounded
  | step index answer =>
    rcases recovering.alone with none_left | ⟨task, one, startup⟩
    · obtain ⟨task, found, -⟩ := next_step moved
      rw [none_left] at found
      cases found
    · have brings : BringingToEnd system (.step index answer) := by
        intro other found
        rw [one] at found
        obtain rfl : other = task := List.mem_singleton.mp (List.mem_of_getElem? found)
        exact bringsToEnd_of_startup startup permitted
      have kept := recovering.kept.next brings moved
      have answered := recovering.answered.next recovering.kept brings moved
      obtain ⟨other, found, draws, rfl⟩ := next_step moved
      have own := (recovering.housed.placed.owned.own found).1
      have here : index = 0 := by
        rw [one] at found
        obtain ⟨inside, -⟩ := List.getElem?_eq_some_iff.mp found
        simpa using inside
      obtain rfl : other = task := by
        rw [one] at found
        exact List.mem_singleton.mp (List.mem_of_getElem? found)
      obtain ⟨next, becomes, step⟩ := @step_recovers system.deps answer system.shared other
        permitted startup
      have tasks : (system.advance index answer other).tasks = next.toList := by
        have left : (system.advance index answer other).tasks =
            system.tasks.eraseIdx index ++ (other.step system.deps answer system.shared).2 := rfl
        rw [left, one, here, becomes]
        rfl
      have spreads : other.Spreads system.shared (other.step system.deps answer system.shared).1 := step_spreads other
      refine ⟨housed, kept, answered, ?_, ?_, ?_, fun row member unsettled => ?_, ?_⟩
      · rw [tasks]
        cases next with
        | none => exact .inl rfl
        | some fresh => exact .inr ⟨fresh, rfl, step.startup fresh rfl⟩
      · intro row member
        have stray : (system.advance index answer other).shared.stray = system.shared.stray := step.stray
        rw [stray]
        exact recovering.strays row member
      · exact fun row member unsettled => step.unsettled own (recovering.unsettled row member unsettled)
      · rw [tasks]
        rcases recovering.swept row member unsettled with ⟨mine, inside, will⟩ | swept
        · rw [one] at inside
          obtain rfl : mine = other := List.mem_singleton.mp inside
          rcases step.wipes own unsettled will with waits | empty
          · exact .inl waits
          · exact .inr fun dir placed other content => absurd content (empty dir placed other)
        · right
          intro dir placed id content
          rcases spreads.contents id dir content with old | built
          · exact List.mem_append_left _ (swept dir placed id old)
          · have nothing := built.there
            rw [builds_of_startup startup] at nothing
            cases nothing
      · have fewer := step.remaining
        have before := recovering.bounded
        rw [System.remaining, one, List.map_singleton, List.sum_singleton] at before
        rw [System.remaining, tasks, List.filter_append, List.length_append]
        have one_step : ([Label.step index answer].filter Label.isStep).length = 1 := rfl
        rw [one_step]
        have rows : (system.advance index answer other).shared.rows =
            (other.step system.deps answer system.shared).1.rows := rfl
        rw [rows]
        omega

theorem restart_recovering {crashed booted : System} {deps : TaskDeps} (housed : crashed.Housed)
    (restarted : crashed.next (.restart deps) = some booted) : booted.Recovering crashed.shared [] := by
  have next := housed.next restarted
  obtain ⟨-, rfl⟩ := next_restart restarted
  refine ⟨next, ?_, ?_, .inr ⟨.reconcile, rfl, rfl⟩, ?_, ?_, ?_, ?_⟩
  · exact boot_disciplined deps housed.placed.owned.shared (fun shared _ _ none_yet => ⟨by simp [none_yet]⟩)
      fun _ _ => trivial
  · exact fun id _ => ⟨.reconcile, List.mem_cons_self, .startup, List.mem_cons_self, trivial⟩
  · intro row member stray
    have missing := (List.mem_filter.mp stray).2
    have here : crashed.shared.row? row.id = some row := housed.placed.owned.shared.ids.lookup_of_mem member
    rw [here] at missing
    cases missing
  · intro row member unsettled state found
    have here : crashed.shared.row? row.id = some row := housed.placed.owned.shared.ids.lookup_of_mem member
    have mine : stateOf crashed.shared.rows row.id = some row.state :=
      Repository.stateOf_eq_some.mpr ⟨row, here, rfl⟩
    obtain rfl : row.state = state := Option.some.inj (mine.symm.trans found)
    exact unsettled
  · exact fun row member _ => .inl ⟨.reconcile, List.mem_cons_self, member⟩
  · simp [System.remaining, System.boot, System.tasks, System.shared, Task.remaining]

theorem System.Recovering.reclaimed {crashed : Shared} {labels : List Label} {system : System}
    (recovering : system.Recovering crashed labels) (ended : system.tasks = []) :
    crashed.Reclaimed labels system.shared := by
  have quiet : system.Quiescent := quiescent_of_no_tasks (List.length_eq_zero_iff.mpr ended)
  have table := recovering.housed.placed.owned.shared
  have cleared : ∀ row ∈ crashed.rows, row.state.isSettled = false → ∀ dir, ¬ system.shared.world.Has row.id dir := by
    intro row member unsettled dir has
    cases here : system.shared.row? row.id with
    | none => exact recovering.strays row member (recovering.housed.world.gone row.id dir has here)
    | some last =>
      have found := Repository.stateOf_eq_some.mpr ⟨last, here, rfl⟩
      have settled := recovering.answered.settled quiet found
      rw [recovering.unsettled row member unsettled _ found] at settled
      cases settled
  refine ⟨fun row member => ?_, cleared, fun row member unsettled dir placed other content => ⟨?_, ?_⟩⟩
  · have here : system.shared.row? row.id = some row := table.ids.lookup_of_mem member
    exact recovering.answered.settled quiet (Repository.stateOf_eq_some.mpr ⟨row, here, rfl⟩)
  · rcases recovering.swept row member unsettled with ⟨task, inside, -⟩ | swept
    · rw [ended] at inside
      cases inside
    · exact swept dir placed other content
  · rintro rfl
    exact cleared row member unsettled dir (.inr content)

/-- Wherever the process is killed, the next one reconciles within a bounded number of steps, can always make
the next one, and has then reclaimed every row that was `Spawning` or `Deleting`. -/
theorem crash_recovery {first deps : TaskDeps} {crashed booted finish : System} {labels : List Label}
    (run : Run System.next (fun _ _ => True) (.boot first .empty) crashed)
    (restarted : crashed.next (.restart deps) = some booted)
    (followed : follow System.next recovers booted labels = some finish) :
    (labels.filter Label.isStep).length ≤ 5 * crashed.shared.rows.length + 2 ∧
    (finish.tasks ≠ [] → ∀ answer : Answer, answer.succeeds = true → (finish.next (.step 0 answer)).isSome = true) ∧
    (finish.tasks = [] → crashed.shared.Reclaimed labels finish.shared) := by
  have recovering : finish.Recovering crashed.shared labels :=
    follow_invariant (restart_recovering (housed_of_run run) restarted)
      (fun _ _ _ _ holds permitted moved => holds.next permitted moved) labels followed
  refine ⟨Nat.le_trans (Nat.le_add_right ..) recovering.bounded, fun busy answer succeeds => ?_, recovering.reclaimed⟩
  rcases recovering.alone with none_left | ⟨task, one, startup⟩
  · exact absurd none_left busy
  · have draws : task.draws answer finish.shared = true := by
      cases task <;> first | rfl | cases startup
    simp [System.next, one, draws]

/-- A process killed while a backend is at work: its container and its directory are reclaimed. -/
theorem crash_recovery_created : ∃ crashed finish : System,
    crashed.shared.world.resources = [(smallId, ⟨"agent1", 0⟩)] ∧
    crashed.shared.world.contents = [(⟨"agent1", 0⟩, smallId)] ∧
    stateOf crashed.shared.rows smallId = some (.spawning .epoch) ∧ finish.tasks = [] ∧
    ∀ dir, ¬ finish.shared.world.Has smallId dir := by
  have evaluated : ((follow System.next (fun _ _ => true) smallStart untilCreated).bind fun crashed =>
      (crashed.next (.restart smallDeps)).bind fun booted =>
        (follow System.next recovers booted (List.replicate 6 (.step 0 {}))).map fun finish =>
          ((crashed.shared.world.resources, crashed.shared.world.contents),
            (crashed.shared.rows.map fun row => (row.id, row.state)), finish.tasks.length)) =
      some (([(smallId, ⟨"agent1", 0⟩)], [(⟨"agent1", 0⟩, smallId)]), [(smallId, .spawning .epoch)], 0) := by
    decide +kernel
  obtain ⟨crashed, followed, rest⟩ := Option.bind_eq_some_iff.mp evaluated
  obtain ⟨booted, restarted, rest⟩ := Option.bind_eq_some_iff.mp rest
  obtain ⟨finish, recovered, seen⟩ := Option.map_eq_some_iff.mp rest
  simp only [Prod.mk.injEq] at seen
  obtain ⟨⟨resources, contents⟩, rows, ended⟩ := seen
  have run : Run System.next (fun _ _ => True) (.boot smallDeps .empty) crashed :=
    (run_of_follow _ followed).weaken fun _ _ _ => trivial
  have reclaimed := (crash_recovery run restarted recovered).2.2 (List.length_eq_zero_iff.mp ended)
  match table : crashed.shared.rows with
  | [] | _ :: _ :: _ => simp [table] at rows
  | [row] =>
    simp only [table, List.map_cons, List.map_nil, List.cons.injEq, Prod.mk.injEq, and_true] at rows
    have member : row ∈ crashed.shared.rows := by rw [table]; exact List.mem_singleton_self _
    have unsettled : row.state.isSettled = false := by rw [rows.2]; rfl
    refine ⟨crashed, finish, resources, contents, ?_, List.length_eq_zero_iff.mp ended, ?_⟩
    · simp [table, stateOf, Repository.getAny, lookup, rows]
    · exact rows.1 ▸ reclaimed.cleared row member unsettled

end AppSalmon
