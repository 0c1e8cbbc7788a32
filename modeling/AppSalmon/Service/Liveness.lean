import AppSalmon.Library.Progress
import AppSalmon.Service.NoStuckRow
import AppSalmon.Service.Registry
import Mathlib.Data.Prod.Lex

/-! What comes of every row in the end.

Every task leaves less to do than it had before it, but for a backend that goes
on making containers. So a row that is `Spawning` or `Deleting` is brought to its
end whatever requests keep arriving, as long as every call returns at last.
-/

set_option autoImplicit false

namespace AppSalmon

open TaskPool
open Repository (Rows stateOf)

/-! ## How much is left to do -/

def Phase.rank : Phase → Nat × Nat
  | .settingWorker _ => (11, 0)
  | .preparing targets => (10, targets.length)
  | .creatingStaging => (9, 0)
  | .settingModes left => (8, left)
  | .extracting remaining _ => (7, remaining.length)
  | .adopting => (6, 0)
  | .unstaging _ => (5, 0)
  | .spawning => (4, 0)

def SpawnStage.rank : SpawnStage → Nat × Nat
  | .start => (12, 0)
  | .working _ phase => phase.rank
  | .checking _ => (3, 0)
  | .persisting .. => (2, 0)

def TeardownStage.left : TeardownStage → Nat
  | .backend => 3
  | .wipe => 2
  | .delete => 1

/-- The kind of work that is left, and how much of it. -/
def Task.rank : Task → Nat ×ₗ Nat
  | .create .. => toLex (14, 0)
  | .launch .. => toLex (13, 0)
  | .spawn _ _ _ stage => toLex stage.rank
  | .unregister _ | .late _ | .staging _ _ .create | .staging _ _ .remove => toLex (0, 0)
  | .staging _ _ (.extract remaining) => toLex (0, remaining.length)
  | .teardown _ stage (.resume todo) => toLex (3, 6 * todo.length + stage.left + 1)
  | .teardown _ stage .done | .teardown _ stage .unregister => toLex (1, stage.left)
  | .requestDelete _ _ _ .handler read => toLex (3, if read.isSome then 1 else 2)
  | .requestDelete _ _ _ (.reaper _ todo _) read => toLex (3, 3 * todo.length + if read.isSome then 1 else 2)
  | .followDelete .. => toLex (2, 0)
  | .sweep | .reconcile => toLex (4, 0)
  | .reap _ todo _ => toLex (3, 3 * todo.length)
  | .dispatch results => toLex (2, results.length)
  | .reconcileRows todo => toLex (3, 6 * todo.length)
  | .reconcileLost _ todo => toLex (3, 6 * todo.length + 1)

def SpawnAnswer.isCreates : SpawnAnswer → Bool
  | .creates => true
  | .returns _ | .panics => false

/-- The backend makes another container, and its spawn goes on. -/
def Task.makes (answer : Answer) (shared : Shared) : Task → Bool
  | .spawn _ token _ (.working _ .spawning) => !shared.registry.isCancelled token && answer.spawn.isCreates
  | _ => false

variable {deps : TaskDeps} {answer : Answer} {shared : Shared} {task fresh : Task} {id : ClusterId}

theorem rank_lt {first second : Nat × Nat} (less : first.1 < second.1 ∨ first.1 = second.1 ∧ first.2 < second.2) :
    toLex first < toLex second := Prod.Lex.toLex_lt_toLex.mpr less

theorem Phase.rank_bounds (phase : Phase) : 4 ≤ phase.rank.1 := by
  cases phase <;> simp [Phase.rank]

theorem abandoned_rank {cluster : Cluster} {worker : WorkerUser} {phase : Phase}
    (dropped : fresh ∈ SpawnTask.abandoned cluster worker phase) : fresh.rank < toLex phase.rank := by
  cases phase <;> simp only [SpawnTask.abandoned, List.mem_singleton, List.not_mem_nil] at dropped
  all_goals
    rw [dropped]
    exact rank_lt (.inl (by simp [Phase.rank]))

theorem teardown_ranks {cluster : Cluster} {stage : TeardownStage} {next : After}
    (member : fresh ∈ (TeardownTask.step deps answer shared cluster next stage).2) :
    fresh.rank < (Task.teardown cluster stage next).rank := by
  rcases teardown_leaves cluster stage next with ⟨later, rest, leaves, onward, late⟩ | ⟨rfl, leaves⟩
  · have less : later.left < stage.left := by
      rcases onward with ⟨rfl, rfl⟩ | ⟨rfl, rfl⟩ <;> decide
    rw [leaves] at member
    rcases List.mem_cons.mp member with rfl | beside
    · cases next with
      | done | unregister => exact rank_lt (.inr ⟨rfl, less⟩)
      | resume todo => exact rank_lt (.inr ⟨rfl, by simpa using less⟩)
    · obtain ⟨effect, rfl⟩ := late fresh beside
      cases next <;> exact rank_lt (.inl (by simp))
  · rw [leaves] at member
    cases next with
    | done => cases member
    | unregister =>
      rw [List.mem_singleton.mp member]
      exact rank_lt (.inl (by decide))
    | resume todo =>
      rw [List.mem_singleton.mp member]
      exact rank_lt (.inr ⟨rfl, by simp only; omega⟩)

/-- An await of `do_spawn` takes the spawn on, unless the backend has only made a container. -/
theorem work_ranks {cluster : Cluster} {token : CancellationToken} {projectTar : Option (List UInt8)}
    {worker : WorkerUser} {phase : Phase} (returns : phase = .spawning → answer.spawn.isCreates = false)
    (member : fresh ∈ (SpawnTask.work deps answer shared cluster token projectTar worker phase).2) :
    fresh.rank < toLex phase.rank := by
  have onward {phase : Phase} {later : SpawnStage} (less : later.rank.1 < phase.rank.1) :
      (Task.spawn cluster token projectTar later).rank < toLex phase.rank := rank_lt (.inl less)
  have within {phase : Phase} {later : SpawnStage} (same : later.rank.1 = phase.rank.1)
      (less : later.rank.2 < phase.rank.2) :
      (Task.spawn cluster token projectTar later).rank < toLex phase.rank := rank_lt (.inr ⟨same, less⟩)
  have checks (phase : Phase) (result : Except ClusterError ConnectionInfo) :
      (Task.spawn cluster token projectTar (.checking result)).rank < toLex phase.rank :=
    onward (Nat.lt_of_lt_of_le (by simp [SpawnStage.rank]) phase.rank_bounds)
  by_cases panicked : SpawnTask.panics answer phase = true
  · rw [SpawnTask.work_panics panicked] at member
    cases member
  obtain ⟨after, later, left, moved, awaited⟩ :=
    SpawnTask.work_awaited deps shared cluster token projectTar worker (Bool.eq_false_of_not_eq_true panicked)
  have inside := member
  rw [moved] at inside
  cases awaited with
  | fails error | spawned connection =>
    rw [List.mem_singleton.mp inside]
    exact checks _ _
  | unprepared error | unspawned error =>
    rcases List.mem_cons.mp inside with rfl | dropped
    · exact checks _ _
    · exact abandoned_rank dropped
  | unadopted error =>
    rcases List.mem_cons.mp inside with rfl | dropped
    · exact onward (by simp [SpawnStage.rank, Phase.rank])
    · exact abandoned_rank dropped
  | assigns | stages | extracted | unextracted | adopts | validates =>
    rw [List.mem_singleton.mp inside]
    exact onward (by simp [SpawnStage.rank, Phase.rank])
  | prepares | setsMode | extracts | misses error =>
    rw [List.mem_singleton.mp inside]
    exact within rfl (by simp [SpawnStage.rank, Phase.rank])
  | prepared =>
    rw [List.mem_singleton.mp inside]
    cases projectTar <;> exact onward (by simp [SpawnStage.rank, Phase.rank, SpawnTask.afterPrepare])
  | unstages removed goesOn =>
    rw [List.mem_singleton.mp inside]
    rcases goesOn with rfl | ⟨error, rfl⟩
    · exact onward (by simp [SpawnStage.rank, Phase.rank])
    · exact checks _ _
  | creates =>
    cases told : answer.spawn with
    | creates =>
      have calm := returns rfl
      rw [told] at calm
      cases calm
    | returns result => cases result <;> simp [SpawnTask.work, told] at moved
    | panics => simp [SpawnTask.panics, told] at panicked

theorem spawn_ranks {cluster : Cluster} {token : CancellationToken} {projectTar : Option (List UInt8)} {stage : SpawnStage}
    (member : fresh ∈ (SpawnTask.step deps answer shared cluster token projectTar stage).2)
    (returns : (Task.spawn cluster token projectTar stage).makes answer shared = false) :
    fresh.rank < (Task.spawn cluster token projectTar stage).rank := by
  cases stage with
  | start =>
    cases spawn_successor member with
    | turns | begins | declines => exact rank_lt (.inl (by simp [SpawnStage.rank, Phase.rank]))
  | working worker phase =>
    simp only [SpawnTask.step] at member
    split at member
    · rcases List.mem_cons.mp member with rfl | dropped
      · exact rank_lt (.inl (Nat.lt_of_lt_of_le (by simp) phase.rank_bounds))
      · exact abandoned_rank dropped
    · next alive =>
      apply work_ranks _ member
      rintro rfl
      simpa [Task.makes, alive] using returns
  | checking result =>
    cases spawn_successor member with
    | turns | checks => exact rank_lt (.inl (by simp [SpawnStage.rank]))
  | persisting current result =>
    simp only [SpawnTask.step] at member
    split at member
    · cases member
    · rw [List.mem_singleton.mp member]
      exact rank_lt (.inl (by simp [SpawnStage.rank]))

/-- A step leaves less to do, unless a backend has only made a container. -/
theorem step_ranks (member : fresh ∈ (task.step deps answer shared).2) (returns : task.makes answer shared = false) :
    fresh.rank < task.rank := by
  cases task with
  | spawn => exact spawn_ranks member returns
  | teardown => exact teardown_ranks member
  | create | launch | unregister | followDelete | sweep | late | reconcile =>
    cases Task.successor member with
    | _ => exact rank_lt (.inl (by simp [SpawnStage.rank]))
  | requestDelete id owner reason caller read =>
    cases Task.successor member with
    | reads => cases caller <;> exact rank_lt (.inr ⟨rfl, by simp⟩)
    | passesOver => cases read <;> exact rank_lt (.inr ⟨rfl, by simp⟩)
    | answers => exact rank_lt (.inl (by simp))
    | collects => exact rank_lt (.inr ⟨rfl, by simp⟩)
  | reap now todo results =>
    cases Task.successor member with
    | gathered => exact rank_lt (.inl (by simp))
    | spares => exact rank_lt (.inr ⟨rfl, by simp⟩)
    | expires => exact rank_lt (.inr ⟨rfl, by simp; omega⟩)
  | dispatch results =>
    cases Task.successor member with
    | dispatches => exact rank_lt (.inr ⟨rfl, by simp⟩)
    | starts => exact rank_lt (.inl (by simp))
  | reconcileRows todo =>
    cases Task.successor member with
    | orphans | finishes =>
      exact rank_lt (.inr ⟨rfl, by simp only [List.length_cons, TeardownStage.left]; omega⟩)
    | loses => exact rank_lt (.inr ⟨rfl, by simp only [List.length_cons]; omega⟩)
    | leaves => exact rank_lt (.inr ⟨rfl, by simp⟩)
  | reconcileLost cluster todo =>
    cases Task.successor member with
    | notes => exact rank_lt (.inr ⟨rfl, by simp⟩)
  | staging =>
    cases Task.successor member with
    | extracts => exact rank_lt (.inr ⟨rfl, by simp⟩)

theorem step_of_makes (makes : task.makes answer shared = true) : (task.step deps answer shared).2 = [task] := by
  cases task with
  | spawn cluster token projectTar stage =>
    cases stage with
    | working worker phase =>
      cases phase with
      | spawning =>
        simp only [Task.makes, Bool.and_eq_true, Bool.not_eq_true'] at makes
        obtain ⟨alive, creates⟩ := makes
        cases told : answer.spawn with
        | creates => simp [Task.step, SpawnTask.step, SpawnTask.work, alive, told]
        | returns | panics =>
          rw [told] at creates
          cases creates
      | settingWorker | preparing | creatingStaging | settingModes | extracting | adopting | unstaging => cases makes
    | start | checking | persisting => cases makes
  | create | launch | unregister | teardown | requestDelete | followDelete | sweep | reap | dispatch | late | staging
  | reconcile | reconcileRows | reconcileLost => cases makes

/-! ## Executions -/

/-- A task is answered with what it waits for: a backend's spawn with its result. -/
def System.Answered (system : System) (label : Label) (task : Task) : Prop :=
  ∃ index answer, label = .step index answer ∧ system.tasks[index]? = some task ∧
    task.makes answer system.shared = false

variable {start : System}

/-- Every task is answered at last. -/
def Fair {allowed : System → Label → Prop} (execution : Execution System.next allowed start) : Prop :=
  ∀ time, ∀ task ∈ (execution.state time).tasks, ∃ later ≥ time,
    (execution.state later).Answered (execution.label later) task

/-- Rows are claimed and deletions remembered as they should be, and somebody answers for every row. -/
structure System.Kept (system : System) : Prop where
  word : system.WordKept
  answered : system.AnsweredFor

theorem kept_at (started : Started start) (execution : Execution System.next BringingToEnd start) (time : Nat) :
    (execution.state time).Kept := by
  have initial : start.Kept :=
    ⟨started.disciplined (fun shared _ _ none_yet => ⟨by simp [none_yet]⟩) fun _ _ => trivial, started.answeredFor⟩
  exact (execution.run time).invariant initial fun _ _ _ kept permitted moved =>
    ⟨kept.word.next permitted moved, kept.answered.next kept.word permitted moved⟩

/-- A task that is answered hands what it covers on to one with less to do. -/
theorem System.Kept.hands {system after : System} {label : Label} (kept : system.Kept)
    (permitted : BringingToEnd system label) (moved : system.next label = some after)
    (answered : system.Answered label task) (covers : task.Covers id) (unsettled : after.shared.Unsettled id) :
    ∃ fresh ∈ after.tasks, fresh.Covers id ∧ fresh.rank < task.rank := by
  obtain ⟨index, answer, rfl, found, returns⟩ := answered
  obtain ⟨own, here, -, effect, rfl⟩ := kept.word.owned.effect moved
  obtain rfl : own = task := Option.some.inj (here.symm.trans found)
  obtain ⟨faultless, -⟩ := bringsToEnd_parts (permitted own found)
  have valid := (kept.word.own found).1
  obtain ⟨mine, owed, about⟩ := covers
  obtain ⟨duty, left, hands⟩ := effect.handed faultless (fun duty owed => (valid duty owed).1) owed about unsettled
  obtain ⟨fresh, member, owes⟩ := List.mem_flatMap.mp left
  exact ⟨fresh, List.mem_append_right _ member, ⟨duty, owes, hands⟩, step_ranks member returns⟩

/-- Within one lifetime no `DELETE` is forgotten, and no identifier is used again. -/
theorem System.Owned.keeps {system after : System} {label : Label} (owned : system.Owned)
    (permitted : OneLifetime system label) (moved : system.next label = some after) (id : ClusterId) :
    (id ∈ system.shared.accepted → id ∈ after.shared.accepted) ∧
      (id ∈ system.shared.born ∧ system.shared.row? id = none → id ∈ after.shared.born ∧ after.shared.row? id = none) := by
  cases label with
  | request request =>
    obtain ⟨-, rfl⟩ := next_request moved
    exact ⟨fun accepted => accepted, fun gone => gone⟩
  | world change =>
    obtain ⟨world, -, rfl⟩ := next_world moved
    exact ⟨fun accepted => accepted, fun gone => gone⟩
  | restart deps => exact permitted.elim
  | step index answer =>
    obtain ⟨task, found, drawn, effect, rfl⟩ := owned.effect moved
    exact ⟨fun accepted => effect.accepted_subset accepted,
      fun gone => ⟨effect.born_subset gone.1, effect.gone drawn gone.1 gone.2⟩⟩

/-- A row whose `DELETE` was answered is gone once it is not unsettled. -/
theorem System.Kept.gone {system : System} (kept : system.Kept) (accepted : id ∈ system.shared.accepted)
    (settled : ¬ system.shared.Unsettled id) : id ∈ system.shared.born ∧ system.shared.row? id = none := by
  obtain ⟨known, doomed⟩ := kept.word.shared.2.accepted id accepted
  refine ⟨known, ?_⟩
  cases found : system.shared.row? id with
  | none => rfl
  | some row =>
    have here := Repository.stateOf_eq_some.mpr ⟨row, found, rfl⟩
    exact absurd ⟨row.state, here, (ClusterState.calm_of_isDeleting (doomed _ here)).1⟩ settled

theorem unsettled_ends (started : Started start) (execution : Execution System.next BringingToEnd start)
    (fair : Fair execution) (time : Nat) (id : ClusterId) :
    ∃ later ≥ time, ¬ (execution.state later).shared.Unsettled id := by
  have kept := kept_at started execution
  apply covered_ends Task.rank (fun time => (kept time).answered) fair
  intro time task id answered covers unsettled
  exact (kept time).hands (execution.permitted time) (execution.moves time) answered covers unsettled

/-- Whatever requests keep arriving, a row does not stay `Spawning` or `Deleting` for good, and one whose `DELETE` was
answered with 202 is gone in the end, if every task is answered at last. -/
theorem rows_settle (started : Started start) (execution : Execution System.next BringingToEnd start)
    (fair : Fair execution) (time : Nat) (id : ClusterId) :
    (∃ later ≥ time, ¬ (execution.state later).shared.Unsettled id) ∧
      (id ∈ (execution.state time).shared.accepted →
        ∃ later ≥ time, ∀ last ≥ later, (execution.state last).shared.row? id = none) := by
  have kept := kept_at started execution
  have ends := unsettled_ends started execution fair time id
  have keeps (time : Nat) := (kept time).word.owned.keeps (execution.permitted time).oneLifetime (execution.moves time) id
  refine ⟨ends, fun accepted => ?_⟩
  obtain ⟨later, after, settled⟩ := ends
  have still : id ∈ (execution.state later).shared.accepted :=
    execution.stays (fun system => id ∈ system.shared.accepted) (fun time => (keeps time).1) after accepted
  have gone := (kept later).gone still settled
  refine ⟨later, after, fun last beyond => ?_⟩
  exact (execution.stays (fun system => id ∈ system.shared.born ∧ system.shared.row? id = none)
    (fun time => (keeps time).2) beyond gone).2

/-! ## A small execution -/

/-- At most one task at a time, and each answered as soon as it waits. -/
def answersAlone (system : System) : Label → Bool
  | .step index answer =>
    system.tasks.length = 1 && index = 0 && system.tasks.all fun task => !task.makes answer system.shared
  | .request _ | .world _ => system.tasks.isEmpty
  | .restart _ => false

def answersAtOnce (system : System) (label : Label) : Bool := permitted bringsToEnd system label && answersAlone system label

/-- A cluster is created, and deleted once it is `Ready`. -/
def untilGone : List Label :=
  [.step 0 {}, .step 0 {}, .request (.create ⟨"alice"⟩ ⟨.postgres, false⟩ smallTtl none), .step 0 {}, .step 0 {},
    .step 0 {}, .step 0 {}, .step 0 {}, .step 0 { spawn := .returns (.ok smallConnection) }, .step 0 {}, .step 0 {},
    .step 0 {}, smallDelete, .step 0 {}, .step 0 {}, .step 0 {}, .step 0 {}, .step 0 {}, .step 0 {}]

/-- A sweep of an empty table, from the timer on. -/
def sweepOfNothing : List Label := [.request .sweep, .step 0 {}, .step 0 {}, .step 0 {}]

theorem sweepOfNothing_returns {system : System} (idle : system.tasks = []) (empty : system.shared.rows = []) :
    follow System.next answersAtOnce system sweepOfNothing = some system := by
  obtain ⟨deps, ⟨⟩, tasks⟩ := system
  cases idle
  cases empty
  rfl

theorem answered_of_alone {system : System} {label : Label} (alone : answersAlone system label = true)
    (member : task ∈ system.tasks) : system.Answered label task := by
  cases label with
  | step index answer =>
    simp only [answersAlone, Bool.and_eq_true, decide_eq_true_eq, List.all_eq_true, Bool.not_eq_true'] at alone
    obtain ⟨⟨one, rfl⟩, returns⟩ := alone
    obtain ⟨only, tasks⟩ := List.length_eq_one_iff.mp one
    rw [tasks] at member
    obtain rfl := List.mem_singleton.mp member
    exact ⟨0, answer, rfl, by rw [tasks]; rfl, returns task (by rw [tasks]; exact List.mem_singleton_self _)⟩
  | request | world =>
    rw [List.isEmpty_iff.mp alone] at member
    cases member
  | restart => cases alone

/-- The small execution: fair, and with no request but the timer's from the end of the run on. -/
theorem small_execution : ∃ execution : Execution System.next BringingToEnd smallStart, Fair execution ∧
    (∀ time ≥ untilGone.length, execution.label time ∈ sweepOfNothing) ∧
    ∀ time ≤ untilGone.length, follow System.next answersAtOnce smallStart (untilGone.take time) = some (execution.state time) := by
  have evaluated : (follow System.next answersAtOnce smallStart untilGone).map
      (fun finish => (finish.tasks.length, finish.shared.rows.length)) = some (0, 0) := by
    decide +kernel
  obtain ⟨finish, followed, none_left⟩ := Option.map_eq_some_iff.mp evaluated
  obtain ⟨idle, empty⟩ := Prod.mk.inj none_left
  have sound (system : System) (label : Label) (checked : answersAtOnce system label = true) :
      BringingToEnd system label := by
    simp only [answersAtOnce, Bool.and_eq_true] at checked
    exact permits_of_permitted checked.1
  obtain ⟨execution, within, beyond, checked⟩ := Execution.exists_of_follow followed
    (sweepOfNothing_returns (List.length_eq_zero_iff.mp idle) (List.length_eq_zero_iff.mp empty)) (by decide) sound
  refine ⟨execution, fun time task member => ⟨time, Nat.le_refl time, ?_⟩, beyond, within⟩
  have alone := checked time
  simp only [answersAtOnce, Bool.and_eq_true] at alone
  exact answered_of_alone alone.2 member

/-- A `Ready` row whose `DELETE` has been answered is gone in the end. -/
theorem small_rows_settle : ∃ (execution : Execution System.next BringingToEnd smallStart) (time : Nat),
    (execution.state time).shared.accepted = [smallId] ∧
      stateOf (execution.state time).shared.rows smallId = some (.deleting .epoch .userRequested) ∧
      ∃ later ≥ time, ∀ last ≥ later, (execution.state last).shared.row? smallId = none := by
  obtain ⟨execution, fair, -, within⟩ := small_execution
  have evaluated : (follow System.next answersAtOnce smallStart (untilGone.take 16)).map
      (fun system => (system.shared.accepted, stateOf system.shared.rows smallId)) =
        some ([smallId], some (.deleting .epoch .userRequested)) := by
    decide +kernel
  rw [within 16 (by decide), Option.map_some, Option.some.injEq] at evaluated
  obtain ⟨accepted, state⟩ := Prod.mk.inj evaluated
  refine ⟨execution, 16, accepted, state, (rows_settle smallStart_started execution fair 16 smallId).2 ?_⟩
  rw [accepted]
  exact List.mem_singleton_self _

end AppSalmon
