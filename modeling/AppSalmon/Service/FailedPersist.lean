import AppSalmon.Service.NoStuckRow
import AppSalmon.Service.TeardownOnce
import AppSalmon.Service.Directories

/-! Whether a cluster can still be deleted once its spawn has ended with a failed call.

A spawn that cannot write its outcome only logs it. Its row stays as it was, the token is
gone, and no task takes the row for its own any more: a `DELETE` is answered `CancelSpawn`,
and nobody is there to be cancelled. After any other failed call the row is settled, or the
spawn tears it down itself.
-/

set_option autoImplicit false

namespace AppSalmon

open KeyedTable TaskPool
open Repository (Rows stateOf)
open Duty (Valid Apart)

/-- Every repository call succeeds but those that a spawn makes before it writes its outcome. -/
def outcomeWritten (answer : Answer) : Task → Bool
  | .spawn _ _ _ (.checking _) => true
  | task => callsSucceed answer task

/-- The outcome is written, chrono does not panic, and no request condemns a row that was settled behind its back. -/
def reclaims (deps : TaskDeps) (answer : Answer) (shared : Shared) (task : Task) : Bool :=
  outcomeWritten answer task && noPanic deps answer task && readStands shared.rows task

abbrev Reclaiming : System → Label → Prop :=
  Permits fun deps answer shared task => reclaims deps answer shared task = true

variable {deps : TaskDeps} {answer : Answer} {shared after : Shared} {task : Task} {left : List Duty} {id : ClusterId}
  {owner : ClientId} {system later : System} {label : Label}

theorem reclaims_parts (permitted : reclaims deps answer shared task = true) :
    outcomeWritten answer task = true ∧ noPanic deps answer task = true ∧ readStands shared.rows task = true := by
  simp only [reclaims, Bool.and_eq_true] at permitted
  exact ⟨permitted.1.1, permitted.1.2, permitted.2⟩

/-! ## Unsettled rows stay answered for -/

/-- A read that fails leaves the spawn with the state it started from. -/
theorem checking_failed {error : RepositoryError} (fault : answer.repository = some error) (cluster : Cluster)
    (token : CancellationToken) (projectTar : Option (List UInt8)) (result : Except ClusterError ConnectionInfo) :
    (Task.spawn cluster token projectTar (.checking result)).step deps answer shared =
      (shared, [.spawn cluster token projectTar (.persisting cluster.state result)]) := by
  simp only [Task.step, SpawnTask.step, fault]

theorem outcomeWritten_cases (written : outcomeWritten answer task = true) :
    callsSucceed answer task = true ∨
      ∃ cluster token projectTar result error, task = .spawn cluster token projectTar (.checking result) ∧
        answer.repository = some error := by
  unfold outcomeWritten at written
  split at written
  · next cluster token projectTar result =>
    cases fault : answer.repository with
    | none => exact .inl (by simp [callsSucceed, fault])
    | some error => exact .inr ⟨cluster, token, projectTar, result, error, rfl, rfl⟩
  · exact .inl written

/-- What a task covers it hands on, if only its row is not settled yet. -/
theorem Task.handed (written : outcomeWritten answer task = true) (calm : noPanic deps answer task = true)
    (effect : Effect deps answer shared (task.step deps answer shared).1 task
      ((task.step deps answer shared).2.flatMap Task.duties))
    (own : ∀ duty ∈ task.duties, Valid shared duty) (covers : task.Covers id)
    (unsettled : (task.step deps answer shared).1.Unsettled id) :
    ∃ fresh ∈ (task.step deps answer shared).2.flatMap Task.duties, fresh.Covers id := by
  obtain ⟨duty, owed, about⟩ := covers
  rcases outcomeWritten_cases written with succeeds | ⟨cluster, token, projectTar, result, error, rfl, fault⟩
  · exact effect.handed ⟨succeeds, calm⟩ own owed about unsettled
  · rw [checking_failed fault]
    exact ⟨duty, by simpa [Task.duties, SpawnStage.believed] using owed, about⟩

theorem System.AnsweredFor.reclaimed (answered : system.AnsweredFor) (owned : system.Owned)
    (permitted : Reclaiming system label) (moved : system.next label = some later) : later.AnsweredFor := by
  cases label with
  | request request =>
    obtain ⟨-, rfl⟩ := next_request moved
    exact answered.join _
  | world change =>
    obtain ⟨world, -, rfl⟩ := next_world moved
    exact answered
  | restart deps => exact permitted.elim
  | step index answer =>
    obtain ⟨task, found, draws, effect, rfl⟩ := owned.effect moved
    obtain ⟨written, calm, stands⟩ := reclaims_parts (permitted task found)
    apply answered.advance found effect stands
    intro id covers unsettled
    exact Task.handed written calm effect (owned.own found).1 covers unsettled

/-! ## Rows that are gone were torn down -/

/-- A teardown that is under way was entered. -/
def Duty.Entered (shared : Shared) : Duty → Prop
  | .teardown id => id ∈ shared.teardowns
  | .request | .spawn .. | .setWorker _ | .holds .. | .accept _ | .pledge _ | .startup | .recover .. | .lost _ => True

theorem entrance : Discipline (fun _ _ _ _ => True) (fun _ => True) Duty.Entered (fun _ _ => True) where
  symmetric := fun _ _ _ => trivial
  still := by
    intro shared after rows log _
    have same : after.teardowns = shared.teardowns := congrArg (·.2.1) log
    refine ⟨trivial, fun duty entered => ?_⟩
    cases duty <;> simp_all [Duty.Entered]
  request := fun _ _ => ⟨trivial, trivial⟩
  step := by
    intro deps answer shared after task left effect _ _ _ _ own _ _
    refine ⟨trivial, fun fresh member => ?_, List.pairwise_of_forall fun _ _ => trivial,
      fun duty _ entered _ => ⟨?_, fun _ _ => trivial⟩⟩
    · cases fresh with
      | teardown id =>
        rcases effect.tears member with kept | ⟨grown, -⟩
        · exact effect.teardowns_subset (own _ kept).2
        · rw [Duty.Entered, grown]
          exact List.mem_cons_self
      | request | spawn | setWorker | holds | accept | pledge | startup | recover | lost => trivial
    · cases duty with
      | teardown id => exact effect.teardowns_subset entered
      | request | spawn | setWorker | holds | accept | pledge | startup | recover | lost => trivial

abbrev System.Entering (system : System) : Prop :=
  system.Disciplined (fun _ => True) Duty.Entered fun _ _ => True

/-- Of a row that is gone a teardown was entered. -/
def Shared.Torn (shared : Shared) (id : ClusterId) : Prop := shared.row? id = none → id ∈ shared.teardowns

theorem Shared.Torn.step (torn : shared.Torn id) (effect : Effect deps answer shared after task left)
    (own : ∀ duty ∈ task.duties, duty.Entered shared) : after.Torn id := by
  intro missing
  apply effect.teardowns_subset
  cases here : shared.row? id with
  | none => exact torn here
  | some row =>
    obtain ⟨cluster, next, rfl, rfl⟩ := effect.removed_row here missing
    exact own (.teardown cluster.id) List.mem_cons_self

/-! ## A spawn that has ended -/

/-- No spawn of the cluster is left. -/
def System.Ended (system : System) (id : ClusterId) : Prop :=
  ∀ task ∈ system.tasks, ∀ believed, .spawn id believed ∉ task.duties

theorem not_spawn_of_recoveries {todo : List Cluster} {believed : ClusterState} : .spawn id believed ∉ recoveries todo := by
  intro member
  obtain ⟨cluster, -, same⟩ := mem_recoveries.mp member
  cases same

theorem not_spawn_of_serving {duties : List Duty} (serving : ∀ duty ∈ duties, duty.isServing = true)
    {believed : ClusterState} : .spawn id believed ∉ duties := fun member => by cases serving _ member

/-- A spawn goes on, or is that of a row that has just been made. -/
theorem Effect.spawns (effect : Effect deps answer shared after task left) {believed : ClusterState}
    (member : .spawn id believed ∈ left) :
    (∃ before, .spawn id before ∈ task.duties) ∨
      (id = answer.id ∧ ∃ owner service ttl projectTar, task = .create owner service ttl projectTar) := by
  cases effect with
  | quiet rows log fewer => exact .inl ⟨believed, fewer.subset member⟩
  | inserted rows log =>
    cases List.mem_singleton.mp member
    exact .inr ⟨rfl, _, _, _, _, rfl⟩
  | checked rows log found alive =>
    cases List.mem_singleton.mp member
    exact .inl ⟨_, List.mem_cons_self⟩
  | turned rows log fewer =>
    rcases List.mem_cons.mp member with same | later
    · cases same
    · cases List.mem_singleton.mp (fewer.subset later)
  | followed => cases List.mem_singleton.mp member
  | persisted | answered => cases member
  | read rows log found owned =>
    simp only [List.mem_cons, reduceCtorEq, false_or] at member
    exact absurd member (not_spawn_of_serving fun duty inside => Duty.isServing_caller inside)
  | @condemned asked owner reason caller read state written rows log calm =>
    rcases Duty.of_mem_condemned member with same | same | owed | ⟨-, same⟩
    · cases same
    · cases same
    · exact absurd owed (not_spawn_of_serving fun duty inside => Duty.isServing_caller inside)
    · cases same
  | dispatched rows log =>
    simp only [List.mem_cons, reduceCtorEq, false_or] at member
    exact absurd member (not_spawn_of_serving fun duty inside => Duty.isServing_pledges inside)
  | @removed cluster next rows log =>
    cases next with
    | done | unregister => cases member
    | resume todo => exact absurd member not_spawn_of_recoveries
  | listed | failed => exact absurd member not_spawn_of_recoveries
  | marked | resumed | missed =>
    simp only [List.mem_cons, reduceCtorEq, false_or] at member
    exact absurd member not_spawn_of_recoveries

theorem System.Ended.next (ended : system.Ended id) (known : id ∈ system.shared.born) (owned : system.Owned)
    (permitted : OneLifetime system label) (moved : system.next label = some later) : later.Ended id := by
  cases label with
  | request request =>
    obtain ⟨-, rfl⟩ := next_request moved
    intro task member believed owed
    rcases List.mem_append.mp member with old | new
    · exact ended task old believed owed
    · rw [List.mem_singleton.mp new, Request.duties] at owed
      cases List.mem_singleton.mp owed
  | world change =>
    obtain ⟨world, -, rfl⟩ := next_world moved
    exact ended
  | restart deps => exact permitted.elim
  | step index answer =>
    obtain ⟨task, found, draws, effect, rfl⟩ := owned.effect moved
    intro other member believed owed
    rcases List.mem_append.mp member with old | new
    · exact ended other (List.mem_of_mem_eraseIdx old) believed owed
    · rcases effect.spawns (List.mem_flatMap.mpr ⟨other, new, owed⟩) with
        ⟨before, was⟩ | ⟨same, owner, service, ttl, projectTar, rfl⟩
      · exact ended task (List.mem_of_getElem? found) before was
      · simp only [Task.draws, decide_eq_true_eq] at draws
        exact draws (same ▸ known)

/-! ## A `DELETE` on its way -/

/-- A `DELETE` of the cluster for its owner that has not written yet. -/
def Task.Asks (owner : ClientId) (task : Task) (id : ClusterId) : Prop :=
  ∃ read, task = .requestDelete id owner .userRequested .handler read ∧ ∀ row ∈ read, row.id = id

/-- While the row is not condemned, a `DELETE` of it is on its way. -/
def System.Asked (system : System) (owner : ClientId) (id : ClusterId) : Prop :=
  Covered (fun shared other => other = id ∧ ¬ shared.Doomed id) (Task.Asks owner) system.pool

theorem Shared.Doomed.of_missing (missing : shared.row? id = none) : shared.Doomed id := by
  intro state here
  obtain ⟨row, found, -⟩ := Repository.stateOf_eq_some.mp here
  cases found.symm.trans missing

/-- A write whose calls succeed condemns the row, unless it is gone. -/
theorem writeDeletion_dooms (read : Cluster) (now : DateTime) (reason : DeleteReason) :
    Shared.Doomed { shared with rows := (ClusterService.writeDeletion shared.rows none read now reason).2 } read.id := by
  intro state here
  simp only [ClusterService.writeDeletion, transition_deleteRequested] at here
  split at here
  · next error failed =>
    rw [updateState_error failed] at here
    cases here
  · next rows written =>
    rw [Repository.stateOf_updateState written, if_pos rfl, Option.some.injEq] at here
    exact here ▸ condemned_isDeleting ..

/-- Each call of a `DELETE` brings it to the next one, or finds the row gone; the last one condemns it. -/
theorem Task.Asks.step (asks : task.Asks owner id) (calm : answer.repository = none)
    (distinct : Distinct Cluster.id shared.rows) (owned : ∀ row, shared.row? id = some row → row.owner = owner) :
    (∃ fresh ∈ (task.step deps answer shared).2, fresh.Asks owner id) ∨
      (task.step deps answer shared).1.Doomed id := by
  obtain ⟨read, rfl, named⟩ := asks
  cases read with
  | some read =>
    right
    obtain rfl : read.id = id := named read rfl
    simp only [Task.step, ClusterService.requestDelete, calm]
    exact writeDeletion_dooms read answer.now .userRequested
  | none =>
    simp only [Task.step, ClusterService.requestDelete, ClusterService.info, calm]
    cases found : Repository.getOwned shared.rows id owner with
    | some row =>
      left
      refine ⟨_, List.mem_singleton_self _, some row, rfl, fun other same => ?_⟩
      cases same
      exact Repository.getOwned_id found
    | none =>
      right
      apply Shared.Doomed.of_missing
      cases here : shared.row? id with
      | none => rfl
      | some row =>
        cases found.symm.trans ((Repository.getOwned_eq_some distinct).mpr ⟨here, owned row here⟩)

/-- A `DELETE` of a row whose spawn has ended: it is on its way, or the row is condemned. -/
structure System.Releasing (system : System) (owner : ClientId) (id : ClusterId) : Prop where
  entering : system.Entering
  answered : system.AnsweredFor
  ended : system.Ended id
  known : id ∈ system.shared.born
  owned : ∀ row, system.shared.row? id = some row → row.owner = owner
  torn : system.shared.Torn id
  asked : system.Asked owner id

theorem System.Releasing.next (releasing : system.Releasing owner id) (permitted : Reclaiming system label)
    (moved : system.next label = some later) : later.Releasing owner id := by
  have claims := releasing.entering.owned
  have entering := entrance.next releasing.entering permitted.oneLifetime moved
  have answered := releasing.answered.reclaimed claims permitted moved
  have ended := releasing.ended.next releasing.known claims permitted.oneLifetime moved
  cases label with
  | request request =>
    obtain ⟨-, rfl⟩ := next_request moved
    exact ⟨entering, answered, ended, releasing.known, releasing.owned, releasing.torn, releasing.asked.join _⟩
  | world change =>
    obtain ⟨world, -, rfl⟩ := next_world moved
    exact ⟨entering, answered, ended, releasing.known, releasing.owned, releasing.torn, releasing.asked⟩
  | restart deps => exact permitted.elim
  | step index answer =>
    obtain ⟨task, found, draws, effect, rfl⟩ := claims.effect moved
    obtain ⟨written, -, -⟩ := reclaims_parts (permitted task found)
    have own := (releasing.entering.own found).1
    refine ⟨entering, answered, ended, effect.born_subset releasing.known, fun row here => ?_, ?_, ?_⟩
    · obtain ⟨before, there, kept⟩ := effect.kept draws releasing.known here
      exact kept.alike.owner.trans (releasing.owned before there)
    · exact releasing.torn.step effect fun duty owed => (own duty owed).2
    · apply Covered.replace releasing.asked found
      rintro other ⟨rfl, alive⟩
      by_cases mine : task.Asks owner other
      · left
        have calm : answer.repository = none := by
          obtain ⟨read, rfl, -⟩ := mine
          simpa [outcomeWritten, callsSucceed] using written
        rcases mine.step calm claims.shared.ids releasing.owned with goesOn | doomed
        · exact goesOn
        · exact absurd doomed alive
      · refine .inr ⟨⟨rfl, fun doomed => alive ?_⟩, mine⟩
        apply doomed.kept releasing.known effect _ draws fun duty owed => (own duty owed).1
        -- a spawn that could settle the row would be one that has not ended
        rintro cluster token projectTar current result rfl
        refine .inl fun same => ?_
        subst same
        exact releasing.ended _ (List.mem_of_getElem? found) _ List.mem_cons_self

/-- The cluster that a `DELETE` is about, until it has written. -/
def Task.requested : Task → Option ClusterId
  | .requestDelete id _ _ .handler _ => some id
  | _ => none

/-- Whether a task spawns the cluster, tears it down or is about to, or is asked to delete it. -/
def Task.Concerns (task : Task) (id : ClusterId) : Prop := task.Covers id ∨ task.requested = some id

theorem System.Releasing.released (releasing : system.Releasing owner id)
    (rests : ∀ task ∈ system.tasks, ¬ task.Concerns id) :
    system.shared.row? id = none ∧ id ∈ system.shared.teardowns := by
  have doomed : system.shared.Doomed id := by
    by_contra alive
    obtain ⟨task, member, read, rfl, -⟩ := releasing.asked id ⟨rfl, alive⟩
    exact rests _ member (.inr rfl)
  have gone : system.shared.row? id = none := by
    cases here : system.shared.row? id with
    | none => rfl
    | some row =>
      have state := Repository.stateOf_eq_some.mpr ⟨row, here, rfl⟩
      have unsettled := (ClusterState.calm_of_isDeleting (doomed _ state)).1
      obtain ⟨task, member, covers⟩ := releasing.answered id ⟨row.state, state, unsettled⟩
      exact absurd (.inl covers) (rests task member)
  exact ⟨gone, releasing.torn gone⟩

/-! ## A spawn whose outcome is lost -/

/-- Nobody but a spawn that is no more would settle the row or tear it down. -/
structure System.Forgotten (system : System) (id : ClusterId) (believed : ClusterState) : Prop where
  valid : Valid system.shared (.spawn id believed)
  apart : ∀ task ∈ system.tasks, ∀ mine ∈ task.duties, Apart mine (.spawn id believed)

theorem Duty.Entitles.covers {duty : Duty} (entitles : duty.Entitles id) : duty.Covers id := by
  cases duty <;> first | exact entitles | cases entitles

theorem Duty.Apart.uncovered {duty : Duty} {believed : ClusterState} (apart : Apart duty (.spawn id believed)) :
    ¬ duty.Covers id := by
  intro covers
  cases duty with
  | startup => cases apart.before
  | spawn | pledge | teardown | recover =>
    cases covers
    cases apart.claims id rfl rfl _ _ rfl rfl
  | request | setWorker | holds | accept | lost => cases covers

theorem System.Forgotten.next {believed : ClusterState} (forgotten : system.Forgotten id believed) (owned : system.Owned)
    (permitted : OneLifetime system label) (moved : system.next label = some later) :
    later.Forgotten id believed ∧ later.shared.teardowns.count id = system.shared.teardowns.count id := by
  obtain ⟨valid, apart⟩ := forgotten
  cases label with
  | request request =>
    obtain ⟨-, rfl⟩ := next_request moved
    refine ⟨⟨valid, fun task member mine owed => ?_⟩, rfl⟩
    rcases List.mem_append.mp member with old | new
    · exact apart task old mine owed
    · rw [List.mem_singleton.mp new, Request.duties] at owed
      rw [List.mem_singleton.mp owed]
      exact Apart.of_ne rfl rfl fun _ about => by cases about
  | world change =>
    obtain ⟨world, -, rfl⟩ := next_world moved
    exact ⟨⟨⟨valid.known, valid.sound⟩, apart⟩, rfl⟩
  | restart deps => exact permitted.elim
  | step index answer =>
    obtain ⟨task, found, draws, effect, rfl⟩ := owned.effect moved
    have mine := apart task (List.mem_of_getElem? found)
    refine ⟨⟨effect.others draws valid mine, fun other member duty owed => ?_⟩, ?_⟩
    · rcases List.mem_append.mp member with old | new
      · exact apart other (List.mem_of_mem_eraseIdx old) duty owed
      · exact effect.across draws valid mine duty (List.mem_flatMap.mpr ⟨other, new, owed⟩)
    · rcases effect.enters with same | ⟨other, grown, duty, owed, entitles⟩
      · rw [same]
      · rw [grown, List.count_cons_of_ne]
        rintro rfl
        exact (mine duty owed).uncovered entitles.covers

theorem System.Forgotten.run {believed : ClusterState} (forgotten : system.Forgotten id believed) (owned : system.Owned)
    (run : Run System.next OneLifetime system later) :
    later.Forgotten id believed ∧ later.shared.teardowns.count id = system.shared.teardowns.count id := by
  have both : later.Owned ∧ later.Forgotten id believed ∧
      later.shared.teardowns.count id = system.shared.teardowns.count id := by
    induction run with
    | refl => exact ⟨owned, forgotten, rfl⟩
    | step label earlier permitted moved ih =>
      obtain ⟨owned, forgotten, same⟩ := ih
      obtain ⟨still, counted⟩ := forgotten.next owned permitted moved
      exact ⟨owned.next moved, still, counted.trans same⟩
  exact both.2

/-- The write of an outcome fails: the spawn leaves, and everybody else keeps off. -/
theorem System.Owned.forgets (owned : system.Owned) {index : Nat} {cluster : Cluster} {token : CancellationToken}
    {projectTar : Option (List UInt8)} {current : ClusterState} {result : Except ClusterError ConnectionInfo}
    (found : system.tasks[index]? = some (.spawn cluster token projectTar (.persisting current result)))
    {error : RepositoryError} (fault : answer.repository = some error)
    (moved : system.next (.step index answer) = some later) :
    later.Forgotten cluster.id current ∧ later.shared.teardowns = system.shared.teardowns := by
  obtain ⟨task, here, -, rfl⟩ := next_step moved
  obtain rfl := Option.some.inj (found.symm.trans here)
  have valid := (owned.own found).1 _ List.mem_cons_self
  -- nothing but the registration is left to end
  have nothing : (Task.step system.deps answer system.shared
        (.spawn cluster token projectTar (.persisting current result))).1 = system.shared ∧
      (Task.step system.deps answer system.shared
        (.spawn cluster token projectTar (.persisting current result))).2.flatMap Task.duties = [] := by
    simp only [Task.step, SpawnTask.step]
    split
    · exact ⟨rfl, rfl⟩
    · simp [SpawnTask.persist, fault, Task.duties]
  obtain ⟨same, none_left⟩ := nothing
  have kept : (system.advance index answer (.spawn cluster token projectTar (.persisting current result))).shared =
      system.shared := same
  refine ⟨⟨by rwa [kept], fun other member mine owed => ?_⟩, by rw [kept]⟩
  rcases List.mem_append.mp member with old | new
  · exact (owned.apart found old _ List.mem_cons_self mine owed).symm
  · have owing := List.mem_flatMap.mpr ⟨other, new, owed⟩
    rw [none_left] at owing
    cases owing

/-! ## Whole runs -/

/-- A `DELETE` by the owner leads to a teardown and the removal of the row: both have happened once no task has to
do with the cluster any more. -/
def System.Deletable (system : System) (id : ClusterId) : Prop :=
  ∀ row requested finish, system.shared.row? id = some row →
    system.next (.request (.delete id row.owner)) = some requested → Run System.next Reclaiming requested finish →
    (∀ task ∈ finish.tasks, ¬ task.Concerns id) → finish.shared.row? id = none ∧ id ∈ finish.shared.teardowns

/-- Where the cluster has containers its row is `Ready` or `Failed`, or they are being torn down. -/
def System.Accounted (system : System) (id : ClusterId) : Prop :=
  ∀ dir, (id, dir) ∈ system.shared.world.resources → id ∉ system.shared.stray →
    (∃ state, stateOf system.shared.rows id = some state ∧ state.isSettled = true) ∨
      ∃ task ∈ system.tasks, task.Covers id

theorem System.AnsweredFor.accounted (answered : system.AnsweredFor) (housed : system.Housed) (id : ClusterId) :
    system.Accounted id := by
  intro dir resource unstrayed
  cases here : system.shared.row? id with
  | none => exact absurd (housed.world.gone id dir (.inl resource) here) unstrayed
  | some row =>
    have state := Repository.stateOf_eq_some.mpr ⟨row, here, rfl⟩
    cases settled : row.state.isSettled with
    | true => exact .inl ⟨row.state, state, settled⟩
    | false => exact .inr (answered id ⟨row.state, state, settled⟩)

theorem System.Releasing.run (releasing : system.Releasing owner id) (run : Run System.next Reclaiming system later) :
    later.Releasing owner id := by
  induction run with
  | refl => exact releasing
  | step label earlier permitted moved ih => exact ih.next permitted moved

theorem reclaiming_run (entered : system.Entering) (answered : system.AnsweredFor)
    (run : Run System.next Reclaiming system later) : later.Entering ∧ later.AnsweredFor := by
  induction run with
  | refl => exact ⟨entered, answered⟩
  | step label earlier permitted moved ih =>
    obtain ⟨entered, answered⟩ := ih
    exact ⟨entrance.next entered permitted.oneLifetime moved, answered.reclaimed entered.owned permitted moved⟩

theorem System.Ended.deletable (ended : system.Ended id) (entered : system.Entering) (answered : system.AnsweredFor) :
    system.Deletable id := by
  intro row requested finish here asked run rests
  have known : id ∈ system.shared.born :=
    entered.owned.shared.stateOf_born (Repository.stateOf_eq_some.mpr ⟨row, here, rfl⟩)
  have permitted : OneLifetime system (.request (.delete id row.owner)) := trivial
  have releasing : requested.Releasing row.owner id := by
    have ended := ended.next known entered.owned permitted asked
    have entered := entrance.next entered permitted asked
    obtain ⟨-, rfl⟩ := next_request asked
    refine ⟨entered, answered.join _, ended, known, fun other there => ?_, fun missing => ?_, fun other wanted => ?_⟩
    · rw [Option.some.inj (here.symm.trans there)]
    · cases here.symm.trans missing
    · obtain ⟨rfl, -⟩ := wanted
      exact ⟨_, List.mem_append_right _ (List.mem_singleton_self _), none, rfl, fun _ none_read => by cases none_read⟩
  exact (releasing.run run).released rests

/-- Whatever call of a spawn fails but the last, a `DELETE` still removes the cluster once the spawn has ended, and its
containers are those of a visible row or being torn down. Where the last one fails, nobody ever tears it down. -/
theorem deletable_unless_outcome_lost {first deps : TaskDeps} {before start finish : System}
    (history : Run System.next (fun _ _ => True) (.boot first .empty) before)
    (booted : before.next (.restart deps) = some start) (run : Run System.next Reclaiming start finish) :
    (∀ id, finish.Ended id → finish.Deletable id ∧ finish.Accounted id) ∧
    ∀ index answer cluster token projectTar current result error failed last,
      finish.tasks[index]? = some (.spawn cluster token projectTar (.persisting current result)) →
      answer.repository = some error → finish.next (.step index answer) = some failed →
      Run System.next OneLifetime failed last →
      last.shared.Unsettled cluster.id ∧
        last.shared.teardowns.count cluster.id = finish.shared.teardowns.count cluster.id ∧
        ∀ task ∈ last.tasks, ¬ task.Covers cluster.id := by
  have started : Started start := by
    obtain ⟨-, rfl⟩ := next_restart booted
    exact .boot deps history
  have initial : start.Entering := started.disciplined (fun _ _ _ _ => trivial) fun _ _ => trivial
  obtain ⟨entered, answered⟩ := reclaiming_run initial started.answeredFor run
  have housed : finish.Housed :=
    run.invariant ((housed_of_run history).next booted) fun _ _ _ housed _ moved => housed.next moved
  constructor
  · exact fun id ended => ⟨ended.deletable entered answered, answered.accounted housed id⟩
  · intro index answer cluster token projectTar current result error failed last found fault moved rest
    obtain ⟨forgotten, same⟩ := entered.owned.forgets found fault moved
    obtain ⟨still, counted⟩ := forgotten.run (entered.owned.next moved) rest
    refine ⟨still.valid.sound.2, counted.trans (by rw [same]), ?_⟩
    rintro task member ⟨duty, owed, covers⟩
    exact (still.apart task member duty owed).uncovered covers

/-- The row cannot be read again; the spawn writes its outcome over the state it started from. -/
def untilUnread : List Label :=
  untilCreated ++ [.step 0 { spawn := .returns (.ok smallConnection) },
    .step 0 { repository := some (.db "database is locked") }, .step 0 {}, .step 0 {}]

/-- A spawn whose row could not be read again, and then a `DELETE`. -/
theorem deletable_unless_outcome_lost_unread : ∃ finish last : System,
    (finish.shared.row? smallId).isSome ∧ last.shared.row? smallId = none ∧ smallId ∈ last.shared.teardowns := by
  have evaluated : ((follow System.next (permitted reclaims) smallStart untilUnread).bind fun finish =>
      (finish.next smallDelete).bind fun requested =>
        (follow System.next (permitted reclaims) requested (List.replicate 6 (.step 0 {}))).map fun last =>
          (finish.tasks.length, (finish.shared.row? smallId).map Cluster.owner, last.tasks.length)) =
      some (0, some ⟨"alice"⟩, 0) := by
    decide +kernel
  obtain ⟨finish, followed, rest⟩ := Option.bind_eq_some_iff.mp evaluated
  obtain ⟨requested, asked, rest⟩ := Option.bind_eq_some_iff.mp rest
  obtain ⟨last, released, seen⟩ := Option.map_eq_some_iff.mp rest
  simp only [Prod.mk.injEq] at seen
  obtain ⟨ended, owned, none_left⟩ := seen
  obtain ⟨row, here, owner⟩ := Option.map_eq_some_iff.mp owned
  have history : Run System.next (fun _ _ => True) (.boot smallDeps .empty) (.boot smallDeps .empty) := .refl
  have booted : (System.boot smallDeps .empty).next (.restart smallDeps) = some smallStart := by
    simp only [System.next]
    exact if_pos ⟨rfl, rfl, rfl⟩
  have idle : finish.Ended smallId := by
    rw [System.Ended, List.length_eq_zero_iff.mp ended]
    exact fun _ member => (List.not_mem_nil member).elim
  have deletable := ((deletable_unless_outcome_lost history booted (run_of_permitted followed)).1 smallId idle).1
  have gone := deletable row requested last here (owner ▸ asked) (run_of_permitted released) (by
    rw [List.length_eq_zero_iff.mp none_left]
    exact fun _ member => (List.not_mem_nil member).elim)
  exact ⟨finish, last, by rw [here]; rfl, gone⟩

/-- Eleven days after the epoch. -/
def muchLater : DateTime := ⟨1000000000000000, by decide, by decide⟩

/-- The write of a spawn's outcome. -/
def Task.persists : Task → Bool
  | .spawn _ _ _ (.persisting ..) => true
  | _ => false

/-- The spawn succeeds, and its outcome cannot be written. A `DELETE` and a late sweep all of whose calls succeed leave
the row `Deleting` and the container running, with no teardown entered and nothing left to do. -/
theorem outcome_lost : ∃ start ended last,
    Started start ∧
    Run System.next (Permits fun deps answer _ task =>
      ((callsSucceed answer task || task.persists) && noPanic deps answer task) = true) start ended ∧
    ended.tasks.length = 0 ∧
    Run System.next (Permits fun deps answer _ task => (callsSucceed answer task && noPanic deps answer task) = true)
      ended last ∧
    last.tasks.length = 0 ∧ last.shared.accepted = [smallId] ∧ last.shared.teardowns = [] ∧
    stateOf last.shared.rows smallId = some (.deleting .epoch .userRequested) ∧
    last.shared.world.resources = [(smallId, ⟨"agent1", 0⟩)] ∧ last.shared.stray = [] := by
  have evaluated : ((follow System.next
      (permitted fun deps answer _ task => (callsSucceed answer task || task.persists) && noPanic deps answer task) smallStart
      (untilPersisting ++ [.step 0 { repository := some (.db "database is locked") }, .step 0 {}])).bind fun ended =>
        (follow System.next (permitted fun deps answer _ task => callsSucceed answer task && noPanic deps answer task) ended
          [smallDelete, .step 0 {}, .step 0 {}, .step 0 {}, .request .sweep, .step 0 { now := muchLater }, .step 0 {},
            .step 0 {}, .step 0 {}]).map fun last =>
              decide (ended.tasks.length = 0 ∧ last.tasks.length = 0 ∧ last.shared.accepted = [smallId] ∧
                last.shared.teardowns = [] ∧
                stateOf last.shared.rows smallId = some (.deleting .epoch .userRequested) ∧
                last.shared.world.resources = [(smallId, ⟨"agent1", 0⟩)] ∧ last.shared.stray = [])) = some true := by
    decide +kernel
  obtain ⟨ended, persisted, rest⟩ := Option.bind_eq_some_iff.mp evaluated
  obtain ⟨last, followed, seen⟩ := Option.map_eq_some_iff.mp rest
  obtain ⟨idle, rest⟩ := of_decide_eq_true seen
  exact ⟨smallStart, ended, last, smallStart_started, run_of_permitted persisted, idle, run_of_permitted followed, rest⟩

end AppSalmon
