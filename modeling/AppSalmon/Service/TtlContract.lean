import AppSalmon.Service.Ownership
import AppSalmon.Service.Passes
import AppSalmon.Service.Successors

/-! When clusters expire.

The deadline of a `Ready` row is computed once, from the copy of the row that its
spawn holds. A sweep decides by what it has listed, and condemns what it reads
again; what it has listed as settled does not become anything but `Deleting`.
-/

set_option autoImplicit false

namespace AppSalmon

open KeyedTable TaskPool
open Repository (Rows stateOf)
open Duty (Valid Apart)

variable {deps : TaskDeps} {answer : Answer} {shared after : Shared} {task : Task} {left : List Duty} {id : ClusterId}

/-! ## Rows and their deadlines -/

theorem Effect.requestedTtl (effect : Effect deps answer shared after task left) (drawn : task.draws answer shared = true)
    {later : Cluster} (known : id ∈ shared.born) (found : after.row? id = some later) :
    ∃ before, shared.row? id = some before ∧ later.requestedTtl = before.requestedTtl := by
  obtain ⟨before, here, rfl | ⟨worker, -, rfl⟩ | ⟨state, rfl⟩⟩ := effect.rewrites drawn known found
  · exact ⟨_, here, rfl⟩
  · exact ⟨before, here, rfl⟩
  · exact ⟨before, here, rfl⟩

/-- A copy of a row has its TTL. -/
theorem Effect.copies (effect : Effect deps answer shared after task left) (drawn : task.draws answer shared = true)
    {cluster : Cluster} (copy : cluster.id ∈ shared.born ∧
      ∀ row, shared.row? cluster.id = some row → row.requestedTtl = cluster.requestedTtl) :
    cluster.id ∈ after.born ∧ ∀ row, after.row? cluster.id = some row → row.requestedTtl = cluster.requestedTtl := by
  refine ⟨effect.born_subset copy.1, fun row here => ?_⟩
  obtain ⟨before, there, same⟩ := effect.requestedTtl drawn copy.1 here
  exact same.trans (copy.2 before there)

/-- A row that is settled stays as it is or begins to be deleted, unless its spawn or reconciliation acts. -/
theorem Effect.rests (effect : Effect deps answer shared after task left) (drawn : task.draws answer shared = true)
    (known : id ∈ shared.born) (serving : ∀ duty ∈ task.duties, duty.side ≠ some .recovering)
    (free : ∀ believed, .spawn id believed ∉ task.duties) {seen : ClusterState}
    (row : ∀ state, stateOf shared.rows id = some state → state = seen ∨ state.isDeleting = true) :
    (∀ state, stateOf after.rows id = some state → state = seen ∨ state.isDeleting = true) ∧
      ∀ believed, .spawn id believed ∉ left := by
  have same (rows : after.rows = shared.rows) :
      ∀ state, stateOf after.rows id = some state → state = seen ∨ state.isDeleting = true := by
    rw [rows]
    exact row
  have elsewhere {other : ClusterId} {state : ClusterState}
      (written : Repository.updateState shared.rows other state = .ok after.rows) (different : id ≠ other) :
      ∀ state, stateOf after.rows id = some state → state = seen ∨ state.isDeleting = true := by
    intro later here
    rw [Repository.stateOf_updateState written, if_neg different] at here
    exact row later here
  have unpledged {results : List (Cluster × DeleteOutcome)} {believed : ClusterState} :
      Duty.spawn id believed ∉ pledges results := by
    intro owed
    cases Duty.isServing_pledges owed
  have unlisted {todo : List Cluster} {believed : ClusterState} : Duty.spawn id believed ∉ recoveries todo := by
    intro owed
    obtain ⟨cluster, -, same⟩ := mem_recoveries.mp owed
    cases same
  cases effect with
  | quiet rows log fewer =>
    refine ⟨fun state here => row state (stateOf_quiet rows id ▸ here), fun believed member => ?_⟩
    exact free believed (fewer.subset member)
  | inserted rows log =>
    have fresh : id ≠ answer.id := by
      rintro rfl
      simp only [Task.draws, decide_eq_true_eq] at drawn
      exact drawn known
    refine ⟨fun state here => ?_, fun believed member => ?_⟩
    · rw [Repository.stateOf_insert rows, if_neg] at here
      · exact row state here
      · exact fresh
    · cases List.mem_singleton.mp member
      exact fresh rfl
  | turned rows log fewer =>
    refine ⟨same rows, fun believed member => ?_⟩
    rcases List.mem_cons.mp member with other | later
    · cases other
    · cases List.mem_singleton.mp (fewer.subset later)
  | checked rows log =>
    refine ⟨same rows, fun believed member => ?_⟩
    cases List.mem_singleton.mp member
    exact free _ List.mem_cons_self
  | persisted rows log =>
    refine ⟨elsewhere rows ?_, fun believed member => (List.not_mem_nil member).elim⟩
    rintro rfl
    exact free _ List.mem_cons_self
  | read rows log =>
    refine ⟨same rows, fun believed member => ?_⟩
    simp only [List.mem_cons, reduceCtorEq, false_or] at member
    cases Duty.isServing_caller member
  | @condemned other owner reason caller read state written rows log calm =>
    refine ⟨fun later here => ?_, fun believed member => ?_⟩
    · rw [Repository.stateOf_updateState rows] at here
      split at here
      · cases here
        exact .inr (written ▸ condemned_isDeleting ..)
      · exact row later here
    · rcases Duty.of_mem_condemned member with same | same | owed | ⟨-, same⟩
      · cases same
      · cases same
      · cases Duty.isServing_caller owed
      · cases same
  | answered other rows log => exact ⟨same rows, fun believed member => (List.not_mem_nil member).elim⟩
  | followed rows log => exact ⟨same rows, by simp⟩
  | dispatched rows log =>
    refine ⟨same rows, fun believed member => ?_⟩
    simp only [List.mem_cons, reduceCtorEq, false_or] at member
    exact unpledged member
  | removed rows log =>
    refine ⟨fun state here => ?_, fun believed member => free believed (List.mem_cons_of_mem _ member)⟩
    rw [rows, Repository.stateOf_delete] at here
    split at here
    · cases here
    · exact row state here
  | listed rows log => exact ⟨same rows, fun believed => unlisted⟩
  | marked orphan rows log | failed rows log => exact (serving _ List.mem_cons_self rfl).elim
  | resumed doomed rows log | missed ready rows log => exact (serving _ List.mem_cons_self rfl).elim

/-! ## What a sweep goes by -/

/-- The row was seen settled, in this state: it is still in it, being deleted, or gone, and nobody spawns it. -/
structure System.Rests (system : System) (id : ClusterId) (seen : ClusterState) : Prop where
  known : id ∈ system.shared.born
  row : ∀ state, stateOf system.shared.rows id = some state → state = seen ∨ state.isDeleting = true
  free : ∀ task ∈ system.tasks, ∀ believed, .spawn id believed ∉ task.duties

/-- A row that is settled now. -/
theorem System.Owned.rests {system : System} (owned : system.Owned) {row : Cluster} (member : row ∈ system.shared.rows)
    (settled : row.state.isSettled = true) : system.Rests row.id row.state := by
  have here : stateOf system.shared.rows row.id = some row.state :=
    Repository.stateOf_eq_some.mpr ⟨row, owned.shared.ids.lookup_of_mem member, rfl⟩
  refine ⟨owned.shared.born row member, fun state found => ?_, fun task inside believed owed => ?_⟩
  · exact .inl (Option.some.inj (found.symm.trans here))
  · obtain ⟨-, state, found, unsettled⟩ := (owned.each task inside _ owed).sound
    obtain rfl : state = row.state := Option.some.inj (found.symm.trans here)
    rw [unsettled] at settled
    cases settled

/-- While some request is served, reconciliation is over. -/
theorem serving_of_apart {other : Task} (apart : ∀ mine ∈ task.duties, ∀ duty ∈ other.duties, Apart mine duty)
    (requests : .request ∈ other.duties) : ∀ duty ∈ task.duties, duty.side ≠ some .recovering := by
  intro duty member recovering
  have free := (apart duty member _ requests).after
  simp [Duty.excludes, recovering] at free

theorem System.Rests.advance {system : System} {index : Nat} {answer : Answer} {seen : ClusterState}
    (rests : system.Rests id seen) (found : system.tasks[index]? = some task)
    (drawn : task.draws answer system.shared = true)
    (effect : Effect system.deps answer system.shared (system.advance index answer task).shared task
      ((task.step system.deps answer system.shared).2.flatMap Task.duties))
    (serving : ∀ duty ∈ task.duties, duty.side ≠ some .recovering) : (system.advance index answer task).Rests id seen := by
  obtain ⟨row, none_left⟩ := effect.rests drawn rests.known serving
    (rests.free task (List.mem_of_getElem? found)) rests.row
  refine ⟨effect.born_subset rests.known, row, fun other member believed owed => ?_⟩
  rcases List.mem_append.mp member with old | new
  · exact rests.free other (List.mem_of_mem_eraseIdx old) believed owed
  · exact none_left believed (List.mem_flatMap.mpr ⟨other, new, owed⟩)

/-! ## What a task knows of its row's time -/

/-- What a run has seen so far: which rows were created, with which TTL, and which were reaped in time. -/
structure Past where
  created : ClusterId → TimeDelta → Prop
  expired : ClusterId → Prop

structure Past.Grows (past later : Past) : Prop where
  created : ∀ {id ttl}, past.created id ttl → later.created id ttl
  expired : ∀ {id}, past.expired id → later.expired id

structure Shared.Timed (past : Past) (shared : Shared) : Prop where
  created : ∀ row ∈ shared.rows, past.created row.id row.requestedTtl
  ready : ∀ row ∈ shared.rows, ∀ readyAt decommissionAt connection,
    row.state = .ready readyAt decommissionAt connection → readyAt.add? row.requestedTtl = some decommissionAt
  expired : ∀ row ∈ shared.rows, ∀ since, row.state = .deleting since .ttlExpired → past.expired row.id

/-- The listed rows that are settled rest. -/
def System.Watches (system : System) (todo : List Cluster) : Prop :=
  ∀ cluster ∈ todo, cluster.state.isSettled = true → system.Rests cluster.id cluster.state

/-- No spawn is to be cancelled. -/
def Calm (results : List (Cluster × DeleteOutcome)) : Prop := ∀ result ∈ results, result.2 ≠ .cancelSpawn

/-- What a delete request has read, and may write back. -/
def ReadBack (past : Past) (id : ClusterId) (read : Option Cluster) : Prop :=
  ∀ row, read = some row → row.id = id ∧ ∀ since, row.state = .deleting since .ttlExpired → past.expired id

/-- A request of the reaper: the row was due when it was listed. -/
structure System.Reaps (past : Past) (system : System) (id : ClusterId) (reason : DeleteReason) (read : Option Cluster)
    (now : DateTime) (todo : List Cluster) (results : List (Cluster × DeleteOutcome)) : Prop where
  readBack : ReadBack past id read
  watches : system.Watches todo
  calm : Calm results
  due : ∃ seen, TtlReaper.dueForReaping seen now system.deps.failedGracePeriod = some (some reason) ∧
    system.Rests id seen ∧ ∀ row, read = some row → row.state = seen ∨ row.state.isDeleting = true

def Task.Timed (past : Past) (system : System) : Task → Prop
  | .create _ _ ttl _ => ttl.WholeSeconds
  | .launch cluster _ | .spawn cluster _ _ _ =>
    cluster.id ∈ system.shared.born ∧ ∀ row, system.shared.row? cluster.id = some row → row.requestedTtl = cluster.requestedTtl
  | .requestDelete id _ reason .handler read => reason = .userRequested ∧ ReadBack past id read
  | .requestDelete id _ reason (.reaper now todo results) read => system.Reaps past id reason read now todo results
  | .reap _ todo results => system.Watches todo ∧ Calm results
  | .dispatch results => Calm results
  | .unregister _ | .teardown .. | .followDelete .. | .sweep | .late _ | .staging .. | .reconcile | .reconcileRows _
  | .reconcileLost .. => True

theorem ReadBack.grow {past later : Past} {read : Option Cluster} (readBack : ReadBack past id read)
    (grows : past.Grows later) : ReadBack later id read :=
  fun row same => ⟨(readBack row same).1, fun since state => grows.expired ((readBack row same).2 since state)⟩

/-- What a task knows stays true while another one acts. -/
theorem Task.Timed.beside {past later : Past} {system : System} {index : Nat} {answer : Answer} {other : Task}
    (timed : other.Timed past system) (grows : past.Grows later) (found : system.tasks[index]? = some task)
    (drawn : task.draws answer system.shared = true)
    (effect : Effect system.deps answer system.shared (system.advance index answer task).shared task
      ((task.step system.deps answer system.shared).2.flatMap Task.duties))
    (apart : ∀ mine ∈ task.duties, ∀ duty ∈ other.duties, Duty.Apart mine duty) :
    other.Timed later (system.advance index answer task) := by
  have rests (requests : .request ∈ other.duties) {id : ClusterId} {seen : ClusterState} (before : system.Rests id seen) :
      (system.advance index answer task).Rests id seen :=
    before.advance found drawn effect (serving_of_apart apart requests)
  cases other with
  | create => exact timed
  | launch | spawn => exact effect.copies drawn timed
  | requestDelete id owner reason caller read =>
    have requests : .request ∈ (Task.requestDelete id owner reason caller read).duties := by
      cases read <;> exact List.mem_cons_self
    cases caller with
    | handler => exact ⟨timed.1, timed.2.grow grows⟩
    | reaper now todo results =>
      obtain ⟨seen, due, before, same⟩ := timed.due
      exact ⟨timed.readBack.grow grows, fun cluster member settled => rests requests (timed.watches cluster member settled),
        timed.calm, seen, due, rests requests before, same⟩
  | reap now todo results =>
    exact ⟨fun cluster member settled => rests List.mem_cons_self (timed.1 cluster member settled), timed.2⟩
  | dispatch => exact timed
  | unregister | teardown | followDelete | sweep | late | staging | reconcile | reconcileRows | reconcileLost => trivial

/-! ## One step -/

/-- Some step has created the row, under limits that its TTL is within. -/
def CreatedUnder (id : ClusterId) (ttl : TimeDelta) (before : System) (label : Label) (after : System) : Prop :=
  ∃ index answer owner service projectTar, label = .step index answer ∧
    before.tasks[index]? = some (.create owner service ttl projectTar) ∧ before.shared.row? id = none ∧
    (∃ row, after.shared.row? id = some row ∧ row.requestedTtl = ttl) ∧
    before.deps.limits.minTtl ≤ ttl ∧ ttl ≤ before.deps.limits.maxTtl

/-- Some step of a sweep has condemned the row, which it had read `Ready` and past its deadline. -/
def ExpiredBySweep (id : ClusterId) (before : System) (label : Label) (after : System) : Prop :=
  ∃ index answer owner now todo results read readyAt decommissionAt connection, label = .step index answer ∧
    before.tasks[index]? = some (.requestDelete id owner .ttlExpired (.reaper now todo results) (some read)) ∧
    read.state = .ready readyAt decommissionAt connection ∧ decommissionAt ≤ now ∧
    (∀ state, stateOf before.shared.rows id = some state → state = read.state ∨ state.isDeleting = true) ∧
    stateOf after.shared.rows id = some (.deleting answer.now .ttlExpired)

/-- The states that a task may write to a row. -/
def Task.Writes (answer : Answer) (id : ClusterId) (state : ClusterState) : Task → Prop
  | .spawn cluster _ _ (.persisting current result) => cluster.id = id ∧ ∃ event,
    SpawnTask.outcomeEvent answer.now cluster.requestedTtl result = some event ∧ transition current event = .ok state
  | .requestDelete _ _ reason _ (some read) =>
    read.id = id ∧ state = if read.state.isDeleting then read.state else .deleting answer.now reason
  | .reconcileRows _ => state = .deleting answer.now .adminForced
  | .reconcileLost .. => state = .failed answer.now "lost after restart"
  | _ => False

theorem persist_writes (shared : Shared) (fault : Option RepositoryError) (id : ClusterId) (current : ClusterState)
    (event : ClusterEvent) :
    (SpawnTask.persist shared fault id current event).rows = shared.rows ∨
      ∃ state, transition current event = .ok state ∧
        Repository.updateState shared.rows id state = .ok (SpawnTask.persist shared fault id current event).rows := by
  unfold SpawnTask.persist
  split
  · next state moved =>
    split
    · next rows written => exact .inr ⟨state, moved, written⟩
    · exact .inl rfl
  · exact .inl rfl

/-- A row that was there keeps its TTL, and its state unless the task writes another. -/
theorem step_row (effect : Effect deps answer shared (task.step deps answer shared).1 task left)
    (drawn : task.draws answer shared = true) {later : Cluster} (known : id ∈ shared.born)
    (found : (task.step deps answer shared).1.row? id = some later) :
    ∃ before, shared.row? id = some before ∧ later.requestedTtl = before.requestedTtl ∧
      (later.state = before.state ∨ task.Writes answer id later.state) := by
  obtain ⟨before, here, ttl⟩ := effect.requestedTtl drawn known found
  refine ⟨before, here, ttl, ?_⟩
  have was := Repository.stateOf_eq_some.mpr ⟨before, here, rfl⟩
  have is := Repository.stateOf_eq_some.mpr ⟨later, found, rfl⟩
  have same (rows : (task.step deps answer shared).1.rows = shared.rows) : later.state = before.state := by
    rw [rows, was, Option.some.injEq] at is
    exact is.symm
  have written {other : ClusterId} {state : ClusterState}
      (done : Repository.updateState shared.rows other state = .ok (task.step deps answer shared).1.rows)
      (writes : other = id → task.Writes answer id state) : later.state = before.state ∨ task.Writes answer id later.state := by
    rw [Repository.stateOf_updateState done] at is
    split at is
    · next asked =>
      rw [← Option.some.inj is]
      exact .inr (writes asked.symm)
    · rw [was, Option.some.injEq] at is
      exact .inl is.symm
  cases effect with
  | quiet rows log =>
    rw [stateOf_quiet rows, was, Option.some.injEq] at is
    exact .inl is.symm
  | inserted rows log =>
    rw [Repository.stateOf_insert rows, if_neg, was, Option.some.injEq] at is
    · exact .inl is.symm
    · rintro rfl
      simp only [Task.draws, decide_eq_true_eq] at drawn
      exact drawn known
  | @persisted cluster token projectTar current state result rows log settled calm made =>
    simp only [Task.step, SpawnTask.step] at same written
    split at same
    · exact .inl (same rfl)
    · next event made =>
      rcases persist_writes shared answer.repository cluster.id current event with unmoved | ⟨next, moved, done⟩
      · exact .inl (same unmoved)
      · simp only [made] at written
        exact written done fun asked => ⟨asked, event, made, moved⟩
  | condemned done rows => exact written rows fun asked => ⟨asked, done⟩
  | marked orphan rows | failed rows => exact written rows fun _ => rfl
  | removed rows log =>
    rw [rows, Repository.stateOf_delete] at is
    split at is
    · cases is
    · rw [was, Option.some.injEq] at is
      exact .inl is.symm
  | turned rows log | checked rows log | read rows log | answered other rows log | followed rows log
  | dispatched rows log | listed rows log | resumed doomed rows log | missed ready rows log => exact .inl (same rows)

/-- What holds of the table and of every task. -/
structure System.Timed (past : Past) (system : System) : Prop where
  owned : system.Owned
  shared : system.shared.Timed past
  tasks : ∀ task ∈ system.tasks, task.Timed past system

/-- Whatever a step adds to the past is part of it afterwards. -/
structure Past.Next (past later : Past) (system : System) (label : Label) (after : System) : Prop where
  grows : past.Grows later
  created : ∀ id ttl, CreatedUnder id ttl system label after → later.created id ttl
  expired : ∀ id, ExpiredBySweep id system label after → later.expired id

variable {past later : Past} {system : System} {index : Nat}

/-- A fresh row is one that `create` has checked and inserted. -/
theorem created_fresh (owned : system.Owned) (timed : ∀ task ∈ system.tasks, task.Timed past system)
    (found : system.tasks[index]? = some task)
    (effect : Effect system.deps answer system.shared (system.advance index answer task).shared task left)
    {row : Cluster} (member : row ∈ (system.advance index answer task).shared.rows) (unknown : row.id ∉ system.shared.born) :
    row.state.isSpawning = true ∧
      CreatedUnder row.id row.requestedTtl system (.step index answer) (system.advance index answer task) := by
  have table := effect.table owned.shared
  have grown : row.id ∈ (system.advance index answer task).shared.born := table.born row member
  have isFound : (system.advance index answer task).shared.row? row.id = some row := table.ids.lookup_of_mem member
  have missing : system.shared.row? row.id = none := by
    cases here : system.shared.row? row.id with
    | none => rfl
    | some old => exact (unknown (Repository.getAny_id here ▸ owned.shared.born old (Repository.getAny_mem here))).elim
  cases effect with
  | @inserted owner service ttl projectTar slot rows log =>
    have whole : ttl.WholeSeconds := timed _ (List.mem_of_getElem? found)
    have inserted := isFound
    rw [Shared.row?, Repository.getAny_insert rows] at inserted
    split at inserted
    · next named =>
      have kept : row.requestedTtl = ttl := by
        rw [← Option.some.inj inserted]
        exact TimeDelta.truncated_of_wholeSeconds whole
      refine ⟨?_, index, answer, owner, service, projectTar, rfl, kept ▸ found, missing, ⟨row, isFound, rfl⟩, ?_⟩
      · rw [← Option.some.inj inserted]
        rfl
      · rw [kept]
        simp only [System.advance, Task.step, Handlers.create] at member
        generalize outcome : ClusterService.create system.deps.limits system.shared.rows answer.repository
          (ClusterService.newCluster answer.id owner service ttl answer.now) = done at member
        obtain ⟨error | made, next⟩ := done
        · cases ClusterService.create_error outcome
          exact (unknown (owned.shared.born row member)).elim
        · exact ClusterService.create_bounds outcome
    · rw [Shared.row?] at missing
      rw [missing] at inserted
      cases inserted
  | quiet rows log | turned rows log | checked rows log | persisted rows log | read rows log
  | condemned written rows log | answered other rows log | followed rows log | dispatched rows log
  | removed rows log | listed rows log | marked orphan rows log | resumed doomed rows log | missed ready rows log
  | failed rows log =>
    have born := congrArg Prod.fst log
    exact (unknown (born.subst (motive := fun ids => _ ∈ ids) grown)).elim

/-- A state that a task writes in time: a deadline after the row's own TTL, and an expiry that was due. -/
theorem Task.Timed.writes (timed : task.Timed past system)
    (found : system.tasks[index]? = some task)
    {before : Cluster} (here : system.shared.row? id = some before) {state : ClusterState}
    (writes : task.Writes answer id state)
    (stored : stateOf (system.advance index answer task).shared.rows id = some state) :
    (∀ readyAt decommissionAt connection, state = .ready readyAt decommissionAt connection →
      readyAt.add? before.requestedTtl = some decommissionAt) ∧
    ∀ since, state = .deleting since .ttlExpired →
      past.expired id ∨ ExpiredBySweep id system (.step index answer) (system.advance index answer task) := by
  cases task with
  | spawn cluster token projectTar stage =>
    cases stage with
    | start | working | checking => exact writes.elim
    | persisting current result =>
      obtain ⟨rfl, event, made, moved⟩ := writes
      have ttl := timed.2 before here
      cases result with
      | error error =>
        cases made
        obtain ⟨-, rfl⟩ := transition_spawnFailed.mp moved
        exact ⟨fun _ _ _ other => (by cases other), fun _ other => by cases other⟩
      | ok connection =>
        obtain ⟨decommissionAt, added, rfl⟩ := Option.map_eq_some_iff.mp made
        obtain ⟨-, rfl⟩ := transition_spawnSucceeded.mp moved
        refine ⟨fun _ _ _ same => ?_, fun _ other => by cases other⟩
        cases same
        rw [ttl]
        exact added
  | requestDelete asked owner reason caller read =>
    cases read with
    | none => exact writes.elim
    | some read =>
      obtain ⟨rfl, rfl⟩ := writes
      have deleting := condemned_isDeleting read.state answer.now reason
      refine ⟨fun readyAt decommissionAt connection same => ?_, fun since same => ?_⟩
      · rw [same] at deleting
        cases deleting
      · by_cases doomed : read.state.isDeleting = true
        · rw [if_pos doomed] at same
          cases caller with
          | handler =>
            obtain ⟨named, expired⟩ := timed.2 read rfl
            rw [named]
            exact .inl (expired since same)
          | reaper now todo results =>
            obtain ⟨named, expired⟩ := timed.readBack read rfl
            rw [named]
            exact .inl (expired since same)
        · rw [if_neg doomed] at same stored
          cases same
          cases caller with
          | handler => cases timed.1
          | reaper now todo results =>
            obtain ⟨seen, due, rests, read_⟩ := timed.due
            obtain rfl : read.state = seen := (read_ read rfl).resolve_right doomed
            obtain ⟨named, -⟩ := timed.readBack read rfl
            right
            cases state : read.state with
            | spawning | deleting =>
              rw [state] at due
              cases due
            | failed failedAt errorSummary =>
              rw [state] at due
              simp only [TtlReaper.dueForReaping, Option.map_eq_some_iff] at due
              obtain ⟨end_, -, decided⟩ := due
              split at decided <;> cases decided
            | ready readyAt decommissionAt connection =>
              have reached : decommissionAt ≤ now := by
                rw [state] at due
                simp only [TtlReaper.dueForReaping, Option.some.injEq] at due
                split at due
                · assumption
                · cases due
              rw [named] at stored ⊢
              exact ⟨index, answer, owner, now, todo, results, read, readyAt, decommissionAt, connection, rfl, found, state,
                reached, rests.row, stored⟩
  | reconcileRows todo =>
    cases writes
    exact ⟨fun _ _ _ other => (by cases other), fun _ other => by cases other⟩
  | reconcileLost cluster todo =>
    cases writes
    exact ⟨fun _ _ _ other => (by cases other), fun _ other => by cases other⟩
  | create | launch | unregister | teardown | followDelete | sweep | reap | dispatch | late | staging | reconcile =>
    exact writes.elim

theorem Shared.Timed.advance (timed : system.Timed past) (found : system.tasks[index]? = some task)
    (drawn : task.draws answer system.shared = true)
    (effect : Effect system.deps answer system.shared (system.advance index answer task).shared task left)
    (next : past.Next later system (.step index answer) (system.advance index answer task)) :
    (system.advance index answer task).shared.Timed later := by
  have table := effect.table timed.owned.shared
  have mine := timed.tasks task (List.mem_of_getElem? found)
  -- a row that was there before, and what has become of it
  have row {row : Cluster} (member : row ∈ (system.advance index answer task).shared.rows) (known : row.id ∈ system.shared.born) :
      ∃ before ∈ system.shared.rows, before.id = row.id ∧ system.shared.row? row.id = some before ∧
        row.requestedTtl = before.requestedTtl ∧ (row.state = before.state ∨ task.Writes answer row.id row.state) := by
    obtain ⟨before, here, ttl, state⟩ := step_row effect drawn known (table.ids.lookup_of_mem member)
    exact ⟨before, Repository.getAny_mem here, Repository.getAny_id here, here, ttl, state⟩
  have fresh {row : Cluster} (member : row ∈ (system.advance index answer task).shared.rows)
      (unknown : row.id ∉ system.shared.born) := created_fresh timed.owned timed.tasks found effect member unknown
  have stored {row : Cluster} (member : row ∈ (system.advance index answer task).shared.rows) :
      stateOf (system.advance index answer task).shared.rows row.id = some row.state :=
    Repository.stateOf_eq_some.mpr ⟨row, table.ids.lookup_of_mem member, rfl⟩
  refine ⟨fun other member => ?_, fun other member readyAt decommissionAt connection state => ?_,
    fun other member since state => ?_⟩
  · by_cases known : other.id ∈ system.shared.born
    · obtain ⟨before, old, named, -, ttl, -⟩ := row member known
      rw [ttl, ← named]
      exact next.grows.created (timed.shared.created before old)
    · exact next.created _ _ (fresh member known).2
  · by_cases known : other.id ∈ system.shared.born
    · obtain ⟨before, old, -, here, ttl, same | writes⟩ := row member known
      · rw [ttl]
        exact timed.shared.ready before old readyAt decommissionAt connection (same.symm.trans state)
      · rw [ttl]
        exact (mine.writes found here writes (stored member)).1 readyAt decommissionAt connection state
    · have spawning := (fresh member known).1
      rw [state] at spawning
      cases spawning
  · by_cases known : other.id ∈ system.shared.born
    · obtain ⟨before, old, named, here, -, same | writes⟩ := row member known
      · rw [← named]
        exact next.grows.expired (timed.shared.expired before old since (same.symm.trans state))
      · rcases (mine.writes found here writes (stored member)).2 since state with earlier | now
        · exact next.grows.expired earlier
        · exact next.expired _ now
    · have spawning := (fresh member known).1
      rw [state] at spawning
      cases spawning

/-! ## The tasks a step leaves -/

/-- Nothing is asked of these tasks. -/
def Task.isTimeless : Task → Bool
  | .unregister _ | .teardown .. | .followDelete .. | .sweep | .late _ | .staging .. | .reconcile | .reconcileRows _
  | .reconcileLost .. => true
  | .create .. | .launch .. | .spawn .. | .requestDelete .. | .reap .. | .dispatch _ => false

theorem Task.Timed.of_timeless (timeless : task.isTimeless = true) : task.Timed past system := by
  cases task with
  | unregister | teardown | followDelete | sweep | late | staging | reconcile | reconcileRows | reconcileLost => trivial
  | create | launch | spawn | requestDelete | reap | dispatch => cases timeless

theorem calm_append {results : List (Cluster × DeleteOutcome)} (calm : Calm results) {result : Cluster × DeleteOutcome}
    (other : result.2 ≠ .cancelSpawn) : Calm (results ++ [result]) := by
  intro member inside
  rcases List.mem_append.mp inside with old | new
  · exact calm member old
  · rw [List.mem_singleton.mp new]
    exact other

/-- A delete request of a row that is not `Spawning` asks for no spawn to be cancelled. -/
theorem deleteOutcome_calm {state : ClusterState} (awake : state.isSpawning = false) :
    ClusterService.deleteOutcome state ≠ .cancelSpawn := by
  unfold ClusterService.deleteOutcome
  rw [awake]
  split <;> simp

theorem awake_of_seen {seen state : ClusterState} (settled : seen.isSettled = true)
    (same : state = seen ∨ state.isDeleting = true) : state.isSpawning = false := by
  rcases same with rfl | doomed
  · rw [ClusterState.isSettled_eq, Bool.and_eq_true, Bool.not_eq_true'] at settled
    exact settled.1
  · exact (ClusterState.calm_of_isDeleting doomed).2

theorem Task.Timed.leaves (timed : system.Timed past) (found : system.tasks[index]? = some task)
    (drawn : task.draws answer system.shared = true)
    (effect : Effect system.deps answer system.shared (system.advance index answer task).shared task
      ((task.step system.deps answer system.shared).2.flatMap Task.duties))
    (next : past.Next later system (.step index answer) (system.advance index answer task)) :
    ∀ fresh ∈ (task.step system.deps answer system.shared).2, fresh.Timed later (system.advance index answer task) := by
  have mine := timed.tasks task (List.mem_of_getElem? found)
  have rests (serving : ∀ duty ∈ task.duties, duty.side ≠ some .recovering) {id : ClusterId} {seen : ClusterState}
      (before : system.Rests id seen) : (system.advance index answer task).Rests id seen :=
    before.advance found drawn effect serving
  have watches (serving : ∀ duty ∈ task.duties, duty.side ≠ some .recovering) {todo : List Cluster}
      (before : system.Watches todo) : (system.advance index answer task).Watches todo :=
    fun cluster member settled => rests serving (before cluster member settled)
  have unlisted (requests : .request ∈ task.duties) : ∀ duty ∈ task.duties, duty.side ≠ some .recovering :=
    fun duty owed => (Duty.unlisted_of_serving (Task.serving_of_request requests owed)).1
  intro fresh member
  cases Task.successor member with
  | turns | ends | tears | removesLate | wipesLate | unregisters | resumes | answers | follows | starts | extracts | lists
  | orphans | finishes | loses | leaves | notes => trivial
  | @launches owner service ttl projectTar made created =>
    obtain ⟨slot, inserted, rfl⟩ := ClusterService.create_ok (Prod.ext created rfl)
    simp only [System.shared] at created
    simp only [Task.Timed, System.advance, System.shared, Pool.replace, Task.step, Handlers.create, created]
    refine ⟨List.mem_cons_self, fun row here => ?_⟩
    have stored := (Repository.getAny_insert inserted).trans (if_pos rfl)
    rw [← Option.some.inj (stored.symm.trans here)]
    exact TimeDelta.truncated_of_wholeSeconds mine
  | registers | begins | declines | works | checks => exact effect.copies drawn mine
  | @abandons cluster token projectTar worker phase _ dropped =>
    apply Task.Timed.of_timeless
    cases phase <;> simp only [SpawnTask.abandoned, List.mem_singleton, List.not_mem_nil] at dropped <;> rw [dropped] <;> rfl
  | @reads id owner reason caller row here =>
    have stored := Repository.getAny_of_getOwned timed.owned.shared.ids (ClusterService.info_ok here)
    have named := Repository.getAny_id stored
    have readBack : ReadBack later id (some row) := by
      rintro _ ⟨⟩
      refine ⟨named, fun since state => ?_⟩
      rw [← named]
      exact next.grows.expired (timed.shared.expired row (Repository.getAny_mem stored) since state)
    cases caller with
    | handler => exact ⟨mine.1, readBack⟩
    | reaper now todo results =>
      have serving := unlisted List.mem_cons_self
      obtain ⟨seen, due, resting, -⟩ := mine.due
      refine ⟨readBack, watches serving mine.watches, mine.calm, seen, due, rests serving resting, ?_⟩
      rintro _ ⟨⟩
      exact resting.row _ (Repository.stateOf_eq_some.mpr ⟨row, stored, rfl⟩)
  | @passesOver id owner reason now todo results read =>
    have serving := unlisted (by cases read <;> exact List.mem_cons_self)
    exact ⟨watches serving mine.watches, mine.calm⟩
  | @collects id owner reason now todo results read cluster outcome written =>
    refine ⟨watches (unlisted List.mem_cons_self) mine.watches, calm_append mine.calm ?_⟩
    obtain ⟨seen, due, -, same⟩ := mine.due
    obtain ⟨-, rfl, -⟩ := ClusterService.writeDeletion_ok (Prod.ext written rfl)
    exact deleteOutcome_calm (awake_of_seen (TtlReaper.settled_of_due due) (same read rfl))
  | gathers =>
    refine ⟨watches (unlisted List.mem_cons_self) fun row listed settled => ?_, fun _ nothing => by cases nothing⟩
    exact timed.owned.rests listed settled
  | gathersNothing => exact fun _ nothing => by cases nothing
  | gathered => exact mine.2
  | spares =>
    obtain ⟨watching, calm⟩ := mine
    exact ⟨watches (unlisted List.mem_cons_self) fun other later => watching other (List.mem_cons_of_mem _ later), calm⟩
  | @expires now cluster todo results reason due =>
    have serving := unlisted List.mem_cons_self
    obtain ⟨watching, calm⟩ := mine
    have remaining := watches serving fun other later => watching other (List.mem_cons_of_mem _ later)
    have settled := TtlReaper.settled_of_due due
    exact ⟨fun _ nothing => (by cases nothing), remaining, calm, cluster.state, due,
      rests serving (watching cluster List.mem_cons_self settled), fun _ nothing => by cases nothing⟩
  | dispatches => exact fun result inside => mine result (List.mem_cons_of_mem _ inside)

/-! ## Runs -/

/-- The TTL of a request is a count of seconds. -/
def FromApi (_ : System) : Label → Prop
  | .request (.create _ _ ttl _) => ttl.WholeSeconds
  | .request (.delete ..) | .request .sweep | .step .. | .world _ | .restart _ => True

instance (system : System) (label : Label) : Decidable (FromApi system label) :=
  match label with
  | .request (.create _ _ ttl _) => inferInstanceAs (Decidable ttl.WholeSeconds)
  | .request (.delete ..) | .request .sweep | .step .. | .world _ | .restart _ => .isTrue trivial

theorem System.Rests.same {system after : System} {seen : ClusterState} (rests : system.Rests id seen)
    (rows : after.shared.rows = system.shared.rows) (born : after.shared.born = system.shared.born)
    (tasks : ∀ task ∈ after.tasks, task ∈ system.tasks ∨ task.duties = [.request]) : after.Rests id seen := by
  refine ⟨born ▸ rests.known, rows ▸ rests.row, fun task member believed owed => ?_⟩
  rcases tasks task member with old | new
  · exact rests.free task old believed owed
  · rw [new] at owed
    cases List.mem_singleton.mp owed

theorem Task.Timed.same {system after : System} {task : Task} (timed : task.Timed past system)
    (deps : after.deps = system.deps) (rows : after.shared.rows = system.shared.rows)
    (born : after.shared.born = system.shared.born)
    (tasks : ∀ task ∈ after.tasks, task ∈ system.tasks ∨ task.duties = [.request]) : task.Timed past after := by
  have watches {todo : List Cluster} (watches : system.Watches todo) : after.Watches todo :=
    fun cluster member settled => (watches cluster member settled).same rows born tasks
  cases task with
  | create => exact timed
  | launch | spawn =>
    simp only [Task.Timed, Shared.row?, rows, born]
    exact timed
  | requestDelete id owner reason caller read =>
    cases caller with
    | handler => exact timed
    | reaper now todo results =>
      obtain ⟨seen, due, rests, same⟩ := timed.due
      exact ⟨timed.readBack, watches timed.watches, timed.calm, seen, deps ▸ due, rests.same rows born tasks, same⟩
  | reap now todo results => exact ⟨watches timed.1, timed.2⟩
  | dispatch => exact timed
  | unregister | teardown | followDelete | sweep | late | staging | reconcile | reconcileRows | reconcileLost => trivial

theorem Task.Timed.grow {past later : Past} {system : System} {task : Task} (timed : task.Timed past system)
    (grows : past.Grows later) : task.Timed later system := by
  cases task with
  | requestDelete id owner reason caller read =>
    cases caller with
    | handler => exact ⟨timed.1, timed.2.grow grows⟩
    | reaper now todo results => exact ⟨timed.readBack.grow grows, timed.watches, timed.calm, timed.due⟩
  | create | launch | spawn | reap | dispatch => exact timed
  | unregister | teardown | followDelete | sweep | late | staging | reconcile | reconcileRows | reconcileLost => trivial

theorem Shared.Timed.grow {past later : Past} {shared : Shared} (timed : shared.Timed past) (grows : past.Grows later) :
    shared.Timed later :=
  ⟨fun row member => grows.created (timed.created row member), timed.ready,
    fun row member since state => grows.expired (timed.expired row member since state)⟩

theorem System.Timed.next {system after : System} {label : Label} (timed : system.Timed past)
    (permitted : FromApi system label) (moved : system.next label = some after)
    (next : past.Next later system label after) : after.Timed later := by
  cases label with
  | request request =>
    obtain ⟨-, rfl⟩ := next_request moved
    have shared := timed.shared.grow next.grows
    refine ⟨timed.owned.next moved, ⟨shared.created, shared.ready, shared.expired⟩, fun task member => ?_⟩
    rcases List.mem_append.mp member with old | new
    · refine Task.Timed.same ((timed.tasks task old).grow next.grows) ?_ ?_ ?_ ?_
      iterate 3 rfl
      intro other inside
      rcases List.mem_append.mp inside with before | fresh
      · exact .inl before
      · rw [List.mem_singleton.mp fresh]
        exact .inr request.duties
    · rw [List.mem_singleton.mp new]
      cases request with
      | create => exact permitted
      | delete => exact ⟨rfl, fun _ nothing => by cases nothing⟩
      | sweep => trivial
  | world change =>
    obtain ⟨world, -, rfl⟩ := next_world moved
    have shared := timed.shared.grow next.grows
    refine ⟨timed.owned.next moved, ⟨shared.created, shared.ready, shared.expired⟩, fun task member => ?_⟩
    refine Task.Timed.same ((timed.tasks task member).grow next.grows) ?_ ?_ ?_ ?_
    iterate 3 rfl
    exact fun _ inside => .inl inside
  | restart deps =>
    obtain ⟨-, rfl⟩ := next_restart moved
    have shared := timed.shared.grow next.grows
    refine ⟨timed.owned.next moved, ⟨shared.created, shared.ready, shared.expired⟩, fun task member => ?_⟩
    rw [List.mem_singleton.mp member]
    trivial
  | step index answer =>
    have owned := timed.owned.next moved
    obtain ⟨task, found, draws, effect, rfl⟩ := timed.owned.effect moved
    refine ⟨owned, Shared.Timed.advance timed found draws effect next, fun other member => ?_⟩
    rcases List.mem_append.mp member with old | new
    · exact (timed.tasks other (List.mem_of_mem_eraseIdx old)).beside next.grows found draws effect
        fun mine isMine duty theirs => Holds.apart (fun _ _ => Apart.symm) timed.owned found old isMine theirs
    · exact Task.Timed.leaves timed found draws effect next other new

/-- What has happened in a run. -/
def pastOf (start finish : System) : Past where
  created := fun id ttl => Happened System.next FromApi (CreatedUnder id ttl) start finish
  expired := fun id => Happened System.next FromApi (ExpiredBySweep id) start finish

theorem timed_of_run {deps : TaskDeps} {finish : System} (run : Run System.next FromApi (.boot deps .empty) finish) :
    finish.Timed (pastOf (.boot deps .empty) finish) := by
  induction run with
  | refl =>
    refine ⟨boot_owned deps empty_tableSound, ⟨fun _ none_yet => (by cases none_yet), fun _ none_yet => (by cases none_yet),
      fun _ none_yet => by cases none_yet⟩, fun task member => ?_⟩
    rw [List.mem_singleton.mp member]
    trivial
  | step label earlier permitted moved ih =>
    apply ih.next permitted moved
    exact ⟨⟨fun happened => happened.later permitted moved, fun happened => happened.later permitted moved⟩,
      fun _ _ event => .last earlier permitted moved event, fun _ event => .last earlier permitted moved event⟩

/-- What a run keeps of its clusters' deadlines. -/
structure KeepsTtl (start finish : System) : Prop where
  ready : ∀ row ∈ finish.shared.rows, ∀ readyAt decommissionAt connection,
    row.state = .ready readyAt decommissionAt connection → readyAt.add? row.requestedTtl = some decommissionAt ∧
      Happened System.next FromApi (CreatedUnder row.id row.requestedTtl) start finish
  expired : ∀ row ∈ finish.shared.rows, ∀ since, row.state = .deleting since .ttlExpired →
    Happened System.next FromApi (ExpiredBySweep row.id) start finish
  returned : ∀ results, .dispatch results ∈ finish.tasks → Calm results

theorem keepsTtl_of_run {deps : TaskDeps} {finish : System} (run : Run System.next FromApi (.boot deps .empty) finish) :
    KeepsTtl (.boot deps .empty) finish := by
  have timed := timed_of_run run
  constructor
  · intro row member readyAt decommissionAt connection state
    exact ⟨timed.shared.ready row member readyAt decommissionAt connection state, timed.shared.created row member⟩
  · exact timed.shared.expired
  · intro results member
    exact timed.tasks _ member

/-- A sweep of the store, with nothing in between, does its work and comes to its end. -/
def SweepsStore (formats : Formats) (session : Sqlite.Session) (rows : Rows) (now : DateTime)
    (clock : TtlReaper.Clock) (failedGracePeriod : TimeDelta) : Prop :=
  ∃ returned later after, TtlReaper.runOnceOver (Sqlite.repository formats) now clock failedGracePeriod session =
      (some returned, later) ∧
    Sqlite.Stands formats later after ∧ TtlReaper.Sweeps now failedGracePeriod rows after returned

/-- Deadlines are kept in every run, and a sweep does its work exactly where chrono can add the grace period to the time
of every failure that is stored. -/
theorem ttl_contract {deps : TaskDeps} {finish : System} (run : Run System.next FromApi (.boot deps .empty) finish)
    {formats : Formats} {session : Sqlite.Session} {rows : Rows} (stands : Sqlite.Stands formats session rows)
    (now : DateTime) (clock : TtlReaper.Clock) (failedGracePeriod : TimeDelta) :
    KeepsTtl (.boot deps .empty) finish ∧
      (SweepsStore formats session rows now clock failedGracePeriod ↔
        TtlReaper.Representable failedGracePeriod rows) := by
  constructor
  · exact keepsTtl_of_run run
  · exact TtlReaper.sweeps_iff (Sqlite.repository_simulates formats) stands stands.ids now clock failedGracePeriod

theorem stands_encode {rows : Rows} (whole : ∀ row ∈ rows, row.requestedTtl.WholeSeconds) (ids : KeyedTable.Distinct Cluster.id rows) :
    Sqlite.Stands Sqlite.sampleFormats ⟨Sqlite.encode Sqlite.sampleFormats rows, []⟩ rows where
  healthy := rfl
  calm := rfl
  table := by
    refine List.forall₂_map_left_iff.mpr (List.forall₂_same.mpr fun row member => ?_)
    have reads : (Sqlite.textRow Sqlite.sampleFormats row).Reads Sqlite.sampleFormats (Repository.stored row) :=
      Sqlite.reads_textRow row
    rwa [Repository.stored, TimeDelta.truncated_of_wholeSeconds (whole row member)] at reads
  ids := ids

/-- A row whose time is up at the epoch, and one whose time comes later. -/
def expiringRows : Rows :=
  [{ Sqlite.sampleRow with state := .ready .epoch .epoch smallConnection },
    { Sqlite.sampleRow with
        id := ⟨1⟩, slot := 1, state := .ready .epoch ⟨smallTtl.nanos, by decide, by decide⟩ smallConnection }]

example : expiringRows.map (fun row => TtlReaper.dueForReaping row.state .epoch smallTtl) =
    [some (some .ttlExpired), some none] := by
  decide +kernel

/-- A row that has become `Ready`, and a sweep of a table with a row that is due and one that is not. -/
theorem ttl_contract_ready :
    (∃ (finish : System) (row : Cluster) (decommissionAt : DateTime), row ∈ finish.shared.rows ∧
      row.state = .ready .epoch decommissionAt smallConnection ∧
      DateTime.epoch.add? row.requestedTtl = some decommissionAt) ∧
    SweepsStore Sqlite.sampleFormats ⟨Sqlite.encode Sqlite.sampleFormats expiringRows, []⟩ expiringRows .epoch
      (fun _ => .epoch) smallTtl := by
  have evaluated : (follow System.next (fun system label => decide (FromApi system label)) smallStart untilReady).map
      (fun finish => finish.shared.rows.map Cluster.state) =
        some [.ready .epoch ⟨smallTtl.nanos, by decide, by decide⟩ smallConnection] := by
    decide +kernel
  obtain ⟨finish, followed, seen⟩ := Option.map_eq_some_iff.mp evaluated
  have run := (run_of_follow _ followed).weaken fun _ _ => of_decide_eq_true
  obtain ⟨row, member, state⟩ := List.mem_map.mp (seen ▸ List.mem_singleton_self _)
  have distinct : (expiringRows.map Cluster.id).Nodup := by decide +kernel
  have stands := @stands_encode expiringRows (by decide +kernel) distinct
  obtain ⟨keeps, sweeps⟩ := ttl_contract run stands .epoch (fun _ => .epoch) smallTtl
  constructor
  · exact ⟨finish, row, _, member, state, (keeps.ready row member _ _ _ state).1⟩
  · apply sweeps.mpr
    intro row stored failedAt errorSummary failed
    rcases List.mem_pair.mp stored with rfl | rfl <;> cases failed

/-- The longest delay that `TimeDelta::seconds` can make. -/
def longestDelay : TimeDelta := ⟨9223372036854775 * 1000000000, by decide, by decide⟩

def failedRow : Cluster := { Sqlite.sampleRow with state := .failed .epoch "lost after restart" }

/-- A failure that is to be kept for so long that chrono cannot say until when. -/
theorem sweep_panics : ¬ SweepsStore Sqlite.sampleFormats ⟨Sqlite.encode Sqlite.sampleFormats [failedRow], []⟩ [failedRow]
    .epoch (fun _ => .epoch) longestDelay := by
  intro sweeps
  have stands := @stands_encode [failedRow] (by decide +kernel) (List.nodup_singleton _)
  have representable := (TtlReaper.sweeps_iff (Sqlite.repository_simulates _) stands stands.ids
    .epoch (fun _ => .epoch) longestDelay).mp sweeps
  obtain ⟨end_, added⟩ := representable failedRow List.mem_cons_self _ _ rfl
  have overflows : DateTime.epoch.add? longestDelay = none := by decide
  rw [overflows] at added
  cases added

end AppSalmon
