import AppSalmon.Service.Ownership

/-! Whether somebody always answers for a row that is `Spawning` or `Deleting`.

The answer to a delete request is decided by the state it has read. Where the
spawn settles its row between that read and the write, nobody is left to tear
the row down; where the spawn writes its outcome over a deletion, the deletion
is forgotten.
-/

set_option autoImplicit false

namespace AppSalmon

open KeyedTable TaskPool
open Repository (Rows stateOf)
open Duty (Valid Apart)

/-- The spawn writes its outcome over no deletion, and a request that has read `Spawning` does not find the
row settled when it writes. -/
def handsOver (rows : Rows) : Task → Bool
  | .spawn cluster _ _ (.persisting _ _) => !(stateOf rows cluster.id).any ClusterState.isDeleting
  | .requestDelete _ _ _ _ (some read) =>
    !read.state.isSpawning || !(stateOf rows read.id).any ClusterState.isSettled
  | _ => true

/-- A request that has read `Spawning` or `Deleting` does not find the row settled when it writes. -/
def readStands (rows : Rows) : Task → Bool
  | .requestDelete _ _ _ _ (some read) =>
    read.state.isSettled || !(stateOf rows read.id).any ClusterState.isSettled
  | _ => true

/-- Calls succeed, chrono does not panic, and what was read still holds where it matters. -/
def bringsToEnd (deps : TaskDeps) (answer : Answer) (shared : Shared) (task : Task) : Bool :=
  callsSucceed answer task && noPanic deps answer task && handsOver shared.rows task

/-! ## Deletions that are not forgotten -/

/-- The row is being deleted, or gone. -/
def Shared.Doomed (shared : Shared) (id : ClusterId) : Prop :=
  ∀ state, stateOf shared.rows id = some state → state.isDeleting = true

structure Shared.KeepsWord (shared : Shared) : Prop where
  accepted : ∀ id ∈ shared.accepted, id ∈ shared.born ∧ shared.Doomed id

def Duty.Faithful (shared : Shared) : Duty → Prop
  | .holds id read => read.isDeleting = true → shared.Doomed id
  | .accept id => shared.Doomed id
  | _ => True

variable {deps : TaskDeps} {answer : Answer} {shared after : Shared} {task : Task} {left : List Duty} {id : ClusterId}

/-- Only the spawn of a row that is being deleted could settle it again. -/
theorem Shared.Doomed.kept (doomed : shared.Doomed id) (known : id ∈ shared.born)
    (effect : Effect deps answer shared after task left)
    (unsettling : ∀ cluster token projectTar current result,
      task = .spawn cluster token projectTar (.persisting current result) → cluster.id ≠ id ∨ shared.row? id = none)
    (drawn : task.draws answer shared = true) (own : ∀ duty ∈ task.duties, Valid shared duty) : after.Doomed id := by
  intro state here
  have written {other : ClusterId} {new : ClusterState} (is : id = other → new.isDeleting = true)
      (change : stateOf after.rows id = if id = other then some new else stateOf shared.rows id) :
      state.isDeleting = true := by
    rw [here] at change
    split at change
    · next same =>
      rw [Option.some.inj change]
      exact is same
    · exact doomed state change.symm
  cases effect with
  | quiet rows log => exact doomed state (stateOf_quiet rows id ▸ here)
  | inserted rows log =>
    refine written (fun same => ?_) (Repository.stateOf_insert rows)
    simp only [Task.draws, decide_eq_true_eq] at drawn
    exact absurd ((show id = answer.id from same) ▸ known) drawn
  | persisted rows log settled calm made =>
    refine written (fun same => ?_) (Repository.stateOf_updateState rows)
    subst same
    obtain ⟨⟨row, found⟩, -⟩ := Repository.modify_eq_ok.mp rows
    rcases unsettling _ _ _ _ _ rfl with other | missing
    · exact absurd rfl other
    · cases found.symm.trans missing
  | condemned new rows log =>
    exact written (fun _ => new ▸ condemned_isDeleting ..) (Repository.stateOf_updateState rows)
  | removed rows log =>
    rw [rows, Repository.stateOf_delete] at here
    split at here
    · cases here
    · exact doomed state here
  | marked orphan rows log => exact written (fun _ => rfl) (Repository.stateOf_updateState rows)
  | @failed cluster todo rows log =>
    refine written (fun same => ?_) (Repository.stateOf_updateState rows)
    subst same
    obtain ⟨before, was, settled⟩ := (own _ List.mem_cons_self).sound
    rw [(ClusterState.calm_of_isDeleting (doomed _ was)).1] at settled
    cases settled
  | turned rows log | checked rows log | read rows log | answered other rows log | followed rows log
  | dispatched rows log | listed rows log | resumed was rows log | missed ready rows log =>
    exact doomed state (rows ▸ here)

theorem Shared.Doomed.step (doomed : shared.Doomed id) (known : id ∈ shared.born)
    (effect : Effect deps answer shared after task left) (hands : handsOver shared.rows task = true)
    (drawn : task.draws answer shared = true) (own : ∀ duty ∈ task.duties, Valid shared duty) : after.Doomed id := by
  apply doomed.kept known effect _ drawn own
  rintro cluster token projectTar current result rfl
  by_cases same : cluster.id = id
  · subst same
    right
    cases here : shared.row? cluster.id with
    | none => rfl
    | some row =>
      have was := Repository.stateOf_eq_some.mpr ⟨row, here, rfl⟩
      simp [handsOver, was, doomed _ was] at hands
  · exact .inl same

theorem Duty.Faithful.step {duty : Duty} (faithful : duty.Faithful shared) (valid : Valid shared duty)
    (effect : Effect deps answer shared after task left) (hands : handsOver shared.rows task = true)
    (drawn : task.draws answer shared = true) (own : ∀ duty ∈ task.duties, Valid shared duty) :
    duty.Faithful after := by
  cases duty with
  | holds id read =>
    exact fun deleting => (faithful deleting).step (valid.known id rfl) effect hands drawn own
  | accept id => exact Shared.Doomed.step faithful (valid.known id rfl) effect hands drawn own
  | request | spawn | setWorker | pledge | teardown | startup | recover | lost => trivial

/-- What a step adds to the answered deletes was about to be answered. -/
theorem Effect.accepted (effect : Effect deps answer shared after task left) (member : id ∈ after.accepted) :
    id ∈ shared.accepted ∨ .accept id ∈ task.duties := by
  have same (log : after.accepted = shared.accepted) : id ∈ shared.accepted ∨ .accept id ∈ task.duties :=
    .inl (log ▸ member)
  have grown {cluster : Cluster} {outcome : DeleteOutcome}
      (log : after.accepted = cluster.id :: shared.accepted) :
      id ∈ shared.accepted ∨ .accept id ∈ (Task.followDelete cluster outcome).duties := by
    rw [log] at member
    rcases List.mem_cons.mp member with rfl | old
    · exact .inr (by simp [Task.duties])
    · exact .inl old
  cases effect with
  | answered other rows log | followed rows log => exact grown (congrArg (·.2.2) log)
  | quiet rows log | inserted rows log | turned rows log | checked rows log | persisted rows log | read rows log
  | condemned written rows log | dispatched rows log | removed rows log | listed rows log | marked orphan rows log
  | resumed doomed rows log | missed ready rows log | failed rows log => exact same (congrArg (·.2.2) log)

/-- A `DELETE` that is about to be answered has condemned its row. -/
theorem Effect.accepts (effect : Effect deps answer shared after task left) (member : .accept id ∈ left) :
    .accept id ∈ task.duties ∨ after.Doomed id := by
  have unpledged {results : List (Cluster × DeleteOutcome)} : Duty.accept id ∉ pledges results := by
    intro owed
    obtain ⟨result, -, inner⟩ := List.mem_flatMap.mp owed
    cases (Duty.mem_pledgeOf.mp inner).2
  have unlisted {todo : List Cluster} : Duty.accept id ∉ recoveries todo := by
    intro owed
    obtain ⟨cluster, -, same⟩ := mem_recoveries.mp owed
    cases same
  cases effect with
  | quiet rows log fewer => exact .inl (fewer.subset member)
  | @condemned other owner reason caller read state written rows log calm =>
    rcases Duty.of_mem_condemned member with same | same | owed | ⟨-, same⟩
    · cases same
    · cases same
      refine .inr fun state' here => ?_
      rw [Repository.stateOf_updateState rows, if_pos rfl, Option.some.injEq] at here
      rw [← here, written]
      exact condemned_isDeleting ..
    · exact .inl (List.mem_cons_of_mem _ (List.mem_cons_of_mem _ owed))
    · cases same
  | read rows log found owned =>
    simp only [List.mem_cons, reduceCtorEq, false_or] at member
    exact .inl (List.mem_cons_of_mem _ member)
  | turned rows log fewer =>
    rcases List.mem_cons.mp member with same | later
    · cases same
    · cases List.mem_singleton.mp (fewer.subset later)
  | removed rows log => exact .inl (List.mem_cons_of_mem _ member)
  | dispatched rows log =>
    simp only [List.mem_cons, reduceCtorEq, false_or] at member
    exact absurd member unpledged
  | inserted | checked | persisted | answered | followed => simp at member
  | listed | failed => exact absurd member unlisted
  | marked | resumed | missed =>
    simp only [List.mem_cons, reduceCtorEq, false_or] at member
    exact absurd member unlisted

theorem wordKeeping : Discipline (fun _ _ shared task => handsOver shared.rows task = true) Shared.KeepsWord
    Duty.Faithful (fun _ _ => True) where
  symmetric := fun _ _ _ => trivial
  still := by
    intro shared after rows log word
    obtain ⟨born, -, accepted⟩ : after.born = shared.born ∧ after.teardowns = shared.teardowns ∧
        after.accepted = shared.accepted := by simpa [Shared.log] using log
    have doomed (id : ClusterId) : shared.Doomed id → after.Doomed id :=
      fun doomed state here => doomed state (rows ▸ here)
    refine ⟨⟨fun id member => ?_⟩, fun duty faithful => ?_⟩
    · obtain ⟨known, was⟩ := word.accepted id (accepted ▸ member)
      exact ⟨born ▸ known, doomed id was⟩
    · cases duty with
      | holds id read => exact fun deleting => doomed id (faithful deleting)
      | accept id => exact doomed id faithful
      | request | spawn | setWorker | pledge | teardown | startup | recover | lost => trivial
  request := fun _ _ => ⟨trivial, trivial⟩
  step := by
    intro deps answer shared after task left effect hands drawn table word own pairs _
    have valid : ∀ duty ∈ task.duties, Valid shared duty := fun duty owed => (own duty owed).1
    refine ⟨⟨fun id member => ?_⟩, fun fresh member => ?_, List.pairwise_of_forall fun _ _ => trivial,
      fun duty theirs faithful _ => ⟨faithful.step theirs effect hands drawn valid, fun _ _ => trivial⟩⟩
    · have before : id ∈ shared.born ∧ shared.Doomed id := by
        rcases effect.accepted member with old | accepting
        · exact word.accepted id old
        · exact ⟨(valid _ accepting).known id rfl, (own _ accepting).2⟩
      exact ⟨effect.born_subset before.1, before.2.step before.1 effect hands drawn valid⟩
    · cases fresh with
      | holds id read =>
        rcases effect.holds member with held | ⟨rows, found⟩
        · exact (own _ held).2.step (valid _ held) effect hands drawn valid
        · intro deleting state here
          rw [rows, found, Option.some.injEq] at here
          exact here ▸ deleting
      | accept id =>
        rcases effect.accepts member with old | doomed
        · exact (own _ old).2.step (valid _ old) effect hands drawn valid
        · exact doomed
      | request | spawn | setWorker | pledge | teardown | startup | recover | lost => trivial

/-! ## Every unsettled row is answered for -/

/-- A row that somebody must still settle or remove. -/
def Shared.Unsettled (shared : Shared) (id : ClusterId) : Prop :=
  ∃ state, stateOf shared.rows id = some state ∧ state.isSettled = false

/-- The duties that bring a row to its end. -/
def Duty.Covers (id : ClusterId) : Duty → Prop
  | .spawn other _ | .pledge other | .teardown other | .recover other _ => other = id
  | .startup => True
  | .request | .setWorker _ | .holds .. | .accept _ | .lost _ => False

def Task.Covers (task : Task) (id : ClusterId) : Prop := ∃ duty ∈ task.duties, duty.Covers id

/-- What was read `Deleting` is deleted still, where deletions are not forgotten. -/
theorem readStands_of_handsOver (hands : handsOver shared.rows task = true)
    (faithful : ∀ duty ∈ task.duties, duty.Faithful shared) : readStands shared.rows task = true := by
  cases task with
  | requestDelete id owner reason caller read =>
    cases read with
    | none => rfl
    | some read =>
      have held := faithful (.holds read.id read.state) (by simp [Task.duties])
      cases was : stateOf shared.rows read.id with
      | none => simp [readStands, was]
      | some now =>
        cases deleting : read.state.isDeleting with
        | true => simp [readStands, was, ClusterState.calm_of_isDeleting (held deleting now was)]
        | false =>
          simp only [handsOver, was, Option.any_some] at hands
          simp only [readStands, was, Option.any_some]
          rw [ClusterState.isSettled_eq read.state, deleting, Bool.not_false, Bool.and_true]
          exact hands
  | create | launch | spawn | unregister | teardown | followDelete | sweep | reap | dispatch | late | staging | reconcile
  | reconcileRows | reconcileLost => rfl

/-- A row that needs somebody needed somebody before, or somebody new answers for it. -/
theorem Effect.needs (effect : Effect deps answer shared after task left) (stands : readStands shared.rows task = true)
    (unsettled : after.Unsettled id) : shared.Unsettled id ∨ ∃ fresh ∈ left, fresh.Covers id := by
  obtain ⟨state, here, is⟩ := unsettled
  have same (rows : after.rows = shared.rows) : shared.Unsettled id := ⟨state, rows ▸ here, is⟩
  have written {other : ClusterId} {new : ClusterState}
      (change : stateOf after.rows id = if id = other then some new else stateOf shared.rows id)
      (covered : id = other → new.isSettled = false → shared.Unsettled id ∨ ∃ fresh ∈ left, fresh.Covers id) :
      shared.Unsettled id ∨ ∃ fresh ∈ left, fresh.Covers id := by
    rw [here] at change
    split at change
    · next asked =>
      obtain rfl : state = new := Option.some.inj change
      exact covered asked is
    · exact .inl ⟨state, change.symm, is⟩
  cases effect with
  | quiet rows log => exact .inl ⟨state, stateOf_quiet rows id ▸ here, is⟩
  | inserted rows log =>
    exact written (Repository.stateOf_insert rows) fun same _ => .inr ⟨_, List.mem_cons_self, same.symm⟩
  | persisted rows log settled =>
    refine written (Repository.stateOf_updateState rows) fun _ unsettled => ?_
    rw [settled] at unsettled
    cases unsettled
  | @condemned other owner reason caller read new is rows log calm =>
    refine written (Repository.stateOf_updateState rows) fun same _ => ?_
    subst same
    obtain ⟨⟨row, found⟩, -⟩ := Repository.modify_eq_ok.mp rows
    have was := Repository.stateOf_eq_some.mpr ⟨row, found, rfl⟩
    cases settled : row.state.isSettled with
    | false => exact .inl ⟨row.state, was, settled⟩
    | true =>
      have before : read.state.isSettled = true := by simpa [readStands, was, settled] using stands
      have started := ClusterService.deleteOutcome_eq_startTeardown.mpr before
      exact .inr ⟨.pledge read.id, by simp [started, pledgeOf], rfl⟩
  | removed rows log =>
    rw [rows, Repository.stateOf_delete] at here
    split at here
    · cases here
    · exact .inl ⟨state, here, is⟩
  | marked orphan rows log =>
    exact written (Repository.stateOf_updateState rows) fun same _ => .inr ⟨_, List.mem_cons_self, same.symm⟩
  | failed rows log =>
    refine written (Repository.stateOf_updateState rows) fun _ unsettled => ?_
    cases unsettled
  | turned rows log | checked rows log | read rows log | answered other rows log | followed rows log
  | dispatched rows log | listed rows log | resumed was rows log | missed ready rows log => exact .inl (same rows)

theorem Shared.Unsettled.of_settled {state : ClusterState} (unsettled : after.Unsettled id)
    (here : stateOf after.rows id = some state) (settled : state.isSettled = true) : False := by
  obtain ⟨other, there, is⟩ := unsettled
  rw [here, Option.some.injEq] at there
  rw [there, is] at settled
  cases settled

/-- Whoever answers for a row hands it on, or has settled or removed it. -/
theorem Effect.handed (effect : Effect deps answer shared after task left) (faultless : Faultless deps answer task)
    (own : ∀ duty ∈ task.duties, Valid shared duty) {duty : Duty} (member : duty ∈ task.duties)
    (covers : duty.Covers id) (unsettled : after.Unsettled id) : ∃ fresh ∈ left, fresh.Covers id := by
  cases effect with
  | quiet rows log fewer kept =>
    rcases kept faultless duty member with stays | spent
    · exact ⟨duty, stays, covers⟩
    have valid := (own duty member).sound
    have state := stateOf_quiet rows id
    cases duty with
    | spawn other believed =>
      cases covers
      rcases spent with awake | missing
      · rw [valid.1] at awake
        cases awake
      · obtain ⟨found, here, -⟩ := unsettled
        rw [state, missing] at here
        cases here
    | recover other listed =>
      cases covers
      rcases spent with settled | missing
      · exact (unsettled.of_settled (state.trans valid) settled).elim
      · obtain ⟨found, here, -⟩ := unsettled
        rw [state, missing] at here
        cases here
    | pledge | teardown | startup => cases spent
    | request | setWorker | holds | accept | lost => cases covers
  | inserted =>
    rw [List.mem_singleton.mp member] at covers
    cases covers
  | turned rows log =>
    rw [List.mem_singleton.mp member] at covers
    exact ⟨_, List.mem_cons_self, covers⟩
  | checked rows log found alive =>
    rw [List.mem_singleton.mp member] at covers
    exact ⟨_, List.mem_cons_self, covers⟩
  | persisted rows log settled =>
    rw [List.mem_singleton.mp member] at covers
    cases covers
    exact (unsettled.of_settled ((Repository.stateOf_updateState rows).trans (if_pos rfl)) settled).elim
  | read rows log found owned =>
    rcases List.mem_cons.mp member with rfl | owed
    · cases covers
    · exact ⟨duty, List.mem_cons_of_mem _ (List.mem_cons_of_mem _ owed), covers⟩
  | condemned written rows log calm =>
    rcases List.mem_cons.mp member with rfl | inner
    · cases covers
    rcases List.mem_cons.mp inner with rfl | owed
    · cases covers
    · exact ⟨duty, by simp [owed], covers⟩
  | answered other rows log =>
    rcases List.mem_cons.mp member with rfl | inner
    · cases covers
    rcases List.mem_cons.mp inner with rfl | owed
    · cases covers
    · exact absurd (Duty.mem_pledgeOf.mp owed).1 other
  | followed rows log =>
    rcases List.mem_cons.mp member with rfl | inner
    · cases covers
    rcases List.mem_cons.mp inner with rfl | owed
    · cases covers
    · rw [(Duty.mem_pledgeOf.mp owed).2] at covers
      exact ⟨_, List.mem_cons_self, covers⟩
  | dispatched rows log =>
    rcases List.mem_cons.mp member with rfl | inner
    · cases covers
    rcases List.mem_cons.mp inner with rfl | owed
    · exact ⟨_, List.mem_cons_self, covers⟩
    · exact ⟨duty, List.mem_cons_of_mem _ (List.mem_cons_of_mem _ owed), covers⟩
  | removed rows log =>
    rcases List.mem_cons.mp member with rfl | later
    · cases covers
      obtain ⟨state, here, -⟩ := unsettled
      rw [rows, Repository.stateOf_delete, if_pos rfl] at here
      cases here
    · exact ⟨duty, later, covers⟩
  | listed rows log =>
    obtain ⟨state, here, -⟩ := unsettled
    obtain ⟨row, found, -⟩ := Repository.stateOf_eq_some.mp here
    rw [rows] at found
    exact ⟨_, mem_recoveries.mpr ⟨row, Repository.getAny_mem found, rfl⟩, Repository.getAny_id found⟩
  | marked orphan rows log | resumed doomed rows log =>
    rcases List.mem_cons.mp member with rfl | later
    · exact ⟨_, List.mem_cons_self, covers⟩
    · exact ⟨duty, List.mem_cons_of_mem _ later, covers⟩
  | missed ready rows log =>
    rcases List.mem_cons.mp member with rfl | later
    · cases covers
      have valid := (own _ member).sound
      exact (unsettled.of_settled (rows ▸ valid) ready).elim
    · exact ⟨duty, List.mem_cons_of_mem _ later, covers⟩
  | failed rows log =>
    rcases List.mem_cons.mp member with rfl | later
    · cases covers
    · exact ⟨duty, later, covers⟩

/-! ## Whole runs -/

/-- Somebody answers for every unsettled row. -/
def System.AnsweredFor (system : System) : Prop := Covered Shared.Unsettled Task.Covers system.pool

abbrev BringingToEnd : System → Label → Prop :=
  Permits fun deps answer shared task => bringsToEnd deps answer shared task = true

abbrev System.WordKept (system : System) : Prop :=
  system.Disciplined Shared.KeepsWord Duty.Faithful fun _ _ => True

theorem bringsToEnd_parts (brings : bringsToEnd deps answer shared task = true) :
    Faultless deps answer task ∧ handsOver shared.rows task = true := by
  simp only [bringsToEnd, Bool.and_eq_true] at brings
  exact ⟨brings.1, brings.2⟩

theorem System.WordKept.next {system next : System} {label : Label} (kept : system.WordKept)
    (permitted : BringingToEnd system label) (moved : system.next label = some next) : next.WordKept := by
  refine wordKeeping.next kept ?_ moved
  cases label with
  | request | world => trivial
  | restart => exact permitted
  | step index answer => exact fun task found => (bringsToEnd_parts (permitted task found)).2

/-- A step keeps every row answered for whose task hands on what it covers. -/
theorem System.AnsweredFor.advance {system : System} {index : Nat} (answered : system.AnsweredFor)
    (found : system.tasks[index]? = some task)
    (effect : Effect system.deps answer system.shared (system.advance index answer task).shared task
      ((task.step system.deps answer system.shared).2.flatMap Task.duties))
    (stands : readStands system.shared.rows task = true)
    (handed : ∀ id, task.Covers id → (system.advance index answer task).shared.Unsettled id →
      ∃ fresh ∈ (task.step system.deps answer system.shared).2.flatMap Task.duties, fresh.Covers id) :
    (system.advance index answer task).AnsweredFor := by
  refine Covered.replace answered found fun id unsettled => ?_
  have lift (covered : ∃ fresh ∈ (task.step system.deps answer system.shared).2.flatMap Task.duties, fresh.Covers id) :
      ∃ fresh ∈ (task.step system.deps answer system.shared).2, fresh.Covers id := by
    obtain ⟨duty, member, covers⟩ := covered
    obtain ⟨fresh, spawned, owed⟩ := List.mem_flatMap.mp member
    exact ⟨fresh, spawned, duty, owed, covers⟩
  rcases effect.needs stands unsettled with before | covered
  · by_cases mine : task.Covers id
    · exact .inl (lift (handed id mine unsettled))
    · exact .inr ⟨before, mine⟩
  · exact .inl (lift covered)

theorem System.AnsweredFor.next {system next : System} {label : Label} (answered : system.AnsweredFor)
    (kept : system.WordKept) (permitted : BringingToEnd system label) (moved : system.next label = some next) :
    next.AnsweredFor := by
  cases label with
  | request request =>
    obtain ⟨-, rfl⟩ := next_request moved
    exact answered.join _
  | world change =>
    obtain ⟨world, -, rfl⟩ := next_world moved
    exact answered
  | restart deps => exact permitted.elim
  | step index answer =>
    obtain ⟨task, found, draws, effect, rfl⟩ := kept.owned.effect moved
    obtain ⟨faultless, hands⟩ := bringsToEnd_parts (permitted task found)
    have own := (kept.own found).1
    apply answered.advance found effect
    · exact readStands_of_handsOver hands fun duty owed => (own duty owed).2
    · rintro id ⟨duty, owed, covers⟩ unsettled
      exact effect.handed faultless (fun duty owed => (own duty owed).1) owed covers unsettled

theorem Started.answeredFor {start : System} (started : Started start) : start.AnsweredFor := by
  cases started with
  | boot deps earlier => exact fun id _ => ⟨.reconcile, List.mem_cons_self, .startup, List.mem_cons_self, trivial⟩

/-- No handler, sweep, spawn or teardown has a step left; what the process has given up may be around. -/
def System.Quiescent (system : System) : Prop :=
  ∀ task ∈ system.tasks, (∃ effect, task = .late effect) ∨ ∃ dir upload work, task = .staging dir upload work

theorem System.AnsweredFor.settled {system : System} (answered : system.AnsweredFor) (quiet : system.Quiescent)
    {id : ClusterId} {state : ClusterState} (found : stateOf system.shared.rows id = some state) :
    state.isSettled = true := by
  cases settled : state.isSettled with
  | true => rfl
  | false =>
    obtain ⟨task, member, duty, owed, covers⟩ := answered id ⟨state, found, settled⟩
    rcases quiet task member with ⟨effect, rfl⟩ | ⟨dir, upload, work, rfl⟩
    · cases effect <;> simp only [Task.duties, List.mem_singleton, List.not_mem_nil] at owed
      rw [owed] at covers
      cases covers
    · cases owed

/-- Where every step brings rows to their end, a quiescent process leaves none `Spawning` or `Deleting`, and
none whose `DELETE` it has answered. -/
theorem no_stuck_row {start finish : System} (started : Started start)
    (run : Run System.next BringingToEnd start finish) (quiet : finish.Quiescent) :
    (∀ id state, stateOf finish.shared.rows id = some state → state.isSettled = true) ∧
      ∀ id ∈ finish.shared.accepted, finish.shared.row? id = none := by
  have initial : start.WordKept :=
    started.disciplined (fun shared _ _ none_yet => ⟨by simp [none_yet]⟩) fun _ _ => trivial
  have both : finish.WordKept ∧ finish.AnsweredFor := by
    clear quiet
    induction run with
    | refl => exact ⟨initial, started.answeredFor⟩
    | step label earlier permitted moved ih => exact ⟨ih.1.next permitted moved, ih.2.next ih.1 permitted moved⟩
  refine ⟨fun id state found => both.2.settled quiet found, fun id member => ?_⟩
  cases found : finish.shared.row? id with
  | none => rfl
  | some row =>
    have state := Repository.stateOf_eq_some.mpr ⟨row, found, rfl⟩
    have deleting := (both.1.shared.2.accepted id member).2 _ state
    have settled := both.2.settled quiet state
    rw [(ClusterState.calm_of_isDeleting deleting).1] at settled
    cases settled

theorem quiescent_of_no_tasks {system : System} (none_left : system.tasks.length = 0) : system.Quiescent := by
  intro task member
  rw [List.length_eq_zero_iff.mp none_left] at member
  cases member

/-- A `Ready` row, deleted and torn down. -/
theorem no_stuck_row_ready : ∃ finish : System,
    finish.shared.accepted = [smallId] ∧ ∀ id ∈ finish.shared.accepted, finish.shared.row? id = none := by
  have evaluated : (follow System.next (permitted bringsToEnd) smallStart
      (untilReady ++ [smallDelete, .step 0 {}, .step 0 {}, .step 0 {}, .step 0 {}, .step 0 {}, .step 0 {}])).map
        (fun finish => (finish.shared.accepted, finish.tasks.length)) = some ([smallId], 0) := by
    decide +kernel
  obtain ⟨finish, run, seen⟩ := exists_run evaluated
  obtain ⟨accepted, none_left⟩ := Prod.mk.inj seen
  exact ⟨finish, accepted, (no_stuck_row smallStart_started run (quiescent_of_no_tasks none_left)).2⟩

/-- A request reads `Spawning`, the spawn succeeds, the request writes: its row stays `Deleting` though every
call has succeeded and nothing is left to do. -/
theorem deleting_row_stuck : ∃ start finish,
    Started start ∧
    Run System.next (Permits fun deps answer _ task => (callsSucceed answer task && noPanic deps answer task) = true)
      start finish ∧
    finish.Quiescent ∧ finish.shared.accepted = [smallId] ∧
    stateOf finish.shared.rows smallId = some (.deleting .epoch .userRequested) := by
  have evaluated : (follow System.next
      (permitted fun deps answer _ task => callsSucceed answer task && noPanic deps answer task) smallStart
      (untilPersisting ++ [smallDelete, .step 1 {}, .step 0 {}, .step 1 {}, .step 0 {}, .step 0 {}])).map
        (fun finish => (finish.tasks.length, finish.shared.accepted, stateOf finish.shared.rows smallId)) =
      some (0, [smallId], some (.deleting .epoch .userRequested)) := by
    decide +kernel
  obtain ⟨finish, run, seen⟩ := exists_run evaluated
  simp only [Prod.mk.injEq] at seen
  exact ⟨smallStart, finish, smallStart_started, run, quiescent_of_no_tasks seen.1, seen.2.1, seen.2.2⟩

end AppSalmon
