import AppSalmon.Adapters.SudoExec
import AppSalmon.Service.OverRepository
import Mathlib.Data.List.Perm.Basic

/-! Reconciliation call by call, where each call may fail by itself.

The policy says of one row what becomes of it and which calls are made for it.
The loop does for the whole table what the policy says row by row.
-/

set_option autoImplicit false

namespace AppSalmon

open KeyedTable
open Repository (Rows)

/-! ## The calls -/

/-- One call that goes out. -/
inductive Outgoing where
  | updateState (id : ClusterId) (state : ClusterState)
  | isAlive (kind : ServiceKind) (id : ClusterId)
  | teardown (kind : ServiceKind) (id : ClusterId)
  | runAs (worker : WorkerUser) (command : PrivilegedCommand)
  | delete (id : ClusterId)
  deriving DecidableEq

/-- A store, and the calls made so far with whether they succeeded. -/
structure Trail (σ : Type) where
  store : σ
  made : List (Outgoing × Bool)

def Trail.note {σ ε α : Type} (trail : Trail σ) (call : Outgoing) (result : Except ε α) : Trail σ :=
  { trail with made := trail.made ++ [(call, result.isOk)] }

namespace Reconciliation

/-- The world with what its cleaning calls answer. -/
structure Outside extends World where
  workerDataDirBase : UnixPath.Path
  teardown : ClusterId → Except ClusterError Unit
  wipe : ClusterId → Except PrivilegedExecError Unit

end Reconciliation

variable {σ : Type} (repository : ClusterRepository σ) (outside : Reconciliation.Outside)

def Trail.updateState (id : ClusterId) (state : ClusterState) (trail : Trail σ) : Except RepositoryError Unit × Trail σ :=
  let done := repository.updateState id state trail.store
  (done.1, { trail with store := done.2 }.note (.updateState id state) done.1)

def Trail.delete (id : ClusterId) (trail : Trail σ) : Trail σ :=
  let done := repository.delete id trail.store
  { trail with store := done.2 }.note (.delete id) done.1

/-- Each step is made, whatever the one before it answered. -/
def TeardownTask.teardown (cluster : Cluster) (trail : Trail σ) : Trail σ :=
  let trail := match outside.backend cluster.service.kind with
    | none => trail
    | some _ => trail.note (.teardown cluster.service.kind cluster.id) (outside.teardown cluster.id)
  let trail := match cluster.worker with
    | none => trail
    | some worker =>
      let path := workerDataDir outside.workerDataDirBase worker cluster.slot
      trail.note (.runAs worker (.wipeWorkerDir path)) (outside.wipe cluster.id)
  trail.delete repository cluster.id

namespace Reconciliation

/-- What the loop does for one row. -/
def reconcileRow (trail : Trail σ) (cluster : Cluster) : Trail σ :=
  match cluster.state with
  | .spawning _ =>
    let deletingState := ClusterState.deleting (outside.clock cluster.id) .adminForced
    match trail.updateState repository cluster.id deletingState with
    -- a row that could not be marked keeps its resources until the next start
    | (.error _, trail) => trail
    | (.ok (), trail) => TeardownTask.teardown repository outside { cluster with state := deletingState } trail
  | .ready .. =>
    match outside.backend cluster.service.kind with
    -- without its backend there is no telling whether a cluster is alive
    | none => trail
    | some _ =>
      let trail := trail.note (.isAlive cluster.service.kind cluster.id) (outside.isAlive cluster.id)
      match outside.isAlive cluster.id with
      | .ok true => trail
      | .ok false =>
        (trail.updateState repository cluster.id (.failed (outside.clock cluster.id) "lost after restart")).2
      -- no answer is no proof of death
      | .error _ => trail
  | .deleting .. => TeardownTask.teardown repository outside cluster trail
  | .failed .. => trail

def run (trail : Trail σ) : Trail σ :=
  match repository.listAll trail.store with
  -- no list, no reconciliation; the service starts all the same
  | (.error _, store) => { trail with store := store }
  | (.ok rows, store) => rows.foldl (reconcileRow repository outside) { trail with store := store }

/-! ## The store alone -/

variable {repository outside}

theorem teardown_store (cluster : Cluster) (trail : Trail σ) :
    (TeardownTask.teardown repository outside cluster trail).store =
      (repository.delete cluster.id trail.store).2 := by
  unfold TeardownTask.teardown Trail.delete Trail.note
  cases outside.backend cluster.service.kind <;> cases cluster.worker <;> rfl

/-- The cleaning calls leave the store to the loop that makes none. -/
theorem foldl_store (rows : List Cluster) (trail : Trail σ) :
    (rows.foldl (reconcileRow repository outside) trail).store =
      (rowsOver repository outside.toWorld rows trail.store).2 := by
  -- both loops go row by row, and of each row's calls only the repository's reach the store
  induction rows generalizing trail with
  | nil => rfl
  | cons cluster rest ih =>
    rw [List.foldl_cons, ih, rowsOver, reconcileRow]
    cases state : cluster.state with
    | spawning startedAt =>
      simp only [Trail.updateState, Trail.note]
      rcases repository.updateState cluster.id (.deleting (outside.clock cluster.id) .adminForced) trail.store with
        ⟨error | written, store⟩
      · rfl
      · simp only [teardown_store]
    | ready readyAt decommissionAt connection =>
      simp only [Trail.updateState, Trail.note]
      cases outside.backend cluster.service.kind with
      | none => rfl
      | some backend =>
        rcases outside.isAlive cluster.id with error | alive
        · rfl
        · cases alive <;> rfl
    | deleting deletingSince reason => simp only [teardown_store]
    | failed failedAt errorSummary => rfl

theorem run_store (trail : Trail σ) :
    (run repository outside trail).store = (runOver repository outside.toWorld trail.store).2 := by
  unfold run runOver
  rcases repository.listAll trail.store with ⟨error | rows, store⟩
  · rfl
  · exact foldl_store rows _

end Reconciliation

/-! ## A table whose writes may fail -/

/-- Which writes of which rows fail. -/
structure Faults where
  updateState : ClusterId → Option RepositoryError
  delete : ClusterId → Option RepositoryError

def Faults.none : Faults := ⟨fun _ => .none, fun _ => .none⟩

/-- The plain table, where the writes that are to fail do so and change nothing. -/
def Repository.faulty (faults : Faults) : ClusterRepository Rows where
  __ := Repository.plain
  updateState := fun id state rows => match faults.updateState id with
    | some error => (.error error, rows)
    | .none => Repository.plain.updateState id state rows
  delete := fun id rows => match faults.delete id with
    | some error => (.error error, rows)
    | .none => Repository.plain.delete id rows

namespace Reconciliation

variable (outside : Outside) (faults : Faults)

/-! ## The policy for one row -/

/-- What is left of a row that is being deleted. -/
def deleted (row : Cluster) : Option Cluster := if (faults.delete row.id).isSome then some row else none

/-- What becomes of a row. -/
def outcome (row : Cluster) : Option Cluster :=
  match row.state with
  | .spawning _ =>
    if (faults.updateState row.id).isSome then some row
    else deleted faults { row with state := .deleting (outside.clock row.id) .adminForced }
  | .deleting .. => deleted faults row
  | .ready .. =>
    if (outside.backend row.service.kind).isSome ∧ outside.isAlive row.id = .ok false ∧ faults.updateState row.id = .none then
      some { row with state := .failed (outside.clock row.id) "lost after restart" }
    else some row
  | .failed .. => some row

/-- The calls of a teardown, with whether each succeeds. -/
def teardownCalls (row : Cluster) : List (Outgoing × Bool) :=
  (match outside.backend row.service.kind with
    | none => []
    | some _ => [(.teardown row.service.kind row.id, (outside.teardown row.id).isOk)]) ++
  (match row.worker with
    | none => []
    | some worker =>
      [(.runAs worker (.wipeWorkerDir (workerDataDir outside.workerDataDirBase worker row.slot)), (outside.wipe row.id).isOk)]) ++
  [(.delete row.id, (faults.delete row.id).isNone)]

/-- The calls made for a row. A row that cannot be marked is not torn down. -/
def rowCalls (row : Cluster) : List (Outgoing × Bool) :=
  match row.state with
  | .spawning _ =>
    let marked := Outgoing.updateState row.id (.deleting (outside.clock row.id) .adminForced)
    match faults.updateState row.id with
    | some _ => [(marked, false)]
    | none => (marked, true) :: teardownCalls outside faults row
  | .deleting .. => teardownCalls outside faults row
  | .ready .. =>
    match outside.backend row.service.kind with
    | none => []
    | some _ =>
      (.isAlive row.service.kind row.id, (outside.isAlive row.id).isOk) ::
        match outside.isAlive row.id with
        | .ok false =>
          [(.updateState row.id (.failed (outside.clock row.id) "lost after restart"), (faults.updateState row.id).isNone)]
        | .ok true | .error _ => []
  | .failed .. => []

variable {outside faults}

theorem outcome_id {row next : Cluster} (kept : outcome outside faults row = some next) : next.id = row.id := by
  unfold outcome deleted at kept
  split at kept
  · split at kept
    · rw [← Option.some.inj kept]
    · rw [← (Option.ite_none_right_eq_some.mp kept).2 |> Option.some.inj]
  · rw [← (Option.ite_none_right_eq_some.mp kept).2 |> Option.some.inj]
  · split at kept <;> rw [← Option.some.inj kept]
  · rw [← Option.some.inj kept]

/-! ## The loop -/

section
variable {before after : Rows} {row : Cluster} {made : List (Outgoing × Bool)}

theorem updateState_faulty (distinct : Distinct Cluster.id (before ++ row :: after)) (state : ClusterState) :
    Trail.updateState (Repository.faulty faults) row.id state ⟨before ++ row :: after, made⟩ =
      match faults.updateState row.id with
      | some error => (.error error, ⟨before ++ row :: after, made ++ [(.updateState row.id state, false)]⟩)
      | none => (.ok (), ⟨before ++ { row with state := state } :: after, made ++ [(.updateState row.id state, true)]⟩) := by
  -- identifiers are distinct, so the row that is written is the one in the middle
  have found : Repository.getAny (before ++ row :: after) row.id = some row := lookup_at distinct
  have moved := update_at (fun other : Cluster => { other with state := state }) distinct
  unfold Trail.updateState Repository.faulty
  cases failing : faults.updateState row.id with
  | some error =>
    simp only [failing, Trail.note]
    rfl
  | none =>
    simp only [failing, Repository.plain, Repository.updateState, Repository.modify, found, moved, Repository.written,
      Trail.note]
    rfl

theorem delete_faulty (distinct : Distinct Cluster.id (before ++ row :: after)) :
    Trail.delete (Repository.faulty faults) row.id ⟨before ++ row :: after, made⟩ =
      ⟨before ++ (deleted faults row).toList ++ after, made ++ [(.delete row.id, (faults.delete row.id).isNone)]⟩ := by
  have removed := remove_at distinct
  unfold Trail.delete Repository.faulty deleted
  cases failing : faults.delete row.id with
  | some error => simp [failing, Trail.note, Except.isOk, Except.toBool]
  | none => simp [failing, Trail.note, Repository.plain, Repository.delete, removed, Except.isOk, Except.toBool]

theorem teardown_faulty (distinct : Distinct Cluster.id (before ++ row :: after)) :
    TeardownTask.teardown (Repository.faulty faults) outside row ⟨before ++ row :: after, made⟩ =
      ⟨before ++ (deleted faults row).toList ++ after, made ++ teardownCalls outside faults row⟩ := by
  unfold TeardownTask.teardown teardownCalls
  cases outside.backend row.service.kind <;> cases row.worker <;>
    simp only [Trail.note, delete_faulty distinct, List.append_assoc, List.nil_append]

/-- A row put in the place of another one with its key. -/
theorem distinct_replaced {next : Cluster} (distinct : Distinct Cluster.id (before ++ row :: after))
    (named : next.id = row.id) : Distinct Cluster.id (before ++ next :: after) := by
  have same : (before ++ next :: after).map Cluster.id = (before ++ row :: after).map Cluster.id := by simp [named]
  rw [Distinct, same]
  exact distinct

theorem reconcileRow_faulty (distinct : Distinct Cluster.id (before ++ row :: after)) :
    reconcileRow (Repository.faulty faults) outside ⟨before ++ row :: after, made⟩ row =
      ⟨before ++ (outcome outside faults row).toList ++ after, made ++ rowCalls outside faults row⟩ := by
  unfold reconcileRow outcome rowCalls
  cases row.state with
  | spawning startedAt =>
    dsimp only
    rw [updateState_faulty distinct]
    cases failing : faults.updateState row.id with
    | some error => simp
    | none =>
      -- the row that the teardown sees is the marked one, in the same place
      have marked : Distinct Cluster.id
          (before ++ { row with state := .deleting (outside.clock row.id) .adminForced } :: after) :=
        distinct_replaced distinct rfl
      dsimp only
      rw [teardown_faulty marked, List.append_assoc made, List.singleton_append]
      rfl
  | ready readyAt decommissionAt connection =>
    dsimp only
    cases outside.backend row.service.kind with
    | none => simp
    | some backend =>
      simp only [Trail.note, updateState_faulty distinct]
      rcases alive : outside.isAlive row.id with error | answer
      · simp
      · cases answer with
        | true => simp
        | false => cases failing : faults.updateState row.id <;> simp
  | deleting deletingSince reason => exact teardown_faulty distinct
  | failed failedAt errorSummary => simp

theorem distinct_outcome (distinct : Distinct Cluster.id (before ++ row :: after)) :
    Distinct Cluster.id (before ++ (outcome outside faults row).toList ++ after) := by
  cases kept : outcome outside faults row with
  | none =>
    rw [Option.toList_none, List.append_nil]
    exact distinct.sublist ((List.sublist_cons_self _ _).append_left _)
  | some next =>
    rw [Option.toList_some, List.append_assoc, List.singleton_append]
    exact distinct_replaced distinct (outcome_id kept)

/-- The rows that are done stand before those that are still to come. -/
theorem foldl_faulty {done todo : Rows} (distinct : Distinct Cluster.id (done ++ todo)) :
    todo.foldl (reconcileRow (Repository.faulty faults) outside) ⟨done ++ todo, made⟩ =
      ⟨done ++ todo.filterMap (outcome outside faults), made ++ todo.flatMap (rowCalls outside faults)⟩ := by
  induction todo generalizing done made with
  | nil => simp
  | cons row rest ih =>
    -- what this row left, if anything, joins those that are done
    rw [List.foldl_cons, reconcileRow_faulty distinct, ih (distinct_outcome distinct), List.flatMap_cons,
      List.filterMap_cons, List.append_assoc made]
    cases outcome outside faults row <;> simp

end

/-- Reconciliation does what the policy says, row by row. -/
theorem run_faulty {rows : Rows} (distinct : Distinct Cluster.id rows) :
    run (Repository.faulty faults) outside ⟨rows, []⟩ =
      ⟨rows.filterMap (outcome outside faults), rows.flatMap (rowCalls outside faults)⟩ :=
  have whole : Distinct Cluster.id ([] ++ rows) := distinct
  foldl_faulty whole

/-! ## The whole table -/

theorem distinct_outcomes {rows : Rows} (distinct : Distinct Cluster.id rows) :
    Distinct Cluster.id (rows.filterMap (outcome outside faults)) := by
  have inside : ((rows.filterMap (outcome outside faults)).map Cluster.id).Sublist (rows.map Cluster.id) := by
    -- the induction is on the list alone, whose identifiers are among those of the table
    clear distinct
    induction rows with
    | nil => exact .slnil
    | cons row rest ih =>
      rw [List.filterMap_cons, List.map_cons]
      cases kept : outcome outside faults row with
      | none => exact ih.cons _
      | some next =>
        rw [List.map_cons, outcome_id kept]
        exact ih.cons_cons _
  exact inside.nodup distinct

/-- The calls that take something away name the row that they are made for. -/
theorem mem_rowCalls {row : Cluster} {kind : ServiceKind} {id : ClusterId} {succeeded : Bool}
    (member : (Outgoing.teardown kind id, succeeded) ∈ rowCalls outside faults row ∨
      (Outgoing.delete id, succeeded) ∈ rowCalls outside faults row) : id = row.id := by
  have torn (member : (Outgoing.teardown kind id, succeeded) ∈ teardownCalls outside faults row ∨
      (Outgoing.delete id, succeeded) ∈ teardownCalls outside faults row) : id = row.id := by
    unfold teardownCalls at member
    cases here : outside.backend row.service.kind <;> cases worker : row.worker <;> simp_all
    all_goals tauto
  unfold rowCalls at member
  split at member
  · split at member
    · simp at member
    · exact torn (by simpa using member)
  · exact torn member
  · split at member
    · simp at member
    · split at member <;> simp at member
  · simp at member

/-- Once nothing fails, what is left stays as it is while the backends answer the same. -/
theorem outcome_settled {second third : Outside} (backend : third.backend = second.backend)
    (alive : third.isAlive = second.isAlive) (faults : Faults) {row next : Cluster}
    (kept : outcome second .none row = some next) : outcome third faults next = some next := by
  unfold outcome at kept
  cases state : row.state with
  | spawning startedAt => simp [state, deleted, Faults.none] at kept
  | deleting deletingSince reason => simp [state, deleted, Faults.none] at kept
  | ready readyAt decommissionAt connection =>
    simp only [state] at kept
    split at kept
    · rw [← Option.some.inj kept]
      rfl
    -- alive, or unanswered: the same answers spare the row again
    · next answered =>
      rw [← Option.some.inj kept]
      simp only [outcome, state, backend, alive]
      rw [if_neg]
      intro lost
      exact answered ⟨lost.1, lost.2.1, rfl⟩
  | failed failedAt errorSummary =>
    simp only [state] at kept
    rw [← Option.some.inj kept, outcome, state]

/-- The assignments agree on a row: what its cleaning calls answer does not count. -/
structure SameFor (row : Cluster) (outside other : Outside) (faults otherFaults : Faults) : Prop where
  backend : outside.backend row.service.kind = other.backend row.service.kind
  isAlive : outside.isAlive row.id = other.isAlive row.id
  clock : outside.clock row.id = other.clock row.id
  updateState : faults.updateState row.id = otherFaults.updateState row.id
  delete : faults.delete row.id = otherFaults.delete row.id

variable (outside faults) in
/-- What a pass over a table is to have done. -/
structure FollowsPolicy (rows : Rows) (trail : Trail Rows) : Prop where
  table : trail.store = rows.filterMap (outcome outside faults)
  row : ∀ row ∈ rows, Repository.getAny trail.store row.id = outcome outside faults row
  calls : trail.made = rows.flatMap (rowCalls outside faults)
  /-- A row that was not marked is not torn down. -/
  spared : ∀ row ∈ rows, ∀ startedAt, row.state = .spawning startedAt → faults.updateState row.id ≠ none →
    ∀ kind succeeded, (.teardown kind row.id, succeeded) ∉ trail.made ∧ (.delete row.id, succeeded) ∉ trail.made
  /-- Neither the other rows nor their order count. -/
  isolated : ∀ row ∈ rows, ∀ others other otherFaults, Distinct Cluster.id others → row ∈ others →
    SameFor row outside other faults otherFaults →
    Repository.getAny (run (Repository.faulty otherFaults) other ⟨others, []⟩).store row.id =
      Repository.getAny trail.store row.id
  /-- After a pass without failures another one finds nothing to do, whatever fails in it. -/
  settles : ∀ second third : Outside, ∀ laterFaults, third.backend = second.backend → third.isAlive = second.isAlive →
    let again := run (Repository.faulty .none) second ⟨trail.store, []⟩
    (run (Repository.faulty laterFaults) third ⟨again.store, []⟩).store = again.store

theorem followsPolicy_run (outside : Outside) (faults : Faults) {rows : Rows} (distinct : Distinct Cluster.id rows) :
    FollowsPolicy outside faults rows (run (Repository.faulty faults) outside ⟨rows, []⟩) := by
  have found {outside faults} {rows : Rows} (distinct : Distinct Cluster.id rows) {row : Cluster} (member : row ∈ rows) :
      Repository.getAny (rows.filterMap (outcome outside faults)) row.id = outcome outside faults row :=
    distinct.lookup_filterMap member fun _ _ kept => outcome_id kept
  rw [run_faulty distinct]
  constructor
  · rfl
  · exact fun row member => found distinct member
  · rfl
  · intro row member startedAt spawning fails kind succeeded
    have alone : ∀ kind succeeded, (Outgoing.teardown kind row.id, succeeded) ∉ rowCalls outside faults row ∧
        (Outgoing.delete row.id, succeeded) ∉ rowCalls outside faults row := by
      intro kind succeeded
      obtain ⟨error, failing⟩ := Option.ne_none_iff_exists'.mp fails
      simp [rowCalls, spawning, failing]
    constructor
    · intro made
      obtain ⟨other, inside, call⟩ := List.mem_flatMap.mp made
      -- a call that names this row was made for it
      obtain rfl := distinct.eq_of_mem member inside (mem_rowCalls (.inl call))
      exact (alone kind succeeded).1 call
    · intro made
      obtain ⟨other, inside, call⟩ := List.mem_flatMap.mp made
      have own : row.id = other.id := @mem_rowCalls _ _ other kind _ _ (.inr call)
      obtain rfl := distinct.eq_of_mem member inside own
      exact (alone kind succeeded).2 call
  · intro row member others other otherFaults unique inside same
    rw [run_faulty unique, found unique inside, found distinct member]
    unfold outcome deleted
    rw [same.backend, same.isAlive, same.clock, same.updateState, same.delete]
  · intro second third laterFaults backend alive
    dsimp only
    -- three passes are three rounds of the policy, so each row may be looked at by itself
    rw [run_faulty (distinct_outcomes distinct), run_faulty (distinct_outcomes (distinct_outcomes distinct)),
      List.filterMap_filterMap]
    apply List.filterMap_congr
    intro row _
    cases kept : outcome second .none row with
    | none => rfl
    | some next => exact outcome_settled backend alive laterFaults kept

/-- A pass follows the policy for every row, and leaves what the pass of the store leaves that keeps no trail. -/
theorem follows_policy (outside : Outside) (faults : Faults) {rows : Rows} (distinct : Distinct Cluster.id rows) :
    FollowsPolicy outside faults rows (run (Repository.faulty faults) outside ⟨rows, []⟩) ∧
      (run (Repository.faulty faults) outside ⟨rows, []⟩).store =
        (runOver (Repository.faulty faults) outside.toWorld rows).2 :=
  ⟨followsPolicy_run outside faults distinct, run_store ⟨rows, []⟩⟩

/-- Two rows, the second of them half made. -/
def interrupted : Rows :=
  [⟨⟨0⟩, ⟨"alice"⟩, ⟨.postgres, false⟩, smallTtl, .epoch, .ready .epoch .epoch smallConnection, none, 0⟩,
    ⟨⟨1⟩, ⟨"bob"⟩, ⟨.supabase, false⟩, smallTtl, .epoch, .spawning .epoch, some ⟨"agent1", 1001, 1001⟩, 0⟩]

/-- Every resource is gone, and no directory can be emptied. -/
def restarted : Outside where
  backend := fun kind => (registeredBackends.find? fun entry => entry.1 = kind).map Prod.snd
  isAlive := fun _ => .ok false
  clock := fun _ => .epoch
  workerDataDirBase := "/srv".toList
  teardown := fun _ => .ok ()
  wipe := fun _ => .error (.timeout ⟨"agent1", 1001, 1001⟩ 30)

/-- The row of the second cluster cannot be deleted. -/
def locked : Faults where
  updateState := fun _ => none
  delete := fun id => if id = ⟨1⟩ then some (.db "database is locked") else none

theorem interrupted_follows_policy :
    FollowsPolicy restarted locked interrupted (run (Repository.faulty locked) restarted ⟨interrupted, []⟩) :=
  (follows_policy restarted locked (by simp [Distinct, interrupted])).1

end Reconciliation

end AppSalmon
