import AppSalmon.Adapters.StoredRows
import AppSalmon.Service.OverRepository

/-! One pass over the whole table, with nothing in between: a sweep of the reaper, and reconciliation.

Either goes through a list that it has read at its start. The rows that it has
dealt with stand before those that are still to come.
-/

set_option autoImplicit false

namespace AppSalmon

open KeyedTable
open Repository (Rows)

variable {σ : Type} {repository : ClusterRepository σ}

/-! ## A sweep -/

namespace TtlReaper

variable (now : DateTime) (clock : Clock) (failedGracePeriod : TimeDelta)

/-- What a sweep is to make of a row. -/
def swept (row : Cluster) : Cluster :=
  match dueForReaping row.state now failedGracePeriod with
  | some (some reason) => { row with state := .deleting (clock row.id) reason }
  | some none | none => row

/-- What a sweep is to return of a row. -/
def reaped (row : Cluster) : Option (Cluster × DeleteOutcome) :=
  match dueForReaping row.state now failedGracePeriod with
  | some (some _) => some (swept now clock failedGracePeriod row, .startTeardown)
  | some none | none => none

/-- Chrono can add the grace period to the time of every failure. -/
def Representable (rows : Rows) : Prop :=
  ∀ row ∈ rows, ∀ failedAt errorSummary, row.state = .failed failedAt errorSummary →
    ∃ end_, failedAt.add? failedGracePeriod = some end_

variable {now clock failedGracePeriod}

variable (now) in
theorem dueForReaping_isSome {rows : Rows} (representable : Representable failedGracePeriod rows) {row : Cluster}
    (member : row ∈ rows) : ∃ reason, dueForReaping row.state now failedGracePeriod = some reason := by
  cases state : row.state with
  | spawning | ready | deleting => exact ⟨_, rfl⟩
  | failed failedAt errorSummary =>
    obtain ⟨end_, added⟩ := representable row member failedAt errorSummary state
    simp [dueForReaping, added]

theorem not_representable {rows : Rows} (unrepresentable : ¬ Representable failedGracePeriod rows) (now : DateTime) :
    ∃ row ∈ rows, dueForReaping row.state now failedGracePeriod = none := by
  simp only [Representable, not_forall] at unrepresentable
  obtain ⟨row, member, failedAt, errorSummary, state, overflows⟩ := unrepresentable
  refine ⟨row, member, ?_⟩
  cases added : failedAt.add? failedGracePeriod with
  | some end_ => exact (overflows ⟨end_, added⟩).elim
  | none => simp [dueForReaping, state, added]

/-- A row that is due is `Ready` or `Failed`. -/
theorem settled_of_due {state : ClusterState} {reason : DeleteReason}
    (due : dueForReaping state now failedGracePeriod = some (some reason)) : state.isSettled = true := by
  cases state with
  | ready | failed => rfl
  | spawning | deleting => cases due

/-- Where chrono panics over one row, the sweep does not come to its end. -/
theorem sweepRows_panics {todo : List Cluster} {store : σ} {row : Cluster} (member : row ∈ todo)
    (panics : dueForReaping row.state now failedGracePeriod = none) :
    (sweepRows repository now clock failedGracePeriod todo store).1 = none := by
  induction todo generalizing store with
  | nil => cases member
  | cons head rest ih =>
    rcases List.mem_cons.mp member with rfl | later
    · simp only [sweepRows, panics]
    · simp only [sweepRows]
      split
      · rfl
      · exact ih later
      · split
        · dsimp only
          rw [ih later]
          rfl
        · exact ih later

/-- A settled row is condemned, and is to be torn down. -/
theorem requestDeleteOver_settled {rows : Rows} (distinct : Distinct Cluster.id rows) {row : Cluster} (member : row ∈ rows)
    (settled : row.state.isSettled = true) (reason : DeleteReason) (at_ : DateTime) :
    ClusterService.requestDeleteOver Repository.plain row.id row.owner reason at_ rows =
      (.ok ({ row with state := .deleting at_ reason }, .startTeardown),
        update Cluster.id rows row.id fun other => { other with state := .deleting at_ reason }) := by
  have found : Repository.getAny rows row.id = some row := distinct.lookup_of_mem member
  have owned := (Repository.getOwned_eq_some distinct).mpr ⟨found, rfl⟩
  have awake : row.state.isDeleting = false := by
    cases state : row.state <;> simp_all [ClusterState.isSettled, ClusterState.isDeleting]
  unfold ClusterService.requestDeleteOver
  rw [ClusterService.infoOver_plain]
  simp only [ClusterService.info, owned, ClusterService.condemnOver_plain, ClusterService.writeDeletion,
    transition_deleteRequested, awake, Bool.false_eq_true, if_false, Repository.updateState, Repository.modify, found,
    ClusterService.deleteOutcome_eq_startTeardown.mpr settled]

theorem sweepRows_plain {done todo : Rows} (distinct : Distinct Cluster.id (done ++ todo))
    (representable : Representable failedGracePeriod todo) :
    sweepRows Repository.plain now clock failedGracePeriod todo (done ++ todo) =
      (some (todo.filterMap (reaped now clock failedGracePeriod)), done ++ todo.map (swept now clock failedGracePeriod)) := by
  induction todo generalizing done with
  | nil => rfl
  | cons row rest ih =>
    obtain ⟨decided, due⟩ := dueForReaping_isSome now representable List.mem_cons_self
    have later : Representable failedGracePeriod rest :=
      fun other member => representable other (List.mem_cons_of_mem _ member)
    have after : ∀ next : Cluster, next.id = row.id → Distinct Cluster.id ((done ++ [next]) ++ rest) := by
      intro next named
      have same : ((done ++ [next]) ++ rest).map Cluster.id = (done ++ row :: rest).map Cluster.id := by simp [named]
      rw [Distinct, same]
      exact distinct
    cases decided with
    | none =>
      have ahead := ih (after row rfl) later
      rw [List.append_assoc, List.singleton_append] at ahead
      simp only [sweepRows, due, ahead, List.filterMap_cons, reaped, List.map_cons, swept, List.append_assoc,
        List.singleton_append]
    | some reason =>
      have condemned := requestDeleteOver_settled distinct (List.mem_append_right _ List.mem_cons_self)
        (settled_of_due due) reason (clock row.id)
      rw [update_at _ distinct] at condemned
      have ahead := ih (after { row with state := .deleting (clock row.id) reason } rfl) later
      rw [List.append_assoc, List.singleton_append] at ahead
      simp only [sweepRows, due, condemned, ahead, List.filterMap_cons, reaped, List.map_cons, swept, List.append_assoc,
        List.singleton_append, Option.map_some]

/-- A sweep over the plain table: every row that is due, and no other one. -/
theorem runOnceOver_plain {rows : Rows} (distinct : Distinct Cluster.id rows)
    (representable : Representable failedGracePeriod rows) :
    runOnceOver Repository.plain now clock failedGracePeriod rows =
      (some (rows.filterMap (reaped now clock failedGracePeriod)), rows.map (swept now clock failedGracePeriod)) :=
  have whole : Distinct Cluster.id ([] ++ rows) := distinct
  sweepRows_plain whole representable

theorem runOnceOver_plain_panics {rows : Rows} (unrepresentable : ¬ Representable failedGracePeriod rows) :
    (runOnceOver Repository.plain now clock failedGracePeriod rows).1 = none := by
  obtain ⟨row, member, panics⟩ := not_representable unrepresentable now
  exact sweepRows_panics member panics

/-! ## What a sweep is for -/

variable (now failedGracePeriod) in
/-- The row's time is up. -/
def isDue : ClusterState → Bool
  | .ready _ decommissionAt _ => decommissionAt ≤ now
  | .failed failedAt _ => (failedAt.add? failedGracePeriod).any (· ≤ now)
  | .spawning _ | .deleting .. => false

/-- What becomes of a row in a sweep. -/
def Condemned (due : Bool) (before after : Cluster) : Prop :=
  if due then ∃ since reason, after = { before with state := .deleting since reason } else after = before

variable (now failedGracePeriod) in
/-- A sweep that has done its work: nothing that is due is left, nothing else is touched, and what was due is returned,
each row to be torn down. -/
structure Sweeps (rows after : Rows) (returned : List (Cluster × DeleteOutcome)) : Prop where
  none_due : ∀ row ∈ after, isDue now failedGracePeriod row.state = false
  table : List.Forall₂ (fun before row => Condemned (isDue now failedGracePeriod before.state) before row) rows after
  returned : returned = ((rows.zip after).filter fun pair => isDue now failedGracePeriod pair.1.state).map fun pair =>
    (pair.2, .startTeardown)

theorem isDue_of_dueForReaping {state : ClusterState} {reason : Option DeleteReason}
    (decided : dueForReaping state now failedGracePeriod = some reason) :
    isDue now failedGracePeriod state = reason.isSome := by
  cases state with
  | spawning | deleting =>
    cases decided
    rfl
  | ready readyAt decommissionAt connection =>
    simp only [dueForReaping, Option.some.injEq] at decided
    rw [← decided, isDue]
    by_cases reached : decommissionAt ≤ now <;> simp [reached]
  | failed failedAt errorSummary =>
    obtain ⟨end_, added, rfl⟩ := Option.map_eq_some_iff.mp decided
    simp only [isDue, added, Option.any_some]
    by_cases reached : end_ ≤ now <;> simp [reached]

theorem condemned_swept {row : Cluster} {reason : Option DeleteReason}
    (decided : dueForReaping row.state now failedGracePeriod = some reason) :
    Condemned (isDue now failedGracePeriod row.state) row (swept now clock failedGracePeriod row) := by
  rw [isDue_of_dueForReaping decided]
  unfold Condemned swept
  rw [decided]
  cases reason with
  | none => rfl
  | some reason => exact ⟨_, reason, rfl⟩

theorem not_due_swept {row : Cluster} {reason : Option DeleteReason}
    (decided : dueForReaping row.state now failedGracePeriod = some reason) :
    isDue now failedGracePeriod (swept now clock failedGracePeriod row).state = false := by
  have due := isDue_of_dueForReaping decided
  unfold swept
  rw [decided]
  cases reason with
  | none => exact due
  | some reason => rfl

theorem returned_swept {rows : Rows} (representable : Representable failedGracePeriod rows) :
    rows.filterMap (reaped now clock failedGracePeriod) =
      ((rows.zip (rows.map (swept now clock failedGracePeriod))).filter fun pair =>
        isDue now failedGracePeriod pair.1.state).map fun pair => (pair.2, .startTeardown) := by
  induction rows with
  | nil => rfl
  | cons row rest ih =>
    obtain ⟨reason, decided⟩ := dueForReaping_isSome now representable List.mem_cons_self
    have due := isDue_of_dueForReaping decided
    have later := ih fun other member => representable other (List.mem_cons_of_mem _ member)
    rw [List.filterMap_cons, List.map_cons, List.zip_cons_cons, List.filter_cons, later]
    cases reason with
    | none => simp only [reaped, decided, due, Option.isSome_none, Bool.false_eq_true, if_false]
    | some reason => simp only [reaped, decided, due, Option.isSome_some, if_true, List.map_cons]

theorem sweeps_swept {rows : Rows} (representable : Representable failedGracePeriod rows) :
    Sweeps now failedGracePeriod rows (rows.map (swept now clock failedGracePeriod))
      (rows.filterMap (reaped now clock failedGracePeriod)) where
  none_due := by
    intro row member
    obtain ⟨before, old, rfl⟩ := List.mem_map.mp member
    obtain ⟨reason, decided⟩ := dueForReaping_isSome now representable old
    exact not_due_swept decided
  table := by
    rw [List.forall₂_map_right_iff, List.forall₂_same]
    intro row member
    obtain ⟨reason, decided⟩ := dueForReaping_isSome now representable member
    exact condemned_swept decided
  returned := returned_swept representable

/-- A sweep over any store that stands for a table does its work exactly where chrono can add. -/
theorem sweeps_iff {concrete : ClusterRepository σ} {Rel : σ → Rows → Prop}
    (simulates : concrete.Simulates Repository.plain Rel) {store : σ} {rows : Rows} (related : Rel store rows)
    (distinct : Distinct Cluster.id rows) (now : DateTime) (clock : Clock) (failedGracePeriod : TimeDelta) :
    (∃ returned later after, runOnceOver concrete now clock failedGracePeriod store = (some returned, later) ∧
      Rel later after ∧ Sweeps now failedGracePeriod rows after returned) ↔ Representable failedGracePeriod rows := by
  have agrees := runOnceOver_agrees simulates now clock failedGracePeriod related
  constructor
  · rintro ⟨returned, later, after, ran, -, -⟩
    by_contra unrepresentable
    have panics := agrees.1.trans (runOnceOver_plain_panics unrepresentable)
    rw [ran] at panics
    cases panics
  · intro representable
    rw [runOnceOver_plain distinct representable] at agrees
    obtain ⟨answers, next⟩ := agrees
    exact ⟨_, _, _, Prod.ext answers rfl, next, sweeps_swept representable⟩

end TtlReaper

/-! ## Reconciliation -/

namespace Reconciliation

variable (world : World)

/-- The row's backend is there and says that its resource is gone. -/
def isLost (row : Cluster) : Bool :=
  (world.backend row.service.kind).isSome && match world.isAlive row.id with
    | .ok false => true
    | .ok true | .error _ => false

/-- What reconciliation is to make of a row: a row that is torn down is removed. -/
def settled (row : Cluster) : Option Cluster :=
  match row.state with
  | .spawning _ | .deleting .. => none
  | .ready .. =>
    some (if isLost world row then { row with state := .failed (world.clock row.id) "lost after restart" } else row)
  | .failed .. => some row

variable {world}

end Reconciliation

end AppSalmon
