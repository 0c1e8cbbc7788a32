import AppSalmon.Service.Deps

/-! The business rules of the endpoints: TTL bounds, the new row, and what a delete request asks of
its caller. -/

set_option autoImplicit false

namespace AppSalmon

open Repository (Rows InsertOutcome)

inductive DeleteOutcome where
  | cancelSpawn | startTeardown | alreadyDeleting
  deriving DecidableEq

namespace ClusterService

def checkTtl (limits : Limits) (requestedTtl : TimeDelta) : Except ClusterError Unit :=
  if requestedTtl < limits.minTtl ∨ limits.maxTtl < requestedTtl then
    .error (.ttlOutOfBounds requestedTtl.numSeconds limits.minTtl.numSeconds limits.maxTtl.numSeconds)
  else .ok ()

/-- The row before its slot is known. -/
def newCluster (id : ClusterId) (owner : ClientId) (service : ServiceSpec) (requestedTtl : TimeDelta)
    (now : DateTime) : Cluster :=
  ⟨id, owner, service, requestedTtl, now, .spawning now, none, 0⟩

/-- One repository call, unless the TTL is refused before it. -/
def create (limits : Limits) (rows : Rows) (fault : Option RepositoryError) (cluster : Cluster) :
    Except ClusterError Cluster × Rows :=
  match checkTtl limits cluster.requestedTtl with
  | .error error => (.error error, rows)
  | .ok () =>
    match fault with
    | some error => (.error (.repository error), rows)
    | none =>
      match Repository.tryInsertIfUnderQuota rows cluster limits.maxClustersPerUser with
      | .error error => (.error (.repository error), rows)
      | .ok (next, .inserted slot) => (.ok { cluster with slot := slot }, next)
      | .ok (next, .quotaExceeded count) =>
        (.error (.quotaExceeded cluster.owner count limits.maxClustersPerUser), next)

/-- Also the first call of `request_delete`. -/
def info (rows : Rows) (fault : Option RepositoryError) (id : ClusterId) (owner : ClientId) :
    Except ClusterError Cluster :=
  match fault with
  | some error => .error (.repository error)
  | none =>
    match Repository.getOwned rows id owner with
    | some cluster => .ok cluster
    | none => .error (.notFound id)

/-- Decided by the state that was read, not by the one that was overwritten. -/
def deleteOutcome (state : ClusterState) : DeleteOutcome :=
  if state.isDeleting then .alreadyDeleting
  else if state.isSpawning then .cancelSpawn
  else .startTeardown

/-- The second call of `request_delete`, on the row the first one read. -/
def writeDeletion (rows : Rows) (fault : Option RepositoryError) (cluster : Cluster) (now : DateTime)
    (reason : DeleteReason) : Except ClusterError (Cluster × DeleteOutcome) × Rows :=
  match transition cluster.state (.deleteRequested now reason) with
  | .error error => (.error error, rows)
  | .ok state =>
    match fault with
    | some error => (.error (.repository error), rows)
    | none =>
      match Repository.updateState rows cluster.id state with
      | .error error => (.error (.repository error), rows)
      | .ok next => (.ok ({ cluster with state := state }, deleteOutcome cluster.state), next)

theorem deleteOutcome_eq_startTeardown {state : ClusterState} :
    deleteOutcome state = .startTeardown ↔ state.isSettled = true := by
  cases state <;> simp [deleteOutcome, ClusterState.isDeleting, ClusterState.isSpawning, ClusterState.isSettled]

/-- What an accepted create has done. -/
theorem create_ok {limits : Limits} {rows next : Rows} {fault : Option RepositoryError} {cluster made : Cluster}
    (done : create limits rows fault cluster = (.ok made, next)) :
    ∃ slot, Repository.tryInsertIfUnderQuota rows cluster limits.maxClustersPerUser = .ok (next, .inserted slot) ∧
      made = { cluster with slot := slot } := by
  unfold create at done
  split at done
  · cases done
  · split at done
    · cases done
    · split at done
      · cases done
      · next inserted =>
        cases done
        exact ⟨_, inserted, rfl⟩
      · cases done

theorem checkTtl_ok {limits : Limits} {requestedTtl : TimeDelta} {checked : Unit}
    (done : checkTtl limits requestedTtl = .ok checked) : limits.minTtl ≤ requestedTtl ∧ requestedTtl ≤ limits.maxTtl := by
  unfold checkTtl at done
  split at done
  · cases done
  · next inside =>
    rw [not_or, TimeDelta.not_lt, TimeDelta.not_lt] at inside
    exact inside

/-- An accepted create asks for a TTL within the limits. -/
theorem create_bounds {limits : Limits} {rows next : Rows} {fault : Option RepositoryError} {cluster made : Cluster}
    (done : create limits rows fault cluster = (.ok made, next)) :
    limits.minTtl ≤ cluster.requestedTtl ∧ cluster.requestedTtl ≤ limits.maxTtl := by
  unfold create at done
  split at done
  · cases done
  · next checked => exact checkTtl_ok checked

/-- A create that fails leaves the table as it was. -/
theorem create_error {limits : Limits} {rows next : Rows} {fault : Option RepositoryError} {cluster : Cluster}
    {error : ClusterError} (failed : create limits rows fault cluster = (.error error, next)) : next = rows := by
  unfold create at failed
  split at failed
  · exact (congrArg Prod.snd failed).symm
  · split at failed
    · exact (congrArg Prod.snd failed).symm
    · split at failed
      · exact (congrArg Prod.snd failed).symm
      · cases failed
      · next refused =>
        have same := congrArg Prod.snd failed
        rcases Repository.tryInsertIfUnderQuota_cases refused with ⟨-, unchanged, -⟩ | ⟨slot, -, -, -, other, -⟩
        · exact same.symm.trans unchanged
        · cases other

theorem info_ok {rows : Rows} {fault : Option RepositoryError} {id : ClusterId} {owner : ClientId} {row : Cluster}
    (found : info rows fault id owner = .ok row) : Repository.getOwned rows id owner = some row := by
  unfold info at found
  split at found
  · cases found
  · split at found
    · next here =>
      cases found
      exact here
    · cases found

/-- What an accepted delete request has done. -/
theorem writeDeletion_ok {rows next : Rows} {fault : Option RepositoryError} {cluster updated : Cluster}
    {now : DateTime} {reason : DeleteReason} {outcome : DeleteOutcome}
    (done : writeDeletion rows fault cluster now reason = (.ok (updated, outcome), next)) :
    fault = none ∧ outcome = deleteOutcome cluster.state ∧
      updated = { cluster with state := if cluster.state.isDeleting then cluster.state else .deleting now reason } ∧
      Repository.updateState rows cluster.id updated.state = .ok next := by
  unfold writeDeletion at done
  rw [transition_deleteRequested] at done
  cases fault with
  | some error => cases done
  | none =>
    simp only at done
    split at done
    · cases done
    · next updated =>
      cases done
      exact ⟨rfl, rfl, rfl, updated⟩

theorem writeDeletion_error {rows next : Rows} {fault : Option RepositoryError} {cluster : Cluster}
    {now : DateTime} {reason : DeleteReason} {error : ClusterError}
    (failed : writeDeletion rows fault cluster now reason = (.error error, next)) : next = rows := by
  unfold writeDeletion at failed
  rw [transition_deleteRequested] at failed
  cases fault with
  | some error => exact (congrArg Prod.snd failed).symm
  | none =>
    simp only at failed
    split at failed
    · exact (congrArg Prod.snd failed).symm
    · cases failed

end ClusterService

end AppSalmon
