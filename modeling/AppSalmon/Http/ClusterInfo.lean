import AppSalmon.Service.ClusterService

/-! What `GET /clusters/{id}` answers. -/

set_option autoImplicit false

namespace AppSalmon.Http

open Repository (Rows)

/-- The status that an error of the domain is answered with. -/
def errorStatus : ClusterError → Nat
  | .ttlOutOfBounds .. | .invalidTransition .. => 400
  | .quotaExceeded .. => 429
  | .notFound _ => 404
  | .docker (.connect ..) => 503
  | .clientWorker _ | .docker _ | .repository _ | .backendSpawnFailed _ => 500

inductive ClusterInfoResponse where
  | spawning (requestedAt estimatedReadyAt : DateTime)
  | ready (requestedAt startedAt scheduledDecommissionAt : DateTime) (connection : ConnectionInfo)
  | failed (requestedAt failedAt : DateTime) (error : String)
  | deleting (message : String)
  deriving DecidableEq

/-- Empty where chrono panics. -/
def infoResponse (cluster : Cluster) (spawnEstimate : TimeDelta) : Option (Nat × ClusterInfoResponse) :=
  match cluster.state with
  | .spawning startedAt =>
    (startedAt.add? spawnEstimate).map fun estimatedReadyAt => (200, .spawning cluster.requestedAt estimatedReadyAt)
  | .ready readyAt decommissionAt connection =>
    some (200, .ready cluster.requestedAt readyAt decommissionAt connection)
  | .failed failedAt errorSummary => some (200, .failed cluster.requestedAt failedAt errorSummary)
  | .deleting .. => some (410, .deleting "cluster is being torn down")

/-- The status `get_cluster` answers with. -/
def getCluster (spawnEstimate : TimeDelta) (rows : Rows) (fault : Option RepositoryError) (id : ClusterId)
    (owner : ClientId) : Option Nat :=
  match ClusterService.info rows fault id owner with
  | .error error => some (errorStatus error)
  | .ok cluster => (infoResponse cluster spawnEstimate).map Prod.fst

theorem infoResponse_status {cluster : Cluster} {spawnEstimate : TimeDelta} {status : Nat}
    {body : ClusterInfoResponse} (answered : infoResponse cluster spawnEstimate = some (status, body)) :
    status = if cluster.state.isDeleting then 410 else 200 := by
  unfold infoResponse at answered
  split at answered
  · next startedAt state =>
    obtain ⟨estimated, -, same⟩ := Option.map_eq_some_iff.mp answered
    rw [state, ← (Prod.mk.inj same).1]
    rfl
  all_goals
    next state =>
      rw [state, ← (Prod.mk.inj (Option.some.inj answered)).1]
      rfl

/-- What the status says of the caller's row. -/
theorem getCluster_status {spawnEstimate : TimeDelta} {rows : Rows} {id : ClusterId} {owner : ClientId} {status : Nat}
    (answered : getCluster spawnEstimate rows none id owner = some status) :
    (Repository.getOwned rows id owner = none ∧ status = 404) ∨
      ∃ row, Repository.getOwned rows id owner = some row ∧ status = if row.state.isDeleting then 410 else 200 := by
  simp only [getCluster, ClusterService.info] at answered
  cases found : Repository.getOwned rows id owner with
  | none =>
    simp only [found, Option.some.injEq] at answered
    exact .inl ⟨rfl, answered.symm⟩
  | some row =>
    simp only [found, Option.map_eq_some_iff] at answered
    obtain ⟨⟨_, body⟩, response, rfl⟩ := answered
    exact .inr ⟨row, rfl, infoResponse_status response⟩

end AppSalmon.Http
