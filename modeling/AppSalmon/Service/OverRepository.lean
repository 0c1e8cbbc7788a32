import AppSalmon.Ports.ClusterRepository
import AppSalmon.Service.Tasks

/-! What callers do with the storage port, over any implementation of it.

Each function here runs to its end with nothing between its calls. Over the
plain table the endpoints are the ones that the tasks step through.
-/

set_option autoImplicit false

namespace AppSalmon

open Repository (Rows InsertOutcome)

variable {σ τ : Type} (repository : ClusterRepository σ)

namespace ClusterService

/-- `repository.call().await?`, and what follows it. -/
def afterCall {α β : Type} (done : Except RepositoryError α × σ) (next : α → σ → Except ClusterError β × σ) :
    Except ClusterError β × σ :=
  match done with
  | (.error error, store) => (.error (.repository error), store)
  | (.ok value, store) => next value store

def createOver (limits : Limits) (cluster : Cluster) (store : σ) : Except ClusterError Cluster × σ :=
  match checkTtl limits cluster.requestedTtl with
  | .error error => (.error error, store)
  | .ok () => afterCall (repository.tryInsertIfUnderQuota cluster limits.maxClustersPerUser store) fun
    | .inserted slot, next => (.ok { cluster with slot := slot }, next)
    | .quotaExceeded count, next => (.error (.quotaExceeded cluster.owner count limits.maxClustersPerUser), next)

def infoOver (id : ClusterId) (owner : ClientId) (store : σ) : Except ClusterError Cluster × σ :=
  afterCall (repository.getOwned id owner store) fun
    | some cluster, next => (.ok cluster, next)
    | none, next => (.error (.notFound id), next)

def listOver (owner : ClientId) (store : σ) : Except ClusterError (List Cluster) × σ :=
  afterCall (repository.listByOwner owner store) fun rows next => (.ok rows, next)

/-- The write of `request_delete`, on the row that it has read. -/
def condemnOver (id : ClusterId) (reason : DeleteReason) (now : DateTime) (cluster : Cluster) (store : σ) :
    Except ClusterError (Cluster × DeleteOutcome) × σ :=
  match transition cluster.state (.deleteRequested now reason) with
  | .error error => (.error error, store)
  | .ok state => afterCall (repository.updateState id state store) fun _ next =>
    (.ok ({ cluster with state := state }, deleteOutcome cluster.state), next)

def requestDeleteOver (id : ClusterId) (owner : ClientId) (reason : DeleteReason) (now : DateTime) (store : σ) :
    Except ClusterError (Cluster × DeleteOutcome) × σ :=
  match infoOver repository id owner store with
  | (.error error, next) => (.error error, next)
  | (.ok cluster, next) => condemnOver repository id reason now cluster next

end ClusterService

namespace TtlReaper

/-- What `request_delete` reads from the clock, for each row it is called for. -/
abbrev Clock := ClusterId → DateTime

/-- The rows of a sweep one after the other. The result is empty where chrono panics. -/
def sweepRows (now : DateTime) (clock : Clock) (failedGracePeriod : TimeDelta) :
    List Cluster → σ → Option (List (Cluster × DeleteOutcome)) × σ
  | [], store => (some [], store)
  | cluster :: rest, store =>
    match dueForReaping cluster.state now failedGracePeriod with
    | none => (none, store)
    | some none => sweepRows now clock failedGracePeriod rest store
    | some (some reason) =>
      match ClusterService.requestDeleteOver repository cluster.id cluster.owner reason (clock cluster.id) store with
      | (.ok done, next) =>
        let later := sweepRows now clock failedGracePeriod rest next
        (later.1.map (done :: ·), later.2)
      | (.error _, next) => sweepRows now clock failedGracePeriod rest next

def runOnceOver (now : DateTime) (clock : Clock) (failedGracePeriod : TimeDelta) (store : σ) :
    Option (List (Cluster × DeleteOutcome)) × σ :=
  match repository.listAll store with
  | (.error _, next) => (some [], next)
  | (.ok rows, next) => sweepRows repository now clock failedGracePeriod rows next

end TtlReaper

namespace Reconciliation

/-- What reconciliation asks of the world: the backends, whether a resource is alive, and the clock. -/
structure World where
  backend : ServiceKind → Option Backend
  isAlive : ClusterId → Except ClusterError Bool
  clock : ClusterId → DateTime

/-- The rows one after the other: which clusters are torn down. -/
def rowsOver (world : World) : List Cluster → σ → List Cluster × σ
  | [], store => ([], store)
  | cluster :: rest, store =>
    -- whatever else a teardown does, it ends with the removal of the row
    let torn (cluster : Cluster) (store : σ) : List Cluster × σ :=
      let later := rowsOver world rest (repository.delete cluster.id store).2
      (cluster :: later.1, later.2)
    match cluster.state with
    | .spawning _ =>
      let state := ClusterState.deleting (world.clock cluster.id) .adminForced
      match repository.updateState cluster.id state store with
      | (.ok (), next) => torn { cluster with state := state } next
      | (.error _, next) => rowsOver world rest next
    | .ready .. =>
      match world.backend cluster.service.kind, world.isAlive cluster.id with
      | some _, .ok false =>
        rowsOver world rest
          (repository.updateState cluster.id (.failed (world.clock cluster.id) "lost after restart") store).2
      | _, _ => rowsOver world rest store
    | .deleting .. => torn cluster store
    | .failed .. => rowsOver world rest store

def runOver (world : World) (store : σ) : List Cluster × σ :=
  match repository.listAll store with
  | (.error _, next) => ([], next)
  | (.ok rows, next) => rowsOver repository world rows next

end Reconciliation

/-! ## Over the plain table -/

namespace ClusterService

theorem createOver_plain (limits : Limits) (cluster : Cluster) (rows : Rows) :
    createOver Repository.plain limits cluster rows = create limits rows none cluster := by
  unfold createOver create
  cases checkTtl limits cluster.requestedTtl with
  | error error => rfl
  | ok =>
    simp only [afterCall, Repository.plain]
    cases Repository.tryInsertIfUnderQuota rows cluster limits.maxClustersPerUser with
    | error error => rfl
    | ok done =>
      obtain ⟨next, slot | count⟩ := done
      · rfl
      · rfl

theorem infoOver_plain (id : ClusterId) (owner : ClientId) (rows : Rows) :
    infoOver Repository.plain id owner rows = (info rows none id owner, rows) := by
  simp only [infoOver, afterCall, Repository.plain, info]
  cases Repository.getOwned rows id owner with
  | none => rfl
  | some cluster => rfl

theorem condemnOver_plain (cluster : Cluster) (reason : DeleteReason) (now : DateTime) (rows : Rows) :
    condemnOver Repository.plain cluster.id reason now cluster rows = writeDeletion rows none cluster now reason := by
  unfold condemnOver writeDeletion
  cases transition cluster.state (.deleteRequested now reason) with
  | error error => rfl
  | ok state =>
    simp only [afterCall, Repository.plain]
    cases Repository.updateState rows cluster.id state with
    | error error => rfl
    | ok next => rfl

end ClusterService

/-! ## Over two implementations that answer alike -/

section
variable {concrete : ClusterRepository σ} {plain : ClusterRepository τ} {Rel : σ → τ → Prop}

open ClusterRepository (Agrees Simulates)

namespace ClusterService

theorem afterCall_agrees {α β : Type} {first : Except RepositoryError α × σ} {second : Except RepositoryError α × τ}
    {next : α → σ → Except ClusterError β × σ} {next' : α → τ → Except ClusterError β × τ}
    (agrees : Agrees Rel first second)
    (onward : ∀ value store rows, Rel store rows → Agrees Rel (next value store) (next' value rows)) :
    Agrees Rel (afterCall first next) (afterCall second next') := by
  obtain ⟨result, store, rows, rfl, rfl, related⟩ := agrees.split
  cases result with
  | error error => exact ⟨rfl, related⟩
  | ok value => exact onward value store rows related

theorem infoOver_agrees (simulates : concrete.Simulates plain Rel) {store : σ} {rows : τ} (related : Rel store rows)
    (id : ClusterId) (owner : ClientId) : Agrees Rel (infoOver concrete id owner store) (infoOver plain id owner rows) := by
  apply afterCall_agrees (simulates.getOwned id owner store rows related)
  intro found next rows related
  cases found with
  | none => exact ⟨rfl, related⟩
  | some cluster => exact ⟨rfl, related⟩

theorem condemnOver_agrees (simulates : concrete.Simulates plain Rel) {store : σ} {rows : τ} (related : Rel store rows)
    (id : ClusterId) (reason : DeleteReason) (now : DateTime) (cluster : Cluster) :
    Agrees Rel (condemnOver concrete id reason now cluster store) (condemnOver plain id reason now cluster rows) := by
  unfold condemnOver
  cases transition cluster.state (.deleteRequested now reason) with
  | error error => exact ⟨rfl, related⟩
  | ok state =>
    apply afterCall_agrees (simulates.updateState id state store rows related)
    exact fun _ _ _ related => ⟨rfl, related⟩

theorem requestDeleteOver_agrees (simulates : concrete.Simulates plain Rel) {store : σ} {rows : τ}
    (related : Rel store rows) (id : ClusterId) (owner : ClientId) (reason : DeleteReason) (now : DateTime) :
    Agrees Rel (requestDeleteOver concrete id owner reason now store) (requestDeleteOver plain id owner reason now rows) := by
  obtain ⟨result, moved, left, here, there, next⟩ := (infoOver_agrees simulates related id owner).split
  unfold requestDeleteOver
  rw [here, there]
  cases result with
  | error error => exact ⟨rfl, next⟩
  | ok cluster => exact condemnOver_agrees simulates next id reason now cluster

end ClusterService

namespace TtlReaper

theorem sweepRows_agrees (simulates : concrete.Simulates plain Rel) (now : DateTime) (clock : Clock)
    (failedGracePeriod : TimeDelta) (todo : List Cluster) {store : σ} {rows : τ} (related : Rel store rows) :
    Agrees Rel (sweepRows concrete now clock failedGracePeriod todo store)
      (sweepRows plain now clock failedGracePeriod todo rows) := by
  induction todo generalizing store rows with
  | nil => exact ⟨rfl, related⟩
  | cons cluster rest ih =>
    simp only [sweepRows]
    cases dueForReaping cluster.state now failedGracePeriod with
    | none => exact ⟨rfl, related⟩
    | some reason =>
      cases reason with
      | none => exact ih related
      | some reason =>
        obtain ⟨result, moved, left, here, there, next⟩ := (ClusterService.requestDeleteOver_agrees simulates related
          cluster.id cluster.owner reason (clock cluster.id)).split
        obtain ⟨later, last⟩ := ih next
        simp only [here, there]
        cases result with
        | error error => exact ⟨later, last⟩
        | ok done => exact ⟨congrArg (·.map (done :: ·)) later, last⟩

theorem runOnceOver_agrees (simulates : concrete.Simulates plain Rel) (now : DateTime) (clock : Clock)
    (failedGracePeriod : TimeDelta) {store : σ} {rows : τ} (related : Rel store rows) :
    Agrees Rel (runOnceOver concrete now clock failedGracePeriod store)
      (runOnceOver plain now clock failedGracePeriod rows) := by
  obtain ⟨result, moved, left, here, there, next⟩ := (simulates.listAll store rows related).split
  unfold runOnceOver
  rw [here, there]
  cases result with
  | error error => exact ⟨rfl, next⟩
  | ok listed => exact sweepRows_agrees simulates now clock failedGracePeriod listed next

end TtlReaper

namespace Reconciliation

end Reconciliation

end

end AppSalmon
