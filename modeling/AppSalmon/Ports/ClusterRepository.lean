import AppSalmon.Ports.Repository

/-! The storage port, as its callers hold it: some implementation behind one set of methods.

What a caller does with it is written once, over any implementation, and two
implementations are compared by their answers.
-/

set_option autoImplicit false

namespace AppSalmon

open KeyedTable
open Repository (Rows InsertOutcome)

/-- One implementation. A method takes the store it finds to its answer and the store it leaves. -/
structure ClusterRepository (σ : Type) where
  tryInsertIfUnderQuota : Cluster → UInt32 → σ → Except RepositoryError InsertOutcome × σ
  getOwned : ClusterId → ClientId → σ → Except RepositoryError (Option Cluster) × σ
  getAny : ClusterId → σ → Except RepositoryError (Option Cluster) × σ
  listByOwner : ClientId → σ → Except RepositoryError (List Cluster) × σ
  listAll : σ → Except RepositoryError (List Cluster) × σ
  updateState : ClusterId → ClusterState → σ → Except RepositoryError Unit × σ
  setWorker : ClusterId → WorkerUser → σ → Except RepositoryError Unit × σ
  delete : ClusterId → σ → Except RepositoryError Unit × σ

/-- One call of a method. -/
inductive Call where
  | tryInsertIfUnderQuota (cluster : Cluster) (limit : UInt32)
  | getOwned (id : ClusterId) (owner : ClientId)
  | getAny (id : ClusterId)
  | listByOwner (owner : ClientId)
  | listAll
  | updateState (id : ClusterId) (state : ClusterState)
  | setWorker (id : ClusterId) (worker : WorkerUser)
  | delete (id : ClusterId)

/-- What a call answers. -/
inductive Reply where
  | insert (result : Except RepositoryError InsertOutcome)
  | row (result : Except RepositoryError (Option Cluster))
  | rows (result : Except RepositoryError (List Cluster))
  | done (result : Except RepositoryError Unit)

namespace ClusterRepository

variable {σ τ : Type}

/-- What a method answers, among the answers of all of them. -/
def answered {α : Type} (view : α → Reply) (done : α × σ) : Reply × σ := (view done.1, done.2)

def call (repository : ClusterRepository σ) (store : σ) : Call → Reply × σ
  | .tryInsertIfUnderQuota cluster limit => answered .insert (repository.tryInsertIfUnderQuota cluster limit store)
  | .getOwned id owner => answered .row (repository.getOwned id owner store)
  | .getAny id => answered .row (repository.getAny id store)
  | .listByOwner owner => answered .rows (repository.listByOwner owner store)
  | .listAll => answered .rows (repository.listAll store)
  | .updateState id state => answered .done (repository.updateState id state store)
  | .setWorker id worker => answered .done (repository.setWorker id worker store)
  | .delete id => answered .done (repository.delete id store)

/-- Calls one after the other: their answers, and the store they leave. -/
def calls (repository : ClusterRepository σ) (store : σ) : List Call → List Reply × σ
  | [] => ([], store)
  | first :: rest =>
    let done := repository.call store first
    let later := repository.calls done.2 rest
    (done.1 :: later.1, later.2)

theorem calls_append (repository : ClusterRepository σ) (store : σ) (first later : List Call) :
    repository.calls store (first ++ later) =
      ((repository.calls store first).1 ++ (repository.calls (repository.calls store first).2 later).1,
        (repository.calls (repository.calls store first).2 later).2) := by
  induction first generalizing store with
  | nil => rfl
  | cons head tail ih => simp only [List.cons_append, calls, ih]

theorem length_calls (repository : ClusterRepository σ) (store : σ) (list : List Call) :
    (repository.calls store list).1.length = list.length := by
  induction list generalizing store with
  | nil => rfl
  | cons head tail ih => simp only [calls, List.length_cons, ih]

/-- Two implementations whose stores correspond give the same answer, and their stores still correspond. -/
def Agrees {α : Type} (Rel : σ → τ → Prop) (first : α × σ) (second : α × τ) : Prop :=
  first.1 = second.1 ∧ Rel first.2 second.2

/-- One implementation answers as another one does, whatever is called. -/
structure Simulates (concrete : ClusterRepository σ) (plain : ClusterRepository τ) (Rel : σ → τ → Prop) : Prop where
  tryInsertIfUnderQuota : ∀ cluster limit store rows, Rel store rows →
    Agrees Rel (concrete.tryInsertIfUnderQuota cluster limit store) (plain.tryInsertIfUnderQuota cluster limit rows)
  getOwned : ∀ id owner store rows, Rel store rows →
    Agrees Rel (concrete.getOwned id owner store) (plain.getOwned id owner rows)
  getAny : ∀ id store rows, Rel store rows → Agrees Rel (concrete.getAny id store) (plain.getAny id rows)
  listByOwner : ∀ owner store rows, Rel store rows →
    Agrees Rel (concrete.listByOwner owner store) (plain.listByOwner owner rows)
  listAll : ∀ store rows, Rel store rows → Agrees Rel (concrete.listAll store) (plain.listAll rows)
  updateState : ∀ id state store rows, Rel store rows →
    Agrees Rel (concrete.updateState id state store) (plain.updateState id state rows)
  setWorker : ∀ id worker store rows, Rel store rows →
    Agrees Rel (concrete.setWorker id worker store) (plain.setWorker id worker rows)
  delete : ∀ id store rows, Rel store rows → Agrees Rel (concrete.delete id store) (plain.delete id rows)

variable {concrete : ClusterRepository σ} {plain : ClusterRepository τ} {Rel : σ → τ → Prop}

/-- One answer, and two stores that correspond. -/
theorem Agrees.split {α : Type} {first : α × σ} {second : α × τ} (agrees : Agrees Rel first second) :
    ∃ value store rows, first = (value, store) ∧ second = (value, rows) ∧ Rel store rows := by
  obtain ⟨value, store⟩ := first
  obtain ⟨same, rows⟩ := second
  obtain ⟨equal, related⟩ := agrees
  dsimp only at equal related
  subst equal
  exact ⟨value, store, rows, rfl, rfl, related⟩

theorem Agrees.answered {α : Type} {first : α × σ} {second : α × τ} (agrees : Agrees Rel first second)
    (view : α → Reply) : Agrees Rel (answered view first) (answered view second) :=
  ⟨congrArg view agrees.1, agrees.2⟩

theorem Simulates.call (simulates : concrete.Simulates plain Rel) {store : σ} {rows : τ} (related : Rel store rows)
    (call : Call) : Agrees Rel (concrete.call store call) (plain.call rows call) := by
  cases call with
  | tryInsertIfUnderQuota cluster limit => exact (simulates.tryInsertIfUnderQuota cluster limit _ _ related).answered _
  | getOwned id owner => exact (simulates.getOwned id owner _ _ related).answered _
  | getAny id => exact (simulates.getAny id _ _ related).answered _
  | listByOwner owner => exact (simulates.listByOwner owner _ _ related).answered _
  | listAll => exact (simulates.listAll _ _ related).answered _
  | updateState id state => exact (simulates.updateState id state _ _ related).answered _
  | setWorker id worker => exact (simulates.setWorker id worker _ _ related).answered _
  | delete id => exact (simulates.delete id _ _ related).answered _

theorem Simulates.calls (simulates : concrete.Simulates plain Rel) {store : σ} {rows : τ} (related : Rel store rows)
    (calls : List Call) : Agrees Rel (concrete.calls store calls) (plain.calls rows calls) := by
  induction calls generalizing store rows with
  | nil => exact ⟨rfl, related⟩
  | cons first rest ih =>
    obtain ⟨same, next⟩ := simulates.call related first
    obtain ⟨later, last⟩ := ih next
    constructor
    · simp only [ClusterRepository.calls, same, later]
    · exact last

end ClusterRepository

/-! ## The plain table -/

namespace Repository

/-- A write that fails leaves the table as it was. -/
def written (rows : Rows) : Except RepositoryError Rows → Except RepositoryError Unit × Rows
  | .ok next => (.ok (), next)
  | .error error => (.error error, rows)

def inserted (rows : Rows) : Except RepositoryError (Rows × InsertOutcome) → Except RepositoryError InsertOutcome × Rows
  | .ok (next, outcome) => (.ok outcome, next)
  | .error error => (.error error, rows)

/-- Every call goes the way of a call that meets no fault. -/
def plain : ClusterRepository Rows where
  tryInsertIfUnderQuota := fun cluster limit rows => inserted rows (tryInsertIfUnderQuota rows cluster limit)
  getOwned := fun id owner rows => (.ok (getOwned rows id owner), rows)
  getAny := fun id rows => (.ok (getAny rows id), rows)
  listByOwner := fun owner rows => (.ok (listByOwner rows owner), rows)
  listAll := fun rows => (.ok (listAll rows), rows)
  updateState := fun id state rows => written rows (updateState rows id state)
  setWorker := fun id worker rows => written rows (setWorker rows id worker)
  delete := fun id rows => (.ok (), delete rows id)

theorem Distinct.modify {rows next : Rows} {id : ClusterId} {change : Cluster → Cluster}
    (distinct : Distinct Cluster.id rows) (named : ∀ row, (change row).id = row.id)
    (done : modify rows id change = .ok next) : Distinct Cluster.id next := by
  obtain ⟨-, rfl⟩ := modify_eq_ok.mp done
  exact distinct.update named

theorem Distinct.insert {rows next : Rows} {cluster : Cluster} {limit : UInt32} {outcome : InsertOutcome}
    (distinct : Distinct Cluster.id rows) (done : tryInsertIfUnderQuota rows cluster limit = .ok (next, outcome)) :
    Distinct Cluster.id next := by
  rcases tryInsertIfUnderQuota_cases done with ⟨-, rfl, -⟩ | ⟨slot, -, -, missing, -, rfl⟩
  · exact distinct
  · exact distinct.append_row missing

end Repository

end AppSalmon
