import AppSalmon.Adapters.PersistedCluster

/-! The SQLite store of cluster rows.

A call runs as one closure under the connection's mutex. A statement or a
commit may fail; a transaction that is not committed is rolled back, and a
failed statement changes nothing, so a closure that stops early has no table.
-/

set_option autoImplicit false

namespace AppSalmon.Sqlite

open SerdeJson KeyedTable
open Repository (InsertOutcome Rows)

structure TextRow where
  id : String
  owner : String
  dataJson : Text

abbrev Table := List TextRow

structure Store where
  table : Table
  poisoned : Bool

def Store.empty : Store := ⟨[], false⟩

inductive Statement where
  | begin | select | insert | update | delete | commit
  deriving DecidableEq

/-- What goes wrong during one call. -/
structure Faults where
  join : Option String
  statement : Statement → Option String

def Faults.none : Faults := ⟨.none, fun _ => .none⟩

/-- Why a closure stops before its end. -/
inductive Stop where
  | error (error : RepositoryError)
  | panic (message : String)

abbrev Closure (α : Type) := Table → Except Stop (α × Table)

/-- A panic inside the closure poisons the mutex for good. -/
def withConn {α : Type} (store : Store) (faults : Faults) (run : Closure α) :
    Except RepositoryError α × Store :=
  match faults.join with
  | some why => (.error (.taskJoin why), store)
  | .none =>
    if store.poisoned then (.error (.taskJoin "connection mutex poisoned"), store)
    else match run store.table with
      | .ok (value, table) => (.ok value, { store with table := table })
      | .error (.error error) => (.error error, store)
      | .error (.panic message) => (.error (.taskJoin message), { store with poisoned := true })

def attempt (faults : Faults) (statement : Statement) : Except Stop Unit :=
  match faults.statement statement with
  | some source => .error (.error (.db source))
  | .none => .ok ()

def serde {α : Type} (decoded : Decoded α) : Except Stop α :=
  decoded.mapError fun source => .error (.serde source)

/-- How the body of a transaction ends: dropped without a commit, or committed. -/
inductive TxEnd (α : Type) where
  | drop (value : α)
  | commit (value : α) (working : Table)

def transaction {α : Type} (faults : Faults) (body : Table → Except Stop (TxEnd α)) : Closure α :=
  fun table => do
    attempt faults .begin
    match ← body table with
    | .drop value => return (value, table)
    | .commit value working =>
      attempt faults .commit
      return (value, working)

variable (formats : Formats)

def fromRow (id : ClusterId) (owner : ClientId) (json : Text) : Except Stop Cluster := do
  let persisted ← serde (readPersisted formats json)
  match TimeDelta.trySeconds persisted.requestedTtlSecs with
  | none => .error (.panic "TimeDelta::seconds out of bounds")
  | some requestedTtl =>
    return { id, owner, service := persisted.service, requestedTtl, requestedAt := persisted.requestedAt,
             state := persisted.state.live, worker := persisted.worker.map PersistedWorker.live, slot := persisted.slot }

def parseClusterId (raw : String) : Except Stop ClusterId :=
  (formats.parseUlid raw).mapError fun source =>
    .error (.corruptRow ("invalid cluster id '" ++ raw ++ "': " ++ source))

/-! ## The repository's operations -/

def tryInsertIfUnderQuota (store : Store) (faults : Faults) (cluster : Cluster) (limit : UInt32) :
    Except RepositoryError InsertOutcome × Store :=
  withConn store faults <| transaction faults fun table => do
    attempt faults .select
    let existingJson := (table.filter fun row => row.owner = cluster.owner.name).map TextRow.dataJson
    let count := Repository.countU32 existingJson.length
    if limit ≤ count then return .drop (.quotaExceeded count)
    else
      -- a row that does not decode counts against the quota but holds no slot
      let usedSlots := existingJson.filterMap fun json =>
        (readPersisted formats json).toOption.map PersistedCluster.slot
      match Repository.leastFreeSlot limit usedSlots with
      | none => .error (.error
          (.corruptRow "no free directory slot available despite being under quota"))
      | some slot =>
        let json := writePersisted formats (toPersisted { cluster with slot := slot })
        attempt faults .insert
        match lookup TextRow.id table (formats.ulid cluster.id) with
        | some _ => .error (.error (.db "UNIQUE constraint failed: clusters.id"))
        | none => return .commit (.inserted slot) (table ++ [⟨formats.ulid cluster.id, cluster.owner.name, json⟩])

def getOwned (store : Store) (faults : Faults) (id : ClusterId) (owner : ClientId) :
    Except RepositoryError (Option Cluster) × Store :=
  withConn store faults fun table => do
    attempt faults .select
    match table.find? fun row => row.id = formats.ulid id ∧ row.owner = owner.name with
    | none => return (none, table)
    | some row => return (some (← fromRow formats id owner row.dataJson), table)

def getAny (store : Store) (faults : Faults) (id : ClusterId) :
    Except RepositoryError (Option Cluster) × Store :=
  withConn store faults fun table => do
    attempt faults .select
    match lookup TextRow.id table (formats.ulid id) with
    | none => return (none, table)
    | some row => return (some (← fromRow formats id ⟨row.owner⟩ row.dataJson), table)

def listByOwner (store : Store) (faults : Faults) (owner : ClientId) :
    Except RepositoryError (List Cluster) × Store :=
  withConn store faults fun table => do
    attempt faults .select
    let clusters ← (table.filter fun row => row.owner = owner.name).mapM fun row => do
      fromRow formats (← parseClusterId formats row.id) owner row.dataJson
    return (clusters, table)

def listAll (store : Store) (faults : Faults) : Except RepositoryError (List Cluster) × Store :=
  withConn store faults fun table => do
    attempt faults .select
    let clusters ← table.mapM fun row => do
      fromRow formats (← parseClusterId formats row.id) ⟨row.owner⟩ row.dataJson
    return (clusters, table)

/-- The read-modify-write of one row that `update_state` and `set_worker` share. -/
def rewrite (store : Store) (faults : Faults) (id : ClusterId) (change : PersistedCluster → PersistedCluster) :
    Except RepositoryError Unit × Store :=
  withConn store faults fun table => do
    attempt faults .select
    match lookup TextRow.id table (formats.ulid id) with
    | none => .error (.error (.db "Query returned no rows"))
    | some row =>
      let persisted ← serde (readPersisted formats row.dataJson)
      attempt faults .update
      return ((), update TextRow.id table (formats.ulid id) fun row =>
        { row with dataJson := writePersisted formats (change persisted) })

def updateState (store : Store) (faults : Faults) (id : ClusterId) (state : ClusterState) :=
  rewrite formats store faults id fun persisted => { persisted with state := .ofLive state }

def setWorker (store : Store) (faults : Faults) (id : ClusterId) (worker : WorkerUser) :=
  rewrite formats store faults id fun persisted => { persisted with worker := some (.ofLive worker) }

def delete (store : Store) (faults : Faults) (id : ClusterId) : Except RepositoryError Unit × Store :=
  withConn store faults fun table => do
    attempt faults .delete
    return ((), remove TextRow.id table (formats.ulid id))

/-! ## Calls that meet faults -/

variable {formats}

/-- A computation that meets faults goes the faultless way or stops at a failed statement. -/
def Clean {α : Type} (faulty clean : Except Stop α) : Prop :=
  faulty = clean ∨ ∃ source, faulty = .error (.error (.db source))

theorem Clean.refl {α : Type} (run : Except Stop α) : Clean run run := .inl rfl

theorem Clean.bind {α β : Type} {first first' : Except Stop α} {next next' : α → Except Stop β}
    (head : Clean first first') (tail : ∀ value, Clean (next value) (next' value)) :
    Clean (first >>= next) (first' >>= next') := by
  rcases head with rfl | ⟨source, rfl⟩
  · cases first with
    | error stop => exact .inl rfl
    | ok value => exact tail value
  · exact .inr ⟨source, rfl⟩

theorem attempt_clean (faults : Faults) (statement : Statement) :
    Clean (attempt faults statement) (attempt .none statement) := by
  unfold attempt
  cases faults.statement statement with
  | none => exact .inl rfl
  | some source => exact .inr ⟨source, rfl⟩

/-- A whole call goes the faultless way or fails and leaves the store alone. -/
def FailsClean {α : Type} (store : Store) (call clean : Except RepositoryError α × Store) : Prop :=
  call = clean ∨ ∃ error, call = (.error error, store) ∧ ∀ what, error ≠ .corruptRow what

theorem withConn_failsClean {α : Type} {store : Store} {faults : Faults} {run clean : Closure α}
    (healthy : store.poisoned = false) (ran : Clean (run store.table) (clean store.table)) :
    FailsClean store (withConn store faults run) (withConn store .none clean) := by
  unfold withConn
  cases faults.join with
  | some why => exact .inr ⟨_, rfl, by simp⟩
  | none =>
    simp only [healthy, Bool.false_eq_true, if_false, Faults.none]
    rcases ran with same | ⟨source, failed⟩
    · rw [same]
      exact .inl rfl
    · rw [failed]
      exact .inr ⟨_, rfl, by simp⟩

theorem transaction_clean {α : Type} {faults : Faults} {body body' : Table → Except Stop (TxEnd α)}
    {table : Table} (ran : Clean (body table) (body' table)) :
    Clean (transaction faults body table) (transaction .none body' table) := by
  refine (attempt_clean faults .begin).bind fun _ => ran.bind fun ended => ?_
  cases ended with
  | drop value => exact .refl _
  | commit value working => exact (attempt_clean faults .commit).bind fun _ => .refl _

theorem tryInsertIfUnderQuota_failsClean {store : Store} (healthy : store.poisoned = false) (faults : Faults)
    (cluster : Cluster) (limit : UInt32) :
    FailsClean store (tryInsertIfUnderQuota formats store faults cluster limit)
      (tryInsertIfUnderQuota formats store .none cluster limit) := by
  refine withConn_failsClean healthy (transaction_clean ?_)
  refine (attempt_clean faults .select).bind fun _ => ?_
  dsimp only
  split
  · exact .refl _
  · split
    · exact .refl _
    · exact (attempt_clean faults .insert).bind fun _ => .refl _

theorem rewrite_failsClean {store : Store} (healthy : store.poisoned = false) (faults : Faults) (id : ClusterId)
    (change : PersistedCluster → PersistedCluster) :
    FailsClean store (rewrite formats store faults id change) (rewrite formats store .none id change) := by
  refine withConn_failsClean healthy ((attempt_clean faults .select).bind fun _ => ?_)
  split
  · exact .refl _
  · exact (Clean.refl _).bind fun _ => (attempt_clean faults .update).bind fun _ => .refl _

theorem delete_failsClean {store : Store} (healthy : store.poisoned = false) (faults : Faults) (id : ClusterId) :
    FailsClean store (delete formats store faults id) (delete formats store .none id) :=
  withConn_failsClean healthy ((attempt_clean faults .delete).bind fun _ => .refl _)

/-- A call that answers has run its closure to the end. -/
theorem withConn_ok {α : Type} {store next : Store} {faults : Faults} {run : Closure α} {value : α}
    (done : withConn store faults run = (.ok value, next)) :
    store.poisoned = false ∧ ∃ table, run store.table = .ok (value, table) ∧ next = { store with table := table } := by
  unfold withConn at done
  split at done
  · cases done
  · split at done
    · cases done
    · next healthy =>
      split at done
      · next ran =>
        cases done
        exact ⟨by simpa using healthy, _, ran, rfl⟩
      · cases done
      · cases done

/-- What a transaction that is over has answered, and the table it leaves. -/
def TxEnd.outcome {α : Type} (table : Table) : TxEnd α → α × Table
  | .drop value => (value, table)
  | .commit value working => (value, working)

theorem transaction_ok {α : Type} {faults : Faults} {body : Table → Except Stop (TxEnd α)} {table : Table}
    {done : α × Table} (ran : transaction faults body table = .ok done) :
    ∃ ended, body table = .ok ended ∧ ended.outcome table = done := by
  simp only [transaction, bind, Except.bind] at ran
  split at ran
  · cases ran
  · split at ran
    · cases ran
    · next ended body =>
      refine ⟨ended, body, ?_⟩
      cases ended with
      | drop kept =>
        cases ran
        rfl
      | commit kept working =>
        dsimp only at ran
        split at ran
        · cases ran
        · cases ran
          rfl

/-! ## The typed table behind the text -/

variable (formats)

def textRow (cluster : Cluster) : TextRow :=
  ⟨formats.ulid cluster.id, cluster.owner.name, writePersisted formats (toPersisted cluster)⟩

/-- The healthy store whose text rows are those of `rows`. -/
def encode (rows : Rows) : Store := ⟨rows.map (textRow formats), false⟩

variable {formats}

theorem encode_poisoned (formats : Formats) (rows : Rows) : (encode formats rows).poisoned = false := rfl

theorem lookup_textRow (rows : Rows) (id : ClusterId) :
    lookup TextRow.id (rows.map (textRow formats)) (formats.ulid id) =
      (Repository.getAny rows id).map (textRow formats) :=
  lookup_map formats.ulid_injective fun _ => rfl

theorem ownerRows_textRow (rows : Rows) (owner : ClientId) :
    (rows.map (textRow formats)).filter (fun row => row.owner = owner.name) =
      (Repository.listByOwner rows owner).map (textRow formats) := by
  rw [List.filter_map, Repository.listByOwner]
  congr 2
  funext row
  obtain ⟨name⟩ := owner
  obtain ⟨-, ⟨rowName⟩, -⟩ := row
  exact decide_eq_decide.mpr ⟨fun same => congrArg ClientId.mk same, fun same => congrArg ClientId.name same⟩

theorem usedSlots_textRow (rows : Rows) :
    (rows.map fun row => (textRow formats row).dataJson).filterMap
        (fun json => (readPersisted formats json).toOption.map PersistedCluster.slot) =
      rows.map Cluster.slot := by
  simp [textRow, toPersisted, Except.toOption]

theorem textRow_stored (cluster : Cluster) :
    textRow formats (Repository.stored cluster) = textRow formats cluster := by
  simp [textRow, toPersisted, Repository.stored]

/-- The text store's insert is the typed insert, row by row. -/
theorem tryInsertIfUnderQuota_encode (rows : Rows) (cluster : Cluster) (limit : UInt32) :
    tryInsertIfUnderQuota formats (encode formats rows) .none cluster limit =
      match Repository.tryInsertIfUnderQuota rows cluster limit with
      | .ok (next, outcome) => (.ok outcome, encode formats next)
      | .error error => (.error error, encode formats rows) := by
  unfold tryInsertIfUnderQuota Repository.tryInsertIfUnderQuota withConn transaction
  simp only [Faults.none, encode, Bool.false_eq_true, if_false, ownerRows_textRow, lookup_textRow, List.map_map,
    List.length_map, Function.comp_def, usedSlots_textRow, attempt, bind, Except.bind, pure, Except.pure]
  by_cases full : limit ≤ Repository.countU32 (Repository.listByOwner rows cluster.owner).length
  · simp [full]
  · simp only [full, if_false]
    cases Repository.leastFreeSlot limit ((Repository.listByOwner rows cluster.owner).map Cluster.slot) with
    | none => rfl
    | some slot =>
      cases Repository.getAny rows cluster.id with
      | some row => rfl
      | none =>
        dsimp only [Option.map_none]
        rw [List.map_append, List.map_singleton, textRow_stored]
        rfl

theorem rewrite_encode (rows : Rows) (id : ClusterId) {change : PersistedCluster → PersistedCluster}
    {live : Cluster → Cluster} (simulates : ∀ row, change (toPersisted row) = toPersisted (live row))
    (named : ∀ row, (live row).id = row.id ∧ (live row).owner = row.owner)
    (distinct : Distinct Cluster.id rows) :
    rewrite formats (encode formats rows) .none id change =
      match Repository.modify rows id live with
      | .ok next => (.ok (), encode formats next)
      | .error error => (.error error, encode formats rows) := by
  unfold rewrite withConn Repository.modify
  simp only [Faults.none, encode, Bool.false_eq_true, if_false, lookup_textRow, attempt, bind, Except.bind, pure,
    Except.pure]
  cases found : Repository.getAny rows id with
  | none => rfl
  | some row =>
    have rewritten : update TextRow.id (rows.map (textRow formats)) (formats.ulid id) (fun text =>
          { text with dataJson := writePersisted formats (change (toPersisted row)) }) =
        (update Cluster.id rows id live).map (textRow formats) := by
      refine update_map formats.ulid_injective (fun _ => rfl) fun old member same => ?_
      rw [distinct.eq_of_mem member (Repository.getAny_mem found) (same.trans (Repository.getAny_id found).symm)]
      simp [textRow, simulates, named]
    have read : readPersisted formats (textRow formats row).dataJson = .ok (toPersisted row) :=
      readPersisted_writePersisted formats _
    simp only [Option.map_some, read, serde, Except.mapError]
    rw [rewritten]

theorem delete_encode (rows : Rows) (id : ClusterId) :
    delete formats (encode formats rows) .none id = (.ok (), encode formats (Repository.delete rows id)) := by
  have removed : remove TextRow.id (rows.map (textRow formats)) (formats.ulid id) =
      (remove Cluster.id rows id).map (textRow formats) := remove_map formats.ulid_injective fun _ => rfl
  simp [delete, withConn, encode, Faults.none, attempt, Repository.delete, bind, Except.bind, pure, Except.pure,
    removed]

theorem fromRow_textRow (cluster : Cluster) :
    fromRow formats cluster.id cluster.owner (textRow formats cluster).dataJson =
      .ok (Repository.stored cluster) := by
  have exact_ttl : TimeDelta.trySeconds (toPersisted cluster).requestedTtlSecs =
      some cluster.requestedTtl.truncated := cluster.requestedTtl.truncated_eq
  unfold fromRow
  simp only [textRow, readPersisted_writePersisted, serde, Except.mapError, bind, Except.bind, exact_ttl, pure,
    Except.pure]
  cases worker : cluster.worker with
  | none => simp [toPersisted, Repository.stored, worker]
  | some account => simp [toPersisted, Repository.stored, worker]

/-- The epoch and the nil identifier as chrono and ulid print them; every other value is written in
unary. -/
def sampleFormats : Formats where
  rfc3339 time :=
    if time.nanos = 0 then "1970-01-01T00:00:00Z"
    else String.ofList ((if 0 ≤ time.nanos then '+' else '-') :: List.replicate time.nanos.natAbs '.')
  parseRfc3339 text :=
    if text = "1970-01-01T00:00:00Z" then some .epoch
    else match text.toList with
      | sign :: dots => DateTime.ofNanos? (if sign = '+' then dots.length else -dots.length)
      | [] => none
  ulid id :=
    if id.ulid = 0 then "00000000000000000000000000" else String.ofList (List.replicate id.ulid.toNat '.')
  parseUlid text :=
    if text = "00000000000000000000000000" then .ok ⟨0⟩ else .ok ⟨BitVec.ofNat 128 text.toList.length⟩
  reads_instant time := by
    by_cases zero : time.nanos = 0
    · simp only [zero, if_true]
      have start : DateTime.ofNanos? 0 = some time := DateTime.ofNanos?_eq_some.mpr zero
      exact start
    · have other : ∀ sign, sign = '+' ∨ sign = '-' → ∀ dots,
          String.ofList (sign :: dots) ≠ "1970-01-01T00:00:00Z" := by
        rintro sign (rfl | rfl) dots same <;> simpa using congrArg String.toList same
      simp only [zero, if_false]
      rw [if_neg (other _ (by split <;> simp) _)]
      simp only [String.toList_ofList, List.length_replicate]
      rw [DateTime.ofNanos?_eq_some]
      by_cases positive : 0 ≤ time.nanos
      · simp [positive, Int.natAbs_of_nonneg positive]
      · simp only [positive, if_false, Char.reduceEq]
        omega
  reads_id id := by
    obtain ⟨ulid⟩ := id
    by_cases zero : ulid = 0#128
    · simp [zero]
    · have other : String.ofList (List.replicate ulid.toNat '.') ≠ "00000000000000000000000000" := by
        intro same
        have texts := congrArg String.toList same
        rw [String.toList_ofList] at texts
        have dots := List.eq_replicate_iff.mp texts.symm
        exact absurd (dots.2 '0' (by decide)) (by decide)
      simp [zero, other]

end AppSalmon.Sqlite
