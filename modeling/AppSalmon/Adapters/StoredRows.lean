import AppSalmon.Adapters.SqliteRepository
import AppSalmon.Library.Decoding
import AppSalmon.Ports.ClusterRepository

/-! The SQLite store under the port, over every table that reads back as rows.

The texts of such a table need not be the ones this program would write: any
text that decodes to a row stands for it. Calls that meet no fault then answer
as the plain table does.
-/

set_option autoImplicit false

namespace AppSalmon.Sqlite

open SerdeJson KeyedTable
open Repository (InsertOutcome Rows)

/-- The store, and what goes wrong during the calls to come. -/
structure Session where
  store : Store
  faults : List Faults

def Session.run {α : Type} (session : Session) (operation : Store → Faults → Except RepositoryError α × Store) :
    Except RepositoryError α × Session :=
  let done := operation session.store (session.faults.headD .none)
  (done.1, ⟨done.2, session.faults.tail⟩)

variable (formats : Formats)

def repository : ClusterRepository Session where
  tryInsertIfUnderQuota := fun cluster limit session =>
    session.run fun store faults => tryInsertIfUnderQuota formats store faults cluster limit
  getOwned := fun id owner session => session.run fun store faults => getOwned formats store faults id owner
  getAny := fun id session => session.run fun store faults => getAny formats store faults id
  listByOwner := fun owner session => session.run fun store faults => listByOwner formats store faults owner
  listAll := fun session => session.run fun store faults => listAll formats store faults
  updateState := fun id state session => session.run fun store faults => updateState formats store faults id state
  setWorker := fun id worker session => session.run fun store faults => setWorker formats store faults id worker
  delete := fun id session => session.run fun store faults => delete formats store faults id

/-- The row made of a decoded blob and what it is filed under. -/
def reassembled (saved : PersistedCluster) (id : ClusterId) (owner : ClientId) (requestedTtl : TimeDelta) : Cluster :=
  { id, owner, service := saved.service, requestedTtl, requestedAt := saved.requestedAt,
    state := saved.state.live, worker := saved.worker.map PersistedWorker.live, slot := saved.slot }

variable {formats}

theorem fromRow_eq_ok {id : ClusterId} {owner : ClientId} {json : Text} {row : Cluster} :
    fromRow formats id owner json = .ok row ↔
      ∃ saved ttl, readPersisted formats json = .ok saved ∧
        TimeDelta.trySeconds saved.requestedTtlSecs = some ttl ∧ row = reassembled saved id owner ttl := by
  unfold fromRow serde
  cases read : readPersisted formats json with
  | error source => simp [Except.mapError, bind, Except.bind]
  | ok saved =>
    cases built : TimeDelta.trySeconds saved.requestedTtlSecs with
    | none => simp [Except.mapError, bind, Except.bind, built]
    | some ttl => simp [Except.mapError, bind, Except.bind, pure, Except.pure, built, reassembled, eq_comm]

variable (formats)

/-- A text row stands for a row. -/
structure TextRow.Reads (text : TextRow) (row : Cluster) : Prop where
  id : text.id = formats.ulid row.id
  owner : text.owner = row.owner.name
  data : fromRow formats row.id row.owner text.dataJson = .ok row

variable {formats}

theorem reads_textRow (cluster : Cluster) : (textRow formats cluster).Reads formats (Repository.stored cluster) :=
  ⟨rfl, rfl, fromRow_textRow cluster⟩

/-- A change of the blob that is a change of the row. -/
structure Rewrites (change : PersistedCluster → PersistedCluster) (live : Cluster → Cluster) : Prop where
  ttl : ∀ saved, (change saved).requestedTtlSecs = saved.requestedTtlSecs
  row : ∀ saved id owner ttl, reassembled (change saved) id owner ttl = live (reassembled saved id owner ttl)
  filed : ∀ row, (live row).id = row.id ∧ (live row).owner = row.owner

theorem rewrites_state (state : ClusterState) :
    Rewrites (fun saved => { saved with state := .ofLive state }) fun row => { row with state := state } where
  ttl := fun _ => rfl
  row := by simp [reassembled]
  filed := fun _ => ⟨rfl, rfl⟩

theorem rewrites_worker (worker : WorkerUser) :
    Rewrites (fun saved => { saved with worker := some (.ofLive worker) })
      fun row => { row with worker := some worker } where
  ttl := fun _ => rfl
  row := by simp [reassembled]
  filed := fun _ => ⟨rfl, rfl⟩

theorem TextRow.Reads.rewrite {change : PersistedCluster → PersistedCluster} {live : Cluster → Cluster}
    (rewrites : Rewrites change live) {text : TextRow} {row : Cluster} (reads : text.Reads formats row) :
    ∃ saved, readPersisted formats text.dataJson = .ok saved ∧
      TextRow.Reads formats { text with dataJson := writePersisted formats (change saved) } (live row) := by
  obtain ⟨saved, ttl, read, built, same⟩ := fromRow_eq_ok.mp reads.data
  obtain ⟨id, owner⟩ := rewrites.filed row
  refine ⟨saved, read, ?_, ?_, ?_⟩
  · rw [id]
    exact reads.id
  · rw [owner]
    exact reads.owner
  · rw [id, owner, fromRow_eq_ok]
    refine ⟨change saved, ttl, readPersisted_writePersisted formats _, ?_, ?_⟩
    · rw [rewrites.ttl]
      exact built
    · rw [rewrites.row]
      exact congrArg live same

/-! ## The table behind a session -/

variable (formats)

/-- Nothing goes wrong, and the table reads back as `rows`. -/
structure Stands (session : Session) (rows : Rows) : Prop where
  healthy : session.store.poisoned = false
  calm : session.faults = []
  table : List.Forall₂ (TextRow.Reads formats) session.store.table rows
  ids : Distinct Cluster.id rows

variable {formats} {session : Session} {rows : Rows}

theorem stands_empty : Stands formats ⟨.empty, []⟩ [] := ⟨rfl, rfl, .nil, List.nodup_nil⟩

theorem Stands.lookup (stands : Stands formats session rows) (id : ClusterId) :
    Option.Rel (TextRow.Reads formats) (KeyedTable.lookup TextRow.id session.store.table (formats.ulid id))
      (Repository.getAny rows id) :=
  lookup_related formats.ulid_injective (fun _ _ reads => reads.id) stands.table

theorem Stands.lookupOwned (stands : Stands formats session rows) (id : ClusterId) (owner : ClientId) :
    Option.Rel (TextRow.Reads formats)
      (session.store.table.find? fun row => row.id = formats.ulid id ∧ row.owner = owner.name)
      (Repository.getOwned rows id owner) := by
  apply find?_related _ stands.table
  intro text row reads
  simp only [decide_eq_true_eq, reads.id, reads.owner]
  constructor
  · rintro ⟨named, owned⟩
    exact ⟨formats.ulid_injective _ _ named, congrArg ClientId.mk owned⟩
  · rintro ⟨rfl, rfl⟩
    exact ⟨rfl, rfl⟩

theorem Stands.ownerRows (stands : Stands formats session rows) (owner : ClientId) :
    List.Forall₂ (TextRow.Reads formats) (session.store.table.filter fun row => row.owner = owner.name)
      (Repository.listByOwner rows owner) := by
  apply List.rel_filter _ stands.table
  intro text row reads
  simp only [decide_eq_true_eq, reads.owner]
  constructor
  · intro same
    exact congrArg ClientId.mk same
  · exact congrArg ClientId.name

/-- A call under a healthy mutex that meets no fault is its closure. -/
theorem run_withConn {α : Type} {closure : Faults → Closure α} (healthy : session.store.poisoned = false)
    (calm : session.faults = []) :
    session.run (fun store faults => withConn store faults (closure faults)) =
      match closure .none session.store.table with
      | .ok (value, table) => (.ok value, ⟨⟨table, false⟩, []⟩)
      | .error (.error error) => (.error error, session)
      | .error (.panic message) => (.error (.taskJoin message), ⟨⟨session.store.table, true⟩, []⟩) := by
  obtain ⟨⟨table, poisoned⟩, faults⟩ := session
  cases healthy
  cases calm
  simp only [Session.run, withConn, List.headD_nil, Faults.none, Bool.false_eq_true, if_false, List.tail_nil]
  rcases closure ⟨.none, fun _ => .none⟩ table with (error | message) | ⟨value, next⟩ <;> rfl

/-- A closure that fails leaves everything as it was. -/
theorem Stands.failed {α : Type} (stands : Stands formats session rows) (error : RepositoryError) :
    ClusterRepository.Agrees (Stands formats) ((.error error, session) : Except RepositoryError α × Session)
      (.error error, rows) := ⟨rfl, stands⟩

/-- A closure that only reads leaves everything as it was. -/
theorem Stands.readOnly {α : Type} (stands : Stands formats session rows) (value : α) :
    ClusterRepository.Agrees (Stands formats)
      ((.ok value, ⟨⟨session.store.table, false⟩, []⟩) : Except RepositoryError α × Session) (.ok value, rows) :=
  ⟨rfl, rfl, rfl, stands.table, stands.ids⟩

theorem calm_attempt (statement : Statement) : attempt .none statement = .ok () := rfl

theorem getOwned_simulates (stands : Stands formats session rows) (id : ClusterId) (owner : ClientId) :
    ClusterRepository.Agrees (Stands formats) ((repository formats).getOwned id owner session)
      (Repository.plain.getOwned id owner rows) := by
  simp only [repository, getOwned, run_withConn stands.healthy stands.calm, calm_attempt, Repository.plain, bind,
    Except.bind]
  have related := stands.lookupOwned id owner
  cases found : Repository.getOwned rows id owner with
  | none =>
    rw [found] at related
    rw [related_none related]
    exact stands.readOnly none
  | some row =>
    rw [found] at related
    obtain ⟨text, here, reads⟩ := related_some related
    obtain ⟨rfl, rfl⟩ : row.id = id ∧ row.owner = owner := by simpa using List.find?_some found
    rw [here]
    simp only [reads.data]
    exact stands.readOnly (some row)

theorem getAny_simulates (stands : Stands formats session rows) (id : ClusterId) :
    ClusterRepository.Agrees (Stands formats) ((repository formats).getAny id session)
      (Repository.plain.getAny id rows) := by
  simp only [repository, getAny, run_withConn stands.healthy stands.calm, calm_attempt, Repository.plain, bind,
    Except.bind]
  have related := stands.lookup id
  cases found : Repository.getAny rows id with
  | none =>
    rw [found] at related
    rw [related_none related]
    exact stands.readOnly none
  | some row =>
    rw [found] at related
    obtain ⟨text, here, reads⟩ := related_some related
    obtain rfl := Repository.getAny_id found
    rw [here]
    simp only [reads.owner, reads.data]
    exact stands.readOnly (some row)

theorem rewrite_simulates {change : PersistedCluster → PersistedCluster} {live : Cluster → Cluster}
    (rewrites : Rewrites change live) (stands : Stands formats session rows) (id : ClusterId) :
    ClusterRepository.Agrees (Stands formats) (session.run fun store faults => rewrite formats store faults id change)
      (Repository.written rows (Repository.modify rows id live)) := by
  simp only [rewrite, run_withConn stands.healthy stands.calm, calm_attempt, Repository.modify, bind, Except.bind]
  have related := stands.lookup id
  cases found : Repository.getAny rows id with
  | none =>
    rw [found] at related
    rw [related_none related]
    exact stands.failed _
  | some row =>
    rw [found] at related
    obtain ⟨text, here, reads⟩ := related_some related
    obtain ⟨saved, read, reread⟩ := reads.rewrite rewrites
    rw [here]
    simp only [serde, read, Except.mapError, pure, Except.pure, Repository.written]
    refine ⟨rfl, rfl, rfl, ?_, stands.ids.update fun row => (rewrites.filed row).1⟩
    apply update_related formats.ulid_injective (fun _ _ reads => reads.id) stands.table
    intro other record member readsOther same
    -- identifiers are distinct, so the row that is rewritten is the one that was read
    obtain rfl := stands.ids.eq_of_mem member (Repository.getAny_mem found) (same.trans (Repository.getAny_id found).symm)
    exact ⟨by rw [(rewrites.filed record).1]; exact readsOther.id,
      by rw [(rewrites.filed record).2]; exact readsOther.owner, reread.data⟩

theorem delete_simulates (stands : Stands formats session rows) (id : ClusterId) :
    ClusterRepository.Agrees (Stands formats) ((repository formats).delete id session)
      (Repository.plain.delete id rows) := by
  simp only [repository, delete, run_withConn stands.healthy stands.calm, calm_attempt, Repository.plain, bind,
    Except.bind, pure, Except.pure]
  refine ⟨rfl, rfl, rfl, ?_, stands.ids.remove⟩
  exact remove_related formats.ulid_injective (fun _ _ reads => reads.id) stands.table

/-- Rows that read back are decoded one by one. -/
theorem mapM_reads (decode : TextRow → Except Stop Cluster) {table : List TextRow} {rows : Rows}
    (reads : List.Forall₂ (TextRow.Reads formats) table rows)
    (decoded : ∀ text row, text.Reads formats row → row ∈ rows → decode text = .ok row) :
    table.mapM decode = .ok rows := by
  rw [Decoding.mapM_eq_ok]
  induction reads with
  | nil => exact .nil
  | @cons text row texts rows here rest ih =>
    constructor
    · exact decoded text row here List.mem_cons_self
    · apply ih
      intro text row reads member
      exact decoded text row reads (List.mem_cons_of_mem _ member)

theorem parseClusterId_reads {text : TextRow} {row : Cluster} (reads : text.Reads formats row) :
    parseClusterId formats text.id = .ok row.id := by
  rw [parseClusterId, reads.id, formats.reads_id]
  rfl

theorem listByOwner_simulates (stands : Stands formats session rows) (owner : ClientId) :
    ClusterRepository.Agrees (Stands formats) ((repository formats).listByOwner owner session)
      (Repository.plain.listByOwner owner rows) := by
  have decoded : ((session.store.table.filter fun row => row.owner = owner.name).mapM fun row => do
      fromRow formats (← parseClusterId formats row.id) owner row.dataJson) = .ok (Repository.listByOwner rows owner) := by
    apply mapM_reads _ (stands.ownerRows owner)
    intro text row reads member
    obtain rfl : row.owner = owner := by simpa using (List.mem_filter.mp member).2
    simp only [parseClusterId_reads reads, bind, Except.bind, reads.data]
  simp only [repository, listByOwner, run_withConn stands.healthy stands.calm, calm_attempt, Repository.plain, bind,
    Except.bind] at decoded ⊢
  rw [decoded]
  exact stands.readOnly _

theorem listAll_simulates (stands : Stands formats session rows) :
    ClusterRepository.Agrees (Stands formats) ((repository formats).listAll session)
      (Repository.plain.listAll rows) := by
  have decoded : (session.store.table.mapM fun row => do
      fromRow formats (← parseClusterId formats row.id) ⟨row.owner⟩ row.dataJson) = .ok rows := by
    apply mapM_reads _ stands.table
    intro text row reads member
    simp only [parseClusterId_reads reads, bind, Except.bind, reads.owner, reads.data]
  simp only [repository, listAll, run_withConn stands.healthy stands.calm, calm_attempt, Repository.plain, bind,
    Except.bind] at decoded ⊢
  rw [decoded]
  exact stands.readOnly _

/-- The slots in use, read back from the blobs. -/
theorem usedSlots_reads {table : List TextRow} {rows : Rows} (reads : List.Forall₂ (TextRow.Reads formats) table rows) :
    (table.map TextRow.dataJson).filterMap (fun json => (readPersisted formats json).toOption.map PersistedCluster.slot) =
      rows.map Cluster.slot := by
  induction reads with
  | nil => rfl
  | @cons text row texts rows here rest ih =>
    obtain ⟨saved, ttl, read, built, same⟩ := fromRow_eq_ok.mp here.data
    have slot : saved.slot = row.slot := by
      rw [same]
      rfl
    have first : (readPersisted formats text.dataJson).toOption.map PersistedCluster.slot = some row.slot := by
      rw [read, ← slot]
      rfl
    rw [List.map_cons, List.map_cons, List.filterMap_cons, first, ih]

theorem tryInsertIfUnderQuota_simulates (stands : Stands formats session rows) (cluster : Cluster) (limit : UInt32) :
    ClusterRepository.Agrees (Stands formats) ((repository formats).tryInsertIfUnderQuota cluster limit session)
      (Repository.plain.tryInsertIfUnderQuota cluster limit rows) := by
  have owned := stands.ownerRows cluster.owner
  simp only [repository, tryInsertIfUnderQuota, run_withConn stands.healthy stands.calm, transaction, calm_attempt,
    Repository.plain, Repository.tryInsertIfUnderQuota, bind, Except.bind, List.length_map, owned.length_eq,
    usedSlots_reads owned]
  by_cases full : limit ≤ Repository.countU32 (Repository.listByOwner rows cluster.owner).length
  · simp only [full, if_true]
    exact stands.readOnly _
  · simp only [full, if_false]
    cases Repository.leastFreeSlot limit ((Repository.listByOwner rows cluster.owner).map Cluster.slot) with
    | none => exact stands.failed _
    | some slot =>
      have related := stands.lookup cluster.id
      cases found : Repository.getAny rows cluster.id with
      | some row =>
        rw [found] at related
        obtain ⟨text, here, -⟩ := related_some related
        simp only [here]
        exact stands.failed _
      | none =>
        rw [found] at related
        simp only [related_none related]
        refine ⟨rfl, rfl, rfl, ?_, stands.ids.append_row found⟩
        apply List.rel_append stands.table
        exact .cons (reads_textRow { cluster with slot := slot }) .nil

/-- The SQLite store answers as the plain table does, whatever is called. -/
theorem repository_simulates (formats : Formats) : (repository formats).Simulates Repository.plain (Stands formats) where
  tryInsertIfUnderQuota := fun cluster limit _ _ stands => tryInsertIfUnderQuota_simulates stands cluster limit
  getOwned := fun id owner _ _ stands => getOwned_simulates stands id owner
  getAny := fun id _ _ stands => getAny_simulates stands id
  listByOwner := fun owner _ _ stands => listByOwner_simulates stands owner
  listAll := fun _ _ stands => listAll_simulates stands
  updateState := fun id state _ _ stands => rewrite_simulates (rewrites_state state) stands id
  setWorker := fun id worker _ _ stands => rewrite_simulates (rewrites_worker worker) stands id
  delete := fun id _ _ stands => delete_simulates stands id

/-! ## What a row keeps -/

/-- The two rewrites of a row's blob. -/
def IsWrite : Call → Prop
  | .updateState .. | .setWorker .. => True
  | .tryInsertIfUnderQuota .. | .getOwned .. | .getAny _ | .listByOwner _ | .listAll | .delete _ => False

/-- A rewrite of the one row. -/
def WritesTo (id : ClusterId) : Call → Prop
  | .updateState other _ | .setWorker other _ => other = id
  | .tryInsertIfUnderQuota .. | .getOwned .. | .getAny _ | .listByOwner _ | .listAll | .delete _ => False

/-- The state that a call has written to the row. -/
def stateWritten (id : ClusterId) : Call × Reply → Option ClusterState
  | (.updateState other state, .done (.ok ())) => if other = id then some state else none
  | _ => none

def workerWritten (id : ClusterId) : Call × Reply → Option WorkerUser
  | (.setWorker other worker, .done (.ok ())) => if other = id then some worker else none
  | _ => none

/-- The row after the writes that have reached it: the last state, the last account, the rest as it was. -/
def lastWritten (id : ClusterId) (row : Cluster) (done : List (Call × Reply)) : Cluster :=
  { row with state := (done.filterMap (stateWritten id)).getLast?.getD row.state,
             worker := (done.filterMap (workerWritten id)).getLast?.or row.worker }

theorem lastWritten_append (id : ClusterId) (row : Cluster) (done : List (Call × Reply)) (last : Call × Reply) :
    lastWritten id row (done ++ [last]) = lastWritten id (lastWritten id row done) [last] := by
  unfold lastWritten
  rw [List.filterMap_append, List.filterMap_append, List.getLast?_append, List.getLast?_append]
  cases state : stateWritten id last <;> cases worker : workerWritten id last <;> simp [state, worker]

/-- A row of the table, whatever the rows beside it are. -/
def StoredAs (formats : Formats) (store : Store) (id : ClusterId) (row : Cluster) : Prop :=
  store.poisoned = false ∧ ∃ text, lookup TextRow.id store.table (formats.ulid id) = some text ∧ text.Reads formats row

variable {id : ClusterId} {row : Cluster}

theorem StoredAs.getAny {store : Store} (stored : StoredAs formats store id row) (named : row.id = id) :
    (Sqlite.getAny formats store .none id).1 = .ok (some row) := by
  obtain ⟨healthy, text, here, reads⟩ := stored
  subst named
  simp only [Sqlite.getAny, withConn, Faults.none, healthy, Bool.false_eq_true, if_false, attempt, here, reads.owner,
    reads.data, bind, Except.bind, pure, Except.pure]

/-- The read-modify-write of any row, where it meets no fault. -/
theorem StoredAs.rewrite_clean {store : Store} {change : PersistedCluster → PersistedCluster}
    {live : Cluster → Cluster} (rewrites : Rewrites change live) (stored : StoredAs formats store id row)
    (other : ClusterId) :
    StoredAs formats (rewrite formats store .none other change).2 id
      (match (rewrite formats store .none other change).1 with
      | .ok () => if other = id then live row else row
      | .error _ => row) := by
  obtain ⟨healthy, text, here, reads⟩ := stored
  simp only [rewrite, withConn, healthy, Faults.none, attempt, Bool.false_eq_true, if_false, bind, Except.bind]
  cases found : lookup TextRow.id store.table (formats.ulid other) with
  | none => exact ⟨healthy, text, here, reads⟩
  | some target =>
    cases read : readPersisted formats target.dataJson with
    | error source =>
      have unreadable : (serde (readPersisted formats target.dataJson) : Except Stop PersistedCluster) =
          .error (.error (.serde source)) := by
        rw [read]
        rfl
      simp only [unreadable]
      exact ⟨healthy, text, here, reads⟩
    | ok saved =>
      have readable : (serde (readPersisted formats target.dataJson) : Except Stop PersistedCluster) = .ok saved := by
        rw [read]
        rfl
      simp only [readable, pure, Except.pure]
      by_cases same : other = id
      · subst same
        obtain ⟨saved', read', reread⟩ := reads.rewrite rewrites
        obtain rfl : target = text := Option.some.inj (found.symm.trans here)
        obtain rfl : saved' = saved := Except.ok.inj (read'.symm.trans read)
        refine ⟨rfl, { target with dataJson := writePersisted formats (change saved') }, ?_, ?_⟩
        · dsimp only
          rw [lookup_update, if_pos rfl, here]
          · rfl
          · exact fun _ => rfl
        · rw [if_pos rfl]
          exact reread
      · refine ⟨rfl, text, ?_, ?_⟩
        · dsimp only
          rw [lookup_update, if_neg, here]
          · intro equal
            exact same (formats.ulid_injective _ _ equal).symm
          · exact fun _ => rfl
        · rw [if_neg same]
          exact reads

/-- The read-modify-write of the row itself ends well, where it meets no fault. -/
theorem StoredAs.rewrite_succeeds {store : Store} {change : PersistedCluster → PersistedCluster} {live : Cluster → Cluster}
    (rewrites : Rewrites change live) (stored : StoredAs formats store id row) :
    (rewrite formats store .none id change).1 = .ok () := by
  obtain ⟨healthy, text, here, reads⟩ := stored
  obtain ⟨saved, read, -⟩ := reads.rewrite rewrites
  have readable : (serde (readPersisted formats text.dataJson) : Except Stop PersistedCluster) = .ok saved := by
    rw [read]
    rfl
  simp only [rewrite, withConn, healthy, Faults.none, attempt, here, readable, Bool.false_eq_true, if_false, bind,
    Except.bind, pure, Except.pure]

/-- A fault leaves the store alone. -/
theorem StoredAs.rewrite {change : PersistedCluster → PersistedCluster} {live : Cluster → Cluster}
    (rewrites : Rewrites change live) (stored : StoredAs formats session.store id row) (other : ClusterId) :
    StoredAs formats (session.run fun store faults => rewrite formats store faults other change).2.store id
      (match (session.run fun store faults => rewrite formats store faults other change).1 with
      | .ok () => if other = id then live row else row
      | .error _ => row) := by
  simp only [Session.run]
  rcases rewrite_failsClean stored.1 (session.faults.headD .none) other change with same | ⟨error, failed, -⟩
  · rw [same]
    exact stored.rewrite_clean rewrites other
  · rw [failed]
    exact stored

/-- One write, whether or not it meets a fault, and whichever row it names. -/
theorem StoredAs.write {call : Call} (isWrite : IsWrite call) (stored : StoredAs formats session.store id row) :
    StoredAs formats ((repository formats).call session call).2.store id
      (lastWritten id row [(call, ((repository formats).call session call).1)]) := by
  cases call with
  | updateState other state =>
    have written := stored.rewrite (rewrites_state state) other
    simp only [ClusterRepository.call, ClusterRepository.answered, repository, updateState]
    generalize (session.run fun store faults => Sqlite.rewrite formats store faults other _) = done at written ⊢
    obtain ⟨error | _, next⟩ := done
    · exact written
    · by_cases same : other = id <;> simpa [lastWritten, stateWritten, workerWritten, same] using written
  | setWorker other worker =>
    have written := stored.rewrite (rewrites_worker worker) other
    simp only [ClusterRepository.call, ClusterRepository.answered, repository, setWorker]
    generalize (session.run fun store faults => Sqlite.rewrite formats store faults other _) = done at written ⊢
    obtain ⟨error | _, next⟩ := done
    · exact written
    · by_cases same : other = id <;> simpa [lastWritten, stateWritten, workerWritten, same] using written
  | tryInsertIfUnderQuota | getOwned | getAny | listByOwner | listAll | delete => exact isWrite.elim

theorem StoredAs.writes {calls : List Call} (areWrites : ∀ call ∈ calls, IsWrite call)
    (stored : StoredAs formats session.store id row) :
    StoredAs formats ((repository formats).calls session calls).2.store id
      (lastWritten id row (calls.zip ((repository formats).calls session calls).1)) := by
  induction calls using List.reverseRecOn with
  | nil => exact stored
  | append_singleton calls last ih =>
    have earlier := ih fun call member => areWrites call (List.mem_append_left _ member)
    have written := earlier.write (areWrites last (List.mem_append_right _ List.mem_cons_self))
    rw [ClusterRepository.calls_append, List.zip_append (by rw [ClusterRepository.length_calls]), ]
    simp only [ClusterRepository.calls, List.zip_cons_cons, List.zip_nil_right, lastWritten_append]
    exact written

/-- A rewrite of the row is acknowledged, unless it meets a fault. -/
theorem StoredAs.acknowledged {call : Call} (writes : WritesTo id call) (stored : StoredAs formats session.store id row)
    (calm : session.faults.headD .none = .none) : ((repository formats).call session call).1 = .done (.ok ()) := by
  cases call with
  | updateState other state =>
    obtain rfl : other = id := writes
    simp only [ClusterRepository.call, ClusterRepository.answered, repository, updateState, Session.run, calm]
    rw [stored.rewrite_succeeds (rewrites_state state)]
  | setWorker other worker =>
    obtain rfl : other = id := writes
    simp only [ClusterRepository.call, ClusterRepository.answered, repository, setWorker, Session.run, calm]
    rw [stored.rewrite_succeeds (rewrites_worker worker)]
  | tryInsertIfUnderQuota | getOwned | getAny | listByOwner | listAll | delete => exact writes.elim

/-- An accepted insert appends its row's text. -/
theorem tryInsertIfUnderQuota_inserted {store next : Store} {faults : Faults} {cluster : Cluster} {limit slot : UInt32}
    (done : tryInsertIfUnderQuota formats store faults cluster limit = (.ok (.inserted slot), next)) :
    store.poisoned = false ∧ lookup TextRow.id store.table (formats.ulid cluster.id) = none ∧
      next = { store with table := store.table ++ [textRow formats { cluster with slot := slot }] } := by
  obtain ⟨healthy, table, ran, rfl⟩ := withConn_ok done
  suffices grown : lookup TextRow.id store.table (formats.ulid cluster.id) = none ∧
      table = store.table ++ [textRow formats { cluster with slot := slot }] by
    exact ⟨healthy, grown.1, by rw [grown.2]⟩
  obtain ⟨ended, body, outcome⟩ := transaction_ok ran
  simp only [bind, Except.bind] at body
  split at body
  · cases body
  · split at body
    · cases body
      cases outcome
    · split at body
      · cases body
      · split at body
        · cases body
        · split at body
          · cases body
          · next missing =>
            cases body
            cases outcome
            exact ⟨missing, rfl⟩

theorem storedAs_inserted {cluster : Cluster} {limit slot : UInt32} (whole : cluster.requestedTtl.WholeSeconds)
    (done : ((repository formats).tryInsertIfUnderQuota cluster limit session).1 = .ok (.inserted slot)) :
    StoredAs formats ((repository formats).tryInsertIfUnderQuota cluster limit session).2.store cluster.id
      { cluster with slot := slot } := by
  obtain ⟨healthy, missing, next⟩ := tryInsertIfUnderQuota_inserted (Prod.ext done rfl)
  have reads : (textRow formats { cluster with slot := slot }).Reads formats
      (Repository.stored { cluster with slot := slot }) := reads_textRow _
  rw [Repository.stored, TimeDelta.truncated_of_wholeSeconds whole] at reads
  have after : ((repository formats).tryInsertIfUnderQuota cluster limit session).2.store =
      { session.store with table := session.store.table ++ [textRow formats { cluster with slot := slot }] } := next
  rw [after]
  refine ⟨healthy, _, ?_, reads⟩
  dsimp only
  rw [lookup_append_row, missing, if_pos (by rfl)]
  rfl

/-- What is stored reads back as it was, and a rewrite of one field is acknowledged and leaves the others. -/
theorem persistence_round_trip (formats : Formats) :
    (∀ cluster : Cluster, cluster.requestedTtl.WholeSeconds →
      fromRow formats cluster.id cluster.owner (writePersisted formats (toPersisted cluster)) = .ok cluster) ∧
    (∀ id, parseClusterId formats (formats.ulid id) = .ok id) ∧
    (∀ (session : Session) (cluster : Cluster) (limit slot : UInt32), cluster.requestedTtl.WholeSeconds →
      ((repository formats).tryInsertIfUnderQuota cluster limit session).1 = .ok (.inserted slot) →
      StoredAs formats ((repository formats).tryInsertIfUnderQuota cluster limit session).2.store cluster.id
        { cluster with slot := slot }) ∧
    ∀ (session : Session) (row : Cluster) (calls : List Call), StoredAs formats session.store row.id row →
      (∀ call ∈ calls, IsWrite call) →
      (getAny formats ((repository formats).calls session calls).2.store .none row.id).1 =
        .ok (some (lastWritten row.id row (calls.zip ((repository formats).calls session calls).1))) ∧
      ∀ next, WritesTo row.id next → ((repository formats).calls session calls).2.faults.headD .none = .none →
        ((repository formats).call ((repository formats).calls session calls).2 next).1 = .done (.ok ()) := by
  refine ⟨fun cluster whole => ?_, fun id => ?_, fun session cluster limit slot => storedAs_inserted, ?_⟩
  · have read : fromRow formats cluster.id cluster.owner (textRow formats cluster).dataJson =
        .ok (Repository.stored cluster) := fromRow_textRow cluster
    rw [Repository.stored, TimeDelta.truncated_of_wholeSeconds whole] at read
    exact read
  · rw [parseClusterId, formats.reads_id]
    rfl
  · intro session row calls stored areWrites
    have after := stored.writes areWrites
    refine ⟨after.getAny rfl, fun next writes calm => ?_⟩
    exact after.acknowledged writes calm

def sampleRow : Cluster :=
  ⟨⟨0⟩, ⟨"agent"⟩, ⟨.supabase, false⟩, .zero, .epoch, .spawning .epoch, none, 0⟩

def sampleWorker : WorkerUser := ⟨"agent", 1001, 1001⟩

/-- A row that is inserted, given its account and lost after a restart. -/
theorem persistence_round_trip_lost :
    (getAny sampleFormats ((repository sampleFormats).calls
      ((repository sampleFormats).tryInsertIfUnderQuota sampleRow 1 ⟨.empty, []⟩).2
      [.setWorker ⟨0⟩ sampleWorker, .updateState ⟨0⟩ (.failed .epoch "lost after restart")]).2.store .none ⟨0⟩).1 =
    .ok (some { sampleRow with state := .failed .epoch "lost after restart", worker := some sampleWorker }) ∧
    ((repository sampleFormats).call
      ((repository sampleFormats).tryInsertIfUnderQuota sampleRow 1 ⟨.empty, []⟩).2
      (.setWorker ⟨0⟩ sampleWorker)).1 = .done (.ok ()) := by
  obtain ⟨-, -, inserts, rewrites⟩ := persistence_round_trip sampleFormats
  have stored := inserts ⟨.empty, []⟩ sampleRow 1 0 (by decide) (by decide +kernel)
  have read := rewrites _ sampleRow
    [.setWorker ⟨0⟩ sampleWorker, .updateState ⟨0⟩ (.failed .epoch "lost after restart")] stored
    (by simp [IsWrite])
  have written := (rewrites _ sampleRow [] stored (by simp)).2 (.setWorker ⟨0⟩ sampleWorker) rfl rfl
  exact ⟨read.1, written⟩

end AppSalmon.Sqlite
