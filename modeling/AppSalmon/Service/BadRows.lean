import AppSalmon.Service.Passes

/-! A table some of whose rows do not decode.

Both passes list the whole table first, and a listing stops at the first row that
does not decode. A row whose TTL chrono cannot take makes the closure panic that
reads it, and the mutex is poisoned then.
-/

set_option autoImplicit false

namespace AppSalmon.Sqlite

open KeyedTable Decoding
open Repository (Rows)

variable (formats : Formats)

/-- A row as a listing of the whole table reads it. -/
def TextRow.decode (text : TextRow) : Except Stop Cluster := do
  fromRow formats (← parseClusterId formats text.id) ⟨text.owner⟩ text.dataJson

/-- The identifier parses, the blob decodes, and its TTL is beyond what chrono can take. -/
structure TextRow.Explodes (text : TextRow) : Prop where
  named : ∃ id, formats.parseUlid text.id = .ok id
  ttl : ∃ saved, readPersisted formats text.dataJson = .ok saved ∧ TimeDelta.trySeconds saved.requestedTtlSecs = none

/-- The primary key is distinct, and a row that decodes is filed under the text of its own identifier. -/
structure Filed (table : Table) : Prop where
  distinct : Distinct TextRow.id table
  canonical : ∀ text ∈ table, ∀ row, text.decode formats = .ok row → text.id = formats.ulid row.id

variable {formats} {text : TextRow} {row : Cluster} {table : Table}

theorem fromRow_panics {id : ClusterId} {owner : ClientId} {json : SerdeJson.Text} {message : String}
    (panicked : fromRow formats id owner json = .error (.panic message)) :
    ∃ saved, readPersisted formats json = .ok saved ∧ TimeDelta.trySeconds saved.requestedTtlSecs = none := by
  unfold fromRow serde at panicked
  cases read : readPersisted formats json with
  | error source => simp [read, Except.mapError, bind, Except.bind] at panicked
  | ok saved =>
    refine ⟨saved, rfl, ?_⟩
    cases built : TimeDelta.trySeconds saved.requestedTtlSecs with
    | none => rfl
    | some ttl => simp [read, built, Except.mapError, bind, Except.bind, pure, Except.pure] at panicked

theorem parseClusterId_ok {raw : String} {id : ClusterId} :
    parseClusterId formats raw = .ok id ↔ formats.parseUlid raw = .ok id := by
  unfold parseClusterId
  cases formats.parseUlid raw <;> simp [Except.mapError]

/-- A listing panics over no other row. -/
theorem decode_panics {owner : ClientId} {message : String}
    (panicked : (do fromRow formats (← parseClusterId formats text.id) owner text.dataJson) = .error (.panic message)) :
    text.Explodes formats := by
  cases parsed : formats.parseUlid text.id with
  | error source => simp [parseClusterId, parsed, Except.mapError, bind, Except.bind] at panicked
  | ok id =>
    have named := parseClusterId_ok.mpr parsed
    simp only [named, bind, Except.bind] at panicked
    exact ⟨⟨id, parsed⟩, fromRow_panics panicked⟩

theorem TextRow.Explodes.decode (explodes : text.Explodes formats) :
    ∃ message, text.decode formats = .error (.panic message) := by
  obtain ⟨⟨id, parsed⟩, saved, read, overflows⟩ := explodes
  refine ⟨"TimeDelta::seconds out of bounds", ?_⟩
  simp [TextRow.decode, fromRow, parseClusterId_ok.mpr parsed, serde, read, overflows, Except.mapError, bind, Except.bind]

theorem TextRow.Reads.decode (reads : text.Reads formats row) : text.decode formats = .ok row := by
  obtain ⟨owner⟩ := row.owner
  simp only [TextRow.decode, parseClusterId_reads reads, bind, Except.bind, reads.owner]
  exact reads.data

/-- No lock is poisoned, no fault is to come, and no row makes a closure panic. -/
structure Upright (formats : Formats) (session : Session) : Prop where
  healthy : session.store.poisoned = false
  calm : session.faults = []
  inert : ∀ text ∈ session.store.table, ¬ text.Explodes formats

variable {session : Session}

theorem Upright.session_eq (upright : Upright formats session) : session = ⟨⟨session.store.table, false⟩, []⟩ := by
  obtain ⟨⟨table, poisoned⟩, faults⟩ := session
  obtain ⟨rfl, rfl, -⟩ := upright
  rfl

/-- What a closure that only reads may come to. -/
inductive OnlyReads {α : Type} (table : Table) : Except Stop (α × Table) → Prop where
  | answers (value : α) : OnlyReads table (.ok (value, table))
  | fails (error : RepositoryError) : OnlyReads table (.error (.error error))

theorem Upright.reading {α : Type} (upright : Upright formats session) {closure : Faults → Closure α}
    (reads : OnlyReads session.store.table (closure .none session.store.table)) :
    (session.run fun store faults => withConn store faults (closure faults)).2 = session := by
  rw [run_withConn upright.healthy upright.calm]
  generalize closure .none session.store.table = done at reads
  cases reads with
  | answers => exact upright.session_eq.symm
  | fails => rfl

/-- One row that is looked up by its identifier. -/
theorem Upright.onlyReads_row (upright : Upright formats session) (member : text ∈ session.store.table) {id : ClusterId}
    (named : text.id = formats.ulid id) (owner : ClientId) :
    OnlyReads session.store.table (do
      return (some (← fromRow formats id owner text.dataJson), session.store.table)) := by
  cases read : fromRow formats id owner text.dataJson with
  | ok row => exact .answers _
  | error stop =>
    cases stop with
    | error error => exact .fails error
    | panic message =>
      have known : ∃ id, formats.parseUlid text.id = .ok id := ⟨id, by rw [named, formats.reads_id]⟩
      exact (upright.inert text member ⟨known, fromRow_panics read⟩).elim

/-- Rows that are listed. -/
theorem Upright.onlyReads_rows (upright : Upright formats session) {rows : Table} (listed : rows ⊆ session.store.table)
    (owner : TextRow → ClientId) :
    OnlyReads session.store.table (do
      let clusters ← rows.mapM fun row => do fromRow formats (← parseClusterId formats row.id) (owner row) row.dataJson
      return (clusters, session.store.table)) := by
  cases read : rows.mapM fun row => do fromRow formats (← parseClusterId formats row.id) (owner row) row.dataJson with
  | ok clusters => exact .answers _
  | error stop =>
    cases stop with
    | error error => exact .fails error
    | panic message =>
      obtain ⟨text, member, panicked⟩ := mapM_error read
      exact (upright.inert text (listed member) (decode_panics panicked)).elim

theorem Upright.getOwned (upright : Upright formats session) (id : ClusterId) (owner : ClientId) :
    ((repository formats).getOwned id owner session).2 = session := by
  apply upright.reading
  simp only [calm_attempt, bind, Except.bind]
  cases found : session.store.table.find? fun row => row.id = formats.ulid id ∧ row.owner = owner.name with
  | none => exact .answers none
  | some text =>
    have named : text.id = formats.ulid id ∧ text.owner = owner.name := by simpa using List.find?_some found
    exact upright.onlyReads_row (List.mem_of_find?_eq_some found) named.1 owner

theorem Upright.getAny (upright : Upright formats session) (id : ClusterId) :
    ((repository formats).getAny id session).2 = session := by
  apply upright.reading
  simp only [calm_attempt, bind, Except.bind]
  cases found : lookup TextRow.id session.store.table (formats.ulid id) with
  | none => exact .answers none
  | some text =>
    obtain ⟨member, named⟩ := lookup_eq_some found
    exact upright.onlyReads_row member named ⟨text.owner⟩

theorem Upright.listByOwner (upright : Upright formats session) (owner : ClientId) :
    ((repository formats).listByOwner owner session).2 = session :=
  upright.reading (upright.onlyReads_rows (List.filter_subset_self _) fun _ => owner)

theorem Upright.listAll (upright : Upright formats session) : ((repository formats).listAll session).2 = session :=
  upright.reading (upright.onlyReads_rows (List.Subset.refl _) fun row => ⟨row.owner⟩)

theorem not_explodes_textRow (cluster : Cluster) : ¬ (textRow formats cluster).Explodes formats := by
  rintro ⟨-, saved, read, overflows⟩
  rw [textRow, readPersisted_writePersisted, Except.ok.injEq] at read
  subst read
  rw [toPersisted, cluster.requestedTtl.truncated_eq] at overflows
  cases overflows

/-- An insert appends one row that this program has written, or does nothing. -/
theorem Upright.tryInsert (upright : Upright formats session) (cluster : Cluster) (limit : UInt32) :
    ((repository formats).tryInsertIfUnderQuota cluster limit session).2 = session ∨
      ∃ slot, lookup TextRow.id session.store.table (formats.ulid cluster.id) = none ∧
        ((repository formats).tryInsertIfUnderQuota cluster limit session).2 =
          ⟨⟨session.store.table ++ [textRow formats { cluster with slot := slot }], false⟩, []⟩ := by
  simp only [repository, tryInsertIfUnderQuota, run_withConn upright.healthy upright.calm, transaction, calm_attempt, bind,
    Except.bind]
  by_cases full : limit ≤ Repository.countU32 ((session.store.table.filter fun row => row.owner = cluster.owner.name).map
      TextRow.dataJson).length
  · simp only [full, if_true, pure, Except.pure]
    exact .inl upright.session_eq.symm
  · simp only [full, if_false]
    cases Repository.leastFreeSlot limit (((session.store.table.filter fun row => row.owner = cluster.owner.name).map
        TextRow.dataJson).filterMap fun json => (readPersisted formats json).toOption.map PersistedCluster.slot) with
    | none => exact .inl rfl
    | some slot =>
      dsimp only
      cases lookup TextRow.id session.store.table (formats.ulid cluster.id) with
      | some text => exact .inl rfl
      | none => exact .inr ⟨slot, rfl, rfl⟩

/-- The operations that name a row and change it. -/
def Names (id : ClusterId) : Call → Prop
  | .updateState other _ | .setWorker other _ | .delete other => other = id
  | .tryInsertIfUnderQuota .. | .getOwned .. | .getAny _ | .listByOwner _ | .listAll => False

/-- What a call leaves of a table without explosive rows. -/
structure Keeps (formats : Formats) (before after : Session) (touched : ClusterId → Prop) : Prop where
  upright : Upright formats after
  stored : ∀ id row, ¬ touched id → StoredAs formats before.store id row → StoredAs formats after.store id row

theorem Keeps.same (upright : Upright formats session) {after : Session} (same : after = session)
    (touched : ClusterId → Prop) : Keeps formats session after touched := by
  subst same
  exact ⟨upright, fun _ _ _ stored => stored⟩

theorem Upright.rewrite (upright : Upright formats session) {change : PersistedCluster → PersistedCluster}
    {live : Cluster → Cluster} (rewrites : Rewrites change live) (id : ClusterId) :
    Keeps formats session
      (session.run fun store faults => rewrite formats store faults id change).2 fun touched => id = touched := by
  constructor
  · simp only [Sqlite.rewrite, run_withConn upright.healthy upright.calm, calm_attempt, bind, Except.bind]
    cases found : lookup TextRow.id session.store.table (formats.ulid id) with
    | none => exact upright
    | some text =>
      obtain ⟨member, named⟩ := lookup_eq_some found
      cases read : readPersisted formats text.dataJson with
      | error source =>
        simp only [serde, read, Except.mapError]
        exact upright
      | ok saved =>
        simp only [serde, read, Except.mapError, pure, Except.pure]
        refine ⟨rfl, rfl, fun later inside explodes => ?_⟩
        obtain ⟨old, stored, rfl⟩ := mem_update.mp inside
        split at explodes
        · -- the blob that is written has the TTL of the one that was read
          obtain ⟨known, again, reread, overflows⟩ := explodes
          rw [readPersisted_writePersisted, Except.ok.injEq] at reread
          rw [← reread, rewrites.ttl] at overflows
          exact upright.inert text member ⟨⟨id, by rw [named, formats.reads_id]⟩, saved, read, overflows⟩
        · exact upright.inert old stored explodes
  · intro other row untouched stored
    have after := stored.rewrite rewrites id
    rw [if_neg untouched] at after
    split at after <;> exact after

theorem Upright.delete (upright : Upright formats session) (id : ClusterId) :
    Keeps formats session ((repository formats).delete id session).2 fun touched => id = touched := by
  simp only [repository, Sqlite.delete, run_withConn upright.healthy upright.calm, calm_attempt, bind, Except.bind, pure,
    Except.pure]
  constructor
  · exact ⟨rfl, rfl, fun text member => upright.inert text (mem_remove.mp member).1⟩
  · rintro other row untouched ⟨-, text, here, reads⟩
    refine ⟨rfl, text, ?_, reads⟩
    rw [lookup_remove, if_neg]
    · exact here
    · exact fun same => untouched (formats.ulid_injective _ _ same).symm

theorem Upright.insert (upright : Upright formats session) (cluster : Cluster) (limit : UInt32) :
    Keeps formats session ((repository formats).tryInsertIfUnderQuota cluster limit session).2 fun _ => False := by
  rcases upright.tryInsert cluster limit with same | ⟨slot, missing, grown⟩
  · exact .same upright same _
  · rw [grown]
    constructor
    · refine ⟨rfl, rfl, fun text member => ?_⟩
      rcases List.mem_append.mp member with old | new
      · exact upright.inert text old
      · rw [List.mem_singleton.mp new]
        exact not_explodes_textRow _
    · rintro other row - ⟨-, text, here, reads⟩
      refine ⟨rfl, text, ?_, reads⟩
      rw [lookup_append_row, here]
      rfl

/-- One call, whichever it is. -/
theorem Upright.call (upright : Upright formats session) (call : Call) :
    Keeps formats session ((repository formats).call session call).2 fun id => Names id call := by
  cases call with
  | tryInsertIfUnderQuota cluster limit => exact upright.insert cluster limit
  | getOwned id owner => exact .same upright (upright.getOwned id owner) _
  | getAny id => exact .same upright (upright.getAny id) _
  | listByOwner owner => exact .same upright (upright.listByOwner owner) _
  | listAll => exact .same upright upright.listAll _
  | updateState id state => exact upright.rewrite (rewrites_state state) id
  | setWorker id worker => exact upright.rewrite (rewrites_worker worker) id
  | delete id => exact upright.delete id

/-- Any sequence of calls. -/
theorem Upright.calls (upright : Upright formats session) (calls : List Call) :
    Keeps formats session ((repository formats).calls session calls).2 fun id => ∃ call ∈ calls, Names id call := by
  induction calls generalizing session with
  | nil => exact .same upright rfl _
  | cons first rest ih =>
    have here := upright.call first
    have later := ih here.upright
    refine ⟨later.upright, fun id row untouched stored => ?_⟩
    apply later.stored id row
    · rintro ⟨call, member, named⟩
      exact untouched ⟨call, List.mem_cons_of_mem _ member, named⟩
    · apply here.stored id row _ stored
      exact fun named => untouched ⟨first, List.mem_cons_self, named⟩

/-! ## What is to stay unharmed -/

/-- The row's own operations all succeed, and it reads as it is. -/
structure Answers (formats : Formats) (store : Store) (row : Cluster) : Prop where
  getAny : (Sqlite.getAny formats store .none row.id).1 = .ok (some row)
  getOwned : (Sqlite.getOwned formats store .none row.id row.owner).1 = .ok (some row)
  updateState : ∀ state, (Sqlite.updateState formats store .none row.id state).1 = .ok ()
  setWorker : ∀ worker, (Sqlite.setWorker formats store .none row.id worker).1 = .ok ()
  delete : (Sqlite.delete formats store .none row.id).1 = .ok ()

theorem StoredAs.answers {store : Store} (stored : StoredAs formats store row.id row) : Answers formats store row := by
  have read := stored.getAny rfl
  obtain ⟨healthy, text, here, reads⟩ := stored
  obtain ⟨saved, ttl, decoded, -⟩ := fromRow_eq_ok.mp reads.data
  have rewritten (change : PersistedCluster → PersistedCluster) :
      (Sqlite.rewrite formats store .none row.id change).1 = .ok () := by
    simp only [Sqlite.rewrite, withConn, Faults.none, healthy, Bool.false_eq_true, if_false, attempt, here, serde, decoded,
      Except.mapError, bind, Except.bind, pure, Except.pure]
  have owned : (store.table.find? fun other => other.id = formats.ulid row.id ∧ other.owner = row.owner.name) = some text := by
    obtain ⟨named, before, after, split, earlier⟩ := List.find?_eq_some_iff_append.mp here
    rw [List.find?_eq_some_iff_append]
    refine ⟨by simp [of_decide_eq_true named, reads.owner], before, after, split, fun other member => ?_⟩
    have differs := earlier other member
    simp_all
  refine ⟨read, ?_, fun state => rewritten _, fun worker => rewritten _, ?_⟩
  · simp only [Sqlite.getOwned, withConn, Faults.none, healthy, Bool.false_eq_true, if_false, attempt, owned, reads.data,
      bind, Except.bind, pure, Except.pure]
  · simp only [Sqlite.delete, withConn, Faults.none, healthy, Bool.false_eq_true, if_false, attempt, bind, Except.bind, pure,
      Except.pure]

variable (formats)

/-- The rows that a listing of the whole table gives, one by one. -/
def rowsOf (table : Table) : Rows := table.filterMap fun text => (text.decode formats).toOption

/-- A row that decodes, and that a sweep can decide about. -/
def TextRow.Sound (failedGracePeriod : TimeDelta) (text : TextRow) : Prop :=
  ∃ row, text.Reads formats row ∧ TtlReaper.Representable failedGracePeriod [row]

/-- No row explodes, and either every row is sound or no sound row stands beside the bad ones. -/
structure Harmless (failedGracePeriod : TimeDelta) (table : Table) : Prop where
  inert : ∀ text ∈ table, ¬ text.Explodes formats
  rows : (∀ text ∈ table, text.Sound formats failedGracePeriod) ∨
    (∃ text ∈ table, ∀ row, text.decode formats ≠ .ok row) ∧ ∀ text ∈ table, ¬ text.Sound formats failedGracePeriod

variable {formats} {failedGracePeriod : TimeDelta}

theorem Filed.perm {order : Table} (filed : Filed formats table) (perm : order.Perm table) : Filed formats order :=
  ⟨(perm.map _).nodup_iff.mpr filed.distinct, fun text member => filed.canonical text (perm.mem_iff.mp member)⟩

theorem reads_rowsOf (reads : ∀ text ∈ table, ∃ row, text.Reads formats row) :
    List.Forall₂ (TextRow.Reads formats) table (rowsOf formats table) := by
  induction table with
  | nil => exact .nil
  | cons text rest ih =>
    obtain ⟨row, here⟩ := reads text List.mem_cons_self
    have decoded : (text.decode formats).toOption = some row := by
      rw [here.decode]
      rfl
    simp only [rowsOf, List.filterMap_cons, decoded]
    exact .cons here (ih fun other member => reads other (List.mem_cons_of_mem _ member))

/-- A table without a bad row is one that the plain table stands for. -/
theorem Filed.stands (filed : Filed formats table) (reads : ∀ text ∈ table, ∃ row, text.Reads formats row) :
    Stands formats ⟨⟨table, false⟩, []⟩ (rowsOf formats table) := by
  have decoded := reads_rowsOf reads
  refine ⟨rfl, rfl, decoded, ?_⟩
  have ids : (rowsOf formats table).map (fun row => formats.ulid row.id) = table.map TextRow.id := by
    generalize rowsOf formats table = rows at decoded
    clear filed reads
    induction decoded with
    | nil => rfl
    | cons here rest ih => rw [List.map_cons, List.map_cons, ih, here.id]
  have distinct := filed.distinct
  rw [Distinct, ← ids, ← Function.comp_def, ← List.map_map] at distinct
  exact distinct.of_map

theorem Stands.getAny {rows : Rows} (stands : Stands formats session rows) (id : ClusterId) :
    (Sqlite.getAny formats session.store .none id).1 = .ok (Repository.getAny rows id) := by
  have same := (getAny_simulates stands id).1
  simp only [repository, Session.run, stands.calm, List.headD_nil] at same
  exact same

/-! ## When it is -/

end AppSalmon.Sqlite
