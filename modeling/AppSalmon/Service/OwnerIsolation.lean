import AppSalmon.Adapters.StoredRows
import AppSalmon.Service.OverRepository

/-! What a client sees of other clients' rows.

Two stores are compared that hold the same rows of one owner, and any rows of
others, readable or not. The rows are those of the table itself, as text.
-/

set_option autoImplicit false

namespace AppSalmon

open KeyedTable Decoding
open Sqlite (TextRow Table Session Store Faults Closure Stop TxEnd)
open ClusterRepository (Agrees)

/-! ## Computations that end alike -/

/-- Both end, in results that stand in a relation, or both stop for the same reason. -/
inductive EndAlike {α β : Type} (Rel : α → β → Prop) : Except Stop α → Except Stop β → Prop where
  | done {first : α} {second : β} (related : Rel first second) : EndAlike Rel (.ok first) (.ok second)
  | stopped (stop : Stop) : EndAlike Rel (.error stop) (.error stop)

theorem EndAlike.refl {α : Type} {Rel : α → α → Prop} (reflexive : ∀ value, Rel value value) (run : Except Stop α) :
    EndAlike Rel run run := by
  cases run with
  | error stop => exact .stopped stop
  | ok value => exact .done (reflexive value)

theorem EndAlike.bind {α β γ δ : Type} {Rel : α → β → Prop} {Next : γ → δ → Prop} {first : Except Stop α}
    {second : Except Stop β} {next : α → Except Stop γ} {next' : β → Except Stop δ} (alike : EndAlike Rel first second)
    (onward : ∀ value value', Rel value value' → EndAlike Next (next value) (next' value')) :
    EndAlike Next (first >>= next) (second >>= next') := by
  cases alike with
  | done related => exact onward _ _ related
  | stopped stop => exact .stopped stop

/-- The same computation first, and then two that end alike. -/
theorem EndAlike.after {α γ δ : Type} {Next : γ → δ → Prop} (first : Except Stop α) {next : α → Except Stop γ}
    {next' : α → Except Stop δ} (onward : ∀ value, EndAlike Next (next value) (next' value)) :
    EndAlike Next (first >>= next) (first >>= next') := by
  have same : EndAlike Eq first first := .refl (fun _ => rfl) first
  apply same.bind
  rintro value _ rfl
  exact onward value

/-- The same value, and tables that stand in a relation. -/
def SameValue {α : Type} (Rel : Table → Table → Prop) (first second : α × Table) : Prop :=
  first.1 = second.1 ∧ Rel first.2 second.2

inductive SameTx {α : Type} (Rel : Table → Table → Prop) : TxEnd α → TxEnd α → Prop where
  | drop (value : α) : SameTx Rel (.drop value) (.drop value)
  | commit (value : α) {first second : Table} (related : Rel first second) :
      SameTx Rel (.commit value first) (.commit value second)

theorem transaction_endAlike {α : Type} {Rel : Table → Table → Prop} {first second : Table}
    {body body' : Table → Except Stop (TxEnd α)} (faults : Faults) (related : Rel first second)
    (ran : EndAlike (SameTx Rel) (body first) (body' second)) :
    EndAlike (SameValue Rel) (Sqlite.transaction faults body first) (Sqlite.transaction faults body' second) := by
  unfold Sqlite.transaction
  apply EndAlike.after
  intro begun
  apply ran.bind
  intro ended ended' same
  cases same with
  | drop value => exact .done ⟨rfl, related⟩
  | commit value working =>
    apply EndAlike.after
    exact fun _ => .done ⟨rfl, working⟩

/-! ## Stores with the same rows of one owner -/

variable (owner : ClientId)

def ownRows (table : Table) : Table := table.filter fun row => row.owner = owner.name

def foreignRows (table : Table) : Table := table.filter fun row => row.owner ≠ owner.name

/-- The same rows of the owner, beside foreign rows that are given. -/
structure Twins (foreign foreign' : Table) (first second : Table) : Prop where
  ids : Distinct TextRow.id first
  ids' : Distinct TextRow.id second
  own : (ownRows owner first).Perm (ownRows owner second)
  kept : foreignRows owner first = foreign
  kept' : foreignRows owner second = foreign'

/-- Two sessions that the owner's requests should not tell apart. -/
structure Agree (foreign foreign' : Table) (first second : Session) : Prop where
  poisoned : first.store.poisoned = second.store.poisoned
  faults : first.faults = second.faults
  tables : Twins owner foreign foreign' first.store.table second.store.table

variable {owner} {foreign foreign' : Table} {first second : Table} {session session' : Session} {formats : Formats}

theorem mem_ownRows {table : Table} {row : TextRow} : row ∈ ownRows owner table ↔ row ∈ table ∧ row.owner = owner.name := by
  simp [ownRows]

/-- Calls whose closures end alike answer alike. -/
theorem Agree.run {α : Type} {closure closure' : Faults → Closure α} (agree : Agree owner foreign foreign' session session')
    (ran : ∀ faults, EndAlike (SameValue (Twins owner foreign foreign')) (closure faults session.store.table)
      (closure' faults session'.store.table)) :
    Agrees (Agree owner foreign foreign') (session.run fun store faults => Sqlite.withConn store faults (closure faults))
      (session'.run fun store faults => Sqlite.withConn store faults (closure' faults)) := by
  obtain ⟨⟨table, poisoned⟩, faults⟩ := session
  obtain ⟨⟨table', poisoned'⟩, faults'⟩ := session'
  obtain ⟨level, same, tables⟩ := agree
  dsimp only at level same
  subst level
  subst same
  have ends := ran (faults.headD .none)
  simp only [Session.run, Sqlite.withConn]
  split
  · exact ⟨rfl, rfl, rfl, tables⟩
  · split
    · exact ⟨rfl, rfl, rfl, tables⟩
    · generalize closure (faults.headD .none) table = ended at ends
      generalize closure' (faults.headD .none) table' = ended' at ends
      cases ends with
      | @done value value' related =>
        obtain ⟨value, left⟩ := value
        obtain ⟨value', left'⟩ := value'
        obtain ⟨equal, twins⟩ := related
        exact ⟨congrArg Except.ok equal, rfl, rfl, twins⟩
      | stopped stop =>
        cases stop with
        | error error => exact ⟨rfl, rfl, rfl, tables⟩
        | panic message => exact ⟨rfl, rfl, rfl, tables⟩

/-- A row of the owner is found in both tables, or in neither. -/
theorem Twins.find (twins : Twins owner foreign foreign' first second) (text : String) :
    (first.find? fun row => row.id = text ∧ row.owner = owner.name) =
      second.find? fun row => row.id = text ∧ row.owner = owner.name := by
  have found_iff {table : Table} (ids : Distinct TextRow.id table) (row : TextRow) :
      (table.find? fun row => row.id = text ∧ row.owner = owner.name) = some row ↔
        row ∈ ownRows owner table ∧ row.id = text := by
    rw [mem_ownRows]
    constructor
    · intro found
      have here : row.id = text ∧ row.owner = owner.name := by simpa using List.find?_some found
      exact ⟨⟨List.mem_of_find?_eq_some found, here.2⟩, here.1⟩
    · rintro ⟨⟨member, owned⟩, named⟩
      cases found : table.find? fun row => row.id = text ∧ row.owner = owner.name with
      | none =>
        have missed := List.find?_eq_none.mp found row member
        simp [named, owned] at missed
      | some other =>
        have there : other.id = text ∧ other.owner = owner.name := by simpa using List.find?_some found
        rw [ids.eq_of_mem (List.mem_of_find?_eq_some found) member (there.1.trans named.symm)]
  apply Option.ext
  intro row
  rw [found_iff twins.ids, found_iff twins.ids', twins.own.mem_iff]

theorem getOwned_alike (agree : Agree owner foreign foreign' session session') (id : ClusterId) :
    Agrees (Agree owner foreign foreign') ((Sqlite.repository formats).getOwned id owner session)
      ((Sqlite.repository formats).getOwned id owner session') := by
  apply agree.run
  intro faults
  apply EndAlike.after
  intro selected
  rw [agree.tables.find]
  split
  · exact .done ⟨rfl, agree.tables⟩
  · apply EndAlike.after
    exact fun _ => .done ⟨rfl, agree.tables⟩

theorem Twins.append (twins : Twins owner foreign foreign' first second) {row : TextRow} (owned : row.owner = owner.name)
    (fresh : lookup TextRow.id first row.id = none) (fresh' : lookup TextRow.id second row.id = none) :
    Twins owner foreign foreign' (first ++ [row]) (second ++ [row]) where
  ids := twins.ids.append_row fresh
  ids' := twins.ids'.append_row fresh'
  own := by
    simp only [ownRows, List.filter_append]
    exact twins.own.append_right _
  kept := by simpa [foreignRows, owned] using twins.kept
  kept' := by simpa [foreignRows, owned] using twins.kept'

theorem tryInsertIfUnderQuota_alike (agree : Agree owner foreign foreign' session session') {cluster : Cluster}
    (owned : cluster.owner = owner) (limit : UInt32)
    (fresh : lookup TextRow.id session.store.table (formats.ulid cluster.id) = none)
    (fresh' : lookup TextRow.id session'.store.table (formats.ulid cluster.id) = none) :
    Agrees (Agree owner foreign foreign') ((Sqlite.repository formats).tryInsertIfUnderQuota cluster limit session)
      ((Sqlite.repository formats).tryInsertIfUnderQuota cluster limit session') := by
  subst owned
  have own : (session.store.table.filter fun row => row.owner = cluster.owner.name).Perm
      (session'.store.table.filter fun row => row.owner = cluster.owner.name) := agree.tables.own
  have sameCount : ((session.store.table.filter fun row => row.owner = cluster.owner.name).map TextRow.dataJson).length =
      ((session'.store.table.filter fun row => row.owner = cluster.owner.name).map TextRow.dataJson).length := by
    rw [List.length_map, List.length_map, own.length_eq]
  -- the slots in use are those of the owner's readable rows, in whatever order they are read
  have sameSlot : Repository.leastFreeSlot limit
        (((session.store.table.filter fun row => row.owner = cluster.owner.name).map TextRow.dataJson).filterMap
          fun json => (readPersisted formats json).toOption.map PersistedCluster.slot) =
      Repository.leastFreeSlot limit
        (((session'.store.table.filter fun row => row.owner = cluster.owner.name).map TextRow.dataJson).filterMap
          fun json => (readPersisted formats json).toOption.map PersistedCluster.slot) := by
    apply Repository.leastFreeSlot_congr
    intro slot
    exact ((own.map TextRow.dataJson).filterMap _).mem_iff
  apply agree.run
  intro faults
  apply transaction_endAlike faults agree.tables
  apply EndAlike.after
  intro selected
  simp only [sameCount, sameSlot]
  split
  · exact .done (.drop _)
  · split
    · exact .stopped _
    · apply EndAlike.after
      intro inserted
      rw [fresh, fresh']
      exact .done (.commit _ (agree.tables.append rfl fresh fresh'))

/-- A row of the owner is the row with its identifier. -/
theorem Twins.lookup_own (twins : Twins owner foreign foreign' first second) {row : TextRow}
    (member : row ∈ ownRows owner first) :
    lookup TextRow.id first row.id = some row ∧ lookup TextRow.id second row.id = some row :=
  ⟨twins.ids.lookup_of_mem (mem_ownRows.mp member).1,
    twins.ids'.lookup_of_mem (mem_ownRows.mp (twins.own.mem_iff.mp member)).1⟩

theorem filter_update {table : Table} {keep : TextRow → Bool} {text : String} {change : TextRow → TextRow}
    (kept : ∀ row, keep (change row) = keep row) :
    (update TextRow.id table text change).filter keep = update TextRow.id (table.filter keep) text change := by
  rw [update, List.filter_map, update]
  congr 2
  funext row
  by_cases named : row.id = text <;> simp [named, kept]

/-- A rewrite of a row of the owner leaves foreign rows alone. -/
theorem foreignRows_update {table : Table} (ids : Distinct TextRow.id table) {row : TextRow}
    (member : row ∈ ownRows owner table) {change : TextRow → TextRow} (kept : ∀ row, (change row).owner = row.owner) :
    foreignRows owner (update TextRow.id table row.id change) = foreignRows owner table := by
  obtain ⟨stored, owned⟩ := mem_ownRows.mp member
  rw [foreignRows, filter_update fun row => by rw [kept], update_eq_self_iff.mpr]
  · rfl
  · intro other foreign named
    obtain ⟨inside, strange⟩ := List.mem_filter.mp foreign
    -- identifiers are distinct, and the row with this one is the owner's
    rw [ids.eq_of_mem inside stored named] at strange
    simp [owned] at strange

theorem Twins.update (twins : Twins owner foreign foreign' first second) {row : TextRow}
    (member : row ∈ ownRows owner first) {change : TextRow → TextRow}
    (kept : ∀ row, (change row).id = row.id ∧ (change row).owner = row.owner) :
    Twins owner foreign foreign' (update TextRow.id first row.id change) (update TextRow.id second row.id change) where
  ids := twins.ids.update fun row => (kept row).1
  ids' := twins.ids'.update fun row => (kept row).1
  own := by
    rw [ownRows, ownRows, filter_update fun row => by rw [(kept row).2], filter_update fun row => by rw [(kept row).2]]
    exact twins.own.map _
  kept := (foreignRows_update twins.ids member fun row => (kept row).2).trans twins.kept
  kept' := (foreignRows_update twins.ids' (twins.own.mem_iff.mp member) fun row => (kept row).2).trans twins.kept'

theorem updateState_alike (agree : Agree owner foreign foreign' session session') {id : ClusterId} {row : TextRow}
    (member : row ∈ ownRows owner session.store.table) (named : row.id = formats.ulid id) (state : ClusterState) :
    Agrees (Agree owner foreign foreign') ((Sqlite.repository formats).updateState id state session)
      ((Sqlite.repository formats).updateState id state session') := by
  obtain ⟨here, there⟩ := agree.tables.lookup_own member
  simp only [Sqlite.repository, Sqlite.updateState, Sqlite.rewrite]
  apply agree.run
  intro faults
  apply EndAlike.after
  intro selected
  rw [← named, here, there]
  apply EndAlike.after
  intro persisted
  apply EndAlike.after
  exact fun _ => .done ⟨rfl, agree.tables.update member fun _ => ⟨rfl, rfl⟩⟩

/-- Two lists of the same rows, or two failures. -/
def SameList {ε : Type} : Except ε (List Cluster) → Except ε (List Cluster) → Prop
  | .ok first, .ok second => first.Perm second
  | .error _, .error _ => True
  | _, _ => False

theorem SameList.refl {ε : Type} (result : Except ε (List Cluster)) : SameList result result := by
  cases result with
  | error error => trivial
  | ok rows => exact List.Perm.refl rows

variable (owner formats) in
theorem listByOwner_table (session : Session) :
    ((Sqlite.repository formats).listByOwner owner session).2.store.table = session.store.table := by
  obtain ⟨⟨table, poisoned⟩, faults⟩ := session
  simp only [Sqlite.repository, Session.run, Sqlite.listByOwner, Sqlite.withConn, bind, Except.bind]
  split
  · rfl
  · split
    · rfl
    · cases Sqlite.attempt (faults.headD .none) .select with
      | error stop => cases stop <;> rfl
      | ok selected =>
        dsimp only
        split
        · next ended =>
          split at ended
          · cases ended
          · cases ended
            rfl
        · rfl
        · rfl

/-- The next call reaches its rows. -/
def Session.Reads (session : Session) : Prop :=
  (session.faults.headD .none).join = none ∧ session.store.poisoned = false ∧
    (session.faults.headD .none).statement .select = none

theorem listByOwner_ok {rows : List Cluster} :
    ((Sqlite.repository formats).listByOwner owner session).1 = .ok rows ↔
      Session.Reads session ∧ ((ownRows owner session.store.table).mapM fun row => do
        Sqlite.fromRow formats (← Sqlite.parseClusterId formats row.id) owner row.dataJson) = .ok rows := by
  obtain ⟨⟨table, poisoned⟩, faults⟩ := session
  simp only [Sqlite.repository, Session.run, Sqlite.listByOwner, Sqlite.withConn, Sqlite.attempt, Session.Reads, ownRows,
    bind, Except.bind]
  generalize List.mapM (m := Except Stop) _ (table.filter _) = decoded
  cases (faults.headD .none).join with
  | some why => simp
  | none =>
    cases poisoned with
    | true => simp
    | false =>
      cases (faults.headD .none).statement .select with
      | some source => simp
      | none => cases decoded with
        | error stop => cases stop <;> simp
        | ok rows => simp [pure, Except.pure]

variable (formats) in
theorem listByOwner_same (agree : Agree owner foreign foreign' session session') :
    SameList ((Sqlite.repository formats).listByOwner owner session).1
      ((Sqlite.repository formats).listByOwner owner session').1 := by
  have reads : Session.Reads session ↔ Session.Reads session' := by
    rw [Session.Reads, Session.Reads, agree.faults, agree.poisoned]
  cases here : ((Sqlite.repository formats).listByOwner owner session).1 with
  | ok rows =>
    obtain ⟨open_, decoded⟩ := listByOwner_ok.mp here
    obtain ⟨other, decoded', perm⟩ := mapM_perm agree.tables.own decoded
    rw [listByOwner_ok.mpr ⟨reads.mp open_, decoded'⟩]
    exact perm
  | error error =>
    cases there : ((Sqlite.repository formats).listByOwner owner session').1 with
    | error error' => trivial
    | ok rows =>
      obtain ⟨open_, decoded⟩ := listByOwner_ok.mp there
      obtain ⟨other, decoded', -⟩ := mapM_perm agree.tables.own.symm decoded
      rw [listByOwner_ok.mpr ⟨reads.mpr open_, decoded'⟩] at here
      cases here

/-- Where the owner's rows come in one order, the list does too. -/
theorem listByOwner_alike (agree : Agree owner foreign foreign' session session')
    (ordered : ownRows owner session.store.table = ownRows owner session'.store.table) :
    Agrees (Agree owner foreign foreign') ((Sqlite.repository formats).listByOwner owner session)
      ((Sqlite.repository formats).listByOwner owner session') := by
  simp only [Sqlite.repository, Sqlite.listByOwner]
  apply agree.run
  intro faults
  apply EndAlike.after
  intro selected
  simp only [ownRows] at ordered
  rw [ordered]
  apply EndAlike.after
  exact fun rows => .done ⟨rfl, agree.tables⟩

/-! ## Requests -/

inductive OwnerRequest where
  | create (id : ClusterId) (service : ServiceSpec) (requestedTtl : TimeDelta) (now : DateTime)
  | info (id : ClusterId)
  | list
  | requestDelete (id : ClusterId) (reason : DeleteReason) (now : DateTime)

inductive OwnerReply where
  | created (result : Except ClusterError Cluster)
  | info (result : Except ClusterError Cluster)
  | listed (result : Except ClusterError (List Cluster))
  | deleted (result : Except ClusterError (Cluster × DeleteOutcome))

def OwnerRequest.serve {σ : Type} (repository : ClusterRepository σ) (limits : Limits) (owner : ClientId) (store : σ) :
    OwnerRequest → OwnerReply × σ
  | .create id service requestedTtl now =>
    let done := ClusterService.createOver repository limits (ClusterService.newCluster id owner service requestedTtl now) store
    (.created done.1, done.2)
  | .info id =>
    let done := ClusterService.infoOver repository id owner store
    (.info done.1, done.2)
  | .list =>
    let done := ClusterService.listOver repository owner store
    (.listed done.1, done.2)
  | .requestDelete id reason now =>
    let done := ClusterService.requestDeleteOver repository id owner reason now store
    (.deleted done.1, done.2)

/-- Over the plain table they are what the handlers and their tasks do. -/
theorem OwnerRequest.serve_plain (limits : Limits) (owner : ClientId) (rows : Repository.Rows) (request : OwnerRequest) :
    request.serve Repository.plain limits owner rows =
      match request with
      | .create id service requestedTtl now =>
        let done := ClusterService.create limits rows none (ClusterService.newCluster id owner service requestedTtl now)
        (.created done.1, done.2)
      | .info id => (.info (ClusterService.info rows none id owner), rows)
      | .list => (.listed (.ok (Repository.listByOwner rows owner)), rows)
      | .requestDelete id reason now =>
        match ClusterService.info rows none id owner with
        | .error error => (.deleted (.error error), rows)
        | .ok cluster =>
          let done := ClusterService.writeDeletion rows none cluster now reason
          (.deleted done.1, done.2) := by
  cases request with
  | create id service requestedTtl now => simp only [serve, ClusterService.createOver_plain]
  | info id => simp only [serve, ClusterService.infoOver_plain]
  | list => rfl
  | requestDelete id reason now =>
    simp only [serve, ClusterService.requestDeleteOver, ClusterService.infoOver_plain]
    cases found : ClusterService.info rows none id owner with
    | error error => rfl
    | ok cluster =>
      obtain rfl := Repository.getOwned_id (ClusterService.info_ok found)
      simp only [ClusterService.condemnOver_plain]

/-- The same reply, lists as multisets. -/
def SameReply : OwnerReply → OwnerReply → Prop
  | .listed first, .listed second => SameList first second
  | first, second => first = second

/-- A create draws an identifier that the table does not have. -/
def OwnerRequest.Fresh (formats : Formats) (table : Table) : OwnerRequest → Prop
  | .create id .. => lookup TextRow.id table (formats.ulid id) = none
  | .info _ | .list | .requestDelete .. => True

/-- Two sessions with the same rows of one owner: in any order, and beside any rows of others. -/
structure SameOwnRows (owner : ClientId) (first second : Session) : Prop where
  ids : Distinct TextRow.id first.store.table
  ids' : Distinct TextRow.id second.store.table
  own : (ownRows owner first.store.table).Perm (ownRows owner second.store.table)
  poisoned : first.store.poisoned = second.store.poisoned
  faults : first.faults = second.faults

theorem SameOwnRows.agree {first second : Session} (same : SameOwnRows owner first second) :
    Agree owner (foreignRows owner first.store.table) (foreignRows owner second.store.table) first second :=
  ⟨same.poisoned, same.faults, same.ids, same.ids', same.own, rfl, rfl⟩

theorem createOver_alike (agree : Agree owner foreign foreign' session session') (limits : Limits) {cluster : Cluster}
    (owned : cluster.owner = owner) (fresh : lookup TextRow.id session.store.table (formats.ulid cluster.id) = none)
    (fresh' : lookup TextRow.id session'.store.table (formats.ulid cluster.id) = none) :
    Agrees (Agree owner foreign foreign') (ClusterService.createOver (Sqlite.repository formats) limits cluster session)
      (ClusterService.createOver (Sqlite.repository formats) limits cluster session') := by
  unfold ClusterService.createOver
  cases ClusterService.checkTtl limits cluster.requestedTtl with
  | error error => exact ⟨rfl, agree⟩
  | ok =>
    apply ClusterService.afterCall_agrees (tryInsertIfUnderQuota_alike agree owned _ fresh fresh')
    intro outcome next next' agree
    cases outcome with
    | inserted slot => exact ⟨rfl, agree⟩
    | quotaExceeded count => exact ⟨rfl, agree⟩

variable (formats) in
theorem infoOver_alike (agree : Agree owner foreign foreign' session session') (id : ClusterId) :
    Agrees (Agree owner foreign foreign') (ClusterService.infoOver (Sqlite.repository formats) id owner session)
      (ClusterService.infoOver (Sqlite.repository formats) id owner session') := by
  apply ClusterService.afterCall_agrees (getOwned_alike agree id)
  intro found next next' agree
  cases found with
  | none => exact ⟨rfl, agree⟩
  | some cluster => exact ⟨rfl, agree⟩

theorem getOwned_some {store next : Store} {faults : Faults} {id : ClusterId} {cluster : Cluster}
    (done : Sqlite.getOwned formats store faults id owner = (.ok (some cluster), next)) :
    ∃ row ∈ ownRows owner next.table, row.id = formats.ulid id := by
  obtain ⟨-, table, ran, rfl⟩ := Sqlite.withConn_ok done
  simp only [bind, Except.bind] at ran
  split at ran
  · cases ran
  · split at ran
    · cases ran
    · next text here =>
      split at ran
      · cases ran
      · cases ran
        have is : text.id = formats.ulid id ∧ text.owner = owner.name := by simpa using List.find?_some here
        exact ⟨text, mem_ownRows.mpr ⟨List.mem_of_find?_eq_some here, is.2⟩, is.1⟩

/-- A row that was read is one of the owner's, and is still there. -/
theorem infoOver_own {id : ClusterId} {cluster : Cluster} {next : Session}
    (done : ClusterService.infoOver (Sqlite.repository formats) id owner session = (.ok cluster, next)) :
    ∃ row ∈ ownRows owner next.store.table, row.id = formats.ulid id := by
  unfold ClusterService.infoOver ClusterService.afterCall at done
  split at done
  · cases done
  · next found left asked =>
    cases found with
    | none => cases done
    | some row =>
      cases done
      obtain ⟨answered, rfl⟩ := Prod.mk.inj asked
      exact getOwned_some (Prod.ext answered rfl)

theorem requestDeleteOver_alike (agree : Agree owner foreign foreign' session session') (id : ClusterId)
    (reason : DeleteReason) (now : DateTime) :
    Agrees (Agree owner foreign foreign')
      (ClusterService.requestDeleteOver (Sqlite.repository formats) id owner reason now session)
      (ClusterService.requestDeleteOver (Sqlite.repository formats) id owner reason now session') := by
  obtain ⟨result, next, next', here, there, agree⟩ := (infoOver_alike formats agree id).split
  unfold ClusterService.requestDeleteOver
  rw [here, there]
  cases result with
  | error error => exact ⟨rfl, agree⟩
  | ok cluster =>
    obtain ⟨row, member, named⟩ := infoOver_own here
    dsimp only
    unfold ClusterService.condemnOver
    cases transition cluster.state (.deleteRequested now reason) with
    | error error => exact ⟨rfl, agree⟩
    | ok state =>
      apply ClusterService.afterCall_agrees (updateState_alike agree member named state)
      exact fun _ _ _ agree => ⟨rfl, agree⟩

/-- What a request leaves: the owner's rows the same in both stores, and all others as they were. -/
structure KeepsApart (owner : ClientId) (first second after after' : Session) : Prop where
  own : (ownRows owner after.store.table).Perm (ownRows owner after'.store.table)
  foreign : foreignRows owner after.store.table = foreignRows owner first.store.table
  foreign' : foreignRows owner after'.store.table = foreignRows owner second.store.table

theorem Agree.keepsApart {first second : Session}
    (agree : Agree owner (foreignRows owner first.store.table) (foreignRows owner second.store.table) session session') :
    KeepsApart owner first second session session' :=
  ⟨agree.tables.own, agree.tables.kept, agree.tables.kept'⟩

/-- A reply that is the same, and stores that agree. -/
theorem keepsApart_of_agrees {α : Type} {first second : Session} {done done' : α × Session} (view : α → OwnerReply)
    (agrees : Agrees (Agree owner (foreignRows owner first.store.table) (foreignRows owner second.store.table)) done done') :
    view done.1 = view done'.1 ∧ KeepsApart owner first second done.2 done'.2 :=
  ⟨congrArg view agrees.1, agrees.2.keepsApart⟩

theorem SameReply.of_eq {first second : OwnerReply} (same : first = second) : SameReply first second := by
  subst same
  cases first with
  | listed result => exact SameList.refl result
  | created | info | deleted => rfl

theorem listOver_table (session : Session) :
    (ClusterService.listOver (Sqlite.repository formats) owner session).2.store.table = session.store.table := by
  have kept := listByOwner_table owner formats session
  unfold ClusterService.listOver ClusterService.afterCall
  generalize (Sqlite.repository formats).listByOwner owner session = done at kept ⊢
  obtain ⟨error | rows, next⟩ := done
  · exact kept
  · exact kept

theorem listOver_same (agree : Agree owner foreign foreign' session session') :
    SameList (ClusterService.listOver (Sqlite.repository formats) owner session).1
      (ClusterService.listOver (Sqlite.repository formats) owner session').1 := by
  have same := listByOwner_same formats agree
  unfold ClusterService.listOver ClusterService.afterCall
  generalize (Sqlite.repository formats).listByOwner owner session = done at same ⊢
  generalize (Sqlite.repository formats).listByOwner owner session' = done' at same ⊢
  obtain ⟨error | rows, next⟩ := done
  · obtain ⟨error' | rows', next'⟩ := done'
    · trivial
    · exact same
  · obtain ⟨error' | rows', next'⟩ := done'
    · exact same
    · exact same

/-- Whatever rows others have, a client's requests answer the same, leave its own rows the same, and change no row
of another. Where its rows come in one order in both stores, even lists and errors are the same. -/
theorem owner_noninterference (formats : Formats) (limits : Limits) (owner : ClientId) {first second : Session}
    (same : SameOwnRows owner first second) (request : OwnerRequest) (fresh : request.Fresh formats first.store.table)
    (fresh' : request.Fresh formats second.store.table) :
    let done := request.serve (Sqlite.repository formats) limits owner first
    let done' := request.serve (Sqlite.repository formats) limits owner second
    SameReply done.1 done'.1 ∧ KeepsApart owner first second done.2 done'.2 ∧
      (ownRows owner first.store.table = ownRows owner second.store.table → done.1 = done'.1) := by
  have agree := same.agree
  have told {done done' : OwnerReply × Session} (both : done.1 = done'.1 ∧ KeepsApart owner first second done.2 done'.2) :
      SameReply done.1 done'.1 ∧ KeepsApart owner first second done.2 done'.2 ∧
        (ownRows owner first.store.table = ownRows owner second.store.table → done.1 = done'.1) :=
    ⟨.of_eq both.1, both.2, fun _ => both.1⟩
  cases request with
  | create id service requestedTtl now =>
    exact told (keepsApart_of_agrees .created (createOver_alike agree limits rfl fresh fresh'))
  | info id => exact told (keepsApart_of_agrees .info (infoOver_alike _ agree id))
  | requestDelete id reason now => exact told (keepsApart_of_agrees .deleted (requestDeleteOver_alike agree id reason now))
  | list =>
    refine ⟨listOver_same agree, ⟨?_, ?_, ?_⟩, fun ordered => ?_⟩
    · simp only [OwnerRequest.serve, listOver_table]
      exact same.own
    · simp only [OwnerRequest.serve, listOver_table]
    · simp only [OwnerRequest.serve, listOver_table]
    · apply congrArg OwnerReply.listed
      apply (ClusterService.afterCall_agrees (listByOwner_alike agree ordered) _).1
      exact fun _ _ _ agree => ⟨rfl, agree⟩

/-- A client that asks for the row of another one, which is not readable either, and the same without that row. -/
theorem owner_noninterference_foreign :
    let foreign : TextRow := ⟨Sqlite.sampleFormats.ulid ⟨1⟩, "other", .malformed "not json"⟩
    SameReply ((OwnerRequest.info ⟨1⟩).serve (Sqlite.repository Sqlite.sampleFormats) smallDeps.limits ⟨"agent"⟩
        ⟨⟨[foreign], false⟩, []⟩).1
      ((OwnerRequest.info ⟨1⟩).serve (Sqlite.repository Sqlite.sampleFormats) smallDeps.limits ⟨"agent"⟩ ⟨.empty, []⟩).1 := by
  intro foreign
  have same : SameOwnRows ⟨"agent"⟩ ⟨⟨[foreign], false⟩, []⟩ ⟨.empty, []⟩ :=
    ⟨List.nodup_singleton _, List.nodup_nil, by simp [ownRows, foreign, Sqlite.Store.empty], rfl, rfl⟩
  exact (owner_noninterference Sqlite.sampleFormats smallDeps.limits ⟨"agent"⟩ same (.info ⟨1⟩) trivial trivial).1

end AppSalmon