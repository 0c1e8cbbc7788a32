import AppSalmon.Adapters.SqliteRepository

/-! Quota and directory slots of the store, over whole call sequences.

The typed table carries the invariant; the text store is its encoding after
every call, faulty or not.
-/

set_option autoImplicit false

namespace AppSalmon

open SerdeJson KeyedTable
open Repository (InsertOutcome Rows SlotsDistinct)

namespace Repository

/-- The invariant of the typed table under a fixed limit. -/
structure Slotted (limit : UInt32) (rows : Rows) : Prop where
  ids : Distinct Cluster.id rows
  slots : SlotsDistinct rows
  bounded : ∀ row ∈ rows, row.slot < limit

theorem Slotted.empty (limit : UInt32) : Slotted limit [] :=
  ⟨List.nodup_nil, List.nodup_nil, by simp⟩

theorem Slotted.insert {limit : UInt32} {rows next : Rows} {cluster : Cluster} {outcome : InsertOutcome}
    (slotted : Slotted limit rows)
    (done : tryInsertIfUnderQuota rows cluster limit = .ok (next, outcome)) : Slotted limit next := by
  refine ⟨?_, slotted.slots.insert done, ?_⟩
  · rcases tryInsertIfUnderQuota_cases done with ⟨-, rfl, -⟩ | ⟨slot, -, -, missing, -, rfl⟩
    · exact slotted.ids
    · exact slotted.ids.append_row missing
  · rcases tryInsertIfUnderQuota_cases done with ⟨-, rfl, -⟩ | ⟨slot, -, least, -, -, rfl⟩
    · exact slotted.bounded
    · intro row member
      rcases List.mem_append.mp member with old | new
      · exact slotted.bounded row old
      · rw [List.mem_singleton.mp new]
        exact (leastFreeSlot_eq_some.mp least).1

theorem Slotted.modify {limit : UInt32} {rows next : Rows} {id : ClusterId} {change : Cluster → Cluster}
    (slotted : Slotted limit rows)
    (kept : ∀ row, (change row).id = row.id ∧ (change row).owner = row.owner ∧ (change row).slot = row.slot)
    (done : Repository.modify rows id change = .ok next) : Slotted limit next := by
  refine ⟨?_, slotted.slots.modify (fun row => (kept row).2) done, ?_⟩
  · obtain ⟨-, rfl⟩ := modify_eq_ok.mp done
    exact slotted.ids.update fun row => (kept row).1
  · obtain ⟨-, rfl⟩ := modify_eq_ok.mp done
    intro row member
    obtain ⟨old, stored, rfl⟩ := mem_update.mp member
    split
    · rw [(kept old).2.2]
      exact slotted.bounded old stored
    · exact slotted.bounded old stored

theorem Slotted.delete {limit : UInt32} {rows : Rows} {id : ClusterId} (slotted : Slotted limit rows) :
    Slotted limit (delete rows id) :=
  ⟨slotted.ids.remove, slotted.slots.delete, fun row member => slotted.bounded row (mem_remove.mp member).1⟩

theorem Slotted.owner_slots_nodup {limit : UInt32} {rows : Rows} (slotted : Slotted limit rows)
    (owner : ClientId) : ((listByOwner rows owner).map Cluster.slot).Nodup := by
  refine List.Nodup.map_on ?_ ((List.Nodup.of_map _ slotted.slots).filter _)
  intro first left second right same
  obtain ⟨left, owned⟩ := List.mem_filter.mp left
  obtain ⟨right, owned'⟩ := List.mem_filter.mp right
  exact slotted.slots.eq_of_mem left right (by simp_all) same

/-- Distinct slots below the limit cannot number more than the limit. -/
theorem Slotted.quota {limit : UInt32} {rows : Rows} (slotted : Slotted limit rows) (owner : ClientId) :
    (listByOwner rows owner).length ≤ limit.toNat := by
  have contained : ((listByOwner rows owner).map Cluster.slot).map UInt32.toNat ⊆ List.range limit.toNat := by
    intro index member
    obtain ⟨slot, used, rfl⟩ := List.mem_map.mp member
    obtain ⟨row, owned, rfl⟩ := List.mem_map.mp used
    exact List.mem_range.mpr (UInt32.lt_iff_toNat_lt.mp (slotted.bounded row (List.mem_filter.mp owned).1))
  have distinct := (slotted.owner_slots_nodup owner).map fun _ _ => UInt32.toNat_inj.mp
  have size := (distinct.subperm contained).length_le
  simpa using size

/-- Under the invariant an insert fails only on a repeated identifier. -/
theorem tryInsertIfUnderQuota_room {limit : UInt32} {rows : Rows} {cluster : Cluster}
    (fresh : getAny rows cluster.id = none) (room : (listByOwner rows cluster.owner).length < limit.toNat) :
    ∃ slot, leastFreeSlot limit ((listByOwner rows cluster.owner).map Cluster.slot) = some slot ∧
      tryInsertIfUnderQuota rows cluster limit =
        .ok (rows ++ [stored { cluster with slot := slot }], .inserted slot) := by
  obtain ⟨slot, least⟩ :
      ∃ slot, leastFreeSlot limit ((listByOwner rows cluster.owner).map Cluster.slot) = some slot :=
    leastFreeSlot_isSome (by simpa using room)
  refine ⟨slot, least, ?_⟩
  have notFull : ¬ limit ≤ countU32 (listByOwner rows cluster.owner).length := by
    rw [le_countU32]
    omega
  simp [tryInsertIfUnderQuota, notFull, least, fresh]

end Repository

namespace Sqlite

variable (formats : Formats)

def ownerRows (table : Table) (owner : ClientId) : List TextRow :=
  table.filter fun row => row.owner = owner.name

/-- The slot a stored row decodes to. -/
def slotOf (row : TextRow) : Option UInt32 :=
  (readPersisted formats row.dataJson).toOption.map PersistedCluster.slot

def Fresh (table : Table) (id : ClusterId) : Prop := ∀ row ∈ table, row.id ≠ formats.ulid id

/-- The stores that calls on an empty table lead to, whatever faults they meet. -/
inductive Reachable (limit : UInt32) : Store → Prop where
  | empty : Reachable limit .empty
  | tryInsert {store : Store} (faults : Faults) (cluster : Cluster) (earlier : Reachable limit store)
      (fresh : Fresh formats store.table cluster.id) :
      Reachable limit (tryInsertIfUnderQuota formats store faults cluster limit).2
  | updateState {store : Store} (faults : Faults) (id : ClusterId) (state : ClusterState)
      (earlier : Reachable limit store) : Reachable limit (updateState formats store faults id state).2
  | setWorker {store : Store} (faults : Faults) (id : ClusterId) (worker : WorkerUser)
      (earlier : Reachable limit store) : Reachable limit (setWorker formats store faults id worker).2
  | delete {store : Store} (faults : Faults) (id : ClusterId) (earlier : Reachable limit store) :
      Reachable limit (delete formats store faults id).2

/-- The store encodes a typed table that keeps the invariant. -/
def Encodes (limit : UInt32) (store : Store) : Prop :=
  ∃ rows, store = encode formats rows ∧ Repository.Slotted limit rows

variable {formats}

theorem Encodes.of_failsClean {α : Type} {limit : UInt32} {store : Store}
    {call clean : Except RepositoryError α × Store} (either : FailsClean store call clean)
    (before : Encodes formats limit store) (after : Encodes formats limit clean.2) :
    Encodes formats limit call.2 := by
  rcases either with rfl | ⟨error, rfl, -⟩
  · exact after
  · exact before

theorem fresh_encode {rows : Rows} {id : ClusterId} :
    Fresh formats (encode formats rows).table id ↔ Repository.getAny rows id = none := by
  rw [Repository.getAny, lookup_eq_none]
  constructor
  · intro fresh row member same
    exact fresh _ (List.mem_map_of_mem member) (congrArg formats.ulid same)
  · intro missing text member same
    obtain ⟨row, stored, rfl⟩ := List.mem_map.mp member
    exact missing row stored (formats.ulid_injective _ _ same)

theorem Encodes.rewrite {limit : UInt32} {store : Store} {faults : Faults} {id : ClusterId}
    {change : PersistedCluster → PersistedCluster} (live : Cluster → Cluster)
    (simulates : ∀ row, change (toPersisted row) = toPersisted (live row))
    (kept : ∀ row, (live row).id = row.id ∧ (live row).owner = row.owner ∧ (live row).slot = row.slot)
    (before : Encodes formats limit store) :
    Encodes formats limit (rewrite formats store faults id change).2 := by
  obtain ⟨rows, rfl, slotted⟩ := before
  refine .of_failsClean (rewrite_failsClean (encode_poisoned _ rows) faults id change) ⟨rows, rfl, slotted⟩ ?_
  rw [rewrite_encode rows id simulates (fun row => ⟨(kept row).1, (kept row).2.1⟩) slotted.ids]
  cases done : Repository.modify rows id live with
  | error error => exact ⟨rows, rfl, slotted⟩
  | ok next => exact ⟨next, rfl, slotted.modify kept done⟩

/-- The step lemma and its induction: every reachable store encodes a slotted table. -/
theorem Reachable.encodes {limit : UInt32} {store : Store} (reached : Reachable formats limit store) :
    Encodes formats limit store := by
  induction reached with
  | empty => exact ⟨[], rfl, .empty limit⟩
  | tryInsert faults cluster earlier fresh ih =>
    obtain ⟨rows, rfl, slotted⟩ := ih
    refine .of_failsClean (tryInsertIfUnderQuota_failsClean (encode_poisoned _ rows) faults cluster limit)
      ⟨rows, rfl, slotted⟩ ?_
    rw [tryInsertIfUnderQuota_encode]
    cases done : Repository.tryInsertIfUnderQuota rows cluster limit with
    | error error => exact ⟨rows, rfl, slotted⟩
    | ok result => exact ⟨result.1, rfl, slotted.insert done⟩
  | updateState faults id state earlier ih =>
    exact ih.rewrite (fun row => { row with state := state }) (fun _ => rfl) fun _ => ⟨rfl, rfl, rfl⟩
  | setWorker faults id worker earlier ih =>
    exact ih.rewrite (fun row => { row with worker := some worker }) (fun _ => rfl) fun _ => ⟨rfl, rfl, rfl⟩
  | delete faults id earlier ih =>
    obtain ⟨rows, rfl, slotted⟩ := ih
    refine .of_failsClean (delete_failsClean (encode_poisoned _ rows) faults id) ⟨rows, rfl, slotted⟩ ?_
    rw [delete_encode]
    exact ⟨_, rfl, slotted.delete⟩

theorem ownerRows_encode (rows : Rows) (owner : ClientId) :
    ownerRows (encode formats rows).table owner = (Repository.listByOwner rows owner).map (textRow formats) :=
  ownerRows_textRow rows owner

theorem slotOf_textRow (cluster : Cluster) : slotOf formats (textRow formats cluster) = some cluster.slot := by
  simp [slotOf, textRow, toPersisted, Except.toOption]

variable (formats)

/-- The slots of one owner's rows, all of which decode, are distinct slots below the limit, and no
more rows than slots. -/
def OwnerSlotted (limit : UInt32) (table : Table) (owner : ClientId) : Prop :=
  (ownerRows table owner).length ≤ limit.toNat ∧
    ∃ slots : List UInt32, (ownerRows table owner).map (slotOf formats) = slots.map some ∧ slots.Nodup ∧
      ∀ slot ∈ slots, slot < limit

/-- What one insert does, by its result. -/
structure InsertMeets (limit : UInt32) (store : Store) (faults : Faults) (cluster : Cluster) : Prop where
  inserted : ∀ slot, (tryInsertIfUnderQuota formats store faults cluster limit).1 = .ok (.inserted slot) →
    (ownerRows store.table cluster.owner).length < limit.toNat ∧
      some slot ∉ (ownerRows store.table cluster.owner).map (slotOf formats) ∧
      (∀ lower < slot, some lower ∈ (ownerRows store.table cluster.owner).map (slotOf formats)) ∧
      (tryInsertIfUnderQuota formats store faults cluster limit).2 =
        { store with table := store.table ++ [textRow formats { cluster with slot := slot }] }
  refused : ∀ count, (tryInsertIfUnderQuota formats store faults cluster limit).1 = .ok (.quotaExceeded count) →
    limit.toNat ≤ (ownerRows store.table cluster.owner).length ∧
      (tryInsertIfUnderQuota formats store faults cluster limit).2 = store
  failed : ∀ error, (tryInsertIfUnderQuota formats store faults cluster limit).1 = .error error →
    (∀ what, error ≠ .corruptRow what) ∧ (tryInsertIfUnderQuota formats store faults cluster limit).2 = store
  faultless : ∃ outcome, (tryInsertIfUnderQuota formats store .none cluster limit).1 = .ok outcome

/-- A call that reports an error has changed nothing. -/
def ErrorsChangeNothing {α : Type} (store : Store) (call : Except RepositoryError α × Store) : Prop :=
  ∀ error, call.1 = .error error → call.2 = store

variable {formats}

theorem FailsClean.errorsChangeNothing {α : Type} {store : Store} {call clean : Except RepositoryError α × Store}
    (either : FailsClean store call clean) (plain : ErrorsChangeNothing store clean) :
    ErrorsChangeNothing store call := by
  intro error reported
  rcases either with rfl | ⟨-, rfl, -⟩
  · exact plain error reported
  · rfl

theorem tryInsertIfUnderQuota_clean {limit : UInt32} {rows : Rows} {cluster : Cluster}
    (fresh : Repository.getAny rows cluster.id = none) :
    (∃ count, limit.toNat ≤ (Repository.listByOwner rows cluster.owner).length ∧
      tryInsertIfUnderQuota formats (encode formats rows) .none cluster limit =
        (.ok (.quotaExceeded count), encode formats rows)) ∨
    ∃ slot, (Repository.listByOwner rows cluster.owner).length < limit.toNat ∧
      Repository.leastFreeSlot limit ((Repository.listByOwner rows cluster.owner).map Cluster.slot) = some slot ∧
      tryInsertIfUnderQuota formats (encode formats rows) .none cluster limit =
        (.ok (.inserted slot), encode formats (rows ++ [Repository.stored { cluster with slot := slot }])) := by
  rw [tryInsertIfUnderQuota_encode]
  rcases Nat.lt_or_ge (Repository.listByOwner rows cluster.owner).length limit.toNat with room | full
  · obtain ⟨slot, least, done⟩ := Repository.tryInsertIfUnderQuota_room fresh room
    exact .inr ⟨slot, room, least, by rw [done]⟩
  · refine .inl ⟨Repository.countU32 (Repository.listByOwner rows cluster.owner).length, full, ?_⟩
    rw [Repository.tryInsertIfUnderQuota, if_pos (Repository.le_countU32.mpr full)]

theorem insertMeets {limit : UInt32} {rows : Rows} (cluster : Cluster)
    (fresh : Repository.getAny rows cluster.id = none) (faults : Faults) :
    InsertMeets formats limit (encode formats rows) faults cluster := by
  have either : FailsClean (encode formats rows)
      (tryInsertIfUnderQuota formats (encode formats rows) faults cluster limit) _ :=
    tryInsertIfUnderQuota_failsClean (encode_poisoned formats rows) faults cluster limit
  have used : ∀ slot : UInt32, (some slot ∈ (ownerRows (encode formats rows).table cluster.owner).map (slotOf formats)) ↔
      slot ∈ (Repository.listByOwner rows cluster.owner).map Cluster.slot := by
    intro slot
    simp [ownerRows_encode, slotOf_textRow]
  have held : (ownerRows (encode formats rows).table cluster.owner).length =
      (Repository.listByOwner rows cluster.owner).length := by
    rw [ownerRows_encode, List.length_map]
  rcases tryInsertIfUnderQuota_clean fresh with ⟨count, full, clean⟩ | ⟨slot, room, least, clean⟩
  · rw [clean] at either
    refine ⟨?_, ?_, ?_, ⟨_, congrArg Prod.fst clean⟩⟩ <;> intro result reported <;>
      rcases either with same | ⟨error, same, known⟩ <;> rw [same] at reported ⊢ <;> cases reported
    · exact ⟨held ▸ full, rfl⟩
    · exact ⟨known, rfl⟩
  · rw [clean] at either
    refine ⟨?_, ?_, ?_, ⟨_, congrArg Prod.fst clean⟩⟩ <;> intro result reported <;>
      rcases either with same | ⟨error, same, known⟩ <;> rw [same] at reported ⊢ <;> cases reported
    · obtain ⟨-, free, lowest⟩ := Repository.leastFreeSlot_eq_some.mp least
      refine ⟨held ▸ room, fun taken => free ((used _).mp taken), fun lower below => (used _).mpr (lowest lower below), ?_⟩
      simp only [encode, List.map_append, List.map_singleton, textRow_stored]
    · exact ⟨known, rfl⟩

theorem rewrite_errorsChangeNothing {rows : Rows} {faults : Faults} {id : ClusterId}
    {change : PersistedCluster → PersistedCluster} (live : Cluster → Cluster)
    (simulates : ∀ row, change (toPersisted row) = toPersisted (live row))
    (named : ∀ row, (live row).id = row.id ∧ (live row).owner = row.owner) (distinct : Distinct Cluster.id rows) :
    ErrorsChangeNothing (encode formats rows) (rewrite formats (encode formats rows) faults id change) := by
  refine (rewrite_failsClean (encode_poisoned formats rows) faults id change).errorsChangeNothing ?_
  intro error reported
  rw [rewrite_encode rows id simulates named distinct] at reported ⊢
  cases done : Repository.modify rows id live with
  | error error => rfl
  | ok next => simp [done] at reported

/-- The store keeps quota and slots over every run of calls, and every insert meets its contract. -/
theorem quota_and_slots (formats : Formats) {limit : UInt32} {store : Store}
    (reached : Reachable formats limit store) :
    (∀ owner, OwnerSlotted formats limit store.table owner) ∧
      (∀ cluster faults, Fresh formats store.table cluster.id →
        InsertMeets formats limit store faults cluster) ∧
      (∀ faults id state, ErrorsChangeNothing store (updateState formats store faults id state)) ∧
      (∀ faults id worker, ErrorsChangeNothing store (setWorker formats store faults id worker)) ∧
      ∀ faults id, ErrorsChangeNothing store (delete formats store faults id) := by
  obtain ⟨rows, rfl, slotted⟩ := reached.encodes
  refine ⟨fun owner => ⟨?_, (Repository.listByOwner rows owner).map Cluster.slot, ?_, ?_, ?_⟩, ?_, ?_, ?_, ?_⟩
  · rw [ownerRows_encode, List.length_map]
    exact slotted.quota owner
  · simp [ownerRows_encode, slotOf_textRow]
  · exact slotted.owner_slots_nodup owner
  · intro slot used
    obtain ⟨row, owned, rfl⟩ := List.mem_map.mp used
    exact slotted.bounded row (List.mem_filter.mp owned).1
  · exact fun cluster faults fresh => insertMeets cluster (fresh_encode.mp fresh) faults
  · exact fun faults id state => rewrite_errorsChangeNothing (fun row => { row with state := state })
      (fun _ => rfl) (fun _ => ⟨rfl, rfl⟩) slotted.ids
  · exact fun faults id worker => rewrite_errorsChangeNothing (fun row => { row with worker := some worker })
      (fun _ => rfl) (fun _ => ⟨rfl, rfl⟩) slotted.ids
  · intro faults id
    refine (delete_failsClean (encode_poisoned formats rows) faults id).errorsChangeNothing fun error reported => ?_
    rw [delete_encode] at reported
    cases reported

def sampleCluster (id : Nat) (owner : String) : Cluster :=
  ⟨⟨id⟩, ⟨owner⟩, ⟨.postgres, false⟩, .zero, .epoch, .spawning .epoch, none, 7⟩

/-- A store after inserts under a limit of two. -/
def insertAll (store : Store) (clusters : List Cluster) : Store :=
  clusters.foldl (fun store cluster => (tryInsertIfUnderQuota sampleFormats store .none cluster 2).2) store

/-- Two clusters of one owner and one of another, the first of them deleted again. -/
def oneDeleted : Store :=
  (delete sampleFormats (insertAll .empty [sampleCluster 0 "alice", sampleCluster 1 "alice", sampleCluster 2 "bob"])
    .none ⟨0⟩).2

theorem oneDeleted_reached : Reachable sampleFormats 2 oneDeleted := by
  refine .delete .none ⟨0⟩ (.tryInsert .none _ (.tryInsert .none _ (.tryInsert .none _ .empty ?_) ?_) ?_)
  all_goals
    unfold Fresh
    decide +kernel

/-- The deleted row's slot is the next one that its owner gets, and the other owner's stays. -/
theorem quota_and_slots_reused : InsertMeets sampleFormats 2 oneDeleted .none (sampleCluster 3 "alice") ∧
    (tryInsertIfUnderQuota sampleFormats oneDeleted .none (sampleCluster 3 "alice") 2).1 = .ok (.inserted 0) ∧
    (∀ owner, OwnerSlotted sampleFormats 2
      (tryInsertIfUnderQuota sampleFormats oneDeleted .none (sampleCluster 3 "alice") 2).2.table owner) := by
  have fresh : Fresh sampleFormats oneDeleted.table ⟨3⟩ := by
    unfold Fresh
    decide +kernel
  have again : Reachable sampleFormats 2
      (tryInsertIfUnderQuota sampleFormats oneDeleted .none (sampleCluster 3 "alice") 2).2 :=
    .tryInsert .none _ oneDeleted_reached fresh
  refine ⟨(quota_and_slots sampleFormats oneDeleted_reached).2.1 _ _ fresh, ?_, (quota_and_slots sampleFormats again).1⟩
  decide +kernel

end Sqlite

end AppSalmon
