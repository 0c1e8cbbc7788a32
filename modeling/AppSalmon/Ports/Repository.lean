import AppSalmon.Domain.Cluster
import AppSalmon.Library.KeyedTable
import Mathlib.Data.List.Perm.Subperm

/-! Durable storage as the rest of the program sees it.

One value of `Rows` is the whole table. Each operation is what one successful
call does; a call that fails leaves the table as it was.
-/

set_option autoImplicit false

namespace AppSalmon.Repository

open KeyedTable

abbrev Rows := List Cluster

inductive InsertOutcome where
  | inserted (slot : UInt32)
  | quotaExceeded (currentCount : UInt32)
  deriving DecidableEq

def getAny (rows : Rows) (id : ClusterId) : Option Cluster := lookup Cluster.id rows id

def getOwned (rows : Rows) (id : ClusterId) (owner : ClientId) : Option Cluster :=
  rows.find? fun row => row.id = id ∧ row.owner = owner

def listByOwner (rows : Rows) (owner : ClientId) : List Cluster :=
  rows.filter fun row => row.owner = owner

def listAll (rows : Rows) : List Cluster := rows

/-- `u32::try_from(len).unwrap_or(u32::MAX)`. -/
def countU32 (length : Nat) : UInt32 := UInt32.ofNat (min length (2 ^ 32 - 1))

/-- `(0..limit).find(|candidate| !used.contains(candidate))`. -/
def leastFreeSlot (limit : UInt32) (used : List UInt32) : Option UInt32 :=
  ((List.range limit.toNat).map UInt32.ofNat).find? fun candidate => candidate ∉ used

/-- The TTL is stored as a count of whole seconds. -/
def stored (cluster : Cluster) : Cluster :=
  { cluster with requestedTtl := cluster.requestedTtl.truncated }

def tryInsertIfUnderQuota (rows : Rows) (cluster : Cluster) (limit : UInt32) :
    Except RepositoryError (Rows × InsertOutcome) :=
  let existing := listByOwner rows cluster.owner
  let count := countU32 existing.length
  if limit ≤ count then .ok (rows, .quotaExceeded count)
  else match leastFreeSlot limit (existing.map Cluster.slot) with
    | none => .error (.corruptRow "no free directory slot available despite being under quota")
    | some slot =>
      match getAny rows cluster.id with
      | some _ => .error (.db "UNIQUE constraint failed: clusters.id")
      | none => .ok (rows ++ [stored { cluster with slot := slot }], .inserted slot)

/-- A read-modify-write of one row, failing when there is none. -/
def modify (rows : Rows) (id : ClusterId) (change : Cluster → Cluster) : Except RepositoryError Rows :=
  match getAny rows id with
  | none => .error (.db "Query returned no rows")
  | some _ => .ok (update Cluster.id rows id change)

def updateState (rows : Rows) (id : ClusterId) (state : ClusterState) : Except RepositoryError Rows :=
  modify rows id fun row => { row with state := state }

def setWorker (rows : Rows) (id : ClusterId) (worker : WorkerUser) : Except RepositoryError Rows :=
  modify rows id fun row => { row with worker := some worker }

def delete (rows : Rows) (id : ClusterId) : Rows := remove Cluster.id rows id

/-! ## Reading a row back -/

theorem getOwned_eq_some {rows : Rows} {id : ClusterId} {owner : ClientId} {row : Cluster}
    (distinct : Distinct Cluster.id rows) :
    getOwned rows id owner = some row ↔ getAny rows id = some row ∧ row.owner = owner := by
  constructor
  · intro found
    have here : row.id = id ∧ row.owner = owner := by simpa using List.find?_some found
    refine ⟨?_, here.2⟩
    rw [← here.1]
    exact distinct.lookup_of_mem (List.mem_of_find?_eq_some found)
  · rintro ⟨found, owned⟩
    obtain ⟨member, named⟩ := lookup_eq_some found
    obtain ⟨other, there⟩ : ∃ other, getOwned rows id owner = some other := by
      cases missing : getOwned rows id owner with
      | some other => exact ⟨other, rfl⟩
      | none =>
        have none_here := List.find?_eq_none.mp missing row member
        simp [named, owned] at none_here
    have same : other.id = id ∧ other.owner = owner := by simpa using List.find?_some there
    rw [there, distinct.eq_of_mem (List.mem_of_find?_eq_some there) member (same.1.trans named.symm)]

theorem getOwned_id {rows : Rows} {id : ClusterId} {owner : ClientId} {row : Cluster}
    (found : getOwned rows id owner = some row) : row.id = id := by
  have here : row.id = id ∧ row.owner = owner := by simpa using List.find?_some found
  exact here.1

theorem getAny_of_getOwned {rows : Rows} {id : ClusterId} {owner : ClientId} {row : Cluster}
    (distinct : Distinct Cluster.id rows) (found : getOwned rows id owner = some row) :
    getAny rows id = some row := ((getOwned_eq_some distinct).mp found).1

theorem getAny_id {rows : Rows} {id : ClusterId} {row : Cluster} (found : getAny rows id = some row) :
    row.id = id := (lookup_eq_some found).2

theorem getAny_mem {rows : Rows} {id : ClusterId} {row : Cluster} (found : getAny rows id = some row) :
    row ∈ rows := (lookup_eq_some found).1

theorem modify_eq_ok {rows next : Rows} {id : ClusterId} {change : Cluster → Cluster} :
    modify rows id change = .ok next ↔
      (∃ row, getAny rows id = some row) ∧ next = update Cluster.id rows id change := by
  unfold modify
  cases found : getAny rows id with
  | none => simp
  | some row => simp [eq_comm]

/-! ## Slots -/

/-- The saturated count decides the quota exactly. -/
theorem le_countU32 {limit : UInt32} {length : Nat} : limit ≤ countU32 length ↔ limit.toNat ≤ length := by
  have bound := limit.toNat_lt
  rw [UInt32.le_iff_toNat_le, countU32, UInt32.toNat_ofNat_of_lt' (by simp only [UInt32.size]; omega)]
  omega

theorem leastFreeSlot_eq_some {limit slot : UInt32} {used : List UInt32} :
    leastFreeSlot limit used = some slot ↔
      slot < limit ∧ slot ∉ used ∧ ∀ lower < slot, lower ∈ used := by
  have bound := limit.toNat_lt
  rw [leastFreeSlot, List.find?_map, Option.map_eq_some_iff]
  constructor
  · rintro ⟨index, found, rfl⟩
    obtain ⟨free, inRange, least⟩ := List.find?_range_eq_some.mp found
    have small : index < limit.toNat := List.mem_range.mp inRange
    have size : (UInt32.ofNat index).toNat = index :=
      UInt32.toNat_ofNat_of_lt' (by simp only [UInt32.size]; omega)
    refine ⟨?_, by simpa using free, ?_⟩
    · rwa [UInt32.lt_iff_toNat_lt, size]
    · intro lower below
      rw [UInt32.lt_iff_toNat_lt, size] at below
      have taken := least lower.toNat below
      simpa using taken
  · rintro ⟨inRange, free, least⟩
    refine ⟨slot.toNat, List.find?_range_eq_some.mpr ⟨by simpa using free, ?_, ?_⟩, by simp⟩
    · exact List.mem_range.mpr (UInt32.lt_iff_toNat_lt.mp inRange)
    · intro index below
      have taken := least (UInt32.ofNat index) (by
        rw [UInt32.lt_iff_toNat_lt, UInt32.toNat_ofNat_of_lt' (by
          have := slot.toNat_lt
          simp only [UInt32.size]
          omega)]
        exact below)
      simpa using taken

/-- Only which slots are used counts. -/
theorem leastFreeSlot_congr {limit : UInt32} {first second : List UInt32} (same : ∀ slot, slot ∈ first ↔ slot ∈ second) :
    leastFreeSlot limit first = leastFreeSlot limit second := by
  unfold leastFreeSlot
  congr 1
  funext candidate
  rw [decide_eq_decide, same]

/-- Fewer used slots than there are slots: one of them is free. -/
theorem leastFreeSlot_isSome {limit : UInt32} {used : List UInt32} (room : used.length < limit.toNat) :
    ∃ slot, leastFreeSlot limit used = some slot := by
  cases found : leastFreeSlot limit used with
  | some slot => exact ⟨slot, rfl⟩
  | none =>
    exfalso
    have full : ∀ index < limit.toNat, UInt32.ofNat index ∈ used := by
      intro index below
      have taken := List.find?_eq_none.mp found (UInt32.ofNat index)
        (List.mem_map_of_mem (List.mem_range.mpr below))
      simpa using taken
    have contained : (List.range limit.toNat).map UInt32.ofNat ⊆ used := by
      intro slot member
      obtain ⟨index, inRange, rfl⟩ := List.mem_map.mp member
      exact full index (List.mem_range.mp inRange)
    have distinct : ((List.range limit.toNat).map UInt32.ofNat).Nodup := by
      refine List.Nodup.map_on ?_ List.nodup_range
      intro first left second right same
      have bound := limit.toNat_lt
      have small : first < 2 ^ 32 ∧ second < 2 ^ 32 :=
        ⟨by have := List.mem_range.mp left; omega, by have := List.mem_range.mp right; omega⟩
      have equal := congrArg UInt32.toNat same
      rwa [UInt32.toNat_ofNat_of_lt' small.1, UInt32.toNat_ofNat_of_lt' small.2] at equal
    have size := (distinct.subperm contained).length_le
    simp only [List.length_map, List.length_range] at size
    omega

/-- What an insert does when the call itself does not fail. -/
theorem tryInsertIfUnderQuota_cases {rows next : Rows} {cluster : Cluster} {limit : UInt32}
    {outcome : InsertOutcome} (done : tryInsertIfUnderQuota rows cluster limit = .ok (next, outcome)) :
    (limit.toNat ≤ (listByOwner rows cluster.owner).length ∧ next = rows ∧
      outcome = .quotaExceeded (countU32 (listByOwner rows cluster.owner).length)) ∨
    ∃ slot, (listByOwner rows cluster.owner).length < limit.toNat ∧
      leastFreeSlot limit ((listByOwner rows cluster.owner).map Cluster.slot) = some slot ∧
      getAny rows cluster.id = none ∧ outcome = .inserted slot ∧
      next = rows ++ [stored { cluster with slot := slot }] := by
  unfold tryInsertIfUnderQuota at done
  by_cases full : limit ≤ countU32 (listByOwner rows cluster.owner).length
  · simp only [full, if_true, Except.ok.injEq, Prod.mk.injEq] at done
    exact .inl ⟨le_countU32.mp full, done.1.symm, done.2.symm⟩
  · simp only [full, if_false] at done
    rw [le_countU32, Nat.not_le] at full
    cases found : leastFreeSlot limit ((listByOwner rows cluster.owner).map Cluster.slot) with
    | none => simp [found] at done
    | some slot =>
      cases missing : getAny rows cluster.id with
      | some row => simp [found, missing] at done
      | none =>
        simp only [found, missing, Except.ok.injEq, Prod.mk.injEq] at done
        exact .inr ⟨slot, full, rfl, rfl, done.2.symm, done.1.symm⟩

/-! ## Reading after writing -/

theorem getAny_modify {rows next : Rows} {id other : ClusterId} {change : Cluster → Cluster}
    (kept : ∀ row, (change row).id = row.id) (done : modify rows id change = .ok next) :
    getAny next other = if other = id then (getAny rows id).map change else getAny rows other := by
  obtain ⟨-, rfl⟩ := modify_eq_ok.mp done
  exact lookup_update kept

/-- A rewrite makes no row, and changes only the one it names. -/
theorem getAny_of_modify {rows next : Rows} {id other : ClusterId} {change : Cluster → Cluster} {later : Cluster}
    (done : modify rows id change = .ok next) (named : ∀ row, (change row).id = row.id)
    (found : getAny next other = some later) :
    ∃ before, getAny rows other = some before ∧ (later = before ∨ other = id ∧ later = change before) := by
  rw [getAny_modify named done] at found
  split at found
  · next here =>
    obtain ⟨before, there, rfl⟩ := Option.map_eq_some_iff.mp found
    exact ⟨before, here ▸ there, .inr ⟨here, rfl⟩⟩
  · exact ⟨later, found, .inl rfl⟩

theorem getAny_updateState {rows next : Rows} {id other : ClusterId} {state : ClusterState}
    (done : updateState rows id state = .ok next) :
    getAny next other =
      if other = id then (getAny rows id).map fun row => { row with state := state } else getAny rows other :=
  getAny_modify (fun _ => rfl) done

theorem getAny_setWorker {rows next : Rows} {id other : ClusterId} {worker : WorkerUser}
    (done : setWorker rows id worker = .ok next) :
    getAny next other =
      if other = id then (getAny rows id).map fun row => { row with worker := some worker }
      else getAny rows other :=
  getAny_modify (fun _ => rfl) done

theorem getAny_delete (rows : Rows) (id other : ClusterId) :
    getAny (delete rows id) other = if other = id then none else getAny rows other := lookup_remove

theorem getAny_insert {rows next : Rows} {cluster : Cluster} {limit slot : UInt32} {other : ClusterId}
    (done : tryInsertIfUnderQuota rows cluster limit = .ok (next, .inserted slot)) :
    getAny next other =
      if other = cluster.id then some (stored { cluster with slot := slot }) else getAny rows other := by
  rcases tryInsertIfUnderQuota_cases done with ⟨-, -, refused⟩ | ⟨chosen, -, -, missing, same, rfl⟩
  · cases refused
  · cases same
    rw [getAny, lookup_append_row]
    by_cases asked : other = cluster.id
    · rw [asked, ← getAny, missing]
      simp [stored]
    · simp [stored, asked, Ne.symm asked, getAny]

/-- The state the row is stored in. -/
def stateOf (rows : Rows) (id : ClusterId) : Option ClusterState := (getAny rows id).map Cluster.state

theorem stateOf_eq_some {rows : Rows} {id : ClusterId} {state : ClusterState} :
    stateOf rows id = some state ↔ ∃ row, getAny rows id = some row ∧ row.state = state := by
  simp [stateOf, Option.map_eq_some_iff]

theorem stateOf_eq_none {rows : Rows} {id : ClusterId} : stateOf rows id = none ↔ getAny rows id = none := by
  simp [stateOf]

theorem stateOf_updateState {rows next : Rows} {id other : ClusterId} {state : ClusterState}
    (done : updateState rows id state = .ok next) :
    stateOf next other = if other = id then some state else stateOf rows other := by
  obtain ⟨⟨row, found⟩, -⟩ := modify_eq_ok.mp done
  rw [stateOf, getAny_updateState done]
  by_cases asked : other = id
  · simp [asked, found]
  · simp [asked, stateOf]

theorem stateOf_setWorker {rows next : Rows} {id other : ClusterId} {worker : WorkerUser}
    (done : setWorker rows id worker = .ok next) : stateOf next other = stateOf rows other := by
  rw [stateOf, getAny_setWorker done]
  by_cases asked : other = id
  · simp [asked, stateOf, Option.map_map, Function.comp_def]
  · simp [asked, stateOf]

theorem stateOf_delete (rows : Rows) (id other : ClusterId) :
    stateOf (delete rows id) other = if other = id then none else stateOf rows other := by
  rw [stateOf, getAny_delete]
  by_cases asked : other = id
  · simp [asked]
  · simp [asked, stateOf]

theorem stateOf_insert {rows next : Rows} {cluster : Cluster} {limit slot : UInt32} {other : ClusterId}
    (done : tryInsertIfUnderQuota rows cluster limit = .ok (next, .inserted slot)) :
    stateOf next other = if other = cluster.id then some cluster.state else stateOf rows other := by
  rw [stateOf, getAny_insert done]
  by_cases asked : other = cluster.id
  · simp [asked, stored]
  · simp [asked, stateOf]

/-! ## Distinct slots -/

/-- Rows of one owner use different slots. -/
def SlotsDistinct (rows : Rows) : Prop := Distinct (fun row => (row.owner, row.slot)) rows

theorem SlotsDistinct.eq_of_mem {rows : Rows} (distinct : SlotsDistinct rows) {first second : Cluster}
    (left : first ∈ rows) (right : second ∈ rows) (owner : first.owner = second.owner)
    (slot : first.slot = second.slot) : first = second :=
  Distinct.eq_of_mem distinct left right (by rw [owner, slot])

theorem SlotsDistinct.insert {rows next : Rows} {cluster : Cluster} {limit : UInt32} {outcome : InsertOutcome}
    (distinct : SlotsDistinct rows)
    (done : tryInsertIfUnderQuota rows cluster limit = .ok (next, outcome)) : SlotsDistinct next := by
  rcases tryInsertIfUnderQuota_cases done with ⟨-, rfl, -⟩ | ⟨slot, -, least, -, -, rfl⟩
  · exact distinct
  · refine Distinct.append_row distinct (lookup_eq_none.mpr fun row member same => ?_)
    obtain ⟨owned, reused⟩ := Prod.mk.inj same
    refine (leastFreeSlot_eq_some.mp least).2.1 (List.mem_map.mpr ⟨row, ?_, reused⟩)
    exact List.mem_filter.mpr ⟨member, by simpa [stored] using owned⟩

/-- A rewrite that keeps owners and slots keeps them distinct. -/
theorem SlotsDistinct.modify {rows next : Rows} {id : ClusterId} {change : Cluster → Cluster}
    (distinct : SlotsDistinct rows) (kept : ∀ row, (change row).owner = row.owner ∧ (change row).slot = row.slot)
    (done : Repository.modify rows id change = .ok next) : SlotsDistinct next := by
  obtain ⟨-, rfl⟩ := modify_eq_ok.mp done
  rw [SlotsDistinct, Distinct, map_update fun row _ => by rw [(kept row).1, (kept row).2]]
  exact distinct

theorem SlotsDistinct.delete {rows : Rows} {id : ClusterId} (distinct : SlotsDistinct rows) :
    SlotsDistinct (Repository.delete rows id) := Distinct.sublist distinct remove_sublist

end AppSalmon.Repository
