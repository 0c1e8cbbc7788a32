import AppSalmon.Adapters.StoredRows

/-! The store that the tests of services and handlers run on, beside the one of production.

A `HashMap` is the list of its values, one for each identifier; the order in
which it is walked is left open.
-/

set_option autoImplicit false

namespace AppSalmon.InMemory

open KeyedTable
open Repository (Rows InsertOutcome)

/-- How a map of rows is walked: in some order. -/
structure Walk where
  values : Rows → Rows
  perm : ∀ rows, (values rows).Perm rows

/-- `HashMap::insert`, which puts a value in the place of an earlier one with its key. -/
def insert (rows : Rows) (row : Cluster) : Rows :=
  match Repository.getAny rows row.id with
  | some _ => update Cluster.id rows row.id fun _ => row
  | none => rows ++ [row]

/-- `rows.get_mut(id)`, where there is such a row. -/
def modify (id : ClusterId) (change : Cluster → Cluster) (rows : Rows) : Except RepositoryError Unit × Rows :=
  match Repository.getAny rows id with
  | some _ => (.ok (), update Cluster.id rows id change)
  | none => (.ok (), rows)

variable (walk : Walk)

def ownersRows (rows : Rows) (owner : ClientId) : List Cluster :=
  (walk.values rows).filter fun row => row.owner = owner

theorem room_left {walk : Walk} {rows : Rows} {owner : ClientId} {limit : UInt32}
    (below : ¬ limit ≤ Repository.countU32 (ownersRows walk rows owner).length) :
    (Repository.leastFreeSlot limit ((ownersRows walk rows owner).map Cluster.slot)).isSome = true := by
  have fewer : ((ownersRows walk rows owner).map Cluster.slot).length < limit.toNat := by
    rw [List.length_map, ← Nat.not_le]
    exact mt Repository.le_countU32.mpr below
  obtain ⟨slot, free⟩ := Repository.leastFreeSlot_isSome fewer
  rw [free]
  rfl

/-- The slot that the source expects to be there always is. -/
def tryInsertIfUnderQuota (cluster : Cluster) (limit : UInt32) (rows : Rows) :
    Except RepositoryError InsertOutcome × Rows :=
  let currentCount := Repository.countU32 (ownersRows walk rows cluster.owner).length
  if full : limit ≤ currentCount then (.ok (.quotaExceeded currentCount), rows)
  else
    let slot := (Repository.leastFreeSlot limit ((ownersRows walk rows cluster.owner).map Cluster.slot)).get
      (room_left full)
    (.ok (.inserted slot), insert rows { cluster with slot := slot })

def repository : ClusterRepository Rows where
  tryInsertIfUnderQuota := tryInsertIfUnderQuota walk
  getOwned := fun id owner rows => (.ok ((Repository.getAny rows id).filter fun row => row.owner = owner), rows)
  getAny := fun id rows => (.ok (Repository.getAny rows id), rows)
  listByOwner := fun owner rows => (.ok (ownersRows walk rows owner), rows)
  listAll := fun rows => (.ok (walk.values rows), rows)
  updateState := fun id state => modify id fun row => { row with state := state }
  setWorker := fun id worker => modify id fun row => { row with worker := some worker }
  delete := fun id rows => (.ok (), remove Cluster.id rows id)

/-! ## Beside the plain table -/

/-- The same answer, where the order of a list says nothing. -/
def Same : Reply → Reply → Prop
  | .rows (.ok first), .rows (.ok second) => first.Perm second
  | first, second => first = second

theorem Same.refl (reply : Reply) : Same reply reply := by
  cases reply with
  | insert | row | done => rfl
  | rows result =>
    cases result with
    | ok rows => exact List.Perm.refl rows
    | error error => rfl

/-- A rewrite names a row that is there, and an insert that is not refused one that is not. -/
def Meets (rows : Rows) : Call → Prop
  | .updateState id _ | .setWorker id _ => ∃ row, Repository.getAny rows id = some row
  | .tryInsertIfUnderQuota cluster limit =>
    limit.toNat ≤ (Repository.listByOwner rows cluster.owner).length ∨ Repository.getAny rows cluster.id = none
  | .getOwned .. | .getAny _ | .listByOwner _ | .listAll | .delete _ => True

/-- An insert asks for whole seconds. -/
def WholeSeconds : Call → Prop
  | .tryInsertIfUnderQuota cluster _ => cluster.requestedTtl.WholeSeconds
  | _ => True

variable {walk} {rows : Rows}

theorem ownersRows_perm (walk : Walk) (rows : Rows) (owner : ClientId) :
    (ownersRows walk rows owner).Perm (Repository.listByOwner rows owner) :=
  (walk.perm rows).filter _

theorem stored_of_wholeSeconds {cluster : Cluster} (whole : cluster.requestedTtl.WholeSeconds) :
    Repository.stored cluster = cluster := by
  rw [Repository.stored, TimeDelta.truncated_of_wholeSeconds whole]

/-- Where a rewrite names a row, both rewrite it. -/
theorem modify_agrees {id : ClusterId} {change : Cluster → Cluster} {row : Cluster}
    (found : Repository.getAny rows id = some row) :
    modify id change rows = Repository.written rows (Repository.modify rows id change) := by
  rw [modify, Repository.modify, found]
  rfl

/-- Where it names none, only one of them says so. -/
theorem modify_differs {id : ClusterId} {change : Cluster → Cluster} (missing : Repository.getAny rows id = none) :
    (modify id change rows).1 ≠ (Repository.written rows (Repository.modify rows id change)).1 := by
  rw [modify, Repository.modify, missing]
  simp [Repository.written]

theorem getOwned_agrees (distinct : Distinct Cluster.id rows) (id : ClusterId) (owner : ClientId) :
    Repository.getOwned rows id owner = (Repository.getAny rows id).filter fun row => row.owner = owner := by
  apply Option.ext
  intro row
  rw [Repository.getOwned_eq_some distinct, Option.filter_eq_some_iff, decide_eq_true_eq]

/-- Under quota the slot is the least one that no row of the owner has, in whatever order they are walked. -/
theorem tryInsert_under (walk : Walk) {cluster : Cluster} {limit : UInt32}
    (under : ¬ limit.toNat ≤ (Repository.listByOwner rows cluster.owner).length) :
    ∃ slot, Repository.leastFreeSlot limit ((Repository.listByOwner rows cluster.owner).map Cluster.slot) = some slot ∧
      tryInsertIfUnderQuota walk cluster limit rows =
        (.ok (.inserted slot), insert rows { cluster with slot := slot }) := by
  have perm := ownersRows_perm walk rows cluster.owner
  have below : ¬ limit ≤ Repository.countU32 (ownersRows walk rows cluster.owner).length := by
    rw [Repository.le_countU32, perm.length_eq]
    exact under
  have same : Repository.leastFreeSlot limit ((ownersRows walk rows cluster.owner).map Cluster.slot) =
      Repository.leastFreeSlot limit ((Repository.listByOwner rows cluster.owner).map Cluster.slot) := by
    apply Repository.leastFreeSlot_congr
    intro slot
    exact (perm.map Cluster.slot).mem_iff
  obtain ⟨slot, free⟩ := Option.isSome_iff_exists.mp (room_left below)
  refine ⟨slot, same.symm.trans free, ?_⟩
  have taken : (Repository.leastFreeSlot limit ((ownersRows walk rows cluster.owner).map Cluster.slot)).get
      (room_left below) = slot := Option.get_of_eq_some _ free
  simp only [tryInsertIfUnderQuota, below, dif_neg, not_false_eq_true, taken]

theorem tryInsert_full (walk : Walk) {cluster : Cluster} {limit : UInt32}
    (full : limit.toNat ≤ (Repository.listByOwner rows cluster.owner).length) :
    tryInsertIfUnderQuota walk cluster limit rows =
      Repository.inserted rows (Repository.tryInsertIfUnderQuota rows cluster limit) := by
  have refused := Repository.le_countU32.mpr full
  have perm := ownersRows_perm walk rows cluster.owner
  simp only [tryInsertIfUnderQuota, Repository.tryInsertIfUnderQuota, perm.length_eq, refused, if_true, dif_pos,
    Repository.inserted]

/-- One call that meets what both rely on: the same answer and the same rows. -/
theorem call_agrees (walk : Walk) (distinct : Distinct Cluster.id rows) {call : Call} (whole : WholeSeconds call)
    (meets : Meets rows call) :
    Same (Repository.plain.call rows call).1 ((repository walk).call rows call).1 ∧
      (Repository.plain.call rows call).2 = ((repository walk).call rows call).2 := by
  cases call with
  | getOwned id owner =>
    constructor
    · exact congrArg (fun row => Reply.row (.ok row)) (getOwned_agrees distinct id owner)
    · rfl
  | getAny id => exact ⟨Same.refl _, rfl⟩
  | listByOwner owner => exact ⟨(ownersRows_perm walk rows owner).symm, rfl⟩
  | listAll => exact ⟨(walk.perm rows).symm, rfl⟩
  | delete id => exact ⟨Same.refl _, rfl⟩
  | updateState id state =>
    obtain ⟨row, found⟩ := meets
    simp only [ClusterRepository.call, ClusterRepository.answered, repository, Repository.plain,
      Repository.updateState, modify_agrees found]
    exact ⟨Same.refl _, trivial⟩
  | setWorker id worker =>
    obtain ⟨row, found⟩ := meets
    simp only [ClusterRepository.call, ClusterRepository.answered, repository, Repository.plain,
      Repository.setWorker, modify_agrees found]
    exact ⟨Same.refl _, trivial⟩
  | tryInsertIfUnderQuota cluster limit =>
    simp only [ClusterRepository.call, ClusterRepository.answered, repository, Repository.plain]
    by_cases full : limit.toNat ≤ (Repository.listByOwner rows cluster.owner).length
    · rw [tryInsert_full walk full]
      exact ⟨Same.refl _, rfl⟩
    · have missing := meets.resolve_left full
      obtain ⟨slot, free, made⟩ := tryInsert_under walk full
      have below := mt Repository.le_countU32.mp full
      have kept : Repository.stored { cluster with slot := slot } = { cluster with slot := slot } :=
        stored_of_wholeSeconds whole
      simp only [made, Repository.tryInsertIfUnderQuota, below, if_false, free, missing, Repository.inserted, insert, kept]
      exact ⟨Same.refl _, trivial⟩

/-- One call that does not meet it: one of them fails, the other one does not. -/
theorem call_differs (walk : Walk) {call : Call} (fails : ¬ Meets rows call) :
    ¬ Same (Repository.plain.call rows call).1 ((repository walk).call rows call).1 := by
  cases call with
  | getOwned | getAny | listByOwner | listAll | delete => exact (fails trivial).elim
  | updateState id state =>
    intro same
    cases found : Repository.getAny rows id with
    | some row => exact fails ⟨row, found⟩
    | none => exact modify_differs found (Reply.done.inj same).symm
  | setWorker id worker =>
    intro same
    cases found : Repository.getAny rows id with
    | some row => exact fails ⟨row, found⟩
    | none => exact modify_differs found (Reply.done.inj same).symm
  | tryInsertIfUnderQuota cluster limit =>
    simp only [Meets, not_or] at fails
    obtain ⟨under, present⟩ := fails
    obtain ⟨slot, free, made⟩ := tryInsert_under walk under
    obtain ⟨row, found⟩ := Option.ne_none_iff_exists'.mp present
    have below := mt Repository.le_countU32.mp under
    simp only [ClusterRepository.call, ClusterRepository.answered, repository, Repository.plain, made,
      Repository.tryInsertIfUnderQuota, below, if_false, free, found, Repository.inserted]
    intro same
    cases same

/-! ## Sequences of calls -/

/-- Every call finds what both implementations rely on. -/
def AllMeet : Rows → List Call → Prop
  | _, [] => True
  | rows, call :: rest => Meets rows call ∧ AllMeet (Repository.plain.call rows call).2 rest

/-- The same answer to every call, and at every step a table that reads back as the map's rows. -/
def Alike (formats : Formats) (walk : Walk) : Sqlite.Session → Rows → List Call → Prop
  | session, rows, [] => Sqlite.Stands formats session rows
  | session, rows, call :: rest =>
    Sqlite.Stands formats session rows ∧
      Same ((Sqlite.repository formats).call session call).1 ((repository walk).call rows call).1 ∧
      Alike formats walk ((Sqlite.repository formats).call session call).2 ((repository walk).call rows call).2 rest

variable {formats : Formats} {session : Sqlite.Session}

theorem Alike.stands {calls : List Call} (alike : Alike formats walk session rows calls) :
    Sqlite.Stands formats session rows := by
  cases calls with
  | nil => exact alike
  | cons => exact alike.1

theorem alike_iff {calls : List Call} (whole : ∀ call ∈ calls, WholeSeconds call)
    (stands : Sqlite.Stands formats session rows) : Alike formats walk session rows calls ↔ AllMeet rows calls := by
  induction calls generalizing session rows with
  | nil => exact ⟨fun _ => trivial, fun _ => stands⟩
  | cons call rest ih =>
    obtain ⟨first, others⟩ := List.forall_mem_cons.mp whole
    obtain ⟨answer, next⟩ := (Sqlite.repository_simulates formats).call stands call
    constructor
    · rintro ⟨-, same, later⟩
      rw [answer] at same
      have meets : Meets rows call := by
        by_contra fails
        exact call_differs walk fails same
      refine ⟨meets, ?_⟩
      rw [(call_agrees walk stands.ids first meets).2]
      exact (ih others later.stands).mp later
    · rintro ⟨meets, later⟩
      obtain ⟨same, moved⟩ := call_agrees walk stands.ids first meets
      rw [moved] at later next
      refine ⟨stands, ?_, (ih others next).mpr later⟩
      rw [answer]
      exact same

/-- Started empty, the two implementations agree on a sequence of calls exactly where every rewrite in it names
a row that is there and every insert under quota one that is not. -/
theorem implementations_agree_iff (formats : Formats) (walk : Walk) (calls : List Call)
    (whole : ∀ call ∈ calls, WholeSeconds call) :
    Alike formats walk ⟨.empty, []⟩ [] calls ↔ AllMeet [] calls :=
  alike_iff whole Sqlite.stands_empty

/-- In the order of the list. -/
def asListed : Walk := ⟨fun rows => rows, fun _ => .refl _⟩

/-- A row that is inserted, given its account and removed. -/
theorem implementations_agree_lifetime :
    Alike Sqlite.sampleFormats asListed ⟨.empty, []⟩ []
      [.tryInsertIfUnderQuota Sqlite.sampleRow 1, .setWorker ⟨0⟩ Sqlite.sampleWorker, .listAll, .delete ⟨0⟩] := by
  apply (implementations_agree_iff Sqlite.sampleFormats asListed _ _).mpr
  · exact ⟨.inr rfl, ⟨_, rfl⟩, trivial, trivial, trivial⟩
  · simp [WholeSeconds, Sqlite.sampleRow]
    decide

/-- A rewrite of a row that is not there fails in one implementation and goes through in the other. -/
theorem implementations_disagree :
    ¬ Alike Sqlite.sampleFormats asListed ⟨.empty, []⟩ [] [.updateState ⟨0⟩ (.deleting .epoch .userRequested)] := by
  intro alike
  have same : Reply.done (.error (.db "Query returned no rows")) = Reply.done (.ok ()) := alike.2.1
  cases same

end AppSalmon.InMemory
