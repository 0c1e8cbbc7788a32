import AppSalmon.Service.Directories
import AppSalmon.Service.Exclusivity
import AppSalmon.Service.TeardownOnce

/-! What the next cluster in a directory finds there, and who may still wipe it.

`teardown` deletes the row of a cluster even when the calls before have failed,
so the slot is free again with what the cluster has left in it.
-/

set_option autoImplicit false

namespace AppSalmon

open KeyedTable TaskPool
open Repository (Rows stateOf)
open Duty (Valid Apart)

variable {deps : TaskDeps} {answer : Answer} {shared after : Shared} {task : Task} {left : List Duty} {id : ClusterId}

/-! ## Teardowns of rows that are there -/

/-- The row of a teardown, or of the promise of one, is there. -/
def Duty.Present (shared : Shared) : Duty → Prop
  | .teardown id => id ∈ shared.teardowns ∧ ∃ state, stateOf shared.rows id = some state
  | .pledge id => ∃ state, stateOf shared.rows id = some state
  | .request | .spawn .. | .setWorker _ | .holds .. | .accept _ | .startup | .recover .. | .lost _ => True

def Duty.Single : Duty → Duty → Prop
  | .teardown first, .teardown second => first ≠ second
  | _, _ => True

theorem Duty.Single.symm {first second : Duty} (single : Single first second) : Single second first := by
  cases first <;> cases second <;> first | trivial | exact Ne.symm single

theorem Duty.single_of_other {first second : Duty} (other : ∀ id, first ≠ .teardown id) : Single first second := by
  cases first <;> first | trivial | exact absurd rfl (other _)

theorem Duty.pairwise_single {duties : List Duty} (other : ∀ id, .teardown id ∉ duties) : duties.Pairwise Single := by
  apply List.pairwise_of_forall_mem_list
  intro first member second _
  apply single_of_other
  rintro id rfl
  exact other id member

theorem not_pledge_of_recoveries {todo : List Cluster} : .pledge id ∉ recoveries todo := by
  intro member
  obtain ⟨cluster, -, same⟩ := mem_recoveries.mp member
  cases same

theorem After.not_torn (next : After) : .teardown id ∉ next.duties ∧ .pledge id ∉ next.duties := by
  cases next with
  | done | unregister => exact ⟨List.not_mem_nil, List.not_mem_nil⟩
  | resume todo => exact ⟨not_teardown_of_recoveries, not_pledge_of_recoveries⟩

theorem stateOf_of_updateState {rows next : Rows} {state : ClusterState}
    (written : Repository.updateState rows id state = .ok next) : stateOf next id = some state :=
  (Repository.stateOf_updateState written).trans (if_pos rfl)

/-- A row stays until its teardown deletes it. -/
theorem Effect.stays (effect : Effect deps answer shared after task left) {state : ClusterState}
    (here : stateOf shared.rows id = some state) :
    (∃ later, stateOf after.rows id = some later) ∨
      ∃ cluster next, task = .teardown cluster .delete next ∧ cluster.id = id ∧ left = next.duties := by
  have same (rows : after.rows = shared.rows) : ∃ later, stateOf after.rows id = some later := ⟨state, rows ▸ here⟩
  have written {other : ClusterId} {new : ClusterState}
      (change : stateOf after.rows id = if id = other then some new else stateOf shared.rows id) :
      ∃ later, stateOf after.rows id = some later := by
    rw [change]
    split
    · exact ⟨new, rfl⟩
    · exact ⟨state, here⟩
  cases effect with
  | quiet rows log => exact .inl ⟨state, (stateOf_quiet rows id).trans here⟩
  | inserted rows log => exact .inl (written (Repository.stateOf_insert rows))
  | persisted rows log | marked orphan rows log | failed rows log =>
    exact .inl (written (Repository.stateOf_updateState rows))
  | condemned done rows log => exact .inl (written (Repository.stateOf_updateState rows))
  | @removed cluster next rows log =>
    by_cases mine : id = cluster.id
    · exact .inr ⟨_, _, rfl, mine.symm, rfl⟩
    · rw [rows, Repository.stateOf_delete, if_neg mine]
      exact .inl ⟨state, here⟩
  | turned rows log | checked rows log | read rows log | answered other rows log | followed rows log
  | dispatched rows log | listed rows log | resumed doomed rows log | missed ready rows log => exact .inl (same rows)

/-- The row that one task tears down is not taken away by another. -/
theorem Duty.Present.others {duty : Duty} (present : duty.Present shared) (unused : duty.Unused shared)
    (effect : Effect deps answer shared after task left)
    (own : ∀ duty ∈ task.duties, Valid shared duty ∧ duty.Unused shared ∧ duty.Present shared)
    (single : ∀ mine ∈ task.duties, Single mine duty) : duty.Present after := by
  cases duty with
  | teardown other =>
    obtain ⟨entered, state, here⟩ := present
    refine ⟨effect.teardowns_subset entered, ?_⟩
    rcases effect.stays here with later | ⟨cluster, next, rfl, rfl, -⟩
    · exact later
    · exact absurd rfl (single (.teardown cluster.id) List.mem_cons_self)
  | pledge other =>
    obtain ⟨state, here⟩ := present
    rcases effect.stays here with later | ⟨cluster, next, rfl, rfl, -⟩
    · exact later
    · -- a teardown that was entered is no promise any more
      exact absurd (own (.teardown cluster.id) List.mem_cons_self).2.2.1 unused.1
  | request | spawn | setWorker | holds | accept | startup | recover | lost => trivial

/-- A teardown was under way before, or is entered for a row that is there. -/
theorem Effect.fresh_teardown (effect : Effect deps answer shared after task left)
    (own : ∀ duty ∈ task.duties, Valid shared duty ∧ duty.Unused shared ∧ duty.Present shared)
    (member : .teardown id ∈ left) :
    .teardown id ∈ task.duties ∨
      (after.teardowns = id :: shared.teardowns ∧ ∃ state, stateOf after.rows id = some state) := by
  rcases effect.tears member with kept | ⟨grown, mine, owed, entitles⟩
  · exact .inl kept
  have there : ∃ state, stateOf shared.rows id = some state := by
    cases mine with
    | spawn other believed =>
      cases entitles
      obtain ⟨-, state, here, -⟩ := (own _ owed).1.sound
      exact ⟨state, here⟩
    | pledge other =>
      cases entitles
      exact (own _ owed).2.2
    | recover other listed =>
      cases entitles
      exact ⟨listed, (own _ owed).1.sound⟩
    | request | setWorker | holds | accept | teardown | startup | lost => cases entitles
  obtain ⟨state, here⟩ := there
  rcases effect.stays here with later | ⟨cluster, next, -, -, become⟩
  · exact .inr ⟨grown, later⟩
  · rw [become] at member
    exact absurd member next.not_torn.1

/-- A teardown is promised for a row that was there before, or has just been written. -/
theorem Effect.fresh_pledge (effect : Effect deps answer shared after task left) (member : .pledge id ∈ left) :
    .pledge id ∈ task.duties ∨ ∃ state, stateOf after.rows id = some state := by
  cases effect with
  | quiet rows log fewer => exact .inl (fewer.subset member)
  | turned rows log fewer =>
    rcases List.mem_cons.mp member with same | later
    · cases same
    · cases List.mem_singleton.mp (fewer.subset later)
  | inserted | checked | followed => simp at member
  | persisted | answered => cases member
  | read rows log found owned =>
    simp only [List.mem_cons, reduceCtorEq, false_or] at member
    exact .inl (List.mem_cons_of_mem _ member)
  | @condemned id owner reason caller read state written rows log calm =>
    rcases Duty.of_mem_condemned member with same | same | owed | ⟨-, same⟩
    · cases same
    · cases same
    · exact .inl (List.mem_cons_of_mem _ (List.mem_cons_of_mem _ owed))
    · cases same
      exact .inr ⟨state, stateOf_of_updateState rows⟩
  | dispatched rows log =>
    simp only [List.mem_cons, reduceCtorEq, false_or] at member
    exact .inl (List.mem_cons_of_mem _ (List.mem_cons_of_mem _ member))
  | removed rows log => exact .inl (List.mem_cons_of_mem _ member)
  | listed | failed => exact absurd member not_pledge_of_recoveries
  | marked | resumed | missed =>
    simp only [List.mem_cons, reduceCtorEq, false_or] at member
    exact absurd member not_pledge_of_recoveries

/-- What the acting task becomes tears down, or promises to, only rows that are there. -/
theorem Effect.present (effect : Effect deps answer shared after task left)
    (own : ∀ duty ∈ task.duties, Valid shared duty ∧ duty.Unused shared ∧ duty.Present shared) :
    ∀ fresh ∈ left, fresh.Present after := by
  intro fresh member
  cases fresh with
  | teardown id =>
    rcases effect.fresh_teardown own member with kept | ⟨grown, there⟩
    · obtain ⟨entered, state, here⟩ := (own _ kept).2.2
      refine ⟨effect.teardowns_subset entered, ?_⟩
      rcases effect.stays here with later | ⟨cluster, next, -, -, become⟩
      · exact later
      · rw [become] at member
        exact absurd member next.not_torn.1
    · exact ⟨grown ▸ List.mem_cons_self, there⟩
  | pledge id =>
    rcases effect.fresh_pledge member with kept | there
    · obtain ⟨state, here⟩ := (own _ kept).2.2
      rcases effect.stays here with later | ⟨cluster, next, -, -, become⟩
      · exact later
      · rw [become] at member
        exact absurd member next.not_torn.2
    · exact there
  | request | spawn | setWorker | holds | accept | startup | recover | lost => trivial

/-- No two teardowns of one cluster are under way. -/
theorem Effect.single (effect : Effect deps answer shared after task left) (torn : shared.TornOnce)
    (own : ∀ duty ∈ task.duties, Valid shared duty ∧ duty.Unused shared ∧ duty.Present shared) {duty : Duty}
    (present : duty.Present shared) (single : ∀ mine ∈ task.duties, mine.Single duty) :
    ∀ fresh ∈ left, fresh.Single duty := by
  have claimed : ∀ duty ∈ task.duties, Valid shared duty ∧ duty.Unused shared :=
    fun duty owed => ⟨(own duty owed).1, (own duty owed).2.1⟩
  intro fresh member
  cases fresh with
  | teardown id =>
    rcases effect.fresh_teardown own member with kept | ⟨grown, -⟩
    · exact single _ kept
    · -- the other one was entered before, and none is entered twice
      have once := (effect.tornOnce torn claimed).once
      rw [grown, List.nodup_cons] at once
      cases duty with
      | teardown other =>
        rintro rfl
        exact once.1 present.1
      | request | spawn | setWorker | holds | accept | pledge | startup | recover | lost => trivial
  | request | spawn | setWorker | holds | accept | pledge | startup | recover | lost => trivial

theorem Effect.pairs_single (effect : Effect deps answer shared after task left)
    (single : task.duties.Pairwise Duty.Single) : left.Pairwise Duty.Single := by
  have only {first : Duty} {rest : List Duty} (others : ∀ id, .teardown id ∉ rest) :
      (first :: rest).Pairwise Duty.Single := by
    refine .cons (fun duty member => Duty.Single.symm (Duty.single_of_other ?_)) (Duty.pairwise_single others)
    rintro id rfl
    exact others id member
  cases effect with
  | quiet rows log fewer => exact single.sublist fewer
  | inserted | checked | followed => exact List.pairwise_singleton ..
  | persisted | answered => exact .nil
  | turned rows log fewer =>
    apply only
    intro id member
    cases List.mem_singleton.mp (fewer.subset member)
  | read rows log found owned =>
    apply Duty.pairwise_single
    intro id member
    simp only [List.mem_cons, reduceCtorEq, false_or] at member
    exact not_teardown_of_serving (fun duty inside => Duty.isServing_caller inside) member
  | @condemned id owner reason caller read state written rows log calm =>
    apply Duty.pairwise_single
    intro id member
    rcases Duty.of_mem_condemned member with same | same | owed | ⟨-, same⟩
    · cases same
    · cases same
    · exact not_teardown_of_serving (fun duty inside => Duty.isServing_caller inside) owed
    · cases same
  | dispatched rows log =>
    apply only
    intro id member
    simp only [List.mem_cons, reduceCtorEq, false_or] at member
    exact not_teardown_of_serving (fun duty inside => Duty.isServing_pledges inside) member
  | removed rows log => exact Duty.pairwise_single fun id => (After.not_torn _).1
  | listed | failed => exact Duty.pairwise_single fun id => not_teardown_of_recoveries
  | marked | resumed | missed => exact only fun id => not_teardown_of_recoveries

/-- Where no request answers `StartTeardown` twice, every teardown is that of a row, and the only one. -/
theorem presence : Discipline (fun _ answer shared task => claimsOnce answer shared.rows task = true) Shared.TornOnce
    (fun shared duty => duty.Unused shared ∧ duty.Present shared) (fun first second => first.Disjoint second ∧
      first.Single second) where
  symmetric := fun _ _ beside => ⟨beside.1.symm, beside.2.symm⟩
  still := by
    intro shared after rows log torn
    obtain ⟨torn', unused⟩ := claiming.still rows log torn
    have teardowns : after.teardowns = shared.teardowns := congrArg (·.2.1) log
    refine ⟨torn', fun duty local_ => ⟨unused duty local_.1, ?_⟩⟩
    have present := local_.2
    cases duty <;> simp_all [Duty.Present]
  request := fun shared duty => ⟨⟨trivial, trivial⟩, trivial, trivial⟩
  step := by
    intro deps answer shared after task left effect claims drawn table torn own pairs beside
    have claimed : ∀ duty ∈ task.duties, Valid shared duty ∧ duty.Unused shared :=
      fun duty owed => ⟨(own duty owed).1, (own duty owed).2.1⟩
    obtain ⟨torn', unused, disjoint, others⟩ :=
      claiming.step effect claims drawn table torn claimed pairs (beside.imp And.left)
    refine ⟨torn', fun fresh member => ⟨unused fresh member, effect.present own fresh member⟩,
      disjoint.and (effect.pairs_single (beside.imp And.right)), fun duty valid local_ apart => ?_⟩
    obtain ⟨kept, across⟩ :=
      others duty valid local_.1 fun mine isMine => ⟨(apart mine isMine).1, (apart mine isMine).2.1⟩
    have single : ∀ mine ∈ task.duties, mine.Single duty := fun mine isMine => (apart mine isMine).2.2
    exact ⟨⟨kept, local_.2.others local_.1 effect own single⟩,
      fun fresh member => ⟨across fresh member, effect.single torn own local_.2 single fresh member⟩⟩

/-! ## Runs -/

/-- Restarts hand no account over, and no request answers `StartTeardown` for a row that another has condemned. -/
def reusesOnce (system : System) : Label → Bool
  | .step index answer => (system.tasks[index]?).all fun task => claimsOnce answer system.shared.rows task
  | label => keepsAccounts system label

theorem keepsAccounts_of_reusesOnce {system : System} {label : Label} (permitted : reusesOnce system label = true) :
    WithoutHandover system label := by
  cases label with
  | request | world | step => rfl
  | restart => exact permitted

structure System.Reused (system : System) : Prop where
  separate : system.Separate
  present : system.Disciplined Shared.TornOnce (fun shared duty => duty.Unused shared ∧ duty.Present shared)
    fun first second => first.Disjoint second ∧ first.Single second

theorem boot_present (deps : TaskDeps) {shared : Shared} (table : shared.TableSound) :
    (System.boot deps shared).Disciplined Shared.TornOnce (fun shared duty => duty.Unused shared ∧ duty.Present shared)
      fun first second => first.Disjoint second ∧ first.Single second :=
  boot_disciplined deps table
    (fun shared _ none_yet _ => ⟨by simp [none_yet], by simp [none_yet], by simp [none_yet]⟩)
    fun _ none_yet => ⟨none_yet, trivial⟩

theorem System.Reused.next {system after : System} {label : Label} (reused : system.Reused)
    (permitted : reusesOnce system label = true) (moved : system.next label = some after) : after.Reused := by
  refine ⟨reused.separate.next (keepsAccounts_of_reusesOnce permitted) moved, ?_⟩
  cases label with
  | request request =>
    have allowed : ClaimingOnce system (.request request) := trivial
    exact presence.next reused.present allowed moved
  | world change =>
    have allowed : ClaimingOnce system (.world change) := trivial
    exact presence.next reused.present allowed moved
  | step index answer =>
    have allowed : ClaimingOnce system (.step index answer) := by
      intro task found
      simpa [reusesOnce, found] using permitted
    exact presence.next reused.present allowed moved
  | restart deps =>
    obtain ⟨-, rfl⟩ := next_restart moved
    exact boot_present deps reused.separate.placed.owned.shared

/-- Who has something where a spawn has its directory: the cluster itself, or one that has no row any more. -/
theorem System.Separate.stray {system : System} (separate : system.Separate) (housed : system.Housed)
    {cluster : Cluster} {token : CancellationToken} {projectTar : Option (List UInt8)} {worker : WorkerUser}
    (busy : .spawn cluster token projectTar (.working worker .spawning) ∈ system.tasks) (different : id ≠ cluster.id)
    (has : system.shared.world.Has id (slotDir worker cluster.slot)) :
    system.shared.row? id = none ∧ id ∈ system.shared.stray := by
  have placed := separate.placed.tasks _ busy
  have seat : (Site.seat cluster.id (slotDir worker cluster.slot)).Sound system.deps system.shared :=
    placed _ (by simp [Task.sites, SpawnStage.sites])
  obtain ⟨-, state, there, -⟩ := (separate.placed.owned.each _ busy _ List.mem_cons_self).sound
  obtain ⟨mine, here, -⟩ := Repository.stateOf_eq_some.mp there
  have home : system.deps.Houses mine (slotDir worker cluster.slot) := seat.fits mine here
  cases found : system.shared.row? id with
  | none => exact ⟨rfl, housed.world.gone id _ has found⟩
  | some theirs =>
    -- two rows in one directory are one row
    have away : system.deps.Houses theirs (slotDir worker cluster.slot) := (housed.world.seats id _ has).fits theirs found
    obtain ⟨first, isFirst, named, slot⟩ := Cluster.dir_eq_some.mp home.dir
    obtain ⟨second, isSecond, called, place⟩ := Cluster.dir_eq_some.mp away.dir
    have same := separate.exclusive mine (Repository.getAny_mem here) theirs (Repository.getAny_mem found) first second
      isFirst isSecond (named.trans called.symm) (slot.trans place.symm)
    rw [← Repository.getAny_id here, ← Repository.getAny_id found, same] at different
    exact absurd rfl different

/-! ## Wipes -/

/-- The cluster for which `backend.spawn` is called, and its directory. -/
def Task.spawning : Task → Option (ClusterId × SlotDir)
  | .spawn cluster _ _ (.working worker .spawning) => some (cluster.id, slotDir worker cluster.slot)
  | _ => none

/-- The directory that the task's next step wipes, and the cluster on whose behalf. A command that has timed out
may still be executed. -/
def Task.wiping (answer : Answer) : Task → Option (ClusterId × SlotDir)
  | .teardown cluster .wipe _ =>
    if answer.executor.isNone then cluster.worker.map fun worker => (cluster.id, slotDir worker cluster.slot) else none
  | .late (.wipes cluster worker) => if answer.lands then some (cluster.id, slotDir worker cluster.slot) else none
  | _ => none

theorem Task.wiping_eq_some {dir : SlotDir} (wipes : task.wiping answer = some (id, dir)) :
    ∃ cluster worker, cluster.id = id ∧ slotDir worker cluster.slot = dir ∧
      (task = .late (.wipes cluster worker) ∨ cluster.worker = some worker ∧ ∃ next, task = .teardown cluster .wipe next) := by
  unfold wiping at wipes
  split at wipes
  · next cluster next =>
    split at wipes
    · obtain ⟨worker, has, same⟩ := Option.map_eq_some_iff.mp wipes
      cases same
      exact ⟨cluster, worker, rfl, rfl, .inr ⟨has, next, rfl⟩⟩
    · cases wipes
  · next cluster worker =>
    split at wipes
    · cases wipes
      exact ⟨cluster, worker, rfl, rfl, .inl rfl⟩
    · cases wipes
  · cases wipes

/-- A wipe is for the directory of the row, if the cluster it is for still has one. -/
theorem System.Separate.tenant {system : System} (separate : system.Separate) {row other theirs : Cluster}
    {worker : WorkerUser} (member : row ∈ system.shared.rows) (placed : row.dir = some (slotDir worker other.slot))
    (copy : (Site.copy other).Sound system.deps system.shared)
    (razing : (Site.razing other).Sound system.deps system.shared) (has : other.worker = some worker)
    (here : system.shared.row? other.id = some theirs) : other.id = row.id := by
  have table := separate.placed.owned.shared
  obtain ⟨mine, isMine, named, slot⟩ := Cluster.dir_eq_some.mp placed
  have slots : theirs.slot = row.slot := (copy.fits theirs here).slot.trans slot.symm
  have names : worker.name = mine.name := named.symm
  have one : theirs = row := by
    rcases razing.fits theirs here worker has with kept | account
    · exact separate.exclusive theirs (Repository.getAny_mem here) row member worker mine kept isMine names slots
    · have owner := separate.faithful row member mine isMine theirs.owner worker account names
      exact table.slots.eq_of_mem (Repository.getAny_mem here) member owner slots
  rw [← one]
  exact (Repository.getAny_id here).symm

/-- A directory of a row is wiped for its own cluster, or for one that is gone. -/
theorem System.Separate.gone {system : System} (separate : system.Separate) {row : Cluster} {dir : SlotDir}
    (member : row ∈ system.shared.rows) (placed : row.dir = some dir) (busy : task ∈ system.tasks)
    (wipes : task.wiping answer = some (id, dir)) (different : id ≠ row.id) : system.shared.row? id = none := by
  obtain ⟨cluster, worker, rfl, rfl, asks⟩ := Task.wiping_eq_some wipes
  have sites := separate.placed.tasks _ busy
  cases found : system.shared.row? cluster.id with
  | none => rfl
  | some theirs =>
    refine absurd ?_ different
    rcases asks with rfl | ⟨has, next, rfl⟩
    · have holder : (Site.holder cluster worker).Sound system.deps system.shared :=
        sites _ (by simp [Task.sites, LateEffect.sites])
      exact separate.tenant member placed (sites _ (by simp [Task.sites, LateEffect.sites]))
        (sites _ (by simp [Task.sites, LateEffect.sites])) (holder.fits theirs found) found
    · exact separate.tenant member placed (sites _ (by simp [Task.sites])) (sites _ (by simp [Task.sites])) has found

/-- Where no teardown is entered twice, the row of a teardown that is about to wipe is there. -/
theorem System.Reused.torn {system : System} (reused : system.Reused) {cluster : Cluster} {next : After}
    (busy : .teardown cluster .wipe next ∈ system.tasks) : system.shared.row? cluster.id ≠ none := by
  obtain ⟨-, state, there⟩ := (reused.present.each _ busy (.teardown cluster.id) List.mem_cons_self).2.2
  obtain ⟨row, here, -⟩ := Repository.stateOf_eq_some.mp there
  exact fun missing => Option.some_ne_none row (here.symm.trans missing)

end AppSalmon
