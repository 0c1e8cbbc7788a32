import AppSalmon.Service.Ownership
import AppSalmon.Http.ClusterInfo

/-! Whether a row that is being deleted stays so until it is gone.

`update_state` writes whatever it is given. A row's deletion survives exactly
where no such write meets it: the spawn's outcome, and the deletion of a
request that has read the row before it was deleted.
-/

set_option autoImplicit false

namespace AppSalmon

open KeyedTable TaskPool
open Repository (Rows stateOf)
open Duty (Valid Apart)

/-- The step writes nothing over a row that is being deleted, unless it writes the same again. -/
def keepsDeletion (answer : Answer) (rows : Rows) : Task → Bool
  | .spawn cluster _ _ (.persisting _ result) =>
    answer.repository.isSome || (SpawnTask.outcomeEvent answer.now cluster.requestedTtl result).isNone ||
      !(stateOf rows cluster.id).any ClusterState.isDeleting
  | .requestDelete _ _ reason _ (some read) =>
    match stateOf rows read.id with
    | some (.deleting since why) =>
      answer.repository.isSome || read.state.isDeleting || (since = answer.now && why = reason)
    | _ => true
  | _ => true

/-- A request that has read a deletion still finds the same one, if it finds the row. -/
def Duty.Remembers (shared : Shared) : Duty → Prop
  | .holds id read => read.isDeleting = true → ∀ state, stateOf shared.rows id = some state → state = read
  | _ => True

variable {deps : TaskDeps} {answer : Answer} {shared after : Shared} {task : Task} {left : List Duty}

/-! ## One step -/

/-- A step that keeps deletions leaves a row that is being deleted as it is, or removes it. -/
theorem Effect.deletion (effect : Effect deps answer shared after task left)
    (keeps : keepsDeletion answer shared.rows task = true) (drawn : task.draws answer shared = true)
    (table : shared.TableSound) (own : ∀ duty ∈ task.duties, Valid shared duty ∧ duty.Remembers shared)
    {id : ClusterId} {state : ClusterState} (doomed : state.isDeleting = true)
    (found : stateOf shared.rows id = some state) :
    stateOf after.rows id = some state ∨ stateOf after.rows id = none := by
  cases effect with
  | quiet rows log => exact .inl (by rw [stateOf_quiet rows, found])
  | inserted rows log =>
    refine .inl ?_
    rw [Repository.stateOf_insert rows, if_neg, found]
    rintro rfl
    simp only [Task.draws, decide_eq_true_eq] at drawn
    exact drawn (table.stateOf_born found)
  | @persisted cluster token projectTar current written result rows log settled calm made =>
    refine .inl ?_
    rw [Repository.stateOf_updateState rows, if_neg, found]
    rintro rfl
    simp [keepsDeletion, calm, made, found, doomed] at keeps
  | @condemned other owner reason caller read state' written rows log calm =>
    refine .inl ?_
    rw [Repository.stateOf_updateState rows]
    by_cases here : id = read.id
    · subst here
      rw [if_pos rfl, written]
      obtain ⟨since, why, rfl⟩ := ClusterState.isDeleting_iff.mp doomed
      by_cases remembered : read.state.isDeleting = true
      · have held := (own (.holds read.id read.state) (by simp [Task.duties])).2
        rw [if_pos remembered, held remembered _ found]
      · simp only [keepsDeletion, found, calm, remembered, Option.isSome_none, Bool.false_or, Bool.and_eq_true,
          decide_eq_true_eq] at keeps
        rw [if_neg remembered, keeps.1, keeps.2]
    · rw [if_neg here, found]
  | @removed cluster next rows log =>
    rw [rows, Repository.stateOf_delete]
    by_cases here : id = cluster.id
    · exact .inr (if_pos here)
    · exact .inl (by rw [if_neg here, found])
  | @marked cluster todo orphan rows log =>
    refine .inl ?_
    rw [Repository.stateOf_updateState rows, if_neg, found]
    rintro rfl
    have listed := (own _ List.mem_cons_self).1.sound
    rw [Duty.Sound, found, Option.some.injEq] at listed
    rw [← listed, (ClusterState.calm_of_isDeleting doomed).2] at orphan
    cases orphan
  | @failed cluster todo rows log =>
    refine .inl ?_
    rw [Repository.stateOf_updateState rows, if_neg, found]
    rintro rfl
    obtain ⟨ready, here, settled⟩ := (own _ List.mem_cons_self).1.sound
    rw [found, Option.some.injEq] at here
    rw [← here, (ClusterState.calm_of_isDeleting doomed).1] at settled
    cases settled
  | turned rows | checked rows | read rows | answered other rows | followed rows | dispatched rows | listed rows
  | resumed doomed rows | missed ready rows => exact .inl (by rw [rows, found])

theorem Duty.Remembers.step {duty : Duty} (remembers : duty.Remembers shared) (valid : Valid shared duty)
    (effect : Effect deps answer shared after task left) (keeps : keepsDeletion answer shared.rows task = true)
    (drawn : task.draws answer shared = true) (table : shared.TableSound)
    (own : ∀ duty ∈ task.duties, Valid shared duty ∧ duty.Remembers shared) : duty.Remembers after := by
  cases duty with
  | holds id read =>
    intro doomed state here
    cases found : stateOf shared.rows id with
    | none =>
      have missing := effect.gone drawn (valid.known id rfl) (Repository.stateOf_eq_none.mp found)
      rw [Repository.stateOf_eq_none.mpr missing] at here
      cases here
    | some before =>
      obtain rfl : before = read := remembers doomed before found
      rcases effect.deletion keeps drawn table own doomed found with same | missing
      · exact Option.some.inj (here.symm.trans same)
      · rw [missing] at here
        cases here
  | request | spawn | setWorker | accept | pledge | teardown | startup | recover | lost => trivial

theorem remembering : Discipline (fun _ answer shared task => keepsDeletion answer shared.rows task = true)
    (fun _ => True) (fun shared duty => duty.Remembers shared) (fun _ _ => True) where
  symmetric := fun _ _ _ => trivial
  still := fun rows _ _ => ⟨trivial, fun duty remembers => by
    cases duty <;> simp_all [Duty.Remembers]⟩
  request := fun _ _ => ⟨trivial, trivial⟩
  step := by
    intro deps answer shared after task left effect keeps drawn table _ own _ _
    refine ⟨trivial, fun fresh member => ?_, List.pairwise_of_forall fun _ _ => trivial, fun duty valid remembers _ =>
      ⟨remembers.step valid effect keeps drawn table own, fun _ _ => trivial⟩⟩
    cases fresh with
    | holds id read =>
      rcases effect.holds member with held | ⟨rows, found⟩
      · exact (own _ held).2.step (own _ held).1 effect keeps drawn table own
      · intro _ state here
        rw [rows, found, Option.some.injEq] at here
        exact here.symm
    | request | spawn | setWorker | accept | pledge | teardown | startup | recover | lost => trivial

/-! ## Whole runs -/

/-- What a table keeps of an earlier one. -/
structure Later (earlier later : Shared) : Prop where
  born : ∀ id ∈ earlier.born, id ∈ later.born
  kept : ∀ id row, id ∈ earlier.born → later.row? id = some row →
    ∃ before, earlier.row? id = some before ∧ row.owner = before.owner
  deleting : ∀ id state, state.isDeleting = true → stateOf earlier.rows id = some state →
    stateOf later.rows id = some state ∨ stateOf later.rows id = none

theorem Later.refl (shared : Shared) : Later shared shared :=
  ⟨fun _ known => known, fun _ row _ found => ⟨row, found, rfl⟩, fun _ _ _ found => .inl found⟩

theorem Later.of_rows {earlier later : Shared} (rows : later.rows = earlier.rows) (born : later.born = earlier.born) :
    Later earlier later :=
  ⟨fun _ known => born ▸ known, fun id row _ found => ⟨row, by rw [← found, Shared.row?, Shared.row?, rows], rfl⟩,
    fun _ _ _ found => .inl (rows ▸ found)⟩

theorem Later.gone {earlier later : Shared} (order : Later earlier later) {id : ClusterId} (known : id ∈ earlier.born)
    (missing : stateOf earlier.rows id = none) : stateOf later.rows id = none := by
  rw [Repository.stateOf_eq_none] at missing ⊢
  cases found : Repository.getAny later.rows id with
  | none => rfl
  | some row =>
    obtain ⟨before, here, -⟩ := order.kept id row known found
    rw [Shared.row?, missing] at here
    cases here

theorem Later.trans {first second third : Shared} (table : first.TableSound) (early : Later first second)
    (late : Later second third) : Later first third := by
  refine ⟨fun id known => late.born id (early.born id known), fun id row known found => ?_,
    fun id state doomed found => ?_⟩
  · obtain ⟨middle, here, owned⟩ := late.kept id row (early.born id known) found
    obtain ⟨before, there, same⟩ := early.kept id middle known here
    exact ⟨before, there, owned.trans same⟩
  · rcases early.deleting id state doomed found with same | missing
    · exact late.deleting id state doomed same
    · exact .inr (late.gone (early.born id (table.stateOf_born found)) missing)

/-- The steps of one lifetime that keep deletions. -/
abbrev KeepingDeletion : System → Label → Prop :=
  Permits fun _ answer shared task => keepsDeletion answer shared.rows task = true

theorem later_of_next {earlier later : System} {label : Label}
    (holds : earlier.Disciplined (fun _ => True) (fun shared duty => duty.Remembers shared) fun _ _ => True)
    (permitted : KeepingDeletion earlier label) (moved : earlier.next label = some later) :
    Later earlier.shared later.shared := by
  cases label with
  | request request =>
    obtain ⟨-, rfl⟩ := next_request moved
    exact .refl _
  | world change =>
    obtain ⟨world, -, rfl⟩ := next_world moved
    exact .of_rows rfl rfl
  | restart deps => exact permitted.elim
  | step index answer =>
    obtain ⟨task, found, draws, effect, rfl⟩ := holds.owned.effect moved
    have own := (holds.own found).1
    refine ⟨fun id => effect.born_subset, fun id row known here => ?_, fun id state doomed here =>
      effect.deletion (permitted task found) draws holds.shared.1 own doomed here⟩
    obtain ⟨before, there, kept⟩ := effect.kept draws known here
    exact ⟨before, there, kept.alike.owner⟩

theorem later_of_run {earlier later : System}
    (holds : earlier.Disciplined (fun _ => True) (fun shared duty => duty.Remembers shared) fun _ _ => True)
    (run : Run System.next KeepingDeletion earlier later) : Later earlier.shared later.shared := by
  induction run with
  | refl => exact .refl _
  | step label until_ permitted moved ih =>
    exact ih.trans holds.shared.1 (later_of_next (remembering.run until_ holds) permitted moved)

/-- The statuses of `GET` in the order in which an owner sees them. -/
def InOrder (first second : Nat) : Prop :=
  (first = 200 ∧ (second = 200 ∨ second = 410 ∨ second = 404)) ∨ (first = 410 ∧ (second = 410 ∨ second = 404)) ∨
    (first = 404 ∧ second = 404)

theorem Later.inOrder {earlier later : Shared} (order : Later earlier later) (table : earlier.TableSound)
    (next : later.TableSound) {estimate : TimeDelta} {id : ClusterId} {owner : ClientId} {first second : Nat}
    (known : id ∈ earlier.born) (before : Http.getCluster estimate earlier.rows none id owner = some first)
    (after : Http.getCluster estimate later.rows none id owner = some second) : InOrder first second := by
  rcases Http.getCluster_status after with ⟨missing, rfl⟩ | ⟨row, found, rfl⟩
  · rcases Http.getCluster_status before with ⟨-, rfl⟩ | ⟨old, -, rfl⟩
    · exact .inr (.inr ⟨rfl, rfl⟩)
    · split <;> simp [InOrder]
  · obtain ⟨here, owned⟩ := (Repository.getOwned_eq_some next.ids).mp found
    obtain ⟨old, there, same⟩ := order.kept id row known here
    have held := (Repository.getOwned_eq_some table.ids).mpr ⟨there, same ▸ owned⟩
    rcases Http.getCluster_status before with ⟨absent, -⟩ | ⟨old', found', rfl⟩
    · rw [held] at absent
      cases absent
    · obtain rfl : old = old' := Option.some.inj (held.symm.trans found')
      by_cases doomed : old.state.isDeleting = true
      · have state := Repository.stateOf_eq_some.mpr ⟨row, here, rfl⟩
        rcases order.deleting id old.state doomed (Repository.stateOf_eq_some.mpr ⟨old, there, rfl⟩) with kept | gone
        · rw [state, Option.some.injEq] at kept
          simp [InOrder, kept, doomed]
        · rw [state] at gone
          cases gone
      · rw [if_neg doomed]
        split <;> simp [InOrder]

/-- Where every step keeps deletions, a row once `Deleting` is that until it is gone, and `GET` never goes back. -/
theorem deletion_absorbing {start earlier later : System} (started : Started start)
    (first : Run System.next KeepingDeletion start earlier) (second : Run System.next KeepingDeletion earlier later) :
    (∀ id since reason, stateOf earlier.shared.rows id = some (.deleting since reason) →
      stateOf later.shared.rows id = some (.deleting since reason) ∨ stateOf later.shared.rows id = none) ∧
    (∀ id ∈ earlier.shared.born, stateOf earlier.shared.rows id = none → stateOf later.shared.rows id = none) ∧
    ∀ estimate owner, ∀ id ∈ earlier.shared.born, ∀ before after,
      Http.getCluster estimate earlier.shared.rows none id owner = some before →
      Http.getCluster estimate later.shared.rows none id owner = some after → InOrder before after := by
  have initial : start.Disciplined (fun _ => True) (fun shared duty => duty.Remembers shared) fun _ _ => True :=
    started.disciplined (fun _ _ _ _ => trivial) fun _ _ => trivial
  have holds := remembering.run first initial
  have order := later_of_run holds second
  have owned := (remembering.run second holds).owned
  exact ⟨fun id since reason found => order.deleting id _ rfl found, fun id known => order.gone known,
    fun estimate owner id known before after seen then_ =>
      order.inOrder holds.shared.1 owned.shared known seen then_⟩

/-- A delete that comes while the backend is still busy: the spawn is cancelled and tears down. -/
theorem deletion_absorbing_cancelled : ∃ earlier later : System,
    (stateOf earlier.shared.rows smallId, stateOf later.shared.rows smallId) =
      (some (.deleting .epoch .userRequested), none) ∧
    ∀ id ∈ earlier.shared.born, stateOf earlier.shared.rows id = none → stateOf later.shared.rows id = none := by
  have evaluated : ((follow System.next (permitted fun _ answer shared task => keepsDeletion answer shared.rows task)
        smallStart (untilCreated ++ [smallDelete, .step 1 {}, .step 1 {}])).bind fun earlier =>
      (follow System.next (permitted fun _ answer shared task => keepsDeletion answer shared.rows task) earlier
        [.step 1 {}, .step 0 {}, .step 0 {}, .step 1 {}, .step 1 {}]).map fun later =>
        (stateOf earlier.shared.rows smallId, stateOf later.shared.rows smallId)) =
      some (some (.deleting .epoch .userRequested), none) := by
    decide +kernel
  obtain ⟨earlier, later, first, second, seen⟩ := exists_runs evaluated
  exact ⟨earlier, later, seen, (deletion_absorbing smallStart_started first second).2.1⟩

/-- The spawn's re-check does not help: its outcome overwrites the deletion, and `GET` goes back from 410 to 200. -/
theorem deletion_overwritten : ∃ start earlier later,
    Started start ∧ Run System.next OneLifetime start earlier ∧ Run System.next OneLifetime earlier later ∧
    stateOf earlier.shared.rows smallId = some (.deleting .epoch .userRequested) ∧
    stateOf later.shared.rows smallId =
      some (.ready .epoch ⟨60000000000, by decide, by decide⟩ smallConnection) ∧
    Http.getCluster smallDeps.spawnEstimate earlier.shared.rows none smallId ⟨"alice"⟩ = some 410 ∧
    Http.getCluster smallDeps.spawnEstimate later.shared.rows none smallId ⟨"alice"⟩ = some 200 := by
  have evaluated : ((follow System.next (permitted fun _ _ _ _ => true) smallStart
        (untilPersisting ++ [smallDelete, .step 1 {}, .step 1 {}])).bind fun earlier =>
      (follow System.next (permitted fun _ _ _ _ => true) earlier [.step 0 {}]).map fun later =>
        ((stateOf earlier.shared.rows smallId, stateOf later.shared.rows smallId),
          Http.getCluster smallDeps.spawnEstimate earlier.shared.rows none smallId ⟨"alice"⟩,
          Http.getCluster smallDeps.spawnEstimate later.shared.rows none smallId ⟨"alice"⟩)) =
      some ((some (.deleting .epoch .userRequested),
        some (.ready .epoch ⟨60000000000, by decide, by decide⟩ smallConnection)), some 410, some 200) := by
    decide +kernel
  obtain ⟨earlier, later, first, second, seen⟩ := exists_runs evaluated
  simp only [Prod.mk.injEq] at seen
  exact ⟨smallStart, earlier, later, smallStart_started, first.weaken fun _ _ => Permits.oneLifetime,
    second.weaken fun _ _ => Permits.oneLifetime, seen.1.1, seen.1.2, seen.2.1, seen.2.2⟩

end AppSalmon
