import AppSalmon.Service.Ownership

/-! Whether `teardown` is entered at most once for each cluster.

`request_delete` answers `StartTeardown` for what it has read, not for what it
overwrites: two requests that have both read a `Ready` row both tear it down.
-/

set_option autoImplicit false

namespace AppSalmon

open KeyedTable TaskPool
open Repository (Rows stateOf)
open Duty (Valid Apart)

/-- A request that has read a settled row does not find it being deleted when it writes. -/
def claimsOnce (answer : Answer) (rows : Rows) : Task → Bool
  | .requestDelete _ _ _ _ (some read) =>
    answer.repository.isSome || !read.state.isSettled || !(stateOf rows read.id).any ClusterState.isDeleting
  | _ => true

/-! ## The invariant -/

/-- No row that is still settled was torn down. -/
structure Shared.TornOnce (shared : Shared) : Prop where
  once : shared.teardowns.Nodup
  born : ∀ id ∈ shared.teardowns, id ∈ shared.born
  settled : ∀ id state, stateOf shared.rows id = some state → state.isSettled = true → id ∉ shared.teardowns

/-- What entitles a duty to a teardown was not used yet. -/
def Duty.Unused (shared : Shared) : Duty → Prop
  | .spawn id _ | .recover id _ | .lost id => id ∉ shared.teardowns
  | .pledge id =>
    id ∉ shared.teardowns ∧ ∀ state, stateOf shared.rows id = some state → state.isSettled = false
  | .startup => shared.teardowns = []
  | .request | .setWorker _ | .holds .. | .accept _ | .teardown _ => True

/-- No two answers of `StartTeardown` for one cluster. -/
def Duty.Disjoint : Duty → Duty → Prop
  | .pledge first, .pledge second => first ≠ second
  | _, _ => True

theorem Duty.Disjoint.symm {first second : Duty} (disjoint : Disjoint first second) : Disjoint second first := by
  cases first <;> cases second <;> first | trivial | exact Ne.symm disjoint

variable {deps : TaskDeps} {answer : Answer} {shared after : Shared} {task : Task} {left : List Duty} {id : ClusterId}

/-! ## One step -/

/-- The duties that allow a task to enter teardown. -/
def Duty.Entitles (id : ClusterId) : Duty → Prop
  | .spawn other _ | .pledge other | .recover other _ => other = id
  | _ => False

/-- Teardown is entered by whoever is entitled to. -/
theorem Effect.enters (effect : Effect deps answer shared after task left) :
    after.teardowns = shared.teardowns ∨
      ∃ id, after.teardowns = id :: shared.teardowns ∧ ∃ mine ∈ task.duties, mine.Entitles id := by
  cases effect with
  | turned rows log | marked orphan rows log | resumed doomed rows log =>
    exact .inr ⟨_, congrArg (·.2.1) log, _, List.mem_cons_self, rfl⟩
  | @followed cluster rows log =>
    exact .inr ⟨_, congrArg (·.2.1) log, .pledge cluster.id, by simp [Task.duties, pledgeOf], rfl⟩
  | @dispatched cluster rest rows log =>
    exact .inr ⟨_, congrArg (·.2.1) log, .pledge cluster.id, by simp [Task.duties, pledges, pledgeOf], rfl⟩
  | quiet rows log | inserted rows log | checked rows log | persisted rows log | read rows log
  | condemned written rows log | answered other rows log | removed rows log | listed rows log | missed ready rows log
  | failed rows log => exact .inl (congrArg (·.2.1) log)

theorem Effect.teardowns_subset (effect : Effect deps answer shared after task left) (member : id ∈ shared.teardowns) :
    id ∈ after.teardowns := by
  rcases effect.enters with same | ⟨other, grown, -⟩
  · rwa [same]
  · rw [grown]
    exact List.mem_cons_of_mem _ member

theorem not_teardown_of_serving {duties : List Duty} (serving : ∀ duty ∈ duties, duty.isServing = true) :
    .teardown id ∉ duties := fun member => by cases serving _ member

theorem not_teardown_of_recoveries {todo : List Cluster} : .teardown id ∉ recoveries todo := by
  intro member
  obtain ⟨cluster, -, same⟩ := mem_recoveries.mp member
  cases same

/-- A teardown was under way before, or its task enters it. -/
theorem Effect.tears (effect : Effect deps answer shared after task left) (member : .teardown id ∈ left) :
    .teardown id ∈ task.duties ∨
      (after.teardowns = id :: shared.teardowns ∧ ∃ mine ∈ task.duties, mine.Entitles id) := by
  cases effect with
  | quiet rows log fewer => exact .inl (fewer.subset member)
  | turned rows log fewer =>
    rcases List.mem_cons.mp member with same | later
    · cases same
      exact .inr ⟨congrArg (·.2.1) log, _, List.mem_cons_self, rfl⟩
    · cases List.mem_singleton.mp (fewer.subset later)
  | @followed cluster rows log =>
    cases List.mem_singleton.mp member
    exact .inr ⟨congrArg (·.2.1) log, .pledge cluster.id, by simp [Task.duties, pledgeOf], rfl⟩
  | @dispatched cluster rest rows log =>
    rcases List.mem_cons.mp member with same | later
    · cases same
      exact .inr ⟨congrArg (·.2.1) log, .pledge cluster.id, by simp [Task.duties, pledges, pledgeOf], rfl⟩
    · rcases List.mem_cons.mp later with same | owed
      · cases same
      · exact absurd owed (not_teardown_of_serving fun duty inside => Duty.isServing_pledges inside)
  | marked orphan rows log | resumed doomed rows log =>
    rcases List.mem_cons.mp member with same | later
    · cases same
      exact .inr ⟨congrArg (·.2.1) log, _, List.mem_cons_self, rfl⟩
    · exact absurd later not_teardown_of_recoveries
  | inserted | checked => simp at member
  | persisted | answered => cases member
  | read rows log found owned =>
    simp only [List.mem_cons, reduceCtorEq, false_or] at member
    exact absurd member (not_teardown_of_serving fun duty inside => Duty.isServing_caller inside)
  | @condemned id owner reason caller read state written rows log calm =>
    rcases Duty.of_mem_condemned member with same | same | owed | ⟨-, same⟩
    · cases same
    · cases same
    · exact absurd owed (not_teardown_of_serving fun duty inside => Duty.isServing_caller inside)
    · cases same
  | removed rows log => exact .inl (List.mem_cons_of_mem _ member)
  | listed | failed => exact absurd member not_teardown_of_recoveries
  | missed =>
    simp only [List.mem_cons, reduceCtorEq, false_or] at member
    exact absurd member not_teardown_of_recoveries

/-- Teardown is entered by whoever is entitled to, for a row that is not settled. -/
theorem Effect.entered (effect : Effect deps answer shared after task left)
    (own : ∀ duty ∈ task.duties, Valid shared duty ∧ duty.Unused shared) :
    after.teardowns = shared.teardowns ∨
      ∃ id, after.teardowns = id :: shared.teardowns ∧ (∃ mine ∈ task.duties, mine.Entitles id) ∧
        ∀ state, stateOf after.rows id = some state → state.isSettled = false := by
  cases effect with
  | @turned cluster token projectTar stage left rows log fewer =>
    refine .inr ⟨cluster.id, congrArg (·.2.1) log, ⟨_, List.mem_cons_self, rfl⟩, fun state here => ?_⟩
    obtain ⟨-, current, there, unsettled⟩ := (own _ List.mem_cons_self).1.sound
    rw [rows, there, Option.some.injEq] at here
    exact here ▸ unsettled
  | @followed cluster rows log =>
    have promised : Duty.pledge cluster.id ∈ (Task.followDelete cluster .startTeardown).duties := by
      simp [Task.duties, pledgeOf]
    refine .inr ⟨cluster.id, congrArg (·.2.1) log, ⟨_, promised, rfl⟩, fun state here => ?_⟩
    exact (own _ promised).2.2 state (rows ▸ here)
  | @dispatched cluster rest rows log =>
    have promised : Duty.pledge cluster.id ∈ (Task.dispatch ((cluster, .startTeardown) :: rest)).duties := by
      simp [Task.duties, pledges, pledgeOf]
    refine .inr ⟨cluster.id, congrArg (·.2.1) log, ⟨_, promised, rfl⟩, fun state here => ?_⟩
    exact (own _ promised).2.2 state (rows ▸ here)
  | @marked cluster todo orphan rows log =>
    refine .inr ⟨cluster.id, congrArg (·.2.1) log, ⟨_, List.mem_cons_self, rfl⟩, fun state here => ?_⟩
    rw [Repository.stateOf_updateState rows, if_pos rfl, Option.some.injEq] at here
    exact here ▸ rfl
  | @resumed cluster todo doomed rows log =>
    refine .inr ⟨cluster.id, congrArg (·.2.1) log, ⟨_, List.mem_cons_self, rfl⟩, fun state here => ?_⟩
    have listed := (own _ List.mem_cons_self).1.sound
    rw [Duty.Sound, ← rows, here, Option.some.injEq] at listed
    exact listed ▸ (ClusterState.calm_of_isDeleting doomed).1
  | quiet rows log | inserted rows log | checked rows log | persisted rows log | read rows log
  | condemned written rows log | answered other rows log | removed rows log | listed rows log | missed ready rows log
  | failed rows log => exact .inl (congrArg (·.2.1) log)

/-- A settled row was settled before, or its spawn or reconciliation has just settled it. -/
theorem Effect.settles (effect : Effect deps answer shared after task left) {state : ClusterState}
    (here : stateOf after.rows id = some state) (settled : state.isSettled = true) :
    (∃ before, stateOf shared.rows id = some before ∧ before.isSettled = true) ∨
      (after.teardowns = shared.teardowns ∧ ∃ mine ∈ task.duties, mine.subject = some id ∧
        (mine.side = some .spawning ∨ mine.side = some .recovering)) := by
  have same (rows : after.rows = shared.rows) :
      ∃ before, stateOf shared.rows id = some before ∧ before.isSettled = true := ⟨state, rows ▸ here, settled⟩
  have unsettled {other : ClusterId} {new : ClusterState} (is : new.isSettled = false)
      (change : stateOf after.rows id = if id = other then some new else stateOf shared.rows id) :
      ∃ before, stateOf shared.rows id = some before ∧ before.isSettled = true := by
    rw [here] at change
    split at change
    · rw [Option.some.inj change, is] at settled
      cases settled
    · exact ⟨state, change.symm, settled⟩
  cases effect with
  | quiet rows log => exact .inl ⟨state, stateOf_quiet rows id ▸ here, settled⟩
  | inserted rows log => exact .inl (unsettled rfl (Repository.stateOf_insert rows))
  | @persisted cluster token projectTar current new result rows log =>
    rw [Repository.stateOf_updateState rows] at here
    split at here
    · next same =>
      subst same
      exact .inr ⟨congrArg (·.2.1) log, _, List.mem_cons_self, rfl, .inl rfl⟩
    · exact .inl ⟨state, here, settled⟩
  | condemned written rows log =>
    refine .inl (unsettled ?_ (Repository.stateOf_updateState rows))
    exact written ▸ (ClusterState.calm_of_isDeleting (condemned_isDeleting ..)).1
  | removed rows log =>
    rw [rows, Repository.stateOf_delete] at here
    split at here
    · cases here
    · exact .inl ⟨state, here, settled⟩
  | marked orphan rows log => exact .inl (unsettled rfl (Repository.stateOf_updateState rows))
  | @failed cluster todo rows log =>
    rw [Repository.stateOf_updateState rows] at here
    split at here
    · next same =>
      subst same
      exact .inr ⟨congrArg (·.2.1) log, _, List.mem_cons_self, rfl, .inr rfl⟩
    · exact .inl ⟨state, here, settled⟩
  | turned rows log | checked rows log | read rows log | answered other rows log | followed rows log
  | dispatched rows log | listed rows log | resumed doomed rows log | missed ready rows log =>
    exact .inl (same rows)

/-- The row whose teardown the duty may still come to. -/
def Duty.stake : Duty → Option ClusterId
  | .spawn id _ | .recover id _ | .lost id | .pledge id => some id
  | .request | .setWorker _ | .holds .. | .accept _ | .teardown _ | .startup => none

theorem Duty.Unused.stake {duty : Duty} (unused : duty.Unused shared) (staked : duty.stake = some id) :
    id ∉ shared.teardowns := by
  cases duty with
  | spawn | recover | lost =>
    cases staked
    exact unused
  | pledge =>
    cases staked
    exact unused.1
  | request | setWorker | holds | accept | teardown | startup => cases staked

theorem Duty.stake_side {duty : Duty} (staked : duty.stake = some id) :
    duty.subject = some id ∧ (duty = .pledge id ∨
      ∃ side, duty.side = some side ∧ (side = .spawning ∨ side = .recovering)) := by
  cases duty with
  | spawn =>
    cases staked
    exact ⟨rfl, .inr ⟨_, rfl, .inl rfl⟩⟩
  | recover | lost =>
    cases staked
    exact ⟨rfl, .inr ⟨_, rfl, .inr rfl⟩⟩
  | pledge =>
    cases staked
    exact ⟨rfl, .inl rfl⟩
  | request | setWorker | holds | accept | teardown | startup => cases staked

theorem Duty.stake_of_exclusive {duty : Duty} (about : duty.subject = some id)
    (alone : duty.side = some .spawning ∨ duty.side = some .recovering) : duty.stake = some id := by
  cases duty with
  | spawn | recover | lost => exact about
  | request | setWorker | accept | pledge | teardown | startup => rcases alone with has | has <;> cases has
  | holds other read =>
    simp only [side] at alone
    split at alone <;> rcases alone with has | has <;> cases has

theorem Duty.Entitles.stake {duty : Duty} (entitles : duty.Entitles id) : duty.stake = some id := by
  cases duty with
  | spawn | recover | pledge => exact congrArg some entitles
  | request | setWorker | holds | accept | teardown | startup | lost => cases entitles

/-- Two duties of different tasks never have the same row at stake. -/
theorem Duty.stake_ne {mine duty : Duty} (apart : Apart mine duty) (disjoint : Disjoint mine duty)
    (isMine : mine.stake = some id) : duty.stake ≠ some id := by
  intro staked
  obtain ⟨about, mineHas⟩ := stake_side isMine
  obtain ⟨same, theirsHas⟩ := stake_side staked
  rcases mineHas with rfl | ⟨side, has, alone⟩
  · rcases theirsHas with rfl | ⟨side, has, alone⟩
    · exact disjoint rfl
    · exact apart.symm.exclusive same has alone about rfl
  · rcases theirsHas with rfl | ⟨theirs, claimed, -⟩
    · exact apart.exclusive about has alone same rfl
    · exact apart.exclusive about has alone same claimed

/-- A teardown that is entered was nobody else's to enter, and no row becomes settled under a pledge. -/
theorem Duty.Unused.others {duty : Duty} (unused : duty.Unused shared)
    (effect : Effect deps answer shared after task left)
    (own : ∀ duty ∈ task.duties, Valid shared duty ∧ duty.Unused shared)
    (apart : ∀ mine ∈ task.duties, Apart mine duty ∧ Disjoint mine duty) : duty.Unused after := by
  have stays : ∀ other, duty.stake = some other → other ∉ after.teardowns := by
    intro other staked
    rcases effect.entered own with same | ⟨id, grown, ⟨mine, isMine, entitled⟩, -⟩
    · exact same ▸ unused.stake staked
    · rw [grown, List.mem_cons, not_or]
      refine ⟨?_, unused.stake staked⟩
      rintro rfl
      exact stake_ne (apart mine isMine).1 (apart mine isMine).2 entitled.stake staked
  cases duty with
  | spawn | recover | lost => exact stays _ rfl
  | pledge other =>
    refine ⟨stays _ rfl, fun state here => ?_⟩
    cases settled : state.isSettled with
    | false => rfl
    | true =>
      rcases effect.settles here settled with ⟨before, there, was⟩ | ⟨-, mine, isMine, about, alone⟩
      · rw [unused.2 before there] at was
        cases was
      · exact (stake_ne (apart mine isMine).1 (apart mine isMine).2 (stake_of_exclusive about alone) rfl).elim
  | startup =>
    rcases effect.entered own with same | ⟨id, grown, ⟨mine, isMine, entitled⟩, -⟩
    · exact same.trans unused
    · cases (apart mine isMine).1.after
  | request | setWorker | holds | accept | teardown => trivial

theorem Effect.tornOnce (effect : Effect deps answer shared after task left) (torn : shared.TornOnce)
    (own : ∀ duty ∈ task.duties, Valid shared duty ∧ duty.Unused shared) : after.TornOnce := by
  rcases effect.entered own with same | ⟨id, grown, ⟨mine, isMine, entitled⟩, unsettled⟩
  · refine ⟨same ▸ torn.once, fun id member => effect.born_subset (torn.born id (same ▸ member)),
      fun id state here settled => same ▸ ?_⟩
    rcases effect.settles here settled with ⟨before, there, was⟩ | ⟨-, mine, isMine, about, alone⟩
    · exact torn.settled id before there was
    · exact (own mine isMine).2.stake (Duty.stake_of_exclusive about alone)
  · have fresh := (own mine isMine).2.stake entitled.stake
    refine ⟨grown ▸ List.nodup_cons.mpr ⟨fresh, torn.once⟩, fun other member => ?_, fun other state here settled => ?_⟩
    · rw [grown] at member
      rcases List.mem_cons.mp member with rfl | old
      · exact effect.born_subset ((own mine isMine).1.known other (Duty.stake_side entitled.stake).1)
      · exact effect.born_subset (torn.born other old)
    · rw [grown, List.mem_cons, not_or]
      constructor
      · rintro rfl
        rw [unsettled state here] at settled
        cases settled
      · rcases effect.settles here settled with ⟨before, there, was⟩ | ⟨same, -⟩
        · exact torn.settled other before there was
        · rw [grown] at same
          exact absurd same (List.cons_ne_self _ _)

/-- A duty that the acting task keeps stays unused, where what is entered is not at stake for it. -/
theorem Duty.Unused.keep {duty : Duty} (unused : duty.Unused shared)
    (effect : Effect deps answer shared after task left) (started : duty ≠ .startup)
    (unentered : ∀ id, duty.stake = some id → after.teardowns ≠ id :: shared.teardowns)
    (own : ∀ duty ∈ task.duties, Valid shared duty ∧ duty.Unused shared)
    (member : duty ∈ task.duties) (pairs : task.duties.Pairwise Apart) : duty.Unused after := by
  have stays : ∀ other, duty.stake = some other → other ∉ after.teardowns := by
    intro other staked
    rcases effect.entered own with same | ⟨id, grown, -⟩
    · exact same ▸ unused.stake staked
    · rw [grown, List.mem_cons, not_or]
      refine ⟨?_, unused.stake staked⟩
      rintro rfl
      exact unentered other staked grown
  cases duty with
  | spawn | recover | lost => exact stays _ rfl
  | pledge other =>
    refine ⟨stays _ rfl, fun state here => ?_⟩
    cases settled : state.isSettled with
    | false => rfl
    | true =>
      rcases effect.settles here settled with ⟨before, there, was⟩ | ⟨-, mine, isMine, about, alone⟩
      · rw [unused.2 before there] at was
        cases was
      · have different : mine ≠ .pledge other := by
          rintro rfl
          rcases alone with has | has <;> cases has
        have apart := pairs.forall isMine member different
        rcases alone with has | has
        · exact (apart.exclusive about has (.inl rfl) rfl rfl).elim
        · exact (apart.exclusive about has (.inr rfl) rfl rfl).elim
  | startup => exact absurd rfl started
  | request | setWorker | holds | accept | teardown => trivial

/-- A request that answers `StartTeardown` has found its row settled. -/
theorem settled_of_claimsOnce {id : ClusterId} {owner : ClientId} {reason : DeleteReason} {caller : Caller}
    {read : Cluster} {next : ClusterState}
    (claims : claimsOnce answer shared.rows (.requestDelete id owner reason caller (some read)) = true)
    (calm : answer.repository = none) (held : Valid shared (.holds read.id read.state))
    (written : Repository.updateState shared.rows read.id next = .ok after.rows)
    (started : ClusterService.deleteOutcome read.state = .startTeardown) :
    ∃ state, stateOf shared.rows read.id = some state ∧ state.isSettled = true := by
  have settled := ClusterService.deleteOutcome_eq_startTeardown.mp started
  obtain ⟨⟨row, found⟩, -⟩ := Repository.modify_eq_ok.mp written
  have state := Repository.stateOf_eq_some.mpr ⟨row, found, rfl⟩
  refine ⟨row.state, state, ?_⟩
  have unspawned := held.sound settled row.state state
  simp only [claimsOnce, calm, settled, state, Option.isSome_none, Bool.not_true, Bool.or_self, Bool.false_or,
    Option.any_some, Bool.not_eq_true'] at claims
  rw [ClusterState.isSettled_eq, unspawned, claims]
  rfl

theorem Duty.disjoint_of_ne {first second : Duty} (other : ∀ id, first ≠ .pledge id) : Disjoint first second := by
  cases first <;> first | trivial | exact absurd rfl (other _)

theorem pairwise_disjoint_recoveries (todo : List Cluster) : (recoveries todo).Pairwise Duty.Disjoint := by
  refine List.pairwise_map.mpr (List.pairwise_of_forall fun _ _ => ?_)
  trivial

/-- What the acting task becomes. -/
theorem Effect.unused (effect : Effect deps answer shared after task left)
    (claims : claimsOnce answer shared.rows task = true) (drawn : task.draws answer shared = true)
    (torn : shared.TornOnce) (own : ∀ duty ∈ task.duties, Valid shared duty ∧ duty.Unused shared)
    (pairs : task.duties.Pairwise Apart) (disjoint : task.duties.Pairwise Duty.Disjoint) :
    ∀ fresh ∈ left, fresh.Unused after := by
  have keep {duty : Duty} (member : duty ∈ task.duties) (started : duty ≠ .startup)
      (unentered : ∀ id, duty.stake = some id → after.teardowns ≠ id :: shared.teardowns) : duty.Unused after :=
    (own duty member).2.keep effect started unentered own member pairs
  have kept (same : after.teardowns = shared.teardowns) {duty : Duty} (member : duty ∈ task.duties)
      (started : duty ≠ .startup) : duty.Unused after :=
    keep member started fun id _ grown => List.cons_ne_self _ _ (grown.symm.trans same)
  cases effect with
  | quiet rows log fewer =>
    intro fresh member
    have same : after.teardowns = shared.teardowns := congrArg (·.2.1) log
    by_cases started : fresh = .startup
    · subst started
      exact same.trans (own _ (fewer.subset member)).2
    · exact kept same (fewer.subset member) started
  | inserted rows log =>
    intro fresh member
    rw [List.mem_singleton.mp member, Duty.Unused, show after.teardowns = shared.teardowns from congrArg (·.2.1) log]
    simp only [Task.draws, decide_eq_true_eq] at drawn
    exact fun used => drawn (torn.born _ used)
  | turned rows log fewer =>
    intro fresh member
    rcases List.mem_cons.mp member with rfl | later
    · trivial
    · rw [List.mem_singleton.mp (fewer.subset later)]
      trivial
  | checked rows log found alive =>
    intro fresh member
    rw [List.mem_singleton.mp member, Duty.Unused, show after.teardowns = shared.teardowns from congrArg (·.2.1) log]
    exact (own _ List.mem_cons_self).2
  | persisted | answered => exact fun fresh member => (List.not_mem_nil member).elim
  | read rows log found owned =>
    intro fresh member
    rcases List.mem_cons.mp member with rfl | inner
    · trivial
    rcases List.mem_cons.mp inner with rfl | owed
    · trivial
    · refine kept (congrArg (·.2.1) log) (List.mem_cons_of_mem _ owed) ?_
      exact (Duty.unlisted_of_serving (Duty.isServing_caller owed)).2
  | @condemned id owner reason caller read state written rows log calm =>
    have same : after.teardowns = shared.teardowns := congrArg (·.2.1) log
    intro fresh member
    rcases Duty.of_mem_condemned member with rfl | rfl | owed | ⟨started, rfl⟩
    · trivial
    · trivial
    · refine kept same (by simp [Task.duties, owed]) ?_
      exact (Duty.unlisted_of_serving (Duty.isServing_caller owed)).2
    · have held := (own (.holds read.id read.state) (by simp [Task.duties])).1
      obtain ⟨before, found, settled⟩ := settled_of_claimsOnce claims calm held rows started
      refine ⟨same ▸ torn.settled _ before found settled, fun state' here => ?_⟩
      rw [Repository.stateOf_updateState rows, if_pos rfl, Option.some.injEq] at here
      rw [← here, written]
      exact (ClusterState.calm_of_isDeleting (condemned_isDeleting ..)).1
  | followed rows log =>
    intro fresh member
    rw [List.mem_singleton.mp member]
    trivial
  | @dispatched cluster rest rows log =>
    intro fresh member
    rcases List.mem_cons.mp member with rfl | inner
    · trivial
    rcases List.mem_cons.mp inner with rfl | owed
    · trivial
    · have inside : fresh ∈ (Task.dispatch ((cluster, .startTeardown) :: rest)).duties :=
        List.mem_cons_of_mem _ (List.mem_cons_of_mem _ owed)
      refine keep inside (Duty.unlisted_of_serving (Duty.isServing_pledges owed)).2 fun id staked grown => ?_
      have entered : after.teardowns = cluster.id :: shared.teardowns := congrArg (·.2.1) log
      rw [entered] at grown
      obtain ⟨apart, -⟩ := List.pairwise_cons.mp (List.pairwise_cons.mp pairs).2
      obtain ⟨different, -⟩ := List.pairwise_cons.mp (List.pairwise_cons.mp disjoint).2
      refine Duty.stake_ne (apart fresh owed) (different fresh owed) ?_ staked
      exact congrArg some (List.cons.inj grown).1
  | removed rows log =>
    intro fresh member
    refine kept (congrArg (·.2.1) log) (List.mem_cons_of_mem _ member) ?_
    rintro rfl
    have apart := (List.pairwise_cons.mp pairs).1 _ member
    cases apart.after
  | listed rows log =>
    intro fresh member
    obtain ⟨row, stored, rfl⟩ := mem_recoveries.mp member
    have none_yet : shared.teardowns = [] := (own _ List.mem_cons_self).2
    rw [Duty.Unused, show after.teardowns = shared.teardowns from congrArg (·.2.1) log, none_yet]
    exact List.not_mem_nil
  | @marked cluster todo orphan rows log | @resumed cluster todo doomed rows log =>
    intro fresh member
    rcases List.mem_cons.mp member with rfl | later
    · trivial
    · obtain ⟨row, stored, rfl⟩ := mem_recoveries.mp later
      refine keep (List.mem_cons_of_mem _ later) (by simp) fun id staked grown => ?_
      have entered : after.teardowns = cluster.id :: shared.teardowns := congrArg (·.2.1) log
      rw [entered] at grown
      have apart := (List.pairwise_cons.mp pairs).1 _ later
      exact Duty.stake_ne apart (Duty.disjoint_of_ne (by simp)) (congrArg some (List.cons.inj grown).1) staked
  | missed ready rows log =>
    have same : after.teardowns = shared.teardowns := congrArg (·.2.1) log
    intro fresh member
    rcases List.mem_cons.mp member with rfl | later
    · rw [Duty.Unused, same]
      exact (own _ List.mem_cons_self).2
    · obtain ⟨row, stored, rfl⟩ := mem_recoveries.mp later
      exact kept same (List.mem_cons_of_mem _ later) (by simp)
  | failed rows log =>
    intro fresh member
    obtain ⟨row, stored, rfl⟩ := mem_recoveries.mp member
    exact kept (congrArg (·.2.1) log) (List.mem_cons_of_mem _ member) (by simp)

/-- What the acting task becomes makes no promise that another task has made. -/
theorem Effect.disjoint (effect : Effect deps answer shared after task left)
    (claims : claimsOnce answer shared.rows task = true)
    (own : ∀ duty ∈ task.duties, Valid shared duty ∧ duty.Unused shared) {duty : Duty}
    (unused : duty.Unused shared) (apart : ∀ mine ∈ task.duties, mine.Disjoint duty) :
    ∀ fresh ∈ left, fresh.Disjoint duty := by
  intro fresh member
  by_cases kept : fresh ∈ task.duties
  · exact apart fresh kept
  cases fresh with
  | request | spawn | setWorker | holds | accept | teardown | startup | recover | lost => trivial
  | pledge id =>
    cases effect with
    | quiet rows log fewer => exact absurd (fewer.subset member) kept
    | inserted | checked | persisted | answered | followed => simp at member
    | turned rows log fewer =>
      rcases List.mem_cons.mp member with same | later
      · cases same
      · cases List.mem_singleton.mp (fewer.subset later)
    | read rows log found owned =>
      simp only [List.mem_cons, reduceCtorEq, false_or] at member
      exact absurd (List.mem_cons_of_mem _ member) kept
    | @condemned id owner reason caller read state written rows log calm =>
      rcases Duty.of_mem_condemned member with same | same | owed | ⟨started, same⟩
      · cases same
      · cases same
      · exact absurd (List.mem_cons_of_mem _ (List.mem_cons_of_mem _ owed)) kept
      · cases same
        have held := (own (.holds read.id read.state) (by simp [Task.duties])).1
        obtain ⟨before, found, settled⟩ := settled_of_claimsOnce claims calm held rows started
        cases duty with
        | pledge other =>
          rintro rfl
          rw [unused.2 before found] at settled
          cases settled
        | request | spawn | setWorker | holds | accept | teardown | startup | recover | lost => trivial
    | dispatched rows log =>
      simp only [List.mem_cons, reduceCtorEq, false_or] at member
      exact absurd (List.mem_cons_of_mem _ (List.mem_cons_of_mem _ member)) kept
    | removed rows log => exact absurd (List.mem_cons_of_mem _ member) kept
    | listed | failed =>
      obtain ⟨row, -, same⟩ := mem_recoveries.mp member
      cases same
    | marked | resumed | missed =>
      simp only [List.mem_cons, reduceCtorEq, false_or] at member
      obtain ⟨row, -, same⟩ := mem_recoveries.mp member
      cases same

theorem Effect.pairs_disjoint (effect : Effect deps answer shared after task left)
    (claims : claimsOnce answer shared.rows task = true)
    (own : ∀ duty ∈ task.duties, Valid shared duty ∧ duty.Unused shared)
    (disjoint : task.duties.Pairwise Duty.Disjoint) : left.Pairwise Duty.Disjoint := by
  cases effect with
  | quiet rows log fewer => exact disjoint.sublist fewer
  | inserted | checked | followed => exact List.pairwise_singleton ..
  | persisted | answered => exact .nil
  | turned rows log fewer =>
    refine List.Pairwise.sublist (fewer.cons_cons _) (List.pairwise_pair.mpr ?_)
    trivial
  | read rows log found owned =>
    obtain ⟨-, rest⟩ := List.pairwise_cons.mp disjoint
    exact .cons (fun _ _ => trivial) (.cons (fun _ _ => trivial) rest)
  | @condemned id owner reason caller read state written rows log calm =>
    refine .cons (fun _ _ => trivial) (List.pairwise_append.mpr ⟨List.pairwise_append.mpr ⟨?_, ?_, ?_⟩, ?_, ?_⟩)
    · cases caller with
      | handler => exact List.pairwise_singleton ..
      | reaper => exact .nil
    · exact (List.pairwise_cons.mp (List.pairwise_cons.mp disjoint).2).2
    · intro fresh accepted
      cases caller with
      | reaper => cases accepted
      | handler =>
        rw [List.mem_singleton.mp accepted]
        exact fun _ _ => trivial
    · cases ClusterService.deleteOutcome read.state with
      | startTeardown => exact List.pairwise_singleton ..
      | cancelSpawn | alreadyDeleting => exact .nil
    · intro old front fresh promised
      obtain ⟨started, rfl⟩ := Duty.mem_pledgeOf.mp promised
      have held := (own (.holds read.id read.state) (by simp [Task.duties])).1
      obtain ⟨before, found, settled⟩ := settled_of_claimsOnce claims calm held rows started
      cases old with
      | pledge other =>
        rintro rfl
        rcases List.mem_append.mp front with accepted | owed
        · cases caller <;> simp [Caller.answers] at accepted
        · have promise := (own (.pledge read.id) (by simp [Task.duties, owed])).2
          rw [promise.2 before found] at settled
          cases settled
      | request | spawn | setWorker | holds | accept | teardown | startup | recover | lost => trivial
  | dispatched rows log =>
    obtain ⟨-, rest⟩ := List.pairwise_cons.mp (List.pairwise_cons.mp disjoint).2
    exact .cons (fun _ _ => trivial) (.cons (fun _ _ => trivial) rest)
  | removed rows log => exact (List.pairwise_cons.mp disjoint).2
  | listed rows log => exact pairwise_disjoint_recoveries _
  | marked | resumed | missed => exact .cons (fun _ _ => trivial) (pairwise_disjoint_recoveries _)
  | failed rows log => exact pairwise_disjoint_recoveries _

/-! ## Whole runs -/

theorem claiming : Discipline (fun _ answer shared task => claimsOnce answer shared.rows task = true)
    Shared.TornOnce Duty.Unused Duty.Disjoint where
  symmetric := fun _ _ => Duty.Disjoint.symm
  still := by
    intro shared after rows log torn
    obtain ⟨born, teardowns, -⟩ : after.born = shared.born ∧ after.teardowns = shared.teardowns ∧
        after.accepted = shared.accepted := by simpa [Shared.log] using log
    refine ⟨⟨teardowns ▸ torn.once, fun id member => born ▸ torn.born id (teardowns ▸ member),
      fun id state here settled => teardowns ▸ torn.settled id state (rows ▸ here) settled⟩, fun duty unused => ?_⟩
    cases duty <;> simp_all [Duty.Unused]
  request := fun _ _ => ⟨trivial, trivial⟩
  step := fun effect claims drawn table torn own pairs disjoint =>
    ⟨effect.tornOnce torn own, effect.unused claims drawn torn own pairs disjoint,
      effect.pairs_disjoint claims own disjoint, fun duty _ unused apart =>
        ⟨unused.others effect own apart, effect.disjoint claims own unused fun mine isMine => (apart mine isMine).2⟩⟩

/-- The steps of one lifetime in which no request answers `StartTeardown` for a row that another has condemned. -/
abbrev ClaimingOnce : System → Label → Prop :=
  Permits fun _ answer shared task => claimsOnce answer shared.rows task = true

/-- Where every `StartTeardown` is for a row found settled, no cluster is torn down twice. -/
theorem teardown_at_most_once {start finish : System} (started : Started start)
    (run : Run System.next ClaimingOnce start finish) (id : ClusterId) : finish.shared.teardowns.count id ≤ 1 := by
  have initial : start.Disciplined Shared.TornOnce Duty.Unused Duty.Disjoint :=
    started.disciplined (fun shared _ none_yet _ => ⟨by simp [none_yet], by simp [none_yet], by simp [none_yet]⟩)
      fun shared none_yet => none_yet
  exact List.nodup_iff_count_le_one.mp (claiming.run run initial).shared.2.once id

/-- A `DELETE` of a `Ready` row. -/
theorem teardown_at_most_once_ready : ∃ finish : System,
    finish.shared.teardowns = [smallId] ∧ ∀ id, finish.shared.teardowns.count id ≤ 1 := by
  have evaluated : (follow System.next (permitted fun _ answer shared task => claimsOnce answer shared.rows task)
      smallStart (untilReady ++ [smallDelete, .step 0 {}, .step 0 {}, .step 0 {}])).map
        (fun finish => finish.shared.teardowns) = some [smallId] := by
    decide +kernel
  obtain ⟨finish, run, seen⟩ := exists_run evaluated
  exact ⟨finish, seen, teardown_at_most_once smallStart_started run⟩

/-- Two requests that have both read the row `Ready` tear it down twice. -/
theorem teardown_entered_twice : ∃ start finish,
    Started start ∧ Run System.next OneLifetime start finish ∧ finish.shared.teardowns = [smallId, smallId] := by
  have evaluated : (follow System.next (permitted fun _ _ _ _ => true) smallStart
      (untilReady ++ [smallDelete, smallDelete, .step 0 {}, .step 0 {}, .step 0 {}, .step 0 {}, .step 0 {},
        .step 0 {}])).map (fun finish => finish.shared.teardowns) = some [smallId, smallId] := by
    decide +kernel
  obtain ⟨finish, run, seen⟩ := exists_run evaluated
  exact ⟨smallStart, finish, smallStart_started, run.weaken fun _ _ => Permits.oneLifetime, seen⟩

end AppSalmon
