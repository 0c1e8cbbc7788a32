import AppSalmon.Service.Lifecycle

/-! Who may act on a row. While a spawn is under way no other task settles, condemns to teardown or
tears down its row, and a row that reconciliation has listed belongs to reconciliation.

None of this depends on calls succeeding, nor on the order of steps.
-/

set_option autoImplicit false

namespace AppSalmon

open KeyedTable TaskPool
open Repository (Rows SlotsDistinct stateOf)

/-! ## The table -/

/-- Identifiers are never used twice, and no two rows of an owner share a slot. -/
structure Shared.TableSound (shared : Shared) : Prop where
  ids : Distinct Cluster.id shared.rows
  slots : SlotsDistinct shared.rows
  born : ∀ row ∈ shared.rows, row.id ∈ shared.born

theorem Shared.TableSound.stateOf_born {shared : Shared} (table : shared.TableSound) {id : ClusterId}
    {state : ClusterState} (found : stateOf shared.rows id = some state) : id ∈ shared.born := by
  obtain ⟨row, here, -⟩ := Repository.stateOf_eq_some.mp found
  exact Repository.getAny_id here ▸ table.born row (Repository.getAny_mem here)

theorem Shared.TableSound.modify {shared after : Shared} {id : ClusterId} {change : Cluster → Cluster}
    (table : shared.TableSound) (done : Repository.modify shared.rows id change = .ok after.rows)
    (named : ∀ row, (change row).id = row.id)
    (kept : ∀ row, (change row).owner = row.owner ∧ (change row).slot = row.slot) (born : after.born = shared.born) :
    after.TableSound := by
  have rows := (Repository.modify_eq_ok.mp done).2
  refine ⟨?_, table.slots.modify kept done, fun row member => ?_⟩
  · rw [rows]
    exact table.ids.update named
  · rw [rows] at member
    obtain ⟨old, stored, rfl⟩ := mem_update.mp member
    rw [born]
    have known := table.born old stored
    split
    · rwa [named]
    · exact known

theorem Shared.TableSound.updateState {shared after : Shared} {id : ClusterId} {state : ClusterState}
    (table : shared.TableSound) (done : Repository.updateState shared.rows id state = .ok after.rows)
    (born : after.born = shared.born) : after.TableSound :=
  table.modify done (fun _ => rfl) (fun _ => ⟨rfl, rfl⟩) born

theorem Shared.TableSound.setWorker {shared after : Shared} {id : ClusterId} {worker : WorkerUser}
    (table : shared.TableSound) (done : Repository.setWorker shared.rows id worker = .ok after.rows)
    (born : after.born = shared.born) : after.TableSound :=
  table.modify done (fun _ => rfl) (fun _ => ⟨rfl, rfl⟩) born

variable {deps : TaskDeps} {answer : Answer} {shared after : Shared} {task : Task} {left : List Duty}

theorem Shared.TableSound.same (table : shared.TableSound) (rows : after.rows = shared.rows)
    (born : after.born = shared.born) : after.TableSound := by
  obtain ⟨ids, slots, known⟩ := table
  exact ⟨rows ▸ ids, rows ▸ slots, fun row member => born ▸ known row (rows ▸ member)⟩

theorem Effect.born_eq (effect : Effect deps answer shared after task left) :
    after.born = shared.born ∨ after.born = answer.id :: shared.born := by
  cases effect with
  | inserted rows log => exact .inr (congrArg Prod.fst log)
  | quiet rows log | turned rows log | checked rows log | persisted rows log | read rows log
  | condemned written rows log | answered other rows log | followed rows log | dispatched rows log
  | removed rows log | listed rows log | marked orphan rows log | resumed doomed rows log | missed ready rows log
  | failed rows log => exact .inl (congrArg Prod.fst log)

theorem Effect.born_subset (effect : Effect deps answer shared after task left) {id : ClusterId}
    (known : id ∈ shared.born) : id ∈ after.born := by
  rcases effect.born_eq with same | grown
  · rwa [same]
  · rw [grown]
    exact List.mem_cons_of_mem _ known

theorem Effect.table (effect : Effect deps answer shared after task left) (table : shared.TableSound) :
    after.TableSound := by
  cases effect with
  | quiet rows log =>
    rcases rows with same | ⟨id, worker, -, written⟩
    · exact table.same same (congrArg Prod.fst log)
    · exact table.setWorker written (congrArg Prod.fst log)
  | inserted rows log =>
    have born : after.born = answer.id :: shared.born := congrArg Prod.fst log
    rcases Repository.tryInsertIfUnderQuota_cases rows with ⟨-, -, refused⟩ | ⟨slot, -, -, missing, -, next⟩
    · cases refused
    · refine ⟨?_, table.slots.insert rows, fun row member => ?_⟩
      · rw [next]
        exact table.ids.append_row missing
      · rw [next] at member
        rw [born]
        rcases List.mem_append.mp member with old | new
        · exact List.mem_cons_of_mem _ (table.born row old)
        · rw [List.mem_singleton.mp new]
          exact List.mem_cons_self
  | persisted rows log | condemned written rows log | marked orphan rows log | failed rows log =>
    exact table.updateState rows (congrArg Prod.fst log)
  | removed rows log =>
    refine ⟨?_, ?_, fun row member => ?_⟩
    · rw [rows]
      exact table.ids.remove
    · rw [rows]
      exact table.slots.delete
    · rw [rows] at member
      rw [show after.born = shared.born from congrArg Prod.fst log]
      exact table.born row (mem_remove.mp member).1
  | turned rows log | checked rows log | read rows log | answered other rows log | followed rows log
  | dispatched rows log | listed rows log | resumed doomed rows log | missed ready rows log =>
    exact table.same rows (congrArg Prod.fst log)

/-- A row that is there after a step, as it was before. -/
structure Task.Kept (task : Task) (id : ClusterId) (before later : Cluster) : Prop where
  alike : later.Alike before
  worker : later.worker = before.worker ∨ ∃ worker, task.setter = some (id, worker) ∧ later.worker = some worker

theorem Task.Kept.refl (task : Task) (id : ClusterId) (row : Cluster) : task.Kept id row row :=
  ⟨.refl row, .inl rfl⟩

/-- A step rewrites at most one field of a row that is there, and makes only fresh ones. -/
theorem Effect.rewrites (effect : Effect deps answer shared after task left) (drawn : task.draws answer shared = true)
    {id : ClusterId} {later : Cluster} (known : id ∈ shared.born) (found : after.row? id = some later) :
    ∃ before, shared.row? id = some before ∧ (later = before ∨
      (∃ worker, task.setter = some (id, worker) ∧ later = { before with worker := some worker }) ∨
        ∃ state, later = { before with state := state }) := by
  have same (rows : after.rows = shared.rows) : shared.row? id = some later := by
    rw [← found, Shared.row?, Shared.row?, rows]
  have written {other : ClusterId} {state : ClusterState}
      (done : Repository.updateState shared.rows other state = .ok after.rows) :
      ∃ before, shared.row? id = some before ∧ (later = before ∨
        (∃ worker, task.setter = some (id, worker) ∧ later = { before with worker := some worker }) ∨
          ∃ state, later = { before with state := state }) := by
    obtain ⟨before, here, rfl | ⟨-, rfl⟩⟩ := Repository.getAny_of_modify done (fun _ => rfl) found
    · exact ⟨_, here, .inl rfl⟩
    · exact ⟨before, here, .inr (.inr ⟨state, rfl⟩)⟩
  cases effect with
  | quiet rows log =>
    rcases rows with rows | ⟨other, worker, sets, done⟩
    · exact ⟨later, same rows, .inl rfl⟩
    · obtain ⟨before, here, rfl | ⟨rfl, rfl⟩⟩ := Repository.getAny_of_modify done (fun _ => rfl) found
      · exact ⟨_, here, .inl rfl⟩
      · exact ⟨before, here, .inr (.inl ⟨worker, sets, rfl⟩)⟩
  | inserted rows log =>
    refine ⟨later, ?_, .inl rfl⟩
    rw [Shared.row?, Repository.getAny_insert rows, if_neg] at found
    · exact found
    · rintro rfl
      simp only [Task.draws, decide_eq_true_eq] at drawn
      exact drawn known
  | persisted rows | marked orphan rows | failed rows => exact written rows
  | condemned done rows => exact written rows
  | removed rows log =>
    rw [Shared.row?, rows, Repository.getAny_delete] at found
    split at found
    · cases found
    · exact ⟨later, found, .inl rfl⟩
  | turned rows log | checked rows log | read rows log | answered other rows log | followed rows log
  | dispatched rows log | listed rows log | resumed doomed rows log | missed ready rows log =>
    exact ⟨later, same rows, .inl rfl⟩

/-- A step moves no row, and writes no account but the one it has resolved. -/
theorem Effect.kept (effect : Effect deps answer shared after task left) (drawn : task.draws answer shared = true)
    {id : ClusterId} {later : Cluster} (known : id ∈ shared.born) (found : after.row? id = some later) :
    ∃ before, shared.row? id = some before ∧ task.Kept id before later := by
  obtain ⟨before, here, rfl | ⟨worker, sets, rfl⟩ | ⟨state, rfl⟩⟩ := effect.rewrites drawn known found
  · exact ⟨_, here, .refl task id _⟩
  · exact ⟨before, here, ⟨rfl, rfl, rfl⟩, .inr ⟨worker, sets, rfl⟩⟩
  · exact ⟨before, here, ⟨rfl, rfl, rfl⟩, .inl rfl⟩

/-- An identifier whose row is gone stays without one. -/
theorem Effect.gone (effect : Effect deps answer shared after task left) (drawn : task.draws answer shared = true)
    {id : ClusterId} (known : id ∈ shared.born) (missing : shared.row? id = none) : after.row? id = none := by
  cases found : after.row? id with
  | none => rfl
  | some later =>
    obtain ⟨before, here, -⟩ := effect.kept drawn known found
    rw [missing] at here
    cases here

/-! ## Claims on a row -/

inductive Side where
  | spawning | setting | settled | tearing | recovering
  deriving DecidableEq

/-- A spawn and reconciliation have their rows to themselves. -/
def Side.compatible : Side → Side → Bool
  | .spawning, _ | _, .spawning | .recovering, _ | _, .recovering => false
  | .setting, .settled | .settled, .setting => false
  | _, _ => true

theorem Side.compatible_comm (first second : Side) : first.compatible second = second.compatible first := by
  cases first <;> cases second <;> rfl

/-- A side that is compatible with whatever the other one is compatible with. -/
def Side.milder : Side → Side → Bool
  | .tearing, .settled | .tearing, .spawning | .tearing, .recovering | .setting, .spawning => true
  | first, second => first = second

theorem Side.compatible_milder {side stronger theirs : Side} (milder : side.milder stronger = true)
    (compatible : stronger.compatible theirs = true) : side.compatible theirs = true := by
  cases side <;> cases stronger <;> cases theirs <;> simp_all [Side.milder, Side.compatible]

theorem Side.milder_recovering {stronger : Side} (milder : Side.recovering.milder stronger = true) :
    stronger = .recovering := by
  cases stronger <;> simp_all [Side.milder]

namespace Duty

/-- The row the duty is about. -/
def subject : Duty → Option ClusterId
  | .request | .startup => none
  | .spawn id _ | .setWorker id | .holds id _ | .accept id | .pledge id | .teardown id | .recover id _
  | .lost id => some id

def side : Duty → Option Side
  | .spawn .. => some .spawning
  | .setWorker _ => some .setting
  | .holds _ read => if read.isSettled then some .settled else none
  | .pledge _ => some .settled
  | .teardown _ => some .tearing
  | .recover .. | .lost _ => some .recovering
  | .request | .accept _ | .startup => none

/-- Requests wait until reconciliation is over. -/
def excludes (first second : Duty) : Bool :=
  match first with
  | .startup => true
  | .request => second.side = some .recovering
  | _ => false

theorem excludes_of_subject {first : Duty} {id : ClusterId} (about : first.subject = some id) (second : Duty) :
    first.excludes second = false := by
  cases first <;> first | rfl | cases about

/-- What the duty takes for granted about its row. -/
def Sound (rows : Rows) : Duty → Prop
  | .spawn id believed =>
    believed.isSpawning = true ∧ ∃ state, stateOf rows id = some state ∧ state.isSettled = false
  | .setWorker id => ∀ state, stateOf rows id = some state → state.isSettled = false
  | .holds id read =>
    read.isSettled = true → ∀ state, stateOf rows id = some state → state.isSpawning = false
  | .pledge id => ∀ state, stateOf rows id = some state → state.isSpawning = false
  | .recover id listed => stateOf rows id = some listed
  | .lost id => ∃ state, stateOf rows id = some state ∧ state.isSettled = true
  | .request | .accept _ | .teardown _ | .startup => True

structure Valid (shared : Shared) (duty : Duty) : Prop where
  known : ∀ id, duty.subject = some id → id ∈ shared.born
  sound : duty.Sound shared.rows

structure Apart (first second : Duty) : Prop where
  before : first.excludes second = false
  after : second.excludes first = false
  claims : ∀ id, first.subject = some id → second.subject = some id → ∀ mine theirs, first.side = some mine →
    second.side = some theirs → mine.compatible theirs = true

theorem Apart.symm {first second : Duty} (apart : Apart first second) : Apart second first := by
  refine ⟨apart.after, apart.before, fun id mine theirs side other isMine isTheirs => ?_⟩
  rw [Side.compatible_comm]
  exact apart.claims id theirs mine other side isTheirs isMine

instance : Std.Symm Apart := ⟨fun _ _ => Apart.symm⟩

/-- Duties about different rows are apart, unless one of them excludes the other altogether. -/
theorem Apart.of_ne {first second : Duty} (before : first.excludes second = false)
    (after : second.excludes first = false)
    (different : ∀ id, first.subject = some id → second.subject = some id → False) : Apart first second :=
  ⟨before, after, fun id mine theirs => (different id mine theirs).elim⟩

/-- A duty keeps what it takes for granted while the row it claims keeps its state. -/
theorem Sound.frame {rows next : Rows} {duty : Duty} (sound : duty.Sound rows)
    (same : ∀ id side, duty.subject = some id → duty.side = some side → stateOf next id = stateOf rows id) :
    duty.Sound next := by
  cases duty with
  | request | accept | teardown | startup => trivial
  | holds id read =>
    intro settled
    rw [same id .settled rfl (if_pos settled)]
    exact sound settled
  | spawn id | setWorker id | pledge id | recover id | lost id =>
    simp only [Sound] at sound ⊢
    rw [same id _ rfl rfl]
    exact sound

/-- A row that begins to be deleted disturbs nobody but reconciliation. -/
theorem Sound.condemn {rows next : Rows} {duty : Duty} (sound : duty.Sound rows) {id : ClusterId}
    {state : ClusterState} (doomed : state.isDeleting = true) (unlisted : duty.side ≠ some .recovering)
    (change : ∀ other, stateOf next other = if other = id then some state else stateOf rows other) :
    duty.Sound next := by
  have calm := ClusterState.calm_of_isDeleting doomed
  by_cases about : duty.subject = some id
  · have here : stateOf next id = some state := by rw [change, if_pos rfl]
    cases duty <;> simp only [subject, Option.some.injEq, reduceCtorEq] at about
    all_goals try subst about
    all_goals simp_all [Sound, side]
  · refine sound.frame fun other side same _ => ?_
    rw [change, if_neg]
    rintro rfl
    exact about same

/-- A row that is removed disturbs only those who have it to themselves. -/
theorem Sound.removed {rows next : Rows} {duty : Duty} (sound : duty.Sound rows) {id : ClusterId}
    (shared : ∀ mine, duty.subject = some id → duty.side = some mine → mine.compatible .tearing = true)
    (removed : next = Repository.delete rows id) : duty.Sound next := by
  have change := Repository.stateOf_delete rows id
  rw [← removed] at change
  by_cases about : duty.subject = some id
  · have here : stateOf next id = none := by rw [change, if_pos rfl]
    cases duty <;> simp only [subject, Option.some.injEq, reduceCtorEq] at about
    all_goals try subst about
    all_goals simp_all [Sound, side, subject, Side.compatible]
  · refine sound.frame fun other side same _ => ?_
    rw [change, if_neg]
    rintro rfl
    exact about same

/-- A duty that takes over the place of another, and claims no more. -/
structure Inherits (id : ClusterId) (fresh mine : Duty) : Prop where
  taker : fresh.subject = some id
  giver : mine.subject = some id
  milder : ∀ side, fresh.side = some side → ∃ stronger, mine.side = some stronger ∧ side.milder stronger = true

theorem Apart.inherit {id : ClusterId} {fresh mine duty : Duty} (apart : Apart mine duty)
    (inherits : Inherits id fresh mine) : Apart fresh duty := by
  refine ⟨excludes_of_subject inherits.taker duty, ?_, fun other isFresh isTheirs side theirs has claimed => ?_⟩
  · have free := apart.after
    cases duty with
    | startup => cases free
    | request =>
      simp only [excludes, decide_eq_false_iff_not] at free ⊢
      intro recovering
      obtain ⟨stronger, has, milder⟩ := inherits.milder _ recovering
      rw [has, Option.some.injEq] at free
      exact free (Side.milder_recovering milder)
    | spawn | setWorker | holds | accept | pledge | teardown | recover | lost => rfl
  · obtain ⟨stronger, mineHas, milder⟩ := inherits.milder side has
    have same : other = id := Option.some.inj (isFresh.symm.trans inherits.taker)
    exact Side.compatible_milder milder (apart.claims other (same ▸ inherits.giver) isTheirs stronger theirs mineHas claimed)

variable {id : ClusterId}

theorem inherits_teardown_spawn (believed : ClusterState) : Inherits id (.teardown id) (.spawn id believed) :=
  ⟨rfl, rfl, by rintro side ⟨⟩; exact ⟨_, rfl, rfl⟩⟩

theorem inherits_setWorker_spawn (believed : ClusterState) : Inherits id (.setWorker id) (.spawn id believed) :=
  ⟨rfl, rfl, by rintro side ⟨⟩; exact ⟨_, rfl, rfl⟩⟩

theorem inherits_spawn_spawn (before after : ClusterState) : Inherits id (.spawn id after) (.spawn id before) :=
  ⟨rfl, rfl, by rintro side ⟨⟩; exact ⟨_, rfl, rfl⟩⟩

theorem inherits_teardown_pledge : Inherits id (.teardown id) (.pledge id) :=
  ⟨rfl, rfl, by rintro side ⟨⟩; exact ⟨_, rfl, rfl⟩⟩

theorem inherits_teardown_recover (listed : ClusterState) : Inherits id (.teardown id) (.recover id listed) :=
  ⟨rfl, rfl, by rintro side ⟨⟩; exact ⟨_, rfl, rfl⟩⟩

theorem inherits_lost_recover (listed : ClusterState) : Inherits id (.lost id) (.recover id listed) :=
  ⟨rfl, rfl, by rintro side ⟨⟩; exact ⟨_, rfl, rfl⟩⟩

theorem inherits_pledge_holds {read : ClusterState} (settled : read.isSettled = true) :
    Inherits id (.pledge id) (.holds id read) :=
  ⟨rfl, rfl, by rintro side ⟨⟩; exact ⟨_, if_pos settled, rfl⟩⟩

theorem inherits_accept_holds (read : ClusterState) : Inherits id (.accept id) (.holds id read) :=
  ⟨rfl, rfl, by rintro side ⟨⟩⟩

/-! ## Duties of requests -/

/-- Duties that two requests may have at once. -/
def isServing : Duty → Bool
  | .request | .holds .. | .accept _ | .pledge _ => true
  | .spawn .. | .setWorker _ | .teardown _ | .startup | .recover .. | .lost _ => false

theorem isServing_side {duty : Duty} (serving : duty.isServing = true) {side : Side}
    (has : duty.side = some side) : side = .settled := by
  cases duty <;> simp_all [isServing, Duty.side]

theorem unlisted_of_serving {duty : Duty} (serving : duty.isServing = true) :
    duty.side ≠ some .recovering ∧ duty ≠ .startup := by
  cases duty <;> simp_all [isServing, Duty.side]

theorem Apart.of_serving {first second : Duty} (left : first.isServing = true) (right : second.isServing = true) :
    Apart first second := by
  refine ⟨?_, ?_, fun id _ _ mine theirs isMine isTheirs => ?_⟩
  · cases first <;> cases second <;> simp_all [isServing, excludes, Duty.side]
  · cases first <;> cases second <;> simp_all [isServing, excludes, Duty.side]
  · rw [isServing_side left isMine, isServing_side right isTheirs]
    rfl

theorem Apart.teardown_serving {duty : Duty} (serving : duty.isServing = true) : Apart (.teardown id) duty := by
  refine ⟨rfl, ?_, fun other _ _ mine theirs isMine isTheirs => ?_⟩
  · cases duty <;> simp_all [isServing, excludes, Duty.side]
  · rw [isServing_side serving isTheirs]
    cases isMine
    rfl

theorem pairwise_of_serving {duties : List Duty} (serving : ∀ duty ∈ duties, duty.isServing = true) :
    duties.Pairwise Apart := by
  induction duties with
  | nil => exact .nil
  | cons head tail ih =>
    obtain ⟨first, rest⟩ := List.forall_mem_cons.mp serving
    exact .cons (fun duty member => Apart.of_serving first (rest duty member)) (ih rest)

theorem mem_pledgeOf {outcome : DeleteOutcome} {duty : Duty} :
    duty ∈ pledgeOf id outcome ↔ outcome = .startTeardown ∧ duty = .pledge id := by
  cases outcome <;> simp [pledgeOf]

/-- What a request owes once it has condemned its row. -/
theorem of_mem_condemned {caller : Caller} {outcome : DeleteOutcome} {duty : Duty}
    (member : duty ∈ Duty.request :: (caller.answers id ++ caller.duties ++ pledgeOf id outcome)) :
    duty = .request ∨ duty = .accept id ∨ duty ∈ caller.duties ∨ outcome = .startTeardown ∧ duty = .pledge id := by
  rcases List.mem_cons.mp member with rfl | inner
  · exact .inl rfl
  rcases List.mem_append.mp inner with front | promised
  · rcases List.mem_append.mp front with accepted | owed
    · cases caller with
      | reaper => cases accepted
      | handler => exact .inr (.inl (List.mem_singleton.mp accepted))
    · exact .inr (.inr (.inl owed))
  · exact .inr (.inr (.inr (mem_pledgeOf.mp promised)))

theorem isServing_pledges {results : List (Cluster × DeleteOutcome)} {duty : Duty} (owed : duty ∈ pledges results) :
    duty.isServing = true := by
  obtain ⟨result, -, inner⟩ := List.mem_flatMap.mp owed
  rw [(mem_pledgeOf.mp inner).2]
  rfl

theorem isServing_caller {caller : Caller} {duty : Duty} (owed : duty ∈ caller.duties) : duty.isServing = true := by
  cases caller with
  | handler => cases owed
  | reaper now todo results => exact isServing_pledges owed

/-! ## Duties while rows change -/

theorem Valid.frame {duty : Duty} (valid : Valid shared duty) (born : ∀ id ∈ shared.born, id ∈ after.born)
    (same : ∀ id side, duty.subject = some id → duty.side = some side →
      stateOf after.rows id = stateOf shared.rows id) : Valid after duty :=
  ⟨fun id about => born id (valid.known id about), valid.sound.frame same⟩

/-- Nobody else claims a row that a spawn or reconciliation has to itself. -/
theorem Apart.exclusive {mine duty : Duty} (apart : Apart mine duty) {side : Side} (about : mine.subject = some id)
    (has : mine.side = some side) (alone : side = .spawning ∨ side = .recovering) {theirs : Side}
    (same : duty.subject = some id) (claimed : duty.side = some theirs) : False := by
  have compatible := apart.claims id about same side theirs has claimed
  rcases alone with rfl | rfl <;> cases theirs <;> cases compatible

theorem Valid.beside {mine duty : Duty} (valid : Valid shared duty) (apart : Apart mine duty) {side : Side}
    (about : mine.subject = some id) (has : mine.side = some side) (alone : side = .spawning ∨ side = .recovering)
    {state : ClusterState} (born : ∀ id ∈ shared.born, id ∈ after.born)
    (written : Repository.updateState shared.rows id state = .ok after.rows) : Valid after duty := by
  refine valid.frame born fun other theirs same claimed => ?_
  rw [Repository.stateOf_updateState written, if_neg]
  rintro rfl
  exact apart.exclusive about has alone same claimed

theorem Valid.removed {duty : Duty} (valid : Valid shared duty) (apart : Apart (.teardown id) duty)
    (born : ∀ id ∈ shared.born, id ∈ after.born) (rows : after.rows = Repository.delete shared.rows id) :
    Valid after duty := by
  refine ⟨fun id about => born id (valid.known id about), ?_⟩
  refine valid.sound.removed (fun mine about has => ?_) rows
  rw [Side.compatible_comm]
  exact apart.claims id rfl about .tearing mine rfl has

end Duty

open Duty (Valid Apart)

theorem stateOf_quiet {rows next : Rows} {setter : Option (ClusterId × WorkerUser)}
    (quiet : next = rows ∨ ∃ id worker, setter = some (id, worker) ∧ Repository.setWorker rows id worker = .ok next)
    (id : ClusterId) : stateOf next id = stateOf rows id := by
  rcases quiet with same | ⟨other, worker, -, written⟩
  · rw [same]
  · exact Repository.stateOf_setWorker written

theorem mem_recoveries {todo : List Cluster} {duty : Duty} :
    duty ∈ recoveries todo ↔ ∃ cluster ∈ todo, duty = .recover cluster.id cluster.state := by
  simp only [recoveries, List.mem_map, eq_comm]

/-- What the other tasks take for granted survives a step that is apart from them. -/
theorem Effect.others (effect : Effect deps answer shared after task left) (drawn : task.draws answer shared = true)
    {duty : Duty} (valid : Valid shared duty) (apart : ∀ mine ∈ task.duties, Apart mine duty) :
    Valid after duty := by
  have born : ∀ id ∈ shared.born, id ∈ after.born := fun _ known => effect.born_subset known
  cases effect with
  | quiet rows log => exact valid.frame born fun id _ _ _ => stateOf_quiet rows id
  | inserted rows log =>
    have fresh : answer.id ∉ shared.born := by simpa [Task.draws] using drawn
    refine valid.frame born fun id _ about _ => ?_
    rw [Repository.stateOf_insert rows, if_neg]
    rintro rfl
    exact fresh (valid.known _ about)
  | persisted rows log => exact valid.beside (apart _ List.mem_cons_self) rfl rfl (.inl rfl) born rows
  | condemned written rows log =>
    have serving := (apart .request List.mem_cons_self).before
    refine ⟨fun id about => born id (valid.known id about), valid.sound.condemn ?_ ?_ fun other =>
      Repository.stateOf_updateState rows⟩
    · exact written ▸ condemned_isDeleting ..
    · simpa [Duty.excludes] using serving
  | removed rows log => exact valid.removed (apart _ List.mem_cons_self) born rows
  | marked orphan rows log => exact valid.beside (apart _ List.mem_cons_self) rfl rfl (.inr rfl) born rows
  | failed rows log => exact valid.beside (apart _ List.mem_cons_self) rfl rfl (.inr rfl) born rows
  | turned rows log | checked rows log | read rows log | answered other rows log | followed rows log
  | dispatched rows log | listed rows log | resumed doomed rows log | missed ready rows log =>
    exact valid.frame born fun id _ _ _ => by rw [rows]

/-- What the acting task becomes takes for granted what holds. -/
theorem Effect.own (effect : Effect deps answer shared after task left) (table : shared.TableSound)
    (own : ∀ duty ∈ task.duties, Valid shared duty) (pairs : task.duties.Pairwise Apart) :
    ∀ fresh ∈ left, Valid after fresh := by
  have born : ∀ id ∈ shared.born, id ∈ after.born := fun _ known => effect.born_subset known
  have request : Valid after .request := ⟨fun _ about => (by cases about), trivial⟩
  cases effect with
  | quiet rows log fewer =>
    exact fun fresh member => (own fresh (fewer.subset member)).frame born fun id _ _ _ => stateOf_quiet rows id
  | inserted rows log =>
    intro fresh member
    rw [List.mem_singleton.mp member]
    refine ⟨?_, rfl, ?_⟩
    · rintro id ⟨⟩
      rw [show after.born = _ from congrArg Prod.fst log]
      exact List.mem_cons_self
    · exact ⟨_, (Repository.stateOf_insert rows).trans (if_pos rfl), rfl⟩
  | turned rows log fewer =>
    have mine := own _ List.mem_cons_self
    intro fresh member
    rcases List.mem_cons.mp member with rfl | later
    · exact ⟨fun id about => born id (mine.known id about), trivial⟩
    · rw [List.mem_singleton.mp (fewer.subset later)]
      refine ⟨fun id about => born id (mine.known id about), fun state found => ?_⟩
      obtain ⟨-, current, here, unsettled⟩ := mine.sound
      rw [rows, here, Option.some.injEq] at found
      exact found ▸ unsettled
  | checked rows log found alive =>
    have mine := own _ List.mem_cons_self
    intro fresh member
    rw [List.mem_singleton.mp member]
    obtain ⟨-, current, here, unsettled⟩ := mine.sound
    have state := Repository.stateOf_eq_some.mpr ⟨_, found, rfl⟩
    obtain rfl : current = _ := Option.some.inj (here.symm.trans state)
    refine ⟨fun id about => born id (mine.known id about), ?_, _, rows ▸ here, unsettled⟩
    rw [ClusterState.isSettled_eq, alive, Bool.not_false, Bool.and_true] at unsettled
    simpa using unsettled
  | persisted rows log | answered other rows log => exact fun fresh member => (List.not_mem_nil member).elim
  | read rows log found owned =>
    intro fresh member
    rcases List.mem_cons.mp member with rfl | inner
    · exact request
    rcases List.mem_cons.mp inner with rfl | owed
    · have named := Repository.getAny_id found
      have state := Repository.stateOf_eq_some.mpr ⟨_, found, rfl⟩
      refine ⟨?_, fun settled state' here => ?_⟩
      · rintro id ⟨⟩
        rw [named]
        exact born _ (table.stateOf_born state)
      · rw [rows, named, state, Option.some.injEq] at here
        rw [ClusterState.isSettled_eq, here] at settled
        simp_all
    · exact (own fresh (List.mem_cons_of_mem _ owed)).frame born fun id _ _ _ => by rw [rows]
  | @condemned id owner reason caller read state written rows log =>
    have held := own (.holds read.id read.state) (by simp [Task.duties])
    have doomed : state.isDeleting = true := written ▸ condemned_isDeleting ..
    intro fresh member
    rcases Duty.of_mem_condemned member with rfl | rfl | owed | ⟨-, rfl⟩
    · exact request
    · exact ⟨fun id about => born id (held.known id about), trivial⟩
    · have valid := own fresh (by simp [Task.duties, owed])
      refine ⟨fun id about => born id (valid.known id about), valid.sound.condemn doomed ?_ fun other =>
        Repository.stateOf_updateState rows⟩
      intro recovering
      cases Duty.isServing_side (Duty.isServing_caller owed) recovering
    · refine ⟨fun id about => born id (held.known id about), fun state' here => ?_⟩
      rw [Repository.stateOf_updateState rows, if_pos rfl, Option.some.injEq] at here
      exact here ▸ (ClusterState.calm_of_isDeleting doomed).2
  | @followed cluster rows log =>
    have mine := own (.pledge cluster.id) (by simp [Task.duties, pledgeOf])
    intro fresh member
    rw [List.mem_singleton.mp member]
    exact ⟨fun id about => born id (mine.known id about), trivial⟩
  | @dispatched cluster rest rows log =>
    have mine := own (.pledge cluster.id) (by simp [Task.duties, pledges, pledgeOf])
    intro fresh member
    rcases List.mem_cons.mp member with rfl | inner
    · exact ⟨fun id about => born id (mine.known id about), trivial⟩
    rcases List.mem_cons.mp inner with rfl | owed
    · exact request
    · refine (own fresh ?_).frame born fun id _ _ _ => by rw [rows]
      exact List.mem_cons_of_mem _ (List.mem_cons_of_mem _ owed)
  | removed rows log =>
    obtain ⟨apart, -⟩ := List.pairwise_cons.mp pairs
    exact fun fresh member => (own fresh (List.mem_cons_of_mem _ member)).removed (apart fresh member) born rows
  | listed rows log =>
    intro fresh member
    obtain ⟨row, stored, rfl⟩ := mem_recoveries.mp member
    refine ⟨?_, ?_⟩
    · rintro id ⟨⟩
      exact born _ (table.born row stored)
    · rw [Duty.Sound, rows]
      exact Repository.stateOf_eq_some.mpr ⟨row, table.ids.lookup_of_mem stored, rfl⟩
  | marked orphan rows log =>
    have mine := own _ List.mem_cons_self
    obtain ⟨apart, -⟩ := List.pairwise_cons.mp pairs
    intro fresh member
    rcases List.mem_cons.mp member with rfl | later
    · exact ⟨fun id about => born id (mine.known id about), trivial⟩
    · exact (own fresh (List.mem_cons_of_mem _ later)).beside (apart fresh later) rfl rfl (.inr rfl) born rows
  | resumed doomed rows log =>
    have mine := own _ List.mem_cons_self
    intro fresh member
    rcases List.mem_cons.mp member with rfl | later
    · exact ⟨fun id about => born id (mine.known id about), trivial⟩
    · exact (own fresh (List.mem_cons_of_mem _ later)).frame born fun id _ _ _ => by rw [rows]
  | missed ready rows log =>
    have mine := own _ List.mem_cons_self
    intro fresh member
    rcases List.mem_cons.mp member with rfl | later
    · exact ⟨fun id about => born id (mine.known id about), _, rows ▸ mine.sound, ready⟩
    · exact (own fresh (List.mem_cons_of_mem _ later)).frame born fun id _ _ _ => by rw [rows]
  | failed rows log =>
    obtain ⟨apart, -⟩ := List.pairwise_cons.mp pairs
    intro fresh later
    exact (own fresh (List.mem_cons_of_mem _ later)).beside (apart fresh later) rfl rfl (.inr rfl) born rows

/-- Reconciliation hands a listed row over to what it becomes. -/
theorem pairwise_recovered {id : ClusterId} {fresh : Duty} {listed : ClusterState} {todo : List Cluster}
    (pairs : (Duty.recover id listed :: recoveries todo).Pairwise Apart)
    (inherits : Duty.Inherits id fresh (.recover id listed)) : (fresh :: recoveries todo).Pairwise Apart := by
  obtain ⟨apart, rest⟩ := List.pairwise_cons.mp pairs
  exact .cons (fun duty member => (apart duty member).inherit inherits) rest

/-- What the acting task becomes keeps apart. -/
theorem Effect.pairs (effect : Effect deps answer shared after task left) (table : shared.TableSound)
    (pairs : task.duties.Pairwise Apart) : left.Pairwise Apart := by
  cases effect with
  | quiet rows log fewer => exact pairs.sublist fewer
  | inserted | checked | followed => exact List.pairwise_singleton ..
  | persisted | answered => exact .nil
  | @turned cluster token projectTar stage left rows log fewer =>
    refine List.Pairwise.sublist (fewer.cons_cons (.teardown cluster.id)) ?_
    refine List.pairwise_pair.mpr ⟨rfl, rfl, fun id _ _ mine theirs isMine isTheirs => ?_⟩
    cases isMine
    cases isTheirs
    rfl
  | read rows log found owned =>
    refine Duty.pairwise_of_serving fun duty member => ?_
    rcases List.mem_cons.mp member with rfl | inner
    · rfl
    rcases List.mem_cons.mp inner with rfl | owed
    · rfl
    · exact Duty.isServing_caller owed
  | @condemned id owner reason caller read state written rows log =>
    refine Duty.pairwise_of_serving fun duty member => ?_
    rcases Duty.of_mem_condemned member with rfl | rfl | owed | ⟨-, rfl⟩
    · rfl
    · rfl
    · exact Duty.isServing_caller owed
    · rfl
  | @dispatched cluster rest rows log =>
    have serving : ∀ duty ∈ Duty.request :: pledges rest, duty.isServing = true := by
      intro duty member
      rcases List.mem_cons.mp member with rfl | owed
      · rfl
      · exact Duty.isServing_pledges owed
    exact .cons (fun duty member => Apart.teardown_serving (serving duty member)) (Duty.pairwise_of_serving serving)
  | removed rows log => exact (List.pairwise_cons.mp pairs).2
  | listed rows log =>
    have distinct : shared.rows.Pairwise fun first second => first.id ≠ second.id :=
      List.pairwise_map.mp table.ids
    refine List.pairwise_map.mpr (distinct.imp fun different => ?_)
    exact Apart.of_ne rfl rfl fun id isFirst isSecond =>
      different ((Option.some.inj isFirst).trans (Option.some.inj isSecond).symm)
  | marked orphan rows log => exact pairwise_recovered pairs (Duty.inherits_teardown_recover _)
  | resumed doomed rows log => exact pairwise_recovered pairs (Duty.inherits_teardown_recover _)
  | missed ready rows log => exact pairwise_recovered pairs (Duty.inherits_lost_recover _)
  | failed rows log => exact (List.pairwise_cons.mp pairs).2

/-- A row read as settled is not one that somebody spawns, or sets the account of. -/
theorem Duty.Valid.apart_holds {duty : Duty} (valid : Valid shared duty) {id : ClusterId} {read : ClusterState}
    (found : stateOf shared.rows id = some read) (serving : Apart .request duty) : Apart (.holds id read) duty := by
  refine ⟨rfl, ?_, fun other same about mine theirs isMine isTheirs => ?_⟩
  · have free := serving.after
    cases duty <;> simp_all [Duty.excludes, Duty.side]
  · cases same
    have settled : read.isSettled = true ∧ mine = .settled := by
      simp only [Duty.side] at isMine
      split at isMine
      · next settled => exact ⟨settled, (Option.some.inj isMine).symm⟩
      · cases isMine
    obtain ⟨settled, rfl⟩ := settled
    have sound := valid.sound
    have unlisted : theirs ≠ .recovering := by
      have free := serving.before
      rintro rfl
      simp [Duty.excludes, isTheirs] at free
    cases duty with
    | spawn id believed =>
      cases about
      obtain ⟨-, state, here, unsettled⟩ := sound
      rw [found, Option.some.injEq] at here
      simp_all
    | setWorker id =>
      cases about
      have unsettled := sound _ found
      simp_all
    | request | accept | startup => cases isTheirs
    | pledge | teardown => cases isTheirs; rfl
    | recover | lost => exact absurd (Option.some.inj isTheirs).symm unlisted
    | holds id read' =>
      rw [Duty.isServing_side rfl isTheirs]
      rfl

/-- What the acting task becomes keeps apart from the others. -/
theorem Effect.across (effect : Effect deps answer shared after task left) (drawn : task.draws answer shared = true)
    {duty : Duty} (valid : Valid shared duty) (apart : ∀ mine ∈ task.duties, Apart mine duty) :
    ∀ fresh ∈ left, Apart fresh duty := by
  cases effect with
  | quiet rows log fewer => exact fun fresh member => apart fresh (fewer.subset member)
  | inserted rows log =>
    have fresh : answer.id ∉ shared.born := by simpa [Task.draws] using drawn
    have serving := apart .request List.mem_cons_self
    intro new member
    rw [List.mem_singleton.mp member]
    refine Apart.of_ne rfl ?_ fun id isNew about => ?_
    · have free := serving.after
      cases duty <;> simp_all [Duty.excludes, Duty.side]
    · cases isNew
      exact fresh (valid.known _ about)
  | turned rows log fewer =>
    have mine := apart _ List.mem_cons_self
    intro fresh member
    rcases List.mem_cons.mp member with rfl | later
    · exact mine.inherit (Duty.inherits_teardown_spawn _)
    · rw [List.mem_singleton.mp (fewer.subset later)]
      exact mine.inherit (Duty.inherits_setWorker_spawn _)
  | checked rows log found alive =>
    intro fresh member
    rw [List.mem_singleton.mp member]
    exact (apart _ List.mem_cons_self).inherit (Duty.inherits_spawn_spawn _ _)
  | persisted | answered => exact fun fresh member => (List.not_mem_nil member).elim
  | read rows log found owned =>
    have serving := apart .request List.mem_cons_self
    intro fresh member
    rcases List.mem_cons.mp member with rfl | inner
    · exact serving
    rcases List.mem_cons.mp inner with rfl | owed
    · exact valid.apart_holds (Repository.stateOf_eq_some.mpr ⟨_, Repository.getAny_id found ▸ found, rfl⟩) serving
    · exact apart fresh (List.mem_cons_of_mem _ owed)
  | @condemned id owner reason caller read state written rows log =>
    have held := apart (.holds read.id read.state) (by simp [Task.duties])
    intro fresh member
    rcases Duty.of_mem_condemned member with rfl | rfl | owed | ⟨started, rfl⟩
    · exact apart .request List.mem_cons_self
    · exact held.inherit (Duty.inherits_accept_holds _)
    · exact apart fresh (by simp [Task.duties, owed])
    · exact held.inherit (Duty.inherits_pledge_holds (ClusterService.deleteOutcome_eq_startTeardown.mp started))
  | @followed cluster rows log =>
    intro fresh member
    rw [List.mem_singleton.mp member]
    exact (apart (.pledge cluster.id) (by simp [Task.duties, pledgeOf])).inherit Duty.inherits_teardown_pledge
  | @dispatched cluster rest rows log =>
    intro fresh member
    rcases List.mem_cons.mp member with rfl | inner
    · exact (apart (.pledge cluster.id) (by simp [Task.duties, pledges, pledgeOf])).inherit
        Duty.inherits_teardown_pledge
    rcases List.mem_cons.mp inner with rfl | owed
    · exact apart .request List.mem_cons_self
    · exact apart fresh (List.mem_cons_of_mem _ (List.mem_cons_of_mem _ owed))
  | removed rows log => exact fun fresh member => apart fresh (List.mem_cons_of_mem _ member)
  | listed rows log => cases (apart .startup List.mem_cons_self).before
  | marked orphan rows log | resumed doomed rows log =>
    intro fresh member
    rcases List.mem_cons.mp member with rfl | later
    · exact (apart _ List.mem_cons_self).inherit (Duty.inherits_teardown_recover _)
    · exact apart fresh (List.mem_cons_of_mem _ later)
  | missed ready rows log =>
    intro fresh member
    rcases List.mem_cons.mp member with rfl | later
    · exact (apart _ List.mem_cons_self).inherit (Duty.inherits_lost_recover _)
    · exact apart fresh (List.mem_cons_of_mem _ later)
  | failed rows log => exact fun fresh member => apart fresh (List.mem_cons_of_mem _ member)

theorem not_holds_of_pledges {results : List (Cluster × DeleteOutcome)} {id : ClusterId} {read : ClusterState} :
    .holds id read ∉ pledges results := by
  intro member
  obtain ⟨result, -, owed⟩ := List.mem_flatMap.mp member
  cases (Duty.mem_pledgeOf.mp owed).2

theorem not_holds_of_recoveries {todo : List Cluster} {id : ClusterId} {read : ClusterState} :
    .holds id read ∉ recoveries todo := by
  intro member
  obtain ⟨cluster, -, same⟩ := mem_recoveries.mp member
  cases same

/-- What a request holds it has just read, or held before. -/
theorem Effect.holds (effect : Effect deps answer shared after task left) {id : ClusterId} {read : ClusterState}
    (member : .holds id read ∈ left) :
    .holds id read ∈ task.duties ∨ (after.rows = shared.rows ∧ stateOf shared.rows id = some read) := by
  cases effect with
  | quiet rows log fewer => exact .inl (fewer.subset member)
  | @read id owner reason caller row rows log found owned =>
    simp only [List.mem_cons, reduceCtorEq, Duty.holds.injEq, false_or] at member
    rcases member with ⟨rfl, rfl⟩ | owed
    · exact .inr ⟨rows, Repository.stateOf_eq_some.mpr ⟨row, Repository.getAny_id found ▸ found, rfl⟩⟩
    · exact .inl (List.mem_cons_of_mem _ owed)
  | @condemned id owner reason caller read state written rows log calm =>
    rcases Duty.of_mem_condemned member with same | same | owed | ⟨-, same⟩
    · cases same
    · cases same
    · exact .inl (List.mem_cons_of_mem _ (List.mem_cons_of_mem _ owed))
    · cases same
  | turned rows log fewer =>
    rcases List.mem_cons.mp member with same | later
    · cases same
    · cases List.mem_singleton.mp (fewer.subset later)
  | removed rows log => exact .inl (List.mem_cons_of_mem _ member)
  | dispatched rows log =>
    simp only [List.mem_cons, reduceCtorEq, false_or] at member
    exact absurd member not_holds_of_pledges
  | inserted | checked | persisted | answered | followed => simp at member
  | listed | failed => exact absurd member not_holds_of_recoveries
  | marked | resumed | missed =>
    simp only [List.mem_cons, reduceCtorEq, false_or] at member
    exact absurd member not_holds_of_recoveries

/-! ## Runs -/

def System.Owned (system : System) : Prop := Holds Task.duties Shared.TableSound Valid Apart system.pool

theorem Request.duties (request : Request) : request.task.duties = [.request] := by
  cases request <;> rfl

/-- A task that serves a request does nothing else. -/
theorem Task.serving_of_request (requests : .request ∈ task.duties) {duty : Duty} (owed : duty ∈ task.duties) :
    duty.isServing = true := by
  cases task with
  | create | sweep =>
    rw [List.mem_singleton.mp owed]
    rfl
  | launch | spawn => cases List.mem_singleton.mp requests
  | unregister | staging => cases requests
  | teardown cluster stage next =>
    rcases List.mem_cons.mp requests with same | later
    · cases same
    · cases next with
      | done | unregister => cases later
      | resume todo =>
        obtain ⟨row, -, same⟩ := mem_recoveries.mp later
        cases same
  | requestDelete id owner reason caller read =>
    cases read with
    | none =>
      rcases List.mem_cons.mp owed with rfl | rest
      · rfl
      · exact Duty.isServing_caller rest
    | some read =>
      rcases List.mem_cons.mp owed with rfl | rest
      · rfl
      rcases List.mem_cons.mp rest with rfl | rest
      · rfl
      · exact Duty.isServing_caller rest
  | followDelete cluster outcome =>
    rcases List.mem_cons.mp owed with rfl | rest
    · rfl
    rcases List.mem_cons.mp rest with rfl | rest
    · rfl
    · rw [(Duty.mem_pledgeOf.mp rest).2]
      rfl
  | reap now todo results | dispatch results =>
    rcases List.mem_cons.mp owed with rfl | rest
    · rfl
    · exact Duty.isServing_pledges rest
  | late effect => cases effect <;> simp [Task.duties] at requests
  | reconcile => cases List.mem_singleton.mp requests
  | reconcileRows todo =>
    obtain ⟨row, -, same⟩ := mem_recoveries.mp requests
    cases same
  | reconcileLost cluster todo =>
    rcases List.mem_cons.mp requests with same | later
    · cases same
    · obtain ⟨row, -, same⟩ := mem_recoveries.mp later
      cases same

/-- Nothing that waits for reconciliation to end is there once it has ended. -/
theorem apart_request_of_admitted {request : Request} {tasks : List Task} (admitted : request.admitted tasks = true)
    {task : Task} (member : task ∈ tasks) {duty : Duty} (owed : duty ∈ task.duties) : Apart .request duty := by
  have started : task.isStartup = false := by
    simp only [Request.admitted, Bool.and_eq_true, List.all_eq_true, Bool.not_eq_true'] at admitted
    exact admitted.1 task member
  have unlisted : duty.side ≠ some .recovering ∧ duty ≠ .startup := by
    cases task with
    | reconcile | reconcileRows | reconcileLost => cases started
    | teardown cluster stage next =>
      cases next with
      | resume => cases started
      | done | unregister =>
        rw [List.mem_singleton.mp owed]
        simp [Duty.side]
    | create | sweep | launch | spawn =>
      rw [List.mem_singleton.mp owed]
      simp [Duty.side]
    | unregister | staging => cases owed
    | late effect =>
      cases effect <;> simp only [Task.duties, List.mem_singleton, List.not_mem_nil] at owed
      rw [owed]
      simp [Duty.side]
    | requestDelete id owner reason caller read =>
      cases read <;> exact Duty.unlisted_of_serving (Task.serving_of_request List.mem_cons_self owed)
    | followDelete | reap | dispatch =>
      exact Duty.unlisted_of_serving (Task.serving_of_request List.mem_cons_self owed)
  refine Apart.of_ne ?_ ?_ fun id isRequest => by cases isRequest
  · simp [Duty.excludes, unlisted.1]
  · cases duty <;> simp_all [Duty.excludes, Duty.side]

theorem boot_owned (deps : TaskDeps) {shared : Shared} (table : shared.TableSound) :
    (System.boot deps shared).Owned := by
  refine ⟨table.same rfl rfl, fun task member duty owed => ?_, List.pairwise_singleton ..⟩
  rw [List.mem_singleton.mp member] at owed
  rw [List.mem_singleton.mp owed]
  exact ⟨fun _ about => (by cases about), trivial⟩

theorem System.Owned.effect {system after : System} {index : Nat} {answer : Answer} (owned : system.Owned)
    (moved : system.next (.step index answer) = some after) :
    ∃ task, system.tasks[index]? = some task ∧ task.draws answer system.shared = true ∧
      Effect system.deps answer system.shared after.shared task
        ((task.step system.deps answer system.shared).2.flatMap Task.duties) ∧
      after = system.advance index answer task := by
  obtain ⟨task, found, draws, rfl⟩ := next_step moved
  exact ⟨task, found, draws, step_acts owned.shared.ids task, rfl⟩

/-- What else is assumed of the state and of the duties, where every step meets a condition. -/
structure Discipline (cond : TaskDeps → Answer → Shared → Task → Prop) (Global : Shared → Prop)
    (Local : Shared → Duty → Prop) (Beside : Duty → Duty → Prop) : Prop where
  symmetric : ∀ first second, Beside first second → Beside second first
  still : ∀ {shared after : Shared}, after.rows = shared.rows → after.log = shared.log → Global shared →
    Global after ∧ ∀ duty, Local shared duty → Local after duty
  request : ∀ shared duty, Local shared .request ∧ Beside .request duty
  step : ∀ {deps : TaskDeps} {answer : Answer} {shared after : Shared} {task : Task} {left : List Duty},
    Effect deps answer shared after task left → cond deps answer shared task → task.draws answer shared = true →
    shared.TableSound → Global shared → (∀ duty ∈ task.duties, Valid shared duty ∧ Local shared duty) →
    task.duties.Pairwise Apart → task.duties.Pairwise Beside →
      Global after ∧ (∀ fresh ∈ left, Local after fresh) ∧ left.Pairwise Beside ∧
        ∀ duty, Valid shared duty → Local shared duty →
          (∀ mine ∈ task.duties, Apart mine duty ∧ Beside mine duty) →
            Local after duty ∧ ∀ fresh ∈ left, Beside fresh duty

variable {cond : TaskDeps → Answer → Shared → Task → Prop} {Global : Shared → Prop}
  {Local : Shared → Duty → Prop} {Beside : Duty → Duty → Prop}

/-- The table, the claims on rows, and what else is assumed. -/
def System.Disciplined (Global : Shared → Prop) (Local : Shared → Duty → Prop) (Beside : Duty → Duty → Prop)
    (system : System) : Prop :=
  Holds Task.duties (fun shared => shared.TableSound ∧ Global shared)
    (fun shared duty => Valid shared duty ∧ Local shared duty)
    (fun first second => Apart first second ∧ Beside first second) system.pool

theorem System.Disciplined.owned {system : System} (holds : system.Disciplined Global Local Beside) :
    system.Owned :=
  ⟨holds.shared.1, fun task member duty owed => (holds.each task member duty owed).1,
    holds.pairs.imp And.left⟩

theorem Discipline.next (discipline : Discipline cond Global Local Beside) {system after : System} {label : Label}
    (holds : system.Disciplined Global Local Beside) (permitted : Permits cond system label)
    (moved : system.next label = some after) : after.Disciplined Global Local Beside := by
  have symmetric : ∀ first second : Duty, Apart first second ∧ Beside first second →
      Apart second first ∧ Beside second first :=
    fun first second apart => ⟨apart.1.symm, discipline.symmetric _ _ apart.2⟩
  cases label with
  | request request =>
    obtain ⟨admitted, rfl⟩ := next_request moved
    have duties : [request.task].flatMap Task.duties = [.request] := by
      rw [List.flatMap_singleton, Request.duties]
    refine Holds.join symmetric holds ?_ ?_ ?_ <;> rw [duties]
    · intro fresh member
      rw [List.mem_singleton.mp member]
      exact ⟨⟨fun _ about => (by cases about), trivial⟩, (discipline.request system.shared .request).1⟩
    · exact List.pairwise_singleton ..
    · intro fresh member task inside duty owed
      rw [List.mem_singleton.mp member]
      exact ⟨apart_request_of_admitted admitted inside owed, (discipline.request system.shared duty).2⟩
  | step index answer =>
    obtain ⟨task, found, draws, effect, rfl⟩ := holds.owned.effect moved
    obtain ⟨each, pairs⟩ := holds.own found
    have valid : ∀ duty ∈ task.duties, Valid system.shared duty := fun duty owed => (each duty owed).1
    obtain ⟨global, own, beside, others⟩ := discipline.step effect (permitted task found) draws holds.shared.1
      holds.shared.2 each (pairs.imp And.left) (pairs.imp And.right)
    refine Holds.replace symmetric symmetric holds found ⟨effect.table holds.shared.1, global⟩ ?_ ?_
      (fun _ _ apart => apart) ?_ ?_
    · exact fun fresh member =>
        ⟨effect.own holds.shared.1 valid (pairs.imp And.left) fresh member, own fresh member⟩
    · exact fun duty theirs apart => ⟨effect.others draws theirs.1 fun mine isMine => (apart mine isMine).1,
        (others duty theirs.1 theirs.2 apart).1⟩
    · exact (effect.pairs holds.shared.1 (pairs.imp And.left)).and beside
    · exact fun fresh member duty theirs apart =>
        ⟨effect.across draws theirs.1 (fun mine isMine => (apart mine isMine).1) fresh member,
          (others duty theirs.1 theirs.2 apart).2 fresh member⟩
  | world change =>
    obtain ⟨world, -, rfl⟩ := next_world moved
    have still : Global { system.shared with world := world } ∧
        ∀ duty, Local system.shared duty → Local { system.shared with world := world } duty :=
      discipline.still rfl rfl holds.shared.2
    obtain ⟨global, each⟩ := still
    exact Holds.shift holds ⟨holds.shared.1.same rfl rfl, global⟩
      (fun duty theirs => ⟨⟨theirs.1.known, theirs.1.sound⟩, each duty theirs.2⟩) fun _ _ apart => apart
  | restart deps => exact permitted.elim

/-- In one lifetime whose steps all meet the condition, the discipline is kept. -/
theorem Discipline.run (discipline : Discipline cond Global Local Beside) {start finish : System}
    (run : Run System.next (Permits cond) start finish) (initial : start.Disciplined Global Local Beside) :
    finish.Disciplined Global Local Beside :=
  run.invariant initial fun _ _ _ holds permitted moved => discipline.next holds permitted moved

/-- Ownership needs no condition. -/
theorem ownership : Discipline (fun _ _ _ _ => True) (fun _ => True) (fun _ _ => True) (fun _ _ => True) where
  symmetric := fun _ _ _ => trivial
  still := fun _ _ _ => ⟨trivial, fun _ _ => trivial⟩
  request := fun _ _ => ⟨trivial, trivial⟩
  step := fun _ _ _ _ _ _ _ _ => ⟨trivial, fun _ _ => trivial, List.pairwise_of_forall fun _ _ => trivial,
    fun _ _ _ _ => ⟨trivial, fun _ _ => trivial⟩⟩

theorem System.Owned.next {system after : System} {label : Label} (owned : system.Owned)
    (moved : system.next label = some after) : after.Owned := by
  have trivially : system.Disciplined (fun _ => True) (fun _ _ => True) (fun _ _ => True) :=
    ⟨⟨owned.shared, trivial⟩, fun task member duty owed => ⟨owned.each task member duty owed, trivial⟩,
      owned.pairs.imp fun apart => ⟨apart, trivial⟩⟩
  cases label with
  | request request =>
    have permitted : Permits (fun _ _ _ _ => True) system (.request request) := trivial
    exact (ownership.next trivially permitted moved).owned
  | world change =>
    have permitted : Permits (fun _ _ _ _ => True) system (.world change) := trivial
    exact (ownership.next trivially permitted moved).owned
  | step index answer =>
    have permitted : Permits (fun _ _ _ _ => True) system (.step index answer) := fun _ _ => trivial
    exact (ownership.next trivially permitted moved).owned
  | restart deps =>
    obtain ⟨-, rfl⟩ := next_restart moved
    exact boot_owned deps owned.shared

theorem empty_tableSound : Shared.empty.TableSound := ⟨List.nodup_nil, List.nodup_nil, fun _ member => (List.not_mem_nil member).elim⟩

theorem owned_of_run {deps : TaskDeps} {finish : System}
    (run : Run System.next (fun _ _ => True) (.boot deps .empty) finish) : finish.Owned :=
  run.invariant (boot_owned deps empty_tableSound) fun _ _ _ owned _ moved => owned.next moved

/-- A process that starts keeps a discipline that holds of its table and asks nothing of its one task. -/
theorem boot_disciplined (deps : TaskDeps) {shared : Shared} (table : shared.TableSound)
    (global : ∀ shared : Shared, shared.TableSound → shared.teardowns = [] → shared.accepted = [] → Global shared)
    (local_ : ∀ shared : Shared, shared.teardowns = [] → Local shared .startup) :
    (System.boot deps shared).Disciplined Global Local Beside := by
  refine ⟨⟨table.same rfl rfl, global _ (table.same rfl rfl) rfl rfl⟩, fun task member duty owed => ?_,
    List.pairwise_singleton ..⟩
  rw [List.mem_singleton.mp member] at owed
  rw [List.mem_singleton.mp owed]
  exact ⟨⟨fun _ about => (by cases about), trivial⟩, local_ _ rfl⟩

theorem Started.disciplined {start : System} (started : Started start)
    (global : ∀ shared : Shared, shared.TableSound → shared.teardowns = [] → shared.accepted = [] → Global shared)
    (local_ : ∀ shared : Shared, shared.teardowns = [] → Local shared .startup) :
    start.Disciplined Global Local Beside := by
  cases started with
  | boot deps run => exact boot_disciplined deps (owned_of_run run).shared global local_

end AppSalmon
