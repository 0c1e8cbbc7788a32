import AppSalmon.Service.Ownership
import AppSalmon.Service.Successors

/-! Which spawn a cancellation reaches.

A token is issued when a spawn is launched, and its entry goes when the spawn has
ended. In between no other task touches the entry. An entry outlives its spawn
only where the task that would remove it has panicked.
-/

set_option autoImplicit false

namespace AppSalmon

open TaskPool
open Repository (Rows)

/-! ## The registry -/

namespace TaskRegistry

/-- Entries are told apart by their clusters and by their tokens, and no token is issued twice. -/
structure Sound (registry : TaskRegistry) : Prop where
  keyed : ∀ first ∈ registry.tokens, ∀ second ∈ registry.tokens, first.1 = second.1 → first = second
  distinct : ∀ first ∈ registry.tokens, ∀ second ∈ registry.tokens, first.2 = second.2 → first = second
  issued : ∀ entry ∈ registry.tokens, entry.2.serial < registry.issued
  spent : ∀ token ∈ registry.cancelled, token.serial < registry.issued

variable {registry : TaskRegistry} {id : ClusterId} {token : CancellationToken} {entry : ClusterId × CancellationToken}

theorem mem_register : entry ∈ (registry.register id).2.tokens ↔
    entry = (id, (registry.register id).1) ∨ entry ∈ registry.tokens ∧ entry.1 ≠ id := by
  simp [register]

theorem mem_unregister : entry ∈ (registry.unregister id).tokens ↔ entry ∈ registry.tokens ∧ entry.1 ≠ id := by
  simp [unregister]

@[simp] theorem isCancelled_register : (registry.register id).2.isCancelled token = registry.isCancelled token := rfl

@[simp] theorem isCancelled_unregister : (registry.unregister id).isCancelled token = registry.isCancelled token := rfl

@[simp] theorem cancel_tokens : (registry.cancel id).tokens = registry.tokens := by
  unfold cancel
  split <;> rfl

theorem cancel_issued : (registry.cancel id).issued = registry.issued := by
  unfold cancel
  split <;> rfl

/-- The token of that cluster is cancelled, and no other. -/
theorem Sound.isCancelled_cancel (sound : registry.Sound) : (registry.cancel id).isCancelled token = true ↔
    registry.isCancelled token = true ∨ (id, token) ∈ registry.tokens := by
  unfold cancel
  split
  · next found here =>
    obtain ⟨key, member⟩ : found.1 = id ∧ found ∈ registry.tokens :=
      ⟨by simpa using List.find?_some here, List.mem_of_find?_eq_some here⟩
    have same : token = found.2 ↔ (id, token) ∈ registry.tokens := by
      constructor
      · rintro rfl
        rwa [← key]
      · intro listed
        exact congrArg Prod.snd (sound.keyed _ listed _ member key.symm)
    simp only [isCancelled, List.mem_cons, decide_eq_true_eq, same]
    exact or_comm
  · next missing =>
    have absent : (id, token) ∉ registry.tokens := fun listed => by
      simpa using List.find?_eq_none.mp missing _ listed
    simp [absent]

theorem Sound.register (sound : registry.Sound) (id : ClusterId) : (registry.register id).2.Sound := by
  have earlier {entry : ClusterId × CancellationToken} (old : entry ∈ registry.tokens) :
      entry.2 ≠ (registry.register id).1 := by
    intro same
    have below := sound.issued entry old
    rw [same] at below
    exact Nat.lt_irrefl _ below
  refine ⟨fun first left second right same => ?_, fun first left second right same => ?_, fun entry member => ?_,
    fun token member => Nat.lt_succ_of_lt (sound.spent token member)⟩
  · rcases mem_register.mp left with rfl | ⟨old, other⟩ <;> rcases mem_register.mp right with rfl | ⟨old', other'⟩
    · rfl
    · exact absurd same.symm other'
    · exact absurd same other
    · exact sound.keyed _ old _ old' same
  · rcases mem_register.mp left with rfl | ⟨old, -⟩ <;> rcases mem_register.mp right with rfl | ⟨old', -⟩
    · rfl
    · exact absurd same.symm (earlier old')
    · exact absurd same (earlier old)
    · exact sound.distinct _ old _ old' same
  · rcases mem_register.mp member with rfl | ⟨old, -⟩
    · exact Nat.lt_succ_self _
    · exact Nat.lt_succ_of_lt (sound.issued entry old)

theorem Sound.unregister (sound : registry.Sound) (id : ClusterId) : (registry.unregister id).Sound where
  keyed := fun _ left _ right => sound.keyed _ (mem_unregister.mp left).1 _ (mem_unregister.mp right).1
  distinct := fun _ left _ right => sound.distinct _ (mem_unregister.mp left).1 _ (mem_unregister.mp right).1
  issued := fun entry member => sound.issued entry (mem_unregister.mp member).1
  spent := sound.spent

theorem Sound.cancel (sound : registry.Sound) (id : ClusterId) : (registry.cancel id).Sound := by
  refine ⟨?_, ?_, ?_, fun token member => ?_⟩
  · simpa using sound.keyed
  · simpa using sound.distinct
  · simpa [cancel_issued] using sound.issued
  · rw [cancel_issued]
    have cancelled : (registry.cancel id).isCancelled token = true := decide_eq_true member
    rcases sound.isCancelled_cancel.mp cancelled with before | listed
    · exact sound.spent token (of_decide_eq_true before)
    · exact sound.issued _ listed

theorem sound_empty : empty.Sound where
  keyed := fun _ member => (List.not_mem_nil member).elim
  distinct := fun _ member => (List.not_mem_nil member).elim
  issued := fun _ member => (List.not_mem_nil member).elim
  spent := fun _ member => (List.not_mem_nil member).elim

end TaskRegistry

/-! ## One step -/

/-- What a step does with the registry. -/
inductive Registers (shared : Shared) : Task → Step → Prop where
  | keeps {task : Task} {moved : Step} (registry : moved.1.registry = shared.registry)
      (launches : ∀ cluster projectTar, task = .launch cluster projectTar → moved.2 = [])
      (removes : ∀ id, task ≠ .unregister id) : Registers shared task moved
  | issues {cluster : Cluster} {projectTar : Option (List UInt8)} {moved : Step}
      (registry : moved.1.registry = (shared.registry.register cluster.id).2)
      (leaves : moved.2 = [.spawn cluster (shared.registry.register cluster.id).1 projectTar .start]) :
      Registers shared (.launch cluster projectTar) moved
  | cancels {cluster : Cluster} {moved : Step} (registry : moved.1.registry = shared.registry.cancel cluster.id)
      (accepted : cluster.id ∈ moved.1.accepted) (ends : moved.2 = []) :
      Registers shared (.followDelete cluster .cancelSpawn) moved
  | removes {id : ClusterId} {moved : Step} (registry : moved.1.registry = shared.registry.unregister id)
      (ends : moved.2 = []) : Registers shared (.unregister id) moved

variable {deps : TaskDeps} {answer : Answer} {shared : Shared} {task fresh : Task} {id : ClusterId}

/-- Of all tasks only three touch the registry. -/
theorem Registers.of_other {moved : Step} (registry : moved.1.registry = shared.registry)
    (other : ∀ cluster projectTar, task ≠ .launch cluster projectTar) (stays : ∀ id, task ≠ .unregister id) :
    Registers shared task moved :=
  .keeps registry (fun cluster projectTar same => absurd same (other cluster projectTar)) stays

theorem spawn_registers (cluster : Cluster) (token : CancellationToken) (projectTar : Option (List UInt8))
    (stage : SpawnStage) : Registers shared (.spawn cluster token projectTar stage)
      (SpawnTask.step deps answer shared cluster token projectTar stage) := by
  refine .of_other ?_ (by simp) (by simp)
  cases stage with
  | start =>
    simp only [SpawnTask.step]
    split
    · rfl
    · split
      · rfl
      · split <;> rfl
  | working worker phase =>
    simp only [SpawnTask.step]
    split
    · rfl
    · by_cases panicked : SpawnTask.panics answer phase = true
      · rw [SpawnTask.work_panics panicked]
      obtain ⟨after, later, left, moved, awaited⟩ :=
        SpawnTask.work_awaited deps shared cluster token projectTar worker (Bool.eq_false_of_not_eq_true panicked)
      rw [moved]
      cases awaited <;> rfl
  | checking result =>
    simp only [SpawnTask.step]
    split
    · rfl
    · rfl
    · split <;> rfl
  | persisting current result =>
    simp only [SpawnTask.step]
    split
    · rfl
    · simp only [SpawnTask.persist]
      split
      · split <;> rfl
      · rfl

theorem teardown_registers (cluster : Cluster) (stage : TeardownStage) (next : After) :
    Registers shared (.teardown cluster stage next) (TeardownTask.step deps answer shared cluster next stage) := by
  refine .of_other ?_ (by simp) (by simp)
  cases stage with
  | backend | wipe =>
    simp only [TeardownTask.step]
    split
    · rfl
    · split <;> rfl
  | delete =>
    simp only [TeardownTask.step]
    split <;> rfl

theorem reconcileRows_registers (todo : List Cluster) :
    Registers shared (.reconcileRows todo) (Reconciliation.rows deps answer shared todo) := by
  refine .of_other ?_ (by simp) (by simp)
  cases todo with
  | nil => rfl
  | cons cluster todo =>
    simp only [Reconciliation.rows]
    split
    · split <;> rfl
    · split <;> rfl
    · rfl
    · rfl

theorem late_registers (effect : LateEffect) :
    Registers shared (.late effect) (if answer.lands then effect.apply shared else shared, []) := by
  refine .of_other ?_ (by simp) (by simp)
  split
  · cases effect with
    | setWorker id worker =>
      simp only [LateEffect.apply]
      split <;> rfl
    | writes | wipes | creates | removes => rfl
  · rfl

theorem staging_registers (dir : SlotDir) (upload : ClusterId) (work : StagingWork) :
    Registers shared (.staging dir upload work) (work.step answer shared dir upload) := by
  refine .of_other ?_ (by simp) (by simp)
  cases work with
  | create | remove =>
    simp only [StagingWork.step]
    split <;> rfl
  | extract remaining =>
    cases remaining with
    | nil => rfl
    | cons effect rest =>
      simp only [StagingWork.step]
      split <;> rfl

theorem step_registers (task : Task) : Registers shared task (task.step deps answer shared) := by
  cases task with
  | spawn cluster token projectTar stage => exact spawn_registers cluster token projectTar stage
  | teardown cluster stage next => exact teardown_registers cluster stage next
  | reconcileRows todo => exact reconcileRows_registers todo
  | late effect => exact late_registers effect
  | staging dir upload work => exact staging_registers dir upload work
  | unregister id => exact .removes rfl rfl
  | create owner service ttl projectTar =>
    refine .of_other ?_ (by simp) (by simp)
    simp only [Task.step, Handlers.create]
    split <;> rfl
  | launch cluster projectTar =>
    simp only [Task.step, Handlers.launchSpawn]
    split
    · exact .keeps rfl (fun _ _ _ => rfl) (by simp)
    · exact .issues rfl rfl
  | requestDelete id owner reason caller read =>
    refine .of_other ?_ (by simp) (by simp)
    cases read with
    | none =>
      simp only [Task.step, ClusterService.requestDelete]
      split <;> rfl
    | some read => rfl
  | followDelete cluster outcome =>
    cases outcome with
    | cancelSpawn => exact .cancels rfl List.mem_cons_self rfl
    | startTeardown | alreadyDeleting => exact .of_other rfl (by simp) (by simp)
  | sweep =>
    refine .of_other ?_ (by simp) (by simp)
    simp only [Task.step, TtlReaper.sweep]
    split <;> rfl
  | reap now todo results =>
    refine .of_other ?_ (by simp) (by simp)
    simp only [Task.step, TtlReaper.reap]
    split
    · rfl
    · split <;> rfl
  | dispatch results =>
    refine .of_other ?_ (by simp) (by simp)
    rcases results with _ | ⟨⟨cluster, outcome⟩, rest⟩
    · rfl
    · cases outcome <;> rfl
  | reconcile =>
    refine .of_other ?_ (by simp) (by simp)
    simp only [Task.step, Reconciliation.start]
    split <;> rfl
  | reconcileLost cluster todo =>
    refine .of_other ?_ (by simp) (by simp)
    simp only [Task.step, Reconciliation.lost]
    split <;> rfl

/-! ## Whose entry it is -/

/-- The cluster whose entry a task is about to make, has, or will remove. -/
def Task.holds : Task → Option ClusterId
  | .launch cluster _ | .spawn cluster _ _ _ | .teardown cluster _ .unregister => some cluster.id
  | .unregister id => some id
  | _ => none

/-- A spawn has its own token registered, which nobody has cancelled before a `DELETE` was answered. -/
def Task.Registered (shared : Shared) : Task → Prop
  | .spawn cluster token _ _ => (cluster.id, token) ∈ shared.registry.tokens ∧
      (shared.registry.isCancelled token = true → cluster.id ∈ shared.accepted)
  | .launch cluster _ => ∀ token, (cluster.id, token) ∉ shared.registry.tokens
  | _ => True

def Shared.RegistrySound (shared : Shared) : Prop :=
  shared.registry.Sound ∧ ∀ entry ∈ shared.registry.tokens, entry.1 ∈ shared.born

/-- The entry is that of a cluster that was born, and as the task needs it. -/
def Task.Tracked (shared : Shared) (task : Task) : Prop :=
  (∀ id, task.holds = some id → id ∈ shared.born) ∧ task.Registered shared

/-- No two tasks hold the entry of one cluster. -/
def Task.HoldsOther (first second : Task) : Prop := ∀ id, first.holds = some id → second.holds ≠ some id

theorem Task.HoldsOther.symm {first second : Task} (other : HoldsOther first second) : HoldsOther second first :=
  fun id right left => other id left right

theorem abandoned_holds {cluster : Cluster} {worker : WorkerUser} {phase : Phase}
    (dropped : fresh ∈ SpawnTask.abandoned cluster worker phase) :
    fresh.holds = none ∧ ∀ shared, fresh.Registered shared := by
  cases phase <;> simp only [SpawnTask.abandoned, List.mem_singleton, List.not_mem_nil] at dropped
  all_goals
    rw [dropped]
    exact ⟨rfl, fun _ => trivial⟩

/-- An entry is handed on from the task that holds it; only a new cluster brings one of its own. -/
theorem Successor.holder (successor : Successor deps answer shared task fresh) (held : fresh.holds = some id) :
    task.holds = some id ∨ (∃ owner service ttl projectTar, task = .create owner service ttl projectTar) ∧ id = answer.id := by
  cases successor with
  | launches created =>
    cases held
    obtain ⟨slot, -, rfl⟩ := ClusterService.create_ok (Prod.ext created rfl)
    exact .inr ⟨⟨_, _, _, _, rfl⟩, rfl⟩
  | tears =>
    next cluster stage next later =>
      cases next with
      | unregister => exact .inl held
      | done | resume => cases held
  | abandons dropped =>
    rw [(abandoned_holds dropped).1] at held
    cases held
  | registers | turns | begins | declines | works | checks | ends | unregisters => exact .inl held
  | removesLate | wipesLate | resumes | reads | passesOver | answers | collects | follows | gathers | gathersNothing
  | gathered | spares | expires | dispatches | starts | extracts | lists | orphans | finishes | loses | leaves
  | notes => cases held

/-- A step of a spawn that panics: in its backend, or where the end of its cluster cannot be dated. -/
def SpawnStage.Panics (answer : Answer) (shared : Shared) (cluster : Cluster) (token : CancellationToken) : SpawnStage → Prop
  | .working _ phase => shared.registry.isCancelled token = false ∧ SpawnTask.panics answer phase = true
  | .persisting _ result => SpawnTask.outcomeEvent answer.now cluster.requestedTtl result = none
  | .start | .checking _ => False

/-- A spawn hands its entry on to the first task that it leaves, unless it panics. -/
theorem spawn_leaves (cluster : Cluster) (token : CancellationToken) (projectTar : Option (List UInt8)) (stage : SpawnStage) :
    (∃ first rest, (SpawnTask.step deps answer shared cluster token projectTar stage).2 = first :: rest ∧
        first.holds = some cluster.id ∧ ∀ fresh ∈ rest, fresh.holds = none) ∨
      (SpawnTask.step deps answer shared cluster token projectTar stage).2 = [] ∧
        stage.Panics answer shared cluster token := by
  cases stage with
  | start =>
    left
    simp only [SpawnTask.step]
    split
    · exact ⟨_, [], rfl, rfl, List.forall_mem_nil _⟩
    · split
      · exact ⟨_, [], rfl, rfl, List.forall_mem_nil _⟩
      · split <;> exact ⟨_, [], rfl, rfl, List.forall_mem_nil _⟩
  | working worker phase =>
    simp only [SpawnTask.step]
    split
    · exact .inl ⟨_, _, rfl, rfl, fun fresh dropped => (abandoned_holds dropped).1⟩
    · next going =>
      by_cases panicked : SpawnTask.panics answer phase = true
      · rw [SpawnTask.work_panics panicked]
        exact .inr ⟨rfl, Bool.eq_false_of_not_eq_true going, panicked⟩
      left
      obtain ⟨later, left, leaves, rest⟩ :=
        SpawnTask.work_leaves deps shared cluster token projectTar worker (Bool.eq_false_of_not_eq_true panicked)
      refine ⟨_, left, leaves, rfl, fun fresh member => ?_⟩
      rcases rest with rfl | rfl
      · cases member
      · exact (abandoned_holds member).1
  | checking result =>
    left
    simp only [SpawnTask.step]
    split
    · exact ⟨_, [], rfl, rfl, List.forall_mem_nil _⟩
    · exact ⟨_, [], rfl, rfl, List.forall_mem_nil _⟩
    · split <;> exact ⟨_, [], rfl, rfl, List.forall_mem_nil _⟩
  | persisting current result =>
    simp only [SpawnTask.step]
    split
    · next undated => exact .inr ⟨rfl, undated⟩
    · exact .inl ⟨_, [], rfl, rfl, List.forall_mem_nil _⟩

/-- A teardown goes on with its next stage, beside a call that has failed, or with what comes after it. -/
theorem teardown_leaves (cluster : Cluster) (stage : TeardownStage) (next : After) :
    (∃ later rest, (TeardownTask.step deps answer shared cluster next stage).2 = .teardown cluster later next :: rest ∧
        (stage = .backend ∧ later = .wipe ∨ stage = .wipe ∧ later = .delete) ∧
        ∀ fresh ∈ rest, ∃ effect, fresh = .late effect) ∨
      stage = .delete ∧
        (TeardownTask.step deps answer shared cluster next stage).2 = TeardownTask.After.tasks cluster.id next := by
  cases stage with
  | backend | wipe =>
    left
    simp only [TeardownTask.step]
    split
    · exact ⟨_, [], rfl, by simp, List.forall_mem_nil _⟩
    · split
      · exact ⟨_, _, rfl, by simp, fun fresh member => ⟨_, List.mem_singleton.mp member⟩⟩
      · exact ⟨_, [], rfl, by simp, List.forall_mem_nil _⟩
  | delete =>
    refine .inr ⟨rfl, ?_⟩
    simp only [TeardownTask.step]
    split <;> rfl

theorem spawn_tail {cluster : Cluster} {token : CancellationToken} {projectTar : Option (List UInt8)} {stage : SpawnStage}
    (member : fresh ∈ (SpawnTask.step deps answer shared cluster token projectTar stage).2.tail) : fresh.holds = none := by
  rcases spawn_leaves cluster token projectTar stage with ⟨first, rest, leaves, -, light⟩ | ⟨leaves, -⟩
  · rw [leaves] at member
    exact light fresh member
  · rw [leaves] at member
    cases member

theorem teardown_tail {cluster : Cluster} {stage : TeardownStage} {next : After}
    (member : fresh ∈ (TeardownTask.step deps answer shared cluster next stage).2.tail) : fresh.holds = none := by
  rcases teardown_leaves cluster stage next with ⟨later, rest, leaves, -, late⟩ | ⟨-, leaves⟩
  · rw [leaves] at member
    obtain ⟨effect, rfl⟩ := late fresh member
    rfl
  · rw [leaves] at member
    cases next <;> cases member

/-- At most the first of the tasks that a step leaves holds an entry. -/
theorem holds_of_tail (member : fresh ∈ (task.step deps answer shared).2.tail) : fresh.holds = none := by
  cases task with
  | spawn => exact spawn_tail member
  | teardown => exact teardown_tail member
  | unregister | late => cases member
  | create =>
    simp only [Task.step, Handlers.create] at member
    split at member <;> cases member
  | launch =>
    simp only [Task.step, Handlers.launchSpawn] at member
    split at member <;> cases member
  | requestDelete id owner reason caller read =>
    have received (result : Except ClusterError (Cluster × DeleteOutcome)) : fresh ∉ (caller.receive result).tail := by
      intro inside
      cases caller <;> cases result <;> cases inside
    cases read with
    | none =>
      simp only [Task.step, ClusterService.requestDelete] at member
      split at member
      · cases member
      · next error _ => exact (received (.error error) member).elim
    | some read => exact (received _ member).elim
  | followDelete cluster outcome => cases outcome <;> cases member
  | sweep =>
    simp only [Task.step, TtlReaper.sweep] at member
    split at member <;> cases member
  | reap now todo results =>
    simp only [Task.step, TtlReaper.reap] at member
    split at member
    · cases member
    · split at member <;> cases member
  | dispatch results =>
    rcases results with _ | ⟨⟨cluster, outcome⟩, rest⟩
    · cases member
    · cases outcome with
      | cancelSpawn | alreadyDeleting => cases member
      | startTeardown =>
        rw [List.mem_singleton.mp member]
        rfl
  | staging dir upload work =>
    cases work with
    | create | remove =>
      simp only [Task.step, StagingWork.step] at member
      split at member <;> cases member
    | extract remaining =>
      cases remaining with
      | nil => cases member
      | cons effect rest =>
        simp only [Task.step, StagingWork.step] at member
        split at member <;> cases member
  | reconcile =>
    simp only [Task.step, Reconciliation.start] at member
    split at member <;> cases member
  | reconcileRows todo =>
    cases todo with
    | nil => cases member
    | cons cluster todo =>
      simp only [Task.step, Reconciliation.rows] at member
      split at member
      · split at member <;> cases member
      · split at member <;> cases member
      · cases member
      · cases member
  | reconcileLost cluster todo =>
    simp only [Task.step, Reconciliation.lost] at member
    split at member <;> cases member

theorem leaves_apart (task : Task) : (task.step deps answer shared).2.Pairwise Task.HoldsOther := by
  have rest : ∀ fresh ∈ (task.step deps answer shared).2.tail, fresh.holds = none := fun fresh member => holds_of_tail member
  cases left : (task.step deps answer shared).2 with
  | nil => exact .nil
  | cons first others =>
    rw [left] at rest
    refine List.pairwise_cons.mpr ⟨fun fresh member id _ => ?_, ?_⟩
    · rw [rest fresh member]
      simp
    · apply List.pairwise_of_forall_mem_list
      intro fresh member second _ id held
      rw [rest fresh member] at held
      cases held

theorem Effect.accepted_subset {left : List Duty} {after : Shared} (effect : Effect deps answer shared after task left)
    (before : id ∈ shared.accepted) : id ∈ after.accepted := by
  have grown : after.accepted = shared.accepted ∨ ∃ other, after.accepted = other :: shared.accepted := by
    cases effect with
    | answered other rows log | followed rows log => exact .inr ⟨_, congrArg (fun lists => lists.2.2) log⟩
    | quiet rows log | inserted rows log | turned rows log | checked rows log | persisted rows log | read rows log
    | condemned written rows log | dispatched rows log | removed rows log | listed rows log | marked orphan rows log
    | resumed doomed rows log | missed ready rows log | failed rows log =>
      exact .inl (congrArg (fun lists => lists.2.2) log)
  rcases grown with same | ⟨other, grown⟩
  · rwa [same]
  · rw [grown]
    exact List.mem_cons_of_mem _ before

/-- A task is served by another registry that lists its entry as before, and cancels it only for a `DELETE`. -/
theorem Task.Registered.moves {after : Shared} (registered : task.Registered shared)
    (keeps : ∀ id token, task.holds = some id →
      ((id, token) ∈ after.registry.tokens ↔ (id, token) ∈ shared.registry.tokens))
    (cancels : ∀ id token, (id, token) ∈ shared.registry.tokens → after.registry.isCancelled token = true →
      shared.registry.isCancelled token = true ∨ id ∈ after.accepted)
    (accepted : ∀ id ∈ shared.accepted, id ∈ after.accepted) : task.Registered after := by
  cases task with
  | spawn cluster token projectTar stage =>
    obtain ⟨listed, answered⟩ := registered
    refine ⟨(keeps _ _ rfl).mpr listed, fun cancelled => ?_⟩
    rcases cancels _ _ listed cancelled with earlier | deleted
    · exact accepted _ (answered earlier)
    · exact deleted
  | launch cluster projectTar => exact fun token listed => registered token ((keeps _ _ rfl).mp listed)
  | create | unregister | teardown | requestDelete | followDelete | sweep | reap | dispatch | late | staging | reconcile
  | reconcileRows | reconcileLost => trivial

theorem Task.Registered.same {after : Shared} (registered : task.Registered shared)
    (registry : after.registry = shared.registry) (accepted : ∀ id ∈ shared.accepted, id ∈ after.accepted) :
    task.Registered after := by
  refine registered.moves (fun id token _ => ?_) (fun id token _ cancelled => .inl ?_) accepted
  · rw [registry]
  · rwa [registry] at cancelled

/-- What the acting task leaves has the entries it needs. -/
theorem Registers.own {moved : Step} (registers : Registers shared task moved) (sound : shared.RegistrySound)
    (drawn : task.draws answer shared = true) (registered : task.Registered shared)
    (accepted : ∀ id ∈ shared.accepted, id ∈ moved.1.accepted) (member : fresh ∈ moved.2)
    (successor : Successor deps answer shared task fresh) : fresh.Registered moved.1 := by
  cases registers with
  | cancels registry answered ends | removes registry ends =>
    rw [ends] at member
    cases member
  | issues registry leaves =>
    rw [leaves] at member
    rw [List.mem_singleton.mp member]
    constructor
    · rw [registry]
      exact TaskRegistry.mem_register.mpr (.inl rfl)
    · intro cancelled
      rw [registry, TaskRegistry.isCancelled_register] at cancelled
      exact absurd (sound.1.spent _ (of_decide_eq_true cancelled)) (Nat.lt_irrefl _)
  | keeps registry launches removes =>
    cases successor with
    | launches created =>
      intro token listed
      obtain ⟨slot, -, rfl⟩ := ClusterService.create_ok (Prod.ext created rfl)
      rw [registry] at listed
      exact absurd (sound.2 _ listed) (of_decide_eq_true drawn)
    | registers =>
      rw [launches _ _ rfl] at member
      cases member
    | begins | declines | works | checks => exact registered.same registry accepted
    | abandons dropped => exact (abandoned_holds dropped).2 _
    | turns | ends | tears | unregisters | removesLate | wipesLate | resumes | reads | passesOver | answers | collects
    | follows | gathers | gathersNothing | gathered | spares | expires | dispatches | starts | extracts | lists
    | orphans | finishes | loses | leaves | notes => trivial

/-- A task that holds another entry keeps it. -/
theorem Registers.others {moved : Step} {other : Task} (registers : Registers shared task moved)
    (sound : shared.RegistrySound) (registered : other.Registered shared) (apart : task.HoldsOther other)
    (accepted : ∀ id ∈ shared.accepted, id ∈ moved.1.accepted) : other.Registered moved.1 := by
  cases registers with
  | keeps registry => exact registered.same registry accepted
  | issues registry leaves =>
    next cluster projectTar =>
    refine registered.moves (fun id token held => ?_) (fun id token _ cancelled => .inl ?_) accepted
    · have different : id ≠ cluster.id := fun same => apart cluster.id rfl (same ▸ held)
      simp [registry, TaskRegistry.mem_register, different]
    · rwa [registry, TaskRegistry.isCancelled_register] at cancelled
  | cancels registry answered ends =>
    next cluster =>
    refine registered.moves (fun id token _ => ?_) (fun id token listed cancelled => ?_) accepted
    · rw [registry, TaskRegistry.cancel_tokens]
    · rw [registry] at cancelled
      rcases sound.1.isCancelled_cancel.mp cancelled with earlier | reached
      · exact .inl earlier
      · have same : id = cluster.id := congrArg Prod.fst (sound.1.distinct _ listed _ reached rfl)
        exact .inr (same ▸ answered)
  | removes registry ends =>
    next removed =>
    refine registered.moves (fun id token held => ?_) (fun id token _ cancelled => .inl ?_) accepted
    · have different : id ≠ removed := fun same => apart removed rfl (same ▸ held)
      simp [registry, TaskRegistry.mem_unregister, different]
    · rwa [registry] at cancelled

theorem Registers.sound {moved : Step} (registers : Registers shared task moved) (sound : shared.RegistrySound)
    (born : ∀ id ∈ shared.born, id ∈ moved.1.born) (known : ∀ id, task.holds = some id → id ∈ shared.born) :
    moved.1.RegistrySound := by
  obtain ⟨whole, names⟩ := sound
  cases registers with
  | keeps registry =>
    rw [Shared.RegistrySound, registry]
    exact ⟨whole, fun entry member => born _ (names entry member)⟩
  | issues registry =>
    rw [Shared.RegistrySound, registry]
    refine ⟨whole.register _, fun entry member => ?_⟩
    rcases TaskRegistry.mem_register.mp member with rfl | ⟨old, -⟩
    · exact born _ (known _ rfl)
    · exact born _ (names entry old)
  | cancels registry =>
    rw [Shared.RegistrySound, registry]
    refine ⟨whole.cancel _, fun entry member => ?_⟩
    rw [TaskRegistry.cancel_tokens] at member
    exact born _ (names entry member)
  | removes registry =>
    rw [Shared.RegistrySound, registry]
    exact ⟨whole.unregister _, fun entry member => born _ (names entry (TaskRegistry.mem_unregister.mp member).1)⟩

/-! ## Runs -/

structure System.Tracked (system : System) : Prop where
  owned : system.Owned
  tracked : Holds (fun task => [task]) Shared.RegistrySound Task.Tracked Task.HoldsOther system.pool

theorem System.Tracked.of_mem {system : System} (tracked : system.Tracked) (member : task ∈ system.tasks) :
    task.Tracked system.shared := tracked.tracked.each task member task List.mem_cons_self

theorem launch_born {owner : ClientId} {service : ServiceSpec} {ttl : TimeDelta} {projectTar : Option (List UInt8)}
    (member : fresh ∈ (Task.step deps answer shared (.create owner service ttl projectTar)).2) :
    answer.id ∈ (Task.step deps answer shared (.create owner service ttl projectTar)).1.born := by
  simp only [Task.step, Handlers.create] at member ⊢
  split
  · next made created =>
    obtain ⟨slot, -, rfl⟩ := ClusterService.create_ok (Prod.ext created rfl)
    exact List.mem_cons_self
  · next error refused =>
    rw [refused] at member
    cases member

theorem System.Tracked.advance {system : System} (tracked : system.Tracked) {index : Nat}
    (found : system.tasks[index]? = some task) (drawn : task.draws answer system.shared = true)
    (effect : Effect system.deps answer system.shared (system.advance index answer task).shared task
      ((task.step system.deps answer system.shared).2.flatMap Task.duties)) :
    Holds (fun task => [task]) Shared.RegistrySound Task.Tracked Task.HoldsOther (system.advance index answer task).pool := by
  obtain ⟨known, registered⟩ := tracked.of_mem (List.mem_of_getElem? found)
  have registers : Registers system.shared task (task.step system.deps answer system.shared) := step_registers task
  have sound := tracked.tracked.shared
  have born : ∀ id ∈ system.shared.born, id ∈ (task.step system.deps answer system.shared).1.born :=
    fun id before => effect.born_subset before
  have accepted : ∀ id ∈ system.shared.accepted, id ∈ (task.step system.deps answer system.shared).1.accepted :=
    fun id before => effect.accepted_subset before
  refine Holds.replace (fun _ _ => Task.HoldsOther.symm) (fun _ _ => Task.HoldsOther.symm) tracked.tracked found
    (registers.sound sound born known) ?_ ?_ (fun _ _ apart => apart) ?_ ?_
  · intro fresh inside
    have member : fresh ∈ (task.step system.deps answer system.shared).2 := by simpa using inside
    refine ⟨fun id held => ?_, registers.own sound drawn registered accepted member (Task.successor member)⟩
    rcases (Task.successor member).holder held with mine | ⟨⟨owner, service, ttl, projectTar, rfl⟩, rfl⟩
    · exact born id (known id mine)
    · exact launch_born member
  · intro other theirs apart
    exact ⟨fun id held => born id (theirs.1 id held),
      registers.others sound theirs.2 (apart task List.mem_cons_self) accepted⟩
  · rw [List.flatMap_singleton']
    exact leaves_apart task
  · intro fresh inside other theirs apart id held
    have member : fresh ∈ (task.step system.deps answer system.shared).2 := by simpa using inside
    rcases (Task.successor member).holder held with mine | ⟨⟨owner, service, ttl, projectTar, rfl⟩, rfl⟩
    · exact apart task List.mem_cons_self id mine
    · intro same
      exact absurd (theirs.1 _ same) (of_decide_eq_true drawn)

theorem System.Tracked.next {system after : System} {label : Label} (tracked : system.Tracked)
    (permitted : OneLifetime system label) (moved : system.next label = some after) : after.Tracked := by
  refine ⟨tracked.owned.next moved, ?_⟩
  cases label with
  | request request =>
    obtain ⟨-, rfl⟩ := next_request moved
    have calm : request.task.holds = none ∧ ∀ shared, request.task.Registered shared := by
      cases request <;> exact ⟨rfl, fun _ => trivial⟩
    apply tracked.tracked.join fun _ _ => Task.HoldsOther.symm
    · intro fresh member
      obtain rfl : fresh = request.task := by simpa using member
      refine ⟨fun id held => ?_, calm.2 _⟩
      rw [calm.1] at held
      cases held
    · simp
    · intro fresh member task _ other _ id held
      obtain rfl : fresh = request.task := by simpa using member
      rw [calm.1] at held
      cases held
  | world change =>
    obtain ⟨world, -, rfl⟩ := next_world moved
    refine tracked.tracked.shift tracked.tracked.shared (fun task theirs => ⟨theirs.1, ?_⟩) fun _ _ apart => apart
    exact theirs.2.same rfl fun _ before => before
  | restart deps => exact permitted.elim
  | step index answer =>
    obtain ⟨task, found, drawn, effect, rfl⟩ := tracked.owned.effect moved
    exact tracked.advance found drawn effect

theorem boot_tracked (deps : TaskDeps) {shared : Shared} (table : shared.TableSound) :
    (System.boot deps shared).Tracked := by
  refine ⟨boot_owned deps table, ⟨TaskRegistry.sound_empty, fun _ member => (List.not_mem_nil member).elim⟩,
    fun task member other inside => ?_, List.pairwise_singleton ..⟩
  obtain rfl := List.mem_singleton.mp member
  obtain rfl := List.mem_singleton.mp inside
  exact ⟨fun id held => (by cases held), trivial⟩

theorem tracked_of_run {start finish : System} (started : Started start)
    (run : Run System.next OneLifetime start finish) : finish.Tracked := by
  cases started with
  | boot deps earlier =>
    exact run.invariant (boot_tracked deps (owned_of_run earlier).shared) fun _ _ _ tracked permitted moved =>
      tracked.next permitted moved

/-! ## Entries that outlive their spawn -/

/-- The spawn of the cluster panics. -/
def SpawnPanics (id : ClusterId) (before : System) (label : Label) (_ : System) : Prop :=
  ∃ index answer cluster token projectTar stage, label = .step index answer ∧ cluster.id = id ∧
    before.tasks[index]? = some (.spawn cluster token projectTar stage) ∧
    stage.Panics answer before.shared cluster token

/-- The entry of a spawn is handed on, or the step removes it, or panics. -/
theorem spawn_hands {cluster : Cluster} (token : CancellationToken) (projectTar : Option (List UInt8)) (stage : SpawnStage) :
    (∃ fresh ∈ (SpawnTask.step deps answer shared cluster token projectTar stage).2, fresh.holds = some cluster.id) ∨
      stage.Panics answer shared cluster token := by
  rcases spawn_leaves cluster token projectTar stage with ⟨first, rest, leaves, held, -⟩ | ⟨-, panics⟩
  · rw [leaves]
    exact .inl ⟨first, List.mem_cons_self, held⟩
  · exact .inr panics

theorem teardown_hands (cluster : Cluster) (stage : TeardownStage) :
    ∃ fresh ∈ (TeardownTask.step deps answer shared cluster .unregister stage).2, fresh.holds = some cluster.id := by
  rcases teardown_leaves cluster stage .unregister with ⟨later, rest, leaves, -⟩ | ⟨-, leaves⟩
  · rw [leaves]
    exact ⟨_, List.mem_cons_self, rfl⟩
  · rw [leaves]
    exact ⟨_, List.mem_cons_self, rfl⟩

theorem step_hands {token : CancellationToken} (registered : task.Registered shared) (held : task.holds = some id)
    (listed : (id, token) ∈ (task.step deps answer shared).1.registry.tokens) :
    (∃ fresh ∈ (task.step deps answer shared).2, fresh.holds = some id) ∨
      ∃ cluster own projectTar stage, task = .spawn cluster own projectTar stage ∧ cluster.id = id ∧
        stage.Panics answer shared cluster own := by
  cases task with
  | launch cluster projectTar =>
    cases held
    left
    simp only [Task.step, Handlers.launchSpawn] at listed ⊢
    split
    · next overflow =>
      rw [overflow] at listed
      exact absurd listed (registered token)
    · exact ⟨_, List.mem_cons_self, rfl⟩
  | spawn cluster own projectTar stage =>
    cases held
    rcases spawn_hands own projectTar stage with handed | panics
    · exact .inl handed
    · exact .inr ⟨cluster, own, projectTar, stage, rfl, rfl, panics⟩
  | teardown cluster stage next =>
    cases next with
    | unregister =>
      cases held
      exact .inl (teardown_hands cluster stage)
    | done | resume => cases held
  | unregister other =>
    cases held
    exact absurd rfl (TaskRegistry.mem_unregister.mp listed).2
  | create | requestDelete | followDelete | sweep | reap | dispatch | late | staging | reconcile | reconcileRows
  | reconcileLost => cases held

/-- A new entry is that of the task that acts. -/
theorem Registers.listed {moved : Step} (registers : Registers shared task moved) {token : CancellationToken}
    (listed : (id, token) ∈ moved.1.registry.tokens) : task.holds = some id ∨ (id, token) ∈ shared.registry.tokens := by
  cases registers with
  | keeps registry =>
    rw [registry] at listed
    exact .inr listed
  | issues registry =>
    rw [registry] at listed
    rcases TaskRegistry.mem_register.mp listed with same | ⟨old, -⟩
    · exact .inl (congrArg some (congrArg Prod.fst same).symm)
    · exact .inr old
  | cancels registry =>
    rw [registry, TaskRegistry.cancel_tokens] at listed
    exact .inr listed
  | removes registry =>
    rw [registry] at listed
    exact .inr (TaskRegistry.mem_unregister.mp listed).1

/-- The tasks that have an entry of the cluster to remove. -/
abbrev System.Answers (system : System) (id : ClusterId) : Prop :=
  Covered (fun shared (_ : Unit) => ∃ token, (id, token) ∈ shared.registry.tokens) (fun task _ => task.holds = some id)
    system.pool

theorem System.Answers.next {system after : System} {label : Label} (answers : system.Answers id)
    (tracked : system.Tracked) (permitted : OneLifetime system label) (moved : system.next label = some after) :
    after.Answers id ∨ SpawnPanics id system label after := by
  cases label with
  | request request =>
    obtain ⟨-, rfl⟩ := next_request moved
    exact .inl (answers.join _)
  | world change =>
    obtain ⟨world, -, rfl⟩ := next_world moved
    exact .inl answers
  | restart deps => exact permitted.elim
  | step index answer =>
    obtain ⟨task, found, -, rfl⟩ := next_step moved
    obtain ⟨-, registered⟩ := tracked.of_mem (List.mem_of_getElem? found)
    by_cases panics : SpawnPanics id system (.step index answer) (system.advance index answer task)
    · exact .inr panics
    · left
      refine Covered.replace answers found fun _ needed => ?_
      obtain ⟨token, listed⟩ := needed
      by_cases held : task.holds = some id
      · rcases step_hands registered held listed with handed | ⟨cluster, own, projectTar, stage, rfl, named, gone⟩
        · exact .inl handed
        · exact absurd ⟨index, answer, cluster, own, projectTar, stage, rfl, named, found, gone⟩ panics
      · rcases (step_registers task).listed listed with mine | before
        · exact absurd mine held
        · exact .inr ⟨⟨token, before⟩, held⟩

theorem Started.answers {start : System} (started : Started start) (id : ClusterId) : start.Answers id := by
  cases started with
  | boot deps earlier =>
    rintro _ ⟨token, listed⟩
    cases listed

theorem answers_of_run {start finish : System} (started : Started start)
    (run : Run System.next OneLifetime start finish) (id : ClusterId) :
    finish.Answers id ∨ Happened System.next OneLifetime (SpawnPanics id) start finish := by
  induction run with
  | refl => exact .inl (started.answers id)
  | step label earlier permitted moved ih =>
    rcases ih with answers | happened
    · rcases answers.next (tracked_of_run started earlier) permitted moved with kept | panics
      · exact .inl kept
      · exact .inr (.last earlier permitted moved panics)
    · exact .inr (happened.later permitted moved)

/-- While a spawn runs, its token is the one entry of its cluster: a cancellation reaches it exactly if it is for that
cluster, and none has before a `DELETE` of it was answered. An entry that no task is left to remove is that of a spawn
that has panicked. -/
theorem registry_exact {start finish : System} (started : Started start)
    (run : Run System.next OneLifetime start finish) :
    (∀ cluster token projectTar stage, .spawn cluster token projectTar stage ∈ finish.tasks →
      (∀ other, (cluster.id, other) ∈ finish.shared.registry.tokens ↔ other = token) ∧
      (∀ id, (finish.shared.registry.cancel id).isCancelled token = true ↔
        finish.shared.registry.isCancelled token = true ∨ id = cluster.id) ∧
      (finish.shared.registry.isCancelled token = true → cluster.id ∈ finish.shared.accepted)) ∧
    (∀ cluster projectTar, .launch cluster projectTar ∈ finish.tasks →
      ∀ token, (cluster.id, token) ∉ finish.shared.registry.tokens) ∧
    ∀ id token, (id, token) ∈ finish.shared.registry.tokens → (∃ task ∈ finish.tasks, task.holds = some id) ∨
      Happened System.next OneLifetime (SpawnPanics id) start finish := by
  have tracked := tracked_of_run started run
  have sound : finish.shared.registry.Sound := tracked.tracked.shared.1
  refine ⟨fun cluster token projectTar stage member => ?_, fun cluster projectTar member => ?_, fun id token listed => ?_⟩
  · obtain ⟨-, listed, answered⟩ := tracked.of_mem member
    refine ⟨fun other => ⟨fun theirs => ?_, fun same => same ▸ listed⟩, fun id => ?_, answered⟩
    · exact congrArg Prod.snd (sound.keyed _ theirs _ listed rfl)
    · rw [sound.isCancelled_cancel]
      refine or_congr_right ⟨fun theirs => ?_, fun same => same ▸ listed⟩
      exact congrArg Prod.fst (sound.distinct _ theirs _ listed rfl)
  · exact (tracked.of_mem member).2
  · exact (answers_of_run started run id).imp_left fun answers => answers () ⟨token, listed⟩

def Task.token : Task → Option (ClusterId × CancellationToken)
  | .spawn cluster token _ _ => some (cluster.id, token)
  | _ => none

theorem Task.token_eq_some {token : CancellationToken} (is : task.token = some (id, token)) :
    ∃ cluster projectTar stage, task = .spawn cluster token projectTar stage ∧ cluster.id = id := by
  cases task with
  | spawn cluster own projectTar stage =>
    cases is
    exact ⟨cluster, projectTar, stage, rfl, rfl⟩
  | create | launch | unregister | teardown | requestDelete | followDelete | sweep | reap | dispatch | late | staging
  | reconcile | reconcileRows | reconcileLost => cases is

/-- A spawn whose backend is at work: cancelling its cluster reaches it. -/
theorem small_registry_exact : ∃ (finish : System) (cluster : Cluster) (token : CancellationToken)
    (projectTar : Option (List UInt8)) (stage : SpawnStage),
    .spawn cluster token projectTar stage ∈ finish.tasks ∧ cluster.id = smallId ∧
      finish.shared.registry.isCancelled token = false ∧
      (finish.shared.registry.cancel smallId).isCancelled token = true := by
  have evaluated : (follow System.next (permitted fun _ _ _ _ => true) smallStart untilCreated).map
      (fun finish => (finish.tasks.map Task.token, finish.shared.registry.isCancelled ⟨0⟩)) =
        some ([some (smallId, ⟨0⟩)], false) := by
    decide +kernel
  obtain ⟨finish, run, seen⟩ := exists_run evaluated
  obtain ⟨tokens, calm⟩ := Prod.mk.inj seen
  obtain ⟨task, one, is⟩ := List.map_eq_singleton_iff.mp tokens
  obtain ⟨cluster, projectTar, stage, rfl, named⟩ := Task.token_eq_some is
  have member : .spawn cluster ⟨0⟩ projectTar stage ∈ finish.tasks := by
    rw [one]
    exact List.mem_singleton_self _
  have whole := registry_exact smallStart_started (run.weaken fun _ _ permitted => permitted.oneLifetime)
  obtain ⟨-, reaches, -⟩ := whole.1 cluster ⟨0⟩ projectTar stage member
  exact ⟨finish, cluster, ⟨0⟩, projectTar, stage, member, named, calm, (reaches smallId).mpr (.inr named.symm)⟩

end AppSalmon
