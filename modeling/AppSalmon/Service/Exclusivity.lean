import AppSalmon.Service.Placement
import Mathlib.Data.List.Nodup

/-! Whether two rows ever share a directory.

Within one lifetime they do not: slots are distinct for each owner, and accounts
are for each client. A row that outlives a restart keeps the account of an older
configuration, which the next one may give to another client.
-/

set_option autoImplicit false

namespace AppSalmon

open KeyedTable TaskPool
open Repository (Rows SlotsDistinct)

/-- No two rows have the same account name and the same slot. -/
def DirectoriesExclusive (rows : Rows) : Prop :=
  rows.Pairwise fun first second => ∀ mine theirs, first.worker = some mine → second.worker = some theirs →
    mine.name = theirs.name → first.slot ≠ second.slot

/-- Some client is configured with the account that a row of another client was given. -/
def handsAccountOver (deps : TaskDeps) (rows : Rows) : Bool :=
  rows.any fun row => row.worker.any fun worker => deps.clientWorkers.accounts.any fun entry =>
    deps.clientWorkers.get entry.1 = .ok entry.2 && entry.2.name = worker.name && entry.1 ≠ row.owner

/-- Restarts hand no account over. -/
def keepsAccounts (system : System) : Label → Bool
  | .restart deps => !handsAccountOver deps system.shared.rows
  | .request _ | .step .. | .world _ => true

abbrev WithoutHandover (system : System) (label : Label) : Prop := keepsAccounts system label = true

/-- Whoever is configured with the account of a row owns the row. -/
def NoHandover (deps : TaskDeps) (rows : Rows) : Prop :=
  ∀ row ∈ rows, ∀ worker, row.worker = some worker → ∀ client account,
    deps.clientWorkers.get client = .ok account → account.name = worker.name → client = row.owner

theorem noHandover_of_handsAccountOver {deps : TaskDeps} {rows : Rows} (none_given : handsAccountOver deps rows = false) :
    NoHandover deps rows := by
  intro row member worker has client account configured same
  by_contra different
  have given : handsAccountOver deps rows = true := by
    apply List.any_eq_true.mpr ⟨row, member, _⟩
    rw [has, Option.any_some]
    apply List.any_eq_true.mpr ⟨(client, account), ClientWorkers.get_eq_ok configured, _⟩
    simp [configured, same, different]
  rw [none_given] at given
  cases given

variable {deps : TaskDeps} {answer : Answer} {shared after : Shared} {task : Task} {left : List Duty}

/-- A row with an account was there before the step. -/
theorem Effect.account_born (effect : Effect deps answer shared after task left) (table : shared.TableSound)
    {row : Cluster} (member : row ∈ after.rows) {worker : WorkerUser} (has : row.worker = some worker) :
    row.id ∈ shared.born := by
  have known := (effect.table table).born row member
  cases effect with
  | inserted rows log =>
    rcases Repository.tryInsertIfUnderQuota_cases rows with ⟨-, -, refused⟩ | ⟨slot, -, -, -, -, next⟩
    · cases refused
    · rw [next] at member
      rcases List.mem_append.mp member with old | new
      · exact table.born row old
      · rw [List.mem_singleton.mp new] at has
        cases has
  | quiet rows log | turned rows log | checked rows log | persisted rows log | read rows log
  | condemned written rows log | answered other rows log | followed rows log | dispatched rows log
  | removed rows log | listed rows log | marked orphan rows log | resumed doomed rows log | missed ready rows log
  | failed rows log =>
    have same : after.born = shared.born := congrArg Prod.fst log
    rwa [same] at known

/-- A row with an account had it before, or has just got the one its owner is configured with. -/
theorem Effect.account (effect : Effect deps answer shared after task left) (table : shared.TableSound)
    (drawn : task.draws answer shared = true) (placed : task.Placed deps shared) {row : Cluster}
    (member : row ∈ after.rows) {worker : WorkerUser} (has : row.worker = some worker) :
    (∃ before ∈ shared.rows, before.id = row.id ∧ row.Alike before ∧ before.worker = some worker) ∨
      deps.clientWorkers.get row.owner = .ok worker := by
  have found : after.row? row.id = some row := (effect.table table).ids.lookup_of_mem member
  obtain ⟨before, here, kept⟩ := effect.kept drawn (effect.account_born table member has) found
  rcases kept.worker with same | ⟨written, sets, is⟩
  · exact .inl ⟨before, Repository.getAny_mem here, Repository.getAny_id here, kept.alike, same ▸ has⟩
  · right
    obtain rfl : written = worker := Option.some.inj (is.symm.trans has)
    rw [kept.alike.owner]
    exact (placed.setter sets here).1.account

theorem NoHandover.step (effect : Effect deps answer shared after task left) (table : shared.TableSound)
    (drawn : task.draws answer shared = true) (placed : task.Placed deps shared)
    (faithful : NoHandover deps shared.rows) : NoHandover deps after.rows := by
  intro row member worker has client account configured same
  rcases effect.account table drawn placed member has with ⟨before, old, -, alike, had⟩ | own
  · rw [alike.owner]
    exact faithful before old worker had client account configured same
  · exact deps.private client row.owner account worker configured own same

/-- Two rows share no directory: the pair of an account and a slot belongs to one of them. -/
def Exclusive (rows : Rows) : Prop :=
  ∀ first ∈ rows, ∀ second ∈ rows, ∀ mine theirs, first.worker = some mine → second.worker = some theirs →
    mine.name = theirs.name → first.slot = second.slot → first = second

theorem Exclusive.directories {rows : Rows} (exclusive : Exclusive rows) (distinct : Distinct Cluster.id rows) :
    DirectoriesExclusive rows := by
  apply (List.Nodup.of_map _ distinct).pairwise_of_forall_ne
  intro first left second right different mine theirs isMine isTheirs same slots
  exact different (exclusive first left second right mine theirs isMine isTheirs same slots)

/-- An account that has just been written is its owner's alone, so a row with the same account has the
same owner, and the slots of one owner are distinct. -/
theorem Exclusive.step (effect : Effect deps answer shared after task left) (table : shared.TableSound)
    (drawn : task.draws answer shared = true) (placed : task.Placed deps shared)
    (faithful : NoHandover deps shared.rows) (exclusive : Exclusive shared.rows) : Exclusive after.rows := by
  intro first isFirst second isSecond mine theirs hasMine hasTheirs same slots
  have next := effect.table table
  have faithful' := faithful.step effect table drawn placed
  rcases effect.account table drawn placed isFirst hasMine with ⟨before, old, named, alike, had⟩ | own
  · rcases effect.account table drawn placed isSecond hasTheirs with ⟨other, there, called, like, had'⟩ | own
    · have one := exclusive before old other there mine theirs had had' same
        (alike.slot.symm.trans (slots.trans like.slot))
      exact next.ids.eq_of_mem isFirst isSecond (named.symm.trans ((congrArg Cluster.id one).trans called))
    · have owner := faithful' first isFirst mine hasMine second.owner theirs own same.symm
      exact next.slots.eq_of_mem isFirst isSecond owner.symm slots
  · have owner := faithful' second isSecond theirs hasTheirs first.owner mine own same
    exact next.slots.eq_of_mem isFirst isSecond owner slots

/-! ## Runs -/

/-- Every row keeps a directory of its own, and no client is given the account of another one's row. -/
structure System.Separate (system : System) : Prop where
  placed : system.Placed
  faithful : NoHandover system.deps system.shared.rows
  exclusive : Exclusive system.shared.rows

theorem System.Separate.next {system after : System} {label : Label} (separate : system.Separate)
    (permitted : WithoutHandover system label) (moved : system.next label = some after) : after.Separate := by
  have placed := separate.placed.next moved
  cases label with
  | request request =>
    obtain ⟨-, rfl⟩ := next_request moved
    exact ⟨placed, separate.faithful, separate.exclusive⟩
  | world change =>
    obtain ⟨world, -, rfl⟩ := next_world moved
    exact ⟨placed, separate.faithful, separate.exclusive⟩
  | restart deps =>
    obtain ⟨-, rfl⟩ := next_restart moved
    have kept : handsAccountOver deps system.shared.rows = false := (Bool.not_eq_true' _).mp permitted
    have faithful : NoHandover deps system.shared.rows := noHandover_of_handsAccountOver kept
    exact ⟨placed, faithful, separate.exclusive⟩
  | step index answer =>
    obtain ⟨task, found, draws, effect, rfl⟩ := separate.placed.owned.effect moved
    have table := separate.placed.owned.shared
    have mine := separate.placed.tasks task (List.mem_of_getElem? found)
    exact ⟨placed, separate.faithful.step effect table draws mine,
      separate.exclusive.step effect table draws mine separate.faithful⟩

theorem boot_separate (deps : TaskDeps) : (System.boot deps .empty).Separate :=
  ⟨boot_placed deps empty_tableSound, fun _ member => (List.not_mem_nil member).elim, fun _ member => (List.not_mem_nil member).elim⟩

theorem separate_of_run {deps : TaskDeps} {finish : System}
    (run : Run System.next WithoutHandover (.boot deps .empty) finish) : finish.Separate :=
  run.invariant (boot_separate deps) fun _ _ _ separate permitted moved => separate.next permitted moved

/-- Through any restarts that hand no account over, no two rows ever share a directory. -/
theorem directories_exclusive {deps : TaskDeps} {finish : System}
    (run : Run System.next WithoutHandover (.boot deps .empty) finish) : DirectoriesExclusive finish.shared.rows := by
  have separate := separate_of_run run
  exact separate.exclusive.directories separate.placed.owned.shared.ids

/-- A second client beside the first one, with an account of its own. -/
def grownDeps : TaskDeps where
  config := ⟨smallLimits, [smallClient "alice" "agent1", smallClient "bob" "agent2"]⟩
  accepted := by decide +kernel
  passwd := "agent1:x:1001:1001::/:/bin/sh\nagent2:x:1002:1002::/:/bin/sh".toList
  clientWorkers := ⟨[(⟨"bob"⟩, ⟨"agent2", 1002, 1002⟩), (⟨"alice"⟩, ⟨"agent1", 1001, 1001⟩)]⟩
  resolved := by decide +kernel
  backends := registeredBackends
  workerDataDirBase := "/srv".toList
  tarStagingDirBase := "/staging".toList
  limits := smallDeps.limits
  minTtl := smallDeps.minTtl
  maxTtl := smallDeps.maxTtl
  quota := rfl
  spawnEstimate := smallDeps.spawnEstimate
  failedGracePeriod := smallDeps.failedGracePeriod

/-- The first client's row lives through a restart that adds a client, and the rows of both through another one. -/
theorem directories_exclusive_restarted : ∃ finish : System,
    finish.shared.rows.map Cluster.dir = [some ⟨"agent1", 0⟩, some ⟨"agent2", 0⟩] ∧
      DirectoriesExclusive finish.shared.rows := by
  have evaluated : (follow System.next keepsAccounts smallStart
      (untilReady ++ [.restart grownDeps, .step 0 {}, .step 0 {}, .step 0 {},
        .request (.create ⟨"bob"⟩ ⟨.postgres, false⟩ smallTtl none), .step 0 { id := ⟨1⟩ }, .step 0 {}, .step 0 {},
        .step 0 {}, .restart grownDeps])).map
        (fun finish => finish.shared.rows.map Cluster.dir) = some [some ⟨"agent1", 0⟩, some ⟨"agent2", 0⟩] := by
    decide +kernel
  obtain ⟨finish, followed, seen⟩ := Option.map_eq_some_iff.mp evaluated
  exact ⟨finish, seen, directories_exclusive (run_of_follow _ followed)⟩

/-- The account of the first client, given to another one. -/
def handoverDeps : TaskDeps where
  config := ⟨smallLimits, [smallClient "bob" "agent1"]⟩
  accepted := by decide +kernel
  passwd := "agent1:x:1001:1001::/:/bin/sh".toList
  clientWorkers := ⟨[(⟨"bob"⟩, ⟨"agent1", 1001, 1001⟩)]⟩
  resolved := by decide +kernel
  backends := registeredBackends
  workerDataDirBase := "/srv".toList
  tarStagingDirBase := "/staging".toList
  limits := smallDeps.limits
  minTtl := smallDeps.minTtl
  maxTtl := smallDeps.maxTtl
  quota := rfl
  spawnEstimate := smallDeps.spawnEstimate
  failedGracePeriod := smallDeps.failedGracePeriod

/-- Reconciliation of the one `Ready` row under the new configuration, and a create by its client that has
written its account. -/
def untilShared : List Label :=
  untilReady ++ [.restart handoverDeps, .step 0 {}, .step 0 {}, .step 0 {},
    .request (.create ⟨"bob"⟩ ⟨.postgres, false⟩ smallTtl none), .step 0 { id := ⟨1⟩ }, .step 0 {}, .step 0 {}, .step 0 {}]

/-- The row of the first client keeps the account that the second one now has. -/
theorem directory_shared : ∃ deps finish,
    Run System.next (fun _ _ => True) (.boot deps .empty) finish ∧ ¬ DirectoriesExclusive finish.shared.rows := by
  have evaluated : (follow System.next (fun _ _ => true) smallStart untilShared).map
      (fun finish => finish.shared.rows.map fun row => (row.worker.map WorkerUser.name, row.slot)) =
        some [(some "agent1", 0), (some "agent1", 0)] := by
    decide +kernel
  obtain ⟨finish, followed, seen⟩ := Option.map_eq_some_iff.mp evaluated
  refine ⟨smallDeps, finish, (run_of_follow _ followed).weaken fun _ _ _ => trivial, fun exclusive => ?_⟩
  match rows : finish.shared.rows with
  | [] | [_] | _ :: _ :: _ :: _ => simp [rows] at seen
  | [first, second] =>
    simp only [rows, List.map_cons, List.map_nil, List.cons.injEq, Prod.mk.injEq, Option.map_eq_some_iff, and_true]
      at seen
    obtain ⟨⟨⟨mine, isMine, named⟩, slot⟩, ⟨theirs, isTheirs, called⟩, place⟩ := seen
    rw [DirectoriesExclusive, rows, List.pairwise_pair] at exclusive
    exact exclusive mine theirs isMine isTheirs (named.trans called.symm) (slot.trans place.symm)

end AppSalmon
