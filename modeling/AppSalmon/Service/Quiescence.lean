import AppSalmon.Service.Liveness
import Mathlib.Algebra.BigOperators.Group.List.Basic
import Mathlib.Tactic.Abel

/-! What goes on when no client asks for anything any more.

The reaper's timer goes on, and a sweep may condemn a row and leave a teardown. It
does so once for each row that is not condemned yet, and no sweep makes a row. So
these rows weigh as much as a teardown and more, and in the end only sweeps are
left.
-/

set_option autoImplicit false

namespace AppSalmon

open TaskPool
open Repository (Rows stateOf)

/-! ## Rows whose deletion has not begun -/

def liveIds (rows : Rows) : List ClusterId := (rows.filter fun row => !row.state.isDeleting).map Cluster.id

theorem liveIds_cons (row : Cluster) (rest : Rows) :
    liveIds (row :: rest) = if row.state.isDeleting then liveIds rest else row.id :: liveIds rest := by
  cases deleting : row.state.isDeleting <;> simp [liveIds, deleting]

theorem liveIds_updateState {rows next : Rows} {id : ClusterId} {state : ClusterState} (deleting : state.isDeleting = true)
    (done : Repository.updateState rows id state = .ok next) : liveIds next = (liveIds rows).filter (· ≠ id) := by
  obtain ⟨-, rfl⟩ := Repository.modify_eq_ok.mp done
  clear done
  induction rows with
  | nil => rfl
  | cons row rest ih =>
    rw [KeyedTable.update, List.map_cons, ← KeyedTable.update, liveIds_cons, liveIds_cons, ih]
    by_cases named : row.id = id
    · cases row.state.isDeleting <;> simp [named, deleting]
    · cases condemned : row.state.isDeleting <;> simp [named, condemned]

theorem liveIds_setWorker {rows next : Rows} {id : ClusterId} {worker : WorkerUser}
    (done : Repository.setWorker rows id worker = .ok next) : liveIds next = liveIds rows := by
  obtain ⟨-, rfl⟩ := Repository.modify_eq_ok.mp done
  clear done
  induction rows with
  | nil => rfl
  | cons row rest ih =>
    rw [KeyedTable.update, List.map_cons, ← KeyedTable.update, liveIds_cons, liveIds_cons, ih]
    by_cases named : row.id = id <;> simp [named]

theorem liveIds_delete (rows : Rows) (id : ClusterId) :
    liveIds (Repository.delete rows id) = (liveIds rows).filter (· ≠ id) := by
  induction rows with
  | nil => rfl
  | cons row rest ih =>
    rw [Repository.delete, KeyedTable.remove] at ih ⊢
    by_cases named : row.id = id
    · rw [List.filter_cons_of_neg (by simpa using named), ih, liveIds_cons]
      cases row.state.isDeleting <;> simp [named]
    · rw [List.filter_cons_of_pos (by simpa using named), liveIds_cons, ih, liveIds_cons]
      cases row.state.isDeleting <;> simp [named]

/-- The same rows are live, or fewer. -/
def Fades (live after : List ClusterId) : Prop := after = live ∨ after.length < live.length

theorem fades_filter (live : List ClusterId) (id : ClusterId) : Fades live (live.filter (· ≠ id)) := by
  by_cases there : id ∈ live
  · exact .inr (List.length_filter_lt_length_iff_exists.mpr ⟨id, there, by simp⟩)
  · refine .inl (List.filter_eq_self.mpr fun other member => ?_)
    rw [decide_eq_true_eq]
    rintro rfl
    exact there member

/-! ## Weights -/

/-- The weight of a teardown that a sweep has to start, and of a row that it may still condemn. -/
def pledged : Nat ×ₗ Nat := toLex (1, 4)

def alive : Nat ×ₗ Nat := toLex (1, 5)

theorem pledged_lt_alive : pledged < alive := rank_lt (.inr ⟨rfl, by decide⟩)

/-- How many teardowns a sweep will start. A row that it has read and finds condemned by another one counts already. -/
def Task.promises (live : List ClusterId) : Task → Nat
  | .reap _ _ results | .dispatch results => (pledges results).length
  | .requestDelete _ _ _ (.reaper _ _ results) none => (pledges results).length
  | .requestDelete _ _ _ (.reaper _ _ results) (some read) =>
    (pledges results).length + if read.state.isSettled ∧ read.id ∉ live then 1 else 0
  | _ => 0

def promised (live : List ClusterId) (tasks : List Task) : Nat := (tasks.map (Task.promises live)).sum

/-- The tasks that are no part of a sweep. -/
def busy (tasks : List Task) : Multiset (Nat ×ₗ Nat) := (tasks.filter fun task => !task.isReaper).map Task.rank

def weigh (live : List ClusterId) (tasks : List Task) : Multiset (Nat ×ₗ Nat) :=
  busy tasks + Multiset.replicate (promised live tasks) pledged + Multiset.replicate live.length alive

def System.weight (system : System) : Multiset (Nat ×ₗ Nat) := weigh (liveIds system.shared.rows) system.tasks

variable {deps : TaskDeps} {answer : Answer} {shared : Shared} {task fresh : Task} {id : ClusterId}

theorem busy_cons (task : Task) (rest : List Task) :
    busy (task :: rest) = (if task.isReaper then 0 else {task.rank}) + busy rest := by
  cases reaper : task.isReaper <;> simp [busy, reaper]

theorem busy_append (first second : List Task) : busy (first ++ second) = busy first + busy second := by
  simp [busy]

theorem busy_perm {first second : List Task} (permuted : first.Perm second) : busy first = busy second :=
  Multiset.coe_eq_coe.mpr ((permuted.filter _).map _)

theorem promised_append (live : List ClusterId) (first second : List Task) :
    promised live (first ++ second) = promised live first + promised live second := by
  simp [promised]

theorem promised_perm (live : List ClusterId) {first second : List Task} (permuted : first.Perm second) :
    promised live first = promised live second := (permuted.map _).sum_eq

theorem promised_of_quiet {live : List ClusterId} {tasks : List Task} (quiet : ∀ task ∈ tasks, task.isReaper = false) :
    promised live tasks = 0 := by
  apply List.sum_eq_zero
  intro count member
  obtain ⟨task, inside, rfl⟩ := List.mem_map.mp member
  have other := quiet task inside
  cases task with
  | requestDelete _ _ _ caller read =>
    cases caller with
    | handler => rfl
    | reaper => cases other
  | reap | dispatch => cases other
  | create | launch | spawn | unregister | teardown | followDelete | sweep | late | staging | reconcile | reconcileRows
  | reconcileLost => rfl

theorem busy_of_sweeping {tasks : List Task} (sweeping : ∀ task ∈ tasks, task.isReaper = true) : busy tasks = 0 := by
  have nothing : (tasks.filter fun task => !task.isReaper) = [] :=
    List.filter_eq_nil_iff.mpr fun task member => by simp [sweeping task member]
  rw [busy, nothing]
  rfl

/-! ## What a step does to them -/

theorem Successor.quiet (successor : Successor deps answer shared task fresh) (other : task.isReaper = false) :
    fresh.isReaper = false := by
  cases successor with
  | @abandons _ _ _ _ phase _ dropped =>
    cases phase <;> simp only [SpawnTask.abandoned, List.mem_singleton, List.not_mem_nil] at dropped
    all_goals
      rw [dropped]
      rfl
  | @reads _ _ _ caller =>
    cases caller with
    | handler => rfl
    | reaper => cases other
  | passesOver | collects | gathers | gathersNothing | gathered | spares | expires | dispatches | starts => cases other
  | launches | registers | turns | begins | declines | works | checks | ends | tears | removesLate | wipesLate | unregisters
  | resumes | answers | follows | extracts | lists | orphans | finishes | loses | leaves | notes => rfl

/-- What ranks below a row makes none live. -/
theorem low_fades (low : task.rank < toLex (2, 0)) :
    Fades (liveIds shared.rows) (liveIds (task.step deps answer shared).1.rows) := by
  have high {first second : Nat} (rank : task.rank = toLex (first, second)) : first < 2 := by
    rw [rank, Prod.Lex.toLex_lt_toLex] at low
    rcases low with less | ⟨rfl, less⟩
    · exact less
    · exact absurd less (Nat.not_lt_zero _)
  cases task with
  | unregister => exact .inl rfl
  | staging dir upload work =>
    left
    cases work with
    | create | remove =>
      simp only [Task.step, StagingWork.step]
      split <;> rfl
    | extract remaining =>
      cases remaining with
      | nil => rfl
      | cons effect rest =>
        simp only [Task.step, StagingWork.step]
        split <;> rfl
  | late effect =>
    left
    cases lands : answer.lands with
    | false => simp [Task.step, lands]
    | true =>
      simp only [Task.step, lands, if_true]
      cases effect with
      | setWorker other worker =>
        simp only [LateEffect.apply]
        split
        · next rows done => exact liveIds_setWorker done
        · rfl
      | writes | wipes | creates | removes => rfl
  | teardown cluster stage next =>
    cases stage with
    | backend | wipe =>
      left
      simp only [Task.step, TeardownTask.step]
      split
      · rfl
      · split <;> rfl
    | delete =>
      simp only [Task.step, TeardownTask.step]
      split
      · exact .inl rfl
      · rw [liveIds_delete]
        exact fades_filter _ _
  | spawn cluster token projectTar stage =>
    cases stage with
    | working worker phase =>
      have bounds := phase.rank_bounds
      have less : phase.rank.1 < 2 := high rfl
      omega
    | start | checking | persisting => exact absurd (high rfl) (by decide)
  | requestDelete id owner reason caller read => cases caller <;> exact absurd (high rfl) (by decide)
  | create | launch | followDelete | sweep | reconcile | reap | dispatch | reconcileRows | reconcileLost =>
    exact absurd (high rfl) (by decide)

theorem mem_liveIds {rows : Rows} {row : Cluster} (member : row ∈ rows) (standing : row.state.isDeleting = false) :
    row.id ∈ liveIds rows :=
  List.mem_map_of_mem (List.mem_filter.mpr ⟨member, by rw [standing]; rfl⟩)

theorem isDeleting_of_isSettled {state : ClusterState} (settled : state.isSettled = true) : state.isDeleting = false := by
  cases state with
  | ready | failed => rfl
  | spawning | deleting => cases settled

theorem length_pledgeOf_deleteOutcome (id : ClusterId) (state : ClusterState) :
    (pledgeOf id (ClusterService.deleteOutcome state)).length = if state.isSettled then 1 else 0 := by
  cases state <;> rfl

/-- What a step of a sweep does to the rows and to what is promised. -/
inductive SweepMoves (live after : List ClusterId) (task : Task) (left : List Task) : Prop where
  | condemns (fewer : after.length < live.length) (sweeping : ∀ fresh ∈ left, fresh.isReaper = true)
  | goesOn (same : after = live) (sweeping : ∀ fresh ∈ left, fresh.isReaper = true)
      (less : promised live left ≤ task.promises live)
  | starts (same : after = live) (low : ∀ fresh ∈ left, fresh.isReaper = false → fresh.rank < pledged)
      (less : promised live left < task.promises live)

theorem sweepMoves (reaper : task.isReaper = true) :
    SweepMoves (liveIds shared.rows) (liveIds (task.step deps answer shared).1.rows) task (task.step deps answer shared).2 := by
  cases task with
  | sweep =>
    simp only [Task.step, TtlReaper.sweep]
    split <;> exact .goesOn rfl (by simp [Task.isReaper]) (by simp [promised, Task.promises, pledges])
  | reap now todo results =>
    cases todo with
    | nil => exact .goesOn rfl (by simp [Task.step, TtlReaper.reap, Task.isReaper]) (by simp [Task.step, TtlReaper.reap, promised, Task.promises])
    | cons cluster rest =>
      simp only [Task.step, TtlReaper.reap]
      split
      · exact .goesOn rfl (by simp) (by simp [promised])
      · exact .goesOn rfl (by simp [Task.isReaper]) (by simp [promised, Task.promises])
      · exact .goesOn rfl (by simp [Task.isReaper]) (by simp [promised, Task.promises])
  | dispatch results =>
    cases results with
    | nil => exact .goesOn rfl (by simp [Task.step, TtlReaper.dispatch]) (by simp [Task.step, TtlReaper.dispatch, promised])
    | cons first rest =>
      obtain ⟨cluster, outcome⟩ := first
      cases outcome with
      | startTeardown =>
        refine .starts rfl (fun fresh member other => ?_) ?_
        · simp only [Task.step, TtlReaper.dispatch, TeardownTask.enter, List.cons_append, List.nil_append] at member
          rcases List.mem_pair.mp member with rfl | rfl
          · exact rank_lt (.inr ⟨rfl, by decide⟩)
          · cases other
        · simp [Task.step, TtlReaper.dispatch, TeardownTask.enter, promised, Task.promises, pledges, pledgeOf]
      | cancelSpawn | alreadyDeleting =>
        exact .goesOn rfl (by simp [Task.step, TtlReaper.dispatch, Task.isReaper])
          (by simp [Task.step, TtlReaper.dispatch, promised, Task.promises, pledges, pledgeOf])
  | requestDelete id owner reason caller read =>
    cases caller with
    | handler => cases reaper
    | reaper now todo results =>
      cases read with
      | none =>
        simp only [Task.step, ClusterService.requestDelete]
        split
        · next row found =>
          refine .goesOn rfl (by simp [Task.isReaper]) ?_
          -- the row is as it stands in the table
          have standing : ¬ (row.state.isSettled = true ∧ row.id ∉ liveIds shared.rows) := by
            rintro ⟨settled, gone⟩
            exact gone (mem_liveIds (List.mem_of_find?_eq_some (ClusterService.info_ok found)) (isDeleting_of_isSettled settled))
          simp [promised, Task.promises, if_neg standing]
        · exact .goesOn rfl (by simp [Caller.receive, Task.isReaper]) (by simp [Caller.receive, promised, Task.promises])
      | some row =>
        simp only [Task.step, ClusterService.requestDelete]
        cases done : ClusterService.writeDeletion shared.rows answer.repository row answer.now reason with
        | mk result rows =>
        cases result with
        | error error =>
          obtain rfl := ClusterService.writeDeletion_error done
          exact .goesOn rfl (by simp [Caller.receive, Task.isReaper]) (by simp [Caller.receive, promised, Task.promises])
        | ok outcome =>
          obtain ⟨updated, outcome⟩ := outcome
          obtain ⟨-, decided, updates, written⟩ := ClusterService.writeDeletion_ok done
          have deleting : updated.state.isDeleting = true := updates ▸ condemned_isDeleting ..
          have become := liveIds_updateState deleting written
          have sweeping : ∀ fresh ∈ [Task.reap now todo (results ++ [(updated, outcome)])], fresh.isReaper = true := by
            simp [Task.isReaper]
          rcases fades_filter (liveIds shared.rows) row.id with same | fewer
          · refine .goesOn (become.trans same) sweeping ?_
            have gone : row.id ∉ liveIds shared.rows := by
              rw [← same]
              simp
            have own : (pledgeOf updated.id outcome).length = if row.state.isSettled then 1 else 0 := by
              rw [decided, length_pledgeOf_deleteOutcome]
            simp [Caller.receive, promised, Task.promises, pledges, gone, own]
          · exact .condemns (become ▸ fewer) sweeping
  | create | launch | spawn | unregister | teardown | followDelete | late | staging | reconcile | reconcileRows
  | reconcileLost => cases reaper

/-! ## What a step does to the weight -/

variable {system : System} {index : Nat}

theorem mem_busy {tasks : List Task} {low : Nat ×ₗ Nat} (member : low ∈ busy tasks) :
    ∃ task ∈ tasks, task.isReaper = false ∧ task.rank = low := by
  obtain ⟨task, inside, rfl⟩ := List.mem_map.mp (Multiset.mem_coe.mp member)
  obtain ⟨there, other⟩ := List.mem_filter.mp inside
  exact ⟨task, there, (Bool.not_eq_true' _).mp other, rfl⟩

theorem weight_split (found : system.tasks[index]? = some task) :
    system.weight = (if task.isReaper then 0 else {task.rank}) + busy (system.tasks.eraseIdx index) +
      (Multiset.replicate (task.promises (liveIds system.shared.rows)) pledged +
        Multiset.replicate (promised (liveIds system.shared.rows) (system.tasks.eraseIdx index)) pledged) +
      Multiset.replicate (liveIds system.shared.rows).length alive := by
  obtain ⟨inside, rfl⟩ := List.getElem?_eq_some_iff.mp found
  have permuted := (List.getElem_cons_eraseIdx_perm inside).symm
  rw [System.weight, weigh, busy_perm permuted, promised_perm _ permuted, busy_cons, promised, List.map_cons, List.sum_cons,
    Multiset.replicate_add]
  rfl

theorem weight_advance :
    (system.advance index answer task).weight =
      busy (system.tasks.eraseIdx index) + busy (task.step system.deps answer system.shared).2 +
      (Multiset.replicate (promised (liveIds (task.step system.deps answer system.shared).1.rows)
          (system.tasks.eraseIdx index)) pledged +
        Multiset.replicate (promised (liveIds (task.step system.deps answer system.shared).1.rows)
          (task.step system.deps answer system.shared).2) pledged) +
      Multiset.replicate (liveIds (task.step system.deps answer system.shared).1.rows).length alive := by
  rw [← Multiset.replicate_add, ← promised_append, ← busy_append]
  rfl

theorem mem_replicate_sub {fewer many : Nat} (less : fewer < many) (rank : Nat ×ₗ Nat) :
    rank ∈ Multiset.replicate (many - fewer) rank := Multiset.mem_replicate.mpr ⟨Nat.sub_ne_zero_of_lt less, rfl⟩

theorem replicate_split {fewer many : Nat} (less : fewer ≤ many) (rank : Nat ×ₗ Nat) :
    Multiset.replicate many rank = Multiset.replicate fewer rank + Multiset.replicate (many - fewer) rank := by
  rw [← Multiset.replicate_add, Nat.add_sub_of_le less]

/-- A task that is answered and is no part of a sweep leaves less. -/
theorem busy_falls (found : system.tasks[index]? = some task) (other : task.isReaper = false)
    (returns : task.makes answer system.shared = false) :
    (system.advance index answer task).weight.IsDershowitzMannaLT system.weight := by
  have ranks (low : Nat ×ₗ Nat) (member : low ∈ busy (task.step system.deps answer system.shared).2) : low < task.rank := by
    obtain ⟨fresh, inside, -, rfl⟩ := mem_busy member
    exact step_ranks inside returns
  have quiet : ∀ fresh ∈ (task.step system.deps answer system.shared).2, fresh.isReaper = false :=
    fun fresh member => (Task.successor member).quiet other
  rw [weight_advance, weight_split found, promised_of_quiet quiet, Multiset.replicate_zero, add_zero,
    if_neg (by simp [other])]
  generalize busy (task.step system.deps answer system.shared).2 = left at ranks ⊢
  generalize task.promises (liveIds system.shared.rows) = own
  rcases lt_or_ge task.rank (toLex (2, 0)) with low | high
  · rcases low_fades low with same | fewer
    · rw [same]
      refine falls_of_below (busy (system.tasks.eraseIdx index) +
        Multiset.replicate (promised (liveIds system.shared.rows) (system.tasks.eraseIdx index)) pledged +
          Multiset.replicate (liveIds system.shared.rows).length alive) left ({task.rank} + Multiset.replicate own pledged)
        (by abel) (by abel) (by simp) fun rank member => ⟨task.rank, by simp, ranks rank member⟩
    · -- the row that is gone outweighs what sweeps that have read it will start
      generalize liveIds (task.step system.deps answer system.shared).1.rows = after at fewer ⊢
      rw [replicate_split (Nat.le_of_lt fewer) alive]
      refine falls_of_below (busy (system.tasks.eraseIdx index) + Multiset.replicate after.length alive)
        (left + Multiset.replicate (promised after (system.tasks.eraseIdx index)) pledged)
        ({task.rank} + Multiset.replicate own pledged +
          Multiset.replicate (promised (liveIds system.shared.rows) (system.tasks.eraseIdx index)) pledged +
          Multiset.replicate ((liveIds system.shared.rows).length - after.length) alive)
        (by abel) (by abel) (by simp) fun rank member => ?_
      rcases Multiset.mem_add.mp member with ranked | promise
      · exact ⟨task.rank, by simp, ranks rank ranked⟩
      · obtain rfl := Multiset.eq_of_mem_replicate promise
        exact ⟨alive, Multiset.mem_add.mpr (.inr (mem_replicate_sub fewer alive)), pledged_lt_alive⟩
  · -- whatever else comes of it weighs less than the task itself
    generalize liveIds (task.step system.deps answer system.shared).1.rows = after
    refine falls_of_below (busy (system.tasks.eraseIdx index))
      (left + Multiset.replicate (promised after (system.tasks.eraseIdx index)) pledged +
        Multiset.replicate after.length alive)
      ({task.rank} + Multiset.replicate own pledged +
        Multiset.replicate (promised (liveIds system.shared.rows) (system.tasks.eraseIdx index)) pledged +
        Multiset.replicate (liveIds system.shared.rows).length alive)
      (by abel) (by abel) (by simp) fun rank member => ⟨task.rank, by simp, ?_⟩
    rcases Multiset.mem_add.mp member with inside | live
    · rcases Multiset.mem_add.mp inside with ranked | promise
      · exact ranks rank ranked
      · rw [Multiset.eq_of_mem_replicate promise]
        exact lt_of_lt_of_le (rank_lt (.inl (by decide))) high
    · rw [Multiset.eq_of_mem_replicate live]
      exact lt_of_lt_of_le (rank_lt (.inl (by decide))) high

theorem rows_of_makes (makes : task.makes answer shared = true) : (task.step deps answer shared).1.rows = shared.rows := by
  cases task with
  | spawn cluster token projectTar stage =>
    cases stage with
    | working worker phase =>
      cases phase with
      | spawning =>
        simp only [Task.makes, Bool.and_eq_true, Bool.not_eq_true'] at makes
        obtain ⟨running, creates⟩ := makes
        cases told : answer.spawn with
        | creates => simp [Task.step, SpawnTask.step, SpawnTask.work, running, told]
        | returns | panics =>
          rw [told] at creates
          cases creates
      | settingWorker | preparing | creatingStaging | settingModes | extracting | adopting | unstaging => cases makes
    | start | checking | persisting => cases makes
  | create | launch | unregister | teardown | requestDelete | followDelete | sweep | reap | dispatch | late | staging
  | reconcile | reconcileRows | reconcileLost => cases makes

/-- A backend that has only made a container leaves everything as it was. -/
theorem makes_weighs (found : system.tasks[index]? = some task) (makes : task.makes answer system.shared = true) :
    (system.advance index answer task).weight = system.weight := by
  have own (live : List ClusterId) : promised live [task] = task.promises live := by simp [promised]
  have rank : busy [task] = if task.isReaper then 0 else {task.rank} := by
    rw [busy_cons]
    exact add_zero _
  rw [weight_advance, weight_split found, rows_of_makes makes, step_of_makes makes, own, rank]
  abel

/-- A sweep never leaves more than it met. -/
theorem sweep_weighs (found : system.tasks[index]? = some task) (reaper : task.isReaper = true) :
    (system.advance index answer task).weight = system.weight ∨
      (system.advance index answer task).weight.IsDershowitzMannaLT system.weight := by
  have moves : SweepMoves (liveIds system.shared.rows) (liveIds (task.step system.deps answer system.shared).1.rows) task
      (task.step system.deps answer system.shared).2 := sweepMoves reaper
  rw [weight_advance, weight_split found, if_pos reaper, zero_add]
  cases moves with
  | condemns fewer sweeping =>
    right
    rw [busy_of_sweeping sweeping, add_zero]
    generalize (task.step system.deps answer system.shared).2 = left
    generalize liveIds (task.step system.deps answer system.shared).1.rows = after at fewer ⊢
    rw [replicate_split (Nat.le_of_lt fewer) alive]
    refine falls_of_below (busy (system.tasks.eraseIdx index) + Multiset.replicate after.length alive)
      (Multiset.replicate (promised after (system.tasks.eraseIdx index)) pledged +
        Multiset.replicate (promised after left) pledged)
      (Multiset.replicate (task.promises (liveIds system.shared.rows)) pledged +
        Multiset.replicate (promised (liveIds system.shared.rows) (system.tasks.eraseIdx index)) pledged +
        Multiset.replicate ((liveIds system.shared.rows).length - after.length) alive)
      (by abel) (by abel) ?_ fun rank member => ⟨alive, ?_, ?_⟩
    · exact fun nothing => Multiset.notMem_zero alive (nothing ▸ Multiset.mem_add.mpr (.inr (mem_replicate_sub fewer alive)))
    · exact Multiset.mem_add.mpr (.inr (mem_replicate_sub fewer alive))
    · rcases Multiset.mem_add.mp member with promise | promise <;>
      · rw [Multiset.eq_of_mem_replicate promise]
        exact pledged_lt_alive
  | goesOn same sweeping less =>
    rw [same, busy_of_sweeping sweeping, add_zero]
    generalize promised (liveIds system.shared.rows) (task.step system.deps answer system.shared).2 = left at less ⊢
    rcases Nat.lt_or_eq_of_le less with fewer | equal
    · right
      rw [replicate_split less pledged]
      refine falls_of_below _ 0 (Multiset.replicate (task.promises (liveIds system.shared.rows) - left) pledged)
        (add_zero _).symm (by abel) ?_ (by simp)
      exact fun nothing => Multiset.notMem_zero pledged (nothing ▸ mem_replicate_sub fewer pledged)
    · left
      rw [equal]
      abel
  | starts same low less =>
    right
    rw [same, replicate_split (Nat.le_of_lt less) pledged]
    generalize task.promises (liveIds system.shared.rows) = own at less ⊢
    generalize gone : promised (liveIds system.shared.rows) (task.step system.deps answer system.shared).2 = left at less ⊢
    refine falls_of_below (busy (system.tasks.eraseIdx index) + Multiset.replicate left pledged +
      Multiset.replicate (promised (liveIds system.shared.rows) (system.tasks.eraseIdx index)) pledged +
      Multiset.replicate (liveIds system.shared.rows).length alive)
      (busy (task.step system.deps answer system.shared).2) (Multiset.replicate (own - left) pledged)
      (by abel) (by abel) ?_ fun rank member => ⟨pledged, mem_replicate_sub less pledged, ?_⟩
    · exact fun nothing => Multiset.notMem_zero pledged (nothing ▸ mem_replicate_sub less pledged)
    · obtain ⟨fresh, inside, other, rfl⟩ := mem_busy member
      exact low fresh inside other

/-- Without a client's request, no step raises the weight. -/
theorem next_weighs {after : System} {label : Label} (permitted : OneLifetime system label)
    (moved : system.next label = some after) (calm : ∀ request, label = .request request → request = .sweep) :
    after.weight = system.weight ∨ after.weight.IsDershowitzMannaLT system.weight := by
  cases label with
  | request request =>
    obtain ⟨-, rfl⟩ := next_request moved
    obtain rfl := calm request rfl
    left
    have sweeping : ∀ task ∈ [Request.sweep.task], task.isReaper = true := by simp [Request.task, Task.isReaper]
    have nothing : promised (liveIds system.shared.rows) [Request.sweep.task] = 0 := rfl
    have joined : weigh (liveIds system.shared.rows) (system.tasks ++ [Request.sweep.task]) = system.weight := by
      rw [weigh, busy_append, busy_of_sweeping sweeping, promised_append, nothing, add_zero, Nat.add_zero]
      rfl
    exact joined
  | world change =>
    obtain ⟨world, -, rfl⟩ := next_world moved
    exact .inl rfl
  | restart deps => exact permitted.elim
  | step index answer =>
    obtain ⟨task, found, -, rfl⟩ := next_step moved
    cases reaper : task.isReaper with
    | true => exact sweep_weighs found reaper
    | false =>
      cases makes : task.makes answer system.shared with
      | true => exact .inl (makes_weighs found makes)
      | false => exact .inr (busy_falls found reaper makes)

theorem answered_weighs {after : System} {label : Label} (moved : system.next label = some after)
    (answered : system.Answered label task) (other : task.isReaper = false) :
    after.weight.IsDershowitzMannaLT system.weight := by
  obtain ⟨index, answer, rfl, found, returns⟩ := answered
  obtain ⟨own, here, -, rfl⟩ := next_step moved
  obtain rfl : own = task := Option.some.inj (here.symm.trans found)
  exact busy_falls found other returns

/-! ## Rest -/

/-- A sweep settles no row. -/
theorem sweep_unsettled (reaper : task.isReaper = true) (unsettled : shared.Unsettled id) :
    (task.step deps answer shared).1.Unsettled id := by
  cases task with
  | sweep =>
    simp only [Task.step, TtlReaper.sweep]
    split <;> exact unsettled
  | reap now todo results =>
    cases todo with
    | nil => exact unsettled
    | cons cluster rest =>
      simp only [Task.step, TtlReaper.reap]
      split <;> exact unsettled
  | dispatch results =>
    cases results with
    | nil => exact unsettled
    | cons first rest =>
      obtain ⟨cluster, outcome⟩ := first
      cases outcome <;> exact unsettled
  | requestDelete other owner reason caller read =>
    cases caller with
    | handler => cases reaper
    | reaper now todo results =>
      cases read with
      | none =>
        simp only [Task.step, ClusterService.requestDelete]
        split <;> exact unsettled
      | some row =>
        simp only [Task.step, ClusterService.requestDelete]
        cases done : ClusterService.writeDeletion shared.rows answer.repository row answer.now reason with
        | mk result rows =>
        cases result with
        | error error =>
          obtain rfl := ClusterService.writeDeletion_error done
          exact unsettled
        | ok outcome =>
          obtain ⟨updated, outcome⟩ := outcome
          obtain ⟨-, -, updates, written⟩ := ClusterService.writeDeletion_ok done
          have deleting : updated.state.isDeleting = true := updates ▸ condemned_isDeleting ..
          obtain ⟨state, found, open_state⟩ := unsettled
          have become : stateOf rows id = if id = row.id then some updated.state else stateOf shared.rows id :=
            Repository.stateOf_updateState written
          by_cases named : id = row.id
          · rw [if_pos named] at become
            exact ⟨updated.state, become, (ClusterState.calm_of_isDeleting deleting).1⟩
          · rw [if_neg named, found] at become
            exact ⟨state, become, open_state⟩
  | create | launch | spawn | unregister | teardown | followDelete | late | staging | reconcile | reconcileRows
  | reconcileLost => cases reaper

/-- As long as only sweeps are answered, no row is settled. -/
theorem next_unsettled {after : System} {label : Label} (permitted : OneLifetime system label)
    (moved : system.next label = some after) (sweeping : ∀ task ∈ system.tasks, task.isReaper = true)
    (unsettled : system.shared.Unsettled id) : after.shared.Unsettled id := by
  cases label with
  | request request =>
    obtain ⟨-, rfl⟩ := next_request moved
    exact unsettled
  | world change =>
    obtain ⟨world, -, rfl⟩ := next_world moved
    exact unsettled
  | restart deps => exact permitted.elim
  | step index answer =>
    obtain ⟨task, found, -, rfl⟩ := next_step moved
    exact sweep_unsettled (sweeping task (List.mem_of_getElem? found)) unsettled

theorem holds_of_isReaper (reaper : task.isReaper = true) : task.holds = none := by
  cases task with
  | sweep | reap | dispatch | requestDelete => rfl
  | create | launch | spawn | unregister | teardown | followDelete | late | staging | reconcile | reconcileRows
  | reconcileLost => cases reaper

/-- Once clients ask for nothing more, a process whose tasks are all answered at last comes to rest, whatever fails: no
task but those of sweeps is left, and no token but those of spawns that have panicked. Where every step brings rows to
their end, all of them are `Ready` or `Failed` then, and those whose `DELETE` was answered are gone. -/
theorem comes_to_rest {start : System} (started : Started start) (execution : Execution System.next OneLifetime start)
    (fair : Fair execution) (quiet : Nat)
    (calm : ∀ time ≥ quiet, ∀ request, execution.label time = .request request → request = .sweep) :
    ∃ rest ≥ quiet, ∀ time ≥ rest, (∀ task ∈ (execution.state time).tasks, task.isReaper = true) ∧
      (∀ id token, (id, token) ∈ (execution.state time).shared.registry.tokens →
        Happened System.next OneLifetime (SpawnPanics id) start (execution.state time)) ∧
      ((∀ time, BringingToEnd (execution.state time) (execution.label time)) →
        (∀ id state, stateOf (execution.state time).shared.rows id = some state → state.isSettled = true) ∧
          ∀ id ∈ (execution.state time).shared.accepted, (execution.state time).shared.row? id = none) := by
  obtain ⟨rest, begun, sweeps⟩ := pool_quiets Multiset.wellFounded_isDershowitzMannaLT
    (fun time => (execution.state time).weight) fair
    (fun time after => next_weighs (execution.permitted time) (execution.moves time) (calm time after))
    (fun time _ _ answered other => answered_weighs (execution.moves time) answered other)
  have sweeping (time : Nat) (after : time ≥ rest) : ∀ task ∈ (execution.state time).tasks, task.isReaper = true :=
    fun task member => Bool.eq_true_of_not_eq_false (sweeps time after task member)
  refine ⟨rest, begun, fun time after => ⟨sweeping time after, fun id token listed => ?_, fun brings => ?_⟩⟩
  · rcases answers_of_run started (execution.run time) id with answers | happened
    · obtain ⟨task, member, holds⟩ := answers () ⟨token, listed⟩
      rw [holds_of_isReaper (sweeping time after task member)] at holds
      cases holds
    · exact happened
  · let ending : Execution System.next BringingToEnd start :=
      ⟨execution.state, execution.label, execution.starts, brings, execution.moves⟩
    have settled (id : ClusterId) : ¬ (execution.state time).shared.Unsettled id := by
      intro unsettled
      obtain ⟨later, beyond, ends⟩ := unsettled_ends started ending fair time id
      have still : ∀ later ≥ time, (execution.state later).shared.Unsettled id := by
        intro later beyond
        induction later, beyond using Nat.le_induction with
        | base => exact unsettled
        | succ later beyond ih =>
          exact next_unsettled (execution.permitted later) (execution.moves later)
            (sweeping later (Nat.le_trans after beyond)) ih
      exact ends (still later beyond)
    refine ⟨fun id state found => ?_, fun id accepted => ((kept_at started ending time).gone accepted (settled id)).2⟩
    by_contra unsettled
    exact settled id ⟨state, found, Bool.eq_false_of_not_eq_true unsettled⟩

/-- The small execution comes to rest with its one row gone, while the timer goes on. -/
theorem small_comes_to_rest : ∃ (execution : Execution System.next OneLifetime smallStart) (rest : Nat),
    (execution.state 16).tasks.all Task.isReaper = false ∧
      ∀ time ≥ rest, execution.label time ∈ sweepOfNothing ∧ (∀ task ∈ (execution.state time).tasks, task.isReaper = true) ∧
        ∀ id state, stateOf (execution.state time).shared.rows id = some state → state.isSettled = true := by
  obtain ⟨execution, fair, timer, within⟩ := small_execution
  have evaluated : (follow System.next answersAtOnce smallStart (untilGone.take 16)).map
      (fun system => system.tasks.all Task.isReaper) = some false := by
    decide +kernel
  rw [within 16 (by decide), Option.map_some, Option.some.injEq] at evaluated
  have calm (time : Nat) (after : time ≥ untilGone.length) (request : Request)
      (asked : execution.label time = .request request) : request = .sweep := by
    have label := timer time after
    rw [asked] at label
    simpa [sweepOfNothing] using label
  obtain ⟨rest, begun, rests⟩ := comes_to_rest smallStart_started
    ⟨execution.state, execution.label, execution.starts, fun time => (execution.permitted time).oneLifetime,
      execution.moves⟩ fair untilGone.length calm
  refine ⟨⟨execution.state, execution.label, execution.starts, fun time => (execution.permitted time).oneLifetime,
    execution.moves⟩, rest, evaluated, fun time after => ?_⟩
  obtain ⟨sweeping, -, settled⟩ := rests time after
  exact ⟨timer time (Nat.le_trans begun after), sweeping, (settled execution.permitted).1⟩

end AppSalmon
