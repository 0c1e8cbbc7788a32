import AppSalmon.Http.Answers
import AppSalmon.Http.Process
import AppSalmon.Library.Progress
import AppSalmon.Service.Successors
import Mathlib.Data.Multiset.Bind
import Mathlib.Tactic.Abel
import Mathlib.Data.List.Forall2

/-! The handlers beside the tasks they stand for.

A task of the system begins where a handler makes its first call that matters,
and then makes one step for each call and for the end. A request that is
dropped leaves its task where it is. So the process does nothing that the system
could not do.
-/

set_option autoImplicit false

namespace AppSalmon

open Droppable TaskPool
open Repository (Rows)

/-! ## New rows -/

theorem newborn_eq_nil {before after : Rows} (known : ∀ row ∈ after, row.id ∈ before.map Cluster.id) :
    newborn before after = [] := by
  unfold newborn
  rw [List.filter_eq_nil_iff]
  intro id member
  obtain ⟨row, inside, rfl⟩ := List.mem_map.mp member
  simpa using known row inside

theorem newborn_append {rows : Rows} {row : Cluster} (absent : Repository.getAny rows row.id = none) :
    newborn rows (rows ++ [row]) = [row.id] := by
  have fresh : row.id ∉ rows.map Cluster.id := by
    intro member
    obtain ⟨other, inside, same⟩ := List.mem_map.mp member
    exact KeyedTable.lookup_eq_none.mp absent other inside same
  have old : (rows.map Cluster.id).filter (fun id => id ∉ rows.map Cluster.id) = [] := by
    rw [List.filter_eq_nil_iff]
    intro id member
    simpa using member
  simp only [newborn, List.map_append, List.filter_append, old, List.map_cons, List.map_nil, List.nil_append]
  rw [List.filter_cons_of_pos (by simpa using fresh), List.filter_nil]

namespace Shared

theorem written_known {shared : Shared} {rows : Rows} (known : ∀ row ∈ rows, row.id ∈ shared.rows.map Cluster.id) :
    shared.written rows = { shared with rows := rows } := by
  rw [written, newborn_eq_nil known, List.nil_append]

theorem written_same (shared : Shared) : shared.written shared.rows = shared :=
  written_known fun _ member => List.mem_map_of_mem member

theorem written_append {shared : Shared} {row : Cluster} (absent : Repository.getAny shared.rows row.id = none) :
    shared.written (shared.rows ++ [row]) =
      { shared with rows := shared.rows ++ [row], born := row.id :: shared.born } := by
  rw [written, newborn_append absent]
  rfl

end Shared

/-! ## Reachable systems -/

theorem coe_eraseIdx {α : Type} {list : List α} {index : Nat} {item : α} (found : list[index]? = some item) :
    (list : Multiset α) = list.eraseIdx index + {item} := by
  obtain ⟨inside, rfl⟩ := List.getElem?_eq_some_iff.mp found
  rw [add_comm, Multiset.singleton_add, Multiset.cons_coe]
  exact Multiset.coe_eq_coe.mpr (List.getElem_cons_eraseIdx_perm inside).symm

/-- A reachable system, up to the order of its tasks. -/
def Reached (start : System) (deps : TaskDeps) (shared : Shared) (tasks : Multiset Task) : Prop :=
  ∃ system, Run System.next (fun _ _ => True) start system ∧ system.deps = deps ∧ system.shared = shared ∧
    (system.tasks : Multiset Task) = tasks

namespace Reached

variable {start : System} {deps : TaskDeps} {shared : Shared} {tasks : Multiset Task}

theorem request (reached : Reached start deps shared tasks) {request : Request}
    (serving : ∀ task ∈ tasks, task.isStartup = false) (alone : request = .sweep → ∀ task ∈ tasks, task.isReaper = false) :
    Reached start deps shared (tasks + {request.task}) := by
  obtain ⟨system, run, rfl, rfl, rfl⟩ := reached
  have admitted : request.admitted system.tasks = true := by
    unfold Request.admitted
    rw [Bool.and_eq_true, List.all_eq_true]
    refine ⟨fun task member => by simp [serving task member], ?_⟩
    cases request with
    | create | delete => rfl
    | sweep => exact List.all_eq_true.mpr fun task member => by simp [alone rfl task member]
  have moved : system.next (.request request) =
      some { system with pool := ⟨system.shared, system.tasks ++ [request.task]⟩ } := if_pos admitted
  exact ⟨_, .step _ run trivial moved, rfl, rfl, rfl⟩

theorem step {task : Task} {answer : Answer} {others : Multiset Task} (reached : Reached start deps shared (others + {task}))
    (draws : task.draws answer shared = true) :
    Reached start deps (task.step deps answer shared).1 (others + (task.step deps answer shared).2) := by
  obtain ⟨system, run, rfl, rfl, same⟩ := reached
  have member : task ∈ (system.tasks : Multiset Task) := by rw [same]; simp
  obtain ⟨index, found⟩ := List.mem_iff_getElem?.mp (Multiset.mem_coe.mp member)
  have moved : system.next (.step index answer) = some (system.advance index answer task) := by
    simp only [System.next, found, draws, if_true]
  rw [coe_eraseIdx found] at same
  refine ⟨_, .step _ run trivial moved, rfl, rfl, ?_⟩
  rw [← add_right_cancel same]
  exact (Multiset.coe_add _ _).symm

theorem world {change : WorldChange} {world : World} (reached : Reached start deps shared tasks)
    (changed : shared.world.change change = some world) : Reached start deps { shared with world := world } tasks := by
  obtain ⟨system, run, rfl, rfl, rfl⟩ := reached
  have moved : system.next (.world change) =
      some { system with pool := ⟨{ system.shared with world := world }, system.tasks⟩ } := by
    simp only [System.next, changed, Option.map_some]
  exact ⟨_, .step _ run trivial moved, rfl, rfl, rfl⟩

theorem restart {after : TaskDeps} (reached : Reached start deps shared tasks) (same : after.Continues deps) :
    Reached start after (System.boot after shared).shared (System.boot after shared).tasks := by
  obtain ⟨system, run, rfl, rfl, rfl⟩ := reached
  have moved : system.next (.restart after) = some (.boot after system.shared) := if_pos same
  exact ⟨_, .step _ run trivial moved, rfl, rfl, rfl⟩

end Reached

/-- The task of a `POST`, which only a handler makes. -/
def Task.inserts : Task → Bool
  | .create .. => true
  | _ => false

theorem draws_of_inserts {task : Task} {answer : Answer} {shared : Shared} (other : task.inserts = false) :
    task.draws answer shared = true := by
  cases task with
  | create => cases other
  | launch | spawn | unregister | teardown | requestDelete | followDelete | sweep | reap | dispatch | late | staging
  | reconcile | reconcileRows | reconcileLost => rfl

/-! ## One request -/

/-- What a request stands for in the system. -/
inductive Stage where
  | idle
  | launching (cluster : Cluster) (projectTar : Option (List UInt8))
  | deleting (id : ClusterId) (owner : ClientId) (read : Cluster)
  | following (cluster : Cluster) (outcome : DeleteOutcome)

def Stage.tasks : Stage → Multiset Task
  | .idle => 0
  | .launching cluster projectTar => {.launch cluster projectTar}
  | .deleting id owner read => {.requestDelete id owner .userRequested .handler (some read)}
  | .following cluster outcome => {.followDelete cluster outcome}

/-- After the insert of a create. -/
def Stage.inserted (projectTar : Option (List UInt8)) : Except ClusterError Cluster → Stage
  | .ok made => .launching made projectTar
  | .error _ => .idle

/-- After the read of a deletion. -/
def Stage.found (id : ClusterId) (owner : ClientId) : Except ClusterError Cluster → Stage
  | .ok row => .deleting id owner row
  | .error _ => .idle

/-- After the write of a deletion. -/
def Stage.condemned : Except ClusterError (Cluster × DeleteOutcome) → Stage
  | .ok done => .following done.1 done.2
  | .error _ => .idle

/-- The tasks of several requests. -/
def waiting (stages : Multiset Stage) : Multiset Task := stages.bind Stage.tasks

theorem waiting_add (first second : Multiset Stage) : waiting (first + second) = waiting first + waiting second :=
  Multiset.add_bind ..

theorem waiting_zero : waiting 0 = 0 := Multiset.zero_bind ..

theorem waiting_singleton (stage : Stage) : waiting {stage} = stage.tasks := Multiset.singleton_bind ..

/-- They are neither of the startup nor of the reaper. -/
theorem mem_waiting {stages : Multiset Stage} {task : Task} (member : task ∈ waiting stages) :
    task.isStartup = false ∧ task.isReaper = false := by
  obtain ⟨stage, -, inside⟩ := Multiset.mem_bind.mp member
  cases stage with
  | idle => cases Multiset.notMem_zero _ inside
  | launching | deleting | following =>
    rw [Multiset.mem_singleton.mp inside]
    exact ⟨rfl, rfl⟩

/-- The system goes from one stage to what a handler has done, whatever the other tasks. -/
def Goes (deps : TaskDeps) (shared : Shared) (stage : Stage) (after : Shared) (started : List Task)
    (stages : Multiset Stage) : Prop :=
  ∀ (start : System) (others : Multiset Task), (∀ task ∈ others, task.isStartup = false) →
    Reached start deps shared (others + stage.tasks) → Reached start deps after (others + started + waiting stages)

theorem Goes.stays {deps : TaskDeps} {shared : Shared} {stage : Stage} : Goes deps shared stage shared [] {stage} := by
  intro start others _ reached
  rw [waiting_singleton]
  simpa using reached

/-- One step of the task that a stage is. -/
theorem Goes.step {deps : TaskDeps} {shared after : Shared} {stage : Stage} {task : Task} {left started : List Task}
    {stages : Multiset Stage} (answer : Answer) (is : stage.tasks = {task}) (draws : task.draws answer shared = true)
    (steps : task.step deps answer shared = (after, left)) (leaves : (left : Multiset Task) = started + waiting stages) :
    Goes deps shared stage after started stages := by
  intro start others _ reached
  rw [is] at reached
  have moved := reached.step draws
  rw [steps, leaves, ← add_assoc] at moved
  exact moved

/-- A request arrives, and its task makes its first step. -/
theorem Goes.arrives {deps : TaskDeps} {shared after : Shared} {request : Request} {left : List Task}
    {stages : Multiset Stage} (answer : Answer) (waits : request ≠ .sweep) (draws : request.task.draws answer shared = true)
    (steps : request.task.step deps answer shared = (after, left)) (leaves : (left : Multiset Task) = waiting stages) :
    Goes deps shared .idle after [] stages := by
  intro start others serving reached
  have idle : others + Stage.idle.tasks = others := add_zero others
  rw [idle] at reached
  have moved := (reached.request serving fun sweeps => (waits sweeps).elim).step draws
  rw [steps, leaves] at moved
  simpa using moved

namespace Http

/-- What is left of a handler does what its stage may do, call by call. -/
inductive Stands (linked : Linked) (deps : TaskDeps) (request : HttpRequest) : Stage → Async Reply → Prop where
  | panics {stage : Stage} (goes : ∀ shared, Goes deps shared stage shared [] 0) : Stands linked deps request stage .panicked
  | answers {stage : Stage} {reply : Reply}
      (goes : ∀ shared, Goes deps shared stage (shared.accept (accepts linked request reply)) [] 0) :
      Stands linked deps request stage (.ready reply)
  | hands {stage : Stage} {work : FollowUp} {reply : Reply}
      (goes : ∀ shared, Goes deps shared stage ((work.perform shared).1.accept (accepts linked request reply))
        (work.perform shared).2 0) : Stands linked deps request stage (.hand work (.ready reply))
  | waits {stage : Stage} {β : Type} {resume : β → Async Reply}
      (rest : ∀ value, Stands linked deps request stage (resume value)) :
      Stands linked deps request stage (.wait resume)
  | calls {stage : Stage} {β : Type} {closure : Option RepositoryError → Rows → β × Rows} {resume : β → Async Reply}
      (next : Option RepositoryError → Rows → Stage)
      (goes : ∀ met (shared : Shared), (∀ id ∈ newborn shared.rows (closure met shared.rows).2, id ∉ shared.born) →
        Goes deps shared stage (shared.written (closure met shared.rows).2) [] {next met shared.rows})
      (rest : ∀ met rows, Stands linked deps request (next met rows) (resume (closure met rows).1)) :
      Stands linked deps request stage (.blocking closure resume)

variable {linked : Linked} {deps : TaskDeps} {request : HttpRequest} {stage : Stage} {future : Async Reply}

/-- A connection and the stage that it stands for. -/
abbrev StandsFor (linked : Linked) (deps : TaskDeps) (connection : Connection) (stage : Stage) : Prop :=
  Stands linked deps connection.head.request stage connection.handler

/-- The system does what a request has done, and the stages stand for what is left of it. -/
def Follows (linked : Linked) (deps : TaskDeps) (shared : Shared) (stage : Stage) (outcome : Outcome) : Prop :=
  ∃ stages gone : List Stage, List.Forall₂ (StandsFor linked deps) outcome.left stages ∧
    List.Forall₂ (StandsFor linked deps) outcome.dropped gone ∧
    Goes deps shared stage outcome.shared outcome.started (stages + gone)

variable {state : AppState} {head : Head} {shared : Shared}

/-- Nothing goes on, and the stage is left to itself. -/
theorem Follows.leaves {connection : Connection} (stands : StandsFor linked deps connection stage) :
    Follows linked deps shared stage { shared := shared, dropped := [connection] } := by
  refine ⟨[], [stage], .nil, .cons stands .nil, ?_⟩
  rw [Multiset.coe_nil, zero_add, Multiset.coe_singleton]
  exact .stays

theorem Follows.ends {outcome : Outcome} (nothing : outcome.left = []) (none_dropped : outcome.dropped = [])
    (goes : Goes deps shared stage outcome.shared outcome.started 0) : Follows linked deps shared stage outcome := by
  refine ⟨[], [], ?_, ?_, ?_⟩
  · rw [nothing]
    exact .nil
  · rw [none_dropped]
    exact .nil
  · rwa [Multiset.coe_nil, zero_add]

theorem Follows.goesOn {outcome : Outcome} {connection : Connection} {next : Stage} (is : outcome.left = [connection])
    (none_dropped : outcome.dropped = []) (stands : StandsFor linked deps connection next)
    (goes : Goes deps shared stage outcome.shared outcome.started {next}) : Follows linked deps shared stage outcome := by
  refine ⟨[next], [], ?_, ?_, ?_⟩
  · rw [is]
    exact .cons stands .nil
  · rw [none_dropped]
    exact .nil
  · rwa [Multiset.coe_singleton, Multiset.coe_nil, add_zero]

theorem runOn_follows (stands : Stands linked deps head.request stage future) (seen : List TableEvent) (shared : Shared) :
    Follows linked deps shared stage (runOn linked state head shared seen future) := by
  cases stands with
  | panics goes => exact .ends rfl rfl (goes shared)
  | answers goes => exact .ends rfl rfl (goes shared)
  | hands goes =>
    refine .ends rfl rfl ?_
    simp only [runOn, List.append_nil]
    exact goes shared
  | waits rest => exact .goesOn rfl rfl (.waits rest) .stays
  | calls next goes rest => exact .goesOn rfl rfl (.calls next goes rest) .stays

/-- One step of a connection, and what the system does for it. -/
theorem moves_follows {connection : Connection} {outcome : Outcome} (moves : Moves linked state shared connection outcome)
    (stands : StandsFor linked deps connection stage) : Follows linked deps shared stage outcome := by
  cases moves with
  | resumed value => cases stands with
    | waits rest => exact runOn_follows (rest value) _ shared
  | called met generated => cases stands with
    | calls next goes rest =>
      exact .goesOn rfl rfl (.waits fun _ => rest met shared.rows) (goes met shared generated)
  | dropped => exact .leaves stands
  | left => exact .goesOn rfl rfl stands .stays

/-! ## The endpoints -/

theorem Goes.idle {shared : Shared} : Goes deps shared .idle shared [] 0 := by
  intro start others _ reached
  simpa [waiting, Stage.tasks] using reached

theorem stands_panicked : Stands linked deps request .idle .panicked := .panics fun _ => Goes.idle

theorem Stands.outside_bind {α : Type} {first : Async α} {next : α → Async Reply} (outside : first.Outside)
    (rest : ∀ result, Stands linked deps request .idle (next result)) :
    Stands linked deps request .idle (first.bind next) := by
  induction first with
  | ready result => exact rest result
  | panicked => exact stands_panicked
  | hand | blocking => exact outside.elim
  | wait resume ih => exact .waits fun value => ih value (outside value)

/-- Only the answer to a deletion accepts one. -/
theorem accepts_other {reply : Reply} (other : ∀ done, reply.body ≠ .deleting done) : accepts linked request reply = [] := by
  unfold accepts
  split
  · next body => exact (other _ body).elim
  · rfl

theorem stands_ready {reply : Reply} (other : ∀ done, reply.body ≠ .deleting done) :
    Stands linked deps request .idle (.ready reply) := by
  refine .answers fun shared => ?_
  rw [accepts_other other]
  exact Goes.idle

theorem stands_error (error : ApiError) : Stands linked deps request .idle (.ready error.reply) :=
  stands_ready fun _ same => by cases same

/-- A call that only looks at the table. -/
theorem stands_look {α : Type} {view : Rows → α} {resume : Except RepositoryError α → Async Reply}
    (rest : ∀ answer, Stands linked deps request .idle (resume answer)) :
    Stands linked deps request .idle (.blocking (Conn.run fun rows => .ok (rows, view rows)) resume) := by
  have idle (met : Option RepositoryError) (rows : Rows) : (Conn.run (fun rows => .ok (rows, view rows)) met rows).2 = rows := by
    cases met <;> rfl
  refine .calls (fun _ _ => .idle) (fun met shared _ => ?_) fun met rows => rest _
  rw [idle, shared.written_same]
  exact .stays

variable {fresh id : ClusterId} {now : DateTime} {owner : ClientId}

theorem stands_listClusters :
    Stands linked state.deps request .idle (route linked state fresh now owner .listClusters) := by
  refine stands_look fun answer => ?_
  cases answer with
  | error error => exact stands_error _
  | ok clusters =>
    simp only [Future.bind]
    split
    · exact stands_panicked
    · exact stands_ready fun _ same => by cases same

theorem stands_getCluster (path : String) :
    Stands linked state.deps request .idle (route linked state fresh now owner (.getCluster path)) := by
  simp only [route, withPath]
  split
  · exact stands_ready fun _ same => by cases same
  · refine stands_look fun answer => ?_
    cases answer with
    | error error => exact stands_error _
    | ok found =>
      cases found with
      | none => exact stands_error _
      | some row =>
        simp only [Future.bind]
        split
        · exact stands_panicked
        · exact stands_ready fun _ same => by cases same

/-- The end of a create, from its insert on. -/
theorem stands_launch (made : Cluster) (projectTar : Option (List UInt8)) :
    Stands linked state.deps request (.launching made projectTar)
      ((Handlers.launch state.deps projectTar (.ok made)).bind fun result =>
        .ready (replyTo linked.texts (fun made => ⟨202, .created made⟩) result)) := by
  simp only [Handlers.launch]
  split
  · next overflow =>
    refine .panics fun shared => ?_
    have steps : (Task.launch made projectTar).step state.deps {} shared = (shared, []) := by
      simp only [Task.step, Handlers.launchSpawn, overflow]
    exact Goes.step {} rfl rfl steps (by rw [waiting_zero, add_zero])
  · next estimated ready =>
    refine .hands fun shared => ?_
    rw [accepts_other fun _ same => by cases same]
    have steps : (Task.launch made projectTar).step state.deps {} shared =
        (((FollowUp.spawn made projectTar).perform shared).1, ((FollowUp.spawn made projectTar).perform shared).2) := by
      simp only [Task.step, Handlers.launchSpawn, ready]
      rfl
    exact Goes.step {} rfl rfl steps (by rw [waiting_zero, add_zero])

theorem create_made {limits : Limits} {rows after : Rows} {met : Option RepositoryError} {spec : ServiceSpec}
    {ttl : TimeDelta} {made : Cluster}
    (did : ClusterService.create limits rows met (ClusterService.newCluster fresh owner spec ttl now) = (.ok made, after)) :
    made.id = fresh ∧ ∃ row, row.id = fresh ∧ Repository.getAny rows row.id = none ∧ after = rows ++ [row] := by
  obtain ⟨slot, inserted, rfl⟩ := ClusterService.create_ok did
  rcases Repository.tryInsertIfUnderQuota_cases inserted with ⟨_, _, other⟩ | ⟨used, _, _, absent, _, rfl⟩
  · cases other
  · exact ⟨rfl, Repository.stored { ClusterService.newCluster fresh owner spec ttl now with slot := used }, rfl, absent, rfl⟩

/-- An insert that has made its row. -/
theorem goes_create {shared : Shared} {met : Option RepositoryError} {spec : ServiceSpec} {ttl : TimeDelta} {made : Cluster}
    {after : Rows} (projectTar : Option (List UInt8))
    (did : ClusterService.create deps.limits shared.rows met (ClusterService.newCluster fresh owner spec ttl now) =
      (.ok made, after)) (generated : ∀ id ∈ newborn shared.rows after, id ∉ shared.born) :
    Goes deps shared .idle (shared.written after) [] {.launching made projectTar} := by
  obtain ⟨named, row, rfl, absent, rfl⟩ := create_made did
  have unused : row.id ∉ shared.born := generated row.id (by rw [newborn_append absent]; exact List.mem_singleton_self _)
  let answer : Answer := { now := now, id := row.id, repository := met }
  have draws : (Request.create owner spec ttl projectTar).task.draws answer shared = true := decide_eq_true unused
  have steps : (Request.create owner spec ttl projectTar).task.step deps answer shared =
      (shared.written (shared.rows ++ [row]), [.launch made projectTar]) := by
    rw [Shared.written_append absent]
    simp only [Request.task, Task.step, Handlers.create, answer, did, named]
  refine Goes.arrives answer (fun same => by cases same) draws steps ?_
  rw [waiting_singleton]
  rfl

theorem stands_insert (spec : ServiceSpec) (ttl : TimeDelta) (projectTar : Option (List UInt8))
    (bounded : ClusterService.checkTtl state.deps.limits ttl = .ok ()) :
    Stands linked state.deps request .idle
      (((Conn.tryInsertIfUnderQuota (ClusterService.newCluster fresh owner spec ttl now)
        state.deps.limits.maxClustersPerUser).bind fun outcome =>
          (Handlers.launch state.deps projectTar (ClusterService.created
            (ClusterService.newCluster fresh owner spec ttl now) state.deps.limits.maxClustersPerUser outcome)).bind
              fun result => .ready (replyTo linked.texts (fun made => ⟨202, .created made⟩) result))) := by
  have passes : ClusterService.checkTtl state.deps.limits
      (ClusterService.newCluster fresh owner spec ttl now).requestedTtl = .ok () := bounded
  refine .calls (fun met rows => .inserted projectTar (ClusterService.create state.deps.limits rows met
      (ClusterService.newCluster fresh owner spec ttl now)).1) (fun met shared generated => ?_) fun met rows => ?_
  · have table := congrArg Prod.snd (ClusterService.create_eq passes met shared.rows)
    dsimp only at table
    rw [← table] at generated ⊢
    cases did : ClusterService.create state.deps.limits shared.rows met
        (ClusterService.newCluster fresh owner spec ttl now) with
    | mk answer after =>
      rw [did] at generated
      cases answer with
      | error error =>
        obtain rfl := ClusterService.create_error did
        rw [shared.written_same]
        exact .stays
      | ok made => exact goes_create projectTar did generated
  · have answer := congrArg Prod.fst (ClusterService.create_eq passes met rows)
    simp only [Future.bind]
    dsimp only at answer
    rw [← answer]
    cases (ClusterService.create state.deps.limits rows met (ClusterService.newCluster fresh owner spec ttl now)).1 with
    | error error => exact stands_error _
    | ok made => exact stands_launch made projectTar

theorem stands_createCluster (sent : CreateRequest) :
    Stands linked state.deps request .idle (route linked state fresh now owner (.createCluster sent)) := by
  simp only [route, respond, Handlers.createCluster]
  rw [Future.bind_assoc]
  refine .outside_bind Handlers.readCreateRequest_outside fun read => ?_
  cases read with
  | error error => exact stands_error _
  | ok accepted =>
    dsimp only
    split
    · exact stands_error _
    · next ttl range =>
      cases bounded : ClusterService.checkTtl state.deps.limits ttl with
      | error error =>
        simp only [ClusterService.createAsync, bounded]
        exact stands_error _
      | ok checked =>
        simp only [ClusterService.createAsync, bounded]
        exact stands_insert _ ttl accepted.2 bounded

theorem accepts_deletion {path : String} (target : request.route = .deleteCluster path)
    (parsed : linked.clusterPath path = .ok id) (status : Nat) (done : DeleteResponse) :
    accepts linked request ⟨status, .deleting done⟩ = [id] := by
  simp only [accepts, target, parsed]
  rfl

/-- The end of a deletion, from its last await on. -/
theorem stands_follow {path : String} (target : request.route = .deleteCluster path)
    (parsed : linked.clusterPath path = .ok id) {condemned : Cluster} (named : condemned.id = id) (outcome : DeleteOutcome) :
    Stands linked deps request (.following condemned outcome)
      ((Handlers.follow id (.ok (condemned, outcome))).bind fun result =>
        .ready (replyTo linked.texts (fun done => ⟨202, .deleting done⟩) result)) := by
  have accepted (done : DeleteResponse) : accepts linked request ⟨202, .deleting done⟩ = [id] :=
    accepts_deletion target parsed 202 done
  subst named
  cases outcome with
  | cancelSpawn =>
    refine .hands fun shared => ?_
    simp only [replyTo, accepted]
    exact Goes.step {} rfl rfl rfl (by rw [waiting_zero]; rfl)
  | startTeardown =>
    refine .hands fun shared => ?_
    simp only [replyTo, accepted]
    exact Goes.step {} rfl rfl rfl (by rw [waiting_zero]; rfl)
  | alreadyDeleting =>
    refine .answers fun shared => ?_
    simp only [replyTo, accepted]
    exact Goes.step {} rfl rfl rfl (by rw [waiting_zero]; rfl)

/-- A deletion makes no row. -/
theorem writeDeletion_known {rows after : Rows} {met : Option RepositoryError} {read : Cluster}
    {answer : Except ClusterError (Cluster × DeleteOutcome)}
    (did : ClusterService.writeDeletion rows met read now .userRequested = (answer, after)) :
    ∀ row ∈ after, row.id ∈ rows.map Cluster.id := by
  intro row member
  cases answer with
  | error error =>
    obtain rfl := ClusterService.writeDeletion_error did
    exact List.mem_map_of_mem member
  | ok done =>
    obtain ⟨-, -, -, updated⟩ := ClusterService.writeDeletion_ok did
    rw [(Repository.modify_eq_ok.mp updated).2] at member
    obtain ⟨old, inside, rfl⟩ := KeyedTable.mem_update.mp member
    exact List.mem_map.mpr ⟨old, inside, by split <;> rfl⟩

/-- The write of a deletion, on a row that was read. -/
theorem goes_condemn {shared : Shared} {met : Option RepositoryError} {read : Cluster}
    {answer : Except ClusterError (Cluster × DeleteOutcome)} {after : Rows}
    (did : ClusterService.writeDeletion shared.rows met read now .userRequested = (answer, after)) :
    Goes deps shared (.deleting id owner read) (shared.written after) [] {.condemned answer} := by
  rw [Shared.written_known (writeDeletion_known did)]
  let told : Answer := { now := now, repository := met }
  have steps : (Task.requestDelete id owner .userRequested .handler (some read)).step deps told shared =
      ({ shared with rows := after }, Caller.handler.receive answer) := by
    simp only [Task.step, ClusterService.requestDelete, told, did]
  refine Goes.step told rfl rfl steps ?_
  rw [waiting_singleton]
  cases answer <;> rfl

theorem stands_write {path : String} (target : request.route = .deleteCluster path)
    (parsed : linked.clusterPath path = .ok id) {read : Cluster} (named : read.id = id) :
    Stands linked deps request (.deleting id owner read)
      ((Conn.updateState id (ClusterService.condemned now .userRequested read.state)).bind fun answer =>
        (Handlers.follow id (ClusterService.deletionRequested read (ClusterService.condemned now .userRequested read.state)
          answer)).bind fun result => .ready (replyTo linked.texts (fun done => ⟨202, .deleting done⟩) result)) := by
  subst named
  refine .calls (fun met rows => .condemned (ClusterService.writeDeletion rows met read now .userRequested).1)
    (fun met shared _ => ?_) fun met rows => ?_
  · have table := congrArg Prod.snd (ClusterService.writeDeletion_eq now read .userRequested met shared.rows)
    dsimp only at table
    rw [← table]
    exact goes_condemn rfl
  · have answer := congrArg Prod.fst (ClusterService.writeDeletion_eq now read .userRequested met rows)
    simp only [Future.bind]
    dsimp only at answer
    rw [← answer]
    cases did : ClusterService.writeDeletion rows met read now .userRequested with
    | mk answer after =>
      cases answer with
      | error error => exact stands_error _
      | ok done =>
        obtain ⟨-, -, become, -⟩ := ClusterService.writeDeletion_ok did
        have kept : done.1.id = read.id := by rw [become]
        exact stands_follow target parsed kept done.2

theorem stands_deleteCluster {path : String} (target : request.route = .deleteCluster path) :
    Stands linked state.deps request .idle (route linked state fresh now owner (.deleteCluster path)) := by
  simp only [route, withPath]
  split
  · exact stands_ready fun _ same => by cases same
  next id parsed =>
  refine .calls (fun met rows => .found id owner (ClusterService.info rows met id owner)) (fun met shared _ => ?_)
    fun met rows => ?_
  · rw [Conn.run_getOwned, shared.written_same]
    cases found : ClusterService.info shared.rows met id owner with
    | error error => exact .stays
    | ok row =>
      let told : Answer := { repository := met }
      have steps : (Request.delete id owner).task.step state.deps told shared =
          (shared, [.requestDelete id owner .userRequested .handler (some row)]) := by
        simp only [Request.task, Task.step, ClusterService.requestDelete, told, found]
      refine Goes.arrives told (fun same => by cases same) rfl steps ?_
      rw [waiting_singleton]
      rfl
  · cases met with
    | some error => exact stands_error _
    | none =>
      cases found : Repository.getOwned rows id owner with
      | none =>
        simp only [Conn.run, ClusterService.info, found]
        exact stands_error _
      | some row =>
        simp only [Conn.run, ClusterService.info, found, Future.bind, ClusterService.transition_condemned]
        exact stands_write target parsed (Repository.getOwned_id found)

/-- Every request stands for a task that has not arrived yet. -/
theorem stands_serve : Stands linked state.deps request .idle (serve linked state fresh now request) := by
  unfold serve
  split
  · exact stands_error _
  · next owner known =>
    cases target : request.route with
    | createCluster sent => exact stands_createCluster sent
    | listClusters => exact stands_listClusters
    | getCluster path => exact stands_getCluster path
    | deleteCluster path => exact stands_deleteCluster target

/-! ## The whole process -/

/-- A system that the process could be, with the tasks of its requests and of those that were dropped. -/
structure Matches (linked : Linked) (start : System) (process : Process) : Prop where
  reached : ∃ stages gone : List Stage,
    List.Forall₂ (StandsFor linked process.state.deps) process.connections stages ∧
    List.Forall₂ (StandsFor linked process.state.deps) process.dropped gone ∧
      Reached start process.state.deps process.shared (process.tasks + waiting (stages + gone))
  serving : process.connections = [] ∨ ∀ task ∈ process.tasks, task.isStartup = false
  inserts : ∀ task ∈ process.tasks, task.inserts = false

theorem perform_plain (work : FollowUp) {task : Task} (member : task ∈ (work.perform shared).2) :
    task.isStartup = false ∧ task.inserts = false := by
  cases work with
  | spawn | teardown =>
    rw [List.mem_singleton.mp member]
    exact ⟨rfl, rfl⟩
  | cancel => cases member

theorem runOn_plain {seen : List TableEvent} {task : Task}
    (member : task ∈ (runOn linked state head shared seen future).started) :
    task.isStartup = false ∧ task.inserts = false := by
  induction future generalizing shared seen with
  | ready | panicked | wait | blocking => cases member
  | hand work rest ih =>
    rcases List.mem_append.mp member with here | later
    · exact perform_plain work here
    · exact ih later

theorem moves_plain {connection : Connection} {outcome : Outcome} (moves : Moves linked state shared connection outcome) :
    ∀ task ∈ outcome.started, task.isStartup = false ∧ task.inserts = false := by
  intro task member
  cases moves with
  | resumed value => exact runOn_plain member
  | called | dropped | left => cases member

theorem abandoned_plain {cluster : Cluster} {worker : WorkerUser} {phase : Phase} {fresh : Task}
    (dropped : fresh ∈ SpawnTask.abandoned cluster worker phase) : fresh.isStartup = false ∧ fresh.inserts = false := by
  cases phase with
  | settingModes => cases dropped
  | settingWorker | preparing | creatingStaging | extracting | adopting | unstaging | spawning =>
    rw [List.mem_singleton.mp dropped]
    exact ⟨rfl, rfl⟩

theorem successor_serving {answer : Answer} {task fresh : Task}
    (successor : Successor deps answer shared task fresh) (serving : task.isStartup = false) : fresh.isStartup = false := by
  cases successor with
  | abandons dropped => exact (abandoned_plain dropped).1
  | @tears _ _ next _ =>
    cases next with
    | resume => cases serving
    | done | unregister => rfl
  | resumes | lists | orphans | finishes | loses | leaves | notes => cases serving
  | launches | registers | turns | begins | declines | works | checks | ends | removesLate | wipesLate | unregisters
  | reads | passesOver | answers | collects | follows | gathers | gathersNothing | gathered | spares | expires
  | dispatches | starts | extracts => rfl

theorem successor_inserts {answer : Answer} {task fresh : Task} (successor : Successor deps answer shared task fresh) :
    fresh.inserts = false := by
  cases successor with
  | abandons dropped => exact (abandoned_plain dropped).2
  | launches | registers | turns | begins | declines | works | checks | ends | tears | removesLate | wipesLate
  | unregisters | resumes | reads | passesOver | answers | collects | follows | gathers | gathersNothing | gathered
  | spares | expires | dispatches | starts | extracts | lists | orphans | finishes | loses | leaves | notes => rfl

variable {start : System} {process after : Process}

theorem goes_beside {shared' : Shared} {tasks : Multiset Task} {started : List Task} {others more : Multiset Stage}
    (goes : Goes deps shared stage shared' started more) (serving : ∀ task ∈ tasks, task.isStartup = false)
    (reached : Reached start deps shared (tasks + waiting (others + {stage}))) :
    Reached start deps shared' (tasks + started + waiting (others + more)) := by
  have beside : ∀ task ∈ tasks + waiting others, task.isStartup = false := by
    intro task member
    rcases Multiset.mem_add.mp member with own | other
    · exact serving task own
    · exact (mem_waiting other).1
  rw [waiting_add, waiting_singleton, ← add_assoc] at reached
  have moved := goes start (tasks + waiting others) beside reached
  rw [waiting_add]
  convert moved using 1
  abel

theorem forall₂_split {α β : Type*} {relation : α → β → Prop} {before after : List α} {item : α} {others : List β}
    (each : List.Forall₂ relation (before ++ item :: after) others) :
    ∃ earlier other later, others = earlier ++ other :: later ∧ List.Forall₂ relation before earlier ∧
      relation item other ∧ List.Forall₂ relation after later := by
  induction before generalizing others with
  | nil => cases each with
    | cons here rest => exact ⟨[], _, _, rfl, .nil, here, rest⟩
  | cons first before ih => cases each with
    | cons here rest =>
      obtain ⟨earlier, other, later, rfl, each, stands, behind⟩ := ih rest
      exact ⟨_ :: earlier, other, later, rfl, .cons here each, stands, behind⟩

namespace Matches

theorem serving_of_mem (matched : Matches linked start process) {connection : Connection}
    (member : connection ∈ process.connections) : ∀ task ∈ process.tasks, task.isStartup = false := by
  rcases matched.serving with none_ | serving
  · rw [none_] at member
    cases member
  · exact serving

theorem connects (matched : Matches linked start process) (head : Head)
    (serving : ∀ task ∈ process.tasks, task.isStartup = false) :
    Matches linked start (process.after (runOn linked process.state head process.shared []
      (serve linked process.state head.fresh head.now head.request))
      (process.connections ++ (runOn linked process.state head process.shared []
        (serve linked process.state head.fresh head.now head.request)).left)) := by
  obtain ⟨stages, dropped, stand, gone, reached⟩ := matched.reached
  have stands : Stands linked process.state.deps head.request .idle
      (serve linked process.state head.fresh head.now head.request) := stands_serve
  have follows := @runOn_follows _ _ _ _ process.state head stands [] process.shared
  obtain ⟨new, more, rest, lost, goes⟩ := follows
  refine ⟨⟨stages ++ new, more ++ dropped, List.rel_append stand rest, List.rel_append lost gone, ?_⟩,
    .inr fun task member => ?_, fun task member => ?_⟩
  · have idle : waiting ((stages : Multiset Stage) + dropped + {.idle}) = waiting (stages + dropped) := by
      rw [waiting_add, waiting_singleton]
      exact add_zero _
    rw [← idle] at reached
    have moved := goes_beside goes serving reached
    have same : (stages : Multiset Stage) + dropped + (new + more) =
        (stages ++ new : List Stage) + (more ++ dropped : List Stage) := by
      rw [← Multiset.coe_add, ← Multiset.coe_add]
      abel
    rwa [same, Multiset.coe_add] at moved
  · rcases List.mem_append.mp member with old | here
    · exact serving task old
    · exact (runOn_plain here).1
  · rcases List.mem_append.mp member with old | here
    · exact matched.inserts task old
    · exact (runOn_plain here).2

theorem moves {before behind : List Connection} {connection : Connection} {outcome : Outcome}
    (matched : Matches linked start process) (here : process.connections = before ++ connection :: behind)
    (moved : Moves linked process.state process.shared connection outcome) :
    Matches linked start (process.after outcome (before ++ outcome.left ++ behind)) := by
  obtain ⟨stages, dropped, stand, gone, reached⟩ := matched.reached
  have serving := @serving_of_mem _ _ _ matched connection (by rw [here]; simp)
  rw [here] at stand
  obtain ⟨earlier, stage, later, rfl, first, stands, last⟩ := forall₂_split stand
  obtain ⟨new, more, rest, lost, goes⟩ := moves_follows moved stands
  refine ⟨⟨earlier ++ new ++ later, more ++ dropped, List.rel_append (List.rel_append first rest) last,
    List.rel_append lost gone, ?_⟩, .inr fun task member => ?_, fun task member => ?_⟩
  · have apart : ((earlier ++ stage :: later : List Stage) : Multiset Stage) + dropped =
        (earlier + later + dropped : Multiset Stage) + {stage} := by
      rw [← Multiset.coe_add, ← Multiset.cons_coe, ← Multiset.singleton_add]
      abel
    rw [apart] at reached
    have moved := goes_beside goes serving reached
    have same : (earlier : Multiset Stage) + later + dropped + (new + more) =
        (earlier ++ new ++ later : List Stage) + (more ++ dropped : List Stage) := by
      rw [← Multiset.coe_add, ← Multiset.coe_add, ← Multiset.coe_add]
      abel
    rwa [same, Multiset.coe_add] at moved
  · rcases List.mem_append.mp member with old | fresh
    · exact serving task old
    · exact (moves_plain moved task fresh).1
  · rcases List.mem_append.mp member with old | fresh
    · exact matched.inserts task old
    · exact (moves_plain moved task fresh).2

theorem works {index : Nat} {task : Task} (matched : Matches linked start process) (answer : Answer)
    (found : process.tasks[index]? = some task) :
    Matches linked start
      { process with
        shared := (task.step process.state.deps answer process.shared).1
        tasks := process.tasks.eraseIdx index ++ (task.step process.state.deps answer process.shared).2 } := by
  obtain ⟨stages, dropped, stand, gone, reached⟩ := matched.reached
  have draws : task.draws answer process.shared = true :=
    draws_of_inserts (matched.inserts task (List.mem_of_getElem? found))
  refine ⟨⟨stages, dropped, stand, gone, ?_⟩, ?_, fun other member => ?_⟩
  · have apart : (process.tasks : Multiset Task) + waiting (stages + dropped) =
        (process.tasks.eraseIdx index + waiting (stages + dropped)) + {task} := by
      rw [coe_eraseIdx found]
      abel
    rw [apart] at reached
    have moved := reached.step draws
    have same : ((process.tasks.eraseIdx index : List Task) : Multiset Task) + waiting (stages + dropped) +
        (task.step process.state.deps answer process.shared).2 =
        (process.tasks.eraseIdx index ++ (task.step process.state.deps answer process.shared).2 : List Task) +
          waiting (stages + dropped) := by
      rw [← Multiset.coe_add]
      abel
    rwa [same] at moved
  · rcases matched.serving with none_ | serving
    · exact .inl none_
    · refine .inr fun other member => ?_
      rcases List.mem_append.mp member with old | fresh
      · exact serving other (List.mem_of_mem_eraseIdx old)
      · exact successor_serving (Task.successor fresh) (serving task (List.mem_of_getElem? found))
  · rcases List.mem_append.mp member with old | fresh
    · exact matched.inserts other (List.mem_of_mem_eraseIdx old)
    · exact successor_inserts (Task.successor fresh)

theorem sweeps (matched : Matches linked start process) (admitted : Request.sweep.admitted process.tasks = true) :
    Matches linked start { process with tasks := process.tasks ++ [.sweep] } := by
  obtain ⟨stages, dropped, stand, gone, reached⟩ := matched.reached
  simp only [Request.admitted, Bool.and_eq_true, List.all_eq_true, Bool.not_eq_true'] at admitted
  refine ⟨⟨stages, dropped, stand, gone, ?_⟩, .inr fun task member => ?_, fun task member => ?_⟩
  · have arrived : Reached start process.state.deps process.shared
        (process.tasks + waiting (stages + dropped) + {Request.sweep.task}) := by
      refine reached.request (fun task member => ?_) fun _ task member => ?_
      · rcases Multiset.mem_add.mp member with own | other
        · exact admitted.1 task own
        · exact (mem_waiting other).1
      · rcases Multiset.mem_add.mp member with own | other
        · exact admitted.2 task own
        · exact (mem_waiting other).2
    have same : (process.tasks : Multiset Task) + waiting (stages + dropped) + {Request.sweep.task} =
        (process.tasks ++ [.sweep] : List Task) + waiting (stages + dropped) := by
      rw [← Multiset.coe_add, ← Multiset.coe_singleton]
      abel
    rwa [same] at arrived
  · rcases List.mem_append.mp member with old | fresh
    · exact admitted.1 task old
    · rw [List.mem_singleton.mp fresh]
      rfl
  · rcases List.mem_append.mp member with old | fresh
    · exact matched.inserts task old
    · rw [List.mem_singleton.mp fresh]
      rfl

theorem restarts (matched : Matches linked start process) (state : AppState)
    (same : state.deps.Continues process.state.deps) :
    Matches linked start (.boot state process.shared process.asked process.sent) := by
  obtain ⟨stages, dropped, -, -, reached⟩ := matched.reached
  refine ⟨⟨[], [], .nil, .nil, ?_⟩, .inl rfl, fun task member => ?_⟩
  · have restarted := reached.restart same
    rwa [← add_zero ((System.boot state.deps process.shared).tasks : Multiset Task), ← waiting_zero] at restarted
  · rw [List.mem_singleton.mp member]
    rfl

theorem steps (matched : Matches linked start process) (stepped : Process.Steps linked process after) :
    Matches linked start after := by
  cases stepped with
  | connects head serving runs =>
    subst runs
    exact matched.connects head serving
  | moves here moved => exact matched.moves here moved
  | works answer found => exact matched.works answer found
  | sweeps admitted => exact matched.sweeps admitted
  | changes changed =>
    obtain ⟨stages, dropped, stand, gone, reached⟩ := matched.reached
    exact ⟨⟨stages, dropped, stand, gone, reached.world changed⟩, matched.serving, matched.inserts⟩
  | restarts state same => exact matched.restarts state same

end Matches

theorem first_matches (state : AppState) : Matches linked (.boot state.deps .empty) (.first state) := by
  refine ⟨⟨[], [], .nil, .nil, System.boot state.deps .empty, .refl, rfl, rfl, ?_⟩, .inl rfl, fun task member => ?_⟩
  · exact (add_zero _).symm
  · rw [List.mem_singleton.mp member]
    rfl

theorem matches_of_run (run : Relation.ReflTransGen (Process.Steps linked) (.first state) process) :
    Matches linked (.boot state.deps .empty) process := by
  induction run with
  | refl => exact first_matches state
  | tail _ stepped ih => exact ih.steps stepped

/-- Whatever requests come, in whatever order their awaits end and wherever they are dropped: the process is, at every
moment, in a state that the system reaches, with its tasks, those that its requests stand for, and those that the
requests stood for that were dropped. -/
theorem process_refines (run : Relation.ReflTransGen (Process.Steps linked) (.first state) process) :
    ∃ system, Run System.next (fun _ _ => True) (.boot state.deps .empty) system ∧ system.deps = process.state.deps ∧
      system.shared = process.shared ∧ ∃ stages gone : List Stage,
        List.Forall₂ (StandsFor linked process.state.deps) process.connections stages ∧
        List.Forall₂ (StandsFor linked process.state.deps) process.dropped gone ∧
        (system.tasks : Multiset Task) = process.tasks + waiting stages + waiting gone := by
  obtain ⟨stages, gone, stand, stood, system, reached, deps, shared, tasks⟩ := (matches_of_run run).reached
  refine ⟨system, reached, deps, shared, stages, gone, stand, stood, ?_⟩
  rw [tasks, waiting_add, add_assoc]

/-! ## The first request of a small process -/

/-- Nothing to reconcile. -/
def smallIdle : Process := ⟨smallState, (System.boot smallState.deps .empty).shared, [], [], [], [], []⟩

theorem smallIdle_reached : Relation.ReflTransGen (Process.Steps smallLinked) (.first smallState) smallIdle := by
  let listed : Process := { smallIdle with tasks := [.reconcileRows []] }
  have lists : Process.Steps smallLinked (.first smallState) listed :=
    @Process.Steps.works smallLinked (.first smallState) 0 .reconcile {} rfl
  have ends : Process.Steps smallLinked listed smallIdle :=
    @Process.Steps.works smallLinked listed 0 (.reconcileRows []) {} rfl
  exact .tail (.tail .refl lists) ends

def smallHead : Head := ⟨smallPost, ⟨0⟩, .epoch⟩

/-- The small create, from the answer of its insert on. -/
def smallEnd (outcome : Except RepositoryError Repository.InsertOutcome) : Async Reply :=
  respond smallLinked.texts
    (Handlers.launch smallDeps none (ClusterService.created smallRow smallDeps.limits.maxClustersPerUser outcome))
    fun made => ⟨202, .created made⟩

def smallInsert (met : Option RepositoryError) (rows : Rows) : Except RepositoryError Repository.InsertOutcome × Rows :=
  Conn.run (fun rows => Repository.tryInsertIfUnderQuota rows smallRow smallDeps.limits.maxClustersPerUser) met rows

theorem smallPost_served :
    serve smallLinked smallState ⟨0⟩ .epoch smallPost = .wait fun _ : Unit => .blocking smallInsert smallEnd := by
  have bounded : ClusterService.checkTtl smallState.deps.limits smallTtl = .ok () := smallTtl_bounded
  have read : Handlers.readCreateRequest smallLinked.fromSlice smallCreateRequest =
      Handlers.arrives (.ready (.ok (⟨.postgres, false, 60⟩, none))) := rfl
  unfold serve
  rw [smallPost_known]
  simp only [route, smallPost, respond, Handlers.createCluster, read, Handlers.arrives, Future.bind, smallTtl_seconds,
    ClusterService.createAsync, bounded]
  rfl

/-- A step of the only connection. -/
theorem steps_alone {linked : Linked} {process next : Process} {connection : Connection} {outcome : Outcome}
    (here : process.connections = [connection]) (moved : Moves linked process.state process.shared connection outcome)
    (is : process.after outcome outcome.left = next) : Process.Steps linked process next := by
  have stepped := @Process.Steps.moves linked process [] [] connection outcome here moved
  rwa [List.append_nil, List.nil_append, is] at stepped

/-- The small process before its only request has made a call, and after its insert. -/
def smallServing (handler : Async Reply) : Process := { smallIdle with connections := [⟨smallHead, [], handler, false⟩] }

def smallMade : Process :=
  { smallIdle with
    shared := smallIdle.shared.written [Repository.stored smallRow]
    connections := [⟨smallHead, [.called none [] [Repository.stored smallRow]],
      .wait fun _ : Unit => smallEnd (.ok (.inserted 0)), false⟩]
    asked := [(⟨0⟩, caller smallLinked smallState smallPost)] }

theorem smallMade_reached : Relation.ReflTransGen (Process.Steps smallLinked) (.first smallState) smallMade := by
  have served : runOn smallLinked smallState smallHead smallIdle.shared []
      (serve smallLinked smallState smallHead.fresh smallHead.now smallHead.request) =
        { shared := smallIdle.shared
          left := [⟨smallHead, [], .wait fun _ : Unit => .blocking smallInsert smallEnd, false⟩] } := by
    rw [show serve smallLinked smallState smallHead.fresh smallHead.now smallHead.request = _ from smallPost_served]
    rfl
  have connects : Process.Steps smallLinked smallIdle (smallServing (.wait fun _ : Unit => .blocking smallInsert smallEnd)) :=
    @Process.Steps.connects smallLinked smallIdle smallHead (fun _ member => (List.not_mem_nil member).elim) _ served
  have reads : Process.Steps smallLinked (smallServing (.wait fun _ : Unit => .blocking smallInsert smallEnd))
      (smallServing (.blocking smallInsert smallEnd)) :=
    steps_alone rfl (.resumed ()) rfl
  have inserts : Process.Steps smallLinked (smallServing (.blocking smallInsert smallEnd)) smallMade :=
    steps_alone rfl (.called none fun id _ => List.not_mem_nil) rfl
  exact .tail (.tail (.tail smallIdle_reached connects) reads) inserts

/-- The client goes before its spawn is launched. -/
def smallDropped : Process := { smallMade with connections := [], dropped := smallMade.connections }

/-- A request whose row is inserted and whose spawn is not launched yet, and the same one dropped there. -/
theorem small_process_refines :
    (∃ system, Run System.next (fun _ _ => True) (.boot smallState.deps .empty) system ∧ system.shared = smallMade.shared ∧
      ∃ stages, List.Forall₂ (StandsFor smallLinked smallState.deps) smallMade.connections stages ∧
        (system.tasks : Multiset Task) = waiting stages) ∧
    ∃ system, Run System.next (fun _ _ => True) (.boot smallState.deps .empty) system ∧ system.shared = smallDropped.shared ∧
      ∃ gone, List.Forall₂ (StandsFor smallLinked smallState.deps) smallDropped.dropped gone ∧
        (system.tasks : Multiset Task) = waiting gone := by
  have drops : Process.Steps smallLinked smallMade smallDropped := steps_alone rfl .dropped rfl
  constructor
  · obtain ⟨system, reached, -, same, stages, gone, stand, stood, tasks⟩ := process_refines smallMade_reached
    cases stood
    have alone : (system.tasks : Multiset Task) = 0 + waiting stages + 0 := tasks
    exact ⟨system, reached, same, stages, stand, by rw [alone, zero_add, add_zero]⟩
  · obtain ⟨system, reached, -, same, stages, gone, stand, stood, tasks⟩ := process_refines (.tail smallMade_reached drops)
    cases stand
    have alone : (system.tasks : Multiset Task) = 0 + 0 + waiting gone := tasks
    exact ⟨system, reached, same, gone, stood, by rw [alone, add_zero, zero_add]⟩

end Http

end AppSalmon
