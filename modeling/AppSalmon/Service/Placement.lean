import AppSalmon.Service.Ownership
import AppSalmon.Service.Successors

/-! What each task knows of the account and the slot of the row it works for.

An account is written on a row once, by the spawn that resolved it. Whoever
copies a row afterwards copies its account too.
-/

set_option autoImplicit false

namespace AppSalmon

open KeyedTable TaskPool
open Repository (Rows stateOf)
open Duty (Valid Apart)

/-- The owner's account in this lifetime, for a service that some backend runs. -/
structure TaskDeps.Serves (deps : TaskDeps) (cluster : Cluster) (worker : WorkerUser) : Prop where
  account : deps.clientWorkers.get cluster.owner = .ok worker
  runs : (deps.backend cluster.service.kind).isSome = true

/-- The directory where a backend may have put something for the row. -/
structure TaskDeps.Houses (deps : TaskDeps) (cluster : Cluster) (dir : SlotDir) : Prop where
  dir : cluster.dir = some dir
  runs : (deps.backend cluster.service.kind).isSome = true

theorem TaskDeps.Serves.alike {deps : TaskDeps} {before later : Cluster} {worker : WorkerUser}
    (serves : deps.Serves before worker) (alike : later.Alike before) : deps.Serves later worker := by
  constructor
  · rw [alike.owner]
    exact serves.account
  · rw [alike.service]
    exact serves.runs

theorem TaskDeps.Serves.unique {deps : TaskDeps} {cluster : Cluster} {first second : WorkerUser}
    (left : deps.Serves cluster first) (right : deps.Serves cluster second) : first = second :=
  Except.ok.inj (left.account.symm.trans right.account)

theorem TaskDeps.Houses.alike {deps : TaskDeps} {before later : Cluster} {dir : SlotDir}
    (houses : deps.Houses before dir) (alike : later.Alike before) (worker : later.worker = before.worker) :
    deps.Houses later dir := by
  constructor
  · rw [Cluster.dir, worker, alike.slot]
    exact houses.dir
  · rw [alike.service]
    exact houses.runs

/-! ## Sites -/

/-- One thing a task takes for granted about the place of a row. -/
inductive Site where
  | copy (cluster : Cluster)
  /-- The copy that a spawn works with. -/
  | tenant (cluster : Cluster)
  | holder (cluster : Cluster) (worker : WorkerUser)
  /-- Where commands and containers of the spawn are sent. -/
  | seat (id : ClusterId) (dir : SlotDir)
  | setter (id : ClusterId) (worker : WorkerUser)
  /-- A copy made after the account was written. -/
  | snapshot (cluster : Cluster)
  | razing (cluster : Cluster)

def SpawnStage.sites (cluster : Cluster) : SpawnStage → List Site
  | .start | .checking _ | .persisting .. => []
  | .working worker (.settingWorker _) => [.holder cluster worker]
  | .working worker _ => [.holder cluster worker, .seat cluster.id (slotDir worker cluster.slot)]

def readSites (cluster : Cluster) : List Site :=
  if cluster.state.isSettled then [.copy cluster, .snapshot cluster] else [.copy cluster]

def listedSites (todo : List Cluster) : List Site := todo.flatMap fun cluster => [.copy cluster, .snapshot cluster]

def outcomeSites (cluster : Cluster) : DeleteOutcome → List Site
  | .startTeardown => [.copy cluster, .snapshot cluster]
  | .cancelSpawn | .alreadyDeleting => []

def resultSites (results : List (Cluster × DeleteOutcome)) : List Site :=
  results.flatMap fun result => outcomeSites result.1 result.2

def Caller.sites : Caller → List Site
  | .handler => []
  | .reaper _ _ results => resultSites results

def After.sites : After → List Site
  | .done | .unregister => []
  | .resume todo => listedSites todo

def LateEffect.sites : LateEffect → List Site
  | .setWorker id worker => [.setter id worker]
  | .writes dir id | .creates id dir => [.seat id dir]
  | .wipes cluster worker => [.copy cluster, .razing cluster, .holder cluster worker]
  | .removes _ => []

def Task.sites : Task → List Site
  | .create .. | .unregister _ | .sweep | .staging .. | .reconcile => []
  | .launch cluster _ => [.copy cluster, .tenant cluster]
  | .spawn cluster _ _ stage => .copy cluster :: .tenant cluster :: stage.sites cluster
  | .teardown cluster _ after => .copy cluster :: .razing cluster :: after.sites
  | .requestDelete _ _ _ caller none => caller.sites
  | .requestDelete _ _ _ caller (some read) => readSites read ++ caller.sites
  | .followDelete cluster outcome => outcomeSites cluster outcome
  | .reap _ _ results | .dispatch results => resultSites results
  | .late effect => effect.sites
  | .reconcileRows todo | .reconcileLost _ todo => listedSites todo

namespace Site

def subject : Site → ClusterId
  | .copy cluster | .tenant cluster | .holder cluster _ | .snapshot cluster | .razing cluster => cluster.id
  | .seat id _ | .setter id _ => id

/-- What the site says of the row, while the row is there. -/
def Fits (deps : TaskDeps) (row : Cluster) : Site → Prop
  | .copy cluster => row.Alike cluster
  | .tenant cluster =>
    (row.worker = none ∨ row.worker = cluster.worker) ∧ ∀ worker, cluster.worker = some worker → deps.Serves row worker
  | .holder cluster worker => cluster.worker = some worker
  | .seat _ dir => deps.Houses row dir
  | .setter _ worker => deps.Serves row worker ∧ (row.worker = none ∨ row.worker = some worker)
  | .snapshot cluster => row.worker = cluster.worker
  | .razing cluster =>
    ∀ worker, cluster.worker = some worker → row.worker = some worker ∨ deps.clientWorkers.get row.owner = .ok worker

structure Sound (deps : TaskDeps) (shared : Shared) (site : Site) : Prop where
  known : site.subject ∈ shared.born
  fits : ∀ row, shared.row? site.subject = some row → site.Fits deps row

/-- The account of the row must not change under such a site. -/
def guarded : Site → Bool
  | .tenant _ | .snapshot _ => true
  | .copy _ | .holder .. | .seat .. | .setter .. | .razing _ => false

variable {deps : TaskDeps} {shared after : Shared} {site : Site}

theorem Fits.alike {before later : Cluster} (fits : site.Fits deps before) (alike : later.Alike before)
    (worker : later.worker = before.worker) : site.Fits deps later := by
  cases site with
  | copy cluster => exact alike.trans fits
  | tenant cluster =>
    rw [Fits, worker]
    exact ⟨fits.1, fun mine has => (fits.2 mine has).alike alike⟩
  | holder cluster mine => exact fits
  | seat id dir => exact TaskDeps.Houses.alike fits alike worker
  | setter id mine =>
    rw [Fits, worker]
    exact ⟨fits.1.alike alike, fits.2⟩
  | snapshot cluster => exact worker.trans fits
  | razing cluster =>
    rw [Fits, worker, alike.owner]
    exact fits

/-- An account written for the first time disturbs only the guarded sites. -/
theorem Fits.written {before later : Cluster} {worker : WorkerUser} (fits : site.Fits deps before)
    (free : site.guarded = false) (alike : later.Alike before) (serves : deps.Serves before worker)
    (first : before.worker = none) (written : later.worker = some worker) : site.Fits deps later := by
  cases site with
  | copy cluster => exact alike.trans fits
  | tenant cluster => cases free
  | snapshot cluster => cases free
  | holder cluster mine => exact fits
  | seat id dir =>
    have placed := fits.dir
    rw [Cluster.dir, first] at placed
    cases placed
  | setter id mine =>
    obtain rfl := fits.1.unique serves
    exact ⟨fits.1.alike alike, .inr written⟩
  | razing cluster =>
    intro mine has
    rcases fits mine has with here | account
    · rw [first] at here
      cases here
    · right
      rw [alike.owner]
      exact account

theorem Sound.same (sound : site.Sound deps shared) (rows : after.rows = shared.rows) (born : after.born = shared.born) :
    site.Sound deps after := by
  constructor
  · rw [born]
    exact sound.known
  · intro row found
    rw [Shared.row?, rows] at found
    exact sound.fits row found

end Site

open Site (Sound)

variable {deps : TaskDeps} {answer : Answer} {shared after : Shared} {task : Task} {left : List Duty} {site : Site}

/-- All that a task takes for granted. -/
def Task.Placed (deps : TaskDeps) (shared : Shared) (task : Task) : Prop := ∀ site ∈ task.sites, site.Sound deps shared

theorem Task.Placed.same (placed : task.Placed deps shared) (rows : after.rows = shared.rows)
    (born : after.born = shared.born) : task.Placed deps after :=
  fun site member => (placed site member).same rows born

/-- The account a task may write is the one that is already on the row, if any. -/
theorem Task.Placed.setter (placed : task.Placed deps shared) {id : ClusterId} {worker : WorkerUser} {row : Cluster}
    (sets : task.setter = some (id, worker)) (found : shared.row? id = some row) :
    deps.Serves row worker ∧ (row.worker = none ∨ row.worker = some worker) := by
  rcases Task.setter_cases sets with ⟨cluster, token, projectTar, targets, rfl, rfl⟩ | rfl
  · have holds : cluster.worker = some worker :=
      (placed (.holder cluster worker) (by simp [sites, SpawnStage.sites])).fits row found
    obtain ⟨before, serves⟩ := (placed (.tenant cluster) (by simp [sites])).fits row found
    rw [holds] at before
    exact ⟨serves worker holds, before⟩
  · exact (placed (.setter id worker) (by simp [sites, LateEffect.sites])).fits row found

/-- Sites survive a step, except those whose account is being written. -/
theorem Site.Sound.step (sound : site.Sound deps shared) (effect : Effect deps answer shared after task left)
    (drawn : task.draws answer shared = true) (placed : task.Placed deps shared)
    (free : site.guarded = true → ∀ worker, task.setter ≠ some (site.subject, worker)) : site.Sound deps after := by
  refine ⟨effect.born_subset sound.known, fun row found => ?_⟩
  obtain ⟨before, here, kept⟩ := effect.kept drawn sound.known found
  have fits := sound.fits before here
  rcases kept.worker with same | ⟨worker, sets, written⟩
  · exact fits.alike kept.alike same
  · obtain ⟨serves, first | already⟩ := placed.setter sets here
    · cases guards : site.guarded with
      | false => exact fits.written guards kept.alike serves first written
      | true => exact absurd sets (free guards worker)
    · exact fits.alike kept.alike (written.trans already.symm)

/-! ## The duties behind sites -/

theorem Task.setter_duty {id : ClusterId} {worker : WorkerUser} (sets : task.setter = some (id, worker)) :
    ∃ duty ∈ task.duties, duty.subject = some id ∧ (duty.side = some .spawning ∨ duty.side = some .setting) := by
  rcases Task.setter_cases sets with ⟨cluster, token, projectTar, targets, rfl, rfl⟩ | rfl
  · exact ⟨_, List.mem_cons_self, rfl, .inl rfl⟩
  · exact ⟨_, List.mem_cons_self, rfl, .inr rfl⟩

/-- A side that no writer of accounts is compatible with. -/
def Side.firm : Side → Bool
  | .spawning | .settled | .recovering => true
  | .setting | .tearing => false

theorem mem_resultSites {results : List (Cluster × DeleteOutcome)} (member : site ∈ resultSites results) :
    ∃ cluster, Duty.pledge cluster.id ∈ pledges results ∧ (site = .copy cluster ∨ site = .snapshot cluster) := by
  obtain ⟨⟨cluster, outcome⟩, inside, mine⟩ := List.mem_flatMap.mp member
  cases outcome with
  | cancelSpawn | alreadyDeleting => cases mine
  | startTeardown =>
    refine ⟨cluster, List.mem_flatMap.mpr ⟨_, inside, List.mem_cons_self⟩, ?_⟩
    simpa [outcomeSites] using mine

theorem mem_listedSites {todo : List Cluster} (member : site ∈ listedSites todo) :
    ∃ cluster ∈ todo, site = .copy cluster ∨ site = .snapshot cluster := by
  obtain ⟨cluster, inside, mine⟩ := List.mem_flatMap.mp member
  exact ⟨cluster, inside, by simpa using mine⟩

/-- Whoever relies on an account has the row to itself, or knows it to be settled. -/
theorem Task.guarded_duty (member : site ∈ task.sites) (guards : site.guarded = true) :
    ∃ duty ∈ task.duties, duty.subject = some site.subject ∧ ∃ side, duty.side = some side ∧ side.firm = true := by
  have promised {results : List (Cluster × DeleteOutcome)} (inside : site ∈ resultSites results) :
      ∃ duty ∈ pledges results, duty.subject = some site.subject ∧ ∃ side, duty.side = some side ∧ side.firm = true := by
    obtain ⟨cluster, owed, rfl | rfl⟩ := mem_resultSites inside
    · cases guards
    · exact ⟨_, owed, rfl, .settled, rfl, rfl⟩
  have listed {todo : List Cluster} (inside : site ∈ listedSites todo) :
      ∃ duty ∈ recoveries todo, duty.subject = some site.subject ∧ ∃ side, duty.side = some side ∧ side.firm = true := by
    obtain ⟨cluster, there, rfl | rfl⟩ := mem_listedSites inside
    · cases guards
    · exact ⟨_, mem_recoveries.mpr ⟨cluster, there, rfl⟩, rfl, .recovering, rfl, rfl⟩
  have called {caller : Caller} (inside : site ∈ caller.sites) :
      ∃ duty ∈ caller.duties, duty.subject = some site.subject ∧ ∃ side, duty.side = some side ∧ side.firm = true := by
    cases caller with
    | handler => cases inside
    | reaper now todo results => exact promised inside
  cases task with
  | create | unregister | sweep | staging | reconcile => cases member
  | launch cluster projectTar =>
    simp only [sites, List.mem_cons, List.not_mem_nil, or_false] at member
    rcases member with rfl | rfl
    · cases guards
    · exact ⟨_, List.mem_cons_self, rfl, .spawning, rfl, rfl⟩
  | spawn cluster token projectTar stage =>
    rcases List.mem_cons.mp member with rfl | inner
    · cases guards
    rcases List.mem_cons.mp inner with rfl | working
    · exact ⟨_, List.mem_cons_self, rfl, .spawning, rfl, rfl⟩
    · cases stage with
      | start | checking | persisting => cases working
      | working worker phase =>
        cases phase <;> simp only [SpawnStage.sites, List.mem_cons, List.not_mem_nil, or_false] at working
        all_goals rcases working with rfl | rfl <;> cases guards
  | teardown cluster stage next =>
    rcases List.mem_cons.mp member with rfl | inner
    · cases guards
    rcases List.mem_cons.mp inner with rfl | later
    · cases guards
    · cases next with
      | done | unregister => cases later
      | resume todo =>
        obtain ⟨duty, owed, rest⟩ := listed later
        exact ⟨duty, List.mem_cons_of_mem _ owed, rest⟩
  | requestDelete id owner reason caller read =>
    cases read with
    | none =>
      obtain ⟨duty, owed, rest⟩ := called member
      exact ⟨duty, List.mem_cons_of_mem _ owed, rest⟩
    | some read =>
      rcases List.mem_append.mp member with held | inside
      · unfold readSites at held
        split at held
        · next settled =>
          simp only [List.mem_cons, List.not_mem_nil, or_false] at held
          rcases held with rfl | rfl
          · cases guards
          · exact ⟨.holds read.id read.state, by simp [duties], rfl, .settled, if_pos settled, rfl⟩
        · rw [List.mem_singleton.mp held] at guards
          cases guards
      · obtain ⟨duty, owed, rest⟩ := called inside
        exact ⟨duty, List.mem_cons_of_mem _ (List.mem_cons_of_mem _ owed), rest⟩
  | followDelete cluster outcome =>
    have one : site ∈ resultSites [(cluster, outcome)] := by simpa [resultSites, sites] using member
    obtain ⟨duty, owed, rest⟩ := promised one
    refine ⟨duty, List.mem_cons_of_mem _ (List.mem_cons_of_mem _ ?_), rest⟩
    simpa [pledges] using owed
  | reap now todo results =>
    obtain ⟨duty, owed, rest⟩ := promised member
    exact ⟨duty, List.mem_cons_of_mem _ owed, rest⟩
  | dispatch results =>
    obtain ⟨duty, owed, rest⟩ := promised member
    exact ⟨duty, List.mem_cons_of_mem _ owed, rest⟩
  | late effect =>
    cases effect with
    | setWorker | writes | creates =>
      rw [List.mem_singleton.mp member] at guards
      cases guards
    | wipes =>
      simp only [sites, LateEffect.sites, List.mem_cons, List.not_mem_nil, or_false] at member
      rcases member with rfl | rfl | rfl <;> cases guards
    | removes => cases member
  | reconcileRows todo => exact listed member
  | reconcileLost cluster todo =>
    obtain ⟨duty, owed, rest⟩ := listed member
    exact ⟨duty, List.mem_cons_of_mem _ owed, rest⟩

/-- No task writes the account of a row that another one relies on. -/
theorem Task.setter_free {other : Task} (apart : ∀ mine ∈ task.duties, ∀ duty ∈ other.duties, Apart mine duty)
    (member : site ∈ other.sites) (guards : site.guarded = true) (worker : WorkerUser) :
    task.setter ≠ some (site.subject, worker) := by
  intro sets
  obtain ⟨mine, isMine, about, sides⟩ := Task.setter_duty sets
  obtain ⟨duty, theirs, same, side, claimed, firm⟩ := Task.guarded_duty member guards
  have claims := (apart mine isMine duty theirs).claims _ about same
  rcases sides with spawning | setting
  · have compatible := claims _ _ spawning claimed
    cases side <;> simp_all [Side.compatible]
  · have compatible := claims _ _ setting claimed
    cases side <;> simp_all [Side.firm, Side.compatible]

/-! ## The tasks a step leaves -/

theorem Site.Sound.razing_of_tenant {cluster : Cluster} (sound : (Site.tenant cluster).Sound deps shared) :
    (Site.razing cluster).Sound deps shared :=
  ⟨sound.known, fun row found worker has => .inr ((sound.fits row found).2 worker has).account⟩

theorem Site.Sound.razing_of_snapshot {cluster : Cluster} (sound : (Site.snapshot cluster).Sound deps shared) :
    (Site.razing cluster).Sound deps shared :=
  ⟨sound.known, fun row found _ has => .inl ((sound.fits row found).trans has)⟩

/-- A copy in another state is as good. -/
theorem Site.Sound.copy_state {cluster : Cluster} (sound : (Site.copy cluster).Sound deps shared) (state : ClusterState) :
    (Site.copy { cluster with state := state }).Sound deps shared :=
  ⟨sound.known, fun row found =>
    ⟨(sound.fits row found).owner, (sound.fits row found).service, (sound.fits row found).slot⟩⟩

theorem Site.Sound.snapshot_state {cluster : Cluster} (sound : (Site.snapshot cluster).Sound deps shared)
    (state : ClusterState) : (Site.snapshot { cluster with state := state }).Sound deps shared :=
  ⟨sound.known, fun row found => sound.fits row found⟩

/-- A step of a task that writes no account keeps every site. -/
theorem Site.Sound.moved (sound : site.Sound deps shared) (distinct : Distinct Cluster.id shared.rows)
    (drawn : task.draws answer shared = true) (placed : task.Placed deps shared) (idle : task.setter = none) :
    site.Sound deps (task.step deps answer shared).1 := by
  refine sound.step (step_acts distinct task) drawn placed fun _ worker sets => ?_
  rw [idle] at sets
  cases sets

theorem placed_teardown {cluster : Cluster} {stage : TeardownStage} {next : After}
    (copy : (Site.copy cluster).Sound deps shared) (razing : (Site.razing cluster).Sound deps shared)
    (later : ∀ site ∈ next.sites, site.Sound deps shared) :
    (Task.teardown cluster stage next).Placed deps shared := by
  intro site member
  rcases List.mem_cons.mp member with rfl | inner
  · exact copy
  rcases List.mem_cons.mp inner with rfl | rest
  · exact razing
  · exact later site rest

theorem create_placed (owner : ClientId) (service : ServiceSpec) (ttl : TimeDelta) (projectTar : Option (List UInt8)) :
    ∀ fresh ∈ (Handlers.create deps answer shared owner service ttl projectTar).2,
      fresh.Placed deps (Handlers.create deps answer shared owner service ttl projectTar).1 := by
  simp only [Handlers.create]
  generalize outcome : ClusterService.create deps.limits shared.rows answer.repository _ = done
  obtain ⟨result, next⟩ := done
  cases result with
  | error error => exact fun _ member => (List.not_mem_nil member).elim
  | ok made =>
    obtain ⟨slot, inserted, rfl⟩ := ClusterService.create_ok outcome
    let fresh : Cluster := { ClusterService.newCluster answer.id owner service ttl answer.now with slot := slot }
    have stored : Repository.getAny next answer.id = some (Repository.stored fresh) :=
      (Repository.getAny_insert inserted).trans (if_pos rfl)
    have row : ∀ row, Repository.getAny next answer.id = some row → row = Repository.stored fresh :=
      fun row found => Option.some.inj (found.symm.trans stored)
    intro fresh member site inside
    rw [List.mem_singleton.mp member] at inside
    simp only [Task.sites, List.mem_cons, List.not_mem_nil, or_false] at inside
    -- the new row has no account yet, and neither has the copy
    rcases inside with rfl | rfl
    · refine ⟨List.mem_cons_self, fun found here => ?_⟩
      rw [row found here]
      exact ⟨rfl, rfl, rfl⟩
    · refine ⟨List.mem_cons_self, fun found here => ?_⟩
      rw [row found here]
      exact ⟨.inl rfl, fun worker has => by cases has⟩

/-- What the abandoned call of a phase takes for granted was taken for granted by the spawn. -/
theorem abandoned_placed {cluster : Cluster} {token : CancellationToken} {projectTar : Option (List UInt8)}
    {worker : WorkerUser} {phase : Phase}
    (placed : (Task.spawn cluster token projectTar (.working worker phase)).Placed deps shared) :
    ∀ fresh ∈ SpawnTask.abandoned cluster worker phase, fresh.Placed deps shared := by
  intro fresh member site inside
  cases phase with
  | settingWorker targets =>
    rw [List.mem_singleton.mp member] at inside
    rw [List.mem_singleton.mp inside]
    have copy : (Site.copy cluster).Sound deps shared := placed _ (by simp [Task.sites])
    exact ⟨copy.known, fun row found => placed.setter rfl found⟩
  | preparing | adopting | spawning =>
    rw [List.mem_singleton.mp member] at inside
    rw [List.mem_singleton.mp inside]
    exact placed _ (by simp [Task.sites, SpawnStage.sites])
  | creatingStaging | extracting | unstaging =>
    rw [List.mem_singleton.mp member] at inside
    cases inside
  | settingModes => cases member

theorem placed_checking {cluster : Cluster} {token : CancellationToken} {projectTar : Option (List UInt8)}
    {stage : SpawnStage} {result : Except ClusterError ConnectionInfo}
    (placed : (Task.spawn cluster token projectTar stage).Placed deps shared) :
    (Task.spawn cluster token projectTar (.checking result)).Placed deps shared := by
  intro site member
  simp only [Task.sites, SpawnStage.sites, List.mem_cons, List.not_mem_nil, or_false] at member
  rcases member with rfl | rfl
  · exact placed _ List.mem_cons_self
  · exact placed _ (List.mem_cons_of_mem _ List.mem_cons_self)

theorem placed_persisting {cluster : Cluster} {token : CancellationToken} {projectTar : Option (List UInt8)}
    {stage : SpawnStage} {current : ClusterState} {result : Except ClusterError ConnectionInfo}
    (placed : (Task.spawn cluster token projectTar stage).Placed deps shared) :
    (Task.spawn cluster token projectTar (.persisting current result)).Placed deps shared := by
  have checking : (Task.spawn cluster token projectTar (.checking result)).Placed deps shared := placed_checking placed
  exact checking

/-- The teardown that a spawn turns into. -/
theorem placed_turned {cluster : Cluster} {token : CancellationToken} {projectTar : Option (List UInt8)}
    {stage : SpawnStage} (placed : (Task.spawn cluster token projectTar stage).Placed deps shared) :
    (Task.teardown cluster .backend .unregister).Placed deps shared := by
  have tenant : (Site.tenant cluster).Sound deps shared := placed _ (by simp [Task.sites])
  exact placed_teardown (placed _ List.mem_cons_self) tenant.razing_of_tenant fun _ member => (List.not_mem_nil member).elim

theorem settingWorker_placed {cluster : Cluster} {token : CancellationToken} {projectTar : Option (List UInt8)}
    {worker : WorkerUser} {targets : List String} {rows : Rows}
    (placed : (Task.spawn cluster token projectTar (.working worker (.settingWorker targets))).Placed deps shared)
    (written : Repository.setWorker shared.rows cluster.id worker = .ok rows) :
    (Task.spawn cluster token projectTar (.working worker (.preparing targets))).Placed deps
      { shared with rows := rows } := by
  have copy : (Site.copy cluster).Sound deps shared := placed _ (by simp [Task.sites])
  have tenant : (Site.tenant cluster).Sound deps shared := placed _ (by simp [Task.sites])
  have holder : (Site.holder cluster worker).Sound deps shared := placed _ (by simp [Task.sites, SpawnStage.sites])
  have named : ∀ row, Repository.getAny rows cluster.id = some row →
      ∃ before, shared.row? cluster.id = some before ∧ row = { before with worker := some worker } := by
    intro row found
    rw [Repository.getAny_setWorker written, if_pos rfl] at found
    obtain ⟨before, here, rfl⟩ := Option.map_eq_some_iff.mp found
    exact ⟨before, here, rfl⟩
  intro site member
  simp only [Task.sites, SpawnStage.sites, List.mem_cons, List.not_mem_nil, or_false] at member
  rcases member with rfl | rfl | rfl | rfl <;> refine ⟨copy.known, fun row found => ?_⟩ <;>
    obtain ⟨before, here, rfl⟩ := named row found
  · exact ⟨(copy.fits before here).owner, (copy.fits before here).service, (copy.fits before here).slot⟩
  · refine ⟨.inr (holder.fits before here).symm, fun mine has => ?_⟩
    exact ((tenant.fits before here).2 mine has).alike ⟨rfl, rfl, rfl⟩
  · exact holder.fits before here
  · constructor
    · rw [Cluster.dir, ← (copy.fits before here).slot]
      rfl
    · exact ((tenant.fits before here).2 worker (holder.fits before here)).runs

/-- What `do_spawn` becomes while its account is on the row: it keeps its seat, or hands it to the call it gives up. -/
theorem placed_working {cluster : Cluster} {token : CancellationToken} {projectTar : Option (List UInt8)}
    {worker : WorkerUser} {phase other : Phase} (settled : ∀ targets, phase ≠ .settingWorker targets)
    (placed : (Task.spawn cluster token projectTar (.working worker phase)).Placed deps shared) :
    (Task.spawn cluster token projectTar (.working worker other)).Placed deps shared := by
  have seated : (Site.holder cluster worker).Sound deps shared ∧
      (Site.seat cluster.id (slotDir worker cluster.slot)).Sound deps shared := by
    cases phase with
    | settingWorker targets => exact absurd rfl (settled targets)
    | preparing | creatingStaging | settingModes | extracting | adopting | unstaging | spawning =>
      exact ⟨placed _ (by simp [Task.sites, SpawnStage.sites]), placed _ (by simp [Task.sites, SpawnStage.sites])⟩
  intro site member
  rcases List.mem_cons.mp member with rfl | inner
  · exact placed _ List.mem_cons_self
  rcases List.mem_cons.mp inner with rfl | working
  · exact placed _ (List.mem_cons_of_mem _ List.mem_cons_self)
  · cases other <;> simp only [SpawnStage.sites, List.mem_cons, List.not_mem_nil, or_false] at working
    all_goals rcases working with rfl | rfl <;> first | exact seated.1 | exact seated.2

theorem work_placed (cluster : Cluster) (token : CancellationToken) (projectTar : Option (List UInt8))
    (worker : WorkerUser) (phase : Phase)
    (placed : (Task.spawn cluster token projectTar (.working worker phase)).Placed deps shared) :
    ∀ fresh ∈ (SpawnTask.work deps answer shared cluster token projectTar worker phase).2,
      fresh.Placed deps (SpawnTask.work deps answer shared cluster token projectTar worker phase).1 := by
  by_cases panicked : SpawnTask.panics answer phase = true
  · rw [SpawnTask.work_panics panicked]
    exact List.forall_mem_nil _
  obtain ⟨after, later, left, moved, awaited⟩ :=
    SpawnTask.work_awaited deps shared cluster token projectTar worker (Bool.eq_false_of_not_eq_true panicked)
  rw [moved]
  -- every step but the one that writes the account leaves the table alone
  have finish {after : Shared} {result : Except ClusterError ConnectionInfo} {dropped : List Task}
      (rows : after.rows = shared.rows) (born : after.born = shared.born)
      (kept : dropped = [] ∨ dropped = SpawnTask.abandoned cluster worker phase) :
      ∀ fresh ∈ Task.spawn cluster token projectTar (.checking result) :: dropped, fresh.Placed deps after := by
    intro fresh member
    rcases List.mem_cons.mp member with rfl | gone
    · exact (placed_checking placed).same rows born
    · rcases kept with none_left | rfl
      · rw [none_left] at gone
        cases gone
      · exact (abandoned_placed placed fresh gone).same rows born
  have goOn {after : Shared} {other : Phase} (settled : ∀ targets, phase ≠ .settingWorker targets)
      (rows : after.rows = shared.rows) (born : after.born = shared.born) :
      ∀ fresh ∈ [Task.spawn cluster token projectTar (.working worker other)], fresh.Placed deps after := by
    intro fresh member
    rw [List.mem_singleton.mp member]
    exact (placed_working settled placed).same rows born
  cases awaited with
  | assigns written =>
    intro fresh member
    rw [List.mem_singleton.mp member]
    exact settingWorker_placed placed written
  | unadopted error =>
    intro fresh member
    rcases List.mem_cons.mp member with rfl | gone
    · exact placed_working (by simp) placed
    · exact abandoned_placed placed fresh gone
  | unstages removed goesOn =>
    rcases goesOn with rfl | ⟨error, rfl⟩
    · exact goOn (by simp) rfl rfl
    · exact finish rfl rfl (.inl rfl)
  | fails | spawned => exact finish rfl rfl (.inl rfl)
  | unprepared | unspawned => exact finish rfl rfl (.inr rfl)
  | prepares | prepared | stages | setsMode | validates | extracts | misses | extracted | unextracted | adopts
  | creates => exact goOn (by simp) rfl rfl

theorem working_placed (cluster : Cluster) (token : CancellationToken) (projectTar : Option (List UInt8))
    (worker : WorkerUser) (phase : Phase)
    (placed : (Task.spawn cluster token projectTar (.working worker phase)).Placed deps shared) :
    ∀ fresh ∈ (SpawnTask.step deps answer shared cluster token projectTar (.working worker phase)).2,
      fresh.Placed deps (SpawnTask.step deps answer shared cluster token projectTar (.working worker phase)).1 := by
  simp only [SpawnTask.step]
  split
  · intro fresh member
    rcases List.mem_append.mp member with entered | gone
    · rw [List.mem_singleton.mp entered]
      exact (placed_turned placed).same rfl rfl
    · exact (abandoned_placed placed fresh gone).same rfl rfl
  · exact work_placed cluster token projectTar worker phase placed

/-- A spawn outside its awaits: the account is that of the row, and the row has no other one. -/
theorem spawn_sites {cluster : Cluster} {token : CancellationToken} {projectTar : Option (List UInt8)} {stage : SpawnStage}
    {fresh : Task} (placed : (Task.spawn cluster token projectTar stage).Placed deps shared)
    (outside : ∀ worker phase, stage ≠ .working worker phase)
    (successor : Successor deps answer shared (.spawn cluster token projectTar stage) fresh) :
    ∀ site ∈ fresh.sites, site.Sound deps shared := by
  cases successor with
  | turns => exact placed_turned placed
  | declines => exact placed_checking placed
  | works | abandons => exact absurd rfl (outside _ _)
  | checks => exact placed_persisting placed
  | ends => exact fun _ inside => (List.not_mem_nil inside).elim
  | @begins _ _ _ backend worker registered account =>
    intro site inside
    have copy : (Site.copy cluster).Sound deps shared := placed _ (by simp [Task.sites])
    have tenant : (Site.tenant cluster).Sound deps shared := placed _ (by simp [Task.sites])
    have serves : ∀ row, shared.row? cluster.id = some row → deps.Serves row worker := by
      intro row found
      have alike := copy.fits row found
      constructor
      · rw [alike.owner]
        exact account
      · rw [alike.service, registered]
        rfl
    simp only [Task.sites, SpawnStage.sites, List.mem_cons, List.not_mem_nil, or_false] at inside
    rcases inside with rfl | rfl | rfl <;> refine ⟨copy.known, fun row found => ?_⟩
    · have alike := copy.fits row found
      exact ⟨alike.owner, alike.service, alike.slot⟩
    · refine ⟨?_, fun mine has => Option.some.inj has ▸ serves row found⟩
      obtain ⟨before, earlier⟩ := tenant.fits row found
      rcases before with none_yet | same
      · exact .inl none_yet
      · cases has : cluster.worker with
        | none => exact .inl (same.trans has)
        | some mine =>
          right
          rw [same, has, (earlier mine has).unique (serves row found)]
    · rfl

/-! ## Deletion and startup -/

/-- A task whose own sites all come from the acting one, which writes no account. -/
theorem Task.Placed.handed {fresh : Task} (placed : task.Placed deps shared)
    (distinct : Distinct Cluster.id shared.rows) (drawn : task.draws answer shared = true) (idle : task.setter = none)
    (fewer : ∀ site ∈ fresh.sites, site.Sound deps shared) : fresh.Placed deps (task.step deps answer shared).1 :=
  fun site member => (fewer site member).moved distinct drawn placed idle

/-- What was read as settled is torn down by the caller, and nothing else. -/
theorem written_sites {read cluster : Cluster} {now : DateTime} {reason : DeleteReason} {outcome : DeleteOutcome}
    (written : (ClusterService.writeDeletion shared.rows answer.repository read now reason).1 = .ok (cluster, outcome))
    (held : ∀ site ∈ readSites read, site.Sound deps shared) : ∀ site ∈ outcomeSites cluster outcome, site.Sound deps shared := by
  obtain ⟨-, rfl, rfl, -⟩ := ClusterService.writeDeletion_ok (Prod.ext written rfl)
  intro site inside
  cases settled : read.state.isSettled with
  | false =>
    cases answered : ClusterService.deleteOutcome read.state with
    | cancelSpawn | alreadyDeleting =>
      rw [answered] at inside
      cases inside
    | startTeardown =>
      rw [ClusterService.deleteOutcome_eq_startTeardown, settled] at answered
      cases answered
  | true =>
    have copy : (Site.copy read).Sound deps shared := held _ (by simp [readSites, settled])
    have snapshot : (Site.snapshot read).Sound deps shared := held _ (by simp [readSites, settled])
    rw [ClusterService.deleteOutcome_eq_startTeardown.mpr settled] at inside
    simp only [outcomeSites, List.mem_cons, List.not_mem_nil, or_false] at inside
    rcases inside with rfl | rfl
    · exact copy.copy_state _
    · exact snapshot.snapshot_state _

theorem requestDelete_sites (table : shared.TableSound) {id : ClusterId} {owner : ClientId} {reason : DeleteReason}
    {caller : Caller} {read : Option Cluster} {fresh : Task}
    (placed : (Task.requestDelete id owner reason caller read).Placed deps shared)
    (successor : Successor deps answer shared (.requestDelete id owner reason caller read) fresh) :
    ∀ site ∈ fresh.sites, site.Sound deps shared := by
  cases successor with
  | @reads _ _ _ _ row found =>
    intro site inside
    have row? := Repository.getAny_of_getOwned table.ids (ClusterService.info_ok found)
    have known : row.id ∈ shared.born := table.born row (Repository.getAny_mem row?)
    have only : ∀ other, shared.row? row.id = some other → other = row := by
      intro other there
      rw [Shared.row?, Repository.getAny_id row?, row?] at there
      exact (Option.some.inj there).symm
    have copy : (Site.copy row).Sound deps shared := ⟨known, fun other there => only other there ▸ .refl _⟩
    have snapshot : (Site.snapshot row).Sound deps shared := ⟨known, fun other there => only other there ▸ rfl⟩
    rcases List.mem_append.mp inside with fresh_read | earlier
    · unfold readSites at fresh_read
      split at fresh_read
      · simp only [List.mem_cons, List.not_mem_nil, or_false] at fresh_read
        rcases fresh_read with rfl | rfl
        · exact copy
        · exact snapshot
      · rw [List.mem_singleton.mp fresh_read]
        exact copy
    · exact placed site earlier
  | passesOver =>
    intro site inside
    cases read with
    | none => exact placed site inside
    | some read => exact placed site (List.mem_append_right _ inside)
  | answers written => exact written_sites written fun site inside => placed site (List.mem_append_left _ inside)
  | collects written =>
    intro site inside
    simp only [Task.sites, resultSites, List.flatMap_append, List.flatMap_singleton, List.mem_append] at inside
    rcases inside with earlier | last
    · exact placed site (List.mem_append_right _ earlier)
    · exact written_sites written (fun site inside => placed site (List.mem_append_left _ inside)) site last

theorem reconcileRows_sites {todo : List Cluster} {fresh : Task} (placed : (Task.reconcileRows todo).Placed deps shared)
    (successor : Successor deps answer shared (.reconcileRows todo) fresh) : ∀ site ∈ fresh.sites, site.Sound deps shared := by
  have listed {cluster : Cluster} {rest : List Cluster} (placed : (Task.reconcileRows (cluster :: rest)).Placed deps shared) :
      (Site.copy cluster).Sound deps shared ∧ (Site.snapshot cluster).Sound deps shared ∧
        ∀ site ∈ listedSites rest, site.Sound deps shared :=
    ⟨placed _ (by simp [Task.sites, listedSites]), placed _ (by simp [Task.sites, listedSites]),
      fun site member => placed site (List.mem_append_right _ member)⟩
  cases successor with
  | orphans =>
    obtain ⟨copy, snapshot, rest⟩ := listed placed
    exact placed_teardown (copy.copy_state _) (snapshot.snapshot_state _).razing_of_snapshot rest
  | finishes =>
    obtain ⟨copy, snapshot, rest⟩ := listed placed
    exact placed_teardown copy snapshot.razing_of_snapshot rest
  | loses | leaves => exact (listed placed).2.2

/-- Copies of rows that have just been listed. -/
theorem listedSites_sound (table : shared.TableSound) (member : site ∈ listedSites shared.rows) :
    site.Sound deps shared := by
  obtain ⟨cluster, inside, same⟩ := mem_listedSites member
  have known := table.born cluster inside
  have here : shared.row? cluster.id = some cluster := table.ids.lookup_of_mem inside
  have only : ∀ other, shared.row? cluster.id = some other → other = cluster :=
    fun other there => Option.some.inj (there.symm.trans here)
  rcases same with rfl | rfl
  · exact ⟨known, fun other there => only other there ▸ .refl _⟩
  · exact ⟨known, fun other there => only other there ▸ rfl⟩

theorem pledged_sites {cluster : Cluster}
    (pledged : ∀ site ∈ outcomeSites cluster .startTeardown, site.Sound deps shared) :
    (Task.teardown cluster .backend .done).Placed deps shared := by
  have copy : (Site.copy cluster).Sound deps shared := pledged _ (by simp [outcomeSites])
  have snapshot : (Site.snapshot cluster).Sound deps shared := pledged _ (by simp [outcomeSites])
  exact placed_teardown copy snapshot.razing_of_snapshot fun _ member => (List.not_mem_nil member).elim

/-- The step lemma: whatever a task becomes takes for granted only what holds. -/
theorem Task.Placed.step (placed : task.Placed deps shared) (table : shared.TableSound)
    (drawn : task.draws answer shared = true) :
    ∀ fresh ∈ (task.step deps answer shared).2, fresh.Placed deps (task.step deps answer shared).1 := by
  intro fresh member
  have handed := @Task.Placed.handed deps answer shared task fresh placed table.ids drawn
  have successor := Task.successor member
  cases task with
  | create owner service ttl projectTar => exact create_placed owner service ttl projectTar fresh member
  | spawn cluster token projectTar stage =>
    cases stage with
    | working worker phase => exact working_placed cluster token projectTar worker phase placed fresh member
    | start | checking | persisting => exact handed rfl (spawn_sites placed (by simp) successor)
  | requestDelete => exact handed rfl (requestDelete_sites table placed successor)
  | reconcileRows => exact handed rfl (reconcileRows_sites placed successor)
  | launch =>
    cases successor with
    | registers => exact handed rfl placed
  | teardown cluster stage next =>
    have copy : (Site.copy cluster).Sound deps shared := placed _ (by simp [Task.sites])
    have razing : (Site.razing cluster).Sound deps shared := placed _ (by simp [Task.sites])
    have later : ∀ site ∈ next.sites, site.Sound deps shared :=
      fun site member => placed site (List.mem_cons_of_mem _ (List.mem_cons_of_mem _ member))
    apply handed rfl
    cases successor with
    | tears => exact placed_teardown copy razing later
    | wipesLate has =>
      intro site member
      simp only [Task.sites, LateEffect.sites, List.mem_cons, List.not_mem_nil, or_false] at member
      rcases member with rfl | rfl | rfl
      · exact copy
      · exact razing
      · exact ⟨copy.known, fun _ _ => has⟩
    | removesLate | unregisters => exact fun _ inside => (List.not_mem_nil inside).elim
    | resumes => exact later
  | followDelete =>
    cases successor with
    | follows => exact handed rfl (pledged_sites placed)
  | sweep =>
    apply handed rfl
    cases successor with
    | gathers | gathersNothing => exact fun _ inside => (List.not_mem_nil inside).elim
  | reap =>
    apply handed rfl
    cases successor with
    | gathered | spares | expires => exact placed
  | dispatch =>
    apply handed rfl
    cases successor with
    | dispatches => exact fun site inside => placed site (List.mem_append_right _ inside)
    | starts => exact pledged_sites fun site inside => placed site (List.mem_append_left _ inside)
  | staging =>
    apply handed rfl
    cases successor with
    | extracts => exact fun _ inside => (List.not_mem_nil inside).elim
  | reconcile =>
    apply handed rfl
    cases successor with
    | lists => exact fun _ => listedSites_sound table
  | reconcileLost =>
    cases successor with
    | notes => exact handed rfl placed
  | unregister | late => cases member

/-! ## Runs -/

structure System.Placed (system : System) : Prop where
  owned : system.Owned
  tasks : ∀ task ∈ system.tasks, task.Placed system.deps system.shared

/-- The duties of two tasks at different places in the pool. -/
theorem System.Owned.apart {system : System} (owned : system.Owned) {index : Nat} {task other : Task}
    (found : system.tasks[index]? = some task) (member : other ∈ system.tasks.eraseIdx index) :
    ∀ mine ∈ task.duties, ∀ duty ∈ other.duties, Apart mine duty :=
  fun _ isMine _ theirs => Holds.apart (fun _ _ => Apart.symm) owned found member isMine theirs

theorem System.Placed.next {system after : System} {label : Label} (placed : system.Placed)
    (moved : system.next label = some after) : after.Placed := by
  refine ⟨placed.owned.next moved, ?_⟩
  cases label with
  | request request =>
    obtain ⟨-, rfl⟩ := next_request moved
    intro task member
    rcases List.mem_append.mp member with old | new
    · exact placed.tasks task old
    · rw [List.mem_singleton.mp new]
      cases request <;> exact fun _ inside => (List.not_mem_nil inside).elim
  | world change =>
    obtain ⟨world, -, rfl⟩ := next_world moved
    exact fun task member => (placed.tasks task member).same rfl rfl
  | restart deps =>
    obtain ⟨-, rfl⟩ := next_restart moved
    intro task member
    rw [List.mem_singleton.mp member]
    exact fun _ inside => (List.not_mem_nil inside).elim
  | step index answer =>
    obtain ⟨task, found, draws, effect, rfl⟩ := placed.owned.effect moved
    have mine := placed.tasks task (List.mem_of_getElem? found)
    intro other member
    rcases List.mem_append.mp member with old | new
    · have theirs := placed.tasks other (List.mem_of_mem_eraseIdx old)
      exact fun site inside => (theirs site inside).step effect draws mine fun guards =>
        Task.setter_free (placed.owned.apart found old) inside guards
    · exact mine.step placed.owned.shared draws other new

theorem boot_placed (deps : TaskDeps) {shared : Shared} (table : shared.TableSound) :
    (System.boot deps shared).Placed := by
  refine ⟨boot_owned deps table, fun task member => ?_⟩
  rw [List.mem_singleton.mp member]
  exact fun _ inside => (List.not_mem_nil inside).elim

end AppSalmon
