import AppSalmon.ClientWorkers
import AppSalmon.Ports.Repository

/-! What the background tasks share, and what they do to the world outside.

The world keeps, for each cluster, the containers and networks made for it and
the directories written on its behalf. A staging directory keeps the effects of
every extraction that wrote into it since it was created.
-/

set_option autoImplicit false

namespace AppSalmon

open Repository (Rows)
open TarValidation (TarCrate SetPermissions TarLimits TarValidationError)

/-! ## The registry of spawn tasks -/

/-- A cancellation token, told apart from others by the order of issue. -/
structure CancellationToken where
  serial : Nat
  deriving DecidableEq

structure TaskRegistry where
  tokens : List (ClusterId × CancellationToken)
  cancelled : List CancellationToken
  issued : Nat

namespace TaskRegistry

def empty : TaskRegistry := ⟨[], [], 0⟩

/-- A fresh token, in the place of any earlier one for the same cluster. -/
def register (registry : TaskRegistry) (id : ClusterId) : CancellationToken × TaskRegistry :=
  let token : CancellationToken := ⟨registry.issued⟩
  (token, { registry with tokens := (id, token) :: registry.tokens.filter fun entry => entry.1 ≠ id,
                          issued := registry.issued + 1 })

def cancel (registry : TaskRegistry) (id : ClusterId) : TaskRegistry :=
  match registry.tokens.find? fun entry => entry.1 = id with
  | some entry => { registry with cancelled := entry.2 :: registry.cancelled }
  | none => registry

def unregister (registry : TaskRegistry) (id : ClusterId) : TaskRegistry :=
  { registry with tokens := registry.tokens.filter fun entry => entry.1 ≠ id }

def isCancelled (registry : TaskRegistry) (token : CancellationToken) : Bool := token ∈ registry.cancelled

end TaskRegistry

/-! ## One process lifetime -/

structure Limits where
  minTtl : TimeDelta
  maxTtl : TimeDelta
  maxClustersPerUser : UInt32

/-- What `spawn_task` asks of a backend before it spawns. -/
structure Backend where
  workerSubdirs : List String
  deriving DecidableEq

/-- The tar crate that is linked in, and the mode changes, on a file system where nothing fails. -/
structure TarIo where
  crate : TarCrate
  setPermissions : SetPermissions

/-- A crate that finds no entry. -/
def TarIo.idle : TarIo where
  crate :=
    { entries := fun _ => .ok [], unpackIn := fun _ _ _ => ([], .ok false),
      refuses_parent := fun _ _ _ _ _ _ => rfl, joins_normal := by simp, needs_path := fun _ _ _ _ _ => rfl }
  setPermissions := fun _ _ _ => .ok ()

/-- The dependencies built at startup from an accepted configuration and the passwd text. -/
structure TaskDeps where
  config : Config
  accepted : config.validate = .ok ()
  passwd : List Char
  clientWorkers : ClientWorkers
  resolved : resolveClientWorkers passwd config.clients = .ok clientWorkers
  backends : List (ServiceKind × Backend)
  workerDataDirBase : UnixPath.Path
  tarStagingDirBase : UnixPath.Path
  limits : Limits
  minTtl : TimeDelta.trySeconds config.limits.minTtlSecs = some limits.minTtl
  maxTtl : TimeDelta.trySeconds config.limits.maxTtlSecs = some limits.maxTtl
  quota : limits.maxClustersPerUser = config.limits.maxClustersPerUser
  spawnEstimate : TimeDelta
  failedGracePeriod : TimeDelta
  tar : TarIo := .idle

theorem TaskDeps.private (deps : TaskDeps) : deps.clientWorkers.Private :=
  resolveClientWorkers_private deps.accepted deps.resolved

def TaskDeps.backend (deps : TaskDeps) (kind : ServiceKind) : Option Backend :=
  (deps.backends.find? fun entry => entry.1 = kind).map Prod.snd

def TaskDeps.tarLimits (deps : TaskDeps) : TarLimits :=
  ⟨deps.config.limits.maxTarEntryBytes, deps.config.limits.maxTarBytes⟩

/-- A later process on the same database: its directories lie beside it, and what `main` registers is compiled in. -/
def TaskDeps.Continues (deps earlier : TaskDeps) : Prop :=
  deps.backends = earlier.backends ∧ deps.workerDataDirBase = earlier.workerDataDirBase ∧
    deps.tarStagingDirBase = earlier.tarStagingDirBase

instance (deps earlier : TaskDeps) : Decidable (deps.Continues earlier) := inferInstanceAs (Decidable (_ ∧ _))

/-- What `main` registers. -/
def registeredBackends : List (ServiceKind × Backend) :=
  [(.postgres, ⟨[]⟩), (.supabase, ⟨["project/functions"]⟩)]

/-! ## The world outside the process -/

structure World where
  /-- Containers and networks of a cluster, with the directory its containers mount. -/
  resources : List (ClusterId × SlotDir)
  /-- Directories with something in them, and the cluster it was written for. -/
  contents : List (SlotDir × ClusterId)

namespace World

def empty : World := ⟨[], []⟩

def create (world : World) (id : ClusterId) (dir : SlotDir) : World :=
  { world with resources := (id, dir) :: world.resources }

/-- Every container and network of the cluster goes. -/
def teardown (world : World) (id : ClusterId) : World :=
  { world with resources := world.resources.filter fun entry => entry.1 ≠ id }

def write (world : World) (dir : SlotDir) (id : ClusterId) : World :=
  { world with contents := (dir, id) :: world.contents }

def wipe (world : World) (dir : SlotDir) : World :=
  { world with contents := world.contents.filter fun entry => entry.1 ≠ dir }

@[simp] theorem create_contents (world : World) (id : ClusterId) (dir : SlotDir) :
    (world.create id dir).contents = world.contents := rfl

@[simp] theorem mem_create {world : World} {id : ClusterId} {dir : SlotDir} {entry : ClusterId × SlotDir} :
    entry ∈ (world.create id dir).resources ↔ entry = (id, dir) ∨ entry ∈ world.resources := List.mem_cons

@[simp] theorem write_resources (world : World) (dir : SlotDir) (id : ClusterId) :
    (world.write dir id).resources = world.resources := rfl

@[simp] theorem mem_write {world : World} {dir : SlotDir} {id : ClusterId} {entry : SlotDir × ClusterId} :
    entry ∈ (world.write dir id).contents ↔ entry = (dir, id) ∨ entry ∈ world.contents := List.mem_cons

@[simp] theorem teardown_contents (world : World) (id : ClusterId) :
    (world.teardown id).contents = world.contents := rfl

@[simp] theorem mem_teardown {world : World} {id : ClusterId} {entry : ClusterId × SlotDir} :
    entry ∈ (world.teardown id).resources ↔ entry ∈ world.resources ∧ entry.1 ≠ id := by
  simp [teardown]

@[simp] theorem wipe_resources (world : World) (dir : SlotDir) :
    (world.wipe dir).resources = world.resources := rfl

@[simp] theorem mem_wipe {world : World} {dir : SlotDir} {entry : SlotDir × ClusterId} :
    entry ∈ (world.wipe dir).contents ↔ entry ∈ world.contents ∧ entry.1 ≠ dir := by
  simp [wipe]

end World

/-- An effect of the extraction of one cluster's upload. -/
structure Staged where
  upload : ClusterId
  effect : TarValidation.Effect
  deriving DecidableEq

/-- The staging directories: absent, or present with what was written since their creation. -/
abbrev Staging := SlotDir → Option (List Staged)

namespace Staging

def set (staging : Staging) (dir : SlotDir) (value : Option (List Staged)) : Staging :=
  fun other => if other = dir then value else staging other

/-- `create_dir_all` accepts a directory that exists, with whatever is in it. -/
def createDirAll (staging : Staging) (dir : SlotDir) : Staging :=
  staging.set dir (some ((staging dir).getD []))

/-- A write below a directory that is not there fails. -/
def write (staging : Staging) (dir : SlotDir) (staged : Staged) : Option Staging :=
  (staging dir).map fun content => staging.set dir (some (content ++ [staged]))

def removeDirAll (staging : Staging) (dir : SlotDir) : Staging := staging.set dir none

/-- A removal that fails on the way leaves some of the tree. -/
def removePart (staging : Staging) (dir : SlotDir) (kept : Staged → Bool) : Staging :=
  staging.set dir ((staging dir).map fun content => content.filter kept)

@[simp] theorem set_same (staging : Staging) (dir : SlotDir) (value : Option (List Staged)) :
    staging.set dir value dir = value := if_pos rfl

theorem set_other (staging : Staging) {dir other : SlotDir} (value : Option (List Staged))
    (different : other ≠ dir) : staging.set dir value other = staging other := if_neg different

end Staging

/-! ## The shared state -/

structure Shared where
  rows : Rows
  registry : TaskRegistry
  world : World
  staging : Staging
  /-- Every identifier a row was ever inserted under. -/
  born : List ClusterId
  /-- One entry for each time this process entered `teardown`. -/
  teardowns : List ClusterId
  /-- The clusters whose `DELETE` this process answered with 202. -/
  accepted : List ClusterId
  /-- The clusters one of whose calls failed in teardown, or took effect after their spawn gave it up. A
  restart forgets those that still have a row. -/
  stray : List ClusterId

def Shared.empty : Shared := ⟨[], .empty, .empty, fun _ => none, [], [], [], []⟩

def Shared.row? (shared : Shared) (id : ClusterId) : Option Cluster := Repository.getAny shared.rows id

/-- What a call of a backend's `spawn` is seen to do next. -/
inductive SpawnAnswer where
  | creates
  | returns (result : Except ClusterError ConnectionInfo)
  /-- `Instant::now() + timeout` is out of range. -/
  | panics

/-- What one step of a task is told by the clock, the generator and the calls it makes. -/
structure Answer where
  now : DateTime := .epoch
  id : ClusterId := ⟨0⟩
  /-- The error of a repository call. -/
  repository : Option RepositoryError := none
  /-- The error of a privileged command. -/
  executor : Option PrivilegedExecError := none
  /-- The error of a backend's `teardown`. -/
  teardown : Option ClusterError := none
  isAlive : Except ClusterError Bool := .ok true
  spawn : SpawnAnswer := .creates
  /-- The error of a file system call of the process itself. -/
  fs : Option String := none
  /-- What a failed removal leaves. -/
  kept : Staged → Bool := fun _ => true
  /-- What ends an extraction that is under way. -/
  untar : Option TarValidationError := none
  /-- Whether an abandoned request takes effect after all. -/
  lands : Bool := false

/-! ## A small installation -/

def smallClient (name unixUser : String) : ClientConfig :=
  ⟨name, "sha256:0000000000000000000000000000000000000000000000000000000000000000", unixUser⟩

/-- TTLs from a minute to an hour, and one cluster for each client. -/
def smallLimits : LimitsConfig where
  minTtlSecs := 60
  maxTtlSecs := 3600
  maxClustersPerUser := 1
  spawnEstimateSecs := 30
  healthCheckTimeoutSecs := 60
  ttlReaperIntervalSecs := 60
  failedClusterReapDelaySecs := 120
  maxTarBytes := 1000
  maxTarEntryBytes := 1000

/-- One client, whose account the passwd text has. -/
def smallDeps : TaskDeps where
  config := ⟨smallLimits, [smallClient "alice" "agent1"]⟩
  accepted := by decide +kernel
  passwd := "agent1:x:1001:1001::/:/bin/sh".toList
  clientWorkers := ⟨[(⟨"alice"⟩, ⟨"agent1", 1001, 1001⟩)]⟩
  resolved := by decide +kernel
  backends := registeredBackends
  workerDataDirBase := "/srv".toList
  tarStagingDirBase := "/staging".toList
  limits := ⟨⟨60000000000, by decide, by decide⟩, ⟨3600000000000, by decide, by decide⟩, 1⟩
  minTtl := by decide +kernel
  maxTtl := by decide +kernel
  quota := rfl
  spawnEstimate := ⟨30000000000, by decide, by decide⟩
  failedGracePeriod := ⟨120000000000, by decide, by decide⟩

def smallTtl : TimeDelta := ⟨60000000000, by decide, by decide⟩

def smallConnection : ConnectionInfo := .postgres ⟨"localhost", 5432, "postgres", "postgres", ⟨"secret"⟩⟩

end AppSalmon
