import AppSalmon.Adapters.DockerBollard

/-! What the two backends do to spawn a cluster and to tear it down.

An identifier stands for its text here. How often a health wait polls before
its deadline passes is up to the clock, and given beforehand.
-/

set_option autoImplicit false

namespace AppSalmon

open Cancellation (Client)

/-- What one spawn is told by its caller, the secret generator and the clock. -/
structure SpawnParams where
  clusterId : String
  pgvector : Bool
  password : String
  jwtSecret : String
  signJwt : String → String → Except ClusterError String
  generatedConfigDirBase : UnixPath.Path
  healthCheckTimeoutSecs : UInt64
  /-- How many polls of a container come before the deadline. -/
  polls : String → Nat

/-- A call of the runtime, in a function that returns a `ClusterError`. -/
def viaDocker {α : Type} (call : External (Except DockerError α)) : External (Except ClusterError α) :=
  call.map fun result => result.mapError ClusterError.docker

/-- A call whose error is replaced by a message. -/
def orFail (call : ExternalCall) (message : String) : External (Except ClusterError Unit) :=
  (Client.send call).map fun reply => reply.check.mapError fun _ => .backendSpawnFailed message

/-! ## Waiting for health -/

namespace HealthWait

/-- What one observation decides, if anything. -/
def decide (handle : String) (requiresHealthcheck : Bool) :
    ContainerStatus → Option (Except ClusterError (Option UInt16))
  | .running publishedPort health =>
    -- a container without a health check is ready as soon as it runs
    if requiresHealthcheck = false ∨ health = some .healthy then some (.ok publishedPort) else none
  | .exited exitCode => some (.error (.docker (.containerNotHealthy handle (some exitCode))))
  | .notFound => some (.error (.docker (.containerNotHealthy handle none)))

def waitUntilHealthy (handle : String) (timeoutSecs : UInt64) (requiresHealthcheck : Bool) :
    Nat → External (Except ClusterError (Option UInt16))
  | 0 => (viaDocker (BollardContainerRuntime.inspect handle)).andThen fun status =>
      match decide handle requiresHealthcheck status with
      | some result => .ready result
      -- the last poll is the first after which the deadline has passed
      | none => .ready (.error (.docker (.healthCheckTimeout handle timeoutSecs)))
  | polls + 1 => (viaDocker (BollardContainerRuntime.inspect handle)).andThen fun status =>
      match decide handle requiresHealthcheck status with
      | some result => .ready result
      | none => (Client.send .sleep).bind fun _ => waitUntilHealthy handle timeoutSecs requiresHealthcheck polls

end HealthWait

/-! ## Postgres -/

namespace PostgresBackend

def dbUser : String := "app_salmon"

def dbName : String := "app_salmon"

def containerName (clusterId : String) : String := "app-salmon-" ++ clusterId

def waitUntilReady (params : SpawnParams) (handle : String) : External (Except ClusterError UInt16) :=
  (HealthWait.waitUntilHealthy handle params.healthCheckTimeoutSecs true (params.polls handle)).map fun result =>
    match result with
    | .ok (some port) => .ok port
    -- healthy, but nothing to connect to
    | .ok none => .error (.backendSpawnFailed "container reported healthy but published no port")
    | .error error => .error error

def enablePgvector (hostPort : UInt16) : External (Except ClusterError Unit) :=
  (orFail (.connect hostPort) "failed to connect to enable pgvector").andThen fun _ =>
    orFail (.execute "CREATE EXTENSION IF NOT EXISTS vector") "failed to enable pgvector extension"

def spawn (params : SpawnParams) : External (Except ClusterError ConnectionInfo) :=
  let spec : ContainerSpec := ⟨containerName params.clusterId, none, true⟩
  let connection (hostPort : UInt16) : Except ClusterError ConnectionInfo :=
    .ok (.postgres ⟨"127.0.0.1", hostPort, dbName, dbUser, ⟨params.password⟩⟩)
  (viaDocker (BollardContainerRuntime.createAndStart spec)).andThen fun handle =>
    (waitUntilReady params handle).andThen fun hostPort =>
      if params.pgvector then (enablePgvector hostPort).andThen fun _ => .ready (connection hostPort)
      else .ready (connection hostPort)

def teardown (clusterId : String) : External (Except ClusterError Unit) :=
  viaDocker (BollardContainerRuntime.stopAndRemove (containerName clusterId))

end PostgresBackend

/-! ## Supabase -/

namespace SupabaseBackend

def dbUser : String := "postgres"

def dbName : String := "postgres"

def serviceSuffixes : List String := ["db", "rest", "auth", "kong", "functions"]

def containerName (clusterId suffix : String) : String := "app-salmon-" ++ clusterId ++ "-" ++ suffix

def networkName (clusterId : String) : String := "app-salmon-net-" ++ clusterId

def configDir (base : UnixPath.Path) (clusterId : String) : UnixPath.Path := UnixPath.join base clusterId.toList

/-- Only the edge runtime has no health check. -/
def buildSpecs (clusterId : String) : List ContainerSpec :=
  [⟨containerName clusterId "db", some (networkName clusterId), true⟩,
    ⟨containerName clusterId "rest", some (networkName clusterId), true⟩,
    ⟨containerName clusterId "auth", some (networkName clusterId), true⟩,
    ⟨containerName clusterId "kong", some (networkName clusterId), true⟩,
    ⟨containerName clusterId "functions", some (networkName clusterId), false⟩]

/-- The generated configuration, written before any container is made. -/
def writeConfig (dir : UnixPath.Path) : External (Except ClusterError Unit) :=
  (orFail (.createDirAll dir) "failed to prepare generated config directory").andThen fun _ =>
    (orFail (.write dir "kong.yml") "failed to write kong declarative config").andThen fun _ =>
      (orFail (.write dir "roles.sql") "failed to write roles.sql").andThen fun _ =>
        orFail (.write dir "jwt.sql") "failed to write jwt.sql"

/-- The loop over the containers; `kongPort` is what Kong has published so far. -/
def startAll (params : SpawnParams) (kongPort : Option UInt16) :
    List ContainerSpec → External (Except ClusterError (Option UInt16))
  | [] => .ready (.ok kongPort)
  | spec :: rest =>
    (viaDocker (BollardContainerRuntime.createAndStart spec)).andThen fun handle =>
      (HealthWait.waitUntilHealthy handle params.healthCheckTimeoutSecs spec.healthCheck (params.polls handle)).andThen
        fun published =>
          -- only Kong's port is kept; that of the database is asked for at the end
          startAll params (if spec.name = containerName params.clusterId "kong" then published else kongPort) rest

/-- After the containers are up: the ports and the result. -/
def connect (params : SpawnParams) (anonKey serviceRoleKey : String) (kongPort : Option UInt16) :
    External (Except ClusterError ConnectionInfo) :=
  match kongPort with
  | none => .ready (.error (.backendSpawnFailed "kong reported healthy but published no port"))
  | some kongPort =>
    (viaDocker (BollardContainerRuntime.inspect (containerName params.clusterId "db"))).andThen fun status =>
      match status with
      | .running (some dbPort) _ =>
        .ready (.ok (.supabase ⟨"http://127.0.0.1:" ++ toString kongPort.toNat,
          ⟨"127.0.0.1", dbPort, dbName, dbUser, ⟨params.password⟩⟩, ⟨anonKey⟩, ⟨serviceRoleKey⟩, ⟨params.jwtSecret⟩⟩))
      | .running none _ | .exited _ | .notFound =>
        .ready (.error (.backendSpawnFailed "db reported healthy but published no port"))

def spawn (params : SpawnParams) : External (Except ClusterError ConnectionInfo) :=
  match params.signJwt params.jwtSecret "anon", params.signJwt params.jwtSecret "service_role" with
  -- both keys are signed before anything is made, so a failure leaves nothing behind
  | .error error, _ | .ok _, .error error => .ready (.error error)
  | .ok anonKey, .ok serviceRoleKey =>
    -- the containers mount the configuration, which is there before the first of them
    (viaDocker (BollardContainerRuntime.createNetwork (networkName params.clusterId))).andThen fun _ =>
      (writeConfig (configDir params.generatedConfigDirBase params.clusterId)).andThen fun _ =>
        (startAll params none (buildSpecs params.clusterId)).andThen fun kongPort =>
          connect params anonKey serviceRoleKey kongPort

/-- The first removal that fails ends it. -/
def removeAll : List String → External (Except ClusterError Unit)
  | [] => .ready (.ok ())
  | name :: rest => (viaDocker (BollardContainerRuntime.stopAndRemove name)).andThen fun _ => removeAll rest

def teardown (generatedConfigDirBase : UnixPath.Path) (clusterId : String) : External (Except ClusterError Unit) :=
  (removeAll (serviceSuffixes.map (containerName clusterId))).andThen fun _ =>
    (viaDocker (BollardContainerRuntime.removeNetwork (networkName clusterId))).andThen fun _ =>
      -- a directory that cannot be removed is only logged
      (Client.send (.removeDirAll (configDir generatedConfigDirBase clusterId))).map fun _ => .ok ()

end SupabaseBackend

/-! ## Either of them -/

namespace ServiceKind

def containerNames (clusterId : String) : ServiceKind → List String
  | .postgres => [PostgresBackend.containerName clusterId]
  | .supabase => SupabaseBackend.serviceSuffixes.map (SupabaseBackend.containerName clusterId)

def spawn (params : SpawnParams) : ServiceKind → External (Except ClusterError ConnectionInfo)
  | .postgres => PostgresBackend.spawn params
  | .supabase => SupabaseBackend.spawn params

def teardown (params : SpawnParams) : ServiceKind → External (Except ClusterError Unit)
  | .postgres => PostgresBackend.teardown params.clusterId
  | .supabase => SupabaseBackend.teardown params.generatedConfigDirBase params.clusterId

end ServiceKind

/-- Names of containers, networks and directories. -/
structure ResourceNames where
  containers : List String
  networks : List String
  dirs : List UnixPath.Path

/-- What goes by a name of this cluster. -/
def ServiceKind.resources (generatedConfigDirBase : UnixPath.Path) (clusterId : String) (kind : ServiceKind) : ResourceNames where
  containers := kind.containerNames clusterId
  networks := match kind with
    | .postgres => []
    | .supabase => [SupabaseBackend.networkName clusterId]
  dirs := match kind with
    | .postgres => []
    | .supabase => [SupabaseBackend.configDir generatedConfigDirBase clusterId]

/-! ## What they send -/

/-- Calls that a spawn makes, for containers of these names. -/
def ExternalCall.Spawns (names : List String) : ExternalCall → Prop
  | .createContainer spec => spec.name ∈ names
  | .startContainer name | .inspectContainer name => name ∈ names
  | .createNetwork _ | .createDirAll _ | .write .. | .sleep | .connect _ | .execute _ => True
  | .removeContainer _ | .removeNetwork _ | .removeDirAll _ | .prepare | .wipeWorkerDir | .deleteRow _ => False

/-- Calls that a spawn makes, for these resources. -/
def ExternalCall.SpawnsIn (names : ResourceNames) : ExternalCall → Prop
  | .createContainer spec => spec.name ∈ names.containers
  | .startContainer name | .inspectContainer name => name ∈ names.containers
  | .createNetwork network => network ∈ names.networks
  | .createDirAll dir | .write dir _ => dir ∈ names.dirs
  | .sleep | .connect _ | .execute _ => True
  | .removeContainer _ | .removeNetwork _ | .removeDirAll _ | .prepare | .wipeWorkerDir | .deleteRow _ => False

theorem ExternalCall.SpawnsIn.spawns {names : ResourceNames} {call : ExternalCall} (spawns : call.SpawnsIn names) :
    call.Spawns names.containers := by
  cases call with
  | createContainer | startContainer | inspectContainer => exact spawns
  | createNetwork | createDirAll | write | sleep | connect | execute => trivial
  | removeContainer | removeNetwork | removeDirAll | prepare | wipeWorkerDir | deleteRow => exact spawns

/-- Calls that a teardown makes. -/
def ExternalCall.isRemoving : ExternalCall → Bool
  | .removeContainer _ | .removeNetwork _ | .removeDirAll _ => true
  | .createContainer _ | .startContainer _ | .inspectContainer _ | .createNetwork _ | .createDirAll _ | .write .. | .sleep
  | .connect _ | .execute _ | .prepare | .wipeWorkerDir | .deleteRow _ => false

abbrev SpawnsOnly {α : Type} (names : List String) (client : External α) : Prop := client.Sends (ExternalCall.Spawns names)

abbrev SpawnsOnlyIn {α : Type} (names : ResourceNames) (client : External α) : Prop :=
  client.Sends (ExternalCall.SpawnsIn names)

abbrev RemovesOnly {α : Type} (client : External α) : Prop := client.Sends fun call => call.isRemoving = true

section
variable {names : ResourceNames} {name : String}

theorem viaDocker_sends {α : Type} {May : ExternalCall → Prop} {call : External (Except DockerError α)}
    (sends : call.Sends May) : (viaDocker call).Sends May := sends.map

theorem orFail_sends (call : ExternalCall) (spawns : call.SpawnsIn names) (message : String) :
    SpawnsOnlyIn names (orFail call message) :=
  Client.Sends.map ⟨spawns, fun _ => trivial⟩

theorem inspect_sends (member : name ∈ names.containers) : SpawnsOnlyIn names (BollardContainerRuntime.inspect name) :=
  ⟨member, fun _ => trivial⟩

theorem waitUntilHealthy_sends (member : name ∈ names.containers) (timeoutSecs : UInt64) (requiresHealthcheck : Bool) (polls : Nat) :
    SpawnsOnlyIn names (HealthWait.waitUntilHealthy name timeoutSecs requiresHealthcheck polls) := by
  induction polls with
  | zero =>
    apply (viaDocker_sends (inspect_sends member)).andThen
    intro status
    split <;> trivial
  | succ polls ih =>
    apply (viaDocker_sends (inspect_sends member)).andThen
    intro status
    split
    · trivial
    · exact ⟨trivial, fun _ => ih⟩

/-- A container is made and started, and what follows goes by its name. -/
theorem createAndStart_sends {α : Type} {spec : ContainerSpec} {next : String → External (Except ClusterError α)}
    (member : spec.name ∈ names.containers) (rest : SpawnsOnlyIn names (next spec.name)) :
    SpawnsOnlyIn names ((viaDocker (BollardContainerRuntime.createAndStart spec)).andThen next) := by
  -- a container that cannot be made is not started, and one that cannot be started is not awaited
  refine ⟨member, fun created => ?_⟩
  cases created with
  | notFound | refused => trivial
  | done | status =>
    refine ⟨member, fun started => ?_⟩
    cases started with
    | notFound | refused => trivial
    | done | status => exact rest

theorem PostgresBackend.spawn_sends (params : SpawnParams) :
    SpawnsOnlyIn (ServiceKind.postgres.resources params.generatedConfigDirBase params.clusterId)
      (PostgresBackend.spawn params) := by
  apply createAndStart_sends (List.mem_singleton_self _)
  apply Client.Sends.andThen
  · exact (waitUntilHealthy_sends (List.mem_singleton_self _) _ _ _).map
  · intro hostPort
    split
    · apply Client.Sends.andThen
      · exact (orFail_sends (.connect hostPort) trivial _).andThen fun _ => orFail_sends (.execute _) trivial _
      · exact fun _ => trivial
    · trivial

theorem SupabaseBackend.writeConfig_sends {dir : UnixPath.Path} (own : dir ∈ names.dirs) :
    SpawnsOnlyIn names (writeConfig dir) := by
  unfold writeConfig
  apply (orFail_sends (.createDirAll dir) own _).andThen
  intro _
  apply (orFail_sends (.write dir "kong.yml") own _).andThen
  intro _
  apply (orFail_sends (.write dir "roles.sql") own _).andThen
  exact fun _ => orFail_sends (.write dir "jwt.sql") own _

theorem SupabaseBackend.startAll_sends (params : SpawnParams) (kongPort : Option UInt16) {specs : List ContainerSpec}
    (members : ∀ spec ∈ specs, spec.name ∈ names.containers) : SpawnsOnlyIn names (startAll params kongPort specs) := by
  induction specs generalizing kongPort with
  | nil => trivial
  | cons spec rest ih =>
    have member := members spec List.mem_cons_self
    apply createAndStart_sends member
    apply (waitUntilHealthy_sends member _ _ _).andThen
    exact fun published => ih _ fun other later => members other (List.mem_cons_of_mem _ later)

/-- The suffix tells the containers of a cluster apart. -/
theorem SupabaseBackend.containerName_injective (clusterId : String) : Function.Injective (containerName clusterId) := by
  intro first second same
  exact (String.append_right_inj ("app-salmon-" ++ clusterId ++ "-")).mp same

/-- The containers are those of the suffixes, in their order. -/
theorem SupabaseBackend.buildSpecs_names (clusterId : String) :
    (buildSpecs clusterId).map ContainerSpec.name = serviceSuffixes.map (containerName clusterId) := rfl

theorem SupabaseBackend.spawn_sends (params : SpawnParams) :
    SpawnsOnlyIn (ServiceKind.supabase.resources params.generatedConfigDirBase params.clusterId)
      (SupabaseBackend.spawn params) := by
  unfold spawn
  split
  · trivial
  · trivial
  · apply Client.Sends.andThen
    · exact viaDocker_sends ⟨List.mem_singleton_self _, fun _ => trivial⟩
    intro network
    apply Client.Sends.andThen
    · exact writeConfig_sends (List.mem_singleton_self _)
    intro written
    apply Client.Sends.andThen
    · apply startAll_sends
      intro spec member
      change spec.name ∈ serviceSuffixes.map (containerName params.clusterId)
      rw [← buildSpecs_names]
      exact List.mem_map_of_mem member
    intro kongPort
    unfold connect
    split
    · trivial
    · apply (viaDocker_sends (inspect_sends (List.mem_map_of_mem (f := containerName params.clusterId) (by decide)))).andThen
      intro status
      split <;> trivial

end

/-- A spawn makes what goes by a name of its cluster, removes nothing, and touches no row. -/
theorem ServiceKind.spawn_sends_in (params : SpawnParams) (kind : ServiceKind) :
    SpawnsOnlyIn (kind.resources params.generatedConfigDirBase params.clusterId) (kind.spawn params) := by
  cases kind with
  | postgres => exact PostgresBackend.spawn_sends params
  | supabase => exact SupabaseBackend.spawn_sends params

theorem ServiceKind.spawn_sends (params : SpawnParams) (kind : ServiceKind) :
    SpawnsOnly (kind.containerNames params.clusterId) (kind.spawn params) :=
  (kind.spawn_sends_in params).mono fun _ => ExternalCall.SpawnsIn.spawns

theorem stopAndRemove_sends (handle : String) : RemovesOnly (BollardContainerRuntime.stopAndRemove handle) :=
  ⟨rfl, fun _ => trivial⟩

theorem SupabaseBackend.removeAll_sends (names : List String) : RemovesOnly (removeAll names) := by
  induction names with
  | nil => trivial
  | cons name rest ih => exact (viaDocker_sends (stopAndRemove_sends name)).andThen fun _ => ih

/-- A teardown makes nothing. -/
theorem ServiceKind.teardown_sends (params : SpawnParams) (kind : ServiceKind) : RemovesOnly (kind.teardown params) := by
  cases kind with
  | postgres => exact viaDocker_sends (stopAndRemove_sends _)
  | supabase =>
    apply (SupabaseBackend.removeAll_sends _).andThen
    intro removed
    apply Client.Sends.andThen
    · exact viaDocker_sends ⟨rfl, fun _ => trivial⟩
    · exact fun _ => Client.Sends.map ⟨rfl, fun _ => trivial⟩

/-! ## What a teardown is sure to remove -/

/-- A removal is not refused; that there is nothing to remove is no refusal. -/
def Accepts (call : ExternalCall) (reply : ExternalReply) : Prop :=
  ∀ name, call = .removeContainer name → ∀ source, reply ≠ .refused source

theorem stopAndRemove_ends (handle : String) :
    (viaDocker (BollardContainerRuntime.stopAndRemove handle)).Ends Accepts fun result => result = .ok () := by
  intro reply accepted
  cases reply with
  | done | status | notFound => rfl
  | refused source => exact absurd rfl (accepted handle rfl source)

theorem stopAndRemove_inevitable (handle : String) :
    (viaDocker (BollardContainerRuntime.stopAndRemove handle)).Inevitable Accepts fun call =>
      call = .removeContainer handle := .inl rfl

/-- Each container of the list gets its removal, as long as those before it are not refused. -/
theorem SupabaseBackend.removeAll_inevitable {names : List String} {name : String} (member : name ∈ names) :
    (removeAll names).Inevitable Accepts fun call => call = .removeContainer name := by
  induction names with
  | nil => cases member
  | cons first rest ih =>
    rcases List.mem_cons.mp member with rfl | later
    · exact (stopAndRemove_inevitable name).bind
    -- a removal that is not refused succeeds, and the loop goes on
    · exact (stopAndRemove_ends first).inevitable_andThen (ih later)

theorem ServiceKind.teardown_inevitable (params : SpawnParams) (kind : ServiceKind) {name : String}
    (member : name ∈ kind.containerNames params.clusterId) :
    (kind.teardown params).Inevitable Accepts fun call => call = .removeContainer name := by
  cases kind with
  | postgres =>
    obtain rfl := List.mem_singleton.mp member
    exact stopAndRemove_inevitable _
  | supabase => exact (SupabaseBackend.removeAll_inevitable member).bind

/-- A small cluster. -/
def smallParams : SpawnParams where
  clusterId := "c"
  pgvector := false
  password := "secret"
  jwtSecret := "secret"
  signJwt := fun _ role => .ok role
  generatedConfigDirBase := "/generated".toList
  healthCheckTimeoutSecs := 60
  polls := fun _ => 0

end AppSalmon
