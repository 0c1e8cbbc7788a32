import AppSalmon.Backends.Neighbours
import AppSalmon.Backends.Specs
import AppSalmon.Library.Simulation

/-! The backends with all that they send: whole bodies, file contents, connection strings.

Side by side with their course they exchange the same messages, each in full,
and see the same in the replies.
-/

set_option autoImplicit false

namespace AppSalmon

open Cancellation (Client SameOutcome sameOutcome_eq)

namespace Wire

/-- A call of the daemon, the file system, the clock or a database. -/
inductive Call where
  | createContainer (name : String) (body : Engine.ContainerCreateBody)
  | startContainer (name : String)
  | inspectContainer (name : String)
  | removeContainer (name : String) (force volumes link : Bool)
  | createNetwork (name : String)
  | removeNetwork (name : String)
  | createDirAll (dir : UnixPath.Path)
  | write (path : UnixPath.Path) (contents : String)
  | removeDirAll (dir : UnixPath.Path)
  | sleep (duration : Duration)
  | connect (config : String)
  | execute (sql : String)
  deriving DecidableEq

inductive Reply where
  | done
  | inspected (response : Engine.ContainerInspectResponse)
  | notFound
  | refused (source : String)
  deriving DecidableEq

/-- What the adapter makes of a reply. -/
def Reply.view : Reply → ExternalReply
  | .done => .done
  | .inspected response => .status (BollardContainerRuntime.containerStatusFromResponse response)
  | .notFound => .notFound
  | .refused source => .refused source

abbrev Exchange (α : Type) := Client Call Reply α

/-- The error of a call whose only success is to be done. -/
def Reply.check : Reply → Except String Unit
  | .done | .inspected _ => .ok ()
  | .notFound => .error "404"
  | .refused source => .error source

def viaDocker {α : Type} (call : Exchange (Except DockerError α)) : Exchange (Except ClusterError α) :=
  call.map fun result => result.mapError ClusterError.docker

def orFail (call : Call) (message : String) : Exchange (Except ClusterError Unit) :=
  (Client.send call).map fun reply => reply.check.mapError fun _ => .backendSpawnFailed message

/-! ## The adapter -/

namespace BollardContainerRuntime

open AppSalmon.BollardContainerRuntime (containerCreateBody containerStatusFromResponse)

def createAndStart (kataRuntimeName : String) (spec : ContainerRuntime.ContainerSpec) :
    Exchange (Except DockerError String) :=
  (Client.send (.createContainer spec.name (containerCreateBody spec kataRuntimeName))).bind fun created =>
    match created.check with
    | .error source => .ready (.error (.createContainer source))
    | .ok () =>
      (Client.send (.startContainer spec.name)).bind fun started =>
        match started.check with
        | .error source => .ready (.error (.startContainer spec.name source))
        | .ok () => .ready (.ok spec.name)

def inspect (handle : String) : Exchange (Except DockerError ContainerStatus) :=
  (Client.send (.inspectContainer handle)).bind fun reply =>
    .ready (match reply with
      | .inspected response => .ok (containerStatusFromResponse response)
      -- an answer with nothing in it
      | .done => .ok (containerStatusFromResponse ⟨none, none⟩)
      | .notFound => .ok .notFound
      | .refused source => .error (.inspectContainer handle source))

/-- By force, with the anonymous volumes. -/
def stopAndRemove (handle : String) : Exchange (Except DockerError Unit) :=
  (Client.send (.removeContainer handle true true false)).bind fun reply =>
    .ready (match reply with
      | .done | .inspected _ | .notFound => .ok ()
      | .refused source => .error (.removeContainer handle source))

def createNetwork (name : String) : Exchange (Except DockerError String) :=
  (Client.send (.createNetwork name)).bind fun reply =>
    .ready (match reply.check with
      | .ok () => .ok name
      | .error source => .error (.createNetwork name source))

def removeNetwork (network : String) : Exchange (Except DockerError Unit) :=
  (Client.send (.removeNetwork network)).bind fun reply =>
    .ready (match reply with
      | .done | .inspected _ | .notFound => .ok ()
      | .refused source => .error (.removeNetwork network source))

end BollardContainerRuntime

/-! ## Waiting for health -/

namespace HealthWait

def healthPollInterval : Duration := ⟨500 * 1000000, by decide⟩

def waitUntilHealthy (handle : String) (timeoutSecs : UInt64) (requiresHealthcheck : Bool) :
    Nat → Exchange (Except ClusterError (Option UInt16))
  | 0 => (viaDocker (BollardContainerRuntime.inspect handle)).andThen fun status =>
      match HealthWait.decide handle requiresHealthcheck status with
      | some result => .ready result
      | none => .ready (.error (.docker (.healthCheckTimeout handle timeoutSecs)))
  | polls + 1 => (viaDocker (BollardContainerRuntime.inspect handle)).andThen fun status =>
      match HealthWait.decide handle requiresHealthcheck status with
      | some result => .ready result
      | none =>
        (Client.send (.sleep healthPollInterval)).bind fun _ => waitUntilHealthy handle timeoutSecs requiresHealthcheck polls

end HealthWait

/-! ## Postgres -/

namespace PostgresBackend

def waitUntilReady (provision : Provision) (handle : String) : Exchange (Except ClusterError UInt16) :=
  (HealthWait.waitUntilHealthy handle provision.healthCheckTimeoutSecs true (provision.polls handle)).map fun result =>
    match result with
    | .ok (some port) => .ok port
    | .ok none => .error (.backendSpawnFailed "container reported healthy but published no port")
    | .error error => .error error

def enablePgvector (hostPort : UInt16) (password : String) : Exchange (Except ClusterError Unit) :=
  (orFail (.connect (connectConfig hostPort password)) "failed to connect to enable pgvector").andThen fun _ =>
    orFail (.execute "CREATE EXTENSION IF NOT EXISTS vector") "failed to enable pgvector extension"

def spawn (provision : Provision) : Exchange (Except ClusterError ConnectionInfo) :=
  let connection (hostPort : UInt16) : Except ClusterError ConnectionInfo :=
    .ok (.postgres ⟨"127.0.0.1", hostPort, PostgresBackend.dbName, PostgresBackend.dbUser, ⟨provision.password⟩⟩)
  (viaDocker (BollardContainerRuntime.createAndStart provision.kataRuntimeName (containerSpec provision))).andThen
    fun handle =>
      (waitUntilReady provision handle).andThen fun hostPort =>
        if provision.pgvector then (enablePgvector hostPort provision.password).andThen fun _ => .ready (connection hostPort)
        else .ready (connection hostPort)

def teardown (clusterId : String) : Exchange (Except ClusterError Unit) :=
  viaDocker (BollardContainerRuntime.stopAndRemove (PostgresBackend.containerName clusterId))

def isAlive (clusterId : String) : Exchange (Except ClusterError Bool) :=
  (viaDocker (BollardContainerRuntime.inspect (PostgresBackend.containerName clusterId))).andThen fun status =>
    match status with
    | .running .. => .ready (.ok true)
    | .exited _ | .notFound => .ready (.ok false)

end PostgresBackend

/-! ## Supabase -/

namespace SupabaseBackend

def writeConfig (provision : Provision) : Exchange (Except ClusterError Unit) :=
  (orFail (.createDirAll (generatedConfigDir provision)) "failed to prepare generated config directory").andThen fun _ =>
    (orFail (.write (configPath provision "kong.yml") (kongDeclarativeConfig "rest" "auth" "functions"))
      "failed to write kong declarative config").andThen fun _ =>
      (orFail (.write (configPath provision "roles.sql") rolesSql) "failed to write roles.sql").andThen fun _ =>
        orFail (.write (configPath provision "jwt.sql") jwtSql) "failed to write jwt.sql"

def startAll (provision : Provision) (kongPort : Option UInt16) :
    List ContainerRuntime.ContainerSpec → Exchange (Except ClusterError (Option UInt16))
  | [] => .ready (.ok kongPort)
  | spec :: rest =>
    (viaDocker (BollardContainerRuntime.createAndStart provision.kataRuntimeName spec)).andThen fun handle =>
      (HealthWait.waitUntilHealthy handle provision.healthCheckTimeoutSecs spec.healthCheck.isSome
        (provision.polls handle)).andThen fun published =>
          startAll provision
            (if spec.name = SupabaseBackend.containerName provision.clusterId "kong" then published else kongPort) rest

def connect (provision : Provision) (anonKey serviceRoleKey : String) (kongPort : Option UInt16) :
    Exchange (Except ClusterError ConnectionInfo) :=
  match kongPort with
  | none => .ready (.error (.backendSpawnFailed "kong reported healthy but published no port"))
  | some kongPort =>
    (viaDocker (BollardContainerRuntime.inspect (SupabaseBackend.containerName provision.clusterId "db"))).andThen
      fun status =>
        match status with
        | .running (some dbPort) _ =>
          .ready (.ok (.supabase ⟨"http://127.0.0.1:" ++ toString kongPort.toNat,
            ⟨"127.0.0.1", dbPort, SupabaseBackend.dbName, SupabaseBackend.dbUser, ⟨provision.password⟩⟩, ⟨anonKey⟩,
            ⟨serviceRoleKey⟩, ⟨provision.jwtSecret⟩⟩))
        | .running none _ | .exited _ | .notFound =>
          .ready (.error (.backendSpawnFailed "db reported healthy but published no port"))

def spawn (provision : Provision) : Exchange (Except ClusterError ConnectionInfo) :=
  match provision.signJwt provision.jwtSecret "anon", provision.signJwt provision.jwtSecret "service_role" with
  | .error error, _ | .ok _, .error error => .ready (.error error)
  | .ok anonKey, .ok serviceRoleKey =>
    (viaDocker (BollardContainerRuntime.createNetwork (SupabaseBackend.networkName provision.clusterId))).andThen fun _ =>
      (writeConfig provision).andThen fun _ =>
        (startAll provision none (specs provision anonKey serviceRoleKey)).andThen fun kongPort =>
          connect provision anonKey serviceRoleKey kongPort

def removeAll : List String → Exchange (Except ClusterError Unit)
  | [] => .ready (.ok ())
  | name :: rest => (viaDocker (BollardContainerRuntime.stopAndRemove name)).andThen fun _ => removeAll rest

def teardown (generatedConfigDirBase : UnixPath.Path) (clusterId : String) : Exchange (Except ClusterError Unit) :=
  (removeAll (SupabaseBackend.serviceSuffixes.map (SupabaseBackend.containerName clusterId))).andThen fun _ =>
    (viaDocker (BollardContainerRuntime.removeNetwork (SupabaseBackend.networkName clusterId))).andThen fun _ =>
      (Client.send (.removeDirAll (SupabaseBackend.configDir generatedConfigDirBase clusterId))).map fun _ => .ok ()

def allRunning : List String → Exchange (Except ClusterError Bool)
  | [] => .ready (.ok true)
  | name :: rest =>
    (viaDocker (BollardContainerRuntime.inspect name)).andThen fun status =>
      match status with
      | .running .. => allRunning rest
      | .exited _ | .notFound => .ready (.ok false)

def isAlive (clusterId : String) : Exchange (Except ClusterError Bool) :=
  allRunning (SupabaseBackend.serviceSuffixes.map (SupabaseBackend.containerName clusterId))

end SupabaseBackend

namespace ServiceKind

def spawn (provision : Provision) : ServiceKind → Exchange (Except ClusterError ConnectionInfo)
  | .postgres => PostgresBackend.spawn provision
  | .supabase => SupabaseBackend.spawn provision

def teardown (params : SpawnParams) : ServiceKind → Exchange (Except ClusterError Unit)
  | .postgres => PostgresBackend.teardown params.clusterId
  | .supabase => SupabaseBackend.teardown params.generatedConfigDirBase params.clusterId

def isAlive (clusterId : String) : ServiceKind → Exchange (Except ClusterError Bool)
  | .postgres => PostgresBackend.isAlive clusterId
  | .supabase => SupabaseBackend.isAlive clusterId

end ServiceKind

/-! ## Side by side -/

/-- The files of the generated configuration, the same for every cluster. -/
def configFiles : List (String × String) :=
  [("kong.yml", SupabaseBackend.kongDeclarativeConfig "rest" "auth" "functions"), ("roles.sql", SupabaseBackend.rolesSql),
    ("jwt.sql", SupabaseBackend.jwtSql)]

/-- A message in full, beside what the course of the backends knows of it. -/
inductive InFull (kataRuntimeName password : String) (specs : List ContainerRuntime.ContainerSpec) :
    Call → ExternalCall → Prop where
  | createContainer {spec : ContainerRuntime.ContainerSpec} (member : spec ∈ specs) :
      InFull kataRuntimeName password specs
        (.createContainer spec.name (BollardContainerRuntime.containerCreateBody spec kataRuntimeName))
        (.createContainer spec.outline)
  | startContainer (name : String) : InFull kataRuntimeName password specs (.startContainer name) (.startContainer name)
  | inspectContainer (name : String) : InFull kataRuntimeName password specs (.inspectContainer name) (.inspectContainer name)
  | removeContainer (name : String) :
      InFull kataRuntimeName password specs (.removeContainer name true true false) (.removeContainer name)
  | createNetwork (name : String) : InFull kataRuntimeName password specs (.createNetwork name) (.createNetwork name)
  | removeNetwork (name : String) : InFull kataRuntimeName password specs (.removeNetwork name) (.removeNetwork name)
  | createDirAll (dir : UnixPath.Path) : InFull kataRuntimeName password specs (.createDirAll dir) (.createDirAll dir)
  | write {file contents : String} (dir : UnixPath.Path) (member : (file, contents) ∈ configFiles) :
      InFull kataRuntimeName password specs (.write (UnixPath.join dir file.toList) contents) (.write dir file)
  | removeDirAll (dir : UnixPath.Path) : InFull kataRuntimeName password specs (.removeDirAll dir) (.removeDirAll dir)
  | sleep : InFull kataRuntimeName password specs (.sleep HealthWait.healthPollInterval) .sleep
  | connect (port : UInt16) :
      InFull kataRuntimeName password specs (.connect (PostgresBackend.connectConfig port password)) (.connect port)
  | execute (sql : String) : InFull kataRuntimeName password specs (.execute sql) (.execute sql)

/-- What a spawn makes, in its order. -/
def Provision.specs (provision : Provision) : ServiceKind → List ContainerRuntime.ContainerSpec
  | .postgres => [PostgresBackend.containerSpec provision]
  | .supabase =>
    match provision.signJwt provision.jwtSecret "anon", provision.signJwt provision.jwtSecret "service_role" with
    | .ok anonKey, .ok serviceRoleKey => SupabaseBackend.specs provision anonKey serviceRoleKey
    | .error _, _ | .ok _, .error _ => []

section
variable {kataRuntimeName password : String} {specs : List ContainerRuntime.ContainerSpec}

theorem createAndStart_simulates {spec : ContainerRuntime.ContainerSpec} (member : spec ∈ specs) :
    (viaDocker (BollardContainerRuntime.createAndStart kataRuntimeName spec)).Simulates (InFull kataRuntimeName password specs)
      Reply.view (SameOutcome Eq) (AppSalmon.viaDocker (AppSalmon.BollardContainerRuntime.createAndStart spec.outline)) := by
  refine .request (.createContainer member) fun created => ?_
  cases created with
  | notFound | refused => exact .ready (.error _)
  | done | inspected =>
    refine .request (.startContainer _) fun started => ?_
    cases started with
    | notFound | refused => exact .ready (.error _)
    | done | inspected => exact .ready (.ok rfl)

theorem inspect_simulates (handle : String) :
    (viaDocker (BollardContainerRuntime.inspect handle)).Simulates (InFull kataRuntimeName password specs) Reply.view
      (SameOutcome Eq) (AppSalmon.viaDocker (AppSalmon.BollardContainerRuntime.inspect handle)) := by
  refine .request (.inspectContainer handle) fun reply => ?_
  cases reply with
  | refused => exact .ready (.error _)
  | done | inspected | notFound => exact .ready (.ok rfl)

theorem stopAndRemove_simulates (handle : String) :
    (viaDocker (BollardContainerRuntime.stopAndRemove handle)).Simulates (InFull kataRuntimeName password specs) Reply.view
      (SameOutcome Eq) (AppSalmon.viaDocker (AppSalmon.BollardContainerRuntime.stopAndRemove handle)) := by
  refine .request (.removeContainer handle) fun reply => ?_
  cases reply with
  | refused => exact .ready (.error _)
  | done | inspected | notFound => exact .ready (.ok rfl)

theorem createNetwork_simulates (name : String) :
    (viaDocker (BollardContainerRuntime.createNetwork name)).Simulates (InFull kataRuntimeName password specs) Reply.view
      (SameOutcome Eq) (AppSalmon.viaDocker (AppSalmon.BollardContainerRuntime.createNetwork name)) := by
  refine .request (.createNetwork name) fun reply => ?_
  cases reply with
  | notFound | refused => exact .ready (.error _)
  | done | inspected => exact .ready (.ok rfl)

theorem removeNetwork_simulates (network : String) :
    (viaDocker (BollardContainerRuntime.removeNetwork network)).Simulates (InFull kataRuntimeName password specs) Reply.view
      (SameOutcome Eq) (AppSalmon.viaDocker (AppSalmon.BollardContainerRuntime.removeNetwork network)) := by
  refine .request (.removeNetwork network) fun reply => ?_
  cases reply with
  | refused => exact .ready (.error _)
  | done | inspected | notFound => exact .ready (.ok rfl)

theorem orFail_simulates {call : Call} {outline : ExternalCall} (inFull : InFull kataRuntimeName password specs call outline)
    (message : String) :
    (orFail call message).Simulates (InFull kataRuntimeName password specs) Reply.view (SameOutcome Eq)
      (AppSalmon.orFail outline message) := by
  refine .request inFull fun reply => ?_
  cases reply with
  | notFound | refused => exact .ready (.error _)
  | done | inspected => exact .ready (.ok rfl)

theorem poll_simulates {handle : String} {requiresHealthcheck : Bool} {later : Exchange (Except ClusterError (Option UInt16))}
    {outline : External (Except ClusterError (Option UInt16))}
    (goesOn : later.Simulates (InFull kataRuntimeName password specs) Reply.view (SameOutcome Eq) outline) :
    ((viaDocker (BollardContainerRuntime.inspect handle)).andThen fun status =>
      match HealthWait.decide handle requiresHealthcheck status with
      | some result => .ready result
      | none => later).Simulates (InFull kataRuntimeName password specs) Reply.view (SameOutcome Eq)
      ((AppSalmon.viaDocker (AppSalmon.BollardContainerRuntime.inspect handle)).andThen fun status =>
        match HealthWait.decide handle requiresHealthcheck status with
        | some result => .ready result
        | none => outline) := by
  apply (inspect_simulates handle).andThen
  rintro status _ rfl
  cases HealthWait.decide handle requiresHealthcheck status with
  | some result =>
    cases result with
    | ok value => exact .ready (.ok rfl)
    | error error => exact .ready (.error error)
  | none => exact goesOn

theorem waitUntilHealthy_simulates (handle : String) (timeoutSecs : UInt64) (requiresHealthcheck : Bool) (polls : Nat) :
    (HealthWait.waitUntilHealthy handle timeoutSecs requiresHealthcheck polls).Simulates (InFull kataRuntimeName password specs)
      Reply.view (SameOutcome Eq) (AppSalmon.HealthWait.waitUntilHealthy handle timeoutSecs requiresHealthcheck polls) := by
  induction polls with
  | zero => exact poll_simulates (.ready (.error _))
  | succ polls ih => exact poll_simulates (.request .sleep fun _ => ih)

/-! ### Postgres -/

theorem waitUntilReady_simulates (provision : Provision) (handle : String) :
    (PostgresBackend.waitUntilReady provision handle).Simulates (InFull kataRuntimeName password specs) Reply.view
      (SameOutcome Eq) (AppSalmon.PostgresBackend.waitUntilReady provision.toSpawnParams handle) := by
  apply (waitUntilHealthy_simulates _ _ _ _).map
  intro left right same
  cases same with
  | error error => exact .error error
  | @ok published _ related =>
    subst related
    cases published with
    | some port => exact .ok rfl
    | none => exact .error _

theorem enablePgvector_simulates (hostPort : UInt16) :
    (PostgresBackend.enablePgvector hostPort password).Simulates (InFull kataRuntimeName password specs) Reply.view
      (SameOutcome Eq) (AppSalmon.PostgresBackend.enablePgvector hostPort) := by
  apply (orFail_simulates (.connect hostPort) _).andThen
  exact fun _ _ _ => orFail_simulates (.execute _) _

theorem postgres_spawn_simulates (provision : Provision) :
    (PostgresBackend.spawn provision).Simulates
      (InFull provision.kataRuntimeName provision.password (provision.specs .postgres)) Reply.view (SameOutcome Eq)
      (AppSalmon.PostgresBackend.spawn provision.toSpawnParams) := by
  apply (createAndStart_simulates (List.mem_singleton_self _)).andThen
  rintro handle _ rfl
  apply (waitUntilReady_simulates provision handle).andThen
  rintro hostPort _ rfl
  split
  · apply (enablePgvector_simulates hostPort).andThen
    exact fun _ _ _ => .ready (.ok rfl)
  · exact .ready (.ok rfl)

end

/-! ### Supabase -/

section
variable {kataRuntimeName password : String} {specs : List ContainerRuntime.ContainerSpec}

theorem writeConfig_simulates (provision : Provision) :
    (SupabaseBackend.writeConfig provision).Simulates (InFull kataRuntimeName password specs) Reply.view (SameOutcome Eq)
      (AppSalmon.SupabaseBackend.writeConfig (SupabaseBackend.generatedConfigDir provision)) := by
  apply (orFail_simulates (.createDirAll _) _).andThen
  intro _ _ _
  apply (orFail_simulates (.write _ List.mem_cons_self) _).andThen
  intro _ _ _
  apply (orFail_simulates (.write _ (List.mem_cons_of_mem _ List.mem_cons_self)) _).andThen
  exact fun _ _ _ => orFail_simulates (.write _ (List.mem_cons_of_mem _ (List.mem_cons_of_mem _ List.mem_cons_self))) _

theorem startAll_simulates (provision : Provision) (kongPort : Option UInt16) {todo : List ContainerRuntime.ContainerSpec}
    (members : ∀ spec ∈ todo, spec ∈ specs) :
    (SupabaseBackend.startAll provision kongPort todo).Simulates (InFull provision.kataRuntimeName password specs) Reply.view
      (SameOutcome Eq) (AppSalmon.SupabaseBackend.startAll provision.toSpawnParams kongPort
        (todo.map ContainerRuntime.ContainerSpec.outline)) := by
  induction todo generalizing kongPort with
  | nil => exact .ready (.ok rfl)
  | cons spec rest ih =>
    apply (createAndStart_simulates (members spec List.mem_cons_self)).andThen
    rintro handle _ rfl
    apply (waitUntilHealthy_simulates _ _ _ _).andThen
    rintro published _ rfl
    exact ih _ fun other later => members other (List.mem_cons_of_mem _ later)

theorem connect_simulates (provision : Provision) (anonKey serviceRoleKey : String) (kongPort : Option UInt16) :
    (SupabaseBackend.connect provision anonKey serviceRoleKey kongPort).Simulates (InFull kataRuntimeName password specs)
      Reply.view (SameOutcome Eq)
      (AppSalmon.SupabaseBackend.connect provision.toSpawnParams anonKey serviceRoleKey kongPort) := by
  cases kongPort with
  | none => exact .ready (.error _)
  | some port =>
    apply (inspect_simulates _).andThen
    rintro status _ rfl
    cases status with
    | exited | notFound => exact .ready (.error _)
    | running published health =>
      cases published with
      | none => exact .ready (.error _)
      | some dbPort => exact .ready (.ok rfl)

theorem removeAll_simulates (names : List String) :
    (SupabaseBackend.removeAll names).Simulates (InFull kataRuntimeName password specs) Reply.view (SameOutcome Eq)
      (AppSalmon.SupabaseBackend.removeAll names) := by
  induction names with
  | nil => exact .ready (.ok rfl)
  | cons name rest ih => exact (stopAndRemove_simulates name).andThen fun _ _ _ => ih

theorem allRunning_simulates (names : List String) :
    (SupabaseBackend.allRunning names).Simulates (InFull kataRuntimeName password specs) Reply.view (SameOutcome Eq)
      (AppSalmon.SupabaseBackend.allRunning names) := by
  induction names with
  | nil => exact .ready (.ok rfl)
  | cons name rest ih =>
    apply (inspect_simulates name).andThen
    rintro status _ rfl
    cases status with
    | running => exact ih
    | exited | notFound => exact .ready (.ok rfl)

end

theorem supabase_spawn_simulates (provision : Provision) :
    (SupabaseBackend.spawn provision).Simulates
      (InFull provision.kataRuntimeName provision.password (provision.specs .supabase)) Reply.view (SameOutcome Eq)
      (AppSalmon.SupabaseBackend.spawn provision.toSpawnParams) := by
  unfold SupabaseBackend.spawn AppSalmon.SupabaseBackend.spawn
  cases anon : provision.signJwt provision.jwtSecret "anon" with
  | error error => exact .ready (.error error)
  | ok anonKey =>
    cases serviceRole : provision.signJwt provision.jwtSecret "service_role" with
    | error error => exact .ready (.error error)
    | ok serviceRoleKey =>
      have made : provision.specs .supabase = SupabaseBackend.specs provision anonKey serviceRoleKey := by
        simp only [Provision.specs, anon, serviceRole]
      rw [made]
      -- the specifications in full have the outlines that the containers are asked for by
      have starts := @startAll_simulates provision.password (SupabaseBackend.specs provision anonKey serviceRoleKey)
        provision none _ fun _ member => member
      rw [SupabaseBackend.outline_specs] at starts
      apply (createNetwork_simulates _).andThen
      intro _ _ _
      apply (writeConfig_simulates provision).andThen
      intro _ _ _
      apply starts.andThen
      rintro kongPort _ rfl
      exact connect_simulates provision anonKey serviceRoleKey kongPort

/-! ### Either of them -/

theorem spawn_simulates (provision : Provision) (kind : AppSalmon.ServiceKind) :
    (ServiceKind.spawn provision kind).Simulates
      (InFull provision.kataRuntimeName provision.password (provision.specs kind)) Reply.view (SameOutcome Eq)
      (kind.spawn provision.toSpawnParams) := by
  cases kind with
  | postgres => exact postgres_spawn_simulates provision
  | supabase => exact supabase_spawn_simulates provision

theorem teardown_simulates (params : SpawnParams) (kind : AppSalmon.ServiceKind) (kataRuntimeName password : String) :
    (ServiceKind.teardown params kind).Simulates (InFull kataRuntimeName password []) Reply.view (SameOutcome Eq)
      (kind.teardown params) := by
  cases kind with
  | postgres => exact stopAndRemove_simulates _
  | supabase =>
    apply (removeAll_simulates _).andThen
    intro _ _ _
    apply (removeNetwork_simulates _).andThen
    exact fun _ _ _ => .request (.removeDirAll _) fun _ => .ready (.ok rfl)

theorem isAlive_simulates (clusterId : String) (kind : AppSalmon.ServiceKind) (kataRuntimeName password : String) :
    (ServiceKind.isAlive clusterId kind).Simulates (InFull kataRuntimeName password []) Reply.view (SameOutcome Eq)
      (kind.isAlive clusterId) := by
  cases kind with
  | postgres =>
    apply (inspect_simulates _).andThen
    rintro status _ rfl
    cases status <;> exact .ready (.ok rfl)
  | supabase => exact allRunning_simulates _

/-- What the backends exchange in full is a course of theirs, message by message: a body for each container in its turn, the
generated files with their contents, and the same result in the end. -/
theorem wire_refines (provision : Provision) (kind : AppSalmon.ServiceKind) :
    Client.Refines (InFull provision.kataRuntimeName provision.password (provision.specs kind)) Reply.view Eq
        (ServiceKind.spawn provision kind) (kind.spawn provision.toSpawnParams) ∧
      Client.Refines (InFull provision.kataRuntimeName provision.password []) Reply.view Eq
        (ServiceKind.teardown provision.toSpawnParams kind) (kind.teardown provision.toSpawnParams) ∧
      Client.Refines (InFull provision.kataRuntimeName provision.password []) Reply.view Eq
        (ServiceKind.isAlive provision.clusterId kind) (kind.isAlive provision.clusterId) := by
  refine ⟨?_, ?_, ?_⟩
  · exact ((spawn_simulates provision kind).mono fun _ _ => sameOutcome_eq).refines
  · exact ((teardown_simulates _ kind _ _).mono fun _ _ => sameOutcome_eq).refines
  · exact ((isAlive_simulates _ kind _ _).mono fun _ _ => sameOutcome_eq).refines

end Wire

end AppSalmon
