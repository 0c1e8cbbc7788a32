import AppSalmon.Backends.Confinement

/-! Where the secrets of a cluster go.

Two spawns that differ in nothing but their secrets are compared: what they send
differs in the values of a few variables and in the connection string only.
-/

set_option autoImplicit false

namespace AppSalmon.Wire

open Cancellation (Client SameOutcome)
open AppSalmon.BollardContainerRuntime (containerCreateBody)

/-- The same cluster with other secrets, and other keys signed with them. -/
def Provision.withSecrets (provision : Provision) (password jwtSecret : String)
    (signJwt : String → String → Except ClusterError String) : Provision :=
  { provision with password := password, jwtSecret := jwtSecret, signJwt := signJwt }

/-! ## What may differ -/

/-- The variables whose values hold a secret. -/
def secretNames : List String :=
  ["POSTGRES_PASSWORD", "JWT_SECRET", "PGRST_DB_URI", "PGRST_JWT_SECRET", "GOTRUE_DB_DATABASE_URL", "GOTRUE_JWT_SECRET",
    "SUPABASE_ANON_KEY", "SUPABASE_SERVICE_KEY", "SUPABASE_SERVICE_ROLE_KEY", "SUPABASE_DB_URL"]

/-- A variable of a body, without its value if that is a secret. -/
def maskVariable (text : String) : String :=
  match Header.splitOnce '=' text.toList with
  | some (name, _) => if String.ofList name ∈ secretNames then String.ofList name else text
  | none => text

def maskBody (body : Engine.ContainerCreateBody) : Engine.ContainerCreateBody :=
  { body with env := body.env.map fun texts => texts.map maskVariable }

/-- The same message, but for secrets. -/
inductive Alike (password otherPassword : String) : Call → Call → Prop where
  | same (call : Call) : Alike password otherPassword call call
  | createContainer (name : String) {body other : Engine.ContainerCreateBody} (masked : maskBody body = maskBody other) :
      Alike password otherPassword (.createContainer name body) (.createContainer name other)
  | connect (port : UInt16) :
      Alike password otherPassword (.connect (PostgresBackend.connectConfig port password))
        (.connect (PostgresBackend.connectConfig port otherPassword))

/-- What a connection says apart from its secrets. -/
def maskConnection : ConnectionInfo → ConnectionInfo
  | .postgres info => .postgres { info with password := ⟨""⟩ }
  | .supabase info => .supabase { info with
      postgres := { info.postgres with password := ⟨""⟩ }
      anonKey := ⟨""⟩
      serviceRoleKey := ⟨""⟩
      jwtSecret := ⟨""⟩ }

def AlikeConnections (first second : ConnectionInfo) : Prop := maskConnection first = maskConnection second

/-! ## The bodies -/

def maskEntry (entry : String × String) : String :=
  if entry.1 ∈ secretNames then entry.1 else entry.1 ++ "=" ++ entry.2

/-- Specifications that differ in secret variables only. -/
structure AlikeSpecs (spec other : ContainerRuntime.ContainerSpec) : Prop where
  env : spec.env.map maskEntry = other.env.map maskEntry
  rest : { spec with env := [] } = { other with env := [] }

variable {spec other : ContainerRuntime.ContainerSpec}

theorem maskVariable_entry {entry : String × String} (plain : '=' ∉ entry.1.toList) :
    maskVariable (entry.1 ++ "=" ++ entry.2) = maskEntry entry := by
  have cut : Header.splitOnce '=' (entry.1 ++ "=" ++ entry.2).toList = some (entry.1.toList, entry.2.toList) := by
    rw [Header.splitOnce_eq_some]
    exact ⟨by simp [String.toList_append], plain⟩
  simp only [maskVariable, cut, String.ofList_toList, maskEntry]

theorem maskBody_env (regular : Regular spec) (kataRuntimeName : String) :
    (maskBody (containerCreateBody spec kataRuntimeName)).env =
      if spec.env.map maskEntry = [] then none else some (spec.env.map maskEntry) := by
  have each : (spec.env.map fun entry => entry.1 ++ "=" ++ entry.2).map maskVariable = spec.env.map maskEntry := by
    rw [List.map_map]
    exact List.map_congr_left fun entry member => maskVariable_entry (regular.env entry member)
  simp only [maskBody, containerCreateBody, List.map_eq_nil_iff]
  split
  · rfl
  · rw [Option.map_some, each]

theorem AlikeSpecs.bodies (alike : AlikeSpecs spec other) (regular : Regular spec) (otherRegular : Regular other)
    (kataRuntimeName : String) :
    maskBody (containerCreateBody spec kataRuntimeName) = maskBody (containerCreateBody other kataRuntimeName) := by
  have env : (maskBody (containerCreateBody spec kataRuntimeName)).env =
      (maskBody (containerCreateBody other kataRuntimeName)).env := by
    rw [maskBody_env regular, maskBody_env otherRegular, alike.env]
  have rest : { maskBody (containerCreateBody spec kataRuntimeName) with env := none } =
      { maskBody (containerCreateBody other kataRuntimeName) with env := none } :=
    congrArg (fun spec => { maskBody (containerCreateBody spec kataRuntimeName) with env := none }) alike.rest
  cases first : maskBody (containerCreateBody spec kataRuntimeName)
  cases second : maskBody (containerCreateBody other kataRuntimeName)
  rw [first, second] at env rest
  simp only [Engine.ContainerCreateBody.mk.injEq, true_and] at rest ⊢
  exact ⟨rest.1, env, rest.2⟩

theorem AlikeSpecs.name (alike : AlikeSpecs spec other) : spec.name = other.name := by
  have named := congrArg ContainerRuntime.ContainerSpec.name alike.rest
  exact named

theorem AlikeSpecs.healthCheck (alike : AlikeSpecs spec other) : spec.healthCheck = other.healthCheck := by
  have checked := congrArg ContainerRuntime.ContainerSpec.healthCheck alike.rest
  exact checked

variable (provision : Provision) (password jwtSecret : String) (signJwt : String → String → Except ClusterError String)

theorem postgres_alike : AlikeSpecs (PostgresBackend.containerSpec provision)
    (PostgresBackend.containerSpec (provision.withSecrets password jwtSecret signJwt)) := by
  constructor
  · simp [PostgresBackend.containerSpec, maskEntry, secretNames, Provision.withSecrets]
  · rfl

theorem supabase_alike (anonKey serviceRoleKey otherAnonKey otherServiceRoleKey : String) :
    List.Forall₂ AlikeSpecs (SupabaseBackend.specs provision anonKey serviceRoleKey)
      (SupabaseBackend.specs (provision.withSecrets password jwtSecret signJwt) otherAnonKey otherServiceRoleKey) := by
  refine .cons ⟨?_, rfl⟩ (.cons ⟨?_, rfl⟩ (.cons ⟨?_, rfl⟩ (.cons ⟨?_, rfl⟩ (.cons ⟨?_, rfl⟩ .nil))))
  all_goals
    simp [SupabaseBackend.dbSpec, SupabaseBackend.restSpec, SupabaseBackend.authSpec, SupabaseBackend.kongSpec,
      SupabaseBackend.functionsSpec, maskEntry, secretNames, Provision.withSecrets]

/-! ## Side by side -/

section
variable {provision password jwtSecret signJwt} {α : Type} {firstPassword secondPassword : String} {kataRuntimeName : String}

theorem same_outcome (result : Except ClusterError α) : SameOutcome Eq result result := by
  cases result with
  | ok value => exact .ok rfl
  | error error => exact .error error

/-- What is sent without secrets is sent alike. -/
theorem simulates_same (client : Exchange (Except ClusterError α)) :
    client.Simulates (Alike firstPassword secondPassword) id (SameOutcome Eq) client :=
  Client.simulates_self .same same_outcome client

theorem createAndStart_alike (named : spec.name = other.name)
    (masked : maskBody (containerCreateBody spec kataRuntimeName) = maskBody (containerCreateBody other kataRuntimeName)) :
    (viaDocker (BollardContainerRuntime.createAndStart kataRuntimeName spec)).Simulates (Alike firstPassword secondPassword) id
      (SameOutcome Eq) (viaDocker (BollardContainerRuntime.createAndStart kataRuntimeName other)) := by
  rw [BollardContainerRuntime.createAndStart, BollardContainerRuntime.createAndStart, named]
  refine .request (.createContainer _ masked) fun created => ?_
  exact simulates_same _

theorem AlikeSpecs.createAndStart (alike : AlikeSpecs spec other) (regular : Regular spec) (otherRegular : Regular other) :
    (viaDocker (BollardContainerRuntime.createAndStart kataRuntimeName spec)).Simulates (Alike firstPassword secondPassword) id
      (SameOutcome Eq) (viaDocker (BollardContainerRuntime.createAndStart kataRuntimeName other)) :=
  createAndStart_alike alike.name (alike.bodies regular otherRegular _)

theorem enablePgvector_alike (hostPort : UInt16) :
    (PostgresBackend.enablePgvector hostPort firstPassword).Simulates (Alike firstPassword secondPassword) id (SameOutcome Eq)
      (PostgresBackend.enablePgvector hostPort secondPassword) := by
  refine .request (.connect hostPort) fun reply => ?_
  exact simulates_same _

theorem postgres_regular (provision : Provision) : Regular (PostgresBackend.containerSpec provision) := by
  have member : PostgresBackend.containerSpec provision ∈ provision.specs .postgres := List.mem_singleton_self _
  exact specs_regular member

theorem postgres_spawn_alike :
    (PostgresBackend.spawn provision).Simulates (Alike provision.password password) id (SameOutcome AlikeConnections)
      (PostgresBackend.spawn (provision.withSecrets password jwtSecret signJwt)) := by
  apply ((postgres_alike provision password jwtSecret signJwt).createAndStart (postgres_regular _) (postgres_regular _)).andThen
  rintro handle _ rfl
  apply (simulates_same _).andThen
  rintro hostPort _ rfl
  have asked : (provision.withSecrets password jwtSecret signJwt).pgvector = provision.pgvector := rfl
  rw [asked]
  split
  · apply (enablePgvector_alike hostPort).andThen
    exact fun _ _ _ => .ready (.ok rfl)
  · exact .ready (.ok rfl)

theorem startAll_alike {todo others : List ContainerRuntime.ContainerSpec} (alike : List.Forall₂ AlikeSpecs todo others)
    (regular : ∀ spec ∈ todo, Regular spec) (otherRegular : ∀ spec ∈ others, Regular spec) (kongPort : Option UInt16) :
    (SupabaseBackend.startAll provision kongPort todo).Simulates (Alike firstPassword secondPassword) id (SameOutcome Eq)
      (SupabaseBackend.startAll (provision.withSecrets password jwtSecret signJwt) kongPort others) := by
  induction alike generalizing kongPort with
  | nil => exact .ready (.ok rfl)
  | @cons spec other rest others first _ ih =>
    apply (first.createAndStart (regular spec List.mem_cons_self) (otherRegular other List.mem_cons_self)).andThen
    rintro handle _ rfl
    rw [first.healthCheck]
    apply (simulates_same _).andThen
    rintro published _ rfl
    rw [first.name]
    exact ih (fun _ later => regular _ (List.mem_cons_of_mem _ later)) (fun _ later => otherRegular _ (List.mem_cons_of_mem _ later)) _

theorem connect_alike (anonKey serviceRoleKey otherAnonKey otherServiceRoleKey : String) (kongPort : Option UInt16) :
    (SupabaseBackend.connect provision anonKey serviceRoleKey kongPort).Simulates (Alike firstPassword secondPassword) id
      (SameOutcome AlikeConnections)
      (SupabaseBackend.connect (provision.withSecrets password jwtSecret signJwt) otherAnonKey otherServiceRoleKey kongPort) := by
  cases kongPort with
  | none => exact .ready (.error _)
  | some port =>
    apply (simulates_same _).andThen
    rintro status _ rfl
    cases status with
    | exited | notFound => exact .ready (.error _)
    | running published health =>
      cases published with
      | none => exact .ready (.error _)
      | some dbPort => exact .ready (.ok rfl)

theorem supabase_spawn_alike
    (anon : SameOutcome (fun _ _ => True) (provision.signJwt provision.jwtSecret "anon") (signJwt jwtSecret "anon"))
    (serviceRole : SameOutcome (fun _ _ => True) (provision.signJwt provision.jwtSecret "service_role")
      (signJwt jwtSecret "service_role")) :
    (SupabaseBackend.spawn provision).Simulates (Alike provision.password password) id (SameOutcome AlikeConnections)
      (SupabaseBackend.spawn (provision.withSecrets password jwtSecret signJwt)) := by
  have otherAnon : (provision.withSecrets password jwtSecret signJwt).signJwt
      (provision.withSecrets password jwtSecret signJwt).jwtSecret "anon" = signJwt jwtSecret "anon" := rfl
  have otherRole : (provision.withSecrets password jwtSecret signJwt).signJwt
      (provision.withSecrets password jwtSecret signJwt).jwtSecret "service_role" = signJwt jwtSecret "service_role" := rfl
  unfold SupabaseBackend.spawn
  rw [otherAnon, otherRole]
  generalize provision.signJwt provision.jwtSecret "anon" = signed at anon ⊢
  generalize provision.signJwt provision.jwtSecret "service_role" = signedRole at serviceRole ⊢
  generalize signJwt jwtSecret "anon" = otherSigned at anon ⊢
  generalize signJwt jwtSecret "service_role" = otherSignedRole at serviceRole ⊢
  cases anon with
  | error error => exact .ready (.error error)
  | ok =>
    cases serviceRole with
    | error error => exact .ready (.error error)
    | ok =>
      apply (simulates_same _).andThen
      intro _ _ _
      apply (simulates_same _).andThen
      intro _ _ _
      apply (startAll_alike (supabase_alike _ _ _ _ _ _ _ _) (fun _ => supabase_regular) (fun _ => supabase_regular) none).andThen
      rintro kongPort _ rfl
      exact connect_alike _ _ _ _ _

end

/-- A spawn with other secrets, answered in the same way, goes the same way: what it sends differs in the values of the secret
variables and in the connection string, its errors are the same, and its connection differs in the secrets. -/
theorem secrets_confined (provision : Provision) (kind : AppSalmon.ServiceKind) (password jwtSecret : String)
    (signJwt : String → String → Except ClusterError String)
    (anon : SameOutcome (fun _ _ => True) (provision.signJwt provision.jwtSecret "anon") (signJwt jwtSecret "anon"))
    (serviceRole : SameOutcome (fun _ _ => True) (provision.signJwt provision.jwtSecret "service_role")
      (signJwt jwtSecret "service_role")) :
    Client.Refines (Alike provision.password password) id (SameOutcome AlikeConnections) (ServiceKind.spawn provision kind)
      (ServiceKind.spawn (provision.withSecrets password jwtSecret signJwt) kind) := by
  cases kind with
  | postgres => exact postgres_spawn_alike.refines
  | supabase => exact (supabase_spawn_alike anon serviceRole).refines

/-- The container that a small Postgres cluster asks for. -/
def smallBody : Engine.ContainerCreateBody :=
  containerCreateBody (PostgresBackend.containerSpec (smallProvision "alice" ⟨1⟩)) "kata"

/-- The body holds the password, and with another password another body goes out that differs in nothing else. -/
theorem small_secrets_confined : smallBody.env.any ("POSTGRES_PASSWORD=secret" ∈ ·) = true ∧ ∃ others other,
    (ServiceKind.spawn ((smallProvision "alice" ⟨1⟩).withSecrets "other" "other" fun secret _ => .ok secret) .postgres).Awaits
      others other ∧
      Alike "secret" "other" (.createContainer "app-salmon-00000000000000000000000001" smallBody) other := by
  have name : (PostgresBackend.containerSpec (smallProvision "alice" ⟨1⟩)).name = "app-salmon-00000000000000000000000001" := by
    decide +kernel
  have refines := secrets_confined (smallProvision "alice" ⟨1⟩) .postgres "other" "other" (fun secret _ => .ok secret)
    (.ok trivial) (.ok trivial)
  obtain ⟨others, other, awaits, alike, -⟩ := refines.awaits [] _ .here
  rw [← name]
  exact ⟨by decide +kernel, others, other, awaits, alike⟩

end AppSalmon.Wire
