import AppSalmon.Adapters.DaemonReading
import AppSalmon.Backends.Wire

/-! What the containers of a cluster can reach.

Each body that a spawn sends is judged as the daemon reads it: whom the
container runs as, what it mounts, where its port can be dialled.
-/

set_option autoImplicit false

namespace AppSalmon.Wire

open Cancellation (Client)
open ContainerRuntime (BindMount)
open Daemon (Legible)

variable {provision : Provision} {kind : AppSalmon.ServiceKind} {spec : ContainerRuntime.ContainerSpec}
  {anonKey serviceRoleKey : String}

/-! ## The specifications -/

/-- The containers of a Supabase cluster, where its keys are signed. -/
theorem mem_supabase_specs (member : spec ∈ provision.specs .supabase) :
    ∃ anonKey serviceRoleKey, spec ∈ SupabaseBackend.specs provision anonKey serviceRoleKey := by
  simp only [Provision.specs] at member
  split at member
  · next anonKey serviceRoleKey _ _ => exact ⟨anonKey, serviceRoleKey, member⟩
  · cases member
  · cases member

theorem display_toList (path : UnixPath.Path) : (display path).toList = path := String.toList_ofList

/-- All but the paths of the host is cut where it is to be. -/
structure Regular (spec : ContainerRuntime.ContainerSpec) : Prop where
  env : ∀ entry ∈ spec.env, '=' ∉ entry.1.toList
  mounts : ∀ bindMount ∈ spec.bindMounts, ':' ∉ bindMount.containerPath.toList
  health : ∀ healthCheck ∈ spec.healthCheck, healthCheck.interval.nanos < 2 ^ 63 ∧ healthCheck.timeout.nanos < 2 ^ 63

theorem supabase_regular (member : spec ∈ SupabaseBackend.specs provision anonKey serviceRoleKey) : Regular spec := by
  simp only [SupabaseBackend.specs, SupabaseBackend.buildSpecs, List.mem_cons, List.not_mem_nil, or_false] at member
  constructor
  · rcases member with rfl | rfl | rfl | rfl | rfl <;>
      simp [SupabaseBackend.dbSpec, SupabaseBackend.restSpec, SupabaseBackend.authSpec, SupabaseBackend.kongSpec,
        SupabaseBackend.functionsSpec]
  · rcases member with rfl | rfl | rfl | rfl | rfl <;>
      simp [SupabaseBackend.dbSpec, SupabaseBackend.restSpec, SupabaseBackend.authSpec, SupabaseBackend.kongSpec,
        SupabaseBackend.functionsSpec, SupabaseBackend.functionsContainerPath]
  · rcases member with rfl | rfl | rfl | rfl | rfl <;>
      simp [SupabaseBackend.dbSpec, SupabaseBackend.restSpec, SupabaseBackend.authSpec, SupabaseBackend.kongSpec,
        SupabaseBackend.functionsSpec, SupabaseBackend.healthCheck, Duration.fromSecs]

theorem specs_regular (member : spec ∈ provision.specs kind) : Regular spec := by
  cases kind with
  | postgres =>
    obtain rfl := List.mem_singleton.mp member
    constructor
    · simp [PostgresBackend.containerSpec]
    · simp [PostgresBackend.containerSpec]
    · simp [PostgresBackend.containerSpec, PostgresBackend.healthcheckInterval, PostgresBackend.healthcheckProbeTimeout,
        Duration.fromSecs]
  | supabase =>
    obtain ⟨anonKey, serviceRoleKey, inside⟩ := mem_supabase_specs member
    exact supabase_regular inside

/-- A container that runs and is healthy, with no port. -/
def healthy : Engine.ContainerInspectResponse := ⟨some ⟨some true, none, some (some .healthy)⟩, none⟩

/-- The file of a slot, within the directory of its account. -/
def slotName (slot : UInt32) : UnixPath.Name := ("slot-" ++ toString slot.toNat).toList

/-- A cluster among those that `main` keeps at one place. -/
structure Deployed (storage : UnixPath.Path) (texts : IdTexts) (id : ClusterId) (provision : Provision) : Prop where
  clusterId : provision.clusterId = texts.text id
  workers : provision.workerDataDirBase = UnixPath.join storage "workers".toList
  config : provision.generatedConfigDirBase = UnixPath.join storage "kong-config".toList
  account : UnixPath.Plain provision.worker.name.toList
  /-- An account of the passwd file, whose entries are cut at their colons. -/
  cut : ':' ∉ provision.worker.name.toList

theorem colon_not_mem_slotName (slot : UInt32) : ':' ∉ slotName slot := by
  have digits : slotName slot = "slot-".toList ++ Nat.toDigits 10 slot.toNat := by
    simp [slotName, String.toList_append, Nat.toString_eq_repr, Nat.toList_repr]
  rw [digits, List.mem_append, not_or]
  exact ⟨by decide, not_mem_toDigits (by decide)⟩

section
variable {storage path : UnixPath.Path} {texts : IdTexts} {id other : ClusterId} {container : Daemon.Container}

def configNames (texts : IdTexts) (id : ClusterId) : List UnixPath.Name := ["kong-config".toList, (texts.text id).toList]

def slotNames (provision : Provision) : List UnixPath.Name :=
  ["workers".toList, provision.worker.name.toList, slotName provision.slot]

theorem configPath_eq (deployed : Deployed storage texts id provision) (file : String) :
    SupabaseBackend.configPath provision file = UnixPath.pushAll storage (configNames texts id ++ [file.toList]) := by
  rw [SupabaseBackend.configPath, SupabaseBackend.generatedConfigDir, AppSalmon.SupabaseBackend.configDir, deployed.clusterId,
    deployed.config]
  rfl

theorem workerDataDir_pushAll (deployed : Deployed storage texts id provision) :
    workerDataDir provision.workerDataDirBase provision.worker provision.slot = UnixPath.pushAll storage (slotNames provision) := by
  rw [workerDataDir, deployed.workers]
  rfl

variable {otherProvision : Provision} {otherKind : AppSalmon.ServiceKind} {otherPath : UnixPath.Path}
  {otherContainer : Daemon.Container}

theorem Deployed.config_plain (deployed : Deployed storage texts id provision) (cut : ':' ∉ storage) {file : String}
    (generated : file ∈ configFiles.map Prod.fst) : ':' ∉ SupabaseBackend.configPath provision file := by
  have each : ∀ file ∈ configFiles.map Prod.fst, ':' ∉ file.toList := by decide
  rw [configPath_eq deployed]
  intro colon
  rcases UnixPath.mem_pushAll colon with inside | slash | ⟨name, here, inside⟩
  · exact cut inside
  · cases slash
  · simp only [configNames, List.cons_append, List.nil_append, List.mem_cons, List.not_mem_nil, or_false] at here
    rcases here with rfl | rfl | rfl
    · revert inside
      decide
    · have letter := texts.alphanumeric id _ inside
      revert letter
      decide
    · exact each file generated inside

theorem Deployed.slot_plain (deployed : Deployed storage texts id provision) (cut : ':' ∉ storage)
    {below : List UnixPath.Name} (plain : ∀ name ∈ below, ':' ∉ name) :
    ':' ∉ UnixPath.pushAll (workerDataDir provision.workerDataDirBase provision.worker provision.slot) below := by
  intro colon
  rcases UnixPath.mem_pushAll colon with inside | slash | ⟨name, here, inside⟩
  · rw [workerDataDir_pushAll deployed] at inside
    rcases UnixPath.mem_pushAll inside with inside | slash | ⟨name, here, inside⟩
    · exact cut inside
    · cases slash
    · simp only [slotNames, List.mem_cons, List.not_mem_nil, or_false] at here
      rcases here with rfl | rfl | rfl
      · revert inside
        decide
      · exact deployed.cut inside
      · exact colon_not_mem_slotName _ inside
  · cases slash
  · exact plain name here inside

/-- Where the place of the storage has no colon, no path that is mounted has one. -/
theorem Deployed.plain (deployed : Deployed storage texts id provision) (cut : ':' ∉ storage)
    (member : spec ∈ provision.specs kind) : ∀ bindMount ∈ spec.bindMounts, ':' ∉ bindMount.hostPath.toList := by
  cases kind with
  | postgres =>
    obtain rfl := List.mem_singleton.mp member
    intro bindMount mounted
    obtain rfl := List.mem_singleton.mp mounted
    rw [display_toList]
    exact deployed.slot_plain cut (List.forall_mem_nil _)
  | supabase =>
    obtain ⟨anonKey, serviceRoleKey, inside⟩ := mem_supabase_specs member
    simp only [SupabaseBackend.specs, SupabaseBackend.buildSpecs, List.mem_cons, List.not_mem_nil, or_false] at inside
    intro bindMount mounted
    rcases inside with rfl | rfl | rfl | rfl | rfl
    · rcases List.mem_cons.mp mounted with rfl | later
      · exact (display_toList _).symm ▸ deployed.config_plain cut (by decide)
      · obtain rfl := List.mem_singleton.mp later
        exact (display_toList _).symm ▸ deployed.config_plain cut (by decide)
    · cases mounted
    · cases mounted
    · obtain rfl := List.mem_singleton.mp mounted
      exact (display_toList _).symm ▸ deployed.config_plain cut (by decide)
    · obtain rfl := List.mem_singleton.mp mounted
      have functions : ∀ name ∈ [SupabaseBackend.projectSubdir.toList, "functions".toList], ':' ∉ name := by decide
      exact (display_toList _).symm ▸ deployed.slot_plain cut functions

end

/-- A cluster in the first slot of an account. -/
def smallProvision (account : String) (id : ClusterId) : Provision where
  toSpawnParams := { smallParams with
    clusterId := ulidTexts.text id
    generatedConfigDirBase := UnixPath.join "/srv".toList "kong-config".toList }
  worker := ⟨account, 1000, 1000⟩
  slot := 0
  workerDataDirBase := UnixPath.join "/srv".toList "workers".toList
  postgresImage := "pgvector/pgvector:pg16"
  supabaseImages := ⟨"supabase/postgres", "postgrest/postgrest", "supabase/gotrue", "kong/kong", "supabase/edge-runtime"⟩
  kataRuntimeName := "kata"

end AppSalmon.Wire
