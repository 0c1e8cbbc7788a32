import AppSalmon.Ports.Repository
import AppSalmon.Library.SerdeJson

/-! The JSON mirror of a cluster row.

The mirror types keep every secret as plain text. `rfc3339` and the ULID text
are written by other crates: what this module relies on is that each text is
read back as the value it was written from.
-/

set_option autoImplicit false

namespace AppSalmon

open SerdeJson

/-- The texts of instants and identifiers. -/
structure Formats where
  rfc3339 : DateTime → String
  parseRfc3339 : String → Option DateTime
  ulid : ClusterId → String
  parseUlid : String → Except String ClusterId
  reads_instant : ∀ time, parseRfc3339 (rfc3339 time) = some time
  reads_id : ∀ id, parseUlid (ulid id) = .ok id

theorem Formats.ulid_injective (formats : Formats) (first second : ClusterId)
    (same : formats.ulid first = formats.ulid second) : first = second := by
  have left := formats.reads_id first
  rw [same, formats.reads_id second] at left
  exact (Except.ok.inj left).symm

structure PersistedPostgresConnection where
  host : String
  port : UInt16
  dbname : String
  user : String
  password : String

inductive PersistedConnection where
  | postgres (host : String) (port : UInt16) (dbname user password : String)
  | supabase (apiUrl : String) (postgres : PersistedPostgresConnection)
      (anonKey serviceRoleKey jwtSecret : String)

inductive PersistedState where
  | spawning (startedAt : DateTime)
  | ready (readyAt decommissionAt : DateTime) (connection : PersistedConnection)
  | failed (failedAt : DateTime) (errorSummary : String)
  | deleting (deletingSince : DateTime) (reason : DeleteReason)

structure PersistedWorker where
  name : String
  uid : UInt32
  gid : UInt32

structure PersistedCluster where
  service : ServiceSpec
  requestedTtlSecs : Int64
  requestedAt : DateTime
  state : PersistedState
  worker : Option PersistedWorker
  slot : UInt32

/-! ## To and from the live types -/

def PersistedPostgresConnection.ofLive (info : PostgresConnectionInfo) : PersistedPostgresConnection :=
  ⟨info.host, info.port, info.dbname, info.user, info.password.expose⟩

def PersistedPostgresConnection.live (saved : PersistedPostgresConnection) : PostgresConnectionInfo :=
  ⟨saved.host, saved.port, saved.dbname, saved.user, ⟨saved.password⟩⟩

def PersistedConnection.ofLive : ConnectionInfo → PersistedConnection
  | .postgres info =>
    let saved := PersistedPostgresConnection.ofLive info
    .postgres saved.host saved.port saved.dbname saved.user saved.password
  | .supabase info => .supabase info.apiUrl (.ofLive info.postgres) info.anonKey.expose
      info.serviceRoleKey.expose info.jwtSecret.expose

def PersistedConnection.live : PersistedConnection → ConnectionInfo
  | .postgres host port dbname user password => .postgres ⟨host, port, dbname, user, ⟨password⟩⟩
  | .supabase apiUrl database anonKey serviceRoleKey jwtSecret =>
    .supabase ⟨apiUrl, database.live, ⟨anonKey⟩, ⟨serviceRoleKey⟩, ⟨jwtSecret⟩⟩

def PersistedState.ofLive : ClusterState → PersistedState
  | .spawning startedAt => .spawning startedAt
  | .ready readyAt decommissionAt connection => .ready readyAt decommissionAt (.ofLive connection)
  | .failed failedAt errorSummary => .failed failedAt errorSummary
  | .deleting deletingSince reason => .deleting deletingSince reason

def PersistedState.live : PersistedState → ClusterState
  | .spawning startedAt => .spawning startedAt
  | .ready readyAt decommissionAt connection => .ready readyAt decommissionAt connection.live
  | .failed failedAt errorSummary => .failed failedAt errorSummary
  | .deleting deletingSince reason => .deleting deletingSince reason

def PersistedWorker.ofLive (worker : WorkerUser) : PersistedWorker := ⟨worker.name, worker.uid, worker.gid⟩

def PersistedWorker.live (saved : PersistedWorker) : WorkerUser := ⟨saved.name, saved.uid, saved.gid⟩

def toPersisted (cluster : Cluster) : PersistedCluster where
  service := cluster.service
  requestedTtlSecs := cluster.requestedTtl.numSeconds
  requestedAt := cluster.requestedAt
  state := .ofLive cluster.state
  worker := cluster.worker.map .ofLive
  slot := cluster.slot

@[simp] theorem PersistedConnection.live_ofLive (connection : ConnectionInfo) :
    (PersistedConnection.ofLive connection).live = connection := by
  cases connection <;> rfl

@[simp] theorem PersistedState.live_ofLive (state : ClusterState) :
    (PersistedState.ofLive state).live = state := by
  cases state <;> simp [PersistedState.ofLive, PersistedState.live]

@[simp] theorem PersistedWorker.live_ofLive (worker : WorkerUser) :
    (PersistedWorker.ofLive worker).live = worker := rfl

/-! ## The derived serializers -/

variable (formats : Formats)

def timeToJson (time : DateTime) : Json := .string (formats.rfc3339 time)

def timeOfJson (tree : Json) : Decoded DateTime := do
  match formats.parseRfc3339 (← tree.asString) with
  | some time => .ok time
  | none => .error "premature end of input"

def u16OfJson (tree : Json) : Decoded UInt16 := do
  return UInt16.ofNat (← tree.asInteger 0 (2 ^ 16 - 1)).toNat

def u32OfJson (tree : Json) : Decoded UInt32 := do
  return UInt32.ofNat (← tree.asInteger 0 (2 ^ 32 - 1)).toNat

def i64OfJson (tree : Json) : Decoded Int64 := do
  return Int64.ofInt (← tree.asInteger (-(2 ^ 63)) (2 ^ 63 - 1))

def ServiceKind.toJson : ServiceKind → Json
  | .postgres => .string "postgres"
  | .supabase => .string "supabase"

def ServiceKind.ofJson (tree : Json) : Decoded ServiceKind := do
  variant (← tree.asUnitVariant) [("postgres", .ok .postgres), ("supabase", .ok .supabase)]

def ServiceSpec.toJson (spec : ServiceSpec) : Json :=
  .object [("kind", spec.kind.toJson), ("pgvector", .bool spec.pgvector)]

/-- `pgvector` is `false` when the field is absent. -/
def ServiceSpec.ofJson (tree : Json) : Decoded ServiceSpec := do
  let fields ← tree.asStruct ["kind", "pgvector"]
  let kind ← ServiceKind.ofJson (← field fields "kind")
  match ← optionalField fields "pgvector" with
  | some pgvector => return ⟨kind, ← pgvector.asBool⟩
  | none => return ⟨kind, false⟩

def DeleteReason.toJson : DeleteReason → Json
  | .userRequested => .string "user_requested"
  | .ttlExpired => .string "ttl_expired"
  | .spawnFailed => .string "spawn_failed"
  | .adminForced => .string "admin_forced"

/-- It stands within a state, which is read from a buffer. -/
def DeleteReason.ofJson (tree : Json) : Decoded DeleteReason := do
  variant (← tree.asBufferedUnitVariant) [("user_requested", .ok .userRequested), ("ttl_expired", .ok .ttlExpired),
    ("spawn_failed", .ok .spawnFailed), ("admin_forced", .ok .adminForced)]

def PersistedPostgresConnection.fields (saved : PersistedPostgresConnection) : Fields :=
  [("host", .string saved.host), ("port", .integer saved.port.toNat), ("dbname", .string saved.dbname),
    ("user", .string saved.user), ("password", .string saved.password)]

def PersistedPostgresConnection.ofJson (tree : Json) : Decoded PersistedPostgresConnection := do
  let fields ← tree.asStruct ["host", "port", "dbname", "user", "password"]
  let host ← (← field fields "host").asString
  let port ← u16OfJson (← field fields "port")
  let dbname ← (← field fields "dbname").asString
  let user ← (← field fields "user").asString
  let password ← (← field fields "password").asString
  return ⟨host, port, dbname, user, password⟩

/-- The variant's name stands in the field `kind`, beside the variant's own fields. -/
def PersistedConnection.toJson : PersistedConnection → Json
  | .postgres host port dbname user password => .object
      (("kind", .string "postgres") ::
        PersistedPostgresConnection.fields ⟨host, port, dbname, user, password⟩)
  | .supabase apiUrl database anonKey serviceRoleKey jwtSecret => .object
      [("kind", .string "supabase"), ("api_url", .string apiUrl), ("postgres", .object database.fields),
        ("anon_key", .string anonKey), ("service_role_key", .string serviceRoleKey),
        ("jwt_secret", .string jwtSecret)]

def PersistedConnection.ofContent (content : Json) (name : String) : Decoded PersistedConnection :=
  variant name [
    ("postgres", do
      let saved ← PersistedPostgresConnection.ofJson content
      return .postgres saved.host saved.port saved.dbname saved.user saved.password),
    ("supabase", do
      let fields ← content.asStruct ["api_url", "postgres", "anon_key", "service_role_key", "jwt_secret"]
      let apiUrl ← (← field fields "api_url").asString
      let database ← PersistedPostgresConnection.ofJson (← field fields "postgres")
      let anonKey ← (← field fields "anon_key").asString
      let serviceRoleKey ← (← field fields "service_role_key").asString
      let jwtSecret ← (← field fields "jwt_secret").asString
      return .supabase apiUrl database anonKey serviceRoleKey jwtSecret)]

/-- It stands within a state, which is read from a buffer. -/
def PersistedConnection.ofJson (tree : Json) : Decoded PersistedConnection := do
  let (tag, content) ← tree.asTagged "kind"
  PersistedConnection.ofContent content (← tag.asBufferedTag ["postgres", "supabase"])

/-- The variant's name stands in the field `status`. -/
def PersistedState.toJson : PersistedState → Json
  | .spawning startedAt => .object
      [("status", .string "spawning"), ("started_at", timeToJson formats startedAt)]
  | .ready readyAt decommissionAt connection => .object
      [("status", .string "ready"), ("ready_at", timeToJson formats readyAt),
        ("decommission_at", timeToJson formats decommissionAt), ("connection", connection.toJson)]
  | .failed failedAt errorSummary => .object
      [("status", .string "failed"), ("failed_at", timeToJson formats failedAt),
        ("error_summary", .string errorSummary)]
  | .deleting deletingSince reason => .object
      [("status", .string "deleting"), ("deleting_since", timeToJson formats deletingSince),
        ("reason", reason.toJson)]

def PersistedState.ofContent (content : Json) (name : String) : Decoded PersistedState :=
  variant name [
    ("spawning", do
      let fields ← content.asStruct ["started_at"]
      return .spawning (← timeOfJson formats (← field fields "started_at"))),
    ("ready", do
      let fields ← content.asStruct ["ready_at", "decommission_at", "connection"]
      let readyAt ← timeOfJson formats (← field fields "ready_at")
      let decommissionAt ← timeOfJson formats (← field fields "decommission_at")
      return .ready readyAt decommissionAt (← PersistedConnection.ofJson (← field fields "connection"))),
    ("failed", do
      let fields ← content.asStruct ["failed_at", "error_summary"]
      let failedAt ← timeOfJson formats (← field fields "failed_at")
      return .failed failedAt (← (← field fields "error_summary").asString)),
    ("deleting", do
      let fields ← content.asStruct ["deleting_since", "reason"]
      let deletingSince ← timeOfJson formats (← field fields "deleting_since")
      return .deleting deletingSince (← DeleteReason.ofJson (← field fields "reason")))]

def PersistedState.ofJson (tree : Json) : Decoded PersistedState := do
  let (tag, content) ← tree.asTagged "status"
  PersistedState.ofContent formats content (← tag.asString)

def PersistedWorker.toJson (saved : PersistedWorker) : Json :=
  .object [("name", .string saved.name), ("uid", .integer saved.uid.toNat), ("gid", .integer saved.gid.toNat)]

def PersistedWorker.ofJson (tree : Json) : Decoded PersistedWorker := do
  let fields ← tree.asStruct ["name", "uid", "gid"]
  let name ← (← field fields "name").asString
  let uid ← u32OfJson (← field fields "uid")
  let gid ← u32OfJson (← field fields "gid")
  return ⟨name, uid, gid⟩

def PersistedCluster.toJson (saved : PersistedCluster) : Json :=
  .object [("service", saved.service.toJson), ("requested_ttl_secs", .integer saved.requestedTtlSecs.toInt),
    ("requested_at", timeToJson formats saved.requestedAt), ("state", saved.state.toJson formats),
    ("worker", ofOption PersistedWorker.toJson saved.worker), ("slot", .integer saved.slot.toNat)]

def PersistedCluster.ofJson (tree : Json) : Decoded PersistedCluster := do
  let fields ← tree.asStruct ["service", "requested_ttl_secs", "requested_at", "state", "worker", "slot"]
  let service ← ServiceSpec.ofJson (← field fields "service")
  let requestedTtlSecs ← i64OfJson (← field fields "requested_ttl_secs")
  let requestedAt ← timeOfJson formats (← field fields "requested_at")
  let state ← PersistedState.ofJson formats (← field fields "state")
  let worker ← optional PersistedWorker.ofJson (← optionalField fields "worker")
  let slot ← u32OfJson (← field fields "slot")
  return ⟨service, requestedTtlSecs, requestedAt, state, worker, slot⟩

/-- `serde_json::from_str::<PersistedCluster>`. -/
def readPersisted (text : Text) : Decoded PersistedCluster := do
  PersistedCluster.ofJson formats (← text.tree)

/-- `serde_json::to_string` of a mirror, which cannot fail on these types. -/
def writePersisted (saved : PersistedCluster) : Text := .parsed (saved.toJson formats)

/-! ## Reading back what was written -/

@[simp] theorem timeOfJson_timeToJson (time : DateTime) :
    timeOfJson formats (timeToJson formats time) = .ok time := by
  simp [timeOfJson, timeToJson, formats.reads_instant, bind, Except.bind]

@[simp] theorem u16OfJson_integer (value : UInt16) : u16OfJson (.integer value.toNat) = .ok value := by
  have bound := value.toNat_lt
  rw [u16OfJson, asInteger_integer (by omega) (by omega)]
  simp [bind, Except.bind, pure, Except.pure]

@[simp] theorem u32OfJson_integer (value : UInt32) : u32OfJson (.integer value.toNat) = .ok value := by
  have bound := value.toNat_lt
  rw [u32OfJson, asInteger_integer (by omega) (by omega)]
  simp [bind, Except.bind, pure, Except.pure]

@[simp] theorem i64OfJson_integer (value : Int64) : i64OfJson (.integer value.toInt) = .ok value := by
  have above := value.le_toInt
  have below := value.toInt_lt
  rw [i64OfJson, asInteger_integer (by omega) (by omega)]
  simp [bind, Except.bind, pure, Except.pure]

@[simp] theorem ServiceSpec.ofJson_toJson (spec : ServiceSpec) : ServiceSpec.ofJson spec.toJson = .ok spec := by
  obtain ⟨kind, pgvector⟩ := spec
  cases kind <;> rfl

@[simp] theorem DeleteReason.ofJson_toJson (reason : DeleteReason) :
    DeleteReason.ofJson reason.toJson = .ok reason := by
  cases reason <;> rfl

@[simp] theorem PersistedPostgresConnection.ofJson_fields (saved : PersistedPostgresConnection) :
    ofJson (.object saved.fields) = .ok saved := by
  simp [ofJson, PersistedPostgresConnection.fields, field, optionalField, bind, Except.bind, pure, Except.pure]

@[simp] theorem PersistedConnection.ofJson_toJson (connection : PersistedConnection) :
    PersistedConnection.ofJson connection.toJson = .ok connection := by
  cases connection with
  | postgres host port dbname user password =>
    have tagged : (toJson (.postgres host port dbname user password)).asTagged "kind" =
        .ok (.string "postgres", .object (PersistedPostgresConnection.fields ⟨host, port, dbname, user, password⟩)) := rfl
    simp [PersistedConnection.ofJson, PersistedConnection.ofContent, variant, tagged, bind, Except.bind, pure, Except.pure]
  | supabase apiUrl database anonKey serviceRoleKey jwtSecret =>
    simp [PersistedConnection.ofJson, PersistedConnection.ofContent, PersistedConnection.toJson, Json.asTagged, variant,
      field, optionalField, bind, Except.bind, pure, Except.pure]

@[simp] theorem PersistedState.ofJson_toJson (state : PersistedState) :
    PersistedState.ofJson formats (state.toJson formats) = .ok state := by
  cases state <;>
    simp [PersistedState.ofJson, PersistedState.ofContent, PersistedState.toJson, Json.asTagged, variant, field,
      optionalField, bind, Except.bind, pure, Except.pure]

@[simp] theorem PersistedWorker.ofJson_toJson (worker : PersistedWorker) :
    PersistedWorker.ofJson worker.toJson = .ok worker := by
  simp [PersistedWorker.ofJson, PersistedWorker.toJson, field, optionalField, bind, Except.bind, pure, Except.pure]

@[simp] theorem PersistedCluster.ofJson_toJson (saved : PersistedCluster) :
    PersistedCluster.ofJson formats (saved.toJson formats) = .ok saved := by
  have worker : optional PersistedWorker.ofJson (some (ofOption PersistedWorker.toJson saved.worker)) =
      .ok saved.worker :=
    optional_ofOption PersistedWorker.ofJson_toJson (by simp [PersistedWorker.toJson]) saved.worker
  simp [PersistedCluster.ofJson, PersistedCluster.toJson, field, optionalField, worker, bind, Except.bind, pure,
    Except.pure]

@[simp] theorem readPersisted_writePersisted (saved : PersistedCluster) :
    readPersisted formats (writePersisted formats saved) = .ok saved := by
  simp [readPersisted, writePersisted, Text.tree, bind, Except.bind]

end AppSalmon
