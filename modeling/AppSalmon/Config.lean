import AppSalmon.Domain.Cluster

/-! The configuration and its semantic checks.

Only the fields that the checks or the modelled services read are here: the
limits and the clients.
-/

set_option autoImplicit false

namespace AppSalmon

/-! ## Secret hashes -/

def stripPrefix (lead text : List UInt8) : Option (List UInt8) :=
  if lead <+: text then some (text.drop lead.length) else none

/-- The value of one ASCII hexadecimal digit. -/
def hexDigit (byte : UInt8) : Option UInt8 :=
  if 48 ≤ byte ∧ byte ≤ 57 then some (byte - 48)
  else if 65 ≤ byte ∧ byte ≤ 70 then some (byte - 55)
  else if 97 ≤ byte ∧ byte ≤ 102 then some (byte - 87)
  else none

/-- `u8::from_str_radix` on a chunk of two bytes: a leading plus sign is accepted. A chunk that is no
UTF-8, or a character beyond ASCII, has no digits. -/
def byteOfHex (first second : UInt8) : Option UInt8 :=
  if first = 43 then hexDigit second
  else do
    let high ← hexDigit first
    let low ← hexDigit second
    return 16 * high + low

/-- The chunks of two bytes, each parsed. -/
def bytesOfHex : List UInt8 → Option (List UInt8)
  | first :: second :: rest => do
    let byte ← byteOfHex first second
    let bytes ← bytesOfHex rest
    return byte :: bytes
  | [] => some []
  | [_] => none

structure SecretHash where
  bytes : List UInt8
  size : bytes.length = 32
  deriving DecidableEq

def SecretHash.fromHexWithPrefix (encoded : String) : Option SecretHash := do
  let hex ← stripPrefix "sha256:".toUTF8.toList encoded.toUTF8.toList
  if hex.length ≠ 64 then none
  else
    let parsed ← bytesOfHex hex
    if size : parsed.length = 32 then some ⟨parsed, size⟩ else none

/-! ## The configuration -/

structure LimitsConfig where
  minTtlSecs : Int64
  maxTtlSecs : Int64
  maxClustersPerUser : UInt32
  spawnEstimateSecs : UInt64
  healthCheckTimeoutSecs : UInt64
  ttlReaperIntervalSecs : UInt64
  failedClusterReapDelaySecs : UInt64
  /-- A `usize`, which is 64 bits wide where the program runs. -/
  maxTarBytes : UInt64
  maxTarEntryBytes : UInt64

structure ClientConfig where
  name : String
  secretHash : String
  unixUser : String

structure Config where
  limits : LimitsConfig
  clients : List ClientConfig

inductive ConfigError where
  | invalid (why : String)
  deriving DecidableEq

def malformedHash (client : ClientConfig) : ConfigError :=
  .invalid ("client '" ++ client.name ++ "' has a malformed secret_hash (expected sha256:<64 hex chars>)")

def sharedUser (unixUser : String) : ConfigError :=
  .invalid ("unix_user '" ++ unixUser ++ "' is used by more than one [[clients]] entry — each client " ++
    "must have its own account")

def checkHashes : List ClientConfig → Except ConfigError Unit
  | [] => .ok ()
  | client :: rest =>
    match SecretHash.fromHexWithPrefix client.secretHash with
    | none => .error (malformedHash client)
    | some _ => checkHashes rest

/-- `seen` is the set of accounts met before. -/
def checkUnixUsers (seen : List String) : List ClientConfig → Except ConfigError Unit
  | [] => .ok ()
  | client :: rest =>
    if client.unixUser ∈ seen then .error (sharedUser client.unixUser)
    else checkUnixUsers (client.unixUser :: seen) rest

def LimitsConfig.check (limits : LimitsConfig) : Except ConfigError Unit :=
  if limits.minTtlSecs ≤ 0 then .error (.invalid "limits.min_ttl_secs must be positive")
  else if limits.maxTtlSecs ≤ limits.minTtlSecs then
    .error (.invalid "limits.min_ttl_secs must be less than limits.max_ttl_secs")
  else if limits.maxClustersPerUser = 0 then
    .error (.invalid "limits.max_clusters_per_user must be at least 1")
  else if limits.maxTarBytes = 0 then .error (.invalid "limits.max_tar_bytes must be at least 1")
  else if limits.maxTarEntryBytes = 0 then
    .error (.invalid "limits.max_tar_entry_bytes must be at least 1")
  else if limits.maxTarBytes < limits.maxTarEntryBytes then
    .error (.invalid "limits.max_tar_entry_bytes must not exceed limits.max_tar_bytes")
  else .ok ()

def Config.validate (config : Config) : Except ConfigError Unit := do
  config.limits.check
  if config.clients = [] then .error (.invalid "at least one [[clients]] entry is required")
  else
    checkHashes config.clients
    checkUnixUsers [] config.clients

theorem checkUnixUsers_ok {seen : List String} {clients : List ClientConfig} :
    checkUnixUsers seen clients = .ok () ↔
      (clients.map ClientConfig.unixUser).Nodup ∧ ∀ client ∈ clients, client.unixUser ∉ seen := by
  induction clients generalizing seen with
  | nil => simp [checkUnixUsers]
  | cons client rest ih =>
    simp only [checkUnixUsers]
    by_cases used : client.unixUser ∈ seen
    · simp [used]
    · simp only [used, if_false, ih, List.map_cons, List.nodup_cons, List.mem_map, List.mem_cons, not_exists,
        not_and, not_or, forall_eq_or_imp, not_false_eq_true, true_and]
      constructor
      · rintro ⟨distinct, unseen⟩
        exact ⟨⟨fun other member => (unseen other member).1, distinct⟩, fun other member => (unseen other member).2⟩
      · rintro ⟨⟨alone, distinct⟩, unseen⟩
        exact ⟨distinct, fun other member => ⟨alone other member, unseen other member⟩⟩

/-- What an accepted configuration has passed: the three checks, with some client to check. -/
theorem Config.validate_ok {config : Config} (accepted : config.validate = .ok ()) :
    config.limits.check = .ok () ∧ config.clients ≠ [] ∧ checkHashes config.clients = .ok () ∧
      checkUnixUsers [] config.clients = .ok () := by
  unfold Config.validate at accepted
  cases limits : config.limits.check with
  | error why => simp [limits, bind, Except.bind] at accepted
  | ok _ =>
    simp only [limits, bind, Except.bind] at accepted
    split at accepted
    · cases accepted
    · next some =>
      cases hashes : checkHashes config.clients with
      | error why => simp [hashes] at accepted
      | ok _ =>
        simp only [hashes] at accepted
        exact ⟨rfl, some, rfl, accepted⟩

theorem Config.check_ok {config : Config} (accepted : config.validate = .ok ()) : config.limits.check = .ok () :=
  (config.validate_ok accepted).1

/-- An accepted configuration has well-formed hashes only. -/
theorem Config.hashes_ok {config : Config} (accepted : config.validate = .ok ()) :
    checkHashes config.clients = .ok () :=
  (config.validate_ok accepted).2.2.1

/-- An accepted configuration gives no account to two entries. -/
theorem Config.unixUsers_nodup {config : Config} (accepted : config.validate = .ok ()) :
    (config.clients.map ClientConfig.unixUser).Nodup :=
  (checkUnixUsers_ok.mp (config.validate_ok accepted).2.2.2).1

end AppSalmon
