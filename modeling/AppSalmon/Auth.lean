import AppSalmon.Auth.Hashing
import AppSalmon.Service.Deps

/-! Bearer authentication, and the registry that the configuration builds for it.

The header is cut at its first colon. SHA-256 is any function here.
-/

set_option autoImplicit false

namespace AppSalmon

inductive AuthError where
  | missingCredentials | malformedHeader | unknownClient | invalidSecret
  deriving DecidableEq

/-! ## Secrets -/

variable (sha256 : List UInt8 → SecretHash)

def SecretHash.of (secret : String) : SecretHash := sha256 secret.toUTF8.toList

/-- A comparison that takes the same time for every candidate. -/
def SecretHash.accepts (expected : SecretHash) (candidate : String) : Bool :=
  expected.bytes = (SecretHash.of sha256 candidate).bytes

theorem SecretHash.accepts_iff {expected : SecretHash} {candidate : String} :
    expected.accepts sha256 candidate = true ↔ SecretHash.of sha256 candidate = expected := by
  unfold accepts
  rw [decide_eq_true_eq]
  cases expected
  cases hashed : SecretHash.of sha256 candidate
  simp [eq_comm]

/-! ## The header -/

namespace Header

def stripPrefix (lead text : List Char) : Option (List Char) :=
  if lead <+: text then some (text.drop lead.length) else none

/-- `str::split_once`: before the first separator, and behind it. -/
def splitOnce (separator : Char) : List Char → Option (List Char × List Char)
  | [] => none
  | first :: rest =>
    if first = separator then some ([], rest)
    else (splitOnce separator rest).map fun pieces => (first :: pieces.1, pieces.2)

theorem stripPrefix_eq_some {lead text rest : List Char} : stripPrefix lead text = some rest ↔ text = lead ++ rest := by
  unfold stripPrefix
  constructor
  · intro stripped
    rw [Option.ite_none_right_eq_some, Option.some.injEq] at stripped
    obtain ⟨⟨tail, rfl⟩, rfl⟩ := stripped
    simp
  · rintro rfl
    simp

theorem splitOnce_eq_some {separator : Char} {text before behind : List Char} :
    splitOnce separator text = some (before, behind) ↔ text = before ++ separator :: behind ∧ separator ∉ before := by
  induction text generalizing before behind with
  | nil => simp [splitOnce]
  | cons first rest ih =>
    by_cases here : first = separator
    · subst here
      cases before with
      | nil => simp [splitOnce]
      | cons head tail => simp +contextual [splitOnce]
    · cases before with
      | nil => simp [splitOnce, here]
      | cons head tail =>
        simp only [splitOnce, here, if_false, Option.map_eq_some_iff, Prod.exists, Prod.mk.injEq, List.cons.injEq, ih,
          List.cons_append, List.mem_cons, not_or]
        constructor
        · rintro ⟨pre, post, ⟨rfl, absent⟩, ⟨rfl, rfl⟩, rfl⟩
          exact ⟨⟨rfl, rfl⟩, fun same => here same.symm, absent⟩
        · rintro ⟨⟨rfl, rfl⟩, -, absent⟩
          exact ⟨tail, behind, ⟨rfl, absent⟩, ⟨rfl, rfl⟩, rfl⟩

end Header

/-! ## The registry -/

/-- A map; of two entries of one client the first one here counts. -/
structure ClientRegistry where
  clients : List (ClientId × SecretHash)

namespace ClientRegistry

def get (registry : ClientRegistry) (client : ClientId) : Option SecretHash :=
  (registry.clients.find? fun entry => entry.1 = client).map Prod.snd

def authenticate (registry : ClientRegistry) (headerValue : Option String) : Except AuthError ClientId :=
  match headerValue with
  | none => .error .missingCredentials
  | some headerValue =>
    match Header.stripPrefix "Bearer ".toList headerValue.toList with
    | none => .error .malformedHeader
    | some credentials =>
      match Header.splitOnce ':' credentials with
      | none => .error .malformedHeader
      | some (name, secret) =>
        -- what is behind the first colon is the secret, with any further colons
        if name = [] ∨ secret = [] then .error .malformedHeader
        else
          let clientId : ClientId := ⟨String.ofList name⟩
          match registry.get clientId with
          | none => .error .unknownClient
          | some expectedHash =>
            if expectedHash.accepts sha256 (String.ofList secret) then .ok clientId else .error .invalidSecret

end ClientRegistry

/-- The header that a client sends with its secret. -/
def bearerHeader (name secret : String) : String := "Bearer " ++ name ++ ":" ++ secret

theorem toList_bearerHeader (name secret : String) :
    (bearerHeader name secret).toList = "Bearer ".toList ++ (name.toList ++ ':' :: secret.toList) := by
  simp [bearerHeader, String.toList_append]

/-- Who gets in: a registered name without a colon, with a secret of the registered hash. -/
theorem ClientRegistry.authenticate_eq_ok {registry : ClientRegistry} {headerValue : Option String} {client : ClientId} :
    registry.authenticate sha256 headerValue = .ok client ↔
      client.name ≠ "" ∧ ':' ∉ client.name.toList ∧ ∃ secret, secret ≠ "" ∧
        headerValue = some (bearerHeader client.name secret) ∧
        registry.get client = some (SecretHash.of sha256 secret) := by
  constructor
  · intro accepted
    unfold authenticate at accepted
    split at accepted
    · cases accepted
    split at accepted
    · cases accepted
    next header credentials stripped =>
    split at accepted
    · cases accepted
    next name secret cut =>
    -- the cut is at the first colon, so the name has none
    obtain ⟨rfl, absent⟩ := Header.splitOnce_eq_some.mp cut
    have text := Header.stripPrefix_eq_some.mp stripped
    split at accepted
    · cases accepted
    next filled =>
    obtain ⟨named, secured⟩ := not_or.mp filled
    dsimp only at accepted
    split at accepted
    · cases accepted
    next expected registered =>
    split at accepted
    · next matching =>
      obtain rfl := Except.ok.inj accepted
      have hashed := (SecretHash.accepts_iff sha256).mp matching
      refine ⟨?_, by rwa [String.toList_ofList], String.ofList secret, ?_, ?_, by rw [registered, hashed]⟩
      · simpa using named
      · simpa using secured
      · rw [Option.some.injEq, ← String.toList_inj, toList_bearerHeader, text]
        simp only [String.toList_ofList]
    · cases accepted
  · rintro ⟨named, absent, secret, secured, rfl, registered⟩
    have stripped : Header.stripPrefix "Bearer ".toList (bearerHeader client.name secret).toList =
        some (client.name.toList ++ ':' :: secret.toList) :=
      Header.stripPrefix_eq_some.mpr (toList_bearerHeader _ _)
    have cut : Header.splitOnce ':' (client.name.toList ++ ':' :: secret.toList) =
        some (client.name.toList, secret.toList) := Header.splitOnce_eq_some.mpr ⟨rfl, absent⟩
    have filled : ¬ (client.name.toList = [] ∨ secret.toList = []) := by
      simp only [String.toList_eq_nil_iff, not_or]
      exact ⟨named, secured⟩
    have matching : (SecretHash.of sha256 secret).accepts sha256 secret = true :=
      (SecretHash.accepts_iff sha256).mpr rfl
    simp only [authenticate, stripped, cut, filled, if_false, String.ofList_toList, registered, matching, if_true]

/-! ## What the configuration registers -/

/-- The insertions of `client_registry`, the latest in front. -/
def registerClients (clients : List (ClientId × SecretHash)) :
    List ClientConfig → Except ConfigError (List (ClientId × SecretHash))
  | [] => .ok clients
  | client :: rest =>
    match SecretHash.fromHexWithPrefix client.secretHash with
    | none => .error (malformedHash client)
    | some hash => registerClients ((⟨client.name⟩, hash) :: clients) rest

def Config.clientRegistry (config : Config) : Except ConfigError ClientRegistry := do
  let clients ← registerClients [] config.clients
  return ⟨clients⟩

theorem checkHashes_ok {clients : List ClientConfig} :
    checkHashes clients = .ok () ↔
      ∀ client ∈ clients, ∃ hash, SecretHash.fromHexWithPrefix client.secretHash = some hash := by
  induction clients with
  | nil => simp [checkHashes]
  | cons client rest ih =>
    simp only [checkHashes]
    cases parsed : SecretHash.fromHexWithPrefix client.secretHash with
    | none => simp [parsed]
    | some hash => simp [parsed, ih]

/-- The entry that counts where entries are put into a map by name: the last one. -/
def entryOf (clients : List ClientConfig) (name : String) : Option ClientConfig :=
  clients.reverse.find? fun client => client.name = name

theorem entryOf_cons (client : ClientConfig) (rest : List ClientConfig) (name : String) :
    entryOf (client :: rest) name =
      (entryOf rest name).or (if client.name = name then some client else none) := by
  simp only [entryOf, List.reverse_cons, List.find?_append]
  by_cases same : client.name = name <;> simp [same]

theorem entryOf_eq_some {clients : List ClientConfig} {name : String} {entry : ClientConfig}
    (found : entryOf clients name = some entry) : entry ∈ clients ∧ entry.name = name :=
  ⟨List.mem_reverse.mp (List.mem_of_find?_eq_some found), by simpa using List.find?_some found⟩

theorem entryOf_isSome {clients : List ClientConfig} {name : String} :
    (∃ entry, entryOf clients name = some entry) ↔ ∃ client ∈ clients, client.name = name := by
  rw [← Option.isSome_iff_exists, entryOf, List.find?_isSome]
  simp

/-- Each name is registered with the hash of its last entry. -/
theorem find_registerClients {clients : List ClientConfig} {before done : List (ClientId × SecretHash)}
    (registered : registerClients before clients = .ok done) (client : ClientId) :
    (done.find? fun entry => entry.1 = client).map Prod.snd = match entryOf clients client.name with
      | some entry => SecretHash.fromHexWithPrefix entry.secretHash
      | none => (before.find? fun entry => entry.1 = client).map Prod.snd := by
  induction clients generalizing before with
  | nil =>
    obtain rfl := Except.ok.inj registered
    rfl
  | cons first rest ih =>
    simp only [registerClients] at registered
    split at registered
    · cases registered
    next hash parsed =>
    rw [ih registered, entryOf_cons]
    -- a later entry of the name was inserted later, and replaces this one
    cases entryOf rest client.name with
    | some entry => rfl
    | none =>
      by_cases same : first.name = client.name
      · simp [same, parsed]
      · have different : ¬ (⟨first.name⟩ : ClientId) = client := fun equal => same (congrArg ClientId.name equal)
        simp [same, different]

theorem registerClients_isOk {clients : List ClientConfig}
    (hashes : ∀ client ∈ clients, ∃ hash, SecretHash.fromHexWithPrefix client.secretHash = some hash)
    (before : List (ClientId × SecretHash)) : ∃ done, registerClients before clients = .ok done := by
  induction clients generalizing before with
  | nil => exact ⟨before, rfl⟩
  | cons client rest ih =>
    obtain ⟨hash, parsed⟩ := hashes client List.mem_cons_self
    obtain ⟨done, registered⟩ := ih (fun other member => hashes other (List.mem_cons_of_mem _ member))
      ((⟨client.name⟩, hash) :: before)
    exact ⟨done, by simp only [registerClients, parsed, registered]⟩

theorem Config.get_clientRegistry {config : Config} {registry : ClientRegistry}
    (built : config.clientRegistry = .ok registry) (client : ClientId) :
    registry.get client =
      (entryOf config.clients client.name).bind fun entry => SecretHash.fromHexWithPrefix entry.secretHash := by
  unfold clientRegistry at built
  cases done : registerClients [] config.clients with
  | error why => simp [done, bind, Except.bind] at built
  | ok clients =>
    simp only [done, bind, Except.bind, pure, Except.pure, Except.ok.injEq] at built
    subst built
    rw [ClientRegistry.get, find_registerClients done]
    cases entryOf config.clients client.name <;> rfl

theorem Config.clientRegistry_isOk {config : Config} (accepted : config.validate = .ok ()) :
    ∃ registry, config.clientRegistry = .ok registry := by
  obtain ⟨done, registered⟩ := registerClients_isOk (checkHashes_ok.mp (config.hashes_ok accepted)) []
  exact ⟨⟨done⟩, by simp [clientRegistry, registered, bind, Except.bind, pure, Except.pure]⟩

/-! ## Exactly the configured clients -/

/-- An entry, and a secret that its hash is of. -/
def ClientConfig.Secret (client : ClientConfig) (secret : String) : Prop :=
  secret ≠ "" ∧ SecretHash.fromHexWithPrefix client.secretHash = some (SecretHash.of sha256 secret)

/-- Everybody who is configured gets in, and nobody else. -/
structure AuthenticatesExactly (config : Config) (registry : ClientRegistry) : Prop where
  complete : ∀ client ∈ config.clients, ∀ secret, client.Secret sha256 secret →
    registry.authenticate sha256 (some (bearerHeader client.name secret)) = .ok ⟨client.name⟩
  sound : ∀ headerValue client, registry.authenticate sha256 headerValue = .ok client →
    ∃ entry ∈ config.clients, ∃ secret, entry.name = client.name ∧
      headerValue = some (bearerHeader client.name secret) ∧
      SecretHash.fromHexWithPrefix entry.secretHash = some (SecretHash.of sha256 secret)

/-- Every name whose secret somebody can have is not empty and has no colon, and a later entry of the same name repeats
the hash. -/
def NamesUsable (clients : List ClientConfig) : Prop :=
  ∀ client ∈ clients, (∃ secret, client.Secret sha256 secret) →
    client.name ≠ "" ∧ ':' ∉ client.name.toList ∧
      ∀ last, entryOf clients client.name = some last →
        SecretHash.fromHexWithPrefix last.secretHash = SecretHash.fromHexWithPrefix client.secretHash

theorem bearerHeader_injective {name first second : String}
    (same : bearerHeader name first = bearerHeader name second) : first = second := by
  rw [← String.toList_inj, toList_bearerHeader, toList_bearerHeader] at same
  have behind := List.append_cancel_left (List.append_cancel_left same)
  exact String.toList_inj.mp (List.cons.inj behind).2

/-- The registry built from an accepted configuration lets in exactly the configured clients, where their names are
fit for the header and for the map. -/
theorem authenticates_exactly_iff {config : Config} (accepted : config.validate = .ok ()) :
    ∃ registry, config.clientRegistry = .ok registry ∧
      (AuthenticatesExactly sha256 config registry ↔ NamesUsable sha256 config.clients) := by
  obtain ⟨registry, built⟩ := config.clientRegistry_isOk accepted
  refine ⟨registry, built, ?_⟩
  have lookup := config.get_clientRegistry built
  constructor
  · rintro exact_ client member ⟨secret, known⟩
    obtain ⟨named, absent, other, -, same, registered⟩ :=
      (ClientRegistry.authenticate_eq_ok sha256).mp (exact_.complete client member secret known)
    -- the header carries this secret, so the one that was accepted is the same
    obtain rfl := bearerHeader_injective (Option.some.inj same)
    refine ⟨named, absent, fun last found => ?_⟩
    rw [lookup] at registered
    simp only [found, Option.bind_some] at registered
    rw [registered, known.2]
  · intro usable
    constructor
    · intro client member secret known
      obtain ⟨named, absent, repeats⟩ := usable client member ⟨secret, known⟩
      obtain ⟨last, found⟩ := entryOf_isSome.mpr ⟨client, member, rfl⟩
      apply (ClientRegistry.authenticate_eq_ok sha256).mpr
      refine ⟨named, absent, secret, known.1, rfl, ?_⟩
      -- the registry holds the hash of the last entry of the name, which is this one's
      rw [lookup, found, Option.bind_some, repeats last found, known.2]
    · intro headerValue client authenticated
      obtain ⟨-, -, secret, -, same, registered⟩ := (ClientRegistry.authenticate_eq_ok sha256).mp authenticated
      rw [lookup] at registered
      obtain ⟨entry, found, hash⟩ := Option.bind_eq_some_iff.mp registered
      obtain ⟨member, named⟩ := entryOf_eq_some found
      exact ⟨entry, member, secret, named, same, hash⟩

/-! ## Two small registries -/

/-- SHA-256 where the examples need it. -/
def smallSha256 (bytes : List UInt8) : SecretHash :=
  if bytes = "s3cret".toUTF8.toList then
    ⟨[0x1e, 0xc1, 0xc2, 0x6b, 0x50, 0xd5, 0xd3, 0xc5, 0x8d, 0x95, 0x83, 0x18, 0x1a, 0xf8, 0x07, 0x66,
      0x55, 0xfe, 0x00, 0x75, 0x6b, 0xf7, 0x28, 0x59, 0x40, 0xba, 0x36, 0x70, 0xf9, 0x9f, 0xcb, 0xa0], rfl⟩
  else ⟨List.replicate 32 0, List.length_replicate⟩

/-- One client of this name, with the secret of the examples. -/
def secretConfig (name : String) : Config where
  limits := smallLimits
  clients := [⟨name, "sha256:1ec1c26b50d5d3c58d9583181af8076655fe00756bf7285940ba3670f99fcba0", "agent1"⟩]

theorem ci_authenticates_exactly : ∃ registry, (secretConfig "ci").clientRegistry = .ok registry ∧
    AuthenticatesExactly smallSha256 (secretConfig "ci") registry := by
  have accepted : (secretConfig "ci").validate = .ok () := by decide +kernel
  obtain ⟨registry, built, exactly⟩ := authenticates_exactly_iff smallSha256 accepted
  refine ⟨registry, built, exactly.mpr ?_⟩
  intro client member known
  obtain rfl := List.mem_singleton.mp member
  refine ⟨by decide, by decide, fun last found => ?_⟩
  obtain rfl := List.mem_singleton.mp (entryOf_eq_some found).1
  rfl

/-- The secret is right, the name is the configured one, and the header is cut inside the name. -/
theorem team_ci_refused : (secretConfig "team:ci").validate = .ok () ∧
    (∀ client ∈ (secretConfig "team:ci").clients, client.Secret smallSha256 "s3cret") ∧
    ∀ registry, (secretConfig "team:ci").clientRegistry = .ok registry →
      registry.authenticate smallSha256 (some (bearerHeader "team:ci" "s3cret")) ≠ .ok ⟨"team:ci"⟩ ∧
      ¬ AuthenticatesExactly smallSha256 (secretConfig "team:ci") registry := by
  have known : ∀ client ∈ (secretConfig "team:ci").clients, client.Secret smallSha256 "s3cret" := by
    intro client member
    obtain rfl := List.mem_singleton.mp member
    exact ⟨by decide, by decide +kernel⟩
  have refused : ∀ registry : ClientRegistry,
      registry.authenticate smallSha256 (some (bearerHeader "team:ci" "s3cret")) ≠ .ok ⟨"team:ci"⟩ := by
    intro registry authenticated
    exact ((ClientRegistry.authenticate_eq_ok smallSha256).mp authenticated).2.1 (by decide)
  refine ⟨by decide +kernel, known, fun registry _ => ⟨refused registry, fun exactly => ?_⟩⟩
  exact refused registry (exactly.complete _ List.mem_cons_self "s3cret" (known _ List.mem_cons_self))

end AppSalmon
