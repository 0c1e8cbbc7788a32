import AppSalmon.Adapters.EngineApi
import AppSalmon.Auth
import AppSalmon.Library.Decoding

/-! What a daemon makes of the body of a create, beside what the specification asks for.

The texts of a body are cut as the Engine API documents it: a variable at its
first equals sign, a bind at every colon.
-/

set_option autoImplicit false

namespace AppSalmon

open ContainerRuntime Engine
open BollardContainerRuntime (containerCreateBody containerPortProto)

namespace Daemon

structure Mount where
  hostPath : String
  containerPath : String
  /-- The third part of a bind. -/
  mode : Option String
  deriving DecidableEq

/-- The address and the port of the host. -/
structure Published where
  containerPort : UInt16
  hostIp : Option String
  hostPort : Option String
  deriving DecidableEq

structure Health where
  test : List String
  interval : Int
  timeout : Int
  retries : Int
  deriving DecidableEq

/-- Where a container is without an endpoint of its own. -/
def defaultNetwork : String := "bridge"

structure Container where
  image : Option String
  env : List (String × String)
  labels : List (String × String)
  mounts : List Mount
  user : Option (UInt32 × UInt32)
  exposed : List UInt16
  published : List Published
  runtime : Option String
  networks : List (String × List String)
  command : Option (List String)
  health : Option Health
  deriving DecidableEq

/-! ## What is read -/

def readEnv (text : String) : Except String (String × String) :=
  match Header.splitOnce '=' text.toList with
  | some (name, value) => .ok (String.ofList name, String.ofList value)
  | none => .error "invalid environment variable"

def readBind (text : String) : Except String Mount :=
  match splitOn ':' text.toList with
  | [hostPath, containerPath] => .ok ⟨String.ofList hostPath, String.ofList containerPath, none⟩
  | [hostPath, containerPath, mode] =>
    .ok ⟨String.ofList hostPath, String.ofList containerPath, some (String.ofList mode)⟩
  | _ => .error "invalid volume specification"

def readPort (text : String) : Except String UInt16 :=
  match Header.splitOnce '/' text.toList with
  | none => .error "invalid port specification"
  | some (port, _) =>
    match BollardContainerRuntime.parseU16 port with
    | none => .error "invalid port specification"
    | some port => .ok port

def readUser (text : String) : Except String (UInt32 × UInt32) :=
  match Header.splitOnce ':' text.toList with
  | none => .error "unable to find user"
  | some (uid, gid) =>
    match parseU32 uid, parseU32 gid with
    | some uid, some gid => .ok (uid, gid)
    | _, _ => .error "unable to find user"

/-- Whom the container runs as, if the body says so. -/
def readRunAs : Option String → Except String (Option (UInt32 × UInt32))
  | none => .ok none
  | some text => (readUser text).map some

def readPublished (entry : String × Option (List PortBinding)) : Except String (List Published) := do
  let port ← readPort entry.1
  return (entry.2.getD []).map fun binding => ⟨port, binding.hostIp, binding.hostPort⟩

/-- The networks and the aliases there. -/
def readNetworks (endpoints : List (String × EndpointSettings)) : List (String × List String) :=
  if endpoints.isEmpty then [(defaultNetwork, [])] else endpoints.map fun entry => (entry.1, entry.2.aliases.getD [])

def readHealth (config : HealthConfig) : Health where
  test := config.test.getD []
  interval := (config.interval.getD 0).toInt
  timeout := (config.timeout.getD 0).toInt
  retries := (config.retries.getD 0).toInt

def read (body : ContainerCreateBody) : Except String Container := do
  let env ← (body.env.getD []).mapM readEnv
  let mounts ← ((body.hostConfig.bind HostConfig.binds).getD []).mapM readBind
  let user ← readRunAs body.user
  let exposed ← (body.exposedPorts.getD []).mapM readPort
  let published ← ((body.hostConfig.bind HostConfig.portBindings).getD []).mapM readPublished
  return {
    image := body.image
    env := env
    labels := body.labels.getD []
    mounts := mounts
    user := user
    exposed := exposed
    published := published.flatten
    runtime := body.hostConfig.bind HostConfig.runtime
    networks := readNetworks ((body.networkingConfig.bind NetworkingConfig.endpointsConfig).getD [])
    command := body.cmd
    health := body.healthcheck.map readHealth }

/-! ## What is asked for -/

def mountOf (bindMount : BindMount) : Mount := ⟨bindMount.hostPath, bindMount.containerPath, none⟩

def healthOf (healthCheck : HealthCheck) : Health :=
  ⟨healthCheck.test, healthCheck.interval.nanos, healthCheck.timeout.nanos, healthCheck.retries.toNat⟩

/-- `None` means the daemon's default network, with no alias. -/
def networksOf : Option NetworkAttachment → List (String × List String)
  | some attachment => [(attachment.networkName, [attachment.alias_])]
  | none => [(defaultNetwork, [])]

/-- A container as the specification means it: its own port on the loopback address, at most. -/
def asked (spec : ContainerRuntime.ContainerSpec) (kataRuntimeName : String) : Container where
  image := some spec.image
  env := spec.env
  labels := spec.labels
  mounts := spec.bindMounts.map mountOf
  user := spec.runAs
  exposed := [spec.containerPort]
  published := if spec.portPublish = .ephemeral then [⟨spec.containerPort, some "127.0.0.1", none⟩] else []
  runtime := if spec.runtime = .kata then some kataRuntimeName else none
  networks := networksOf spec.network
  command := spec.command
  health := spec.healthCheck.map healthOf

/-- Nothing in the specification is cut where it is not to be, or too long for the wire. -/
structure Legible (spec : ContainerRuntime.ContainerSpec) : Prop where
  env : ∀ entry ∈ spec.env, '=' ∉ entry.1.toList
  mounts : ∀ bindMount ∈ spec.bindMounts, ':' ∉ bindMount.hostPath.toList ∧ ':' ∉ bindMount.containerPath.toList
  health : ∀ healthCheck ∈ spec.healthCheck, healthCheck.interval.nanos < 2 ^ 63 ∧ healthCheck.timeout.nanos < 2 ^ 63

/-! ## Cutting -/

theorem splitOn_of_not_mem {separator : Char} {text : List Char} (absent : separator ∉ text) :
    splitOn separator text = [text] := by
  induction text with
  | nil => rfl
  | cons first rest ih =>
    rw [List.mem_cons, not_or] at absent
    rw [splitOn, if_neg (fun same => absent.1 same.symm), ih absent.2]

theorem splitOn_append {separator : Char} {before : List Char} (absent : separator ∉ before) (behind : List Char) :
    splitOn separator (before ++ separator :: behind) = before :: splitOn separator behind := by
  induction before with
  | nil => rw [List.nil_append, splitOn, if_pos rfl]
  | cons first rest ih =>
    rw [List.mem_cons, not_or] at absent
    rw [List.cons_append, splitOn, if_neg (fun same => absent.1 same.symm), ih absent.2]

/-- One piece more than separators. -/
theorem length_splitOn (separator : Char) (text : List Char) :
    (splitOn separator text).length = text.count separator + 1 := by
  induction text with
  | nil => rfl
  | cons first rest ih =>
    rw [splitOn]
    split
    · next same => rw [List.length_cons, ih, same, List.count_cons_self]
    · next other =>
      rw [List.count_cons_of_ne other, ← ih]
      split
      · next none_left => simp [none_left] at ih
      · next head tail pieces => rw [pieces, List.length_cons, List.length_cons]

theorem readEnv_iff (entry : String × String) :
    readEnv (entry.1 ++ "=" ++ entry.2) = .ok entry ↔ '=' ∉ entry.1.toList := by
  have text : (entry.1 ++ "=" ++ entry.2).toList = entry.1.toList ++ '=' :: entry.2.toList := by
    simp [String.toList_append]
  unfold readEnv
  rw [text]
  constructor
  · intro same
    split at same
    · next name value cut =>
      rw [← congrArg Prod.fst (Except.ok.inj same), String.toList_ofList]
      exact (Header.splitOnce_eq_some.mp cut).2
    · cases same
  · intro absent
    rw [Header.splitOnce_eq_some.mpr ⟨rfl, absent⟩]
    simp only [String.ofList_toList]

theorem toList_bind (bindMount : BindMount) : (BollardContainerRuntime.bind bindMount).toList =
    bindMount.hostPath.toList ++ ':' :: bindMount.containerPath.toList := by
  simp [BollardContainerRuntime.bind, String.toList_append]

/-- A bind without a third part has no colon but the one between its paths. -/
theorem readBind_plain {bindMount : BindMount} {mount : Mount}
    (cut : readBind (BollardContainerRuntime.bind bindMount) = .ok mount) (plain : mount.mode = none) :
    ':' ∉ bindMount.hostPath.toList ∧ ':' ∉ bindMount.containerPath.toList := by
  unfold readBind at cut
  rw [toList_bind] at cut
  have pieces := length_splitOn ':' (bindMount.hostPath.toList ++ ':' :: bindMount.containerPath.toList)
  rw [List.count_append, List.count_cons_self] at pieces
  split at cut
  · next two =>
    rw [two, List.length_cons, List.length_singleton] at pieces
    exact ⟨List.count_eq_zero.mp (by omega), List.count_eq_zero.mp (by omega)⟩
  · rw [← Except.ok.inj cut] at plain
    cases plain
  · cases cut

theorem readBind_iff (bindMount : BindMount) :
    readBind (BollardContainerRuntime.bind bindMount) = .ok (mountOf bindMount) ↔
      ':' ∉ bindMount.hostPath.toList ∧ ':' ∉ bindMount.containerPath.toList := by
  constructor
  · exact fun cut => readBind_plain cut rfl
  · rintro ⟨host, container⟩
    unfold readBind
    rw [toList_bind, splitOn_append host, splitOn_of_not_mem container]
    simp only [String.ofList_toList, mountOf]

theorem readPort_proto (port : UInt16) : readPort (containerPortProto port) = .ok port := by
  have slash : '/' ∉ (toString port.toNat).toList := by
    rw [Nat.toString_eq_repr, Nat.toList_repr]
    exact not_mem_toDigits (by decide)
  have cut : Header.splitOnce '/' (containerPortProto port).toList = some ((toString port.toNat).toList, "tcp".toList) := by
    rw [Header.splitOnce_eq_some]
    exact ⟨by simp [containerPortProto, String.toList_append], slash⟩
  simp only [readPort, cut, parseU16_toString]

theorem readUser_ids (uid gid : UInt32) : readUser (toString uid.toNat ++ ":" ++ toString gid.toNat) = .ok (uid, gid) := by
  have colon : ':' ∉ (toString uid.toNat).toList := by
    rw [Nat.toString_eq_repr, Nat.toList_repr]
    exact not_mem_toDigits (by decide)
  have cut : Header.splitOnce ':' (toString uid.toNat ++ ":" ++ toString gid.toNat).toList =
      some ((toString uid.toNat).toList, (toString gid.toNat).toList) := by
    rw [Header.splitOnce_eq_some]
    exact ⟨by simp [String.toList_append], colon⟩
  simp only [readUser, cut, parseU32_toString]

theorem toInt_nanos (duration : Duration) :
    (BollardContainerRuntime.nanos duration).toInt = duration.nanos ↔ duration.nanos < 2 ^ 63 := by
  unfold BollardContainerRuntime.nanos
  split
  · next short =>
    refine iff_of_true ?_ short
    rw [Int64.toInt_ofNat_of_lt short]
  · next long =>
    refine iff_of_false ?_ long
    rw [Int64.toInt_maxValue]
    omega

/-! ## The whole body -/

variable {spec : ContainerRuntime.ContainerSpec} {kataRuntimeName : String}

/-- A list that is left out where it is empty. -/
theorem getD_unless_nil {α β : Type} (items : List α) (encode : α → β) [Decidable (items = [])] :
    (if items = [] then none else some (items.map encode)).getD [] = items.map encode := by
  by_cases empty : items = []
  · simp [empty]
  · simp [empty]

theorem read_env_iff : (((containerCreateBody spec kataRuntimeName).env).getD []).mapM readEnv = .ok spec.env ↔
    ∀ entry ∈ spec.env, '=' ∉ entry.1.toList := by
  rw [containerCreateBody, getD_unless_nil, Decoding.mapM_encoded]
  exact forall₂_congr fun entry _ => readEnv_iff entry

theorem readBinds : (((containerCreateBody spec kataRuntimeName).hostConfig.bind HostConfig.binds)).getD [] =
    spec.bindMounts.map BollardContainerRuntime.bind := by
  rw [containerCreateBody, Option.bind_some, getD_unless_nil]

theorem read_mounts_iff : ((((containerCreateBody spec kataRuntimeName).hostConfig.bind HostConfig.binds)).getD []).mapM
    readBind = .ok (spec.bindMounts.map mountOf) ↔
    ∀ bindMount ∈ spec.bindMounts, ':' ∉ bindMount.hostPath.toList ∧ ':' ∉ bindMount.containerPath.toList := by
  rw [readBinds, Decoding.mapM_eq_ok, List.forall₂_map_left_iff, List.forall₂_map_right_iff, List.forall₂_same]
  exact forall₂_congr fun bindMount _ => readBind_iff bindMount

theorem read_runAs : readRunAs (containerCreateBody spec kataRuntimeName).user = .ok spec.runAs := by
  cases ids : spec.runAs with
  | none => simp [containerCreateBody, ids, readRunAs]
  | some pair =>
    simp only [containerCreateBody, ids, Option.map_some, readRunAs, readUser_ids]
    rfl

theorem read_exposed : ((containerCreateBody spec kataRuntimeName).exposedPorts.getD []).mapM readPort =
    .ok [spec.containerPort] := by
  simp [containerCreateBody, readPort_proto, bind, Except.bind, pure, Except.pure]

theorem read_published : ((((containerCreateBody spec kataRuntimeName).hostConfig.bind HostConfig.portBindings)).getD []).mapM
    readPublished = .ok (if spec.portPublish = .ephemeral then [[⟨spec.containerPort, some "127.0.0.1", none⟩]] else []) := by
  cases published : spec.portPublish with
  | unpublished => simp [containerCreateBody, BollardContainerRuntime.portBindings, published, pure, Except.pure]
  | ephemeral =>
    simp [containerCreateBody, BollardContainerRuntime.portBindings, published, readPublished, readPort_proto, bind,
      Except.bind, pure, Except.pure]

theorem read_health_iff : spec.healthCheck.map (readHealth ∘ BollardContainerRuntime.healthConfig) = spec.healthCheck.map healthOf ↔
    ∀ healthCheck ∈ spec.healthCheck, healthCheck.interval.nanos < 2 ^ 63 ∧ healthCheck.timeout.nanos < 2 ^ 63 := by
  cases spec.healthCheck with
  | none => simp
  | some healthCheck =>
    have retries : (Int64.ofNat healthCheck.retries.toNat).toInt = healthCheck.retries.toNat := by
      have small := healthCheck.retries.toNat_lt
      rw [Int64.toInt_ofNat_of_lt (by omega)]
    simp [readHealth, BollardContainerRuntime.healthConfig, healthOf, toInt_nanos, retries]

/-- All but the variables, the mounts and the health check is read back whatever it is. -/
theorem read_body : read (containerCreateBody spec kataRuntimeName) =
    (((containerCreateBody spec kataRuntimeName).env.getD []).mapM readEnv).bind fun env =>
      (((containerCreateBody spec kataRuntimeName).hostConfig.bind HostConfig.binds).getD []).mapM readBind |>.bind
        fun mounts => .ok { asked spec kataRuntimeName with
          env := env, mounts := mounts, health := spec.healthCheck.map (readHealth ∘ BollardContainerRuntime.healthConfig) } := by
  have published : (if spec.portPublish = .ephemeral then [[⟨spec.containerPort, some "127.0.0.1", none⟩]] else [] :
      List (List Published)).flatten = (asked spec kataRuntimeName).published := by
    unfold asked
    split <;> rfl
  have labels : (containerCreateBody spec kataRuntimeName).labels.getD [] = spec.labels := by
    by_cases empty : spec.labels = [] <;> simp [containerCreateBody, empty]
  have networks : readNetworks (((containerCreateBody spec kataRuntimeName).networkingConfig.bind
      NetworkingConfig.endpointsConfig).getD []) = (asked spec kataRuntimeName).networks := by
    cases attached : spec.network <;> simp [containerCreateBody, asked, attached, readNetworks, networksOf]
  have runtime : (containerCreateBody spec kataRuntimeName).hostConfig.bind HostConfig.runtime =
      (asked spec kataRuntimeName).runtime := by
    cases chosen : spec.runtime <;> simp [containerCreateBody, asked, chosen]
  have health : (containerCreateBody spec kataRuntimeName).healthcheck.map readHealth =
      spec.healthCheck.map (readHealth ∘ BollardContainerRuntime.healthConfig) := Option.map_map _ _ _
  simp only [read, read_runAs, read_exposed, read_published, published, labels, networks, runtime, health, bind,
    Except.bind, pure, Except.pure]
  rfl

theorem read_legible (legible : Legible spec) :
    read (containerCreateBody spec kataRuntimeName) = .ok (asked spec kataRuntimeName) := by
  rw [read_body, read_env_iff.mpr legible.env, read_mounts_iff.mpr legible.mounts]
  simp only [Except.bind, read_health_iff.mpr legible.health]
  rfl

/-- The daemon makes the container that the specification asks for exactly if no name of a variable has an equals sign,
no path of a bind has a colon, and no duration of the health check is too long for the wire. -/
theorem reads_back_iff (spec : ContainerRuntime.ContainerSpec) (kataRuntimeName : String) :
    read (containerCreateBody spec kataRuntimeName) = .ok (asked spec kataRuntimeName) ↔ Legible spec := by
  constructor
  · intro same
    rw [read_body] at same
    cases env : ((containerCreateBody spec kataRuntimeName).env.getD []).mapM readEnv with
    | error why =>
      rw [env] at same
      cases same
    | ok decoded =>
      cases binds : (((containerCreateBody spec kataRuntimeName).hostConfig.bind HostConfig.binds).getD []).mapM readBind with
      | error why =>
        rw [env, binds] at same
        cases same
      | ok mounts =>
        rw [env, binds] at same
        have whole := Except.ok.inj same
        obtain rfl : decoded = spec.env := congrArg Container.env whole
        obtain rfl : mounts = spec.bindMounts.map mountOf := congrArg Container.mounts whole
        exact ⟨read_env_iff.mp env, read_mounts_iff.mp binds, read_health_iff.mp (congrArg Container.health whole)⟩
  · exact read_legible

end Daemon

end AppSalmon
