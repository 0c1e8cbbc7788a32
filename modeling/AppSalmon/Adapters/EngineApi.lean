import AppSalmon.ClientWorkers
import AppSalmon.Ports.ContainerRuntime

/-! What goes over the Docker Engine API: the body of a create, and the answer to an inspection.

A field of a body that the adapter never sets is left out. The maps of an answer
come in any order.
-/

set_option autoImplicit false

namespace AppSalmon

open ContainerRuntime

namespace Engine

structure PortBinding where
  hostIp : Option String
  hostPort : Option String
  deriving DecidableEq

abbrev PortMap := List (String × Option (List PortBinding))

structure HealthConfig where
  test : Option (List String)
  interval : Option Int64
  timeout : Option Int64
  retries : Option Int64
  deriving DecidableEq

structure EndpointSettings where
  aliases : Option (List String)
  deriving DecidableEq

structure NetworkingConfig where
  endpointsConfig : Option (List (String × EndpointSettings))
  deriving DecidableEq

structure HostConfig where
  binds : Option (List String)
  portBindings : Option PortMap
  runtime : Option String
  deriving DecidableEq

structure ContainerCreateBody where
  image : Option String
  env : Option (List String)
  labels : Option (List (String × String))
  exposedPorts : Option (List String)
  user : Option String
  cmd : Option (List String)
  healthcheck : Option HealthConfig
  networkingConfig : Option NetworkingConfig
  hostConfig : Option HostConfig
  deriving DecidableEq

inductive HealthStatus where
  | empty | none | starting | healthy | unhealthy
  deriving DecidableEq

structure ContainerState where
  running : Option Bool
  exitCode : Option Int64
  /-- The status within the health, where there is one. -/
  health : Option (Option HealthStatus)
  deriving DecidableEq

structure ContainerInspectResponse where
  state : Option ContainerState
  /-- The ports within the network settings. -/
  ports : Option (Option PortMap)
  deriving DecidableEq

end Engine

open Engine

namespace BollardContainerRuntime

/-! ## Requests -/

/-- Saturating. -/
def nanos (duration : Duration) : Int64 :=
  if duration.nanos < 2 ^ 63 then Int64.ofNat duration.nanos else Int64.maxValue

def containerPortProto (containerPort : UInt16) : String := toString containerPort.toNat ++ "/tcp"

def portBindings (spec : ContainerRuntime.ContainerSpec) : Option PortMap :=
  match spec.portPublish with
  | .unpublished => none
  -- without a host port, the daemon takes a free one
  | .ephemeral => some [(containerPortProto spec.containerPort, some [⟨some "127.0.0.1", none⟩])]

def bind (bindMount : BindMount) : String := bindMount.hostPath ++ ":" ++ bindMount.containerPath

def healthConfig (healthCheck : HealthCheck) : HealthConfig where
  test := some healthCheck.test
  interval := some (nanos healthCheck.interval)
  timeout := some (nanos healthCheck.timeout)
  retries := some (Int64.ofNat healthCheck.retries.toNat)

def containerCreateBody (spec : ContainerRuntime.ContainerSpec) (kataRuntimeName : String) : ContainerCreateBody where
  image := some spec.image
  env := if spec.env = [] then none else some (spec.env.map fun entry => entry.1 ++ "=" ++ entry.2)
  labels := if spec.labels = [] then none else some spec.labels
  exposedPorts := some [containerPortProto spec.containerPort]
  user := spec.runAs.map fun ids => toString ids.1.toNat ++ ":" ++ toString ids.2.toNat
  cmd := spec.command
  healthcheck := spec.healthCheck.map healthConfig
  networkingConfig := spec.network.map fun attachment =>
    ⟨some [(attachment.networkName, ⟨some [attachment.alias_]⟩)]⟩
  hostConfig := some {
    binds := if spec.bindMounts = [] then none else some (spec.bindMounts.map bind)
    portBindings := portBindings spec
    runtime := match spec.runtime with
      | .runc => none
      | .kata => some kataRuntimeName }

/-! ## Answers -/

def healthStateFrom : HealthStatus → HealthState
  | .empty | .none => .none
  | .starting => .starting
  | .healthy => .healthy
  | .unhealthy => .unhealthy

/-- `str::parse::<u16>`: an optional plus sign and at least one digit. -/
def parseU16 (text : List Char) : Option UInt16 := do
  let digits := if text.head? = some '+' then text.tail else text
  if digits = [] then none
  else
    let value ← decimalValue digits
    if value < 2 ^ 16 then some (UInt16.ofNat value) else none

/-- The first binding of all that the map lists. -/
def publishedPort (ports : PortMap) : Option UInt16 := do
  let binding ← (ports.flatMap fun entry => entry.2.getD []).head?
  let port ← binding.hostPort
  parseU16 port.toList

/-- `i32::try_from` -/
def exitCodeFrom (code : Int64) : Option Int32 :=
  if -2 ^ 31 ≤ code.toInt ∧ code.toInt < 2 ^ 31 then some (Int32.ofInt code.toInt) else none

def containerStatusFromResponse (response : ContainerInspectResponse) : ContainerStatus :=
  if (response.state.bind ContainerState.running).getD false = true then
    .running (response.ports.join.bind publishedPort) ((response.state.bind ContainerState.health).join.map healthStateFrom)
  else .exited (((response.state.bind ContainerState.exitCode).bind exitCodeFrom).getD (-1))

end BollardContainerRuntime

/-! ## Numbers as texts -/

theorem digitValue_digitChar {digit : Nat} (small : digit < 10) : digitValue digit.digitChar = some digit := by
  have each : ∀ digit : Fin 10, digitValue digit.val.digitChar = some digit.val := by decide
  exact each ⟨digit, small⟩

theorem decimalValue_snoc (digits : List Char) (last : Char) :
    decimalValue (digits ++ [last]) =
      (decimalValue digits).bind fun value => (digitValue last).map fun digit => 10 * value + digit := by
  unfold decimalValue
  rw [List.foldlM_append]
  cases List.foldlM (fun value char => (digitValue char).map fun digit => 10 * value + digit) 0 digits with
  | none => rfl
  | some value => simp

/-- What a number is written as denotes the number. -/
theorem decimalValue_toDigits (value : Nat) : decimalValue (Nat.toDigits 10 value) = some value := by
  induction value using Nat.strongRecOn with
  | ind value ih =>
    have last : digitValue (value % 10).digitChar = some (value % 10) := digitValue_digitChar (Nat.mod_lt _ (by decide))
    rw [Nat.toDigits_eq_if (by decide)]
    split
    · next small =>
      rw [Nat.mod_eq_of_lt small] at last
      simp [decimalValue, last]
    · next large =>
      rw [decimalValue_snoc, ih (value / 10) (by omega), Option.bind_some, last, Option.map_some, Nat.div_add_mod]

/-- A number is written with digits only, and with one at least. -/
theorem digit_of_toDigits {value : Nat} {char : Char} (member : char ∈ Nat.toDigits 10 value) : char.isDigit = true :=
  Nat.isDigit_of_mem_toDigits (by decide) (by decide) member

theorem not_mem_toDigits {value : Nat} {char : Char} (other : char.isDigit = false) : char ∉ Nat.toDigits 10 value := by
  intro member
  rw [digit_of_toDigits member] at other
  cases other

theorem head_toDigits (value : Nat) : (Nat.toDigits 10 value).head? ≠ some '+' := by
  intro sign
  exact not_mem_toDigits (by decide) (List.mem_of_head? sign)

theorem parseU16_toString (port : UInt16) : BollardContainerRuntime.parseU16 (toString port.toNat).toList = some port := by
  have small := port.toNat_lt
  simp only [BollardContainerRuntime.parseU16, Nat.toString_eq_repr, Nat.toList_repr, head_toDigits, if_false,
    Nat.toDigits_ne_nil, decimalValue_toDigits]
  simp [small]

/-! ## The published port -/

namespace BollardContainerRuntime

def bindings (entry : String × Option (List PortBinding)) : List PortBinding := entry.2.getD []

/-- What a binding tells the adapter. -/
def hostPort (binding : PortBinding) : Option UInt16 := binding.hostPort.bind fun port => parseU16 port.toList

theorem publishedPort_eq (ports : PortMap) : publishedPort ports = (ports.flatMap bindings).head?.bind hostPort := by
  unfold publishedPort bindings hostPort
  cases (ports.flatMap fun entry => entry.2.getD []).head? with
  | none => rfl
  | some binding => rfl

/-- The first binding of all is the first one of some entry. -/
theorem head_flatMap {ports : PortMap} {binding : PortBinding} (first : (ports.flatMap bindings).head? = some binding) :
    ∃ entry ∈ ports, (bindings entry).head? = some binding := by
  induction ports with
  | nil => cases first
  | cons entry rest ih =>
    rw [List.flatMap_cons, List.head?_append] at first
    cases own : (bindings entry).head? with
    | some other =>
      rw [own, Option.some_or] at first
      exact ⟨entry, List.mem_cons_self, own.trans first⟩
    | none =>
      rw [own, Option.none_or] at first
      obtain ⟨later, member, same⟩ := ih first
      exact ⟨later, List.mem_cons_of_mem _ member, same⟩

/-- All that is published reads alike, wherever it stands in the map. -/
def ReadsAlike (ports : PortMap) : Prop :=
  ∀ first ∈ ports, ∀ second ∈ ports, ∀ left ∈ (bindings first).head?, ∀ right ∈ (bindings second).head?,
    hostPort left = hostPort right

/-- The map has no order of its own: the port that is read back does not depend on it exactly if the first bindings
of all that is published read alike. -/
theorem publishedPort_perm (ports : PortMap) :
    (∀ other, ports.Perm other → publishedPort other = publishedPort ports) ↔ ReadsAlike ports := by
  constructor
  · intro same first inside second outside left leads right follows
    -- whichever entry is moved to the front is the one that is read
    have front (entry : String × Option (List PortBinding)) (member : entry ∈ ports) (binding : PortBinding)
        (head : (bindings entry).head? = some binding) : publishedPort ports = hostPort binding := by
      rw [← same _ (List.perm_cons_erase member), publishedPort_eq, List.flatMap_cons, List.head?_append, head,
        Option.some_or, Option.bind_some]
    rw [← front first inside left leads, ← front second outside right follows]
  · intro alike other permuted
    rw [publishedPort_eq, publishedPort_eq]
    cases here : (ports.flatMap bindings).head? with
    | none =>
      have empty := List.head?_eq_none_iff.mp here
      have none_there : other.flatMap bindings = [] := by
        rw [List.flatMap_eq_nil_iff] at empty ⊢
        exact fun entry member => empty entry (permuted.mem_iff.mpr member)
      rw [none_there]
      rfl
    | some binding =>
      cases there : (other.flatMap bindings).head? with
      | none =>
        have empty := List.head?_eq_none_iff.mp there
        have none_here : ports.flatMap bindings = [] := by
          rw [List.flatMap_eq_nil_iff] at empty ⊢
          exact fun entry member => empty entry (permuted.mem_iff.mp member)
        rw [none_here] at here
        cases here
      | some first =>
        obtain ⟨entry, member, head⟩ := head_flatMap here
        obtain ⟨later, member', head'⟩ := head_flatMap there
        exact alike later (permuted.mem_iff.mpr member') entry member first head' binding head

/-- The daemon has bound what was asked for, each container port to a host port of its choice, and nothing else. -/
structure Binds (asked : Option PortMap) (chosen : String → UInt16) (ports : PortMap) : Prop where
  all : ∀ request ∈ asked.getD [], ∃ entry ∈ ports, entry.1 = request.1 ∧ bindings entry ≠ []
  only : ∀ entry ∈ ports, bindings entry ≠ [] → ∃ request ∈ asked.getD [], request.1 = entry.1
  ports : ∀ entry ∈ ports, ∀ binding ∈ bindings entry, binding.hostPort = some (toString (chosen entry.1).toNat)

theorem Binds.perm {asked : Option PortMap} {chosen : String → UInt16} {ports other : PortMap}
    (binds : Binds asked chosen ports) (permuted : ports.Perm other) : Binds asked chosen other where
  all request member := by
    obtain ⟨entry, there, bound⟩ := binds.all request member
    exact ⟨entry, permuted.mem_iff.mp there, bound⟩
  only entry member := binds.only entry (permuted.mem_iff.mpr member)
  ports entry member := binds.ports entry (permuted.mem_iff.mpr member)

theorem hostPort_chosen {asked : Option PortMap} {chosen : String → UInt16} {ports : PortMap}
    (binds : Binds asked chosen ports) {entry : String × Option (List PortBinding)} (member : entry ∈ ports)
    {binding : PortBinding} (inside : binding ∈ bindings entry) : hostPort binding = some (chosen entry.1) := by
  rw [hostPort, binds.ports entry member binding inside, Option.bind_some, parseU16_toString]

/-- What is read back is the host port of the container's own port where it is published, and nothing where it is not. -/
theorem publishedPort_own (spec : ContainerRuntime.ContainerSpec) {chosen : String → UInt16} {ports : PortMap}
    (binds : Binds (portBindings spec) chosen ports) :
    publishedPort ports =
      if spec.portPublish = .ephemeral then some (chosen (containerPortProto spec.containerPort)) else none := by
  rw [publishedPort_eq]
  cases published : spec.portPublish with
  | unpublished =>
    have nothing : (ports.flatMap bindings) = [] := by
      rw [List.flatMap_eq_nil_iff]
      intro entry member
      by_contra bound
      obtain ⟨request, asked, -⟩ := binds.only entry member bound
      rw [portBindings, published] at asked
      cases asked
    rw [nothing]
    rfl
  | ephemeral =>
    have asked : portBindings spec = some [(containerPortProto spec.containerPort, some [⟨some "127.0.0.1", none⟩])] := by
      rw [portBindings, published]
    have wanted : (containerPortProto spec.containerPort, some [⟨some "127.0.0.1", none⟩]) ∈ (portBindings spec).getD [] := by
      rw [asked]
      exact List.mem_singleton_self _
    obtain ⟨own, member, -, bound⟩ := binds.all _ wanted
    cases first : (ports.flatMap bindings).head? with
    | none =>
      rw [List.head?_eq_none_iff, List.flatMap_eq_nil_iff] at first
      exact absurd (first own member) bound
    | some binding =>
      -- whichever entry comes first, it is the container's own port
      obtain ⟨entry, there, head⟩ := head_flatMap first
      have inside := List.mem_of_head? head
      obtain ⟨request, only, named⟩ := binds.only entry there (List.ne_nil_of_mem inside)
      rw [asked] at only
      obtain rfl := List.mem_singleton.mp only
      rw [Option.bind_some, hostPort_chosen binds there inside, ← named, if_pos rfl]

/-- Which port is read does not depend on the order exactly where all published ports read alike, as they do where the
daemon binds what a container's specification asks for. -/
theorem publishedPort_perm_iff (ports : PortMap) :
    ((∀ other, ports.Perm other → publishedPort other = publishedPort ports) ↔ ReadsAlike ports) ∧
    ∀ (spec : ContainerRuntime.ContainerSpec) (chosen : String → UInt16), Binds (portBindings spec) chosen ports →
      ReadsAlike ports ∧ publishedPort ports =
        if spec.portPublish = .ephemeral then some (chosen (containerPortProto spec.containerPort)) else none := by
  refine ⟨publishedPort_perm ports, fun spec chosen binds => ⟨?_, publishedPort_own spec binds⟩⟩
  exact (publishedPort_perm ports).mp fun other permuted => by
    rw [publishedPort_own spec (binds.perm permuted), publishedPort_own spec binds]

end BollardContainerRuntime

theorem parseU32_toString (value : UInt32) : parseU32 (toString value.toNat).toList = some value := by
  have small := value.toNat_lt
  simp only [parseU32, Nat.toString_eq_repr, Nat.toList_repr, head_toDigits, if_false, Nat.toDigits_ne_nil,
    decimalValue_toDigits]
  simp [small]

end AppSalmon
