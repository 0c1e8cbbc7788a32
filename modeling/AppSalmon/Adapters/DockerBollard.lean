import AppSalmon.Domain.Cluster
import AppSalmon.Library.Cancellation

/-! The container runtime over the Docker Engine API, and the host that answers its requests.

What a container is made from beyond its name, its network and whether it has a
health check is left to the daemon. The host answers as it likes, except that
what is not there is not found.
-/

set_option autoImplicit false

namespace AppSalmon

open Cancellation (Client)

/-! ## The port -/

inductive HealthState where
  | none | starting | healthy | unhealthy
  deriving DecidableEq

inductive ContainerStatus where
  | running (publishedPort : Option UInt16) (health : Option HealthState)
  | exited (exitCode : Int32)
  | notFound
  deriving DecidableEq

structure ContainerSpec where
  name : String
  network : Option String
  healthCheck : Bool
  deriving DecidableEq

/-- A call that leaves the program, and may go on when nobody waits for it any more. -/
inductive ExternalCall where
  | createContainer (spec : ContainerSpec)
  | startContainer (name : String)
  | inspectContainer (name : String)
  | removeContainer (name : String)
  | createNetwork (name : String)
  | removeNetwork (name : String)
  | createDirAll (dir : UnixPath.Path)
  | write (dir : UnixPath.Path) (file : String)
  | removeDirAll (dir : UnixPath.Path)
  | sleep
  | connect (port : UInt16)
  | execute (sql : String)
  /-- What `do_spawn` awaits before it calls the backend. -/
  | prepare
  | wipeWorkerDir
  | deleteRow (clusterId : String)
  deriving DecidableEq

inductive ExternalReply where
  | done
  | status (status : ContainerStatus)
  /-- The daemon's 404, or an absent path. -/
  | notFound
  | refused (source : String)
  deriving DecidableEq

abbrev External (α : Type) := Client ExternalCall ExternalReply α

/-- The error of a call whose only success is to be done. -/
def ExternalReply.check : ExternalReply → Except String Unit
  | .done | .status _ => .ok ()
  | .notFound => .error "404"
  | .refused source => .error source

/-! ## The adapter -/

namespace BollardContainerRuntime

def createAndStart (spec : ContainerSpec) : External (Except DockerError String) :=
  (Client.send (.createContainer spec)).bind fun created =>
    match created.check with
    | .error source => .ready (.error (.createContainer source))
    | .ok () =>
      (Client.send (.startContainer spec.name)).bind fun started =>
        match started.check with
        | .error source => .ready (.error (.startContainer spec.name source))
        | .ok () => .ready (.ok spec.name)

def inspect (handle : String) : External (Except DockerError ContainerStatus) :=
  (Client.send (.inspectContainer handle)).bind fun reply =>
    .ready (match reply with
      | .status status => .ok status
      | .done => .ok (.exited (-1))
      | .notFound => .ok .notFound
      | .refused source => .error (.inspectContainer handle source))

/-- A container that is gone already counts as removed. -/
def stopAndRemove (handle : String) : External (Except DockerError Unit) :=
  (Client.send (.removeContainer handle)).bind fun reply =>
    .ready (match reply with
      | .done | .status _ | .notFound => .ok ()
      | .refused source => .error (.removeContainer handle source))

def createNetwork (name : String) : External (Except DockerError String) :=
  (Client.send (.createNetwork name)).bind fun reply =>
    .ready (match reply.check with
      | .ok () => .ok name
      | .error source => .error (.createNetwork name source))

def removeNetwork (network : String) : External (Except DockerError Unit) :=
  (Client.send (.removeNetwork network)).bind fun reply =>
    .ready (match reply with
      | .done | .status _ | .notFound => .ok ()
      | .refused source => .error (.removeNetwork network source))

end BollardContainerRuntime

/-! ## The host -/

structure Host where
  containers : List ContainerSpec
  networks : List String
  dirs : List UnixPath.Path
  rows : List String
  deriving DecidableEq

/-- How the host takes one call: the error it answers with, or what an inspection sees. -/
structure Choice where
  refusal : Option String := none
  status : ContainerStatus := .running none none

namespace Host

def Has (host : Host) (name : String) : Prop := ∃ spec ∈ host.containers, spec.name = name

instance (host : Host) (name : String) : Decidable (host.Has name) := inferInstanceAs (Decidable (∃ _ ∈ _, _))

def carryOut (host : Host) (status : ContainerStatus) : ExternalCall → ExternalReply × Host
  | .createContainer spec =>
    if host.Has spec.name then (.refused "409", host) else (.done, { host with containers := spec :: host.containers })
  | .startContainer name => (if host.Has name then .done else .notFound, host)
  | .inspectContainer name => (if host.Has name then .status status else .notFound, host)
  | .removeContainer name =>
    if host.Has name then (.done, { host with containers := host.containers.filter fun spec => spec.name ≠ name })
    else (.notFound, host)
  | .createNetwork name => (.done, { host with networks := name :: host.networks })
  | .removeNetwork name =>
    if name ∈ host.networks then (.done, { host with networks := host.networks.filter fun other => other ≠ name })
    else (.notFound, host)
  | .createDirAll dir => (.done, { host with dirs := dir :: host.dirs })
  | .removeDirAll dir =>
    if dir ∈ host.dirs then (.done, { host with dirs := host.dirs.filter fun other => other ≠ dir })
    else (.notFound, host)
  | .deleteRow clusterId => (.done, { host with rows := host.rows.filter fun other => other ≠ clusterId })
  | .write .. | .sleep | .connect _ | .execute _ | .prepare | .wipeWorkerDir => (.done, host)

def serve (host : Host) (call : ExternalCall) (choice : Choice) : ExternalReply × Host :=
  match choice.refusal with
  | none => host.carryOut choice.status call
  | some source => (.refused source, host)

/-- Only a create makes a container. -/
theorem has_serve {host : Host} {call : ExternalCall} {choice : Choice} {name : String}
    (has : (host.serve call choice).2.Has name) :
    host.Has name ∨ ∃ spec, call = .createContainer spec ∧ spec.name = name := by
  unfold serve at has
  split at has
  · cases call with
    | createContainer spec =>
      simp only [carryOut] at has
      split at has
      · exact .inl has
      · obtain ⟨other, member, named⟩ := has
        rcases List.mem_cons.mp member with rfl | old
        · exact .inr ⟨other, rfl, named⟩
        · exact .inl ⟨other, old, named⟩
    | removeContainer removed =>
      simp only [carryOut] at has
      split at has
      · obtain ⟨spec, member, named⟩ := has
        exact .inl ⟨spec, (List.mem_filter.mp member).1, named⟩
      · exact .inl has
    | removeNetwork | removeDirAll =>
      simp only [carryOut] at has
      split at has <;> exact .inl has
    | startContainer | inspectContainer | createNetwork | createDirAll | write | sleep | connect | execute | prepare
    | wipeWorkerDir | deleteRow => exact .inl has
  · exact .inl has

theorem serve_of_accepted {host : Host} {call : ExternalCall} {choice : Choice}
    (accepted : ∀ source, (host.serve call choice).1 ≠ .refused source) :
    host.serve call choice = host.carryOut choice.status call := by
  unfold serve at accepted ⊢
  cases refusal : choice.refusal with
  | some source =>
    rw [refusal] at accepted
    exact absurd rfl (accepted source)
  | none => rfl

/-- A removal that is not refused leaves no container of the name. -/
theorem not_has_removed {host : Host} {choice : Choice} {name : String}
    (accepted : ∀ source, (host.serve (.removeContainer name) choice).1 ≠ .refused source) :
    ¬ (host.serve (.removeContainer name) choice).2.Has name := by
  rw [serve_of_accepted accepted]
  simp only [carryOut]
  split
  · rintro ⟨spec, member, named⟩
    have other := (List.mem_filter.mp member).2
    simp [named] at other
  · assumption

/-- Only its own deletion takes a row away. -/
theorem rows_serve {host : Host} {call : ExternalCall} {choice : Choice} {clusterId : String}
    (gone : clusterId ∉ (host.serve call choice).2.rows) : clusterId ∉ host.rows ∨ call = .deleteRow clusterId := by
  unfold serve at gone
  split at gone
  · cases call with
    | deleteRow deleted =>
      by_cases same : deleted = clusterId
      · exact .inr (same ▸ rfl)
      · refine .inl fun here => gone (List.mem_filter.mpr ⟨here, ?_⟩)
        simpa using Ne.symm same
    | createContainer | removeContainer | removeNetwork | removeDirAll =>
      simp only [carryOut] at gone
      split at gone <;> exact .inl gone
    | startContainer | inspectContainer | createNetwork | createDirAll | write | sleep | connect | execute | prepare
    | wipeWorkerDir => exact .inl gone
  · exact .inl gone

end Host

end AppSalmon
