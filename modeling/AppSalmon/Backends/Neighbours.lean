import AppSalmon.Backends.Resources
import AppSalmon.Backends.StartOrder
import AppSalmon.Library.Sharing

/-! The backends of many clusters on one host.

The calls of different clusters come in any order, those of futures that were
dropped included. What a backend tells of its own cluster is true all the same.
-/

set_option autoImplicit false

namespace AppSalmon

open Cancellation (Client OnSuccess)
open StartOrder (Succeeded)

/-! ## Whether a cluster is alive -/

def PostgresBackend.isAlive (clusterId : String) : External (Except ClusterError Bool) :=
  (viaDocker (BollardContainerRuntime.inspect (containerName clusterId))).andThen fun status =>
    match status with
    | .running .. => .ready (.ok true)
    | .exited _ | .notFound => .ready (.ok false)

namespace SupabaseBackend

/-- The first container that does not run ends it. -/
def allRunning : List String → External (Except ClusterError Bool)
  | [] => .ready (.ok true)
  | name :: rest =>
    (viaDocker (BollardContainerRuntime.inspect name)).andThen fun status =>
      match status with
      | .running .. => allRunning rest
      | .exited _ | .notFound => .ready (.ok false)

def isAlive (clusterId : String) : External (Except ClusterError Bool) :=
  allRunning (serviceSuffixes.map (containerName clusterId))

end SupabaseBackend

def ServiceKind.isAlive (clusterId : String) : ServiceKind → External (Except ClusterError Bool)
  | .postgres => PostgresBackend.isAlive clusterId
  | .supabase => SupabaseBackend.isAlive clusterId

/-- Both kinds look at their containers one by one. -/
theorem ServiceKind.isAlive_eq (clusterId : String) (kind : ServiceKind) :
    kind.isAlive clusterId = SupabaseBackend.allRunning (kind.containerNames clusterId) := by
  cases kind <;> rfl

/-! ## What is called for a cluster -/

/-- Calls about these resources. -/
def ExternalCall.Concerns (names : ResourceNames) : ExternalCall → Prop
  | .createContainer spec => spec.name ∈ names.containers
  | .startContainer name | .inspectContainer name | .removeContainer name => name ∈ names.containers
  | .createNetwork network | .removeNetwork network => network ∈ names.networks
  | .createDirAll dir | .write dir _ | .removeDirAll dir => dir ∈ names.dirs
  | .sleep | .connect _ | .execute _ => True
  | .prepare | .wipeWorkerDir | .deleteRow _ => False

def ExternalCall.InspectsIn (names : List String) (call : ExternalCall) : Prop := ∃ name ∈ names, call = .inspectContainer name

/-- Calls that a teardown makes, for these resources. -/
def ExternalCall.RemovesIn (names : ResourceNames) (call : ExternalCall) : Prop :=
  (∃ name ∈ names.containers, call = .removeContainer name) ∨ (∃ network ∈ names.networks, call = .removeNetwork network) ∨
    ∃ dir ∈ names.dirs, call = .removeDirAll dir

section
variable {names : ResourceNames} {call : ExternalCall}

theorem ExternalCall.SpawnsIn.concerns (spawns : call.SpawnsIn names) : call.Concerns names := by
  cases call with
  | createContainer | startContainer | inspectContainer | createNetwork | createDirAll | write => exact spawns
  | sleep | connect | execute => trivial
  | removeContainer | removeNetwork | removeDirAll | prepare | wipeWorkerDir | deleteRow => exact spawns.elim

theorem ExternalCall.RemovesIn.concerns (removes : call.RemovesIn names) : call.Concerns names := by
  rcases removes with ⟨name, own, rfl⟩ | ⟨network, own, rfl⟩ | ⟨dir, own, rfl⟩ <;> exact own

theorem ExternalCall.InspectsIn.concerns (inspects : call.InspectsIn names.containers) : call.Concerns names := by
  obtain ⟨name, own, rfl⟩ := inspects
  exact own

end

theorem SupabaseBackend.allRunning_sends {names owned : List String} (own : ∀ name ∈ names, name ∈ owned) :
    (allRunning names).Sends (ExternalCall.InspectsIn owned) := by
  induction names with
  | nil => trivial
  | cons name rest ih =>
    apply Client.Sends.andThen
    · exact viaDocker_sends ⟨⟨name, own name List.mem_cons_self, rfl⟩, fun _ => trivial⟩
    intro status
    cases status with
    | running => exact ih fun other later => own other (List.mem_cons_of_mem _ later)
    | exited | notFound => trivial

theorem SupabaseBackend.removeAll_removes {names : ResourceNames} {containers : List String}
    (own : ∀ name ∈ containers, name ∈ names.containers) :
    (removeAll containers).Sends (ExternalCall.RemovesIn names) := by
  induction containers with
  | nil => trivial
  | cons name rest ih =>
    apply Client.Sends.andThen
    · exact viaDocker_sends ⟨.inl ⟨name, own name List.mem_cons_self, rfl⟩, fun _ => trivial⟩
    · exact fun _ => ih fun other later => own other (List.mem_cons_of_mem _ later)

theorem ServiceKind.teardown_removes (params : SpawnParams) (kind : ServiceKind) :
    (kind.teardown params).Sends
      (ExternalCall.RemovesIn (kind.resources params.generatedConfigDirBase params.clusterId)) := by
  cases kind with
  | postgres => exact viaDocker_sends ⟨.inl ⟨_, List.mem_singleton_self _, rfl⟩, fun _ => trivial⟩
  | supabase =>
    apply (SupabaseBackend.removeAll_removes fun _ own => own).andThen
    intro removed
    apply Client.Sends.andThen
    · exact viaDocker_sends ⟨.inr (.inl ⟨_, List.mem_singleton_self _, rfl⟩), fun _ => trivial⟩
    · exact fun _ => Client.Sends.map ⟨.inr (.inr ⟨_, List.mem_singleton_self _, rfl⟩), fun _ => trivial⟩

theorem ServiceKind.isAlive_sends (clusterId : String) (kind : ServiceKind) :
    (kind.isAlive clusterId).Sends (ExternalCall.InspectsIn (kind.containerNames clusterId)) := by
  rw [isAlive_eq]
  exact SupabaseBackend.allRunning_sends fun _ own => own

/-! ## What the replies add up to -/

/-- An answer to a removal that says that there is nothing left to remove. -/
def Gone (past : Exchanges) (call : ExternalCall) : Prop := ∃ reply, (call, reply) ∈ past ∧ ∀ source, reply ≠ .refused source

theorem Gone.mono {past later : Exchanges} {call : ExternalCall} (gone : Gone past call) (extends_ : past <+: later) :
    Gone later call := by
  obtain ⟨reply, member, accepted⟩ := gone
  exact ⟨reply, extends_.subset member, accepted⟩

def SeenRunning (past : Exchanges) (name : String) : Prop :=
  ∃ publishedPort health, (ExternalCall.inspectContainer name, ExternalReply.status (.running publishedPort health)) ∈ past

/-- An answer to an inspection that there is no such container, or that it does not run. -/
def SeenDown (past : Exchanges) (name : String) : Prop :=
  ∃ reply, (ExternalCall.inspectContainer name, reply) ∈ past ∧ (∀ source, reply ≠ .refused source) ∧
    ∀ publishedPort health, reply ≠ .status (.running publishedPort health)

/-- Nothing is asked of the requests. -/
def Any (_past : Exchanges) (_call : ExternalCall) : Prop := True

section
variable {past : Exchanges}

/-- A removal succeeds where there is nothing left to remove. -/
theorem removal_obeys (call : ExternalCall) (error : String → DockerError) :
    (viaDocker ((Client.send call).bind fun reply =>
      .ready (match reply with
        | .done | .status _ | .notFound => .ok ()
        | .refused source => .error (error source)))).Obeys Any
      (OnSuccess fun after _ => past <+: after ∧ Gone after call) past := by
  refine ⟨trivial, fun reply => ?_⟩
  cases reply with
  | refused source => exact OnSuccess.error
  | done | status | notFound =>
    apply OnSuccess.ok
    exact ⟨List.prefix_append _ _, _, List.mem_append_right _ (List.mem_singleton_self _), fun _ same => by cases same⟩

theorem stopAndRemove_obeys (name : String) :
    (viaDocker (BollardContainerRuntime.stopAndRemove name)).Obeys Any
      (OnSuccess fun after _ => past <+: after ∧ Gone after (.removeContainer name)) past :=
  removal_obeys (.removeContainer name) (.removeContainer name)

theorem removeNetwork_obeys (network : String) :
    (viaDocker (BollardContainerRuntime.removeNetwork network)).Obeys Any
      (OnSuccess fun after _ => past <+: after ∧ Gone after (.removeNetwork network)) past :=
  removal_obeys (.removeNetwork network) (.removeNetwork network)

theorem removeAll_obeys (names : List String) :
    (SupabaseBackend.removeAll names).Obeys Any
      (OnSuccess fun after _ => past <+: after ∧ ∀ name ∈ names, Gone after (.removeContainer name)) past := by
  induction names generalizing past with
  | nil => exact OnSuccess.ok ⟨List.prefix_rfl, fun _ none_left => (List.not_mem_nil none_left).elim⟩
  | cons name rest ih =>
    apply (stopAndRemove_obeys name).andThen
    rintro removed - ⟨first, gone⟩
    apply ih.mono
    intro after result good value same
    obtain ⟨second, others⟩ := good value same
    refine ⟨first.trans second, ?_⟩
    rw [List.forall_mem_cons]
    exact ⟨gone.mono second, others⟩

/-- A teardown that succeeds has been told of each container and of the network that it is gone. -/
theorem teardown_obeys (params : SpawnParams) (kind : ServiceKind) :
    (kind.teardown params).Obeys Any (OnSuccess fun after _ =>
      (∀ name ∈ kind.containerNames params.clusterId, Gone after (.removeContainer name)) ∧
        ∀ network ∈ (kind.resources params.generatedConfigDirBase params.clusterId).networks,
          Gone after (.removeNetwork network)) [] := by
  cases kind with
  | postgres =>
    apply (stopAndRemove_obeys _).mono
    intro after result good value same
    refine ⟨fun name member => ?_, fun _ none_there => (List.not_mem_nil none_there).elim⟩
    rw [List.mem_singleton.mp member]
    exact (good value same).2
  | supabase =>
    apply (removeAll_obeys _).andThen
    rintro removed - ⟨-, containers⟩
    apply (removeNetwork_obeys _).andThen
    rintro detached - ⟨further, network⟩
    refine ⟨trivial, fun reply => OnSuccess.ok ?_⟩
    have last : detached <+: detached ++ [(ExternalCall.removeDirAll (SupabaseBackend.configDir params.generatedConfigDirBase
        params.clusterId), reply)] := List.prefix_append _ _
    refine ⟨fun name member => (containers name member).mono (further.trans last), fun other member => ?_⟩
    rw [List.mem_singleton.mp member]
    exact network.mono last

/-- The answer of a check is what the inspections add up to. -/
theorem allRunning_obeys (names : List String) :
    (SupabaseBackend.allRunning names).Obeys Any (OnSuccess fun after alive => past <+: after ∧
      if alive = true then ∀ name ∈ names, SeenRunning after name else ∃ name ∈ names, SeenDown after name) past := by
  induction names generalizing past with
  | nil => exact OnSuccess.ok ⟨List.prefix_rfl, fun _ none_left => (List.not_mem_nil none_left).elim⟩
  | cons name rest ih =>
    have down {reply : ExternalReply} (answered : ∀ source, reply ≠ .refused source)
        (idle : ∀ publishedPort health, reply ≠ .status (.running publishedPort health)) :
        ∃ other ∈ name :: rest, SeenDown (past ++ [(.inspectContainer name, reply)]) other :=
      ⟨name, List.mem_cons_self, reply, List.mem_append_right _ (List.mem_singleton_self _), answered, idle⟩
    refine ⟨trivial, fun reply => ?_⟩
    have first : past <+: past ++ [(ExternalCall.inspectContainer name, reply)] := List.prefix_append _ _
    cases reply with
    | refused source => exact OnSuccess.error
    | done | notFound =>
      exact OnSuccess.ok ⟨first, down (fun _ same => by cases same) fun _ _ same => by cases same⟩
    | status status =>
      cases status with
      | exited | notFound =>
        exact OnSuccess.ok ⟨first, down (fun _ same => by cases same) fun _ _ same => by cases same⟩
      | running publishedPort health =>
        apply ih.mono
        intro after result good alive same
        obtain ⟨second, rests⟩ := good alive same
        refine ⟨first.trans second, ?_⟩
        split at rests
        · next up =>
          rw [if_pos up, List.forall_mem_cons]
          exact ⟨⟨publishedPort, health, second.subset (List.mem_append_right _ (List.mem_singleton_self _))⟩, rests⟩
        · next up =>
          rw [if_neg up]
          obtain ⟨other, member, seen⟩ := rests
          exact ⟨other, List.mem_cons_of_mem _ member, seen⟩

theorem isAlive_obeys (clusterId : String) (kind : ServiceKind) :
    (kind.isAlive clusterId).Obeys Any (OnSuccess fun after alive =>
      if alive = true then ∀ name ∈ kind.containerNames clusterId, SeenRunning after name
      else ∃ name ∈ kind.containerNames clusterId, SeenDown after name) [] := by
  rw [ServiceKind.isAlive_eq]
  apply (allRunning_obeys _).mono
  exact fun after result good alive same => (good alive same).2

end

/-! ## On one host -/

namespace Host

variable {host final : Host} {names theirs : ResourceNames} {call : ExternalCall} {choice : Choice}

/-- The two have the same of what goes by these names. -/
structure Agrees (host next : Host) (names : ResourceNames) : Prop where
  containers : ∀ name ∈ names.containers, next.Has name ↔ host.Has name
  networks : ∀ network ∈ names.networks, network ∈ next.networks ↔ network ∈ host.networks
  dirs : ∀ dir ∈ names.dirs, dir ∈ next.dirs ↔ dir ∈ host.dirs

/-- All that goes by these names is there. -/
structure Stands (host : Host) (names : ResourceNames) : Prop where
  containers : ∀ name ∈ names.containers, host.Has name
  networks : ∀ network ∈ names.networks, network ∈ host.networks
  dirs : ∀ dir ∈ names.dirs, dir ∈ host.dirs

/-- Of these names there are no containers and no networks. -/
structure Cleared (host : Host) (names : ResourceNames) : Prop where
  containers : ∀ name ∈ names.containers, ¬ host.Has name
  networks : ∀ network ∈ names.networks, network ∉ host.networks

theorem Agrees.refl (host : Host) (names : ResourceNames) : host.Agrees host names :=
  ⟨fun _ _ => Iff.rfl, fun _ _ => Iff.rfl, fun _ _ => Iff.rfl⟩

theorem Agrees.trans {next : Host} (first : host.Agrees next names) (second : next.Agrees final names) :
    host.Agrees final names where
  containers := fun name own => (second.containers name own).trans (first.containers name own)
  networks := fun network own => (second.networks network own).trans (first.networks network own)
  dirs := fun dir own => (second.dirs dir own).trans (first.dirs dir own)

theorem has_serve_iff {name : String} (concerns : call.Concerns theirs) (other : name ∉ theirs.containers) :
    (host.serve call choice).2.Has name ↔ host.Has name := by
  unfold serve
  split
  · cases call with
    | createContainer spec =>
      have different : spec.name ≠ name := fun same => other (same ▸ concerns)
      simp only [carryOut]
      split
      · rfl
      · simp [Has, different]
    | removeContainer removed =>
      have different : name ≠ removed := fun same => other (same ▸ concerns)
      simp only [carryOut]
      split
      · simp only [Has, List.mem_filter, decide_eq_true_eq]
        constructor
        · rintro ⟨spec, ⟨there, -⟩, named⟩
          exact ⟨spec, there, named⟩
        · rintro ⟨spec, there, rfl⟩
          exact ⟨spec, ⟨there, different⟩, rfl⟩
      · rfl
    | removeNetwork | removeDirAll =>
      simp only [carryOut]
      split <;> rfl
    | startContainer | inspectContainer | createNetwork | createDirAll | write | sleep | connect | execute => rfl
    | prepare | wipeWorkerDir | deleteRow => exact concerns.elim
  · rfl

theorem network_serve_iff {network : String} (concerns : call.Concerns theirs) (other : network ∉ theirs.networks) :
    network ∈ (host.serve call choice).2.networks ↔ network ∈ host.networks := by
  unfold serve
  split
  · cases call with
    | createNetwork made =>
      have different : network ≠ made := fun same => other (same ▸ concerns)
      simp [carryOut, different]
    | removeNetwork removed =>
      have different : network ≠ removed := fun same => other (same ▸ concerns)
      simp only [carryOut]
      split
      · simp [different]
      · rfl
    | createContainer | removeContainer | removeDirAll =>
      simp only [carryOut]
      split <;> rfl
    | startContainer | inspectContainer | createDirAll | write | sleep | connect | execute => rfl
    | prepare | wipeWorkerDir | deleteRow => exact concerns.elim
  · rfl

theorem dir_serve_iff {dir : UnixPath.Path} (concerns : call.Concerns theirs) (other : dir ∉ theirs.dirs) :
    dir ∈ (host.serve call choice).2.dirs ↔ dir ∈ host.dirs := by
  unfold serve
  split
  · cases call with
    | createDirAll made =>
      have different : dir ≠ made := fun same => other (same ▸ concerns)
      simp [carryOut, different]
    | removeDirAll removed =>
      have different : dir ≠ removed := fun same => other (same ▸ concerns)
      simp only [carryOut]
      split
      · simp [different]
      · rfl
    | createContainer | removeContainer | removeNetwork =>
      simp only [carryOut]
      split <;> rfl
    | startContainer | inspectContainer | createNetwork | write | sleep | connect | execute => rfl
    | prepare | wipeWorkerDir | deleteRow => exact concerns.elim
  · rfl

/-! ### The calls of one cluster -/

/-- A spawn takes nothing away. -/
theorem has_serve_spawns (spawns : call.SpawnsIn names) {name : String} (has : host.Has name) :
    (host.serve call choice).2.Has name := by
  unfold serve
  split
  · cases call with
    | createContainer spec =>
      simp only [carryOut]
      split
      · exact has
      · obtain ⟨other, there, named⟩ := has
        exact ⟨other, List.mem_cons_of_mem _ there, named⟩
    | startContainer | inspectContainer | createNetwork | createDirAll | write | sleep | connect | execute => exact has
    | removeContainer | removeNetwork | removeDirAll | prepare | wipeWorkerDir | deleteRow => exact spawns.elim
  · exact has

theorem network_serve_spawns (spawns : call.SpawnsIn names) {network : String} (there : network ∈ host.networks) :
    network ∈ (host.serve call choice).2.networks := by
  unfold serve
  split
  · cases call with
    | createNetwork made => exact List.mem_cons_of_mem _ there
    | createContainer spec =>
      simp only [carryOut]
      split <;> exact there
    | startContainer | inspectContainer | createDirAll | write | sleep | connect | execute => exact there
    | removeContainer | removeNetwork | removeDirAll | prepare | wipeWorkerDir | deleteRow => exact spawns.elim
  · exact there

theorem dir_serve_spawns (spawns : call.SpawnsIn names) {dir : UnixPath.Path} (there : dir ∈ host.dirs) :
    dir ∈ (host.serve call choice).2.dirs := by
  unfold serve
  split
  · cases call with
    | createDirAll made => exact List.mem_cons_of_mem _ there
    | createContainer spec =>
      simp only [carryOut]
      split <;> exact there
    | startContainer | inspectContainer | createNetwork | write | sleep | connect | execute => exact there
    | removeContainer | removeNetwork | removeDirAll | prepare | wipeWorkerDir | deleteRow => exact spawns.elim
  · exact there

/-- A teardown brings nothing back. -/
theorem has_of_serve_removes (removes : call.RemovesIn names) {name : String} (has : (host.serve call choice).2.Has name) :
    host.Has name := by
  rcases has_serve has with before | ⟨spec, rfl, -⟩
  · exact before
  · rcases removes with ⟨_, _, same⟩ | ⟨_, _, same⟩ | ⟨_, _, same⟩ <;> cases same

theorem network_of_serve_removes (removes : call.RemovesIn names) {network : String}
    (there : network ∈ (host.serve call choice).2.networks) : network ∈ host.networks := by
  unfold serve at there
  split at there
  · rcases removes with ⟨_, _, rfl⟩ | ⟨removed, _, rfl⟩ | ⟨_, _, rfl⟩
    · simp only [carryOut] at there
      split at there <;> exact there
    · simp only [carryOut] at there
      split at there
      · exact (List.mem_filter.mp there).1
      · exact there
    · simp only [carryOut] at there
      split at there <;> exact there
  · exact there

/-- An inspection changes nothing. -/
theorem serve_inspects {containers : List String} (inspects : call.InspectsIn containers) :
    (host.serve call choice).2 = host := by
  obtain ⟨name, -, rfl⟩ := inspects
  unfold serve
  split <;> rfl

/-! ### What a reply tells -/

theorem has_created {spec : ContainerSpec} (checked : (host.serve (.createContainer spec) choice).1.check = .ok ()) :
    (host.serve (.createContainer spec) choice).2.Has spec.name := by
  unfold serve at checked ⊢
  split at checked
  · simp only [carryOut] at checked ⊢
    split at checked
    · cases checked
    · next missing =>
      rw [if_neg missing]
      exact ⟨spec, List.mem_cons_self, rfl⟩
  · cases checked

theorem network_created {network : String} (checked : (host.serve (.createNetwork network) choice).1.check = .ok ()) :
    network ∈ (host.serve (.createNetwork network) choice).2.networks := by
  unfold serve at checked ⊢
  split at checked
  · exact List.mem_cons_self
  · cases checked

theorem dir_created {dir : UnixPath.Path} (checked : (host.serve (.createDirAll dir) choice).1.check = .ok ()) :
    dir ∈ (host.serve (.createDirAll dir) choice).2.dirs := by
  unfold serve at checked ⊢
  split at checked
  · exact List.mem_cons_self
  · cases checked

theorem network_gone {network : String} (accepted : ∀ source, (host.serve (.removeNetwork network) choice).1 ≠ .refused source) :
    network ∉ (host.serve (.removeNetwork network) choice).2.networks := by
  rw [serve_of_accepted accepted]
  simp only [carryOut]
  split
  · simp
  · assumption

/-- Only what is there is seen, and it is always found. -/
theorem inspected {name : String} {reply : ExternalReply} (answered : ∀ source, reply ≠ .refused source)
    (served : (host.serve (.inspectContainer name) choice).1 = reply) :
    reply = if host.Has name then .status choice.status else .notFound := by
  subst served
  rw [serve_of_accepted answered]
  rfl

end Host

/-! ## Amid the calls of others -/

/-- What the backends may come to ask for a cluster, at any time and told anything. -/
def MayCall (texts : IdTexts) (base : UnixPath.Path) (id : ClusterId) (call : ExternalCall) : Prop :=
  ∃ (params : SpawnParams) (kind : ServiceKind) (past : Exchanges), params.generatedConfigDirBase = base ∧
    ((kind.spawn (params.named texts id)).Awaits past call ∨ (kind.teardown (params.named texts id)).Awaits past call ∨
      (kind.isAlive (texts.text id)).Awaits past call)

/-- Calls for other clusters, any number of them and in any order. -/
def Elsewhere (texts : IdTexts) (base : UnixPath.Path) (id : ClusterId) : Host → Host → Prop :=
  Relation.ReflTransGen fun host next =>
    ∃ other call choice, other ≠ id ∧ MayCall texts base other call ∧ next = (host.serve call choice).2

section
variable {texts : IdTexts} {base : UnixPath.Path} {id other : ClusterId} {kind : ServiceKind} {call : ExternalCall}
  {host next final : Host} {exchanges : Exchanges}

theorem MayCall.concerns (may : MayCall texts base id call) :
    ∃ kind, call.Concerns (texts.resources base id kind) := by
  obtain ⟨params, kind, past, rfl, spawns | removes | inspects⟩ := may
  · exact ⟨kind, ((kind.spawn_sends_in (params.named texts id)).awaits spawns).concerns⟩
  · exact ⟨kind, ((kind.teardown_removes (params.named texts id)).awaits removes).concerns⟩
  · have names : kind.containerNames (texts.text id) = (texts.resources params.generatedConfigDirBase id kind).containers := rfl
    exact ⟨kind, (names ▸ (kind.isAlive_sends (texts.text id)).awaits inspects).concerns⟩

/-- What the others do leaves the resources of this cluster as they are. -/
theorem Elsewhere.agrees (elsewhere : Elsewhere texts base id host next) (kind : ServiceKind) :
    host.Agrees next (texts.resources base id kind) := by
  induction elsewhere with
  | refl => exact .refl _ _
  | tail _ one ih =>
    obtain ⟨other, call, choice, different, may, rfl⟩ := one
    obtain ⟨otherKind, concerns⟩ := may.concerns
    apply ih.trans
    constructor
    · exact fun name own => Host.has_serve_iff concerns fun theirs => different (containers_apart theirs own)
    · exact fun network own => Host.network_serve_iff concerns fun theirs => different (networks_apart theirs own)
    · exact fun dir own => Host.dir_serve_iff concerns fun theirs => different (dirs_apart theirs own)

/-- A spawn that has succeeded has all its resources on the host. -/
theorem spawn_stands {params : SpawnParams} {connection : ConnectionInfo}
    (shares : (kind.spawn (params.named texts id)).Shares (Elsewhere texts params.generatedConfigDirBase id) Host.serve
      host exchanges final (.ok connection)) :
    final.Stands (texts.resources params.generatedConfigDirBase id kind) := by
  have finished := (StartOrder.spawn_obeys (params.named texts id) kind).selects shares.selects rfl connection rfl
  have sends := kind.spawn_sends_in (params.named texts id)
  rw [List.nil_append] at finished
  constructor
  · intro name own
    -- each name is that of a container that was created on the way
    have named : name ∈ (StartOrder.startPlan (params.named texts id) kind).specs.map ContainerSpec.name := by
      cases kind with
      | postgres => exact own
      | supabase => exact own
    obtain ⟨spec, member, rfl⟩ := List.mem_map.mp named
    obtain ⟨_, created, started, health, order, made, -⟩ := finished.up spec member
    have exchanged := order.subset (List.mem_append_left _ List.mem_cons_self)
    apply shares.caused sends ⟨?_, ?_⟩ exchanged
    · intro met choice served
      exact Host.has_created (served ▸ made)
    · exact fun before after elsewhere has => ((elsewhere.agrees kind).containers _ own).mpr has
    · exact fun server message choice spawns has => Host.has_serve_spawns spawns has
  · intro network own
    cases kind with
    | postgres => cases own
    | supabase =>
      obtain rfl := List.mem_singleton.mp own
      obtain ⟨reply, exchanged, checked⟩ := finished.preliminaries _ List.mem_cons_self
      apply shares.caused sends ⟨?_, ?_⟩ exchanged
      · intro met choice served
        exact Host.network_created (served ▸ checked)
      · exact fun before after elsewhere there => ((elsewhere.agrees .supabase).networks _ own).mpr there
      · exact fun server message choice spawns there => Host.network_serve_spawns spawns there
  · intro dir own
    cases kind with
    | postgres => cases own
    | supabase =>
      obtain rfl := List.mem_singleton.mp own
      obtain ⟨reply, exchanged, checked⟩ := finished.preliminaries _ (List.mem_cons_of_mem _ List.mem_cons_self)
      apply shares.caused sends ⟨?_, ?_⟩ exchanged
      · intro met choice served
        exact Host.dir_created (served ▸ checked)
      · exact fun before after elsewhere there => ((elsewhere.agrees .supabase).dirs _ own).mpr there
      · exact fun server message choice spawns there => Host.dir_serve_spawns spawns there

/-- A teardown that has succeeded has left neither containers nor a network, whatever was there. -/
theorem teardown_cleared {params : SpawnParams}
    (shares : (kind.teardown (params.named texts id)).Shares (Elsewhere texts params.generatedConfigDirBase id) Host.serve
      host exchanges final (.ok ())) :
    final.Cleared (texts.resources params.generatedConfigDirBase id kind) := by
  obtain ⟨containers, networks⟩ :=
    (teardown_obeys (params.named texts id) kind).selects shares.selects rfl () rfl
  have sends := kind.teardown_removes (params.named texts id)
  constructor
  · intro name own
    obtain ⟨reply, exchanged, accepted⟩ := containers name own
    apply shares.caused sends ⟨?_, ?_⟩ exchanged
    · intro met choice served
      exact Host.not_has_removed (served ▸ accepted)
    · exact fun before after elsewhere gone has => gone (((elsewhere.agrees kind).containers _ own).mp has)
    · exact fun server message choice removes gone has => gone (Host.has_of_serve_removes removes has)
  · intro network own
    obtain ⟨reply, exchanged, accepted⟩ := networks network own
    apply shares.caused sends ⟨?_, ?_⟩ exchanged
    · intro met choice served
      exact Host.network_gone (served ▸ accepted)
    · exact fun before after elsewhere gone there => gone (((elsewhere.agrees kind).networks _ own).mp there)
    · exact fun server message choice removes gone there => gone (Host.network_of_serve_removes removes there)

/-- What a check says of the containers, from its start to its end. -/
structure TellsTruly (names : List String) (exchanges : Exchanges) (host final : Host) (alive : Bool) : Prop where
  up : alive = true → ∀ name ∈ names, host.Has name ∧ final.Has name ∧ SeenRunning exchanges name
  down : alive = false → ∃ name ∈ names, (¬ host.Has name ∧ ¬ final.Has name) ∨
    (host.Has name ∧ final.Has name ∧ ∃ status, (∀ publishedPort health, status ≠ .running publishedPort health) ∧
      (ExternalCall.inspectContainer name, ExternalReply.status status) ∈ exchanges)

theorem isAlive_tellsTruly {alive : Bool}
    (shares : (kind.isAlive (texts.text id)).Shares (Elsewhere texts base id) Host.serve host exchanges final (.ok alive)) :
    TellsTruly (texts.resources base id kind).containers exchanges host final alive := by
  have sends := kind.isAlive_sends (texts.text id)
  have summary := (isAlive_obeys (texts.text id) kind).selects shares.selects rfl alive rfl
  -- a check leaves each of the containers there or not there
  have steady (name : String) (own : name ∈ (texts.resources base id kind).containers) (There : Prop) :
      Client.Kept (Elsewhere texts base id) Host.serve (ExternalCall.InspectsIn (kind.containerNames (texts.text id)))
        fun host => host.Has name ↔ There := by
    constructor
    · exact fun before after elsewhere same => ((elsewhere.agrees kind).containers name own).trans same
    · intro server message choice inspects same
      rwa [Host.serve_inspects inspects]
  constructor
  · rintro rfl name own
    obtain ⟨publishedPort, health, exchanged⟩ := (if_pos rfl ▸ summary) name own
    obtain ⟨met, choice, there, served⟩ := shares.found sends (steady name own (host.Has name)) Iff.rfl exchanged
    have seen := Host.inspected (fun _ same => by cases same) served
    have has : host.Has name := by
      by_contra missing
      rw [if_neg (there.not.mpr missing)] at seen
      cases seen
    exact ⟨has, (shares.kept sends (steady name own (host.Has name)) Iff.rfl).mpr has, publishedPort, health, exchanged⟩
  · rintro rfl
    rw [if_neg Bool.false_ne_true] at summary
    obtain ⟨name, own, reply, exchanged, answered, idle⟩ := summary
    have last := shares.kept sends (steady name own (host.Has name)) Iff.rfl
    refine ⟨name, own, ?_⟩
    by_cases has : host.Has name
    · obtain ⟨met, choice, there, served⟩ := shares.found sends (steady name own (host.Has name)) Iff.rfl exchanged
      have seen := Host.inspected answered served
      rw [if_pos (there.mpr has)] at seen
      subst seen
      refine .inr ⟨has, last.mpr has, choice.status, fun publishedPort health same => ?_, exchanged⟩
      exact idle publishedPort health (congrArg ExternalReply.status same)
    · exact .inl ⟨has, last.not.mpr has⟩

end

/-- Whatever is done for other clusters between two calls of a cluster: after a spawn that succeeds everything of the
cluster is there, after a teardown that succeeds no container and no network of it is there, and a check tells truly which
is the case. -/
theorem backends_tell_truly (texts : IdTexts) (params : SpawnParams) (id : ClusterId) (kind : ServiceKind)
    (host final : Host) (exchanges : Exchanges) :
    let base := params.generatedConfigDirBase
    let names := texts.resources base id kind
    (∀ connection, (kind.spawn (params.named texts id)).Shares (Elsewhere texts base id) Host.serve host exchanges final
        (.ok connection) → final.Stands names) ∧
      ((kind.teardown (params.named texts id)).Shares (Elsewhere texts base id) Host.serve host exchanges final (.ok ()) →
        final.Cleared names) ∧
      ∀ alive, (kind.isAlive (texts.text id)).Shares (Elsewhere texts base id) Host.serve host exchanges final (.ok alive) →
        TellsTruly names.containers exchanges host final alive :=
  ⟨fun _ => spawn_stands, teardown_cleared, fun _ => isAlive_tellsTruly⟩

/-- The small cluster alone on its host. -/
def settled : Host := ⟨[⟨"app-salmon-00000000000000000000000001", none, true⟩], [], [], []⟩

def emptyHost : Host := ⟨[], [], [], []⟩

/-- The neighbour is torn down before the small cluster is spawned, on a host that then has the small cluster alone; the
small cluster is seen running, and is torn down in its turn. -/
theorem small_backends_tell_truly :
    let names := ulidTexts.resources "/generated".toList ⟨1⟩ .postgres
    let healthy : ContainerStatus := .running (some 40000) (some .healthy)
    settled.Stands names ∧
      TellsTruly names.containers [(.inspectContainer "app-salmon-00000000000000000000000001", .status healthy)] settled settled
        true ∧
      emptyHost.Cleared names := by
  have torn : MayCall ulidTexts "/generated".toList ⟨2⟩ (.removeContainer "app-salmon-00000000000000000000000002") := by
    have name : "app-salmon-00000000000000000000000002" = PostgresBackend.containerName (ulidTexts.text ⟨2⟩) := by decide +kernel
    rw [name]
    exact ⟨smallParams, .postgres, [], rfl, .inr (.inl .here)⟩
  have elsewhere : Elsewhere ulidTexts "/generated".toList ⟨1⟩ neighbour emptyHost :=
    .single ⟨⟨2⟩, _, {}, by decide, torn, by decide +kernel⟩
  have alone : Elsewhere ulidTexts "/generated".toList ⟨1⟩ settled settled := .refl
  have named : "app-salmon-00000000000000000000000001" = PostgresBackend.containerName (ulidTexts.text ⟨1⟩) := by decide +kernel
  let own : String := PostgresBackend.containerName (ulidTexts.text ⟨1⟩)
  let healthy : ContainerStatus := .running (some 40000) (some .healthy)
  have created : Host.serve emptyHost (.createContainer ⟨own, none, true⟩) {} = (.done, settled) := by decide +kernel
  have started : Host.serve settled (.startContainer own) {} = (.done, settled) := by decide +kernel
  have inspected : Host.serve settled (.inspectContainer own) { status := healthy } = (.status healthy, settled) := by
    decide +kernel
  have removed : Host.serve settled (.removeContainer own) {} = (.done, emptyHost) := by decide +kernel
  have spawned : (ServiceKind.postgres.spawn (smallParams.named ulidTexts ⟨1⟩)).Shares
      (Elsewhere ulidTexts "/generated".toList ⟨1⟩) Host.serve neighbour
      [(.createContainer ⟨own, none, true⟩, .done), (.startContainer own, .done), (.inspectContainer own, .status healthy)]
      settled (.ok (.postgres ⟨"127.0.0.1", 40000, "app_salmon", "app_salmon", ⟨"secret"⟩⟩)) :=
    .request {} elsewhere created (.request {} alone started (.request { status := healthy } alone inspected (.ready alone)))
  have checked : (ServiceKind.postgres.isAlive (ulidTexts.text ⟨1⟩)).Shares (Elsewhere ulidTexts "/generated".toList ⟨1⟩)
      Host.serve settled [(.inspectContainer own, .status healthy)] settled (.ok true) :=
    .request { status := healthy } alone inspected (.ready alone)
  have cleared : (ServiceKind.postgres.teardown (smallParams.named ulidTexts ⟨1⟩)).Shares
      (Elsewhere ulidTexts "/generated".toList ⟨1⟩) Host.serve settled [(.removeContainer own, .done)] emptyHost (.ok ()) :=
    .request {} alone removed (.ready .refl)
  rw [named]
  exact ⟨(backends_tell_truly ulidTexts smallParams ⟨1⟩ .postgres neighbour settled _).1 _ spawned,
    (backends_tell_truly ulidTexts smallParams ⟨1⟩ .postgres settled settled _).2.2 _ checked,
    (backends_tell_truly ulidTexts smallParams ⟨1⟩ .postgres settled emptyHost _).2.1 cleared⟩

end AppSalmon
