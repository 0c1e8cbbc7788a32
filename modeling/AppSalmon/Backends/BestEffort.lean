import AppSalmon.Backends.Resources
import AppSalmon.Service.CancelledSpawn
import Mathlib.Data.List.Nodup

/-! The teardown of a Supabase cluster where some of its removals fail.

The loop over the containers ends at the first removal that fails. Only a
directory that cannot be removed is passed over.
-/

set_option autoImplicit false

namespace AppSalmon

open Cancellation (Client)

variable (refuses : ExternalCall → Option String)

/-- The host that refuses these calls. -/
def Host.attempt (host : Host) (call : ExternalCall) (_ : Unit) : ExternalReply × Host :=
  host.serve call { refusal := refuses call }

/-- The containers of a list that are removed: those before the first that is not. -/
def removedFirst (names : List String) : List String :=
  names.takeWhile fun name => (refuses (.removeContainer name)).isNone

variable {refuses}

theorem attempt_of_accepted {host : Host} {call : ExternalCall} (accepted : refuses call = none) :
    host.attempt refuses call () = host.serve call {} := by
  rw [Host.attempt, accepted]

theorem attempt_of_refused {host : Host} {call : ExternalCall} {source : String} (refused : refuses call = some source) :
    host.attempt refuses call () = (.refused source, host) := by
  rw [Host.attempt, Host.serve, refused]

variable (refuses) in
theorem stopAndRemove_attempt (name : String) (host : Host) :
    (viaDocker (BollardContainerRuntime.stopAndRemove name)).execute (Host.attempt refuses) () host =
      match refuses (.removeContainer name) with
      | none => (.ok (), host.without ⟨[name], [], []⟩)
      | some source => (.error (.docker (.removeContainer name source)), host) := by
  cases refused : refuses (.removeContainer name) with
  | none =>
    have removed := stopAndRemove_execute name host
    simp only [viaDocker, BollardContainerRuntime.stopAndRemove, Client.map, Client.bind, Client.send, Client.execute,
      attempt_of_accepted refused] at removed ⊢
    exact removed
  | some source =>
    simp only [viaDocker, BollardContainerRuntime.stopAndRemove, Client.map, Client.bind, Client.send, Client.execute,
      attempt_of_refused refused, Except.mapError]

variable (refuses) in
theorem removeNetwork_attempt (network : String) (host : Host) :
    (viaDocker (BollardContainerRuntime.removeNetwork network)).execute (Host.attempt refuses) () host =
      match refuses (.removeNetwork network) with
      | none => (.ok (), host.without ⟨[], [network], []⟩)
      | some source => (.error (.docker (.removeNetwork network source)), host) := by
  cases refused : refuses (.removeNetwork network) with
  | none =>
    have removed := removeNetwork_execute network host
    simp only [viaDocker, BollardContainerRuntime.removeNetwork, Client.map, Client.bind, Client.send, Client.execute,
      attempt_of_accepted refused] at removed ⊢
    exact removed
  | some source =>
    simp only [viaDocker, BollardContainerRuntime.removeNetwork, Client.map, Client.bind, Client.send, Client.execute,
      attempt_of_refused refused, Except.mapError]

/-- The last call, whose failure does not count. -/
theorem removeDirAll_attempt (dir : UnixPath.Path) (host : Host) :
    ((Client.send (.removeDirAll dir) : External ExternalReply).map fun _ => (.ok () : Except ClusterError Unit)).execute
        (Host.attempt refuses) () host =
      (.ok (), match refuses (.removeDirAll dir) with
        | none => host.without ⟨[], [], [dir]⟩
        | some _ => host) := by
  cases refused : refuses (.removeDirAll dir) with
  | none =>
    simp only [Client.map, Client.bind, Client.send, Client.execute, attempt_of_accepted refused, Host.serve,
      removeDirAll_host]
  | some source => simp only [Client.map, Client.bind, Client.send, Client.execute, attempt_of_refused refused]

theorem execute_andThen_error {α γ : Type} {first : External (Except ClusterError α)} {host after : Host}
    {error : ClusterError} (failed : first.execute (Host.attempt refuses) () host = (.error error, after))
    (next : α → External (Except ClusterError γ)) :
    (first.andThen next).execute (Host.attempt refuses) () host = (.error error, after) := by
  rw [Client.andThen, Client.execute_bind, failed]
  rfl

variable (refuses) in
/-- The loop takes away the containers before the first that stays, and fails where there is one. -/
theorem removeAll_attempt (names : List String) (host : Host) :
    ∃ result, (SupabaseBackend.removeAll names).execute (Host.attempt refuses) () host =
      (result, host.without ⟨removedFirst refuses names, [], []⟩) ∧
      (result = .ok () ↔ ∀ name ∈ names, refuses (.removeContainer name) = none) := by
  induction names generalizing host with
  | nil => exact ⟨.ok (), Prod.ext rfl host.without_none.symm, by simp⟩
  | cons name rest ih =>
    have first := stopAndRemove_attempt refuses name host
    cases refused : refuses (.removeContainer name) with
    | none =>
      rw [refused] at first
      obtain ⟨result, ran, succeeds⟩ := ih (host.without ⟨[name], [], []⟩)
      refine ⟨result, ?_, by rw [succeeds, List.forall_mem_cons, and_iff_right refused]⟩
      rw [SupabaseBackend.removeAll, Client.execute_andThen first, ran, Host.without_without, removedFirst, removedFirst,
        List.takeWhile_cons_of_pos (by simp [refused])]
      rfl
    | some source =>
      rw [refused] at first
      -- the loop ends here, and what comes later in the list is not tried
      refine ⟨.error (.docker (.removeContainer name source)), ?_, by simp [refused]⟩
      rw [SupabaseBackend.removeAll, execute_andThen_error first, removedFirst,
        List.takeWhile_cons_of_neg (by simp [refused])]
      exact Prod.ext rfl host.without_none.symm

/-! ## What the whole teardown leaves -/

section
variable (base : UnixPath.Path) (clusterId : String) (host : Host)

/-- Every call before the last one succeeds. -/
def ReachesDirectory (refuses : ExternalCall → Option String) : Prop :=
  (∀ name ∈ ServiceKind.supabase.containerNames clusterId, refuses (.removeContainer name) = none) ∧
    refuses (.removeNetwork (SupabaseBackend.networkName clusterId)) = none

@[simp] theorem Host.without_dirs (names networks : List String) :
    (host.without ⟨names, networks, []⟩).dirs = host.dirs := by
  simp [Host.without]

variable (refuses) in
theorem teardown_attempt :
    let after := ((SupabaseBackend.teardown base clusterId).execute (Host.attempt refuses) () host).2
    after.containers = (host.without ⟨removedFirst refuses (ServiceKind.supabase.containerNames clusterId), [], []⟩).containers ∧
      ((SupabaseBackend.configDir base clusterId ∉ after.dirs) ↔
        ReachesDirectory clusterId refuses ∧ refuses (.removeDirAll (SupabaseBackend.configDir base clusterId)) = none ∨
          SupabaseBackend.configDir base clusterId ∉ host.dirs) := by
  obtain ⟨result, ran, succeeds⟩ := removeAll_attempt refuses
    (ServiceKind.supabase.containerNames clusterId) host
  rw [ServiceKind.containerNames] at ran
  rw [SupabaseBackend.teardown]
  rcases result with error | _
  -- a container stays: neither the network nor the directory is tried
  · have stopped : ¬ ReachesDirectory clusterId refuses := fun reaches => by cases succeeds.mpr reaches.1
    rw [execute_andThen_error ran]
    exact ⟨rfl, by rw [Host.without_dirs]; simp [stopped]⟩
  · have all := succeeds.mp rfl
    rw [Client.execute_andThen ran]
    have network := removeNetwork_attempt refuses (SupabaseBackend.networkName clusterId)
      (host.without ⟨removedFirst refuses (ServiceKind.supabase.containerNames clusterId), [], []⟩)
    cases refused : refuses (.removeNetwork (SupabaseBackend.networkName clusterId)) with
    | some source =>
      -- the network stays: the directory is not tried, though no container is left
      have stopped : ¬ ReachesDirectory clusterId refuses := fun reaches => by cases refused.symm.trans reaches.2
      rw [refused] at network
      rw [ServiceKind.containerNames] at network
      rw [execute_andThen_error network]
      exact ⟨rfl, by rw [Host.without_dirs]; simp [stopped]⟩
    | none =>
      have reaches : ReachesDirectory clusterId refuses := ⟨all, refused⟩
      rw [refused] at network
      rw [ServiceKind.containerNames] at network
      rw [Client.execute_andThen network, Host.without_without, removeDirAll_attempt]
      cases accepted : refuses (.removeDirAll (SupabaseBackend.configDir base clusterId)) with
      | none =>
        simp only [Host.without_without, List.append_nil]
        exact ⟨rfl, by simp [Host.without, reaches]⟩
      | some source =>
        simp only [List.append_nil]
        exact ⟨rfl, by simp [Host.without]⟩

/-- Whatever could be removed is gone. -/
structure BestEffort (refuses : ExternalCall → Option String) (after : Host) : Prop where
  containers : ∀ name ∈ ServiceKind.supabase.containerNames clusterId, refuses (.removeContainer name) = none → ¬ after.Has name
  configDir : refuses (.removeDirAll (SupabaseBackend.configDir base clusterId)) = none →
    SupabaseBackend.configDir base clusterId ∉ after.dirs

/-- Behind a removal that fails there is nothing that could be removed. -/
structure NothingBehind (refuses : ExternalCall → Option String) : Prop where
  containers : (ServiceKind.supabase.containerNames clusterId).Pairwise fun blocked name =>
    refuses (.removeContainer blocked) ≠ none → refuses (.removeContainer name) = none → ¬ host.Has name
  configDir : ¬ ReachesDirectory clusterId refuses →
    refuses (.removeDirAll (SupabaseBackend.configDir base clusterId)) = none → SupabaseBackend.configDir base clusterId ∉ host.dirs

end

theorem containerNames_nodup (clusterId : String) : (ServiceKind.supabase.containerNames clusterId).Nodup := by
  apply List.Nodup.map
  · exact SupabaseBackend.containerName_injective clusterId
  · decide

/-- What is taken before the first element that stays, and what may be missing anyway. -/
theorem mem_takeWhile_or_iff {α : Type} {list : List α} (nodup : list.Nodup) (goes : α → Bool) (absent : α → Prop) :
    (∀ element ∈ list, goes element = true → element ∈ list.takeWhile goes ∨ absent element) ↔
      list.Pairwise fun blocked element => goes blocked = false → goes element = true → absent element := by
  induction list with
  | nil => simp
  | cons first rest ih =>
    obtain ⟨fresh, nodup⟩ := List.nodup_cons.mp nodup
    rw [List.pairwise_cons, ← ih nodup]
    cases going : goes first with
    | true =>
      rw [List.takeWhile_cons_of_pos going]
      constructor
      · intro each
        refine ⟨fun _ _ stays => (by cases stays), fun element member goes => ?_⟩
        -- without repetition, the first element is none of the later ones
        have other : element ≠ first := fun same => fresh (same ▸ member)
        simpa [other] using each element (List.mem_cons_of_mem _ member) goes
      · rintro ⟨-, each⟩ element member goes
        rcases List.mem_cons.mp member with rfl | later
        · exact .inl List.mem_cons_self
        · exact (each element later goes).imp_left (List.mem_cons_of_mem _)
    | false =>
      rw [List.takeWhile_cons_of_neg (by simp [going])]
      constructor
      · intro each
        have missing (element : α) (member : element ∈ rest) (goes : goes element = true) : absent element := by
          simpa using each element (List.mem_cons_of_mem _ member) goes
        exact ⟨fun element member _ => missing element member, fun element member goes => .inr (missing element member goes)⟩
      · rintro ⟨missing, -⟩ element member goes
        rcases List.mem_cons.mp member with rfl | later
        · cases going.symm.trans goes
        · exact .inr (missing element later rfl goes)

theorem has_without {host : Host} {names : ResourceNames} {name : String} :
    (host.without names).Has name ↔ name ∉ names.containers ∧ host.Has name := by
  constructor
  · rintro ⟨spec, member, rfl⟩
    obtain ⟨here, kept⟩ := List.mem_filter.mp member
    exact ⟨of_decide_eq_true kept, spec, here, rfl⟩
  · rintro ⟨kept, spec, here, rfl⟩
    exact ⟨spec, List.mem_filter.mpr ⟨here, decide_eq_true kept⟩, rfl⟩

variable (refuses) in
/-- The rest of the task leaves containers and directories alone, and deletes the row. -/
theorem teardownTask_attempt (kind : ServiceKind) (params : SpawnParams) (hasWorker : Bool) (host : Host) :
    let torn := ((kind.teardown params).execute (Host.attempt refuses) () host).2
    let after := ((teardownTask kind params hasWorker).execute (Host.attempt refuses) () host).2
    after.containers = torn.containers ∧ after.dirs = torn.dirs ∧
      (refuses (.deleteRow params.clusterId) = none → params.clusterId ∉ after.rows) := by
  dsimp only
  rw [teardownTask, Client.execute_bind]
  -- what is left to do is the wipe, where there is a worker, and the row; either may fail
  generalize ((kind.teardown params).execute (Host.attempt refuses) () host).2 = torn
  cases hasWorker <;> cases wipes : refuses .wipeWorkerDir <;> cases deletes : refuses (.deleteRow params.clusterId) <;>
    simp [Client.map, Client.bind, Client.send, Client.execute, Host.attempt, wipes, deletes, Host.serve, Host.carryOut]

theorem bestEffort_congr {base : UnixPath.Path} {clusterId : String} {first second : Host}
    (containers : first.containers = second.containers) (dirs : first.dirs = second.dirs) :
    BestEffort base clusterId refuses first ↔ BestEffort base clusterId refuses second := by
  have has (name : String) : first.Has name ↔ second.Has name := by rw [Host.Has, Host.Has, containers]
  constructor
  · intro best
    exact ⟨fun name member accepted here => best.containers name member accepted ((has name).mpr here),
      fun accepted => dirs ▸ best.configDir accepted⟩
  · intro best
    exact ⟨fun name member accepted here => best.containers name member accepted ((has name).mp here),
      fun accepted => dirs ▸ best.configDir accepted⟩

theorem teardown_best_effort_iff (base : UnixPath.Path) (clusterId : String) (host : Host) :
    BestEffort base clusterId refuses ((SupabaseBackend.teardown base clusterId).execute (Host.attempt refuses) () host).2 ↔
      NothingBehind base clusterId host refuses := by
  obtain ⟨removed, directory⟩ := teardown_attempt refuses base clusterId host
  have left (name : String) :
      ((SupabaseBackend.teardown base clusterId).execute (Host.attempt refuses) () host).2.Has name ↔
        name ∉ removedFirst refuses (ServiceKind.supabase.containerNames clusterId) ∧ host.Has name := by
    rw [Host.Has, removed]
    exact has_without
  -- the containers: what the loop takes before the first that stays
  have behind := mem_takeWhile_or_iff (containerNames_nodup clusterId)
    (fun name => (refuses (.removeContainer name)).isNone) (fun name => ¬ host.Has name)
  simp only [Option.isNone_iff_eq_none, Option.isNone_eq_false_iff, Option.isSome_iff_ne_none] at behind
  constructor
  · intro best
    constructor
    · apply behind.mp
      intro name member accepted
      have gone := best.containers name member accepted
      rw [left, not_and_or, not_not] at gone
      exact gone
    · intro stopped accepted
      rcases directory.mp (best.configDir accepted) with reached | missing
      · exact absurd reached.1 stopped
      · exact missing
  · intro nothing
    constructor
    · intro name member accepted
      rw [left, not_and_or, not_not]
      exact behind.mpr nothing.containers name member accepted
    · intro accepted
      apply directory.mpr
      -- the directory: it goes where the teardown comes to it, and otherwise was not there
      by_cases reached : ReachesDirectory clusterId refuses
      · exact .inl ⟨reached, accepted⟩
      · exact .inr (nothing.configDir reached accepted)

/-- The teardown leaves only what could not be removed exactly where nothing that could be stands behind a removal that
fails. The task goes on to delete the row, and makes up for nothing. -/
theorem best_effort_iff (refuses : ExternalCall → Option String) (params : SpawnParams) (hasWorker : Bool) (host : Host) :
    let torn := ((ServiceKind.supabase.teardown params).execute (Host.attempt refuses) () host).2
    let after := ((teardownTask .supabase params hasWorker).execute (Host.attempt refuses) () host).2
    (BestEffort params.generatedConfigDirBase params.clusterId refuses torn ↔
      NothingBehind params.generatedConfigDirBase params.clusterId host refuses) ∧
      (BestEffort params.generatedConfigDirBase params.clusterId refuses after ↔
        BestEffort params.generatedConfigDirBase params.clusterId refuses torn) ∧
      (refuses (.deleteRow params.clusterId) = none → params.clusterId ∉ after.rows) := by
  obtain ⟨containers, dirs, deleted⟩ := teardownTask_attempt refuses .supabase params hasWorker host
  exact ⟨teardown_best_effort_iff _ _ host, bestEffort_congr containers dirs, deleted⟩

/-- A whole cluster, with its row. -/
def runningHost : Host where
  containers := SupabaseBackend.buildSpecs "c"
  networks := [SupabaseBackend.networkName "c"]
  dirs := [SupabaseBackend.configDir "/generated".toList "c"]
  rows := ["c"]

/-- The database cannot be removed for the moment. -/
def refusesDb : ExternalCall → Option String
  | .removeContainer name => if name = "app-salmon-c-db" then some "500 removal already in progress" else none
  | _ => none

/-- What runs the client's code is left, and no row refers to it any more. -/
theorem functions_survive :
    let after := ((teardownTask .supabase smallParams true).execute (Host.attempt refusesDb) () runningHost).2
    refusesDb (.removeContainer "app-salmon-c-functions") = none ∧ after.Has "app-salmon-c-functions" ∧ after.rows = [] ∧
      ¬ BestEffort smallParams.generatedConfigDirBase "c" refusesDb
        ((ServiceKind.supabase.teardown smallParams).execute (Host.attempt refusesDb) () runningHost).2 := by
  refine ⟨by decide +kernel, by decide +kernel, by decide +kernel, fun best => ?_⟩
  exact best.containers "app-salmon-c-functions" (by decide +kernel) (by decide +kernel) (by decide +kernel)

end AppSalmon
