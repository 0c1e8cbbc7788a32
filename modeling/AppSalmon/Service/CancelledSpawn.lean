import AppSalmon.Backends

/-! A spawn that is cancelled, its teardown, and the request that is still under way.

The teardown takes a container that is not found for one that is gone. So a
container whose creation the daemon gets to only afterwards is not removed by
anyone.
-/

set_option autoImplicit false

namespace AppSalmon

open Cancellation (Client Label Race Resources)
open TaskPool

/-- `do_spawn`: some calls of its own, each of which may fail, then those of the backend. -/
def doSpawn (kind : ServiceKind) (params : SpawnParams) : Nat → External (Except ClusterError ConnectionInfo)
  | 0 => kind.spawn params
  | preparations + 1 => (Client.send .prepare).bind fun reply =>
    match reply.check with
    | .error source => .ready (.error (.backendSpawnFailed source))
    | .ok () => doSpawn kind params preparations

/-- `teardown_task::teardown`: every step is followed by the next, whatever comes of it. -/
def teardownTask (kind : ServiceKind) (params : SpawnParams) (hasWorker : Bool) : External Unit :=
  (kind.teardown params).bind fun _ =>
    (if hasWorker then (Client.send .wipeWorkerDir).map fun _ => () else .ready ()).bind fun _ =>
      (Client.send (.deleteRow params.clusterId)).map fun _ => ()

abbrev SpawnRace := Race Host ExternalCall ExternalReply (Except ClusterError ConnectionInfo) Unit

/-- The select of `spawn_task::run`, with the teardown that follows a cancellation. -/
def SpawnRace.next (kind : ServiceKind) (params : SpawnParams) (hasWorker : Bool) :
    SpawnRace → Label Host Choice → Option SpawnRace :=
  Race.next Host.serve (teardownTask kind params hasWorker)

def SpawnRace.begin (kind : ServiceKind) (params : SpawnParams) (preparations : Nat) (host : Host) : SpawnRace :=
  Race.begin host (doSpawn kind params preparations)

/-- The containers of a cluster are held by the host, and its row goes at the end. -/
def containersOf (clusterId : String) : Resources Host.serve String where
  Held := Host.Has
  Makes := fun call name => ∃ spec, call = .createContainer spec ∧ spec.name = name
  Frees := fun call name => call = .removeContainer name
  Fair := Accepts
  Over := fun host => clusterId ∉ host.rows
  Closing := fun call => call = .deleteRow clusterId
  made := fun _ _ _ _ => Host.has_serve
  freed := by
    rintro host _ choice name rfl accepted
    exact Host.not_has_removed fun source => accepted name rfl source
  closed := fun _ _ _ => Host.rows_serve

/-- The teardown has not had its removal of this container answered yet, and will come to it. -/
def SpawnRace.StillRemoves (race : SpawnRace) (name : String) : Prop :=
  ∃ left, race.phase = .cleaning left ∧ left.Inevitable Accepts fun call => call = .removeContainer name

/-- No removal is refused, and a create that was given up comes in only while the removal of its container is still
ahead. Nobody else makes containers under the names of the cluster or deletes its row. -/
def SpawnRace.Orderly (kind : ServiceKind) (params : SpawnParams) (race : SpawnRace) : Label Host Choice → Prop
  | .reply choice => ∀ name resume, race.phase = .cleaning (.request (.removeContainer name) resume) → choice.refusal = none
  | .cancel => True
  | .late index choice => ∀ spec, race.abandoned[index]? = some (.createContainer spec) →
      choice.refusal = none → race.StillRemoves spec.name
  | .elsewhere host => (∀ name ∈ kind.containerNames params.clusterId, host.Has name → race.server.Has name) ∧
      (params.clusterId ∉ host.rows → params.clusterId ∉ race.server.rows)

variable {kind : ServiceKind} {params : SpawnParams} {hasWorker : Bool} {race : SpawnRace} {label : Label Host Choice}

theorem doSpawn_sends (kind : ServiceKind) (params : SpawnParams) (preparations : Nat) :
    (doSpawn kind params preparations).Sends fun call =>
      call = .prepare ∨ call.Spawns (kind.containerNames params.clusterId) := by
  induction preparations with
  | zero => exact (kind.spawn_sends params).mono fun _ => .inr
  | succ preparations ih =>
    refine ⟨.inl rfl, fun reply => ?_⟩
    simp only [Client.bind]
    split
    · trivial
    · exact ih

theorem teardownTask_cleansUp (kind : ServiceKind) (params : SpawnParams) (hasWorker : Bool) :
    (containersOf params.clusterId).CleansUp (· ∈ kind.containerNames params.clusterId)
      (teardownTask kind params hasWorker) := by
  have removes := kind.teardown_sends params
  constructor
  · exact fun name member => (kind.teardown_inevitable params member).bind
  · apply Client.Sends.bind
    · apply removes.mono
      rintro _ removing name - ⟨spec, rfl, -⟩
      cases removing
    -- neither the wipe nor the deletion makes a container
    · have none_made (call : ExternalCall) (other : ∀ spec, call ≠ .createContainer spec) (name : String) :
          ¬ (containersOf params.clusterId).Makes call name := fun ⟨spec, same, _⟩ => other spec same
      intro result
      apply Client.Sends.bind
      · split
        · exact ⟨fun name _ => none_made _ (fun _ => ExternalCall.noConfusion) name, fun _ => trivial⟩
        · trivial
      · exact fun _ => ⟨fun name _ => none_made _ (fun _ => ExternalCall.noConfusion) name, fun _ => trivial⟩
  · apply Client.Sends.closes_bind
    · apply removes.mono
      rintro _ removing rfl
      cases removing
    · intro result
      apply Client.Sends.closes_bind
      · split
        · exact ⟨ExternalCall.noConfusion, fun _ => trivial⟩
        · trivial
      -- the row goes last, whatever the reply to its deletion
      · exact fun _ reply => ⟨fun _ => ⟨(), rfl⟩, trivial⟩

/-- What the daemon does in this order is orderly in the general sense. -/
theorem SpawnRace.Orderly.general (orderly : race.Orderly kind params label) :
    (containersOf params.clusterId).Orderly (· ∈ kind.containerNames params.clusterId) race label := by
  cases label with
  | reply choice =>
    rintro message resume here name rfl source refused
    -- a removal that is not refused is carried out, or finds nothing
    have willing := orderly name resume here
    simp only [Host.serve, willing, Host.carryOut] at refused
    split at refused <;> cases refused
  | cancel => trivial
  | late index choice =>
    rintro message here name isName ⟨spec, rfl, rfl⟩ held
    cases refusal : choice.refusal with
    -- a create that is carried out is still ahead of the removal of its container
    | none => exact .inr (orderly spec here refusal)
    | some source =>
      refine .inl ?_
      simpa only [Host.serve, refusal] using held
  | elsewhere host => exact orderly

/-- Where every create that was given up comes in before the teardown gets to its container, and no removal is refused,
nothing of the cluster is left once its row is gone, nor comes up later. -/
theorem SpawnRace.Orderly.clean {preparations : Nat} {host : Host} (stored : params.clusterId ∈ host.rows)
    {finish : SpawnRace} (run : Run (SpawnRace.next kind params hasWorker) (SpawnRace.Orderly kind params)
      (.begin kind params preparations host) finish)
    (gone : params.clusterId ∉ finish.server.rows) :
    ∀ name ∈ kind.containerNames params.clusterId, ¬ finish.server.Has name := by
  have orderly := run.weaken fun race label => SpawnRace.Orderly.general
  apply Resources.clean_of_run (teardownTask_cleansUp kind params hasWorker) _ (not_not.mpr stored) orderly gone
  apply (doSpawn_sends kind params preparations).mono
  rintro _ (preparing | spawns) rfl
  · cases preparing
  · exact spawns

/-! ## Each point of cancellation -/

/-- Nothing is refused, and nobody else does anything. -/
def Willing : Label Host Choice → Prop
  | .reply choice | .late _ choice => choice.refusal = none
  | .cancel => True
  | .elsewhere _ => False

/-- Once the row is gone, so is every container of the cluster. -/
def SpawnRace.Clean (kind : ServiceKind) (params : SpawnParams) (race : SpawnRace) : Prop :=
  params.clusterId ∉ race.server.rows → ∀ name ∈ kind.containerNames params.clusterId, ¬ race.server.Has name

/-- A clean-up under way, with no create given up. -/
structure SpawnRace.Harmless (race : SpawnRace) : Prop where
  cleaning : ∃ left, race.phase = .cleaning left
  abandoned : ∀ call ∈ race.abandoned, ∀ spec, call ≠ .createContainer spec

theorem SpawnRace.Harmless.next {after : SpawnRace} (harmless : race.Harmless)
    (moved : SpawnRace.next kind params hasWorker race label = some after) : after.Harmless := by
  obtain ⟨left, phase⟩ := harmless.cleaning
  cases Race.next_moves moved with
  | main choice here | drops here =>
    rw [phase] at here
    cases here
  | cleans choice here => exact ⟨⟨_, rfl⟩, harmless.abandoned⟩
  | late choice here =>
    exact ⟨⟨left, phase⟩, fun call member => harmless.abandoned call (List.mem_of_mem_eraseIdx member)⟩
  | elsewhere server => exact ⟨⟨left, phase⟩, harmless.abandoned⟩

theorem SpawnRace.Harmless.orderly (harmless : race.Harmless) (willing : Willing label) : race.Orderly kind params label := by
  cases label with
  | reply choice => exact fun _ _ _ => willing
  | cancel => trivial
  | late index choice =>
    intro spec here _
    exact absurd rfl (harmless.abandoned _ (List.mem_of_getElem? here) spec)
  | elsewhere host => exact willing.elim

/-- A teardown that is left alone deletes the row. -/
theorem teardownTask_deletes (kind : ServiceKind) (params : SpawnParams) (hasWorker : Bool) (host : Host) :
    params.clusterId ∉ ((teardownTask kind params hasWorker).execute Host.serve {} host).2.rows := by
  rw [teardownTask, Client.execute_bind, Client.execute_bind]
  simp [Client.map, Client.send, Client.bind, Client.execute, Host.serve, Host.carryOut]

theorem has_created (host : Host) (spec : ContainerSpec) : (host.serve (.createContainer spec) {}).2.Has spec.name := by
  simp only [Host.serve, Host.carryOut]
  split
  · assumption
  · exact ⟨spec, List.mem_cons_self, rfl⟩

theorem rows_created (host : Host) (spec : ContainerSpec) :
    (host.serve (.createContainer spec) {}).2.rows = host.rows := by
  simp only [Host.serve, Host.carryOut]
  split <;> rfl

/-- A create that nobody waits for any more comes in when the teardown is over. -/
theorem SpawnRace.overtaken (kind : ServiceKind) (params : SpawnParams) (hasWorker : Bool) (host : Host)
    (spec : ContainerSpec) :
    ∃ finish : SpawnRace, Run (SpawnRace.next kind params hasWorker) (fun _ => Willing)
      ⟨host, [.createContainer spec], .cleaning (teardownTask kind params hasWorker)⟩ finish ∧
      params.clusterId ∉ finish.server.rows ∧ finish.server.Has spec.name := by
  have willing : ∀ race : SpawnRace, (fun _ => Willing) race (.reply {}) := fun _ => rfl
  have tearsDown := Race.run_cleaning Host.serve (teardownTask kind params hasWorker) {} willing host
    [.createContainer spec] (teardownTask kind params hasWorker)
  refine ⟨_, .step (.late 0 {}) tearsDown rfl rfl, ?_, has_created _ spec⟩
  rw [rows_created]
  exact teardownTask_deletes kind params hasWorker host

/-- Whatever the order: what matters is whether the call that was dropped is a create. -/
theorem SpawnRace.cut_iff {preparations : Nat} {host : Host} (stored : params.clusterId ∈ host.rows)
    (run : Run (SpawnRace.next kind params hasWorker) (SpawnRace.Orderly kind params)
      (.begin kind params preparations host) race)
    {call : ExternalCall} {resume : ExternalReply → External (Except ClusterError ConnectionInfo)}
    (here : race.phase = .racing (.request call resume)) :
    (∀ cut finish, SpawnRace.next kind params hasWorker race .cancel = some cut →
      Run (SpawnRace.next kind params hasWorker) (fun _ => Willing) cut finish → finish.Clean kind params) ↔
      ∀ spec, call ≠ .createContainer spec := by
  obtain ⟨sends, unabandoned⟩ := Race.racing_of_run (doSpawn_sends kind params preparations) run _ here
  -- there is one cut: the pending call is given up, and the clean-up begins
  have cancels : SpawnRace.next kind params hasWorker race .cancel =
      some ⟨race.server, [call], .cleaning (teardownTask kind params hasWorker)⟩ := by
    simp only [SpawnRace.next, Race.next, here, unabandoned]
  constructor
  -- a create: let the whole teardown pass, and then the create
  · rintro clean spec rfl
    obtain ⟨finish, late, gone, has⟩ := SpawnRace.overtaken kind params hasWorker race.server spec
    have own : spec.name ∈ kind.containerNames params.clusterId := by
      rcases sends.1 with preparing | spawns
      · cases preparing
      · exact spawns
    exact clean _ finish cancels late gone spec.name own has
  · intro other cut finish cancelled rest
    obtain rfl := Option.some.inj (cancels.symm.trans cancelled)
    -- anything else: nothing that was given up makes a container, in whatever order it comes in
    have harmless : SpawnRace.Harmless ⟨race.server, [call], .cleaning (teardownTask kind params hasWorker)⟩ :=
      ⟨⟨_, rfl⟩, List.forall_mem_singleton.mpr other⟩
    have orderly : Run (SpawnRace.next kind params hasWorker) (SpawnRace.Orderly kind params) _ finish :=
      rest.strengthen harmless (fun _ _ _ before _ moved => before.next moved) fun _ _ before => before.orderly
    have cancelling : race.Orderly kind params .cancel := trivial
    exact SpawnRace.Orderly.clean stored ((Run.step .cancel run cancelling cancels).trans orderly)

/-- A cancelled spawn leaves nothing where each create that was given up comes in before the teardown gets to its
container and no removal is refused. At a given cut every order will do exactly if what was dropped is no create. -/
theorem no_late_container (kind : ServiceKind) (params : SpawnParams) (hasWorker : Bool) (preparations : Nat) (host : Host)
    (stored : params.clusterId ∈ host.rows) (race : SpawnRace)
    (run : Run (SpawnRace.next kind params hasWorker) (SpawnRace.Orderly kind params)
      (.begin kind params preparations host) race) :
    race.Clean kind params ∧
      ∀ call resume, race.phase = .racing (.request call resume) →
        ((∀ cut finish, SpawnRace.next kind params hasWorker race .cancel = some cut →
          Run (SpawnRace.next kind params hasWorker) (fun _ => Willing) cut finish → finish.Clean kind params) ↔
            ∀ spec, call ≠ .createContainer spec) := by
  constructor
  · exact SpawnRace.Orderly.clean stored run
  · exact fun call resume here => SpawnRace.cut_iff stored run here

def smallHost : Host := ⟨[], [], [], ["c"]⟩

/-- Cut while its container is being made, with the create coming in before the removal. -/
theorem no_late_container_small : ∃ race : SpawnRace,
    Run (SpawnRace.next .postgres smallParams false) (SpawnRace.Orderly .postgres smallParams)
      (.begin .postgres smallParams 0 smallHost) race ∧
      race.server.rows = [] ∧ race.Clean .postgres smallParams := by
  have willing : ∀ (race : SpawnRace) choice, choice.refusal = none → race.Orderly .postgres smallParams (.reply choice) :=
    fun _ _ willing _ _ _ => willing
  have comesIn : SpawnRace.Orderly .postgres smallParams ⟨smallHost, [.createContainer ⟨"app-salmon-c", none, true⟩],
      .cleaning (teardownTask .postgres smallParams false)⟩ (.late 0 {}) := by
    intro spec here _
    cases here
    exact ⟨_, rfl, (ServiceKind.teardown_inevitable smallParams .postgres (List.mem_singleton_self _)).bind⟩
  have begun : Run (SpawnRace.next .postgres smallParams false) (SpawnRace.Orderly .postgres smallParams)
      (.begin .postgres smallParams 0 smallHost) (.begin .postgres smallParams 0 smallHost) := .refl
  have cut := Run.step (Label.cancel : Label Host Choice) begun trivial rfl
  have late := Run.step (Label.late 0 {} : Label Host Choice) cut comesIn rfl
  have removed := Run.step (Label.reply {} : Label Host Choice) late (willing _ _ rfl) rfl
  have run := Run.step (Label.reply {} : Label Host Choice) removed (willing _ _ rfl) rfl
  refine ⟨_, run, rfl, ?_⟩
  exact (no_late_container .postgres smallParams false 0 smallHost (List.mem_singleton_self _) _ run).1

/-- Not every order leaves the host without a container. -/
theorem removal_overtakes_creation :
    ¬ ∀ (kind : ServiceKind) (params : SpawnParams) (hasWorker : Bool) (preparations : Nat) (host : Host)
      (finish : SpawnRace), params.clusterId ∈ host.rows →
        Run (SpawnRace.next kind params hasWorker) (fun _ => Willing) (.begin kind params preparations host) finish →
          finish.Clean kind params := by
  intro clean
  have begun : Run (SpawnRace.next .postgres smallParams false) (fun _ => Willing)
      (.begin .postgres smallParams 0 smallHost) (.begin .postgres smallParams 0 smallHost) := .refl
  have cut := Run.step (Label.cancel : Label Host Choice) begun trivial rfl
  obtain ⟨finish, rest, gone, has⟩ :=
    SpawnRace.overtaken .postgres smallParams false smallHost ⟨"app-salmon-c", none, true⟩
  exact clean .postgres smallParams false 0 smallHost finish (List.mem_singleton_self _) (cut.trans rest) gone
    "app-salmon-c" (List.mem_singleton_self _) has

end AppSalmon
