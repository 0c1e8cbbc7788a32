import AppSalmon.Backends
import AppSalmon.Library.Histories

/-! The order in which a spawn brings its containers up.

One after the other is made, started and awaited, so that each finds those
before it ready. What a spawn reports in the end it has seen on the way.
-/

set_option autoImplicit false

namespace AppSalmon

open Cancellation (Client OnSuccess)

abbrev Exchanges := List (ExternalCall × ExternalReply)

def ExternalCall.made : ExternalCall → Option ContainerSpec
  | .createContainer spec => some spec
  | .startContainer _ | .inspectContainer _ | .removeContainer _ | .createNetwork _ | .removeNetwork _ | .createDirAll _
  | .write .. | .removeDirAll _ | .sleep | .connect _ | .execute _ | .prepare | .wipeWorkerDir | .deleteRow _ => none

namespace StartOrder

/-- The containers that were asked for, in this order. -/
def creates (past : Exchanges) : List ContainerSpec := past.filterMap fun exchange => exchange.1.made

def Succeeded (past : Exchanges) (call : ExternalCall) : Prop := ∃ reply, (call, reply) ∈ past ∧ reply.check = .ok ()

def launched (spec : ContainerSpec) (created started : ExternalReply) : Exchanges :=
  [(.createContainer spec, created), (.startContainer spec.name, started)]

def sawRunning (handle : String) (publishedPort : Option UInt16) (health : Option HealthState) : Exchanges :=
  [(.inspectContainer handle, .status (.running publishedPort health))]

/-- Made, started, and after that seen ready, with this port. -/
def SeenReady (past : Exchanges) (spec : ContainerSpec) (publishedPort : Option UInt16) : Prop :=
  ∃ created started health,
    List.Sublist (launched spec created started ++ sawRunning spec.name publishedPort health) past ∧
    created.check = .ok () ∧ started.check = .ok () ∧ (spec.healthCheck = false ∨ health = some .healthy)

def Up (past : Exchanges) (spec : ContainerSpec) : Prop := ∃ publishedPort, SeenReady past spec publishedPort

/-- What a spawn is to bring up one after the other, and what is there before the first of them. -/
structure Plan where
  preliminaries : List ExternalCall
  specs : List ContainerSpec

/-- A container is asked for in its turn, and those before it are up. -/
def InTurn (plan : Plan) (past : Exchanges) (call : ExternalCall) : Prop :=
  ∀ spec, call.made = some spec →
    (∀ preliminary ∈ plan.preliminaries, Succeeded past preliminary) ∧
      (∃ after, plan.specs = creates past ++ spec :: after) ∧ ∀ earlier ∈ creates past, Up past earlier

variable {plan : Plan} {past later : Exchanges} {spec : ContainerSpec} {publishedPort : Option UInt16}

theorem creates_append (past later : Exchanges) : creates (past ++ later) = creates past ++ creates later :=
  List.filterMap_append

theorem Succeeded.mono {call : ExternalCall} (succeeded : Succeeded past call) (extends_ : past <+: later) :
    Succeeded later call := by
  obtain ⟨reply, member, checked⟩ := succeeded
  exact ⟨reply, extends_.subset member, checked⟩

theorem SeenReady.mono (seen : SeenReady past spec publishedPort) (extends_ : past <+: later) :
    SeenReady later spec publishedPort := by
  obtain ⟨created, started, health, order, checked⟩ := seen
  exact ⟨created, started, health, order.trans extends_.sublist, checked⟩

theorem Up.mono (up : Up past spec) (extends_ : past <+: later) : Up later spec := by
  obtain ⟨publishedPort, seen⟩ := up
  exact ⟨publishedPort, seen.mono extends_⟩

/-- Only a create has a turn to wait for. -/
theorem inTurn_of_none {call : ExternalCall} (none_made : call.made = none) : InTurn plan past call := by
  intro spec made
  rw [none_made] at made
  cases made

/-! ## One container -/

section
variable {α : Type} {Better : Exchanges → α → Prop}

/-- A container is made and started, and what follows goes by its name. -/
theorem createAndStart_obeys {next : String → External (Except ClusterError α)}
    (turn : InTurn plan past (.createContainer spec))
    (rest : ∀ created started : ExternalReply, created.check = .ok () → started.check = .ok () →
      (next spec.name).Obeys (InTurn plan) (OnSuccess Better)
        (past ++ launched spec created started)) :
    ((viaDocker (BollardContainerRuntime.createAndStart spec)).andThen next).Obeys (InTurn plan) (OnSuccess Better) past := by
  refine ⟨turn, fun created => ?_⟩
  cases made : created.check with
  | error source =>
    simp only [Client.bind, made]
    exact OnSuccess.error
  | ok =>
    simp only [Client.bind, made]
    refine ⟨inTurn_of_none rfl, fun started => ?_⟩
    cases runs : started.check with
    | error source =>
      simp only [Client.bind, runs]
      exact OnSuccess.error
    | ok =>
      simp only [Client.bind, runs]
      have after := rest created started made runs
      rwa [launched, List.append_cons] at after

/-- A container that is seen running was reported as such. -/
theorem inspect_obeys {handle : String} {next : ContainerStatus → External (Except ClusterError α)}
    (rest : ∀ reply status, (∀ publishedPort health, status = .running publishedPort health → reply = .status status) →
      (next status).Obeys (InTurn plan) (OnSuccess Better) (past ++ [(.inspectContainer handle, reply)])) :
    ((viaDocker (BollardContainerRuntime.inspect handle)).andThen next).Obeys (InTurn plan) (OnSuccess Better) past := by
  refine ⟨inTurn_of_none rfl, fun reply => ?_⟩
  cases reply with
  | refused source => exact OnSuccess.error
  | status status => exact rest _ status fun _ _ _ => rfl
  | done => exact rest _ _ fun _ _ same => by cases same
  | notFound => exact rest _ _ fun _ _ same => by cases same

end

/-- The wait makes nothing, and ends well with an observation that is ready. -/
def WaitedFor (past : Exchanges) (handle : String) (requiresHealthcheck : Bool) (after : Exchanges)
    (publishedPort : Option UInt16) : Prop :=
  ∃ polled health, after = past ++ polled ++ sawRunning handle publishedPort health ∧
    creates polled = [] ∧ (requiresHealthcheck = false ∨ health = some .healthy)

theorem decide_eq_ok {handle : String} {requiresHealthcheck : Bool} {status : ContainerStatus}
    (decided : HealthWait.decide handle requiresHealthcheck status = some (.ok publishedPort)) :
    ∃ health, status = .running publishedPort health ∧ (requiresHealthcheck = false ∨ health = some .healthy) := by
  cases status with
  | running port health =>
    simp only [HealthWait.decide, Option.ite_none_right_eq_some, Option.some.injEq, Except.ok.injEq] at decided
    obtain ⟨ready, rfl⟩ := decided
    exact ⟨health, rfl, ready⟩
  | exited | notFound => cases decided

/-- What the deciding observation returns is right. -/
theorem decided_obeys {handle : String} {requiresHealthcheck : Bool} {status : ContainerStatus} {reply : ExternalReply}
    {polled : Exchanges} (none_made : creates polled = [])
    (faithful : ∀ publishedPort health, status = .running publishedPort health → reply = .status status)
    {result : Except ClusterError (Option UInt16)}
    (decided : HealthWait.decide handle requiresHealthcheck status = some result) :
    OnSuccess (WaitedFor past handle requiresHealthcheck) (past ++ polled ++ [(.inspectContainer handle, reply)]) result := by
  rintro publishedPort rfl
  obtain ⟨health, rfl, ready⟩ := decide_eq_ok decided
  rw [faithful publishedPort health rfl]
  exact ⟨polled, health, rfl, none_made, ready⟩

/-- One inspection, and what comes of it. -/
theorem poll_obeys {handle : String} {requiresHealthcheck : Bool} {later : External (Except ClusterError (Option UInt16))}
    {polled : Exchanges} (none_made : creates polled = [])
    (goesOn : ∀ reply, later.Obeys (InTurn plan) (OnSuccess (WaitedFor past handle requiresHealthcheck))
      (past ++ polled ++ [(.inspectContainer handle, reply)])) :
    ((viaDocker (BollardContainerRuntime.inspect handle)).andThen fun status =>
      match HealthWait.decide handle requiresHealthcheck status with
      | some result => .ready result
      | none => later).Obeys (InTurn plan) (OnSuccess (WaitedFor past handle requiresHealthcheck)) (past ++ polled) := by
  apply inspect_obeys
  intro reply status faithful
  cases decided : HealthWait.decide handle requiresHealthcheck status with
  | some result => exact decided_obeys none_made faithful decided
  | none => exact goesOn reply

theorem polling_obeys (handle : String) (timeoutSecs : UInt64) (requiresHealthcheck : Bool) (polls : Nat)
    {polled : Exchanges} (none_made : creates polled = []) :
    (HealthWait.waitUntilHealthy handle timeoutSecs requiresHealthcheck polls).Obeys (InTurn plan)
      (OnSuccess (WaitedFor past handle requiresHealthcheck)) (past ++ polled) := by
  induction polls generalizing polled with
  | zero => exact poll_obeys none_made fun _ => OnSuccess.error
  | succ polls ih =>
    refine poll_obeys none_made fun reply => ⟨inTurn_of_none rfl, fun slept => ?_⟩
    -- an inspection and a sleep, and the wait goes on
    have again : creates (polled ++ [(.inspectContainer handle, reply), (.sleep, slept)]) = [] := by
      rw [creates_append, none_made]
      rfl
    have further := ih again
    rwa [← List.append_assoc, List.append_cons] at further

theorem waitUntilHealthy_obeys (handle : String) (timeoutSecs : UInt64) (requiresHealthcheck : Bool) (polls : Nat) :
    (HealthWait.waitUntilHealthy handle timeoutSecs requiresHealthcheck polls).Obeys (InTurn plan)
      (OnSuccess (WaitedFor past handle requiresHealthcheck)) past := by
  have waits : (HealthWait.waitUntilHealthy handle timeoutSecs requiresHealthcheck polls).Obeys (InTurn plan)
      (OnSuccess (WaitedFor past handle requiresHealthcheck)) (past ++ []) := polling_obeys _ _ _ _ rfl
  rwa [List.append_nil] at waits

/-- Between two containers: those that were asked for are up, and one may be the next. -/
structure Settled (plan : Plan) (past : Exchanges) (todo : List ContainerSpec) : Prop where
  preliminaries : ∀ preliminary ∈ plan.preliminaries, Succeeded past preliminary
  inOrder : plan.specs = creates past ++ todo
  up : ∀ spec ∈ creates past, Up past spec

theorem Settled.inTurn {todo : List ContainerSpec} (settled : Settled plan past (spec :: todo)) :
    InTurn plan past (.createContainer spec) := by
  intro other made
  cases made
  exact ⟨settled.preliminaries, ⟨todo, settled.inOrder⟩, settled.up⟩

/-- More exchanges, none of which asks for a container. -/
structure Onward (past later : Exchanges) : Prop where
  extends_ : past <+: later
  none_made : creates later = creates past

theorem Onward.trans {last : Exchanges} (first : Onward past later) (second : Onward later last) : Onward past last :=
  ⟨first.extends_.trans second.extends_, second.none_made.trans first.none_made⟩

theorem Settled.onward {todo : List ContainerSpec} (settled : Settled plan past todo) (onward : Onward past later) :
    Settled plan later todo := by
  constructor
  · exact fun preliminary member => (settled.preliminaries preliminary member).mono onward.extends_
  · rw [onward.none_made]
    exact settled.inOrder
  · rw [onward.none_made]
    exact fun spec member => (settled.up spec member).mono onward.extends_

/-- A container that was made, started and awaited is up, and the next one has its turn. -/
theorem Settled.bringUp {todo : List ContainerSpec} (settled : Settled plan past (spec :: todo))
    {created started : ExternalReply} (made : created.check = .ok ()) (runs : started.check = .ok ())
    (waited : WaitedFor (past ++ launched spec created started) spec.name spec.healthCheck later publishedPort) :
    past <+: later ∧ SeenReady later spec publishedPort ∧ Settled plan later todo := by
  obtain ⟨polled, health, rfl, none_made, ready⟩ := waited
  have extends_ : past <+: past ++ launched spec created started ++ polled ++ sawRunning spec.name publishedPort health := by
    rw [List.append_assoc, List.append_assoc]
    exact List.prefix_append _ _
  have seen : SeenReady (past ++ launched spec created started ++ polled ++ sawRunning spec.name publishedPort health)
      spec publishedPort := by
    refine ⟨created, started, health, List.Sublist.append ?_ (List.Sublist.refl _), made, runs, ready⟩
    exact (List.sublist_append_right _ _).trans (List.sublist_append_left _ _)
  have order : creates (past ++ launched spec created started ++ polled ++ sawRunning spec.name publishedPort health) =
      creates past ++ [spec] := by
    rw [creates_append, creates_append, creates_append, none_made, List.append_nil]
    exact List.append_nil _
  refine ⟨extends_, seen, ?_, ?_, ?_⟩
  · exact fun preliminary member => (settled.preliminaries preliminary member).mono extends_
  · rw [order, settled.inOrder, List.append_assoc, List.singleton_append]
  · intro other member
    rw [order] at member
    rcases List.mem_append.mp member with earlier | last
    · exact (settled.up other earlier).mono extends_
    · obtain rfl := List.mem_singleton.mp last
      exact ⟨publishedPort, seen⟩

/-- One call that makes no container, and what its success tells. -/
theorem onward_of_call {call : ExternalCall} (none_made : call.made = none) (reply : ExternalReply) :
    Onward past (past ++ [(call, reply)]) := by
  refine ⟨List.prefix_append _ _, ?_⟩
  rw [creates_append]
  simp [creates, none_made]

theorem succeeded_of_call {call : ExternalCall} {reply : ExternalReply} (checked : reply.check = .ok ()) :
    Succeeded (past ++ [(call, reply)]) call :=
  ⟨reply, List.mem_append_right _ (List.mem_singleton_self _), checked⟩

/-- A call whose only success is to be done. -/
theorem orFail_obeys {call : ExternalCall} (none_made : call.made = none) (message : String) :
    (orFail call message).Obeys (InTurn plan)
      (OnSuccess fun after _ => Onward past after ∧ Succeeded after call) past := by
  apply Client.Obeys.ofSend (inTurn_of_none none_made)
  intro reply value succeeded
  refine ⟨onward_of_call none_made reply, succeeded_of_call ?_⟩
  cases answered : reply.check with
  | ok => rfl
  | error source =>
    rw [answered] at succeeded
    cases succeeded

theorem createNetwork_obeys (name : String) :
    (viaDocker (BollardContainerRuntime.createNetwork name)).Obeys (InTurn plan)
      (OnSuccess fun after _ => Onward past after ∧ Succeeded after (.createNetwork name)) past := by
  refine ⟨inTurn_of_none rfl, fun reply => ?_⟩
  intro value succeeded
  refine ⟨onward_of_call rfl reply, succeeded_of_call ?_⟩
  cases answered : reply.check with
  | ok => rfl
  | error source =>
    simp only [answered] at succeeded
    cases succeeded

/-! ## Postgres -/

def postgresSpec (clusterId : String) : ContainerSpec := ⟨PostgresBackend.containerName clusterId, none, true⟩

def kongSpec (clusterId : String) : ContainerSpec :=
  ⟨SupabaseBackend.containerName clusterId "kong", some (SupabaseBackend.networkName clusterId), true⟩

/-- What a spawn brings up, and what it does before. -/
def startPlan (params : SpawnParams) : ServiceKind → Plan
  | .postgres => ⟨[], [postgresSpec params.clusterId]⟩
  | .supabase =>
    let dir := SupabaseBackend.configDir params.generatedConfigDirBase params.clusterId
    ⟨[.createNetwork (SupabaseBackend.networkName params.clusterId), .createDirAll dir, .write dir "kong.yml",
        .write dir "roles.sql", .write dir "jwt.sql"],
      SupabaseBackend.buildSpecs params.clusterId⟩

/-- What a connection tells its caller was seen on the way. -/
def Reported (params : SpawnParams) (past : Exchanges) : ServiceKind → ConnectionInfo → Prop
  | .postgres, .postgres info => info.host = "127.0.0.1" ∧ info.password = ⟨params.password⟩ ∧
      SeenReady past (postgresSpec params.clusterId) (some info.port) ∧
      (params.pgvector = true → Succeeded past (.connect info.port) ∧
        Succeeded past (.execute "CREATE EXTENSION IF NOT EXISTS vector"))
  | .supabase, .supabase info => ∃ kongPort,
      info.apiUrl = "http://127.0.0.1:" ++ toString kongPort.toNat ∧ info.postgres.host = "127.0.0.1" ∧
      info.postgres.password = ⟨params.password⟩ ∧ info.jwtSecret = ⟨params.jwtSecret⟩ ∧
      params.signJwt params.jwtSecret "anon" = .ok info.anonKey.expose ∧
      params.signJwt params.jwtSecret "service_role" = .ok info.serviceRoleKey.expose ∧
      SeenReady past (kongSpec params.clusterId) (some kongPort) ∧
      ∃ health, (ExternalCall.inspectContainer (SupabaseBackend.containerName params.clusterId "db"),
        ExternalReply.status (.running (some info.postgres.port) health)) ∈ past
  | .postgres, .supabase _ | .supabase, .postgres _ => False

/-- Everything is up that a spawn is to bring up, and the connection says what was seen. -/
structure Finished (params : SpawnParams) (kind : ServiceKind) (past : Exchanges) (connection : ConnectionInfo) : Prop where
  preliminaries : ∀ preliminary ∈ (startPlan params kind).preliminaries, Succeeded past preliminary
  inOrder : creates past = (startPlan params kind).specs
  up : ∀ spec ∈ (startPlan params kind).specs, Up past spec
  reported : Reported params past kind connection

theorem Settled.finished {params : SpawnParams} {kind : ServiceKind} {connection : ConnectionInfo}
    (settled : Settled (startPlan params kind) past []) (reported : Reported params past kind connection) :
    Finished params kind past connection := by
  have inOrder := settled.inOrder
  rw [List.append_nil] at inOrder
  exact ⟨settled.preliminaries, inOrder.symm, fun spec member => settled.up spec (inOrder ▸ member), reported⟩

theorem waitUntilReady_obeys (params : SpawnParams) (handle : String) :
    (PostgresBackend.waitUntilReady params handle).Obeys (InTurn plan)
      (OnSuccess fun after hostPort => WaitedFor past handle true after (some hostPort)) past := by
  apply (waitUntilHealthy_obeys _ _ _ _).map
  intro after result good hostPort same
  cases result with
  | error error => cases same
  | ok published =>
    cases published with
    | none => cases same
    | some port =>
      cases same
      exact good _ rfl

theorem enablePgvector_obeys (hostPort : UInt16) :
    (PostgresBackend.enablePgvector hostPort).Obeys (InTurn plan)
      (OnSuccess fun after _ => Onward past after ∧ Succeeded after (.connect hostPort) ∧
        Succeeded after (.execute "CREATE EXTENSION IF NOT EXISTS vector")) past := by
  apply (orFail_obeys rfl _).andThen
  rintro connected - ⟨first, dialled⟩
  apply (orFail_obeys rfl _).mono
  intro after result executed value same
  obtain ⟨second, enabled⟩ := executed value same
  exact ⟨first.trans second, dialled.mono second.extends_, enabled⟩

theorem postgres_obeys (params : SpawnParams) :
    (PostgresBackend.spawn params).Obeys (InTurn (startPlan params .postgres))
      (OnSuccess (Finished params .postgres)) [] := by
  have fresh : Settled (startPlan params .postgres) [] (startPlan params .postgres).specs :=
    ⟨fun _ none_before => (List.not_mem_nil none_before).elim, rfl, fun _ none_made => (List.not_mem_nil none_made).elim⟩
  apply createAndStart_obeys fresh.inTurn
  intro created started made runs
  apply (waitUntilReady_obeys params _).andThen
  intro past hostPort waited
  obtain ⟨-, seen, settled⟩ := fresh.bringUp made runs waited
  split
  · apply (enablePgvector_obeys hostPort).andThen
    rintro after - ⟨onward, dialled, enabled⟩
    apply OnSuccess.ok
    apply (settled.onward onward).finished
    exact ⟨rfl, rfl, seen.mono onward.extends_, fun _ => ⟨dialled, enabled⟩⟩
  · next unwanted =>
    apply OnSuccess.ok
    apply settled.finished
    exact ⟨rfl, rfl, seen, fun wanted => absurd wanted unwanted⟩

/-! ## Supabase -/

theorem writeConfig_obeys (dir : UnixPath.Path) :
    (SupabaseBackend.writeConfig dir).Obeys (InTurn plan) (OnSuccess fun after _ => Onward past after ∧
      ∀ call ∈ [ExternalCall.createDirAll dir, .write dir "kong.yml", .write dir "roles.sql", .write dir "jwt.sql"],
        Succeeded after call) past := by
  apply (orFail_obeys rfl _).andThen
  rintro made - ⟨first, prepared⟩
  apply (orFail_obeys rfl _).andThen
  rintro routed - ⟨second, kong⟩
  apply (orFail_obeys rfl _).andThen
  rintro granted - ⟨third, roles⟩
  apply (orFail_obeys rfl _).mono
  intro after result written value same
  obtain ⟨fourth, jwt⟩ := written value same
  refine ⟨first.trans (second.trans (third.trans fourth)), ?_⟩
  simp only [List.forall_mem_cons, List.not_mem_nil, false_imp_iff, implies_true, and_true]
  exact ⟨prepared.mono (second.trans (third.trans fourth)).extends_, kong.mono (third.trans fourth).extends_,
    roles.mono fourth.extends_, jwt⟩

/-- The port that is kept is Kong's, however many containers are still to come. -/
theorem startAll_obeys (params : SpawnParams) {kongPort : Option UInt16} {todo : List ContainerSpec}
    (settled : Settled plan past todo)
    (kept : ∀ port, kongPort = some port → SeenReady past (kongSpec params.clusterId) (some port))
    (kong : ∀ spec ∈ todo, spec.name = SupabaseBackend.containerName params.clusterId "kong" →
      spec = kongSpec params.clusterId) :
    (SupabaseBackend.startAll params kongPort todo).Obeys (InTurn plan) (OnSuccess fun after found =>
      Settled plan after [] ∧ ∀ port, found = some port → SeenReady after (kongSpec params.clusterId) (some port)) past := by
  induction todo generalizing past kongPort with
  | nil => exact OnSuccess.ok ⟨settled, kept⟩
  | cons spec rest ih =>
    apply createAndStart_obeys settled.inTurn
    intro created started made runs
    apply (waitUntilHealthy_obeys _ _ _ _).andThen
    intro after published waited
    obtain ⟨extends_, seen, next⟩ := settled.bringUp made runs waited
    apply ih next
    · intro port same
      split at same
      · next named =>
        rw [kong spec List.mem_cons_self named, same] at seen
        exact seen
      · exact (kept port same).mono extends_
    · exact fun other member => kong other (List.mem_cons_of_mem _ member)

theorem kongSpec_of_name {clusterId : String} {spec : ContainerSpec} (member : spec ∈ SupabaseBackend.buildSpecs clusterId)
    (named : spec.name = SupabaseBackend.containerName clusterId "kong") : spec = kongSpec clusterId := by
  have suffix {other : String} (same : SupabaseBackend.containerName clusterId other =
      SupabaseBackend.containerName clusterId "kong") : other = "kong" := SupabaseBackend.containerName_injective _ same
  simp only [SupabaseBackend.buildSpecs, List.mem_cons, List.not_mem_nil, or_false] at member
  rcases member with rfl | rfl | rfl | rfl | rfl
  · exact absurd (suffix named) (by decide)
  · exact absurd (suffix named) (by decide)
  · exact absurd (suffix named) (by decide)
  · rfl
  · exact absurd (suffix named) (by decide)

theorem connect_obeys (params : SpawnParams) {anonKey serviceRoleKey : String} {kongPort : Option UInt16}
    (anon : params.signJwt params.jwtSecret "anon" = .ok anonKey)
    (serviceRole : params.signJwt params.jwtSecret "service_role" = .ok serviceRoleKey)
    (settled : Settled (startPlan params .supabase) past [])
    (kept : ∀ port, kongPort = some port → SeenReady past (kongSpec params.clusterId) (some port)) :
    (SupabaseBackend.connect params anonKey serviceRoleKey kongPort).Obeys (InTurn (startPlan params .supabase))
      (OnSuccess (Finished params .supabase)) past := by
  cases kongPort with
  | none => exact OnSuccess.error
  | some port =>
    apply inspect_obeys
    intro reply status faithful
    cases status with
    | exited | notFound => exact OnSuccess.error
    | running published health =>
      cases published with
      | none => exact OnSuccess.error
      | some dbPort =>
        obtain rfl := faithful _ _ rfl
        have onward : Onward past (past ++ sawRunning (SupabaseBackend.containerName params.clusterId "db") (some dbPort)
            health) := onward_of_call rfl _
        apply OnSuccess.ok
        apply (settled.onward onward).finished
        exact ⟨port, rfl, rfl, rfl, rfl, anon, serviceRole, (kept port rfl).mono onward.extends_, health,
          List.mem_append_right _ (List.mem_singleton_self _)⟩

theorem supabase_obeys (params : SpawnParams) :
    (SupabaseBackend.spawn params).Obeys (InTurn (startPlan params .supabase))
      (OnSuccess (Finished params .supabase)) [] := by
  unfold SupabaseBackend.spawn
  split
  · exact OnSuccess.error
  · exact OnSuccess.error
  · next anonKey serviceRoleKey anon serviceRole =>
    apply (createNetwork_obeys _).andThen
    rintro attached - ⟨first, network⟩
    apply (writeConfig_obeys _).andThen
    rintro configured - ⟨second, written⟩
    have none_made : creates configured = [] := second.none_made.trans first.none_made
    have settled : Settled (startPlan params .supabase) configured (SupabaseBackend.buildSpecs params.clusterId) := by
      refine ⟨?_, by rw [none_made]; rfl, fun spec member => ?_⟩
      · intro preliminary member
        rcases List.mem_cons.mp member with rfl | file
        · exact network.mono second.extends_
        · exact written preliminary file
      · rw [none_made] at member
        cases member
    apply (startAll_obeys params settled (fun _ none_yet => by cases none_yet) fun _ => kongSpec_of_name).andThen
    rintro after kongPort ⟨started, kept⟩
    exact connect_obeys params anon serviceRole started kept

theorem spawn_obeys (params : SpawnParams) (kind : ServiceKind) :
    (kind.spawn params).Obeys (InTurn (startPlan params kind)) (OnSuccess (Finished params kind)) [] := by
  cases kind with
  | postgres => exact postgres_obeys params
  | supabase => exact supabase_obeys params

end StartOrder

/-! ## Every execution -/

open StartOrder

/-- In every execution of a spawn, answered in any way and cut off anywhere, a container is asked for when all before it
have been made, started and seen ready, and never twice; and a spawn that succeeds has brought them all up and
reports what it saw. -/
theorem starts_in_order (params : SpawnParams) (kind : ServiceKind) :
    (∀ past call, (kind.spawn params).Awaits past call → InTurn (startPlan params kind) past call) ∧
      ∀ past connection, (kind.spawn params).Selects past (some (.ok connection)) → Finished params kind past connection := by
  constructor
  · intro past call awaits
    exact (spawn_obeys params kind).awaits awaits
  · intro past connection selects
    exact (spawn_obeys params kind).selects selects rfl connection rfl

/-- The network, the configuration, and the database until it is healthy. -/
def databaseReplies : List ExternalReply :=
  [.done, .done, .done, .done, .done, .done, .done, .status (.running (some 40000) (some .healthy))]

def postgresReplies : List ExternalReply := [.done, .done, .status (.running (some 40000) (some .healthy))]

/-- A small Supabase cluster whose next container is asked for, and a small Postgres cluster to its end. -/
theorem small_starts_in_order :
    (∃ past, (ServiceKind.supabase.spawn smallParams).Awaits past
        (.createContainer ⟨"app-salmon-c-rest", some "app-salmon-net-c", true⟩) ∧
      ∀ spec ∈ creates past, Up past spec) ∧
    ∃ past, Finished smallParams .postgres past
      (.postgres ⟨"127.0.0.1", 40000, "app_salmon", "app_salmon", ⟨"secret"⟩⟩) := by
  have pending : (ServiceKind.supabase.spawn smallParams).pending databaseReplies =
      some (.createContainer ⟨"app-salmon-c-rest", some "app-salmon-net-c", true⟩) := by decide +kernel
  have awaits := Client.pending_awaits pending
  have selects : (ServiceKind.postgres.spawn smallParams).Selects _
      (some (.ok (.postgres ⟨"127.0.0.1", 40000, "app_salmon", "app_salmon", ⟨"secret"⟩⟩))) :=
    Client.feed_selects _ postgresReplies
  constructor
  · exact ⟨_, awaits, ((starts_in_order smallParams .supabase).1 _ _ awaits _ rfl).2.2⟩
  · exact ⟨_, (starts_in_order smallParams .postgres).2 _ _ selects⟩

end AppSalmon
