import AppSalmon.Http.Error
import AppSalmon.Http.Multipart

/-! The four endpoints, from the head of a request to its answer.

The caller is known before the path is parsed and before anything of the body
is read. What axum answers by itself to a path is a text that is a parameter
here.
-/

set_option autoImplicit false

namespace AppSalmon

open Droppable SerdeJson
open Repository (Rows)

namespace Conn

def listByOwner (owner : ClientId) : Async (Except RepositoryError (List Cluster)) :=
  withConn fun rows => .ok (rows, Repository.listByOwner rows owner)

end Conn

namespace ClusterService

def infoAsync (id : ClusterId) (owner : ClientId) : Async (Except ClusterError Cluster) :=
  (Conn.getOwned id owner).bind fun
    | .error error => .ready (.error (.repository error))
    | .ok none => .ready (.error (.notFound id))
    | .ok (some cluster) => .ready (.ok cluster)

def listAsync (owner : ClientId) : Async (Except ClusterError (List Cluster)) :=
  (Conn.listByOwner owner).bind fun
    | .error error => .ready (.error (.repository error))
    | .ok clusters => .ready (.ok clusters)

end ClusterService

namespace Http

/-- The identifier and the fields of the answer for it, side by side. -/
structure ClusterListEntry where
  id : ClusterId
  info : ClusterInfoResponse

def listEntry (spawnEstimate : TimeDelta) (cluster : Cluster) : Option ClusterListEntry :=
  (infoResponse cluster spawnEstimate).map fun answer => ⟨cluster.id, answer.2⟩

end Http

namespace Handlers

/-- The status and the body for a row that is there. -/
def getCluster (deps : TaskDeps) (id : ClusterId) (owner : ClientId) :
    Async (Except ApiError (Nat × Http.ClusterInfoResponse)) :=
  (ClusterService.infoAsync id owner).bind fun
    | .error error => .ready (.error (.cluster error))
    | .ok cluster =>
      match Http.infoResponse cluster deps.spawnEstimate with
      | none => .panicked
      | some answer => .ready (.ok answer)

def listClusters (deps : TaskDeps) (owner : ClientId) : Async (Except ApiError (List Http.ClusterListEntry)) :=
  (ClusterService.listAsync owner).bind fun
    | .error error => .ready (.error (.cluster error))
    | .ok clusters =>
      match clusters.mapM (Http.listEntry deps.spawnEstimate) with
      | none => .panicked
      | some entries => .ready (.ok entries)

end Handlers

namespace Http

/-! ## Requests and answers -/

inductive Route where
  | createCluster (request : CreateRequest)
  | listClusters
  | getCluster (path : String)
  | deleteCluster (path : String)

structure HttpRequest where
  /-- The header's value, where it is visible ASCII. -/
  authorization : Option String
  route : Route

inductive Body where
  | error (body : ErrorBody)
  | created (body : CreateClusterResponse)
  | entries (body : List ClusterListEntry)
  | info (body : ClusterInfoResponse)
  | deleting (body : DeleteResponse)
  /-- Of axum's own. -/
  | rejection (text : String)

structure Reply where
  status : Nat
  body : Body

/-- What the handlers are linked with. -/
structure Linked where
  sha256 : List UInt8 → SecretHash
  fromSlice : List UInt8 → Decoded Json
  texts : DebugTexts
  clusterPath : String → Except String ClusterId

structure AppState where
  deps : TaskDeps
  clientRegistry : ClientRegistry

def ApiError.ofHandler (texts : DebugTexts) : AppSalmon.ApiError → ApiError
  | .badRequest message => .badRequest message
  | .cluster error => .ofClusterError texts error

def ApiError.reply (error : ApiError) : Reply := ⟨error.intoResponse.status, .error error.intoResponse.body⟩

/-- The `IntoResponse` of a handler's result. -/
def replyTo {α : Type} (texts : DebugTexts) (shape : α → Reply) : Except AppSalmon.ApiError α → Reply
  | .error error => (ApiError.ofHandler texts error).reply
  | .ok value => shape value

def respond {α : Type} (texts : DebugTexts) (handler : Async (Except AppSalmon.ApiError α)) (shape : α → Reply) :
    Async Reply :=
  handler.bind fun result => .ready (replyTo texts shape result)

/-- The extractor of the path, and the handler behind it. -/
def withPath (linked : Linked) (path : String) (handler : ClusterId → Async Reply) : Async Reply :=
  match linked.clusterPath path with
  | .error text => .ready ⟨400, .rejection text⟩
  | .ok id => handler id

def route (linked : Linked) (state : AppState) (fresh : ClusterId) (now : DateTime) (owner : ClientId) :
    Route → Async Reply
  | .createCluster request =>
    respond linked.texts (Handlers.createCluster state.deps linked.fromSlice fresh now owner request)
      fun made => ⟨202, .created made⟩
  | .listClusters => respond linked.texts (Handlers.listClusters state.deps owner) fun entries => ⟨200, .entries entries⟩
  | .getCluster path => withPath linked path fun id =>
    respond linked.texts (Handlers.getCluster state.deps id owner) fun answer => ⟨answer.1, .info answer.2⟩
  | .deleteCluster path => withPath linked path fun id =>
    respond linked.texts (Handlers.deleteCluster now id owner) fun done => ⟨202, .deleting done⟩

def serve (linked : Linked) (state : AppState) (fresh : ClusterId) (now : DateTime) (request : HttpRequest) : Async Reply :=
  match state.clientRegistry.authenticate linked.sha256 request.authorization with
  | .error error => .ready (ApiError.auth error).reply
  | .ok owner => route linked state fresh now owner request.route

/-! ## Where an answer comes from -/

/-- The endpoints that read or delete one cluster. -/
def Route.Names (target : Route) (path : String) : Prop := target = .getCluster path ∨ target = .deleteCluster path

/-- What `delete_cluster` hands over in the end. -/
def handedBy (id : ClusterId) (cluster : Cluster) : DeleteOutcome → List TableEvent
  | .cancelSpawn => [.handed (.cancel id)]
  | .startTeardown => [.handed (.teardown cluster)]
  | .alreadyDeleting => []

/-- The ways in which the request of a known caller is answered. -/
inductive Answered (linked : Linked) (state : AppState) (fresh : ClusterId) (now : DateTime) (owner : ClientId) :
    Route → List TableEvent → Reply → Prop where
  | unread {request : CreateRequest} {message : String}
      (refused : request.read linked.fromSlice = .error (.badRequest message)) :
      Answered linked state fresh now owner (.createCluster request) [] (ApiError.badRequest message).reply
  | outOfRange {request : CreateRequest} {body : CreateClusterRequest} {projectTar : Option (List UInt8)}
      (read : request.read linked.fromSlice = .ok (body, projectTar)) (range : TimeDelta.trySeconds body.ttlSecs = none) :
      Answered linked state fresh now owner (.createCluster request) [] (ApiError.badRequest "ttl_secs out of range").reply
  | outOfBounds {request : CreateRequest} {body : CreateClusterRequest} {projectTar : Option (List UInt8)} {ttl : TimeDelta}
      {requested shortest longest : Int64} (read : request.read linked.fromSlice = .ok (body, projectTar))
      (range : TimeDelta.trySeconds body.ttlSecs = some ttl)
      (refused : ClusterService.checkTtl state.deps.limits ttl = .error (.ttlOutOfBounds requested shortest longest)) :
      Answered linked state fresh now owner (.createCluster request) []
        (ApiError.ofClusterError linked.texts (.ttlOutOfBounds requested shortest longest)).reply
  | overQuota {request : CreateRequest} {rows : Rows}
      (full : state.deps.limits.maxClustersPerUser.toNat ≤ (Repository.listByOwner rows owner).length) :
      Answered linked state fresh now owner (.createCluster request) [.called none rows rows] ApiError.quotaExceeded.reply
  | insertFailed {request : CreateRequest} {met : Option RepositoryError} {rows : Rows} {source : RepositoryError}
      (why : met.isSome ∨ (Repository.getAny rows fresh).isSome) :
      Answered linked state fresh now owner (.createCluster request) [.called met rows rows]
        (ApiError.internal (.repository source)).reply
  | created {request : CreateRequest} {body : CreateClusterRequest} {projectTar : Option (List UInt8)} {ttl : TimeDelta}
      {met : Option RepositoryError} {before after : Rows} {row : Cluster} {estimatedReadyAt : DateTime}
      (read : request.read linked.fromSlice = .ok (body, projectTar))
      (range : TimeDelta.trySeconds body.ttlSecs = some ttl)
      (made : ClusterService.create state.deps.limits before met
        (ClusterService.newCluster fresh owner ⟨body.service, body.pgvector⟩ ttl now) = (.ok row, after))
      (estimated : row.requestedAt.add? state.deps.spawnEstimate = some estimatedReadyAt) :
      Answered linked state fresh now owner (.createCluster request)
        [.called met before after, .handed (.spawn row projectTar)]
        ⟨202, .created ⟨row.id, "spawning", row.requestedAt, estimatedReadyAt⟩⟩
  | notListed {error : RepositoryError} {rows : Rows} :
      Answered linked state fresh now owner .listClusters [.called (some error) rows rows]
        (ApiError.internal (.repository error)).reply
  | listed {rows : Rows} {entries : List ClusterListEntry}
      (shown : (Repository.listByOwner rows owner).mapM (listEntry state.deps.spawnEstimate) = some entries) :
      Answered linked state fresh now owner .listClusters [.called none rows rows] ⟨200, .entries entries⟩
  | rejected {target : Route} {path text : String} (names : target.Names path) (unparsed : linked.clusterPath path = .error text) :
      Answered linked state fresh now owner target [] ⟨400, .rejection text⟩
  | lookupFailed {target : Route} {path : String} {id : ClusterId} {error : RepositoryError} {rows : Rows}
      (names : target.Names path) (parsed : linked.clusterPath path = .ok id) :
      Answered linked state fresh now owner target [.called (some error) rows rows]
        (ApiError.internal (.repository error)).reply
  | notFound {target : Route} {path : String} {id : ClusterId} {rows : Rows}
      (names : target.Names path) (parsed : linked.clusterPath path = .ok id)
      (absent : Repository.getOwned rows id owner = none) :
      Answered linked state fresh now owner target [.called none rows rows] ApiError.notFound.reply
  | seen {path : String} {id : ClusterId} {rows : Rows} {row : Cluster} {status : Nat} {info : ClusterInfoResponse}
      (parsed : linked.clusterPath path = .ok id) (found : Repository.getOwned rows id owner = some row)
      (shown : infoResponse row state.deps.spawnEstimate = some (status, info)) :
      Answered linked state fresh now owner (.getCluster path) [.called none rows rows] ⟨status, .info info⟩
  | writeFailed {path : String} {id : ClusterId} {rows before : Rows} {row : Cluster} {source : RepositoryError}
      {met : Option RepositoryError} (parsed : linked.clusterPath path = .ok id)
      (found : Repository.getOwned rows id owner = some row) (why : met.isSome ∨ Repository.getAny before id = none) :
      Answered linked state fresh now owner (.deleteCluster path) [.called none rows rows, .called met before before]
        (ApiError.internal (.repository source)).reply
  | deleted {path : String} {id : ClusterId} {rows before after : Rows} {row condemned : Cluster} {outcome : DeleteOutcome}
      {met : Option RepositoryError} (parsed : linked.clusterPath path = .ok id)
      (found : Repository.getOwned rows id owner = some row)
      (done : ClusterService.writeDeletion before met row now .userRequested = (.ok (condemned, outcome), after)) :
      Answered linked state fresh now owner (.deleteCluster path)
        ([.called none rows rows, .called met before after] ++ handedBy id condemned outcome) ⟨202, .deleting ⟨"deleting"⟩⟩

variable {linked : Linked} {state : AppState} {fresh id : ClusterId} {now : DateTime} {owner : ClientId}
  {events : List TableEvent} {reply : Reply}

theorem respond_completes {α : Type} {texts : DebugTexts} {handler : Async (Except AppSalmon.ApiError α)}
    {shape : α → Reply} (complete : (respond texts handler shape).Completes events reply) :
    ∃ result, handler.Completes events result ∧ reply = replyTo texts shape result := by
  obtain ⟨result, done, later, rfl, ended, rfl, rfl⟩ := Future.completes_bind.mp complete
  exact ⟨result, by rwa [List.append_nil], rfl⟩

theorem createAsync_answers {limits : Limits} {service : ServiceSpec} {ttl : TimeDelta} {out : Except ClusterError Cluster}
    (complete : (ClusterService.createAsync limits fresh now owner service ttl).Completes events out) :
    (∃ error, ClusterService.checkTtl limits ttl = .error error ∧ events = [] ∧ out = .error error) ∨
      ∃ met before after, ClusterService.checkTtl limits ttl = .ok () ∧
        ClusterService.create limits before met (ClusterService.newCluster fresh owner service ttl now) = (out, after) ∧
        events = [.called met before after] := by
  cases bounded : ClusterService.checkTtl limits ttl with
  | error error =>
    simp only [ClusterService.createAsync, bounded] at complete
    exact .inl ⟨error, rfl, complete⟩
  | ok checked =>
    right
    rcases ClusterService.createAsync_completes complete with ⟨rfl, error, rfl⟩ | ⟨met, before, after, did, rfl⟩
    · -- the call is made, so there is something to be seen
      simp only [ClusterService.createAsync, bounded] at complete
      obtain ⟨_, _, _, nothing, called, -, -⟩ := Future.completes_bind.mp complete
      obtain ⟨met, before, rfl, -⟩ := Conn.withConn_completes called
      cases nothing
    · exact ⟨met, before, after, rfl, did, rfl⟩

theorem checkTtl_error {limits : Limits} {ttl : TimeDelta} {error : ClusterError}
    (refused : ClusterService.checkTtl limits ttl = .error error) :
    ∃ requested shortest longest, error = .ttlOutOfBounds requested shortest longest := by
  unfold ClusterService.checkTtl at refused
  split at refused
  · exact ⟨_, _, _, (Except.error.inj refused).symm⟩
  · cases refused

/-- Under the quota there is a slot, so only an identifier that is taken is in the way. -/
theorem taken_of_insert_error {rows : Rows} {cluster : Cluster} {limit : UInt32} {source : RepositoryError}
    (failed : Repository.tryInsertIfUnderQuota rows cluster limit = .error source) :
    (Repository.getAny rows cluster.id).isSome = true := by
  simp only [Repository.tryInsertIfUnderQuota] at failed
  split at failed
  · cases failed
  next room =>
  rw [Repository.le_countU32, Nat.not_le, ← @List.length_map _ _ (Repository.listByOwner rows cluster.owner) Cluster.slot] at room
  obtain ⟨slot, free⟩ := Repository.leastFreeSlot_isSome room
  rw [free] at failed
  dsimp only at failed
  split at failed
  · next taken => rw [taken, Option.isSome_some]
  · cases failed

/-- Why an insert that was submitted is refused. -/
theorem create_refused {limits : Limits} {rows next : Rows} {met : Option RepositoryError} {cluster : Cluster}
    {error : ClusterError} (bounded : ClusterService.checkTtl limits cluster.requestedTtl = .ok ())
    (refused : ClusterService.create limits rows met cluster = (.error error, next)) :
    (met = none ∧ (∃ count, error = .quotaExceeded cluster.owner count limits.maxClustersPerUser) ∧
        limits.maxClustersPerUser.toNat ≤ (Repository.listByOwner rows cluster.owner).length) ∨
      ∃ source, error = .repository source ∧ (met.isSome ∨ (Repository.getAny rows cluster.id).isSome) := by
  cases met with
  | some source =>
    simp only [ClusterService.create, bounded, Prod.mk.injEq, Except.error.injEq] at refused
    exact .inr ⟨source, refused.1.symm, .inl rfl⟩
  | none =>
    simp only [ClusterService.create, bounded] at refused
    split at refused
    · next source failed =>
      simp only [Prod.mk.injEq, Except.error.injEq] at refused
      exact .inr ⟨source, refused.1.symm, .inr (taken_of_insert_error failed)⟩
    · cases refused
    · next count done =>
      simp only [Prod.mk.injEq, Except.error.injEq] at refused
      rcases Repository.tryInsertIfUnderQuota_cases done with ⟨full, -, -⟩ | ⟨_, _, _, _, other, _⟩
      · exact .inl ⟨rfl, ⟨count, refused.1.symm⟩, full⟩
      · cases other

theorem createCluster_answered {request : CreateRequest} (complete :
    (route linked state fresh now owner (.createCluster request)).Completes events reply) :
    Answered linked state fresh now owner (.createCluster request) events reply := by
  obtain ⟨result, working, rfl⟩ := respond_completes complete
  obtain ⟨read, done, later, rfl, reading, working⟩ := Future.completes_bind.mp working
  obtain ⟨rfl, reads⟩ := Handlers.readCreateRequest_completes.mp reading
  cases read with
  | error why =>
    obtain ⟨rfl, rfl⟩ := working
    obtain ⟨message, rfl⟩ := CreateRequest.read_error reads.symm
    exact .unread reads.symm
  | ok accepted =>
    obtain ⟨body, projectTar⟩ := accepted
    dsimp only at working
    split at working
    · next range =>
      obtain ⟨rfl, rfl⟩ := working
      exact .outOfRange reads.symm range
    next ttl range =>
    obtain ⟨made, calls, rest, rfl, creating, ending⟩ := Future.completes_bind.mp working
    rcases createAsync_answers creating with ⟨error, refused, rfl, rfl⟩ | ⟨met, before, after, bounded, did, rfl⟩
    · obtain ⟨rfl, rfl⟩ := ending
      obtain ⟨requested, shortest, longest, rfl⟩ := checkTtl_error refused
      exact .outOfBounds reads.symm range refused
    cases made with
    | error error =>
      obtain ⟨rfl, rfl⟩ := ending
      obtain rfl := ClusterService.create_error did
      rcases create_refused bounded did with ⟨rfl, ⟨count, rfl⟩, full⟩ | ⟨source, rfl, why⟩
      · exact .overQuota full
      · exact .insertFailed why
    | ok row =>
      simp only [Handlers.launch] at ending
      split at ending
      · exact ending.elim
      next estimatedReadyAt estimated =>
      obtain ⟨_, rfl, rfl, rfl⟩ := ending
      exact .created reads.symm range did estimated

/-- Why the write of a deletion fails. -/
theorem writeDeletion_refused {rows next : Rows} {met : Option RepositoryError} {cluster : Cluster} {reason : DeleteReason}
    {error : ClusterError} (refused : ClusterService.writeDeletion rows met cluster now reason = (.error error, next)) :
    ∃ source, error = .repository source ∧ (met.isSome ∨ Repository.getAny rows cluster.id = none) := by
  unfold ClusterService.writeDeletion at refused
  rw [transition_deleteRequested] at refused
  cases met with
  | some source =>
    simp only [Prod.mk.injEq, Except.error.injEq] at refused
    exact ⟨source, refused.1.symm, .inl rfl⟩
  | none =>
    simp only at refused
    split at refused
    · next source failed =>
      simp only [Prod.mk.injEq, Except.error.injEq] at refused
      refine ⟨source, refused.1.symm, .inr ?_⟩
      unfold Repository.updateState Repository.modify at failed
      split at failed
      · next absent => exact absent
      · cases failed
    · cases refused

theorem listClusters_answered (complete : (route linked state fresh now owner .listClusters).Completes events reply) :
    Answered linked state fresh now owner .listClusters events reply := by
  obtain ⟨result, working, rfl⟩ := respond_completes complete
  obtain ⟨listed, calls, rest, rfl, listing, ending⟩ := Future.completes_bind.mp working
  obtain ⟨answer, called, rest', rfl, call, ended⟩ := Future.completes_bind.mp listing
  obtain ⟨met, rows, rfl, rfl⟩ := Conn.withConn_completes call
  cases met with
  | some error =>
    obtain ⟨rfl, rfl⟩ := ended
    obtain ⟨rfl, rfl⟩ := ending
    exact .notListed
  | none =>
    obtain ⟨rfl, rfl⟩ := ended
    dsimp only at ending
    split at ending
    · exact ending.elim
    next entries shown =>
    obtain ⟨rfl, rfl⟩ := ending
    exact .listed shown

theorem getCluster_answered {path : String}
    (complete : (route linked state fresh now owner (.getCluster path)).Completes events reply) :
    Answered linked state fresh now owner (.getCluster path) events reply := by
  simp only [route, withPath] at complete
  split at complete
  · next text unparsed =>
    obtain ⟨rfl, rfl⟩ := complete
    exact .rejected (.inl rfl) unparsed
  next id parsed =>
  obtain ⟨result, working, rfl⟩ := respond_completes complete
  obtain ⟨seen, calls, rest, rfl, looking, ending⟩ := Future.completes_bind.mp working
  rcases Conn.getOwned_completes looking with ⟨error, rows, later, rfl, ended⟩ | ⟨rows, later, rfl, ended⟩
  · obtain ⟨rfl, rfl⟩ := ended
    obtain ⟨rfl, rfl⟩ := ending
    exact .lookupFailed (.inl rfl) parsed
  cases found : Repository.getOwned rows id owner with
  | none =>
    rw [found] at ended
    obtain ⟨rfl, rfl⟩ := ended
    obtain ⟨rfl, rfl⟩ := ending
    exact .notFound (.inl rfl) parsed found
  | some row =>
    rw [found] at ended
    obtain ⟨rfl, rfl⟩ := ended
    dsimp only at ending
    split at ending
    · exact ending.elim
    next shown =>
    obtain ⟨rfl, rfl⟩ := ending
    exact .seen parsed found shown

theorem deleteCluster_answered {path : String}
    (complete : (route linked state fresh now owner (.deleteCluster path)).Completes events reply) :
    Answered linked state fresh now owner (.deleteCluster path) events reply := by
  simp only [route, withPath] at complete
  split at complete
  · next text unparsed =>
    obtain ⟨rfl, rfl⟩ := complete
    exact .rejected (.inr rfl) unparsed
  next id parsed =>
  obtain ⟨result, working, rfl⟩ := respond_completes complete
  obtain ⟨done, calls, rest, rfl, deleting, ending⟩ := Future.completes_bind.mp working
  rcases ClusterService.requestDeleteAsync_completes deleting with
    ⟨error, rows, rfl, rfl⟩ | ⟨rows, absent, rfl, rfl⟩ | ⟨rows, row, met, before, after, found, did, rfl⟩
  · obtain ⟨rfl, rfl⟩ := ending
    exact .lookupFailed (.inr rfl) parsed
  · obtain ⟨rfl, rfl⟩ := ending
    exact .notFound (.inr rfl) parsed absent
  cases done with
  | error error =>
    obtain ⟨rfl, rfl⟩ := ending
    obtain rfl := ClusterService.writeDeletion_error did
    obtain ⟨source, rfl, why⟩ := writeDeletion_refused did
    rw [Repository.getOwned_id found] at why
    exact .writeFailed parsed found why
  | ok wrote =>
    obtain ⟨condemned, outcome⟩ := wrote
    cases outcome with
    | alreadyDeleting =>
      obtain ⟨rfl, rfl⟩ := ending
      exact .deleted parsed found did
    | cancelSpawn | startTeardown =>
      obtain ⟨_, rfl, rfl, rfl⟩ := ending
      exact .deleted parsed found did

theorem route_answered {target : Route} (complete : (route linked state fresh now owner target).Completes events reply) :
    Answered linked state fresh now owner target events reply := by
  cases target with
  | createCluster => exact createCluster_answered complete
  | listClusters => exact listClusters_answered complete
  | getCluster => exact getCluster_answered complete
  | deleteCluster => exact deleteCluster_answered complete

end Http

end AppSalmon
