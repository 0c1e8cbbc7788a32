import AppSalmon.Http.Server

/-! What a client may conclude from an answer.

The table is as others have left it at each call. Whatever a request is
answered with, the answer says what was done on the way: nothing at all, except
where it is a 202.
-/

set_option autoImplicit false

namespace AppSalmon.Http

open Droppable SerdeJson
open Repository (Rows)

/-- The row of an accepted create, what the insert has found, and what the spawn is given. -/
structure MakesRow (linked : Linked) (state : AppState) (fresh : ClusterId) (now : DateTime) (owner : ClientId)
    (sent : CreateRequest) (events : List TableEvent) (row : Cluster) : Prop where
  asked : ∃ body projectTar rows, sent.Carries linked.fromSlice body projectTar ∧
    row.service = ⟨body.service, body.pgvector⟩ ∧ TimeDelta.trySeconds body.ttlSecs = some row.requestedTtl ∧
    Repository.getAny rows fresh = none ∧
    (Repository.listByOwner rows owner).length < state.deps.limits.maxClustersPerUser.toNat ∧
    events = [.called none rows (rows ++ [Repository.stored row]), .handed (.spawn row projectTar)]
  identity : row.id = fresh ∧ row.owner = owner
  state_ : row.requestedAt = now ∧ row.state = .spawning now ∧ row.worker = none
  ttl : state.deps.limits.minTtl ≤ row.requestedTtl ∧ row.requestedTtl ≤ state.deps.limits.maxTtl

/-- The row as it was read, what was written for it, and what follows from what was read. -/
def Condemns (id : ClusterId) (now : DateTime) (row : Cluster) (events : List TableEvent) : Prop :=
  ∃ rows before after there, events = [.called none rows rows, .called none before after] ++
      handedBy id { row with state := ClusterService.condemned now .userRequested row.state }
        (ClusterService.deleteOutcome row.state) ∧
    Repository.getOwned rows id row.owner = some row ∧ Repository.getAny before id = some there ∧
    Repository.getAny after id = some { there with state := ClusterService.condemned now .userRequested row.state } ∧
    ∀ other, other ≠ id → Repository.getAny after other = Repository.getAny before other

/-- The answer tells what was done. -/
structure Reply.Tells (linked : Linked) (state : AppState) (fresh : ClusterId) (now : DateTime) (request : HttpRequest)
    (events : List TableEvent) (reply : Reply) : Prop where
  status : reply.status ∈ [200, 202, 400, 401, 404, 410, 429, 500]
  /-- Nobody is answered anything else before he is known. -/
  unauthorized : reply.status = 401 ↔
    ∃ error, state.clientRegistry.authenticate linked.sha256 request.authorization = .error error
  untried : reply.status = 400 ∨ reply.status = 401 → events = []
  idle : reply.status ≠ 202 → ∀ event ∈ events, ∃ met rows, event = .called met rows rows
  overQuota : reply.status = 429 → ∃ owner rows,
    state.clientRegistry.authenticate linked.sha256 request.authorization = .ok owner ∧
    events = [.called none rows rows] ∧
    state.deps.limits.maxClustersPerUser.toNat ≤ (Repository.listByOwner rows owner).length
  notFound : reply.status = 404 → ∃ owner path id rows,
    state.clientRegistry.authenticate linked.sha256 request.authorization = .ok owner ∧ request.route.Names path ∧
    linked.clusterPath path = .ok id ∧ events = [.called none rows rows] ∧ Repository.getOwned rows id owner = none
  /-- Nothing of the error reaches the client; the last call has failed, or has met what another request did. -/
  internal : reply.status = 500 → reply.body = .error ⟨"internal_error", "internal error"⟩ ∧
    ∃ earlier met rows, events = earlier ++ [.called met rows rows] ∧
      (met.isSome ∨ (Repository.getAny rows fresh).isSome ∨
        ∃ path id, request.route = .deleteCluster path ∧ linked.clusterPath path = .ok id ∧ Repository.getAny rows id = none)
  created : ∀ body, reply.body = .created body → reply.status = 202 ∧ ∃ owner sent row,
    state.clientRegistry.authenticate linked.sha256 request.authorization = .ok owner ∧
    request.route = .createCluster sent ∧ MakesRow linked state fresh now owner sent events row ∧
    body.id = row.id ∧ body.status = "spawning" ∧ body.requestedAt = row.requestedAt ∧
    row.requestedAt.add? state.deps.spawnEstimate = some body.estimatedReadyAt
  deleting : ∀ body, reply.body = .deleting body → reply.status = 202 ∧ ∃ owner path id row,
    state.clientRegistry.authenticate linked.sha256 request.authorization = .ok owner ∧
    request.route = .deleteCluster path ∧ linked.clusterPath path = .ok id ∧ row.owner = owner ∧ Condemns id now row events
  info : ∀ body, reply.body = .info body → ∃ owner path id rows row,
    state.clientRegistry.authenticate linked.sha256 request.authorization = .ok owner ∧
    request.route = .getCluster path ∧ linked.clusterPath path = .ok id ∧ events = [.called none rows rows] ∧
    Repository.getOwned rows id owner = some row ∧
    infoResponse row state.deps.spawnEstimate = some (reply.status, body) ∧
    reply.status = if row.state.isDeleting then 410 else 200
  /-- The status of a `GET` is the one that the table gives which its call has met. -/
  got : ∀ path owner id, request.route = .getCluster path →
    state.clientRegistry.authenticate linked.sha256 request.authorization = .ok owner → linked.clusterPath path = .ok id →
    ∃ met rows, events = [.called met rows rows] ∧
      getCluster state.deps.spawnEstimate rows met id owner = some reply.status
  entries : ∀ body, reply.body = .entries body → reply.status = 200 ∧ ∃ owner rows,
    state.clientRegistry.authenticate linked.sha256 request.authorization = .ok owner ∧
    request.route = .listClusters ∧ events = [.called none rows rows] ∧
    List.Forall₂ (fun row entry => row.owner = owner ∧ entry.id = row.id ∧
      ∃ status, infoResponse row state.deps.spawnEstimate = some (status, entry.info))
      (Repository.listByOwner rows owner) body

variable {linked : Linked} {state : AppState} {fresh : ClusterId} {now : DateTime} {owner : ClientId}
  {events : List TableEvent} {reply : Reply}

theorem create_met {limits : Limits} {rows next : Rows} {met : Option RepositoryError} {cluster made : Cluster}
    (done : ClusterService.create limits rows met cluster = (.ok made, next)) : met = none := by
  unfold ClusterService.create at done
  split at done
  · cases done
  · cases met with
    | none => rfl
    | some error => cases done

theorem mapM_listEntry {spawnEstimate : TimeDelta} {rows : List Cluster} {entries : List ClusterListEntry}
    (shown : rows.mapM (listEntry spawnEstimate) = some entries) (owned : ∀ row ∈ rows, row.owner = owner) :
    List.Forall₂ (fun row entry => row.owner = owner ∧ entry.id = row.id ∧
      ∃ status, infoResponse row spawnEstimate = some (status, entry.info)) rows entries := by
  induction rows generalizing entries with
  | nil =>
    obtain rfl : [] = entries := by simpa using shown
    exact .nil
  | cons row rest ih =>
    simp only [List.mapM_cons, bind, Option.bind_eq_some_iff, pure, Option.some.injEq] at shown
    obtain ⟨entry, first, others, later, rfl⟩ := shown
    obtain ⟨⟨status, info⟩, answer, rfl⟩ := Option.map_eq_some_iff.mp first
    exact .cons ⟨owned row List.mem_cons_self, rfl, status, answer⟩
      (ih later fun other member => owned other (List.mem_cons_of_mem _ member))

/-! ## One conclusion at a time -/

namespace Answered

variable {target : Route}

theorem status (answered : Answered linked state fresh now owner target events reply) :
    reply.status ∈ [200, 202, 400, 404, 410, 429, 500] := by
  cases answered with
  | seen _ _ shown =>
    rw [infoResponse_status shown]
    split <;> simp
  | unread | outOfRange | outOfBounds | overQuota | insertFailed | created | notListed | listed | rejected | lookupFailed
  | notFound | writeFailed | deleted => simp [ApiError.reply, ApiError.intoResponse, ApiError.ofClusterError]

theorem untried (answered : Answered linked state fresh now owner target events reply) (refused : reply.status = 400) :
    events = [] := by
  cases answered with
  | unread | outOfRange | outOfBounds | rejected => rfl
  | seen _ _ shown =>
    rw [infoResponse_status shown] at refused
    split at refused <;> cases refused
  | overQuota | insertFailed | created | notListed | listed | lookupFailed | notFound | writeFailed | deleted => cases refused

theorem idle (answered : Answered linked state fresh now owner target events reply) (other : reply.status ≠ 202) :
    ∀ event ∈ events, ∃ met rows, event = .called met rows rows := by
  intro event member
  cases answered with
  | unread | outOfRange | outOfBounds | rejected => cases member
  | overQuota | insertFailed | notListed | listed | lookupFailed | notFound | seen =>
    exact ⟨_, _, List.mem_singleton.mp member⟩
  | writeFailed =>
    rcases List.mem_pair.mp member with first | second
    · exact ⟨_, _, first⟩
    · exact ⟨_, _, second⟩
  | created | deleted => exact (other rfl).elim

theorem overQuota_ (answered : Answered linked state fresh now owner target events reply) (refused : reply.status = 429) :
    ∃ rows, events = [.called none rows rows] ∧
      state.deps.limits.maxClustersPerUser.toNat ≤ (Repository.listByOwner rows owner).length := by
  cases answered with
  | overQuota full => exact ⟨_, rfl, full⟩
  | seen _ _ shown =>
    rw [infoResponse_status shown] at refused
    split at refused <;> cases refused
  | unread | outOfRange | outOfBounds | insertFailed | created | notListed | listed | rejected | lookupFailed | notFound
  | writeFailed | deleted => cases refused

theorem notFound_ (answered : Answered linked state fresh now owner target events reply) (refused : reply.status = 404) :
    ∃ path id rows, target.Names path ∧ linked.clusterPath path = .ok id ∧ events = [.called none rows rows] ∧
      Repository.getOwned rows id owner = none := by
  cases answered with
  | notFound names parsed absent => exact ⟨_, _, _, names, parsed, rfl, absent⟩
  | seen _ _ shown =>
    rw [infoResponse_status shown] at refused
    split at refused <;> cases refused
  | unread | outOfRange | outOfBounds | overQuota | insertFailed | created | notListed | listed | rejected | lookupFailed
  | writeFailed | deleted => cases refused

theorem internal (answered : Answered linked state fresh now owner target events reply) (refused : reply.status = 500) :
    reply.body = .error ⟨"internal_error", "internal error"⟩ ∧
    ∃ earlier met rows, events = earlier ++ [.called met rows rows] ∧
      (met.isSome ∨ (Repository.getAny rows fresh).isSome ∨
        ∃ path id, target = .deleteCluster path ∧ linked.clusterPath path = .ok id ∧ Repository.getAny rows id = none) := by
  cases answered with
  | insertFailed why => exact ⟨rfl, [], _, _, rfl, why.imp_right .inl⟩
  | notListed | lookupFailed => exact ⟨rfl, [], _, _, rfl, .inl rfl⟩
  | writeFailed parsed _ why =>
    exact ⟨rfl, [_], _, _, rfl, why.imp_right fun absent => .inr ⟨_, _, rfl, parsed, absent⟩⟩
  | seen _ _ shown =>
    rw [infoResponse_status shown] at refused
    split at refused <;> cases refused
  | unread | outOfRange | outOfBounds | overQuota | created | listed | rejected | notFound | deleted => cases refused

theorem created_ (answered : Answered linked state fresh now owner target events reply) {body : CreateClusterResponse}
    (made : reply.body = .created body) : reply.status = 202 ∧ ∃ sent row, target = .createCluster sent ∧
      MakesRow linked state fresh now owner sent events row ∧ body.id = row.id ∧ body.status = "spawning" ∧
      body.requestedAt = row.requestedAt ∧ row.requestedAt.add? state.deps.spawnEstimate = some body.estimatedReadyAt := by
  cases answered with
  | @created sent spec projectTar ttl met before after row ready read range did estimated =>
    obtain rfl := Body.created.inj made
    refine ⟨rfl, sent, row, rfl, ?_, rfl, rfl, rfl, estimated⟩
    obtain ⟨slot, inserted, rfl⟩ := ClusterService.create_ok did
    rcases Repository.tryInsertIfUnderQuota_cases inserted with ⟨_, _, other⟩ | ⟨_, room, _, absent, same, rfl⟩
    · cases other
    obtain rfl := Repository.InsertOutcome.inserted.inj same
    obtain rfl := create_met did
    have bounds := ClusterService.create_bounds did
    exact ⟨⟨spec, projectTar, before, CreateRequest.read_eq_ok.mp read, rfl, range, absent, room, rfl⟩, ⟨rfl, rfl⟩,
      ⟨rfl, rfl, rfl⟩, bounds⟩
  | unread | outOfRange | outOfBounds | overQuota | insertFailed | notListed | listed | rejected | lookupFailed | notFound
  | seen | writeFailed | deleted => cases made

theorem deleting_ (answered : Answered linked state fresh now owner target events reply) {body : DeleteResponse}
    (made : reply.body = .deleting body) : reply.status = 202 ∧ ∃ path id row, target = .deleteCluster path ∧
      linked.clusterPath path = .ok id ∧ row.owner = owner ∧ Condemns id now row events := by
  cases answered with
  | @deleted path id rows before after row condemned outcome met parsed found done =>
    obtain ⟨rfl, rfl, rfl, written⟩ := ClusterService.writeDeletion_ok done
    have owned : row.id = id ∧ row.owner = owner := by simpa using List.find?_some found
    obtain ⟨rfl, rfl⟩ := owned
    obtain ⟨⟨there, standing⟩, -⟩ := Repository.modify_eq_ok.mp written
    refine ⟨rfl, path, row.id, row, rfl, parsed, rfl, rows, before, after, there, rfl, found, standing, ?_, ?_⟩
    · rw [Repository.getAny_updateState written, if_pos rfl, standing]
      rfl
    · intro other different
      rw [Repository.getAny_updateState written, if_neg different]
  | unread | outOfRange | outOfBounds | overQuota | insertFailed | created | notListed | listed | rejected | lookupFailed
  | notFound | seen | writeFailed => cases made

theorem info_ (answered : Answered linked state fresh now owner target events reply) {body : ClusterInfoResponse}
    (made : reply.body = .info body) : ∃ path id rows row, target = .getCluster path ∧ linked.clusterPath path = .ok id ∧
      events = [.called none rows rows] ∧ Repository.getOwned rows id owner = some row ∧
      infoResponse row state.deps.spawnEstimate = some (reply.status, body) ∧
      reply.status = if row.state.isDeleting then 410 else 200 := by
  cases answered with
  | seen parsed found shown =>
    obtain rfl := Body.info.inj made
    exact ⟨_, _, _, _, rfl, parsed, rfl, found, shown, infoResponse_status shown⟩
  | unread | outOfRange | outOfBounds | overQuota | insertFailed | created | notListed | listed | rejected | lookupFailed
  | notFound | writeFailed | deleted => cases made

theorem got {path : String} {id : ClusterId} (answered : Answered linked state fresh now owner target events reply)
    (asks : target = .getCluster path) (parsed : linked.clusterPath path = .ok id) :
    ∃ met rows, events = [.called met rows rows] ∧
      getCluster state.deps.spawnEstimate rows met id owner = some reply.status := by
  have unique {other : String} (names : target.Names other) : other = path := by
    rcases names with same | same
    · exact Route.getCluster.inj (same.symm.trans asks)
    · cases asks.symm.trans same
  cases answered with
  | rejected names unparsed =>
    rw [unique names, parsed] at unparsed
    cases unparsed
  | @lookupFailed _ _ _ error rows names _ =>
    exact ⟨some error, rows, rfl, congrArg some (intoResponse_status linked.texts (.repository error)).symm⟩
  | @notFound _ _ other rows names same absent =>
    rw [unique names, parsed] at same
    obtain rfl := Except.ok.inj same
    refine ⟨none, rows, rfl, ?_⟩
    simp only [getCluster, ClusterService.info, absent]
    exact congrArg some (intoResponse_status linked.texts (.notFound id)).symm
  | @seen _ _ rows row status info same found shown =>
    obtain rfl := Route.getCluster.inj asks
    rw [parsed] at same
    obtain rfl := Except.ok.inj same
    refine ⟨none, rows, rfl, ?_⟩
    simp only [getCluster, ClusterService.info, found, shown, Option.map_some]
  | unread | outOfRange | outOfBounds | overQuota | insertFailed | created | notListed | listed | writeFailed | deleted =>
    cases asks

theorem entries_ (answered : Answered linked state fresh now owner target events reply) {body : List ClusterListEntry}
    (made : reply.body = .entries body) : reply.status = 200 ∧ ∃ rows, target = .listClusters ∧
      events = [.called none rows rows] ∧
      List.Forall₂ (fun row entry => row.owner = owner ∧ entry.id = row.id ∧
        ∃ status, infoResponse row state.deps.spawnEstimate = some (status, entry.info))
        (Repository.listByOwner rows owner) body := by
  cases answered with
  | listed shown =>
    obtain rfl := Body.entries.inj made
    refine ⟨rfl, _, rfl, rfl, mapM_listEntry shown fun row member => ?_⟩
    simpa [Repository.listByOwner] using (List.mem_filter.mp member).2
  | unread | outOfRange | outOfBounds | overQuota | insertFailed | created | notListed | rejected | lookupFailed | notFound
  | seen | writeFailed | deleted => cases made

end Answered

theorem tells_of_answered {request : HttpRequest}
    (known : state.clientRegistry.authenticate linked.sha256 request.authorization = .ok owner)
    (answered : Answered linked state fresh now owner request.route events reply) :
    reply.Tells linked state fresh now request events where
  status := by
    have among : [200, 202, 400, 404, 410, 429, 500] ⊆ [200, 202, 400, 401, 404, 410, 429, 500] := by decide
    exact among answered.status
  unauthorized := by
    rw [known]
    constructor
    · intro refused
      have possible := answered.status
      rw [refused] at possible
      simp at possible
    · intro ⟨error, other⟩
      cases other
  untried refused := by
    rcases refused with unread | unknown
    · exact answered.untried unread
    · have possible := answered.status
      rw [unknown] at possible
      simp at possible
  idle := answered.idle
  overQuota refused := by
    obtain ⟨rows, seen, full⟩ := answered.overQuota_ refused
    exact ⟨owner, rows, known, seen, full⟩
  notFound refused := by
    obtain ⟨path, id, rows, names, parsed, seen, absent⟩ := answered.notFound_ refused
    exact ⟨owner, path, id, rows, known, names, parsed, seen, absent⟩
  internal := answered.internal
  created body made := by
    obtain ⟨status, sent, row, target, makes, same⟩ := answered.created_ made
    exact ⟨status, owner, sent, row, known, target, makes, same⟩
  deleting body made := by
    obtain ⟨status, path, id, row, target, parsed, owned, condemns⟩ := answered.deleting_ made
    exact ⟨status, owner, path, id, row, known, target, parsed, owned, condemns⟩
  info body made := by
    obtain ⟨path, id, rows, row, target, parsed, seen, found, shown⟩ := answered.info_ made
    exact ⟨owner, path, id, rows, row, known, target, parsed, seen, found, shown⟩
  got path caller id asks authentic parsed := by
    obtain rfl : owner = caller := Except.ok.inj (known.symm.trans authentic)
    exact answered.got asks parsed
  entries body made := by
    obtain ⟨status, rows, target, seen, each⟩ := answered.entries_ made
    exact ⟨status, owner, rows, known, target, seen, each⟩

/-- Somebody who is not known learns nothing else. -/
theorem tells_of_unknown {request : HttpRequest} {error : AuthError}
    (unknown : state.clientRegistry.authenticate linked.sha256 request.authorization = .error error) :
    (ApiError.auth error).reply.Tells linked state fresh now request [] where
  status := by simp [ApiError.reply, ApiError.intoResponse]
  unauthorized := by
    rw [unknown]
    exact ⟨fun _ => ⟨error, rfl⟩, fun _ => rfl⟩
  untried _ := rfl
  idle _ event member := by cases member
  overQuota refused := by cases refused
  notFound refused := by cases refused
  internal refused := by cases refused
  created _ made := by cases made
  deleting _ made := by cases made
  info _ made := by cases made
  got _ _ _ _ authentic _ := by
    rw [unknown] at authentic
    cases authentic
  entries _ made := by cases made

/-- Every answer tells what was done. -/
theorem serve_tells {request : HttpRequest}
    (complete : (serve linked state fresh now request).Completes events reply) :
    reply.Tells linked state fresh now request events := by
  unfold serve at complete
  split at complete
  · next error unknown =>
    obtain ⟨rfl, rfl⟩ := complete
    exact tells_of_unknown unknown
  · next owner known => exact tells_of_answered known (route_answered complete)

/-! ## A create of a known client -/

def smallLinked : Linked where
  sha256 := smallSha256
  fromSlice := fun _ => .error "expected value"
  texts := ⟨fun _ => "Spawning", fun _ => "SpawnSucceeded"⟩
  clusterPath := fun _ => .error "Invalid URL: invalid length"

def smallState : AppState := ⟨smallDeps, ⟨[(⟨"alice"⟩, SecretHash.of smallSha256 "s3cret")]⟩⟩

def smallPost : HttpRequest := ⟨some (bearerHeader "alice" "s3cret"), .createCluster smallCreateRequest⟩

theorem smallPost_known :
    smallState.clientRegistry.authenticate smallLinked.sha256 smallPost.authorization = .ok ⟨"alice"⟩ :=
  (ClientRegistry.authenticate_eq_ok smallSha256).mpr
    ⟨by decide, by decide, "s3cret", by decide, rfl, rfl⟩

def smallPosted : List TableEvent := [.called none [] [Repository.stored smallRow], .handed (.spawn smallRow none)]

def smallReady : DateTime := ⟨30000000000, by decide, by decide⟩

theorem smallReady_estimated : DateTime.epoch.add? smallDeps.spawnEstimate = some smallReady := by decide +kernel

def smallReply : Reply := ⟨202, .created ⟨⟨0⟩, "spawning", .epoch, smallReady⟩⟩

theorem smallPost_completes : (serve smallLinked smallState ⟨0⟩ .epoch smallPost).Completes smallPosted smallReply := by
  unfold serve
  rw [smallPost_known]
  refine Future.completes_bind.mpr ⟨.ok ⟨⟨0⟩, "spawning", .epoch, smallReady⟩, smallPosted, [], rfl, ?_, rfl, rfl⟩
  refine Future.completes_bind.mpr ⟨_, [], smallPosted, rfl, smallCreateRequest_read, ?_⟩
  simp only [smallTtl_seconds]
  refine Future.completes_bind.mpr ⟨.ok smallRow, [_], [_], rfl, ?_, ?_⟩
  · have bounded : ClusterService.checkTtl smallState.deps.limits smallTtl = .ok () := smallTtl_bounded
    simp only [ClusterService.createAsync, bounded]
    refine Future.completes_bind.mpr ⟨.ok (.inserted 0), [_], [], rfl, ?_, rfl, rfl⟩
    exact ⟨none, [], [], rfl, rfl, rfl⟩
  · have estimated : smallRow.requestedAt.add? smallState.deps.spawnEstimate = some smallReady := smallReady_estimated
    simp only [Handlers.launch, estimated]
    exact ⟨[], rfl, rfl, rfl⟩

theorem small_serve_tells : smallReply.Tells smallLinked smallState ⟨0⟩ .epoch smallPost smallPosted :=
  serve_tells smallPost_completes

end AppSalmon.Http
