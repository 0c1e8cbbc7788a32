import AppSalmon.Adapters.PersistedCluster
import AppSalmon.Library.Future
import AppSalmon.Service.ClusterService

/-! `create_cluster` and `delete_cluster`, await by await.

A request is dropped when its client disconnects. The closure that a repository
call has handed to the blocking pool is run all the same.
-/

set_option autoImplicit false

namespace AppSalmon

open Droppable SerdeJson
open Repository (Rows InsertOutcome)

/-- What a handler hands to a task of its own, or to the registry. -/
inductive FollowUp where
  | spawn (cluster : Cluster) (projectTar : Option (List UInt8))
  | cancel (id : ClusterId)
  | teardown (cluster : Cluster)

/-- Calls on the table, each of which may fail for a reason of its own. -/
abbrev Async := Future Rows (Option RepositoryError) FollowUp

abbrev TableEvent := Event Rows (Option RepositoryError) FollowUp

/-! ## The repository -/

namespace Conn

variable {α : Type}

/-- What the blocking closure answers, and the table it leaves. -/
def run (call : Rows → Except RepositoryError (Rows × α)) (fault : Option RepositoryError) (rows : Rows) :
    Except RepositoryError α × Rows :=
  match fault with
  | some error => (.error error, rows)
  | none =>
    match call rows with
    | .error error => (.error error, rows)
    | .ok (next, value) => (.ok value, next)

def withConn (call : Rows → Except RepositoryError (Rows × α)) : Async (Except RepositoryError α) :=
  .blocking (run call) .ready

def tryInsertIfUnderQuota (cluster : Cluster) (limit : UInt32) : Async (Except RepositoryError InsertOutcome) :=
  withConn fun rows => Repository.tryInsertIfUnderQuota rows cluster limit

def getOwned (id : ClusterId) (owner : ClientId) : Async (Except RepositoryError (Option Cluster)) :=
  withConn fun rows => .ok (rows, Repository.getOwned rows id owner)

def writeState (id : ClusterId) (state : ClusterState) (rows : Rows) : Except RepositoryError (Rows × Unit) :=
  (Repository.updateState rows id state).map fun next => (next, ())

def updateState (id : ClusterId) (state : ClusterState) : Async (Except RepositoryError Unit) :=
  withConn (writeState id state)

end Conn

/-! ## The service -/

namespace ClusterService

/-- The answer of `create`, from the repository's. -/
def created (cluster : Cluster) (limit : UInt32) : Except RepositoryError InsertOutcome → Except ClusterError Cluster
  | .error error => .error (.repository error)
  | .ok (.inserted slot) => .ok { cluster with slot := slot }
  | .ok (.quotaExceeded count) => .error (.quotaExceeded cluster.owner count limit)

def createAsync (limits : Limits) (id : ClusterId) (now : DateTime) (owner : ClientId) (service : ServiceSpec)
    (requestedTtl : TimeDelta) : Async (Except ClusterError Cluster) :=
  match checkTtl limits requestedTtl with
  | .error error => .ready (.error error)
  | .ok () =>
    let cluster := newCluster id owner service requestedTtl now
    (Conn.tryInsertIfUnderQuota cluster limits.maxClustersPerUser).bind fun outcome =>
      .ready (created cluster limits.maxClustersPerUser outcome)

/-- The answer of `request_delete` to a row that was read, from the repository's. -/
def deletionRequested (cluster : Cluster) (state : ClusterState) :
    Except RepositoryError Unit → Except ClusterError (Cluster × DeleteOutcome)
  | .error error => .error (.repository error)
  | .ok () => .ok ({ cluster with state := state }, deleteOutcome cluster.state)

def requestDeleteAsync (now : DateTime) (id : ClusterId) (owner : ClientId) (reason : DeleteReason) :
    Async (Except ClusterError (Cluster × DeleteOutcome)) :=
  (Conn.getOwned id owner).bind fun
    | .error error => .ready (.error (.repository error))
    | .ok none => .ready (.error (.notFound id))
    | .ok (some cluster) =>
      match transition cluster.state (.deleteRequested now reason) with
      | .error error => .ready (.error error)
      | .ok state =>
        (Conn.updateState id state).bind fun answer => .ready (deletionRequested cluster state answer)

end ClusterService

/-! ## Requests -/

/-- An error of the service keeps its own type; `Http.errorStatus` has its status. -/
inductive ApiError where
  | badRequest (message : String)
  | cluster (error : ClusterError)
  deriving DecidableEq

structure CreateClusterRequest where
  service : ServiceKind
  pgvector : Bool
  ttlSecs : Int64

/-- `pgvector` is `false` when the field is absent. -/
def CreateClusterRequest.ofJson (tree : Json) : Decoded CreateClusterRequest := do
  let fields ← tree.asStruct ["service", "pgvector", "ttl_secs"]
  let service ← ServiceKind.ofJson (← field fields "service")
  let pgvector ← match ← optionalField fields "pgvector" with
    | some value => value.asBool
    | none => .ok false
  let ttlSecs ← i64OfJson (← field fields "ttl_secs")
  return ⟨service, pgvector, ttlSecs⟩

structure CreateClusterResponse where
  id : ClusterId
  status : String
  requestedAt : DateTime
  estimatedReadyAt : DateTime

structure DeleteResponse where
  status : String

structure MultipartField where
  name : Option String
  bytes : Except String (List UInt8)

/-- The fields, and how the stream of them ends. -/
structure Multipart where
  fields : List MultipartField
  closing : Except String Unit

/-- A request as its extractors come to read it. -/
structure CreateRequest where
  /-- The header's value, where it is visible ASCII. -/
  contentType : Option String
  json : Except String Json
  multipart : Except String Multipart

namespace Handlers

/-- A wait whose answer the request already has. -/
def arrives {α : Type} (rest : Async α) : Async α := .wait fun _ : Unit => rest

def refuse {α : Type} (message : String) : Async (Except ApiError α) := .ready (.error (.badRequest message))

/-- The loop of `parse_multipart_create_request`; a part that comes again takes the place of the first. -/
def readFields (fromSlice : List UInt8 → Decoded Json) (closing : Except String Unit)
    (metadata : Option CreateClusterRequest) (projectTar : Option (List UInt8)) :
    List MultipartField → Async (Except ApiError (Option CreateClusterRequest × Option (List UInt8)))
  | [] => arrives (match closing with
    | .error error => refuse ("invalid multipart body: " ++ error)
    | .ok () => .ready (.ok (metadata, projectTar)))
  | field :: rest => arrives (
    if field.name = some "metadata" then
      arrives (match field.bytes with
        | .error error => refuse ("invalid multipart body: " ++ error)
        | .ok bytes =>
          match (fromSlice bytes).bind CreateClusterRequest.ofJson with
          | .error error => refuse ("invalid \"metadata\" part: " ++ error)
          | .ok request => readFields fromSlice closing (some request) projectTar rest)
    else if field.name = some "project_tar" then
      arrives (match field.bytes with
        | .error error => refuse ("invalid multipart body: " ++ error)
        | .ok bytes => readFields fromSlice closing metadata (some bytes) rest)
    else readFields fromSlice closing metadata projectTar rest)

def parseMultipartCreateRequest (fromSlice : List UInt8 → Decoded Json) (multipart : Multipart) :
    Async (Except ApiError (CreateClusterRequest × List UInt8)) :=
  (readFields fromSlice multipart.closing none none multipart.fields).bind fun
    | .error error => .ready (.error error)
    | .ok (none, _) => refuse "multipart request missing a \"metadata\" part"
    | .ok (some _, none) => refuse "multipart request missing a \"project_tar\" part"
    | .ok (some metadata, some projectTar) =>
      if metadata.service ≠ .supabase then
        refuse "multipart/form-data requests are only accepted for service \"supabase\""
      else .ready (.ok (metadata, projectTar))

/-- The part of `create_cluster` that reads the request. -/
def readCreateRequest (fromSlice : List UInt8 → Decoded Json) (request : CreateRequest) :
    Async (Except ApiError (CreateClusterRequest × Option (List UInt8))) :=
  if request.contentType.any fun value => value.startsWith "multipart/form-data" then
    arrives (match request.multipart with
      | .error error => refuse ("invalid multipart body: " ++ error)
      | .ok multipart => (parseMultipartCreateRequest fromSlice multipart).bind fun
        | .error error => .ready (.error error)
        | .ok (metadata, projectTar) => .ready (.ok (metadata, some projectTar)))
  else
    arrives (match request.json.bind CreateClusterRequest.ofJson with
      | .error error => refuse ("invalid JSON body: " ++ error)
      | .ok body =>
        if body.service ≠ .postgres then
          refuse "service \"supabase\" requires a multipart/form-data request carrying a project_tar part"
        else .ready (.ok (body, none)))

/-- The rest of `create_cluster` after its last await. -/
def launch (deps : TaskDeps) (projectTar : Option (List UInt8)) :
    Except ClusterError Cluster → Async (Except ApiError CreateClusterResponse)
  | .error error => .ready (.error (.cluster error))
  | .ok cluster =>
    match cluster.requestedAt.add? deps.spawnEstimate with
    | none => .panicked
    | some estimatedReadyAt => .hand (.spawn cluster projectTar)
        (.ready (.ok ⟨cluster.id, "spawning", cluster.requestedAt, estimatedReadyAt⟩))

/-- `202 Accepted`, or an error. -/
def createCluster (deps : TaskDeps) (fromSlice : List UInt8 → Decoded Json) (id : ClusterId) (now : DateTime)
    (owner : ClientId) (request : CreateRequest) : Async (Except ApiError CreateClusterResponse) :=
  (readCreateRequest fromSlice request).bind fun
    | .error error => .ready (.error error)
    | .ok (body, projectTar) =>
      match TimeDelta.trySeconds body.ttlSecs with
      | none => refuse "ttl_secs out of range"
      | some ttl => (ClusterService.createAsync deps.limits id now owner ⟨body.service, body.pgvector⟩ ttl).bind
          (launch deps projectTar)

/-- The rest of `delete_cluster` after its last await. -/
def follow (id : ClusterId) : Except ClusterError (Cluster × DeleteOutcome) → Async (Except ApiError DeleteResponse)
  | .error error => .ready (.error (.cluster error))
  | .ok (_, .cancelSpawn) => .hand (.cancel id) (.ready (.ok ⟨"deleting"⟩))
  | .ok (cluster, .startTeardown) => .hand (.teardown cluster) (.ready (.ok ⟨"deleting"⟩))
  | .ok (_, .alreadyDeleting) => .ready (.ok ⟨"deleting"⟩)

def deleteCluster (now : DateTime) (id : ClusterId) (owner : ClientId) : Async (Except ApiError DeleteResponse) :=
  (ClusterService.requestDeleteAsync now id owner .userRequested).bind (follow id)

end Handlers

end AppSalmon
