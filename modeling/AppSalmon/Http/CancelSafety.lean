import AppSalmon.Http.Handlers

/-! What is left of a request that is dropped.

Both handlers hand their follow-up work over after the last await. A request
that is dropped while its write is with the blocking pool has changed the table
and told nobody.
-/

set_option autoImplicit false

namespace AppSalmon

open Droppable SerdeJson
open Repository (Rows InsertOutcome)

variable {α : Type} {events : List TableEvent} {limits : Limits} {id : ClusterId}
  {owner : ClientId} {now : DateTime}

/-! ## Calls -/

namespace Conn

theorem withConn_quiet (call : Rows → Except RepositoryError (Rows × α)) : (withConn call).Quiet := fun _ => trivial

theorem withConn_completes {call : Rows → Except RepositoryError (Rows × α)} {out : Except RepositoryError α}
    (complete : (withConn call).Completes events out) :
    ∃ met before, events = [.called met before (run call met before).2] ∧ out = (run call met before).1 := by
  obtain ⟨met, before, later, rfl, rfl, rfl⟩ := complete
  exact ⟨met, before, rfl, rfl⟩

theorem run_getOwned (fault : Option RepositoryError) (rows : Rows) :
    (run (fun rows => .ok (rows, Repository.getOwned rows id owner)) fault rows).2 = rows := by
  cases fault <;> rfl

/-- What goes on from a lookup knows that it has failed, or what one table holds. -/
theorem getOwned_completes {rest : Except RepositoryError (Option Cluster) → Async α} {out : α}
    (complete : ((getOwned id owner).bind rest).Completes events out) :
    (∃ error rows later, events = .called (some error) rows rows :: later ∧ (rest (.error error)).Completes later out) ∨
      ∃ rows later, events = .called none rows rows :: later ∧
        (rest (.ok (Repository.getOwned rows id owner))).Completes later out := by
  obtain ⟨answer, called, later, rfl, read, onward⟩ := Future.completes_bind.mp complete
  obtain ⟨met, rows, rfl, rfl⟩ := withConn_completes read
  rw [run_getOwned]
  cases met with
  | some error => exact .inl ⟨error, rows, later, rfl, onward⟩
  | none => exact .inr ⟨rows, later, rfl, onward⟩

end Conn

namespace ClusterService

variable {service : ServiceSpec} {ttl : TimeDelta}

/-- The two halves of `create`: the call on the table, and what is made of its answer. -/
theorem create_eq {cluster : Cluster} (bounded : checkTtl limits cluster.requestedTtl = .ok ())
    (fault : Option RepositoryError) (rows : Rows) :
    create limits rows fault cluster =
      (created cluster limits.maxClustersPerUser
          (Conn.run (fun rows => Repository.tryInsertIfUnderQuota rows cluster limits.maxClustersPerUser) fault rows).1,
        (Conn.run (fun rows => Repository.tryInsertIfUnderQuota rows cluster limits.maxClustersPerUser) fault rows).2) := by
  cases fault with
  | some error => simp [create, bounded, Conn.run, created]
  | none =>
    simp only [create, bounded, Conn.run]
    cases Repository.tryInsertIfUnderQuota rows cluster limits.maxClustersPerUser with
    | error => rfl
    | ok done =>
      obtain ⟨next, outcome⟩ := done
      cases outcome <;> rfl

theorem createAsync_completes {out : Except ClusterError Cluster}
    (complete : (createAsync limits id now owner service ttl).Completes events out) :
    (events = [] ∧ ∃ error, out = .error error) ∨
      ∃ met before after, create limits before met (newCluster id owner service ttl now) = (out, after) ∧
        events = [.called met before after] := by
  simp only [createAsync] at complete
  split at complete
  · next error _ => exact .inl ⟨complete.1, error, complete.2⟩
  · next bounded =>
    right
    obtain ⟨answer, done, later, rfl, called, rfl, rfl⟩ := Future.completes_bind.mp complete
    obtain ⟨met, before, rfl, rfl⟩ := Conn.withConn_completes called
    exact ⟨met, before, _, create_eq bounded met before, rfl⟩

theorem requestDeleteAsync_quiet {reason : DeleteReason} : (requestDeleteAsync now id owner reason).Quiet := by
  refine .bind (Conn.withConn_quiet _) fun answer => ?_
  cases answer with
  | error => trivial
  | ok found =>
    cases found with
    | none => trivial
    | some cluster =>
      simp only [transition_deleteRequested]
      exact .bind (Conn.withConn_quiet _) fun _ => trivial

/-- What `request_delete` writes on a row that it has read. -/
def condemned (now : DateTime) (reason : DeleteReason) (read : ClusterState) : ClusterState :=
  if read.isDeleting then read else .deleting now reason

theorem transition_condemned (read : ClusterState) (reason : DeleteReason) :
    transition read (.deleteRequested now reason) = .ok (condemned now reason read) := transition_deleteRequested ..

/-- The second half of `request_delete`: the call on the table, and what is made of its answer. -/
theorem writeDeletion_eq (now : DateTime) (cluster : Cluster) (reason : DeleteReason) (fault : Option RepositoryError) (rows : Rows) :
    writeDeletion rows fault cluster now reason =
      (deletionRequested cluster (condemned now reason cluster.state)
          (Conn.run (Conn.writeState cluster.id (condemned now reason cluster.state)) fault rows).1,
        (Conn.run (Conn.writeState cluster.id (condemned now reason cluster.state)) fault rows).2) := by
  simp only [writeDeletion, transition_condemned]
  cases fault with
  | some error => rfl
  | none =>
    simp only [Conn.run, Conn.writeState]
    cases Repository.updateState rows cluster.id (condemned now reason cluster.state) <;> rfl

theorem requestDeleteAsync_completes {reason : DeleteReason} {out : Except ClusterError (Cluster × DeleteOutcome)}
    (complete : (requestDeleteAsync now id owner reason).Completes events out) :
    (∃ error rows, events = [.called (some error) rows rows] ∧ out = .error (.repository error)) ∨
      (∃ rows, Repository.getOwned rows id owner = none ∧ events = [.called none rows rows] ∧ out = .error (.notFound id)) ∨
      ∃ rows cluster met before after, Repository.getOwned rows id owner = some cluster ∧
        writeDeletion before met cluster now reason = (out, after) ∧
        events = [.called none rows rows, .called met before after] := by
  rcases Conn.getOwned_completes complete with ⟨error, rows, later, rfl, ended⟩ | ⟨rows, later, rfl, writing⟩
  · obtain ⟨rfl, rfl⟩ := ended
    exact .inl ⟨error, rows, rfl, rfl⟩
  cases found : Repository.getOwned rows id owner with
  | none =>
    rw [found] at writing
    obtain ⟨rfl, rfl⟩ := writing
    exact .inr (.inl ⟨rows, found, rfl, rfl⟩)
  | some cluster =>
    simp only [found, transition_condemned] at writing
    obtain ⟨answer, done, later, rfl, written, rfl, rfl⟩ := Future.completes_bind.mp writing
    obtain ⟨met, before, rfl, rfl⟩ := Conn.withConn_completes written
    have same := writeDeletion_eq now cluster reason met before
    rw [Repository.getOwned_id found] at same
    exact .inr (.inr ⟨rows, cluster, met, before, _, found, same, rfl⟩)

end ClusterService

/-! ## Handlers -/

namespace Handlers

variable {deps : TaskDeps} {fromSlice : List UInt8 → Decoded Json} {request : CreateRequest}

theorem readFields_outside (closing : Except String Unit) (fields : List MultipartField)
    (metadata : Option CreateClusterRequest) (projectTar : Option (List UInt8)) :
    (readFields fromSlice closing metadata projectTar fields).Outside := by
  induction fields generalizing metadata projectTar with
  | nil =>
    intro _
    cases closing <;> trivial
  | cons field rest ih =>
    intro _
    dsimp only
    split
    · intro _
      dsimp only
      split
      · trivial
      · split
        · trivial
        · exact ih _ _
    · split
      · intro _
        dsimp only
        split
        · trivial
        · exact ih _ _
      · exact ih _ _

/-- Until its body is read, a request has to do with nothing but its client. -/
theorem readCreateRequest_outside : (readCreateRequest fromSlice request).Outside := by
  unfold readCreateRequest
  split
  · intro _
    dsimp only
    split
    · trivial
    · next multipart _ =>
      apply Future.Outside.bind
      · apply (readFields_outside multipart.closing multipart.fields none none).bind
        rintro (error | ⟨_ | metadata, projectTar⟩)
        · trivial
        · trivial
        · cases projectTar with
          | none => trivial
          | some tar =>
            dsimp only
            split <;> trivial
      · rintro (error | done) <;> trivial
  · intro _
    dsimp only
    split
    · trivial
    · split <;> trivial

theorem follow_final (done : Except ClusterError (Cluster × DeleteOutcome)) : (follow id done).Final := by
  rcases done with error | ⟨cluster, outcome⟩
  · trivial
  · cases outcome <;> trivial

theorem deleteCluster_handsLast : (deleteCluster now id owner).HandsLast :=
  .bind ClusterService.requestDeleteAsync_quiet fun done => (follow_final done).handsLast

end Handlers

/-! ## What a dropped request leaves -/

/-- The work is for the row: a spawn for one that is new, a cancellation or a teardown for one that is condemned. -/
def FollowUp.Serves (row : Cluster) : FollowUp → Prop
  | .spawn cluster _ => row.id = cluster.id ∧ row.state.isDeleting = false
  | .cancel id => row.id = id ∧ row.state.isDeleting = true
  | .teardown cluster => row.id = cluster.id ∧ row.state.isDeleting = true

namespace Handlers

variable {deps : TaskDeps} {fromSlice : List UInt8 → Decoded Json} {request : CreateRequest}

theorem readCreateRequest_json {body : CreateClusterRequest} (plain : request.contentType = none)
    (decoded : request.json.bind CreateClusterRequest.ofJson = .ok body) (kind : body.service = .postgres) :
    (readCreateRequest fromSlice request).Completes [] (.ok (body, none)) := by
  simp only [readCreateRequest, plain, Option.any_none, Bool.false_eq_true, if_false, decoded]
  refine ⟨(), ?_⟩
  rw [if_neg (fun other => other kind)]
  exact ⟨rfl, rfl⟩

end Handlers

/-- A create of a Postgres cluster for a minute. -/
def smallCreateRequest : CreateRequest where
  contentType := none
  json := .ok (.object [("service", .string "postgres"), ("ttl_secs", .integer 60)])
  multipart := .error "Invalid `boundary` for `multipart/form-data` request"

theorem smallCreateRequest_read {fromSlice : List UInt8 → Decoded Json} :
    (Handlers.readCreateRequest fromSlice smallCreateRequest).Completes [] (.ok (⟨.postgres, false, 60⟩, none)) :=
  Handlers.readCreateRequest_json rfl rfl rfl

def smallRow : Cluster := ClusterService.newCluster ⟨0⟩ ⟨"alice"⟩ ⟨.postgres, false⟩ smallTtl .epoch

theorem smallTtl_seconds : TimeDelta.trySeconds 60 = some smallTtl := by decide +kernel

theorem smallTtl_bounded : ClusterService.checkTtl smallDeps.limits smallTtl = .ok () := by decide +kernel

end AppSalmon
