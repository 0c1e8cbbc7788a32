import AppSalmon.Http.Refinement
import AppSalmon.Service.Ownership

/-! Whose clusters the answers are about.

Whoever asked for a row is written down when its insert is made, by a client
who may be gone by then. Rows keep their owners, so what a later request finds
in the table is its caller's own by request.
-/

set_option autoImplicit false

namespace AppSalmon

open Droppable TaskPool
open Repository (Rows)

/-! ## Rows keep their owners -/

/-- Each row is one that was there, or a new one of the client. -/
def KeepsOwners (client : Option ClientId) (before after : Rows) : Prop :=
  ∀ row ∈ after, (∃ old ∈ before, old.id = row.id ∧ old.owner = row.owner) ∨
    (row.id ∈ newborn before after ∧ client = some row.owner)

theorem KeepsOwners.refl (client : Option ClientId) (rows : Rows) : KeepsOwners client rows rows :=
  fun row member => .inl ⟨row, member, rfl, rfl⟩

variable {deps : TaskDeps} {answer : Answer} {shared after : Shared} {task : Task} {left : List Duty}

/-- Only the task of a `POST` makes rows. -/
theorem Effect.born_same (effect : Effect deps answer shared after task left) (other : task.inserts = false) :
    after.born = shared.born := by
  cases effect with
  | inserted => cases other
  | quiet rows log | turned rows log | checked rows log | persisted rows log | read rows log
  | condemned written rows log | answered other rows log | followed rows log | dispatched rows log
  | removed rows log | listed rows log | marked orphan rows log | resumed doomed rows log | missed ready rows log
  | failed rows log => exact congrArg Prod.fst log

/-- What a task leaves in the table was there, with its owner. -/
theorem Effect.owners (effect : Effect deps answer shared after task left) (other : task.inserts = false)
    (table : shared.TableSound) {row : Cluster} (member : row ∈ after.rows) :
    ∃ old ∈ shared.rows, old.id = row.id ∧ old.owner = row.owner := by
  have sound : after.TableSound := effect.table table
  have known : row.id ∈ shared.born := effect.born_same other ▸ sound.born row member
  have found : after.row? row.id = some row := sound.ids.lookup_of_mem member
  obtain ⟨before, here, kept⟩ := effect.kept (draws_of_inserts other) known found
  exact ⟨before, Repository.getAny_mem here, Repository.getAny_id here, kept.alike.owner.symm⟩

namespace Http

/-! ## What the calls of a request write -/

variable {linked : Linked} {state : AppState} {fresh id : ClusterId} {now : DateTime} {owner : ClientId}

theorem withConn_writes {α : Type} {Allowed : Rows → Rows → Prop} {call : Rows → Except RepositoryError (Rows × α)}
    (same : ∀ rows, Allowed rows rows) (allowed : ∀ rows next value, call rows = .ok (next, value) → Allowed rows next) :
    (Conn.withConn call).Writes Allowed := by
  refine ⟨fun met before => ?_, fun _ => trivial⟩
  unfold Conn.run
  split
  · exact same before
  · split
    · exact same before
    · next done => exact allowed before _ _ done

/-- A call that leaves the table as it is. -/
theorem reading_writes {α : Type} (client : Option ClientId) (found : Rows → α) :
    (Conn.withConn fun rows => .ok (rows, found rows)).Writes (KeepsOwners client) := by
  refine withConn_writes (KeepsOwners.refl client) fun rows next value done => ?_
  obtain ⟨rfl, rfl⟩ := Prod.mk.inj (Except.ok.inj done)
  exact .refl client _

theorem insert_writes {cluster : Cluster} {limit : UInt32} (named : cluster.owner = owner) :
    (Conn.tryInsertIfUnderQuota cluster limit).Writes (KeepsOwners (some owner)) := by
  refine withConn_writes (KeepsOwners.refl _) fun rows next outcome done row member => ?_
  rcases Repository.tryInsertIfUnderQuota_cases done with ⟨-, rfl, -⟩ | ⟨slot, -, -, absent, -, rfl⟩
  · exact KeepsOwners.refl _ _ row member
  · rcases List.mem_append.mp member with old | new
    · exact .inl ⟨row, old, rfl, rfl⟩
    · obtain rfl := List.mem_singleton.mp new
      have made : newborn rows (rows ++ [Repository.stored { cluster with slot := slot }]) = [cluster.id] :=
        @newborn_append rows (Repository.stored { cluster with slot := slot }) absent
      refine .inr ⟨?_, congrArg some named.symm⟩
      rw [made]
      exact List.mem_singleton_self _

theorem updateState_writes (client : Option ClientId) (target : ClusterState) :
    (Conn.updateState id target).Writes (KeepsOwners client) := by
  refine withConn_writes (KeepsOwners.refl client) fun rows next value done row member => ?_
  unfold Conn.writeState at done
  cases written : Repository.updateState rows id target with
  | error error =>
    rw [written] at done
    cases done
  | ok updated =>
    rw [written] at done
    obtain ⟨rfl, -⟩ := Prod.mk.inj (Except.ok.inj done)
    rw [(Repository.modify_eq_ok.mp written).2] at member
    obtain ⟨old, inside, rfl⟩ := KeyedTable.mem_update.mp member
    exact .inl ⟨old, inside, by split <;> rfl, by split <;> rfl⟩

theorem respond_writes {α : Type} {Allowed : Rows → Rows → Prop} {handler : Async (Except AppSalmon.ApiError α)}
    {shape : α → Reply} (writes : handler.Writes Allowed) : (respond linked.texts handler shape).Writes Allowed :=
  writes.bind fun _ => trivial

theorem createCluster_writes (sent : CreateRequest) :
    (Handlers.createCluster state.deps linked.fromSlice fresh now owner sent).Writes (KeepsOwners (some owner)) := by
  refine (Handlers.readCreateRequest_outside.writes).bind fun read => ?_
  cases read with
  | error error => trivial
  | ok accepted =>
    dsimp only
    split
    · trivial
    next ttl range =>
    refine Future.Writes.bind ?_ fun made => ?_
    · unfold ClusterService.createAsync
      split
      · trivial
      · exact (insert_writes rfl).bind fun _ => trivial
    · cases made with
      | error error => trivial
      | ok row =>
        simp only [Handlers.launch]
        split <;> trivial

theorem deleteCluster_writes (client : Option ClientId) :
    (Handlers.deleteCluster now id owner).Writes (KeepsOwners client) := by
  refine Future.Writes.bind ?_ fun done => ?_
  · refine (reading_writes client _).bind fun found => ?_
    split
    · trivial
    · trivial
    · next cluster =>
      split
      · trivial
      · exact (updateState_writes client _).bind fun _ => trivial
  · unfold Handlers.follow
    split <;> trivial

theorem getCluster_writes (client : Option ClientId) :
    (Handlers.getCluster state.deps id owner).Writes (KeepsOwners client) := by
  refine Future.Writes.bind ((reading_writes client _).bind fun found => ?_) fun answer => ?_
  · split <;> trivial
  · split
    · trivial
    · split <;> trivial

theorem listClusters_writes (client : Option ClientId) :
    (Handlers.listClusters state.deps owner).Writes (KeepsOwners client) := by
  refine Future.Writes.bind ((reading_writes client _).bind fun listed => ?_) fun answer => ?_
  · split <;> trivial
  · split
    · trivial
    · split <;> trivial

theorem withPath_writes {Allowed : Rows → Rows → Prop} {path : String} {handler : ClusterId → Async Reply}
    (writes : ∀ id, (handler id).Writes Allowed) : (withPath linked path handler).Writes Allowed := by
  unfold withPath
  split
  · trivial
  · exact writes _

theorem route_writes (target : Route) : (route linked state fresh now owner target).Writes (KeepsOwners (some owner)) := by
  cases target with
  | createCluster sent => exact respond_writes (createCluster_writes sent)
  | listClusters => exact respond_writes (listClusters_writes _)
  | getCluster path => exact withPath_writes fun _ => respond_writes (getCluster_writes _)
  | deleteCluster path => exact withPath_writes fun _ => respond_writes (deleteCluster_writes _)

/-- A request makes rows of its caller only, and leaves the others their owners. -/
theorem serve_writes (request : HttpRequest) :
    (serve linked state fresh now request).Writes (KeepsOwners (caller linked state request)) := by
  unfold serve caller
  split
  · trivial
  · next owner known =>
    rw [known]
    exact route_writes request.route

/-! ## Who asked -/

abbrev Asked := List (ClusterId × Option ClientId)

/-- Each row is its owner's by request. -/
def Known (asked : Asked) (rows : Rows) : Prop := ∀ row ∈ rows, (row.id, some row.owner) ∈ asked

/-- What the calls of a request have met is known. -/
def SeenKnown (asked : Asked) (seen : List TableEvent) : Prop :=
  ∀ met before after, .called met before after ∈ seen → Known asked before ∧ Known asked after

/-- A connection whose handler is what is left of the request, after the calls it has made. -/
structure Connection.Faithful (linked : Linked) (state : AppState) (asked : Asked) (connection : Connection) : Prop where
  leads : ∀ later reply, connection.handler.Completes later reply →
    (serve linked state connection.head.fresh connection.head.now connection.head.request).Completes
      (connection.seen ++ later) reply
  writes : connection.handler.Writes (KeepsOwners (caller linked state connection.head.request))
  seen : SeenKnown asked connection.seen

/-- An answer that the handler comes to. -/
structure Exchange.Told (linked : Linked) (asked : Asked) (exchange : Exchange) : Prop where
  completes : (serve linked exchange.state exchange.head.fresh exchange.head.now exchange.head.request).Completes
    exchange.seen exchange.reply
  seen : SeenKnown asked exchange.seen

/-- For each cluster one who asked, and what is seen of it is his. -/
structure Process.Disclosing (linked : Linked) (process : Process) : Prop where
  born : process.asked.map Prod.fst = process.shared.born
  once : process.shared.born.Nodup
  known : Known process.asked process.shared.rows
  connections : ∀ connection ∈ process.connections, connection.Faithful linked process.state process.asked
  sent : ∀ exchange ∈ process.sent, exchange.Told linked process.asked

variable {asked more : Asked} {rows : Rows} {seen : List TableEvent} {head : Head}

theorem Known.grow (known : Known asked rows) : Known (more ++ asked) rows :=
  fun row member => List.mem_append_right _ (known row member)

theorem SeenKnown.grow (known : SeenKnown asked seen) : SeenKnown (more ++ asked) seen :=
  fun met before after member => (known met before after member).imp Known.grow Known.grow

theorem Connection.Faithful.grow {connection : Connection} (faithful : connection.Faithful linked state asked) :
    connection.Faithful linked state (more ++ asked) :=
  ⟨faithful.leads, faithful.writes, faithful.seen.grow⟩

theorem Exchange.Told.grow {exchange : Exchange} (told : exchange.Told linked asked) : exchange.Told linked (more ++ asked) :=
  ⟨told.completes, told.seen.grow⟩

theorem SeenKnown.snoc {event : TableEvent} (known : SeenKnown asked seen)
    (last : ∀ met before after, event = .called met before after → Known asked before ∧ Known asked after) :
    SeenKnown asked (seen ++ [event]) := by
  intro met before after member
  rcases List.mem_append.mp member with old | new
  · exact known met before after old
  · exact last met before after (List.mem_singleton.mp new).symm

/-- What a client has asked for stays known through his calls. -/
theorem KeepsOwners.known {client : Option ClientId} {before after : Rows} (keeps : KeepsOwners client before after)
    (known : Known asked before) : Known ((newborn before after).map (fun id => (id, client)) ++ asked) after := by
  intro row member
  rcases keeps row member with ⟨old, there, same, owned⟩ | ⟨fresh, rfl⟩
  · rw [← same, ← owned]
    exact List.mem_append_right _ (known old there)
  · exact List.mem_append_left _ (List.mem_map_of_mem fresh)

/-! ## One connection -/

/-- What has been done with one connection, and what is left of it. -/
structure Outcome.Discloses (linked : Linked) (state : AppState) (asked : Asked) (shared : Shared) (outcome : Outcome) :
    Prop where
  born : outcome.shared.born = outcome.asked.map Prod.fst ++ shared.born
  once : shared.born.Nodup → KeyedTable.Distinct Cluster.id outcome.shared.rows → outcome.shared.born.Nodup
  known : Known (outcome.asked ++ asked) outcome.shared.rows
  left : ∀ connection ∈ outcome.left, connection.Faithful linked state (outcome.asked ++ asked)
  sent : ∀ exchange ∈ outcome.sent, exchange.Told linked (outcome.asked ++ asked)

theorem Outcome.Discloses.nothing {shared : Shared} {outcome : Outcome} {dropped : List Connection}
    (is : outcome = { shared := shared, dropped := dropped }) (known : Known asked shared.rows) :
    outcome.Discloses linked state asked shared := by
  subst is
  exact ⟨rfl, fun once _ => once, known, List.forall_mem_nil _, List.forall_mem_nil _⟩

theorem Outcome.Discloses.waits {shared : Shared} {connection : Connection} (known : Known asked shared.rows)
    (faithful : connection.Faithful linked state asked) :
    Outcome.Discloses linked state asked shared { shared := shared, left := [connection] } := by
  refine ⟨rfl, fun once _ => once, known, fun other member => ?_, List.forall_mem_nil _⟩
  rw [List.mem_singleton.mp member]
  exact faithful

/-- Between two awaits no row is made or changed. -/
theorem perform_table (work : FollowUp) (shared : Shared) :
    (work.perform shared).1.born = shared.born ∧ (work.perform shared).1.rows = shared.rows := by
  cases work <;> exact ⟨rfl, rfl⟩

theorem runOn_discloses {handler : Async Reply} {shared : Shared}
    (faithful : Connection.Faithful linked state asked ⟨head, seen, handler, false⟩) (known : Known asked shared.rows) :
    (runOn linked state head shared seen handler).Discloses linked state asked shared := by
  induction handler generalizing shared seen with
  | ready reply =>
    refine ⟨rfl, fun once _ => once, known, List.forall_mem_nil _, fun exchange member => ?_⟩
    obtain rfl := List.mem_singleton.mp member
    have complete := faithful.leads [] reply ⟨rfl, rfl⟩
    rw [List.append_nil] at complete
    exact ⟨complete, faithful.seen⟩
  | panicked => exact .nothing rfl known
  | hand work rest ih =>
    obtain ⟨born, rows⟩ := perform_table work shared
    have onward : Connection.Faithful linked state asked ⟨head, seen ++ [.handed work], rest, false⟩ := by
      refine ⟨fun later reply complete => ?_, faithful.writes, faithful.seen.snoc fun _ _ _ same => by cases same⟩
      rw [List.append_assoc]
      exact faithful.leads _ reply ⟨later, rfl, complete⟩
    have still : Known asked (work.perform shared).1.rows := by rwa [rows]
    have done := ih onward still
    exact ⟨done.born.trans (by rw [born]; rfl), fun once => done.once (by rwa [born]), done.known, done.left, done.sent⟩
  | wait | blocking => exact .waits known faithful

theorem moves_discloses {connection : Connection} {outcome : Outcome} {shared : Shared}
    (moves : Moves linked state shared connection outcome) (faithful : connection.Faithful linked state asked)
    (known : Known asked shared.rows) : outcome.Discloses linked state asked shared := by
  cases moves with
  | resumed value =>
    refine runOn_discloses ⟨fun later reply complete => ?_, faithful.writes value, faithful.seen⟩ known
    exact faithful.leads later reply ⟨value, complete⟩
  | @called head seen β closure resume cut met generated =>
    have after := KeepsOwners.known (faithful.writes.1 met shared.rows) known
    refine ⟨?_, fun once distinct => ?_, after, fun other member => ?_, List.forall_mem_nil _⟩
    · simp [Shared.written, Function.comp_def]
    · exact List.nodup_append.mpr ⟨distinct.filter _, once, fun id made other old same => generated id made (same ▸ old)⟩
    · obtain rfl := List.mem_singleton.mp member
      refine ⟨fun later reply complete => ?_, fun _ => faithful.writes.2 _, faithful.seen.grow.snoc ?_⟩
      · obtain ⟨_, complete⟩ := complete
        rw [List.append_assoc]
        exact faithful.leads _ reply ⟨met, shared.rows, later, rfl, complete⟩
      · intro _ _ _ same
        cases same
        exact ⟨known.grow, after⟩
  | dropped => exact .nothing rfl known
  | left => exact .waits known ⟨faithful.leads, faithful.writes, faithful.seen⟩

/-! ## The whole process -/

variable {process next : Process}

theorem Matches.table {deps : TaskDeps} (matched : Matches linked (.boot deps .empty) process) :
    process.shared.TableSound := by
  obtain ⟨_, _, _, _, system, run, -, same, -⟩ := matched.reached
  exact same ▸ (owned_of_run run).shared

namespace Process.Disclosing

/-- Connections that were there stay as they are, beside what an outcome leaves. -/
theorem goesOn {outcome : Outcome} {connections : List Connection} (discloses : process.Disclosing linked)
    (does : outcome.Discloses linked process.state process.asked process.shared)
    (distinct : KeyedTable.Distinct Cluster.id outcome.shared.rows)
    (origin : ∀ connection ∈ connections, connection ∈ process.connections ∨ connection ∈ outcome.left) :
    (process.after outcome connections).Disclosing linked where
  born := calc
    (outcome.asked ++ process.asked).map Prod.fst
      = outcome.asked.map Prod.fst ++ process.shared.born := by rw [List.map_append, discloses.born]
    _ = outcome.shared.born := does.born.symm
  once := does.once discloses.once distinct
  known := does.known
  connections connection member := by
    rcases origin connection member with old | new
    · exact (discloses.connections connection old).grow
    · exact does.left connection new
  sent exchange member := by
    rcases List.mem_append.mp member with new | old
    · exact does.sent exchange new
    · exact (discloses.sent exchange old).grow

theorem works {index : Nat} {task : Task} {answer : Answer} (discloses : process.Disclosing linked)
    (table : process.shared.TableSound) (other : task.inserts = false) :
    Process.Disclosing linked
      { process with
        shared := (task.step process.state.deps answer process.shared).1
        tasks := process.tasks.eraseIdx index ++ (task.step process.state.deps answer process.shared).2 } := by
  have effect := @step_acts process.state.deps answer process.shared table.ids task
  have born := effect.born_same other
  refine ⟨discloses.born.trans born.symm, ?_, fun row member => ?_, discloses.connections, discloses.sent⟩
  · rw [born]
    exact discloses.once
  · obtain ⟨old, there, same, owned⟩ := effect.owners other table member
    rw [← same, ← owned]
    exact discloses.known old there

theorem steps {deps : TaskDeps} (discloses : process.Disclosing linked)
    (matched : Matches linked (.boot deps .empty) process) (stepped : Process.Steps linked process next) :
    next.Disclosing linked := by
  have distinct : KeyedTable.Distinct Cluster.id next.shared.rows := (matched.steps stepped).table.ids
  cases stepped with
  | connects head serving runs =>
    subst runs
    have faithful : Connection.Faithful linked process.state process.asked
        ⟨head, [], serve linked process.state head.fresh head.now head.request, false⟩ :=
      ⟨fun _ _ complete => complete, serve_writes head.request, fun _ _ _ member => by cases member⟩
    exact discloses.goesOn (runOn_discloses faithful discloses.known) distinct fun _ member => List.mem_append.mp member
  | @moves before behind connection outcome here moved =>
    have faithful := discloses.connections connection (by rw [here]; simp)
    refine discloses.goesOn (moves_discloses moved faithful discloses.known) distinct fun other member => ?_
    rw [here]
    rcases List.mem_append.mp member with front | back
    · rcases List.mem_append.mp front with old | new
      · exact .inl (List.mem_append_left _ old)
      · exact .inr new
    · exact .inl (List.mem_append_right _ (List.mem_cons_of_mem _ back))
  | works answer found =>
    exact discloses.works matched.table (matched.inserts _ (List.mem_of_getElem? found))
  | sweeps | changes => exact ⟨discloses.born, discloses.once, discloses.known, discloses.connections, discloses.sent⟩
  | restarts => exact ⟨discloses.born, discloses.once, discloses.known, List.forall_mem_nil _, discloses.sent⟩

end Process.Disclosing

/-- All that the answer shows of clusters is of rows with the property. -/
def Reply.ShowsOnly (linked : Linked) (spawnEstimate : TimeDelta) (request : HttpRequest) (reply : Reply)
    (Own : Cluster → Prop) : Prop :=
  match reply.body with
  | .error _ | .rejection _ => True
  | .created body => ∃ row, Own row ∧ body.id = row.id ∧ body.requestedAt = row.requestedAt
  | .entries entries => ∀ entry ∈ entries, ∃ row, Own row ∧ listEntry spawnEstimate row = some entry
  | .info body => ∃ row path, Own row ∧ request.route.Names path ∧ linked.clusterPath path = .ok row.id ∧
      infoResponse row spawnEstimate = some (reply.status, body)
  | .deleting _ => ∃ row path, Own row ∧ request.route.Names path ∧ linked.clusterPath path = .ok row.id

/-- The row was in the table at one of the calls. -/
def Met (seen : List TableEvent) (row : Cluster) : Prop :=
  ∃ met before after, .called met before after ∈ seen ∧ (row ∈ before ∨ row ∈ after)

theorem Met.known {row : Cluster} (met : Met seen row) (known : SeenKnown asked seen) :
    (row.id, some row.owner) ∈ asked := by
  obtain ⟨_, before, after, called, there⟩ := met
  obtain ⟨early, late⟩ := known _ before after called
  exact there.elim (early row) (late row)

theorem Reply.ShowsOnly.mono {spawnEstimate : TimeDelta} {request : HttpRequest} {reply : Reply} {Own Wider : Cluster → Prop}
    (shows : reply.ShowsOnly linked spawnEstimate request Own) (wider : ∀ row, Own row → Wider row) :
    reply.ShowsOnly linked spawnEstimate request Wider := by
  unfold ShowsOnly at shows ⊢
  cases is : reply.body with
  | error | rejection => trivial
  | created body =>
    simp only [is] at shows
    obtain ⟨row, own, rest⟩ := shows
    exact ⟨row, wider row own, rest⟩
  | entries entries =>
    simp only [is] at shows
    intro entry listed
    obtain ⟨row, own, rest⟩ := shows entry listed
    exact ⟨row, wider row own, rest⟩
  | info body | deleting body =>
    simp only [is] at shows
    obtain ⟨row, path, own, rest⟩ := shows
    exact ⟨row, path, wider row own, rest⟩

end Http

end AppSalmon
