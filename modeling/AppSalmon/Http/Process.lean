import AppSalmon.Http.Server
import AppSalmon.Service.System

/-! The process with its connections.

A request is what is left of its handler. A closure that is with the blocking
pool runs once, whether or not its connection is still there, and the handler
goes on some time after it. What a handler does between two awaits is done at
once.
-/

set_option autoImplicit false

namespace AppSalmon

open Droppable
open Repository (Rows)

def FollowUp.perform (shared : Shared) : FollowUp → Step
  | .spawn cluster projectTar =>
    let registered := shared.registry.register cluster.id
    ({ shared with registry := registered.2 }, [.spawn cluster registered.1 projectTar .start])
  | .cancel id => ({ shared with registry := shared.registry.cancel id }, [])
  | .teardown cluster => TeardownTask.enter shared cluster .done

def newborn (before after : Rows) : List ClusterId :=
  (after.map Cluster.id).filter fun id => id ∉ before.map Cluster.id

def Shared.written (shared : Shared) (rows : Rows) : Shared :=
  { shared with rows := rows, born := newborn shared.rows rows ++ shared.born }

def Shared.accept (shared : Shared) (ids : List ClusterId) : Shared := { shared with accepted := ids ++ shared.accepted }

namespace Http

/-- What a request brings, and what its handler draws from the generator and reads from the clock. -/
structure Head where
  request : HttpRequest
  fresh : ClusterId
  now : DateTime

structure Connection where
  head : Head
  seen : List TableEvent
  handler : Async Reply
  /-- The client has gone while a closure was under way. -/
  cut : Bool := false

structure Exchange where
  state : AppState
  head : Head
  seen : List TableEvent
  reply : Reply

structure Process where
  state : AppState
  shared : Shared
  tasks : List Task
  connections : List Connection
  /-- The requests of this lifetime that were dropped, with what was left of them. -/
  dropped : List Connection
  /-- For each row that was ever made: who asked for it. -/
  asked : List (ClusterId × Option ClientId)
  sent : List Exchange

def caller (linked : Linked) (state : AppState) (request : HttpRequest) : Option ClientId :=
  (state.clientRegistry.authenticate linked.sha256 request.authorization).toOption

def accepts (linked : Linked) (request : HttpRequest) (reply : Reply) : List ClusterId :=
  match request.route, reply.body with
  | .deleteCluster path, .deleting _ => (linked.clusterPath path).toOption.toList
  | _, _ => []

structure Outcome where
  shared : Shared
  started : List Task := []
  left : List Connection := []
  dropped : List Connection := []
  asked : List (ClusterId × Option ClientId) := []
  sent : List Exchange := []

def runOn (linked : Linked) (state : AppState) (head : Head) (shared : Shared) (seen : List TableEvent) :
    Async Reply → Outcome
  | .ready reply =>
    { shared := shared.accept (accepts linked head.request reply), sent := [⟨state, head, seen, reply⟩] }
  | .panicked => { shared := shared }
  | .hand work rest =>
    let done := work.perform shared
    let later := runOn linked state head done.1 (seen ++ [.handed work]) rest
    { later with started := done.2 ++ later.started }
  | .wait resume => { shared := shared, left := [⟨head, seen, .wait resume, false⟩] }
  | .blocking closure resume => { shared := shared, left := [⟨head, seen, .blocking closure resume, false⟩] }

inductive Moves (linked : Linked) (state : AppState) (shared : Shared) : Connection → Outcome → Prop where
  | resumed {head : Head} {seen : List TableEvent} {β : Type} {resume : β → Async Reply} (value : β) :
      Moves linked state shared ⟨head, seen, .wait resume, false⟩ (runOn linked state head shared seen (resume value))
  /-- An identifier is generated for one row only. -/
  | called {head : Head} {seen : List TableEvent} {β : Type} {closure : Option RepositoryError → Rows → β × Rows}
      {resume : β → Async Reply} {cut : Bool} (met : Option RepositoryError)
      (generated : ∀ id ∈ newborn shared.rows (closure met shared.rows).2, id ∉ shared.born) :
      Moves linked state shared ⟨head, seen, .blocking closure resume, cut⟩
        { shared := shared.written (closure met shared.rows).2
          left := [⟨head, seen ++ [.called met shared.rows (closure met shared.rows).2],
            .wait fun _ : Unit => resume (closure met shared.rows).1, cut⟩]
          asked := (newborn shared.rows (closure met shared.rows).2).map fun id =>
            (id, caller linked state head.request) }
  | dropped {head : Head} {seen : List TableEvent} {β : Type} {resume : β → Async Reply} {cut : Bool} :
      Moves linked state shared ⟨head, seen, .wait resume, cut⟩
        { shared := shared, dropped := [⟨head, seen, .wait resume, cut⟩] }
  /-- The closure is left to itself, and nobody waits for what it answers. -/
  | left {head : Head} {seen : List TableEvent} {β : Type} {closure : Option RepositoryError → Rows → β × Rows}
      {resume : β → Async Reply} :
      Moves linked state shared ⟨head, seen, .blocking closure resume, false⟩
        { shared := shared, left := [⟨head, seen, .blocking closure resume, true⟩] }

namespace Process

def boot (state : AppState) (shared : Shared) (asked : List (ClusterId × Option ClientId)) (sent : List Exchange) :
    Process :=
  ⟨state, (System.boot state.deps shared).shared, (System.boot state.deps shared).tasks, [], [], asked, sent⟩

def first (state : AppState) : Process := boot state .empty [] []

def after (process : Process) (outcome : Outcome) (connections : List Connection) : Process :=
  { process with
    shared := outcome.shared
    tasks := process.tasks ++ outcome.started
    connections := connections
    dropped := outcome.dropped ++ process.dropped
    asked := outcome.asked ++ process.asked
    sent := outcome.sent ++ process.sent }

inductive Steps (linked : Linked) (process : Process) : Process → Prop where
  | connects (head : Head) (serving : ∀ task ∈ process.tasks, task.isStartup = false) {outcome : Outcome}
      (runs : runOn linked process.state head process.shared []
        (serve linked process.state head.fresh head.now head.request) = outcome) :
      Steps linked process (process.after outcome (process.connections ++ outcome.left))
  | moves {before behind : List Connection} {connection : Connection} {outcome : Outcome}
      (here : process.connections = before ++ connection :: behind)
      (moved : Moves linked process.state process.shared connection outcome) :
      Steps linked process (process.after outcome (before ++ outcome.left ++ behind))
  | works {index : Nat} {task : Task} (answer : Answer) (found : process.tasks[index]? = some task) :
      Steps linked process
        { process with
          shared := (task.step process.state.deps answer process.shared).1
          tasks := process.tasks.eraseIdx index ++ (task.step process.state.deps answer process.shared).2 }
  | sweeps (admitted : Request.sweep.admitted process.tasks = true) :
      Steps linked process { process with tasks := process.tasks ++ [.sweep] }
  | changes {change : WorldChange} {world : World} (changed : process.shared.world.change change = some world) :
      Steps linked process { process with shared := { process.shared with world := world } }
  | restarts (state : AppState) (same : state.deps.Continues process.state.deps) :
      Steps linked process (boot state process.shared process.asked process.sent)

end Process

end Http

end AppSalmon
