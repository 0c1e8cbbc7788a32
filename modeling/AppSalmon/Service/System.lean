import AppSalmon.Service.Tasks

/-! The program as a transition system: requests arrive, tasks step, containers live their own
life, and the process is killed and started again.

A restart keeps the table, the directories and the containers. It loses every
task, and with them the requests that were still under way.
-/

set_option autoImplicit false

namespace AppSalmon

open TaskPool

inductive Request where
  | create (owner : ClientId) (service : ServiceSpec) (ttl : TimeDelta) (projectTar : Option (List UInt8))
  | delete (id : ClusterId) (owner : ClientId)
  /-- The reaper's timer. -/
  | sweep

def Request.task : Request → Task
  | .create owner service ttl projectTar => .create owner service ttl projectTar
  | .delete id owner => .requestDelete id owner .userRequested .handler none
  | .sweep => .sweep

/-- What happens outside the process's own doing. -/
inductive WorldChange where
  /-- A container writes into the directory it mounts. -/
  | containerWrites (id : ClusterId) (dir : SlotDir)
  | resourceLost (entry : ClusterId × SlotDir)
  | contentLost (entry : SlotDir × ClusterId)
  deriving DecidableEq

def World.change (world : World) : WorldChange → Option World
  | .containerWrites id dir => if (id, dir) ∈ world.resources then some (world.write dir id) else none
  | .resourceLost entry => some { world with resources := world.resources.erase entry }
  | .contentLost entry => some { world with contents := world.contents.erase entry }

inductive Label where
  | request (request : Request)
  | step (index : Nat) (answer : Answer)
  | world (change : WorldChange)
  | restart (deps : TaskDeps)

structure System where
  deps : TaskDeps
  pool : Pool Shared Task

def System.shared (system : System) : Shared := system.pool.shared

def System.tasks (system : System) : List Task := system.pool.tasks

/-- Requests are served once reconciliation is over, and one sweep at a time. -/
def Request.admitted (request : Request) (tasks : List Task) : Bool :=
  tasks.all (fun task => !task.isStartup) &&
    match request with
    | .sweep => tasks.all fun task => !task.isReaper
    | .create .. | .delete .. => true

/-- A generated identifier was never used before. -/
def Task.draws (task : Task) (answer : Answer) (shared : Shared) : Bool :=
  match task with
  | .create .. => answer.id ∉ shared.born
  | _ => true

/-- A new process on what earlier ones left. A cluster that still has its row is not given up yet. -/
def System.boot (deps : TaskDeps) (shared : Shared) : System :=
  ⟨deps, ⟨{ shared with registry := .empty, teardowns := [], accepted := [],
                        stray := shared.stray.filter fun id => (shared.row? id).isNone }, [.reconcile]⟩⟩

/-- The task at `index` makes one step. -/
def System.advance (system : System) (index : Nat) (answer : Answer) (task : Task) : System :=
  let moved := task.step system.deps answer system.shared
  ⟨system.deps, system.pool.replace index moved.1 moved.2⟩

def System.next (system : System) : Label → Option System
  | .request request =>
    if request.admitted system.tasks then
      some { system with pool := ⟨system.shared, system.tasks ++ [request.task]⟩ }
    else none
  | .step index answer =>
    match system.tasks[index]? with
    | none => none
    | some task =>
      if task.draws answer system.shared then some (system.advance index answer task) else none
  | .world change =>
    (system.shared.world.change change).map fun world =>
      { system with pool := ⟨{ system.shared with world := world }, system.tasks⟩ }
  | .restart deps =>
    if deps.Continues system.deps then some (.boot deps system.shared) else none

/-- A process that has just started, after any number of earlier ones. -/
inductive Started : System → Prop where
  | boot (deps : TaskDeps) {first : TaskDeps} {before : System}
      (run : Run System.next (fun _ _ => True) (.boot first .empty) before) : Started (.boot deps before.shared)

/-- A condition on the steps of tasks, within one lifetime. -/
def Permits (cond : TaskDeps → Answer → Shared → Task → Prop) (system : System) : Label → Prop
  | .request _ | .world _ => True
  | .step index answer => ∀ task, system.tasks[index]? = some task → cond system.deps answer system.shared task
  | .restart _ => False

/-- Whatever happens within one lifetime. -/
abbrev OneLifetime : System → Label → Prop := Permits fun _ _ _ _ => True

theorem Permits.oneLifetime {cond : TaskDeps → Answer → Shared → Task → Prop} {system : System} {label : Label}
    (permitted : Permits cond system label) : OneLifetime system label := by
  cases label with
  | request | world => trivial
  | step => exact fun _ _ => trivial
  | restart => exact permitted

/-- `Permits`, for a condition that can be evaluated. -/
def permitted (check : TaskDeps → Answer → Shared → Task → Bool) (system : System) : Label → Bool
  | .request _ | .world _ => true
  | .step index answer => (system.tasks[index]?).all fun task => check system.deps answer system.shared task
  | .restart _ => false

theorem permits_of_permitted {check : TaskDeps → Answer → Shared → Task → Bool} {system : System} {label : Label}
    (checked : permitted check system label = true) :
    Permits (fun deps answer shared task => check deps answer shared task = true) system label := by
  cases label with
  | request | world => trivial
  | restart => cases checked
  | step index answer =>
    intro task found
    simpa [permitted, found] using checked

theorem next_request {system after : System} {request : Request}
    (moved : system.next (.request request) = some after) :
    request.admitted system.tasks = true ∧
      after = { system with pool := ⟨system.shared, system.tasks ++ [request.task]⟩ } := by
  simp only [System.next] at moved
  split at moved
  · next admitted => exact ⟨admitted, (Option.some.inj moved).symm⟩
  · cases moved

theorem next_step {system after : System} {index : Nat} {answer : Answer}
    (moved : system.next (.step index answer) = some after) :
    ∃ task, system.tasks[index]? = some task ∧ task.draws answer system.shared = true ∧
      after = system.advance index answer task := by
  simp only [System.next] at moved
  split at moved
  · cases moved
  · next task found =>
    split at moved
    · next draws => exact ⟨task, found, draws, (Option.some.inj moved).symm⟩
    · cases moved

theorem next_world {system after : System} {change : WorldChange}
    (moved : system.next (.world change) = some after) :
    ∃ world, system.shared.world.change change = some world ∧
      after = { system with pool := ⟨{ system.shared with world := world }, system.tasks⟩ } := by
  simp only [System.next, Option.map_eq_some_iff] at moved
  obtain ⟨world, changed, rfl⟩ := moved
  exact ⟨world, changed, rfl⟩

theorem next_restart {system after : System} {deps : TaskDeps}
    (moved : system.next (.restart deps) = some after) :
    deps.Continues system.deps ∧ after = .boot deps system.shared := by
  simp only [System.next] at moved
  split at moved
  · next same => exact ⟨same, (Option.some.inj moved).symm⟩
  · cases moved

/-! ## Runs that are evaluated -/

theorem run_of_permitted {check : TaskDeps → Answer → Shared → Task → Bool} {start finish : System}
    {labels : List Label} (followed : follow System.next (permitted check) start labels = some finish) :
    Run System.next (Permits fun deps answer shared task => check deps answer shared task = true) start finish :=
  (run_of_follow labels followed).weaken fun _ _ => permits_of_permitted

/-- Two runs, one after the other, and what is seen of their ends. -/
theorem exists_runs {α : Type} {check : TaskDeps → Answer → Shared → Task → Bool} {start : System}
    {first second : List Label} {view : System → System → α} {seen : α}
    (evaluated : ((follow System.next (permitted check) start first).bind fun earlier =>
      (follow System.next (permitted check) earlier second).map (view earlier)) = some seen) :
    ∃ earlier later,
      Run System.next (Permits fun deps answer shared task => check deps answer shared task = true) start earlier ∧
      Run System.next (Permits fun deps answer shared task => check deps answer shared task = true) earlier later ∧
      view earlier later = seen := by
  obtain ⟨earlier, here, rest⟩ := Option.bind_eq_some_iff.mp evaluated
  obtain ⟨later, there, same⟩ := Option.map_eq_some_iff.mp rest
  exact ⟨earlier, later, run_of_permitted here, run_of_permitted there, same⟩

/-- One run, and what is seen of its end. -/
theorem exists_run {α : Type} {check : TaskDeps → Answer → Shared → Task → Bool} {start : System}
    {labels : List Label} {view : System → α} {seen : α}
    (evaluated : (follow System.next (permitted check) start labels).map view = some seen) :
    ∃ finish, Run System.next (Permits fun deps answer shared task => check deps answer shared task = true) start finish ∧
      view finish = seen := by
  obtain ⟨finish, followed, same⟩ := Option.map_eq_some_iff.mp evaluated
  exact ⟨finish, run_of_permitted followed, same⟩

/-- The small installation, just started for the first time. -/
def smallStart : System := .boot smallDeps .empty

theorem smallStart_started : Started smallStart := by
  have unmoved : Run System.next (fun _ _ => True) (.boot smallDeps .empty) (.boot smallDeps .empty) := .refl
  exact .boot smallDeps unmoved

/-- Reconciliation of no row, then a create whose spawn has made its container. -/
def untilCreated : List Label :=
  [.step 0 {}, .step 0 {}, .request (.create ⟨"alice"⟩ ⟨.postgres, false⟩ smallTtl none), .step 0 {}, .step 0 {},
    .step 0 {}, .step 0 {}, .step 0 {}, .step 0 { spawn := .creates }]

/-- The spawn succeeds and has read its row again. -/
def untilPersisting : List Label :=
  untilCreated ++ [.step 0 { spawn := .returns (.ok smallConnection) }, .step 0 {}]

def smallId : ClusterId := ⟨0⟩

def smallDelete : Label := .request (.delete smallId ⟨"alice"⟩)

/-- The spawn has made its row `Ready` and is gone. -/
def untilReady : List Label := untilPersisting ++ [.step 0 {}, .step 0 {}]

end AppSalmon
