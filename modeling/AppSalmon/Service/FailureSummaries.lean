import AppSalmon.Http.Error
import AppSalmon.Service.SpawnRun

/-! Two spawns that fail at the same step persist the same summary, whatever they were told on the way.

One kind of error is passed through with its text. The text is fixed by the last
step that the spawn has come to.
-/

set_option autoImplicit false

namespace AppSalmon

open Cancellation (Client Settles lastStep)
open TarValidation (TarValidationError)

/-! ## Errors without what they quote -/

def PrivilegedExecError.erased : PrivilegedExecError → PrivilegedExecError
  | .spawn .. => .spawn ⟨"", 0, 0⟩ ""
  | .nonZeroExit .. => .nonZeroExit ⟨"", 0, 0⟩ 0 ""
  | .timeout .. => .timeout ⟨"", 0, 0⟩ 0

def ClientWorkerError.erased : ClientWorkerError → ClientWorkerError
  | .unknownClient _ => .unknownClient ⟨""⟩
  | .prepare source => .prepare source.erased
  | .wipe source => .wipe source.erased

def DockerError.erased : DockerError → DockerError
  | .connect .. => .connect "" ""
  | .createContainer _ => .createContainer ""
  | .startContainer .. => .startContainer "" ""
  | .inspectContainer .. => .inspectContainer "" ""
  | .removeContainer .. => .removeContainer "" ""
  | .healthCheckTimeout .. => .healthCheckTimeout "" 0
  | .containerNotHealthy .. => .containerNotHealthy "" none
  | .createNetwork .. => .createNetwork "" ""
  | .removeNetwork .. => .removeNetwork "" ""

def RepositoryError.erased : RepositoryError → RepositoryError
  | .db _ => .db ""
  | .serde _ => .serde ""
  | .migration _ => .migration ""
  | .taskJoin _ => .taskJoin ""
  | .corruptRow _ => .corruptRow ""

/-- The constructor is kept, those of the errors inside as well. -/
def ClusterError.erased : ClusterError → ClusterError
  | .ttlOutOfBounds .. => .ttlOutOfBounds 0 0 0
  | .quotaExceeded .. => .quotaExceeded ⟨""⟩ 0 0
  | .notFound _ => .notFound ⟨0⟩
  | .invalidTransition .. => .invalidTransition (.spawning .epoch) (.spawnFailed .epoch "")
  | .clientWorker source => .clientWorker source.erased
  | .docker source => .docker source.erased
  | .repository source => .repository source.erased
  | .backendSpawnFailed _ => .backendSpawnFailed ""

def TarValidation.TarValidationError.erased : TarValidationError → TarValidationError
  | .disallowedEntryType .. => .disallowedEntryType 0 [] .regular
  | .entryTooLarge .. => .entryTooLarge 0 [] 0 0
  | .totalTooLarge _ => .totalTooLarge 0
  | .unsafeEntry .. => .unsafeEntry 0 []
  | .read .. => .read 0 ⟨""⟩
  | .extract .. => .extract 0 [] ⟨""⟩

namespace SpawnTask

/-- Paths and numbers of the upload do not show. -/
theorem sanitizeTarError_erased (error : TarValidationError) : sanitizeTarError error.erased = sanitizeTarError error := by
  cases error <;> rfl

/-- Of an error whose text is not passed through, only the constructor shows. -/
theorem sanitize_erased {error : ClusterError} (coarse : ∀ message, error ≠ .backendSpawnFailed message) :
    sanitize error.erased = sanitize error := by
  cases error with
  | docker source => cases source <;> rfl
  | ttlOutOfBounds | quotaExceeded | notFound | invalidTransition | clientWorker | repository => rfl
  | backendSpawnFailed message => exact absurd rfl (coarse message)

end SpawnTask

namespace SpawnRun

/-! ## Steps -/

/-- Where a spawn has come to. -/
inductive Step where
  | setWorker | prepare | createStaging | setPermissions
  | extract (outcome : Except Unit (Except TarValidationError Unit))
  | adopt
  | backend (call : ExternalCall)

/-- An extraction ends with its thread, with an error of its own, or well. -/
def extraction : Except String (Except TarValidationError Unit) → Step
  | .error _ => .extract (.error ())
  | .ok (.error error) => .extract (.ok (.error error.erased))
  | .ok (.ok ()) => .extract (.ok (.ok ()))

/-- The port of a database is not the program's choice. -/
def callStep : ExternalCall → Step
  | .connect _ => .backend (.connect 0)
  | call => .backend call

/-- The clean-up of the staging directory is no step of its own. -/
def step : Exchange → Option Step
  | (.setWorker .., _) => some .setWorker
  | (.runAs _ (.adoptStagedTree ..), _) => some .adopt
  | (.runAs .., _) => some .prepare
  | (.createDirAll _, _) => some .createStaging
  | (.setPermissions .., _) => some .setPermissions
  | (.validateAndExtract .., reply) => some (extraction reply.extracted)
  | (.backend call, _) => some (callStep call)
  | (.removeDirAll _, _) | (.getAny _, _) | (.updateState .., _) | (.teardown, _) => none

/-- The last step of a spawn; none where it fails before its first call. -/
def Execution.lastStep {setting : Setting} {cluster : Cluster} (execution : Execution setting cluster) : Option Step :=
  Cancellation.lastStep step none execution.steps

/-- A `Failed` state with this summary is written. -/
def Execution.Persists {setting : Setting} {cluster : Cluster} (execution : Execution setting cluster)
    (summary : String) : Prop :=
  ∃ failedAt reply, (.updateState cluster.id (.failed failedAt summary), reply) ∈ execution.rest

/-! ## The text that is passed through -/

/-- What the backends say after a call that does not do what it should. -/
def callSummary (kind : ServiceKind) (clusterId : String) : ExternalCall → String
  | .createDirAll _ => "failed to prepare generated config directory"
  | .write _ file =>
    if file = "kong.yml" then "failed to write kong declarative config"
    else if file = "roles.sql" then "failed to write roles.sql"
    else "failed to write jwt.sql"
  | .connect _ => "failed to connect to enable pgvector"
  | .execute _ => "failed to enable pgvector extension"
  | .inspectContainer name =>
    match kind with
    | .postgres => "container reported healthy but published no port"
    | .supabase =>
      if name = SupabaseBackend.containerName clusterId "db" then "db reported healthy but published no port"
      else "kong reported healthy but published no port"
  | _ => ""

/-- The text of a failure, by its step. Only the keys are left to be signed once the directories are there. -/
def summary (kind : ServiceKind) (clusterId : String) : Option Step → String
  | none => "no backend registered for this service kind"
  | some .createStaging => "failed to prepare staging directory"
  | some .setPermissions => "failed to prepare staging directory permissions"
  | some (.extract (.error ())) => "internal error while extracting project_tar"
  | some (.extract (.ok (.error error))) => SpawnTask.sanitizeTarError error
  | some (.backend call) => callSummary kind clusterId call
  | some .setWorker | some .prepare | some .adopt | some (.extract (.ok (.ok ()))) => "failed to sign JWT"

/-- The error has the text of the last step, if its text is passed through. -/
def Accounted (kind : ServiceKind) (clusterId : String) (last : Option Step) (error : ClusterError) : Prop :=
  ∀ message, error = .backendSpawnFailed message → message = summary kind clusterId last

/-! ## The backends -/

section
variable {kind : ServiceKind} {clusterId : String} {last : Option Step} {α : Type}

/-- The steps of a backend among those of the spawn. -/
def backendStep (exchange : ExternalCall × ExternalReply) : Option Step := some (callStep exchange.1)

/-- A call of a backend, with every failure accounted for. -/
abbrev Accounts (kind : ServiceKind) (clusterId : String) (Good : Option Step → α → Prop) (last : Option Step)
    (call : External (Except ClusterError α)) : Prop :=
  call.Ensures backendStep (Settles Good (Accounted kind clusterId)) last

theorem accounted_docker (last : Option Step) (error : DockerError) : Accounted kind clusterId last (.docker error) :=
  fun _ same => by cases same

/-- A `DockerError` is never passed through. -/
theorem viaDocker_accounts {call : External (Except DockerError α)} {Good : Option Step → α → Prop}
    (ensures : call.Ensures backendStep (fun last result => ∀ value, result = .ok value → Good last value) last) :
    Accounts kind clusterId Good last (viaDocker call) := by
  apply ensures.map
  intro last result good
  cases result with
  | ok value => exact good value rfl
  | error error => exact accounted_docker last error

theorem orFail_accounts (call : ExternalCall) (message : String)
    (text : message = summary kind clusterId (some (callStep call))) :
    Accounts kind clusterId (fun _ _ => True) last (orFail call message) := by
  intro reply
  change Settles _ _ (some (callStep call)) (reply.check.mapError _)
  cases reply.check with
  | ok => trivial
  | error source =>
    intro other same
    cases same
    exact text

theorem inspect_accounts (name : String) :
    Accounts kind clusterId (fun last _ => last = some (.backend (.inspectContainer name))) last
      (viaDocker (BollardContainerRuntime.inspect name)) :=
  viaDocker_accounts fun _ _ _ => rfl

/-- The handle is the name. -/
theorem createAndStart_accounts (spec : ContainerSpec) :
    Accounts kind clusterId (fun _ handle => handle = spec.name) last
      (viaDocker (BollardContainerRuntime.createAndStart spec)) := by
  apply viaDocker_accounts
  intro created
  cases created with
  | notFound | refused => exact fun _ failed => by cases failed
  | done | status =>
    intro started
    cases started with
    | notFound | refused => exact fun _ failed => by cases failed
    | done | status => exact fun _ succeeded => (Except.ok.inj succeeded).symm

/-- A health wait that succeeds does so with an inspection. -/
theorem waitUntilHealthy_accounts (handle : String) (timeoutSecs : UInt64) (requiresHealthcheck : Bool) (polls : Nat) :
    Accounts kind clusterId (fun last _ => last = some (.backend (.inspectContainer handle))) last
      (HealthWait.waitUntilHealthy handle timeoutSecs requiresHealthcheck polls) := by
  -- an observation that decides returns a port or an error of the runtime, and no text
  have decided {status : ContainerStatus} {result : Except ClusterError (Option UInt16)}
      (found : HealthWait.decide handle requiresHealthcheck status = some result) :
      Settles (fun last _ => last = some (.backend (.inspectContainer handle))) (Accounted kind clusterId)
        (some (.backend (.inspectContainer handle))) result := by
    cases result with
    | ok port => rfl
    | error error =>
      cases status with
      | running port health => simp [HealthWait.decide] at found
      | exited | notFound =>
        cases found
        exact accounted_docker _ _
  induction polls generalizing last with
  | zero =>
    apply (inspect_accounts handle).andThen
    rintro _ status rfl
    split
    · next found => exact decided found
    · exact accounted_docker _ _
  | succ polls ih =>
    apply (inspect_accounts handle).andThen
    rintro _ status rfl
    split
    · next found => exact decided found
    · exact fun _ => ih

theorem PostgresBackend.waitUntilReady_accounts (params : SpawnParams) (handle : String) :
    Accounts .postgres clusterId (fun _ _ => True) last (PostgresBackend.waitUntilReady params handle) := by
  apply (waitUntilHealthy_accounts handle params.healthCheckTimeoutSecs true (params.polls handle)).map
  intro last result settles
  cases result with
  | ok port =>
    cases port with
    | some port => trivial
    | none =>
      -- the port is missed right after the inspection that found the container healthy
      obtain rfl : last = _ := settles
      rintro message ⟨⟩
      rfl
  | error error => exact settles

theorem PostgresBackend.enablePgvector_accounts (hostPort : UInt16) :
    Accounts .postgres clusterId (fun _ _ => True) last (PostgresBackend.enablePgvector hostPort) := by
  apply (orFail_accounts (.connect hostPort) _ rfl).andThen
  exact fun _ _ _ => orFail_accounts (.execute _) _ rfl

theorem PostgresBackend.spawn_accounts (params : SpawnParams) :
    Accounts .postgres clusterId (fun _ _ => True) last (PostgresBackend.spawn params) := by
  apply (createAndStart_accounts _).andThen
  intro started handle _
  apply (PostgresBackend.waitUntilReady_accounts params handle).andThen
  intro ready hostPort _
  split
  · apply (PostgresBackend.enablePgvector_accounts hostPort).andThen
    exact fun _ _ _ => trivial
  · trivial

theorem SupabaseBackend.writeConfig_accounts (dir : UnixPath.Path) :
    Accounts .supabase clusterId (fun _ _ => True) last (SupabaseBackend.writeConfig dir) := by
  apply (orFail_accounts (.createDirAll dir) _ rfl).andThen
  intro _ _ _
  apply (orFail_accounts (.write dir "kong.yml") _ rfl).andThen
  intro _ _ _
  apply (orFail_accounts (.write dir "roles.sql") _ rfl).andThen
  exact fun _ _ _ => orFail_accounts (.write dir "jwt.sql") _ rfl

/-- The loop ends with an inspection of its last container. -/
theorem SupabaseBackend.startAll_accounts (params : SpawnParams) (kongPort : Option UInt16) (specs : List ContainerSpec)
    (final : ContainerSpec) :
    Accounts .supabase clusterId (fun last _ => last = some (.backend (.inspectContainer final.name))) last
      (SupabaseBackend.startAll params kongPort (specs ++ [final])) := by
  induction specs generalizing kongPort last with
  | nil =>
    apply (createAndStart_accounts final).andThen
    rintro _ _ rfl
    exact (waitUntilHealthy_accounts final.name _ _ _).andThen fun _ _ inspected => inspected
  -- the loop passes through the earlier containers, whose inspections are not the last
  | cons spec rest ih =>
    apply (createAndStart_accounts spec).andThen
    intro _ handle _
    apply (waitUntilHealthy_accounts handle _ _ _).andThen
    exact fun _ _ _ => ih _

theorem SupabaseBackend.connect_accounts (params : SpawnParams) (anonKey serviceRoleKey : String)
    (kongPort : Option UInt16) {name : String} (other : name ≠ SupabaseBackend.containerName params.clusterId "db") :
    Accounts .supabase params.clusterId (fun _ _ => True) (some (.backend (.inspectContainer name)))
      (SupabaseBackend.connect params anonKey serviceRoleKey kongPort) := by
  cases kongPort with
  | none =>
    rintro message ⟨⟩
    -- the last container was not the database, so the port that is missed is Kong's
    exact (if_neg other).symm
  | some kongPort =>
    apply (inspect_accounts _).andThen
    rintro _ status rfl
    have unpublished : Accounted .supabase params.clusterId
        (some (.backend (.inspectContainer (SupabaseBackend.containerName params.clusterId "db"))))
        (.backendSpawnFailed "db reported healthy but published no port") := by
      rintro message ⟨⟩
      exact (if_pos rfl).symm
    split
    · trivial
    · exact unpublished
    · exact unpublished
    · exact unpublished

theorem SupabaseBackend.spawn_accounts (params : SpawnParams) (encode : String → String → Except String String)
    (signed : params.signJwt = SupabaseBackend.signJwt encode)
    (unsigned : summary .supabase params.clusterId last = "failed to sign JWT") :
    Accounts .supabase params.clusterId (fun _ _ => True) last (SupabaseBackend.spawn params) := by
  -- the keys are signed before the first call, so the step is still the one before the backend
  have signing {role : String} {error : ClusterError} (failed : params.signJwt params.jwtSecret role = .error error) :
      Accounted .supabase params.clusterId last error := by
    rw [signed, SupabaseBackend.signJwt] at failed
    cases encoded : encode params.jwtSecret role with
    | ok key => simp [encoded, Except.mapError] at failed
    | error source =>
      rintro message rfl
      rw [encoded] at failed
      cases failed
      exact unsigned.symm
  have other : SupabaseBackend.containerName params.clusterId "functions" ≠
      SupabaseBackend.containerName params.clusterId "db" := by
    intro same
    have suffixes := SupabaseBackend.containerName_injective _ same
    exact absurd suffixes (by decide)
  unfold SupabaseBackend.spawn
  split
  · next failed => exact signing failed
  · next failed => exact signing failed
  · apply (viaDocker_accounts fun _ _ _ => trivial : Accounts .supabase params.clusterId (fun _ _ => True) last
      (viaDocker (BollardContainerRuntime.createNetwork (SupabaseBackend.networkName params.clusterId)))).andThen
    intro _ _ _
    apply (writeConfig_accounts _).andThen
    intro _ _ _
    apply (startAll_accounts params none ((SupabaseBackend.buildSpecs params.clusterId).dropLast) _).andThen
    rintro _ kongPort rfl
    exact connect_accounts params _ _ kongPort other

theorem spawn_accounts (params : SpawnParams) (encode : String → String → Except String String)
    (signed : params.signJwt = SupabaseBackend.signJwt encode)
    (unsigned : summary kind params.clusterId last = "failed to sign JWT") :
    Accounts kind params.clusterId (fun _ _ => True) last (kind.spawn params) := by
  cases kind with
  | postgres => exact PostgresBackend.spawn_accounts params
  | supabase => exact SupabaseBackend.spawn_accounts params encode signed unsigned

/-! ## The whole of `do_spawn` -/

/-- A part of `do_spawn`, with every failure accounted for. -/
abbrev Explains (kind : ServiceKind) (clusterId : String) (Good : Option Step → α → Prop) (last : Option Step)
    (part : Process (Except ClusterError α)) : Prop :=
  part.Ensures step (Settles Good (Accounted kind clusterId)) last

/-- Before the keys are signed. -/
def Unsigned (kind : ServiceKind) (clusterId : String) (last : Option Step) (_ : Unit) : Prop :=
  summary kind clusterId last = "failed to sign JWT"

theorem setWorker_explains (id : ClusterId) (worker : WorkerUser) :
    Explains kind clusterId (Unsigned kind clusterId) last (setWorker id worker) := by
  apply Client.Ensures.ofSend
  intro reply
  cases reply.repository with
  | some error =>
    intro other same
    cases same
  | none => rfl

theorem runAs_explains (worker : WorkerUser) (command : PrivilegedCommand) :
    Explains kind clusterId (Unsigned kind clusterId) last (runAs worker command) := by
  apply Client.Ensures.ofSend
  intro reply
  -- either privileged step may be the last one before the keys are signed
  have unsigned : summary kind clusterId ((step (.runAs worker command, reply)).or last) = "failed to sign JWT" := by
    cases command <;> rfl
  cases reply.executor with
  | some error =>
    intro other same
    cases same
  | none => exact unsigned

theorem fsOrFail_explains (call : Call) (message : String)
    (text : ∀ reply, message = summary kind clusterId ((step (call, reply)).or last)) :
    Explains kind clusterId (fun _ _ => True) last (fsOrFail call message) := by
  apply Client.Ensures.ofSend
  intro reply
  cases reply.fs with
  | some error =>
    rintro other ⟨⟩
    exact text reply
  | none => trivial

theorem prepareAll_explains (worker : WorkerUser) (targets : List UnixPath.Path)
    (unsigned : Unsigned kind clusterId last ()) :
    Explains kind clusterId (Unsigned kind clusterId) last (prepareAll worker targets) := by
  induction targets generalizing last with
  | nil => exact unsigned
  | cons target rest ih =>
    apply (runAs_explains worker _).andThen
    exact fun _ _ unsigned => ih unsigned

theorem adoptExtracted_explains (worker : WorkerUser) (staging dest : UnixPath.Path)
    (extracted : Except String (Except TarValidationError Unit)) :
    Explains kind clusterId (Unsigned kind clusterId) (some (extraction extracted))
      (adoptExtracted worker staging dest extracted) := by
  cases extracted with
  | error why =>
    rintro message ⟨⟩
    rfl
  | ok outcome =>
    cases outcome with
    | error error =>
      rintro message ⟨⟩
      -- the text says which check failed, and that is the step; what it failed on is erased from both
      exact (SpawnTask.sanitizeTarError_erased error).symm
    | ok => exact runAs_explains worker _

theorem adoptProjectTar_explains (deps : TaskDeps) (worker : WorkerUser) (slot : UInt32) (dest : UnixPath.Path)
    (tarBytes : List UInt8) :
    Explains kind clusterId (Unsigned kind clusterId) last (adoptProjectTar deps worker slot dest tarBytes) := by
  apply (fsOrFail_explains _ _ fun _ => rfl).andThen
  intro _ _ _
  apply (fsOrFail_explains _ _ fun _ => rfl).andThen
  intro _ _ _
  apply (fsOrFail_explains _ _ fun _ => rfl).andThen
  intro _ _ _ reply
  apply (adoptExtracted_explains worker _ dest reply.extracted).bind
  -- the removal of the staging directory does not count
  exact fun _ _ settles _ => settles

theorem adoptUpload_explains (deps : TaskDeps) (worker : WorkerUser) (slot : UInt32) (dest : UnixPath.Path)
    (projectTar : Option (List UInt8)) (unsigned : Unsigned kind clusterId last ()) :
    Explains kind clusterId (Unsigned kind clusterId) last (adoptUpload deps worker slot dest projectTar) := by
  cases projectTar with
  | none => exact unsigned
  | some tarBytes => exact adoptProjectTar_explains deps worker slot dest tarBytes

/-- Every text that is passed through is that of the last step. -/
theorem doSpawn_explains (setting : Setting) (inputs : Inputs) (cluster : Cluster) :
    Explains cluster.service.kind (setting.idText cluster.id) (fun _ _ => True) none (doSpawn setting inputs cluster) := by
  unfold doSpawn
  cases setting.deps.backend cluster.service.kind with
  | none =>
    rintro message ⟨⟩
    rfl
  | some backend =>
    cases setting.deps.clientWorkers.get cluster.owner with
    | error error => exact fun _ same => by cases same
    | ok worker =>
      apply (setWorker_explains cluster.id worker).andThen
      intro _ _ unsigned
      apply (prepareAll_explains worker _ unsigned).andThen
      intro _ _ unsigned
      apply (adoptUpload_explains setting.deps worker cluster.slot _ inputs.projectTar unsigned).andThen
      intro _ _ unsigned
      exact (spawn_accounts (setting.params inputs cluster) inputs.encode rfl unsigned).lift fun _ _ => rfl

end

/-! ## What is persisted -/

/-- The summary is the error's. -/
def Summarizes (error : ClusterError) (call : Call) : Prop :=
  ∀ id failedAt summary, call = .updateState id (.failed failedAt summary) → summary = SpawnTask.sanitize error

theorem persist_sends (cluster : Cluster) (now : DateTime) (error : ClusterError) (current : ClusterState) :
    (persist cluster now (.error error) current).Sends (Summarizes error) := by
  simp only [persist, SpawnTask.outcomeEvent]
  cases moved : transition current (.spawnFailed now (SpawnTask.sanitize error)) with
  | error refused => trivial
  | ok state =>
    -- only a spawning row takes the outcome, and then with this text
    obtain ⟨-, rfl⟩ := transition_spawnFailed.mp moved
    refine ⟨?_, fun _ => trivial⟩
    intro id failedAt summary same
    cases same
    rfl

theorem conclude_sends (cluster : Cluster) (now : DateTime) (error : ClusterError) :
    (conclude cluster now (some (.error error))).Sends (Summarizes error) := by
  have tearing : teardown.Sends (Summarizes error) := ⟨fun _ _ _ same => (by cases same), fun _ => trivial⟩
  refine ⟨fun _ _ _ same => (by cases same), fun reply => ?_⟩
  simp only [Client.bind]
  split
  -- the row is gone, so nothing is written
  · exact tearing
  · split
    · exact tearing
    · exact persist_sends cluster now error _
  · split
    · exact tearing
    · exact persist_sends cluster now error _

namespace Execution

variable {setting : Setting} {cluster : Cluster} (execution : Execution setting cluster)

theorem accounted {error : ClusterError} (failed : execution.outcome = some (.error error)) :
    Accounted cluster.service.kind (setting.idText cluster.id) execution.lastStep error :=
  (doSpawn_explains setting execution.inputs cluster).selects execution.spawned failed

theorem persists_sanitized {error : ClusterError} (failed : execution.outcome = some (.error error)) {summary : String}
    (persists : execution.Persists summary) : summary = SpawnTask.sanitize error := by
  obtain ⟨failedAt, reply, member⟩ := persists
  have concluded := execution.concluded
  -- behind the select, the error alone decides what may be written
  rw [failed] at concluded
  exact (conclude_sends cluster execution.inputs.now error).selects concluded _ member _ _ _ rfl

/-- The summary, from the constructor of the error and the last step. -/
theorem persists_eq {error : ClusterError} (failed : execution.outcome = some (.error error)) {text : String}
    (persists : execution.Persists text) : text = SpawnTask.sanitize (match error.erased with
      | .backendSpawnFailed _ =>
        .backendSpawnFailed (summary cluster.service.kind (setting.idText cluster.id) execution.lastStep)
      | bare => bare) := by
  rw [execution.persists_sanitized failed persists]
  have coarse : (∀ message, error ≠ .backendSpawnFailed message) →
      SpawnTask.sanitize error = SpawnTask.sanitize error.erased := fun coarse => (SpawnTask.sanitize_erased coarse).symm
  cases error with
  -- the one constructor whose text is passed through
  | backendSpawnFailed message => exact execution.accounted failed message rfl
  | ttlOutOfBounds | quotaExceeded | notFound | invalidTransition | clientWorker | docker | repository =>
    exact coarse fun _ same => by cases same

end Execution

/-- Of two spawns of one cluster that fail at the same step with the same constructor, the replies, the secrets and the
upload may differ in every other way: a reply may quote whatever was sent. -/
theorem summaries_agree (setting : Setting) (cluster : Cluster) :
    (∀ (first second : Execution setting cluster) (firstError secondError : ClusterError) (firstText secondText : String),
      first.outcome = some (.error firstError) → second.outcome = some (.error secondError) →
      first.lastStep = second.lastStep → firstError.erased = secondError.erased →
      first.Persists firstText → second.Persists secondText → firstText = secondText) ∧
    ∀ source : Http.InternalError,
      (Http.ApiError.internal source).intoResponse.status = 500 ∧
        (Http.ApiError.internal source).intoResponse.body = ⟨"internal_error", "internal error"⟩ := by
  constructor
  · intro first second firstError secondError firstText secondText firstFailed secondFailed sameStep sameConstructor
      firstPersists secondPersists
    rw [first.persists_eq firstFailed firstPersists, second.persists_eq secondFailed secondPersists, sameStep,
      sameConstructor]
  · exact fun source => ⟨rfl, rfl⟩

def smallSetting : Setting := ⟨smallDeps, fun _ => "c", "/generated".toList⟩

def smallUpload : Cluster := ClusterService.newCluster ⟨0⟩ ⟨"alice"⟩ ⟨.supabase, true⟩ smallTtl .epoch

/-- The upload has an entry that leads out of its directory. -/
def unsafeReplies (path : UnixPath.Path) : List Reply :=
  [{}, {}, {}, {}, {}, { extracted := .ok (.error (.unsafeEntry 0 path)) }, {}]

def unsafeInputs (password : String) : Inputs :=
  ⟨password, password, fun secret _ => .ok secret, fun _ => 0, .epoch, some []⟩

def unsafeUpload (path : UnixPath.Path) (password : String) : Execution smallSetting smallUpload where
  inputs := unsafeInputs password
  steps := ((doSpawn smallSetting (unsafeInputs password) smallUpload).feed (unsafeReplies path)).1
  outcome := ((doSpawn smallSetting (unsafeInputs password) smallUpload).feed (unsafeReplies path)).2
  rest := ((conclude smallUpload .epoch (some (.error (.backendSpawnFailed
    (SpawnTask.sanitizeTarError (.unsafeEntry 0 path)))))).feed [{ row := some smallUpload }, {}]).1
  spawned := Client.feed_selects _ _
  concluded := Client.feed_selects _ _

theorem unsafeUpload_failed (path : UnixPath.Path) (password : String) :
    (unsafeUpload path password).outcome =
      some (.error (.backendSpawnFailed "project_tar contains an entry with an unsafe path")) := rfl

theorem unsafeUpload_lastStep (path : UnixPath.Path) (password : String) :
    (unsafeUpload path password).lastStep = some (.extract (.ok (.error (.unsafeEntry 0 [])))) := rfl

theorem unsafeUpload_persists (path : UnixPath.Path) (password : String) :
    (unsafeUpload path password).Persists "project_tar contains an entry with an unsafe path" :=
  ⟨.epoch, {}, .tail _ (.head _)⟩

/-- Two uploads and two passwords, and one summary. -/
theorem unsafe_uploads_agree :
    ∃ text, (unsafeUpload "../a".toList "hunter2").Persists text ∧ (unsafeUpload "../b".toList "swordfish").Persists text := by
  refine ⟨_, unsafeUpload_persists _ _, ?_⟩
  have same := (summaries_agree smallSetting smallUpload).1 (unsafeUpload "../a".toList "hunter2")
    (unsafeUpload "../b".toList "swordfish") _ _ _ _ (unsafeUpload_failed _ _) (unsafeUpload_failed _ _)
    ((unsafeUpload_lastStep _ _).trans (unsafeUpload_lastStep _ _).symm) rfl (unsafeUpload_persists _ _) (unsafeUpload_persists _ _)
  exact same ▸ unsafeUpload_persists _ _

end SpawnRun

end AppSalmon
