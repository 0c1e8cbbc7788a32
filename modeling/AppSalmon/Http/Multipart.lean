import AppSalmon.Http.CancelSafety

/-! What `POST /clusters` takes from a request body.

The parts of a multipart body are read in the order they come. Each must be in
order itself, also one that a later part of the same name replaces; what counts
in the end is the last part of each name.
-/

set_option autoImplicit false

namespace AppSalmon

open Droppable SerdeJson

variable {fromSlice : List UInt8 → Decoded Json} {events : List TableEvent}

/-! ## One part -/

/-- A part of that name, as it is read. -/
def MultipartField.part {α : Type} (name : String) (decode : List UInt8 → Except String α) (field : MultipartField) :
    Option (Except String α) :=
  if field.name = some name then
    some (match field.bytes with
      | .error error => .error ("invalid multipart body: " ++ error)
      | .ok bytes => decode bytes)
  else none

def MultipartField.metadata (fromSlice : List UInt8 → Decoded Json) : MultipartField → Option (Except String CreateClusterRequest) :=
  MultipartField.part "metadata" fun bytes =>
    match (fromSlice bytes).bind CreateClusterRequest.ofJson with
    | .error error => .error ("invalid \"metadata\" part: " ++ error)
    | .ok request => .ok request

def MultipartField.projectTar : MultipartField → Option (Except String (List UInt8)) :=
  MultipartField.part "project_tar" .ok

/-- What a part is refused for. -/
def MultipartField.problem (fromSlice : List UInt8 → Decoded Json) (field : MultipartField) : Option String :=
  match field.metadata fromSlice with
  | some (.error message) => some message
  | some (.ok _) => none
  | none =>
    match field.projectTar with
    | some (.error message) => some message
    | some (.ok _) | none => none

/-- The value that a part brings, if it is of the name asked for and in order. -/
def value {α : Type} (part : Option (Except String α)) : Option α := part.bind fun read => read.toOption

/-- The last value of a kind, after one that was read before. -/
def lastOf {α : Type} (view : MultipartField → Option (Except String α)) (earlier : Option α)
    (fields : List MultipartField) : Option α :=
  ((fields.filterMap fun field => value (view field)).getLast?).or earlier

theorem lastOf_cons {α : Type} (view : MultipartField → Option (Except String α)) (earlier : Option α)
    (field : MultipartField) (rest : List MultipartField) :
    lastOf view earlier (field :: rest) = lastOf view ((value (view field)).or earlier) rest := by
  unfold lastOf
  rw [List.filterMap_cons]
  cases value (view field) with
  | none => rfl
  | some found =>
    rw [List.getLast?_cons]
    cases (rest.filterMap fun field => value (view field)).getLast? <;> rfl

/-! ## All of them -/

/-- What a list of parts comes to: the first problem, or the last value of each kind. -/
def partsRead (fromSlice : List UInt8 → Decoded Json) (closing : Except String Unit)
    (metadata : Option CreateClusterRequest) (projectTar : Option (List UInt8)) (fields : List MultipartField) :
    Except ApiError (Option CreateClusterRequest × Option (List UInt8)) :=
  match (fields.filterMap (MultipartField.problem fromSlice)).head?, closing with
  | some message, _ => .error (.badRequest message)
  | none, .error error => .error (.badRequest ("invalid multipart body: " ++ error))
  | none, .ok () => .ok (lastOf (MultipartField.metadata fromSlice) metadata fields,
      lastOf MultipartField.projectTar projectTar fields)

theorem arrives_completes {α : Type} {rest : Async α} {out : α} :
    (Handlers.arrives rest).Completes events out ↔ rest.Completes events out :=
  ⟨fun ⟨_, completes⟩ => completes, fun completes => ⟨(), completes⟩⟩

theorem partsRead_cons {closing : Except String Unit} {metadata : Option CreateClusterRequest}
    {projectTar : Option (List UInt8)} {field : MultipartField} {rest : List MultipartField} :
    partsRead fromSlice closing metadata projectTar (field :: rest) =
      match field.problem fromSlice with
      | some message => .error (.badRequest message)
      | none => partsRead fromSlice closing ((value (field.metadata fromSlice)).or metadata)
          ((value field.projectTar).or projectTar) rest := by
  unfold partsRead
  rw [List.filterMap_cons, lastOf_cons, lastOf_cons]
  cases field.problem fromSlice <;> rfl

theorem refuse_completes {α : Type} {message : String} {out : Except ApiError α} :
    (Handlers.refuse message : Async (Except ApiError α)).Completes events out ↔
      events = [] ∧ out = .error (.badRequest message) := Iff.rfl

/-- The loop reads the parts in order and stops at the first problem. -/
theorem readFields_completes {closing : Except String Unit} {metadata : Option CreateClusterRequest}
    {projectTar : Option (List UInt8)} {fields : List MultipartField}
    {out : Except ApiError (Option CreateClusterRequest × Option (List UInt8))} :
    (Handlers.readFields fromSlice closing metadata projectTar fields).Completes events out ↔
      events = [] ∧ out = partsRead fromSlice closing metadata projectTar fields := by
  induction fields generalizing metadata projectTar with
  | nil =>
    unfold Handlers.readFields
    rw [arrives_completes]
    cases closing <;> exact Iff.rfl
  | cons field rest ih =>
    unfold Handlers.readFields
    rw [arrives_completes, partsRead_cons]
    by_cases isMetadata : field.name = some "metadata"
    · rw [if_pos isMetadata, arrives_completes]
      have other : field.projectTar = none := by
        simp [MultipartField.projectTar, MultipartField.part, isMetadata]
      cases bytes : field.bytes with
      | error error =>
        simp [MultipartField.problem, MultipartField.metadata, MultipartField.part, isMetadata, bytes, refuse_completes]
      | ok bytes' =>
        cases read : (fromSlice bytes').bind CreateClusterRequest.ofJson with
        | error error =>
          simp [MultipartField.problem, MultipartField.metadata, MultipartField.part, isMetadata, bytes, read,
            refuse_completes]
        | ok request =>
          have found : field.metadata fromSlice = some (.ok request) := by
            simp [MultipartField.metadata, MultipartField.part, isMetadata, bytes, read]
          simp [MultipartField.problem, found, other, value, ih, read, Except.toOption]
    · rw [if_neg isMetadata]
      have other : field.metadata fromSlice = none := by
        simp [MultipartField.metadata, MultipartField.part, isMetadata]
      by_cases isTar : field.name = some "project_tar"
      · rw [if_pos isTar, arrives_completes]
        cases bytes : field.bytes with
        | error error =>
          simp [MultipartField.problem, MultipartField.projectTar, MultipartField.part, other, isTar, bytes,
            refuse_completes]
        | ok tar =>
          have found : field.projectTar = some (.ok tar) := by
            simp [MultipartField.projectTar, MultipartField.part, isTar, bytes]
          simp [MultipartField.problem, found, other, value, ih, Except.toOption]
      · rw [if_neg isTar]
        have neither : field.projectTar = none := by
          simp [MultipartField.projectTar, MultipartField.part, isTar]
        simp [MultipartField.problem, neither, other, value, ih]

/-! ## What is accepted -/

/-- What the last part of that name brings. -/
def LastPart {α : Type} (fields : List MultipartField) (name : String) (decode : List UInt8 → Option α) (read : α) : Prop :=
  ∃ before field after bytes, fields = before ++ field :: after ∧ (∀ later ∈ after, later.name ≠ some name) ∧
    field.name = some name ∧ field.bytes = .ok bytes ∧ decode bytes = some read

def decodeRequest (fromSlice : List UInt8 → Decoded Json) (bytes : List UInt8) : Option CreateClusterRequest :=
  ((fromSlice bytes).bind CreateClusterRequest.ofJson).toOption

/-- The parts of a body that the multipart path takes. -/
def Multipart.Carries (fromSlice : List UInt8 → Decoded Json) (multipart : Multipart) (body : CreateClusterRequest)
    (tar : List UInt8) : Prop :=
  (∀ field ∈ multipart.fields, field.problem fromSlice = none) ∧ multipart.closing = .ok () ∧
    LastPart multipart.fields "metadata" (decodeRequest fromSlice) body ∧ LastPart multipart.fields "project_tar" some tar

/-- A body that the server takes: the tar comes with `supabase` and with nothing else. -/
def CreateRequest.Carries (fromSlice : List UInt8 → Decoded Json) (request : CreateRequest) (body : CreateClusterRequest)
    (projectTar : Option (List UInt8)) : Prop :=
  if request.contentType.any fun value => value.startsWith "multipart/form-data" then
    body.service = .supabase ∧ ∃ multipart tar, request.multipart = .ok multipart ∧ projectTar = some tar ∧
      multipart.Carries fromSlice body tar
  else
    body.service = .postgres ∧ request.json.bind CreateClusterRequest.ofJson = .ok body ∧ projectTar = none

theorem value_part {α : Type} {name : String} {decode : List UInt8 → Except String α} {field : MultipartField} {read : α} :
    value (field.part name decode) = some read ↔
      field.name = some name ∧ ∃ bytes, field.bytes = .ok bytes ∧ decode bytes = .ok read := by
  unfold MultipartField.part
  by_cases named : field.name = some name
  · cases bytes : field.bytes with
    | error => simp [value, named, Except.toOption]
    | ok bytes' =>
      cases decoded : decode bytes' <;> simp [value, named, decoded, Except.toOption]
  · simp [value, named]

theorem lastOf_concat {α : Type} (view : MultipartField → Option (Except String α)) (fields : List MultipartField)
    (field : MultipartField) : lastOf view none (fields ++ [field]) = (value (view field)).or (lastOf view none fields) := by
  unfold lastOf
  rw [List.filterMap_append]
  cases found : value (view field) with
  | none => simp [found]
  | some read => simp [found]

theorem lastPart_concat {α : Type} {fields : List MultipartField} {field : MultipartField} {name : String}
    {decode : List UInt8 → Option α} {read : α} :
    LastPart (fields ++ [field]) name decode read ↔
      if field.name = some name then ∃ bytes, field.bytes = .ok bytes ∧ decode bytes = some read
      else LastPart fields name decode read := by
  split
  · next named =>
    constructor
    · intro ⟨before, found, after, bytes, split, unnamed, _, arrived, decoded⟩
      cases after using List.reverseRecOn with
      | nil =>
        obtain ⟨-, same⟩ := List.append_inj' split rfl
        obtain rfl := (List.cons.inj same).1
        exact ⟨bytes, arrived, decoded⟩
      | append_singleton earlier last =>
        rw [← List.cons_append, ← List.append_assoc] at split
        obtain ⟨-, same⟩ := List.append_inj' split rfl
        obtain rfl := (List.cons.inj same).1
        exact (unnamed field (by simp) named).elim
    · intro ⟨bytes, arrived, decoded⟩
      exact ⟨fields, field, [], bytes, rfl, by simp, named, arrived, decoded⟩
  · next other =>
    constructor
    · intro ⟨before, found, after, bytes, split, unnamed, named, arrived, decoded⟩
      cases after using List.reverseRecOn with
      | nil =>
        obtain ⟨-, same⟩ := List.append_inj' split rfl
        obtain rfl := (List.cons.inj same).1
        exact (other named).elim
      | append_singleton earlier last =>
        rw [← List.cons_append, ← List.append_assoc] at split
        obtain ⟨rfl, -⟩ := List.append_inj' split rfl
        exact ⟨before, found, earlier, bytes, rfl, fun later member => unnamed later (by simp [member]), named, arrived,
          decoded⟩
    · intro ⟨before, found, after, bytes, split, unnamed, named, arrived, decoded⟩
      refine ⟨before, found, after ++ [field], bytes, by simp [split], ?_, named, arrived, decoded⟩
      intro later member
      rcases List.mem_append.mp member with earlier | last
      · exact unnamed later earlier
      · rwa [List.mem_singleton.mp last]

/-- In a list of parts that are all in order, the last value is that of the last part of the name. -/
theorem lastOf_eq_some {α : Type} {name : String} {decode : List UInt8 → Except String α} {fields : List MultipartField}
    (inOrder : ∀ field ∈ fields, field.name = some name → (value (field.part name decode)).isSome) {read : α} :
    lastOf (MultipartField.part name decode) none fields = some read ↔
      LastPart fields name (fun bytes => (decode bytes).toOption) read := by
  induction fields using List.reverseRecOn with
  | nil => simp [lastOf, LastPart]
  | append_singleton fields field ih =>
    rw [lastOf_concat, lastPart_concat, Option.or_eq_some_iff, value_part,
      ih fun earlier member => inOrder earlier (by simp [member])]
    by_cases named : field.name = some name
    · obtain ⟨other, brought⟩ := Option.isSome_iff_exists.mp (inOrder field (by simp) named)
      simp only [brought, named, if_true, true_and, reduceCtorEq, false_and, or_false]
      constructor
      · intro ⟨bytes, arrived, decoded⟩
        exact ⟨bytes, arrived, by rw [decoded]; rfl⟩
      · intro ⟨bytes, arrived, decoded⟩
        refine ⟨bytes, arrived, ?_⟩
        cases result : decode bytes <;> simp_all [Except.toOption]
    · simp [value, MultipartField.part, named]

theorem problem_eq_none {field : MultipartField} :
    field.problem fromSlice = none ↔
      (field.name = some "metadata" → (value (field.metadata fromSlice)).isSome) ∧
        (field.name = some "project_tar" → (value field.projectTar).isSome) := by
  unfold MultipartField.problem MultipartField.metadata MultipartField.projectTar MultipartField.part
  by_cases isMetadata : field.name = some "metadata"
  · cases bytes : field.bytes with
    | error => simp [isMetadata, value, Except.toOption]
    | ok bytes' =>
      cases read : (fromSlice bytes').bind CreateClusterRequest.ofJson <;>
        simp [isMetadata, value, read, Except.toOption]
  · by_cases isTar : field.name = some "project_tar"
    · cases bytes : field.bytes <;> simp [isTar, value, Except.toOption]
    · simp [isMetadata, isTar]

theorem lastOf_metadata {fields : List MultipartField} (inOrder : ∀ field ∈ fields, field.problem fromSlice = none)
    {body : CreateClusterRequest} :
    lastOf (MultipartField.metadata fromSlice) none fields = some body ↔
      LastPart fields "metadata" (decodeRequest fromSlice) body := by
  have sameDecoding : (fun bytes => (match (fromSlice bytes).bind CreateClusterRequest.ofJson with
      | .error error => .error ("invalid \"metadata\" part: " ++ error)
      | .ok request => .ok request : Except String CreateClusterRequest).toOption) = decodeRequest fromSlice := by
    funext bytes
    unfold decodeRequest
    cases (fromSlice bytes).bind CreateClusterRequest.ofJson <;> rfl
  rw [← sameDecoding]
  exact lastOf_eq_some fun field member => (problem_eq_none.mp (inOrder field member)).1

theorem lastOf_projectTar {fields : List MultipartField} (inOrder : ∀ field ∈ fields, field.problem fromSlice = none)
    {tar : List UInt8} :
    lastOf MultipartField.projectTar none fields = some tar ↔ LastPart fields "project_tar" some tar :=
  lastOf_eq_some fun field member => (problem_eq_none.mp (inOrder field member)).2

theorem partsRead_eq_ok {multipart : Multipart} {body : CreateClusterRequest} {tar : List UInt8} :
    partsRead fromSlice multipart.closing none none multipart.fields = .ok (some body, some tar) ↔
      multipart.Carries fromSlice body tar := by
  unfold partsRead Multipart.Carries
  cases found : multipart.fields.filterMap (MultipartField.problem fromSlice) with
  | nil =>
    have inOrder := List.filterMap_eq_nil_iff.mp found
    rw [← lastOf_metadata inOrder, ← lastOf_projectTar inOrder]
    cases multipart.closing with
    | error => simp
    | ok => simpa using fun _ _ => inOrder
  | cons message rest =>
    have some_problem : ¬ ∀ field ∈ multipart.fields, field.problem fromSlice = none := by
      rw [← List.filterMap_eq_nil_iff, found]
      exact List.cons_ne_nil _ _
    simp [some_problem]

/-- The parts behind one with a problem are not looked at. -/
theorem partsRead_stops {closing : Except String Unit} {before after : List MultipartField} {field : MultipartField}
    {message : String} (inOrder : ∀ earlier ∈ before, earlier.problem fromSlice = none)
    (problem : field.problem fromSlice = some message) :
    partsRead fromSlice closing none none (before ++ field :: after) = .error (.badRequest message) := by
  simp [partsRead, List.filterMap_append, List.filterMap_eq_nil_iff.mpr inOrder, problem]

/-! ## What a request is answered -/

/-- What the parts of a body come to. -/
def Multipart.read (fromSlice : List UInt8 → Decoded Json) (multipart : Multipart) :
    Except ApiError (CreateClusterRequest × List UInt8) :=
  match partsRead fromSlice multipart.closing none none multipart.fields with
  | .error error => .error error
  | .ok (none, _) => .error (.badRequest "multipart request missing a \"metadata\" part")
  | .ok (some _, none) => .error (.badRequest "multipart request missing a \"project_tar\" part")
  | .ok (some metadata, some projectTar) =>
    if metadata.service = .supabase then .ok (metadata, projectTar)
    else .error (.badRequest "multipart/form-data requests are only accepted for service \"supabase\"")

/-- What a request comes to. -/
def CreateRequest.read (fromSlice : List UInt8 → Decoded Json) (request : CreateRequest) :
    Except ApiError (CreateClusterRequest × Option (List UInt8)) :=
  if request.contentType.any fun value => value.startsWith "multipart/form-data" then
    match request.multipart with
    | .error error => .error (.badRequest ("invalid multipart body: " ++ error))
    | .ok multipart => (multipart.read fromSlice).map fun parts => (parts.1, some parts.2)
  else
    match request.json.bind CreateClusterRequest.ofJson with
    | .error error => .error (.badRequest ("invalid JSON body: " ++ error))
    | .ok body =>
      if body.service = .postgres then .ok (body, none)
      else .error (.badRequest "service \"supabase\" requires a multipart/form-data request carrying a project_tar part")

theorem Multipart.read_eq_ok {multipart : Multipart} {body : CreateClusterRequest} {tar : List UInt8} :
    multipart.read fromSlice = .ok (body, tar) ↔ body.service = .supabase ∧ multipart.Carries fromSlice body tar := by
  rw [← partsRead_eq_ok, Multipart.read]
  cases partsRead fromSlice multipart.closing none none multipart.fields with
  | error => simp
  | ok parts =>
    obtain ⟨metadata, projectTar⟩ := parts
    cases metadata with
    | none => simp
    | some metadata =>
      cases projectTar with
      | none => simp
      | some projectTar =>
        by_cases supabase : metadata.service = .supabase
        · simp only [supabase, if_true, Except.ok.injEq, Prod.mk.injEq, Option.some.injEq]
          constructor
          · rintro ⟨rfl, rfl⟩
            exact ⟨supabase, rfl, rfl⟩
          · exact And.right
        · simp only [supabase, if_false, reduceCtorEq, false_iff, Except.ok.injEq, Prod.mk.injEq, Option.some.injEq]
          rintro ⟨service, rfl, -⟩
          exact supabase service

theorem CreateRequest.read_eq_ok {request : CreateRequest} {body : CreateClusterRequest} {projectTar : Option (List UInt8)} :
    request.read fromSlice = .ok (body, projectTar) ↔ request.Carries fromSlice body projectTar := by
  unfold CreateRequest.read CreateRequest.Carries
  split
  · cases request.multipart with
    | error => simp
    | ok multipart =>
      simp only [Except.ok.injEq, exists_and_left, exists_eq_left']
      cases outcome : multipart.read fromSlice with
      | error =>
        simp only [Except.map, reduceCtorEq, false_iff]
        intro ⟨service, tar, _, parts⟩
        rw [Multipart.read_eq_ok.mpr ⟨service, parts⟩] at outcome
        cases outcome
      | ok parts =>
        obtain ⟨metadata, tar⟩ := parts
        obtain ⟨service, carries⟩ := Multipart.read_eq_ok.mp outcome
        simp only [Except.map, Except.ok.injEq, Prod.mk.injEq]
        constructor
        · rintro ⟨rfl, rfl⟩
          exact ⟨service, tar, rfl, carries⟩
        · intro ⟨service', tar', found, carries'⟩
          have same := (Multipart.read_eq_ok.mpr ⟨service', carries'⟩).symm.trans outcome
          obtain ⟨rfl, rfl⟩ := Prod.mk.inj (Except.ok.inj same)
          exact ⟨rfl, found.symm⟩
  · cases decoded : request.json.bind CreateClusterRequest.ofJson with
    | error => simp
    | ok sent =>
      simp only [Except.ok.injEq]
      by_cases postgres : sent.service = .postgres
      · simp only [postgres, if_true, Except.ok.injEq, Prod.mk.injEq]
        constructor
        · rintro ⟨rfl, rfl⟩
          exact ⟨postgres, rfl, rfl⟩
        · rintro ⟨-, rfl, rfl⟩
          exact ⟨rfl, rfl⟩
      · simp only [postgres, if_false, reduceCtorEq, false_iff]
        rintro ⟨service, rfl, -⟩
        exact postgres service

theorem partsRead_error {closing : Except String Unit} {metadata : Option CreateClusterRequest}
    {projectTar : Option (List UInt8)} {fields : List MultipartField} {error : ApiError}
    (refused : partsRead fromSlice closing metadata projectTar fields = .error error) :
    ∃ message, error = .badRequest message := by
  unfold partsRead at refused
  split at refused
  · exact ⟨_, (Except.error.inj refused).symm⟩
  · exact ⟨_, (Except.error.inj refused).symm⟩
  · cases refused

theorem Multipart.read_error {multipart : Multipart} {error : ApiError} (refused : multipart.read fromSlice = .error error) :
    ∃ message, error = .badRequest message := by
  unfold Multipart.read at refused
  split at refused
  · next parts =>
    obtain rfl := Except.error.inj refused
    exact partsRead_error parts
  · exact ⟨_, (Except.error.inj refused).symm⟩
  · exact ⟨_, (Except.error.inj refused).symm⟩
  · split at refused
    · cases refused
    · exact ⟨_, (Except.error.inj refused).symm⟩

/-- Whatever is wrong with a request, it is answered with a 400. -/
theorem CreateRequest.read_error {request : CreateRequest} {error : ApiError}
    (refused : request.read fromSlice = .error error) : ∃ message, error = .badRequest message := by
  unfold CreateRequest.read at refused
  split at refused
  · split at refused
    · exact ⟨_, (Except.error.inj refused).symm⟩
    · next multipart _ =>
      cases outcome : multipart.read fromSlice with
      | error why =>
        rw [outcome] at refused
        obtain rfl := Except.error.inj refused
        exact Multipart.read_error outcome
      | ok parts =>
        rw [outcome] at refused
        cases refused
  · split at refused
    · exact ⟨_, (Except.error.inj refused).symm⟩
    · split at refused
      · cases refused
      · exact ⟨_, (Except.error.inj refused).symm⟩

namespace Handlers

theorem parseMultipart_completes {multipart : Multipart} {out : Except ApiError (CreateClusterRequest × List UInt8)} :
    (parseMultipartCreateRequest fromSlice multipart).Completes events out ↔
      events = [] ∧ out = multipart.read fromSlice := by
  unfold parseMultipartCreateRequest Multipart.read
  rw [Future.completes_bind_silent fun _ _ => readFields_completes]
  cases partsRead fromSlice multipart.closing none none multipart.fields with
  | error => exact Iff.rfl
  | ok parts =>
    obtain ⟨metadata, projectTar⟩ := parts
    cases metadata with
    | none => exact Iff.rfl
    | some metadata =>
      cases projectTar with
      | none => exact Iff.rfl
      | some projectTar =>
        by_cases supabase : metadata.service = .supabase
        · simp only [supabase, ne_eq, not_true_eq_false, if_false, if_true]
          exact Iff.rfl
        · simp only [supabase, ne_eq, not_false_eq_true, if_true, if_false]
          exact Iff.rfl

/-- Reading a request leaves the table alone. -/
theorem readCreateRequest_completes {request : CreateRequest}
    {out : Except ApiError (CreateClusterRequest × Option (List UInt8))} :
    (readCreateRequest fromSlice request).Completes events out ↔ events = [] ∧ out = request.read fromSlice := by
  unfold readCreateRequest CreateRequest.read
  split
  · rw [arrives_completes]
    cases request.multipart with
    | error => exact Iff.rfl
    | ok multipart =>
      dsimp only
      rw [Future.completes_bind_silent fun _ _ => parseMultipart_completes]
      cases multipart.read fromSlice <;> exact Iff.rfl
  · rw [arrives_completes]
    cases request.json.bind CreateClusterRequest.ofJson with
    | error => exact Iff.rfl
    | ok body =>
      by_cases postgres : body.service = .postgres
      · simp only [postgres, ne_eq, not_true_eq_false, if_false, if_true]
        exact Iff.rfl
      · simp only [postgres, ne_eq, not_false_eq_true, if_true, if_false]
        exact Iff.rfl

/-- A body is accepted when it carries what it should; any other is answered with a 400, for the first problem that
its parts have in the order they come, and without a call on the table. -/
theorem readCreateRequest_exact (request : CreateRequest) :
    (∀ body projectTar, (readCreateRequest fromSlice request).Completes events (.ok (body, projectTar)) ↔
      events = [] ∧ request.Carries fromSlice body projectTar) ∧
    ((∃ message, (readCreateRequest fromSlice request).Completes events (.error (.badRequest message))) ↔
      events = [] ∧ ∀ body projectTar, ¬ request.Carries fromSlice body projectTar) ∧
    ∀ multipart before field after message, (request.contentType.any fun value => value.startsWith "multipart/form-data") →
      request.multipart = .ok multipart → multipart.fields = before ++ field :: after →
      (∀ earlier ∈ before, earlier.problem fromSlice = none) → field.problem fromSlice = some message →
      (readCreateRequest fromSlice request).Completes [] (.error (.badRequest message)) := by
  refine ⟨fun body projectTar => ?_, ?_, ?_⟩
  · rw [readCreateRequest_completes, eq_comm (a := Except.ok _), CreateRequest.read_eq_ok]
  · simp only [readCreateRequest_completes, exists_and_left, ← CreateRequest.read_eq_ok]
    cases outcome : request.read fromSlice with
    | error =>
      obtain ⟨message, rfl⟩ := CreateRequest.read_error outcome
      simp
    | ok accepted => simpa using fun _ => ⟨accepted.1, accepted.2, rfl⟩
  · intro multipart before field after message isMultipart body split inOrder problem
    rw [readCreateRequest_completes, CreateRequest.read, if_pos isMultipart, body]
    simp [Multipart.read, split, partsRead_stops inOrder problem, Except.map]

end Handlers

end AppSalmon
