import AppSalmon.Service.LogRotation

/-! What a sweep of the log directory keeps, where no archive is in the way of a file. -/

set_option autoImplicit false

namespace AppSalmon.LogRotation

open Function (update update_of_ne update_self)

/-! ## The directory as it should be -/

/-- Of files only. -/
def fileTime (dir : LogDir) (name : EntryName) : Option Int :=
  match dir name with
  | some (.file _ modified) => some modified
  | some (.directory _) | none => none

/-- The same entries, with other contents. -/
def withContents (dir : LogDir) (contents : EntryName → List UInt8) : LogDir := fun name =>
  match dir name with
  | some (.file _ modified) => some (.file (contents name) modified)
  | other => other

/-- Some archive yields the content. -/
def Archives (gzip : Gzip) (dir : LogDir) (content : List UInt8) : Prop :=
  ∃ name bytes modified, name.isGz = true ∧ dir name = some (.file bytes modified) ∧ gzip.decode bytes = some content

/-- How old a file has to be, by its name. -/
def Rotation.threshold (rotation : Rotation) (name : EntryName) : Nat :=
  if name.isGz then rotation.retention else rotation.compressAfter

/-- A file that the sweep may touch. -/
def MayTouch (rotation : Rotation) (dir : LogDir) (name : EntryName) : Prop :=
  ∃ time, fileTime dir name = some time ∧ olderThan time rotation.now (rotation.threshold name) = true

/-- What was there is kept, as far as it is not old enough to go. -/
structure Keeps (rotation : Rotation) (before after : LogDir) : Prop where
  plain : ∀ name content modified, name.isGz = false → before name = some (.file content modified) →
    after name = some (.file content modified) ∨ Archives rotation.gzip after content
  archives : ∀ name bytes modified content, name.isGz = true → before name = some (.file bytes modified) →
    olderThan modified rotation.now rotation.retention = false → rotation.gzip.decode bytes = some content →
      Archives rotation.gzip after content
  touched : ∀ name node, before name = some node → after name ≠ some node → MayTouch rotation before name

/-- With any contents, and whichever calls fail; and what fails for one entry changes nothing for another. -/
structure RotatesSafely (rotation : Rotation) (listing : Listing) (dir : LogDir) : Prop where
  keeps : ∀ contents faults, Keeps rotation (withContents dir contents)
    (rotation.runOnce faults listing.entries (withContents dir contents)).dir
  independent : ∀ contents first second failing, (∀ other, other ≠ failing → first other = second other) →
    ∀ other, other ≠ failing → (rotation.runOnce first listing.entries (withContents dir contents)).asked other =
      (rotation.runOnce second listing.entries (withContents dir contents)).asked other

/-! ## The files that are in the way of each other -/

/-- The loop comes to the file, and finds it old enough. -/
structure Due (rotation : Rotation) (listing : Listing) (dir : LogDir) (path : EntryName) : Prop where
  visited : path ∈ visited listing.entries
  plain : path.isGz = false
  old : ∃ time, fileTime dir path = some time ∧ olderThan time rotation.now rotation.compressAfter = true

/-- The archive under the name of a file is old and not yet to be visited. Where there is none, the one that the sweep
makes is not visited, or is young then. -/
structure WayFree (rotation : Rotation) (listing : Listing) (dir : LogDir) (path : EntryName) : Prop where
  existing : ∀ time, fileTime dir path.gzPathFor = some time →
    olderThan time rotation.now rotation.retention = true ∧ ¬ [path, path.gzPathFor].Sublist (visited listing.entries)
  made : dir path.gzPathFor = none → [path, path.gzPathFor].Sublist (visited listing.entries) →
    olderThan (rotation.stamp path.gzPathFor) rotation.now rotation.retention = false

section
variable {dir : LogDir} {contents : EntryName → List UInt8} {name : EntryName}

@[simp] theorem fileTime_withContents : fileTime (withContents dir contents) name = fileTime dir name := by
  unfold fileTime withContents
  rcases dir name with _ | _ | _ <;> rfl

@[simp] theorem withContents_eq_none : withContents dir contents name = none ↔ dir name = none := by
  unfold withContents
  rcases dir name with _ | _ | _ <;> simp

theorem fileTime_eq_some {time : Int} : fileTime dir name = some time ↔ ∃ content, dir name = some (.file content time) := by
  unfold fileTime
  rcases dir name with _ | _ | _ <;> simp

theorem withContents_file {time : Int} (here : fileTime dir name = some time) :
    withContents dir contents name = some (.file (contents name) time) := by
  obtain ⟨content, here⟩ := fileTime_eq_some.mp here
  rw [withContents, here]

end

variable {rotation : Rotation} {listing : Listing} {dir : LogDir}

theorem due_withContents {contents : EntryName → List UInt8} {path : EntryName} :
    Due rotation listing (withContents dir contents) path ↔ Due rotation listing dir path := by
  constructor
  · rintro ⟨visited, plain, old⟩
    exact ⟨visited, plain, by simpa using old⟩
  · rintro ⟨visited, plain, old⟩
    exact ⟨visited, plain, by simpa using old⟩

theorem wayFree_withContents {contents : EntryName → List UInt8} {path : EntryName} :
    WayFree rotation listing (withContents dir contents) path ↔ WayFree rotation listing dir path := by
  constructor
  · rintro ⟨existing, made⟩
    exact ⟨by simpa using existing, by simpa using made⟩
  · rintro ⟨existing, made⟩
    exact ⟨by simpa using existing, by simpa using made⟩

/-! ## A sweep with nothing in the way -/

/-- An entry that is still to be visited is as it was, but for a young archive that was made in the meantime. -/
def AsBefore (rotation : Rotation) (dir : LogDir) (sweep : Sweep) (path : EntryName) : Prop :=
  sweep.dir path = dir path ∨ path.isGz = true ∧ dir path = none ∧ ∃ output,
    sweep.dir path = some (.file output (rotation.stamp path)) ∧
      olderThan (rotation.stamp path) rotation.now rotation.retention = false

/-- Some way into the walk. -/
structure Underway (rotation : Rotation) (faults : EntryName → EntryFaults) (dir : LogDir) (done todo : List EntryName)
    (sweep : Sweep) : Prop where
  ahead : ∀ path ∈ todo, AsBefore rotation dir sweep path
  asked : ∀ path, sweep.asked path =
    if path ∈ done then (rotation.action (faults path) dir path).toList else []
  plain : ∀ path content modified, path.isGz = false → dir path = some (.file content modified) →
    sweep.dir path = dir path ∨ path ∈ done ∧
      sweep.dir path.gzPathFor = some (.file (rotation.gzip.encode content) (rotation.stamp path.gzPathFor)) ∧
        (path.gzPathFor ∈ todo → olderThan (rotation.stamp path.gzPathFor) rotation.now rotation.retention = false)
  still : ∀ path node, dir path = some node → ¬ MayTouch rotation dir path → sweep.dir path = some node

variable {faults : EntryName → EntryFaults} {done todo : List EntryName} {sweep : Sweep} {path : EntryName}

/-- A young archive is left alone. -/
theorem action_of_young {faults : EntryFaults} {dir : LogDir} {output : List UInt8} {modified : Int} (gz : path.isGz = true)
    (here : dir path = some (.file output modified)) (young : olderThan modified rotation.now rotation.retention = false) :
    rotation.action faults dir path = none := by
  rw [Option.eq_none_iff_forall_ne_some]
  intro action asked
  -- what is asked for an archive is its removal, and that only when it is old
  obtain ⟨-, -, content, time, there, ⟨-, -, old⟩ | ⟨plain, -⟩⟩ := action_eq_some.mp asked
  · rw [here, Option.some.injEq, LogNode.file.injEq] at there
    rw [← there.2, young] at old
    cases old
  · cases gz.symm.trans plain

/-- The loop decides as it would have at first. -/
theorem AsBefore.action (before : AsBefore rotation dir sweep path) :
    rotation.action (faults path) sweep.dir path = rotation.action (faults path) dir path := by
  rcases before with same | ⟨gz, absent, output, made, young⟩
  · exact action_congr same
  -- at first there was nothing to decide about, and the archive that came up is too young
  · have then_none : rotation.action (faults path) dir path = none := by
      rw [Option.eq_none_iff_forall_ne_some]
      intro action asked
      obtain ⟨-, -, content, modified, here, -⟩ := action_eq_some.mp asked
      rw [absent] at here
      cases here
    rw [action_of_young gz made young, then_none]

theorem AsBefore.of_plain (before : AsBefore rotation dir sweep path) (plain : path.isGz = false) :
    sweep.dir path = dir path := by
  rcases before with same | ⟨gz, -⟩
  · exact same
  · cases gz.symm.trans plain

/-- What is compressed was due from the start. -/
theorem Underway.due (underway : Underway rotation faults dir done (path :: todo) sweep)
    (walk : visited listing.entries = done ++ path :: todo)
    (asked : rotation.action (faults path) sweep.dir path = some .compress) : Due rotation listing dir path := by
  obtain ⟨-, -, content, modified, here, ⟨-, wrong, -⟩ | ⟨plain, -, old⟩⟩ := action_eq_some.mp asked
  · cases wrong
  · rw [(underway.ahead path List.mem_cons_self).of_plain plain] at here
    refine ⟨?_, plain, modified, fileTime_eq_some.mpr ⟨content, here⟩, old⟩
    rw [walk]
    exact List.mem_append_right _ List.mem_cons_self

theorem mayTouch_of_action {action : Action} (same : sweep.dir path = dir path)
    (asked : rotation.action (faults path) sweep.dir path = some action) : MayTouch rotation dir path := by
  obtain ⟨-, -, content, modified, here, old⟩ := action_eq_some.mp asked
  rw [same] at here
  refine ⟨modified, fileTime_eq_some.mpr ⟨content, here⟩, ?_⟩
  rcases old with ⟨gz, -, old⟩ | ⟨plain, -, old⟩
  · rwa [Rotation.threshold, gz]
  · rwa [Rotation.threshold, plain]

/-- A directory stays. -/
theorem not_mayTouch_directory {modified : Int} (here : dir path = some (.directory modified)) : ¬ MayTouch rotation dir path := by
  rintro ⟨time, file, -⟩
  rw [fileTime, here] at file
  cases file

/-- A compression that gets as far as its archive finds none that is young or that is still to be visited. -/
theorem Underway.archive_free (underway : Underway rotation faults dir done (path :: todo) sweep)
    (walk : visited listing.entries = done ++ path :: todo)
    (way : ∀ path, Due rotation listing dir path → WayFree rotation listing dir path)
    (asked : rotation.action (faults path) sweep.dir path = some .compress)
    (free : (sweep.dir path.gzPathFor).all LogNode.isFile = true) :
    (∀ node, dir path.gzPathFor = some node → MayTouch rotation dir path.gzPathFor) ∧
      (path.gzPathFor ∈ todo → dir path.gzPathFor = none ∧
        olderThan (rotation.stamp path.gzPathFor) rotation.now rotation.retention = false) := by
  have wayFree := way path (underway.due walk asked)
  -- a directory in the place of the archive stays there, and keeps the compression from it
  have no_directory (modified : Int) : dir path.gzPathFor ≠ some (.directory modified) := by
    intro here
    rw [underway.still _ _ here (not_mayTouch_directory here)] at free
    cases free
  constructor
  · intro node here
    cases node with
    | directory modified => exact absurd here (no_directory modified)
    | file content modified =>
      have time := fileTime_eq_some.mpr ⟨content, here⟩
      refine ⟨modified, time, ?_⟩
      rw [Rotation.threshold, path.isGz_gzPathFor]
      exact (wayFree.existing modified time).1
  · intro later
    -- the file is visited now and its archive later, so that is their order in the walk
    have sublist : [path, path.gzPathFor].Sublist (visited listing.entries) := by
      rw [walk]
      exact ((List.singleton_sublist.mpr later).cons_cons path).trans (List.sublist_append_right done _)
    have absent : dir path.gzPathFor = none := by
      cases here : dir path.gzPathFor with
      | none => rfl
      | some node =>
        cases node with
        | directory modified => exact absurd here (no_directory modified)
        | file content modified =>
          have time := fileTime_eq_some.mpr ⟨content, here⟩
          exact absurd sublist (wayFree.existing modified time).2
    exact ⟨absent, wayFree.made absent sublist⟩

/-- A visit changes an entry that is not its own only by compressing into it. -/
theorem visit_eq_or_compressed (sweep : Sweep) (path : EntryName) {other : EntryName} (different : other ≠ path) :
    (rotation.visit faults sweep path).dir other = sweep.dir other ∨
      other = path.gzPathFor ∧ rotation.action (faults path) sweep.dir path = some .compress ∧
        (sweep.dir other).all LogNode.isFile = true ∧ ∃ output,
          (rotation.visit faults sweep path).dir other = some (.file output (rotation.stamp other)) := by
  have moves := @visit_moves rotation faults sweep path
  by_cases archive : other = path.gzPathFor
  · subst archive
    generalize (rotation.visit faults sweep path).dir = next at moves ⊢
    cases moves with
    | passed => exact .inl rfl
    | removed => exact .inl (update_of_ne different ..)
    | compressed asked here leaves =>
      cases leaves with
      | untouched => exact .inl rfl
      | written output free => exact .inr ⟨rfl, asked, free, output, update_self ..⟩
      | replaced free => exact .inr ⟨rfl, asked, free, _, (update_of_ne different ..).trans (update_self ..)⟩
  · exact .inl (moves.eq_of_apart different fun _ same => archive same.symm)

theorem Underway.ahead_visit (underway : Underway rotation faults dir done (path :: todo) sweep)
    (walk : visited listing.entries = done ++ path :: todo)
    (way : ∀ path, Due rotation listing dir path → WayFree rotation listing dir path)
    {other : EntryName} (later : other ∈ todo) (different : other ≠ path) :
    AsBefore rotation dir (rotation.visit faults sweep path) other := by
  rcases visit_eq_or_compressed sweep path different with kept | ⟨rfl, asked, free, output, made⟩
  · rw [AsBefore, kept]
    exact underway.ahead other (List.mem_cons_of_mem path later)
  · obtain ⟨absent, young⟩ := (underway.archive_free walk way asked free).2 later
    exact .inr ⟨path.isGz_gzPathFor, absent, output, made, young⟩

theorem Underway.still_visit (underway : Underway rotation faults dir done (path :: todo) sweep)
    (walk : visited listing.entries = done ++ path :: todo)
    (way : ∀ path, Due rotation listing dir path → WayFree rotation listing dir path)
    {other : EntryName} {node : LogNode} (here : dir other = some node) (untouchable : ¬ MayTouch rotation dir other) :
    (rotation.visit faults sweep path).dir other = some node := by
  have stays := underway.still other node here untouchable
  by_cases same : other = path
  · subst same
    -- as it was, it is not old enough for anything to be asked
    have unasked : rotation.action (faults other) sweep.dir other = none := by
      rw [Option.eq_none_iff_forall_ne_some]
      exact fun action asked => untouchable (mayTouch_of_action (stays.trans here.symm) asked)
    rw [Rotation.visit, unasked]
    exact stays
  · rcases visit_eq_or_compressed sweep path same with kept | ⟨rfl, asked, free, -⟩
    · exact kept.trans stays
    · exact absurd ((underway.archive_free walk way asked free).1 node here) untouchable

/-- The visit of a plain file. -/
theorem Underway.plain_own (underway : Underway rotation faults dir done (path :: todo) sweep) {content : List UInt8}
    {modified : Int} (plain : path.isGz = false) (here : dir path = some (.file content modified)) :
    (rotation.visit faults sweep path).dir path = dir path ∨
      rotation.action (faults path) sweep.dir path = some .compress ∧
        (sweep.dir path.gzPathFor).all LogNode.isFile = true ∧ (rotation.visit faults sweep path).dir path.gzPathFor =
          some (.file (rotation.gzip.encode content) (rotation.stamp path.gzPathFor)) := by
  have same := (underway.ahead path List.mem_cons_self).of_plain plain
  have moves := @visit_moves rotation faults sweep path
  have other : path.gzPathFor ≠ path := EntryName.gzPathFor_ne_of_plain plain path
  generalize (rotation.visit faults sweep path).dir = next at moves ⊢
  cases moves with
  | passed => exact .inl same
  | removed asked =>
    obtain ⟨-, -, -, -, -, ⟨gz, -⟩ | ⟨-, wrong, -⟩⟩ := action_eq_some.mp asked
    · cases plain.symm.trans gz
    · cases wrong
  | compressed asked there leaves =>
    rw [same, here, Option.some.injEq, LogNode.file.injEq] at there
    obtain ⟨rfl, rfl⟩ := there
    cases leaves with
    | untouched => exact .inl same
    -- an archive was begun or finished, but the file is still there
    | written output free => exact .inl ((update_of_ne other.symm ..).trans same)
    | replaced free => exact .inr ⟨asked, free, (update_of_ne other ..).trans (update_self ..)⟩

/-- A file that has been replaced stays archived: its archive is not visited any more, or is young. -/
theorem Underway.plain_visit (underway : Underway rotation faults dir done (path :: todo) sweep)
    (walk : visited listing.entries = done ++ path :: todo)
    (way : ∀ path, Due rotation listing dir path → WayFree rotation listing dir path)
    {other : EntryName} {content : List UInt8} {modified : Int}
    (plain : other.isGz = false) (here : dir other = some (.file content modified)) :
    (rotation.visit faults sweep path).dir other = dir other ∨ other ∈ done ++ [path] ∧
      (rotation.visit faults sweep path).dir other.gzPathFor =
        some (.file (rotation.gzip.encode content) (rotation.stamp other.gzPathFor)) ∧
      (other.gzPathFor ∈ todo → olderThan (rotation.stamp other.gzPathFor) rotation.now rotation.retention = false) := by
  by_cases own : other = path
  · subst own
    rcases underway.plain_own plain here with kept | ⟨asked, free, replaced⟩
    · exact .inl kept
    · exact .inr ⟨by simp, replaced, fun later => ((underway.archive_free walk way asked free).2 later).2⟩
  · rcases underway.plain other content modified plain here with kept | ⟨visited, archived, young⟩
    · left
      rw [(visit_moves sweep path).eq_of_apart own fun _ => EntryName.gzPathFor_ne_of_plain plain path, kept]
    · right
      refine ⟨List.mem_append_left _ visited, ?_, fun later => young (List.mem_cons_of_mem path later)⟩
      by_cases archive : other.gzPathFor = path
      · -- the archive itself is visited, and found young
        subst archive
        rw [Rotation.visit, action_of_young other.isGz_gzPathFor archived (young List.mem_cons_self)]
        exact archived
      · have apart (_ : path.isGz = false) : path.gzPathFor ≠ other.gzPathFor :=
          fun same => own (EntryName.gzPathFor_injective same).symm
        rw [(visit_moves sweep path).eq_of_apart archive apart]
        exact archived

theorem Underway.asked_visit (underway : Underway rotation faults dir done (path :: todo) sweep)
    (distinct : (done ++ path :: todo).Nodup) (other : EntryName) :
    (rotation.visit faults sweep path).asked other =
      if other ∈ done ++ [path] then (rotation.action (faults other) dir other).toList else [] := by
  rw [visit_asked]
  by_cases own : other = path
  · subst own
    -- no entry is visited twice
    have fresh : other ∉ done := fun earlier =>
      (List.nodup_append.mp distinct).2.2 other earlier other List.mem_cons_self rfl
    rw [if_pos rfl, underway.asked other, if_neg fresh, (underway.ahead other List.mem_cons_self).action]
    simp
  · rw [if_neg own, underway.asked other]
    simp [own]

theorem Underway.visit (underway : Underway rotation faults dir done (path :: todo) sweep)
    (walk : visited listing.entries = done ++ path :: todo)
    (way : ∀ path, Due rotation listing dir path → WayFree rotation listing dir path)
    (distinct : (done ++ path :: todo).Nodup) :
    Underway rotation faults dir (done ++ [path]) todo (rotation.visit faults sweep path) := by
  constructor
  · intro other later
    have different : other ≠ path := by
      rintro rfl
      simp [List.nodup_append, later] at distinct
    exact underway.ahead_visit walk way later different
  · exact underway.asked_visit distinct
  · exact fun other content modified plain here => underway.plain_visit walk way plain here
  · exact fun other node here untouchable => underway.still_visit walk way here untouchable

/-- The rest of the walk. -/
theorem Underway.foldl (way : ∀ path, Due rotation listing dir path → WayFree rotation listing dir path)
    (underway : Underway rotation faults dir done todo sweep) (walk : visited listing.entries = done ++ todo) :
    Underway rotation faults dir (done ++ todo) [] (todo.foldl (rotation.visit faults) sweep) := by
  induction todo generalizing done sweep with
  | nil => simpa using underway
  | cons path rest ih =>
    have distinct : (done ++ path :: rest).Nodup := walk ▸ listing.distinct
    have next := ih (underway.visit walk way distinct) (by simpa using walk)
    simpa using next

/-- The whole of it. -/
theorem underway_runOnce (way : ∀ path, Due rotation listing dir path → WayFree rotation listing dir path) :
    Underway rotation faults dir (visited listing.entries) [] (rotation.runOnce faults listing.entries dir) := by
  -- before the first visit nothing has changed
  have begun : Underway rotation faults dir [] (visited listing.entries) ⟨dir, fun _ => []⟩ := by
    constructor
    · exact fun _ _ => .inl rfl
    · exact fun _ => (if_neg List.not_mem_nil).symm
    · exact fun _ _ _ _ _ => .inl rfl
    · exact fun _ _ here _ => here
  rw [runOnce_eq_foldl]
  exact begun.foldl way rfl

theorem rotatesSafely_of_wayFree (way : ∀ path, Due rotation listing dir path → WayFree rotation listing dir path) :
    RotatesSafely rotation listing dir := by
  have whole (contents : EntryName → List UInt8) (faults : EntryName → EntryFaults) :
      Underway rotation faults (withContents dir contents) (visited listing.entries) []
        (rotation.runOnce faults listing.entries (withContents dir contents)) :=
    underway_runOnce fun path due => wayFree_withContents.mpr (way path (due_withContents.mp due))
  constructor
  · intro contents faults
    have underway := whole contents faults
    constructor
    · intro name content modified plain here
      rcases underway.plain name content modified plain here with kept | ⟨-, archived, -⟩
      · exact .inl (kept.trans here)
      · exact .inr ⟨_, _, _, name.isGz_gzPathFor, archived, rotation.gzip.complete content⟩
    · intro name bytes modified content gz here young decodes
      -- an archive that is not old stays as it is
      have untouchable : ¬ MayTouch rotation (withContents dir contents) name := by
        rintro ⟨time, file, old⟩
        obtain ⟨other, there⟩ := fileTime_eq_some.mp file
        rw [here, Option.some.injEq, LogNode.file.injEq] at there
        rw [Rotation.threshold, gz, if_pos rfl, ← there.2, young] at old
        cases old
      exact ⟨name, bytes, modified, gz, underway.still name _ here untouchable, decodes⟩
    · intro name node here changed
      by_contra untouchable
      exact changed (underway.still name node here untouchable)
  · intro contents first second failing same other different
    rw [(whole contents first).asked other, (whole contents second).asked other, same other different]

end AppSalmon.LogRotation
