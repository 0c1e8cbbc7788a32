import AppSalmon.Service.LogKeeping

/-! Exactly when a sweep of the log directory keeps all that it should.

A file whose archive is in its way is told by three sweeps: by one that writes
over the archive, by one that takes away what it has made, and by two that
differ in one call.
-/

set_option autoImplicit false

namespace AppSalmon.LogRotation

open Function (update update_of_ne update_self)

variable {rotation : Rotation} {listing : Listing} {dir : LogDir} {faults : EntryName → EntryFaults} {sweep : Sweep}
  {path : EntryName}

/-! ## A sweep with something in the way -/

/-- No call fails. -/
def calm : EntryName → EntryFaults := fun _ => {}

/-- The file cannot be opened. -/
def stopped (path : EntryName) : EntryName → EntryFaults := fun other =>
  if other = path then { compress := some ⟨.opening, .io "Permission denied"⟩ } else {}

/-- Once a file that is due is visited and nothing fails, only its archive is there. -/
theorem visit_calm {content : List UInt8} {modified : Int} (plain : path.isGz = false)
    (here : sweep.dir path = some (.file content modified))
    (old : olderThan modified rotation.now rotation.compressAfter = true)
    (free : (sweep.dir path.gzPathFor).all LogNode.isFile = true) :
    (rotation.visit calm sweep path).dir path = none ∧ (rotation.visit calm sweep path).dir path.gzPathFor =
      some (.file (rotation.gzip.encode content) (rotation.stamp path.gzPathFor)) := by
  have asked : rotation.action (calm path) sweep.dir path = some .compress :=
    action_eq_some.mpr ⟨rfl, rfl, content, modified, here, .inr ⟨plain, rfl, old⟩⟩
  have other : path.gzPathFor ≠ path := EntryName.gzPathFor_ne_of_plain plain path
  rw [Rotation.visit, asked]
  simp only [Rotation.carryOut, calm, compress_replaces here free]
  exact ⟨update_self .., (update_of_ne other ..).trans (update_self ..)⟩

section
variable {before after : List EntryName} {content : List UInt8} {modified : Int}

/-- Only its own visit changes a plain file. -/
theorem foldl_plain (paths : List EntryName) (sweep : Sweep) (plain : path.isGz = false) (absent : path ∉ paths) :
    (paths.foldl (rotation.visit faults) sweep).dir path = sweep.dir path :=
  foldl_other paths sweep absent fun stem _ _ => EntryName.gzPathFor_ne_of_plain plain stem

/-- Without the visit of its file, an archive is not written. -/
theorem apart_of_not_mem {paths : List EntryName} (absent : path ∉ paths) :
    ∀ stem ∈ paths, stem.isGz = false → stem.gzPathFor ≠ path.gzPathFor := by
  intro stem member _ same
  exact absent (EntryName.gzPathFor_injective same ▸ member)

theorem not_mem_of_walk (walk : visited listing.entries = before ++ path :: after) : path ∉ before ∧ path ∉ after := by
  have distinct := walk ▸ listing.distinct
  constructor
  · exact fun earlier => (List.nodup_append.mp distinct).2.2 path earlier path List.mem_cons_self rfl
  · exact (List.nodup_cons.mp (List.nodup_append.mp distinct).2.1).1

/-- Each entry is asked for at its own visit. -/
theorem asked_runOnce (walk : visited listing.entries = before ++ path :: after) :
    (rotation.runOnce faults listing.entries dir).asked path =
      (rotation.action (faults path) (before.foldl (rotation.visit faults) ⟨dir, fun _ => []⟩).dir path).toList := by
  obtain ⟨fresh, gone⟩ := not_mem_of_walk walk
  rw [runOnce_eq_foldl, walk, List.foldl_append, List.foldl_cons, foldl_asked after _ gone, visit_asked, if_pos rfl,
    foldl_asked before _ fresh, List.nil_append]

theorem calm_visited (walk : visited listing.entries = before ++ path :: after) (plain : path.isGz = false)
    (here : dir path = some (.file content modified))
    (old : olderThan modified rotation.now rotation.compressAfter = true)
    (free : (dir path.gzPathFor).all LogNode.isFile = true) :
    let sweep := rotation.visit calm (before.foldl (rotation.visit calm) ⟨dir, fun _ => []⟩) path
    sweep.dir path = none ∧ sweep.dir path.gzPathFor =
      some (.file (rotation.gzip.encode content) (rotation.stamp path.gzPathFor)) := by
  have absent := (not_mem_of_walk walk).1
  apply visit_calm plain _ old
  · rcases foldl_shrinks before ⟨dir, fun _ => []⟩ (apart_of_not_mem absent) with kept | gone
    · rw [kept]
      exact free
    · rw [gone]
      rfl
  · rw [foldl_plain before _ plain absent]
    exact here

/-- Nothing puts the file back, and its archive is not written again. -/
theorem calm_final (walk : visited listing.entries = before ++ path :: after) (plain : path.isGz = false)
    (here : dir path = some (.file content modified))
    (old : olderThan modified rotation.now rotation.compressAfter = true)
    (free : (dir path.gzPathFor).all LogNode.isFile = true) :
    (rotation.runOnce calm listing.entries dir).dir path = none ∧
      ((rotation.runOnce calm listing.entries dir).dir path.gzPathFor =
          some (.file (rotation.gzip.encode content) (rotation.stamp path.gzPathFor)) ∨
        (rotation.runOnce calm listing.entries dir).dir path.gzPathFor = none) := by
  obtain ⟨replaced, archived⟩ := calm_visited walk plain here old free
  have absent := (not_mem_of_walk walk).2
  rw [runOnce_eq_foldl, walk, List.foldl_append, List.foldl_cons]
  constructor
  · rw [foldl_plain after _ plain absent]
    exact replaced
  · rcases foldl_shrinks after _ (apart_of_not_mem absent) with kept | gone
    · exact .inl (kept.trans archived)
    · exact .inr gone

/-- The walk comes to the file, and later to its archive. -/
structure Meets (listing : Listing) (path : EntryName) (before between after : List EntryName) : Prop where
  walk : visited listing.entries = before ++ path :: (between ++ path.gzPathFor :: after)
  fileBetween : path ∉ between
  fileAfter : path ∉ after
  archiveBefore : path.gzPathFor ∉ before
  archiveBetween : path.gzPathFor ∉ between

theorem exists_meets (later : [path, path.gzPathFor].Sublist (visited listing.entries)) :
    ∃ before between after, Meets listing path before between after := by
  -- the file is in the front part, its archive in the back part
  obtain ⟨first, second, walk, head, tail⟩ := List.cons_sublist_iff.mp later
  obtain ⟨before, front, rfl⟩ := List.append_of_mem head
  obtain ⟨back, after, rfl⟩ := List.append_of_mem (List.singleton_sublist.mp tail)
  have joined : visited listing.entries = before ++ path :: ((front ++ back) ++ path.gzPathFor :: after) := by simp [walk]
  have file := not_mem_of_walk joined
  have shifted : visited listing.entries = (before ++ path :: (front ++ back)) ++ path.gzPathFor :: after := by simp [walk]
  have archive := not_mem_of_walk shifted
  simp only [List.mem_append, List.mem_cons, not_or] at file archive
  refine ⟨before, front ++ back, after, joined, ?_, file.2.2.2, archive.1.1, ?_⟩
  · simpa using file.2.1
  · simpa using archive.1.2.2

/-- When the walk comes to the archive, it is that of the file. -/
theorem Meets.archived {between : List EntryName} (meets : Meets listing path before between after) (plain : path.isGz = false)
    (here : dir path = some (.file content modified))
    (old : olderThan modified rotation.now rotation.compressAfter = true)
    (free : (dir path.gzPathFor).all LogNode.isFile = true) :
    ((before ++ path :: between).foldl (rotation.visit calm) ⟨dir, fun _ => []⟩).dir path.gzPathFor =
      some (.file (rotation.gzip.encode content) (rotation.stamp path.gzPathFor)) := by
  rw [List.foldl_append, List.foldl_cons, foldl_other between _ meets.archiveBetween (apart_of_not_mem meets.fileBetween)]
  exact (calm_visited meets.walk plain here old free).2

/-- The archive goes in the same sweep, if it is old by then. -/
theorem Meets.loses {between : List EntryName} (meets : Meets listing path before between after) (plain : path.isGz = false)
    (here : dir path = some (.file content modified))
    (old : olderThan modified rotation.now rotation.compressAfter = true)
    (free : (dir path.gzPathFor).all LogNode.isFile = true)
    (stamped : olderThan (rotation.stamp path.gzPathFor) rotation.now rotation.retention = true) :
    (rotation.runOnce calm listing.entries dir).dir path.gzPathFor = none := by
  have archived := meets.archived plain here old free
  have walk : visited listing.entries = (before ++ path :: between) ++ path.gzPathFor :: after := by simp [meets.walk]
  rw [runOnce_eq_foldl, walk, List.foldl_append, List.foldl_cons]
  generalize (before ++ path :: between).foldl (rotation.visit calm) ⟨dir, fun _ => []⟩ = sweep at archived ⊢
  have asked : rotation.action (calm path.gzPathFor) sweep.dir path.gzPathFor = some .remove :=
    action_eq_some.mpr ⟨rfl, rfl, _, _, archived, .inl ⟨path.isGz_gzPathFor, rfl, stamped⟩⟩
  have removed : (rotation.visit calm sweep path.gzPathFor).dir path.gzPathFor = none := by
    rw [Rotation.visit, asked]
    simp only [Rotation.carryOut, calm, removeFile_file archived]
    exact update_self ..
  rcases foldl_shrinks after _ (apart_of_not_mem meets.fileAfter) with kept | gone
  · exact kept.trans removed
  · exact gone

/-- A file that cannot be opened leaves its archive as it was. -/
theorem Meets.kept {between : List EntryName} (meets : Meets listing path before between after) (plain : path.isGz = false) :
    ((before ++ path :: between).foldl (rotation.visit (stopped path)) ⟨dir, fun _ => []⟩).dir path.gzPathFor =
      dir path.gzPathFor := by
  -- the compression that cannot open its file has not come to the archive
  have unchanged (sweep : Sweep) : (rotation.visit (stopped path) sweep path).dir = sweep.dir := by
    unfold Rotation.visit
    cases asked : rotation.action (stopped path path) sweep.dir path with
    | none => rfl
    | some action =>
      obtain ⟨-, -, -, -, -, ⟨gz, -⟩ | ⟨-, rfl, -⟩⟩ := action_eq_some.mp asked
      · cases plain.symm.trans gz
      · simp only [Rotation.carryOut, stopped, if_true, compress_of_opening]
  have absent := (not_mem_of_walk meets.walk).1
  rw [List.foldl_append, List.foldl_cons, foldl_other between _ meets.archiveBetween (apart_of_not_mem meets.fileBetween),
    unchanged, foldl_other before _ meets.archiveBefore (apart_of_not_mem absent)]

end

/-! ## Contents that tell one file from all others -/

def marked (gzip : Gzip) (path name : EntryName) : List UInt8 :=
  if name = path then [1] else if name.isGz then gzip.encode [0] else [0]

/-- Away from the file and its archive there is nothing of the mark. -/
structure Unmarked (gzip : Gzip) (path : EntryName) (dir : LogDir) : Prop where
  plain : ∀ name content modified, name.isGz = false → name ≠ path → dir name = some (.file content modified) → content = [0]
  archives : ∀ name content modified, name.isGz = true → name ≠ path.gzPathFor → dir name = some (.file content modified) →
    content = gzip.encode [0]

theorem unmarked_withContents (gzip : Gzip) (plain : path.isGz = false) (dir : LogDir) :
    Unmarked gzip path (withContents dir (marked gzip path)) := by
  have filled {name : EntryName} {content : List UInt8} {modified : Int}
      (here : withContents dir (marked gzip path) name = some (.file content modified)) : content = marked gzip path name := by
    have file := fileTime_eq_some.mpr ⟨content, here⟩
    rw [fileTime_withContents] at file
    rw [withContents_file file, Option.some.injEq, LogNode.file.injEq] at here
    exact here.1.symm
  constructor
  · intro name content modified unpacked different here
    rw [filled here, marked, if_neg different, unpacked]
    rfl
  · intro name content modified gz _ here
    have different : name ≠ path := by
      rintro rfl
      cases gz.symm.trans plain
    rw [filled here, marked, if_neg different, gz]
    rfl

theorem Unmarked.visit (unmarked : Unmarked rotation.gzip path sweep.dir) (current : EntryName) :
    Unmarked rotation.gzip path (rotation.visit calm sweep current).dir := by
  have taken : Unmarked rotation.gzip path (update sweep.dir current none) := by
    constructor
    · intro name content modified unpacked different here
      rw [Function.update_apply, Option.ite_none_left_eq_some] at here
      exact unmarked.plain name content modified unpacked different here.2
    · intro name content modified gz different here
      rw [Function.update_apply, Option.ite_none_left_eq_some] at here
      exact unmarked.archives name content modified gz different here.2
  unfold Rotation.visit
  cases asked : rotation.action (calm current) sweep.dir current with
  | none => exact unmarked
  | some action =>
    obtain ⟨-, -, content, modified, here, ⟨-, rfl, -⟩ | ⟨plain, rfl, -⟩⟩ := action_eq_some.mp asked
    · simp only [Rotation.carryOut, calm, removeFile_file here]
      exact taken
    · cases free : (sweep.dir current.gzPathFor).all LogNode.isFile with
      | false =>
        simp only [Rotation.carryOut, calm, compress_of_directory free]
        exact unmarked
      | true =>
        simp only [Rotation.carryOut, calm, compress_replaces here free]
        constructor
        · intro name content modified unpacked different there
          rw [Function.update_apply, Option.ite_none_left_eq_some, LogDir.write,
            update_of_ne (EntryName.gzPathFor_ne_of_plain unpacked current).symm] at there
          exact unmarked.plain name content modified unpacked different there.2
        · intro name bytes time gz different there
          rw [Function.update_apply, Option.ite_none_left_eq_some, LogDir.write, Function.update_apply] at there
          -- the archive that was just made holds its file's content, and that file is not the marked one
          by_cases archive : name = current.gzPathFor
          · have other : current ≠ path := fun same => different (same ▸ archive)
            rw [if_pos archive, Option.some.injEq, LogNode.file.injEq] at there
            rw [← there.2.1, unmarked.plain current content modified plain other here]
          · rw [if_neg archive] at there
            exact unmarked.archives name bytes time gz different there.2

theorem Unmarked.runOnce (unmarked : Unmarked rotation.gzip path dir) :
    Unmarked rotation.gzip path (rotation.runOnce calm listing.entries dir).dir := by
  have foldl (paths : List EntryName) (sweep : Sweep) (unmarked : Unmarked rotation.gzip path sweep.dir) :
      Unmarked rotation.gzip path (paths.foldl (rotation.visit calm) sweep).dir := by
    induction paths generalizing sweep with
    | nil => exact unmarked
    | cons current rest ih => exact ih _ (unmarked.visit current)
  rw [runOnce_eq_foldl]
  exact foldl _ ⟨dir, fun _ => []⟩ unmarked

/-- The mark is gone with its file and its archive. -/
theorem Unmarked.not_archives (unmarked : Unmarked rotation.gzip path dir) (gone : dir path.gzPathFor = none) :
    ¬ Archives rotation.gzip dir [1] := by
  rintro ⟨name, bytes, modified, gz, here, decodes⟩
  have different : name ≠ path.gzPathFor := by
    rintro rfl
    rw [gone] at here
    cases here
  rw [unmarked.archives name bytes modified gz different here, rotation.gzip.complete] at decodes
  cases decodes

/-! ## What is in the way -/

/-- The archive that is made is not taken away by the same sweep. -/
theorem RotatesSafely.young_when_visited (safe : RotatesSafely rotation listing dir) (due : Due rotation listing dir path)
    (free : (withContents dir (marked rotation.gzip path) path.gzPathFor).all LogNode.isFile = true)
    (later : [path, path.gzPathFor].Sublist (visited listing.entries)) :
    olderThan (rotation.stamp path.gzPathFor) rotation.now rotation.retention = false := by
  obtain ⟨time, file, old⟩ := due.old
  have here : withContents dir (marked rotation.gzip path) path = some (.file [1] time) := by
    rw [withContents_file file, marked, if_pos rfl]
  obtain ⟨before, between, after, meets⟩ := exists_meets later
  rw [Bool.eq_false_iff]
  intro stamped
  -- otherwise the content would be neither in its file nor in any archive
  have gone := (calm_final meets.walk due.plain here old free).1
  have lost := meets.loses due.plain here old free stamped
  rcases (safe.keeps (marked rotation.gzip path) calm).plain path [1] time due.plain here with kept | archived
  · rw [gone] at kept
    cases kept
  · exact (unmarked_withContents rotation.gzip due.plain dir).runOnce.not_archives lost archived

/-- An archive that is not old is not written over. -/
theorem RotatesSafely.old_when_replaced (safe : RotatesSafely rotation listing dir) (due : Due rotation listing dir path)
    {archiveTime : Int} (archive : fileTime dir path.gzPathFor = some archiveTime) :
    olderThan archiveTime rotation.now rotation.retention = true := by
  obtain ⟨time, file, old⟩ := due.old
  have here : withContents dir (marked rotation.gzip path) path = some (.file [1] time) := by
    rw [withContents_file file, marked, if_pos rfl]
  have there : withContents dir (marked rotation.gzip path) path.gzPathFor =
      some (.file (rotation.gzip.encode [0]) archiveTime) := by
    rw [withContents_file archive, marked, if_neg (EntryName.gzPathFor_ne_of_plain due.plain path), path.isGz_gzPathFor]
    rfl
  obtain ⟨before, after, walk⟩ := List.append_of_mem due.visited
  -- a calm sweep writes the file's content there, or takes the entry away
  have changed : (rotation.runOnce calm listing.entries (withContents dir (marked rotation.gzip path))).dir path.gzPathFor ≠
      some (.file (rotation.gzip.encode [0]) archiveTime) := by
    rcases (calm_final walk due.plain here old (by rw [there]; rfl)).2 with written | gone
    · rw [written]
      intro same
      have contents := rotation.gzip.encode_injective (LogNode.file.inj (Option.some.inj same)).1
      cases contents
    · rw [gone]
      simp
  obtain ⟨touched, here, old⟩ := (safe.keeps (marked rotation.gzip path) calm).touched _ _ there changed
  rw [fileTime_withContents, archive] at here
  rw [Rotation.threshold, path.isGz_gzPathFor] at old
  cases here
  exact old

/-- An old archive is not still to be visited: whether it is removed would hang on the file before it. -/
theorem RotatesSafely.not_later (safe : RotatesSafely rotation listing dir) (due : Due rotation listing dir path)
    {archiveTime : Int} (archive : fileTime dir path.gzPathFor = some archiveTime) :
    ¬ [path, path.gzPathFor].Sublist (visited listing.entries) := by
  intro later
  obtain ⟨time, file, old⟩ := due.old
  have here : withContents dir (marked rotation.gzip path) path = some (.file [1] time) := by
    rw [withContents_file file, marked, if_pos rfl]
  have there : withContents dir (marked rotation.gzip path) path.gzPathFor =
      some (.file (marked rotation.gzip path path.gzPathFor) archiveTime) := withContents_file archive
  have free : (withContents dir (marked rotation.gzip path) path.gzPathFor).all LogNode.isFile = true := by
    rw [there]
    rfl
  have young := safe.young_when_visited due free later
  obtain ⟨before, between, after, meets⟩ := exists_meets later
  have walk : visited listing.entries = (before ++ path :: between) ++ path.gzPathFor :: after := by simp [meets.walk]
  have other := EntryName.gzPathFor_ne_of_plain due.plain path
  -- two sweeps that differ only in whether the file can be opened
  have agree (name : EntryName) (different : name ≠ path) : calm name = stopped path name := (if_neg different).symm
  have same := safe.independent (marked rotation.gzip path) calm (stopped path) path agree path.gzPathFor other
  rw [asked_runOnce walk, asked_runOnce walk] at same
  -- with the file closed, the walk finds the old archive and asks for its removal
  have removes : rotation.action (stopped path path.gzPathFor)
      ((before ++ path :: between).foldl (rotation.visit (stopped path))
        ⟨withContents dir (marked rotation.gzip path), fun _ => []⟩).dir path.gzPathFor = some .remove := by
    rw [← agree _ other]
    exact action_eq_some.mpr ⟨rfl, rfl, _, _, (meets.kept due.plain).trans there,
      .inl ⟨path.isGz_gzPathFor, rfl, safe.old_when_replaced due archive⟩⟩
  rw [removes] at same
  have asked := Option.toList_eq_singleton_iff.mp same
  obtain ⟨-, -, content, modified, written, ⟨-, -, stamped⟩ | ⟨-, wrong, -⟩⟩ := action_eq_some.mp asked
  -- with the file open, it finds the new one, which is young
  · rw [meets.archived due.plain here old free, Option.some.injEq, LogNode.file.injEq] at written
    rw [← written.2, young] at stamped
    cases stamped
  · cases wrong

/-- A sweep keeps what it should, whatever the files hold and whichever calls fail, exactly where no file that it is to
compress has an archive that is young or still to be visited, and no archive that it makes is old when it is visited. -/
theorem rotates_safely_iff (rotation : Rotation) (listing : Listing) (dir : LogDir) :
    RotatesSafely rotation listing dir ↔ ∀ path, Due rotation listing dir path → WayFree rotation listing dir path := by
  constructor
  · intro safe path due
    constructor
    · exact fun time archive => ⟨safe.old_when_replaced due archive, safe.not_later due archive⟩
    · intro absent later
      have free : (withContents dir (marked rotation.gzip path) path.gzPathFor).all LogNode.isFile = true := by
        rw [withContents_eq_none.mpr absent]
        rfl
      exact safe.young_when_visited due free later
  · exact rotatesSafely_of_wayFree

/-- Two bytes in front, and one at the end. -/
def framed : Gzip where
  encode content := 0x1f :: 0x8b :: (content ++ [0])
  decode
    | 0x1f :: 0x8b :: rest => if rest.getLast? = some 0 then some rest.dropLast else none
    | _ => none
  complete content := by simp

def log : EntryName := ⟨"app_salmon.log.2026-01-01".toList, by decide⟩

/-- Days are counted here: a log goes after one, an archive after fourteen. -/
def daily : Rotation := ⟨framed, 20, 1, 14, fun _ => 20⟩

/-- An old log, and an archive of its name that is two days old. -/
def collidingDir : LogDir := fun name =>
  if name = log then some (.file [1] 10) else if name = log.gzPathFor then some (.file (framed.encode [2]) 18) else none

def collidingListing : Listing := ⟨.ok [.ok log.gzPathFor, .ok log], by decide⟩

theorem collidingDir_rotated (name : EntryName) : (daily.runOnce calm collidingListing.entries collidingDir).dir name =
    if name = log.gzPathFor then some (.file (framed.encode [1]) 20) else none := by
  by_cases archive : name = log.gzPathFor
  · rw [if_pos archive, archive]
    decide
  · rw [if_neg archive]
    by_cases own : name = log
    · rw [own]
      decide
    · have walk : visited collidingListing.entries = [log.gzPathFor, log] := by decide
      rw [runOnce_eq_foldl, walk, foldl_other]
      · simp [collidingDir, own, archive]
      · simp [own, archive]
      · rintro path member plain same
        rcases List.mem_cons.mp member with rfl | member
        · cases plain
        · obtain rfl := List.mem_singleton.mp member
          exact archive same.symm

/-- The young archive is written over, and its content is nowhere any more. -/
theorem young_archive_lost :
    ¬ Archives framed (daily.runOnce calm collidingListing.entries collidingDir).dir [2] ∧
      ¬ Keeps daily collidingDir (daily.runOnce calm collidingListing.entries collidingDir).dir := by
  have lost : ¬ Archives framed (daily.runOnce calm collidingListing.entries collidingDir).dir [2] := by
    rintro ⟨name, bytes, modified, -, here, decodes⟩
    rw [collidingDir_rotated, Option.ite_none_right_eq_some, Option.some.injEq, LogNode.file.injEq] at here
    -- all that is left is the archive of the log, which says something else
    rw [← here.2.1] at decodes
    revert decodes
    decide
  refine ⟨lost, fun keeps => lost ?_⟩
  exact keeps.archives log.gzPathFor (framed.encode [2]) 18 [2] (by decide) (by decide) (by decide) (by decide)

end AppSalmon.LogRotation
