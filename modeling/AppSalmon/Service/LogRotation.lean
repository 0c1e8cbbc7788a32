import AppSalmon.Adapters.TokioFilesystem
import Mathlib.Data.List.Nodup

/-! One sweep of the log directory, and what it may lose.

The sweep changes the directory that it walks. A file that is compressed takes
the place of whatever archive has its name, and that archive may come later in
the walk.
-/

set_option autoImplicit false

namespace AppSalmon.LogRotation

open Function (update update_apply update_of_ne update_self)

/-! ## The sweep -/

/-- At an earlier time than `now` by the threshold, and not later than `now`. -/
def olderThan (modified now : Int) (threshold : Nat) : Bool := modified ≤ now ∧ (threshold : Int) ≤ now - modified

inductive Action where
  | remove | compress
  deriving DecidableEq

structure EntryFaults where
  isFile : Option String := none
  modified : Option String := none
  removeFile : Option String := none
  compress : Option CompressionStop := none

/-- An entry that is gone has no file type any more, and no time. -/
def isFile (faults : EntryFaults) (dir : LogDir) (path : EntryName) : Except String Bool :=
  match faults.isFile, dir path with
  | some error, _ => .error error
  | none, none => .error "No such file or directory"
  | none, some node => .ok node.isFile

def modified (faults : EntryFaults) (dir : LogDir) (path : EntryName) : Except String Int :=
  match faults.modified, dir path with
  | some error, _ => .error error
  | none, none => .error "No such file or directory"
  | none, some node => .ok node.modified

/-- What stays the same from one entry to the next. -/
structure Rotation where
  gzip : Gzip
  now : Int
  compressAfter : Nat
  retention : Nat
  /-- The time that an archive gets when the sweep writes it. -/
  stamp : EntryName → Int

structure Sweep where
  dir : LogDir
  asked : EntryName → List Action

namespace Rotation

variable (rotation : Rotation)

def action (faults : EntryFaults) (dir : LogDir) (path : EntryName) : Option Action :=
  match isFile faults dir path with
  | .error _ | .ok false => none
  | .ok true =>
    match modified faults dir path with
    | .error _ => none
    | .ok modified =>
      if path.isGz then
        -- an archive goes by the retention, any other file by the age to compress it at
        if olderThan modified rotation.now rotation.retention then some .remove else none
      else if olderThan modified rotation.now rotation.compressAfter then some .compress
      else none

/-- An error of either call is only logged. -/
def carryOut (faults : EntryFaults) (dir : LogDir) (path : EntryName) : Action → LogDir
  | .remove => (removeFile faults.removeFile dir path).2
  | .compress => (compressFileBlocking rotation.gzip (rotation.stamp path.gzPathFor) faults.compress dir path).2

variable (faults : EntryName → EntryFaults)

def visit (sweep : Sweep) (path : EntryName) : Sweep :=
  match rotation.action (faults path) sweep.dir path with
  | none => sweep
  | some action =>
    ⟨rotation.carryOut (faults path) sweep.dir path action, update sweep.asked path (sweep.asked path ++ [action])⟩

/-- The loop ends with the stream, or with its first error. -/
def walk (sweep : Sweep) : List (Except String EntryName) → Sweep
  -- an entry that cannot be read ends the stream for this sweep
  | [] | .error _ :: _ => sweep
  | .ok path :: rest => walk (rotation.visit faults sweep path) rest

def runOnce (listing : Except String (List (Except String EntryName))) (dir : LogDir) : Sweep :=
  match listing with
  | .error _ => ⟨dir, fun _ => []⟩
  | .ok entries => rotation.walk faults ⟨dir, fun _ => []⟩ entries

end Rotation

def visited : Except String (List (Except String EntryName)) → List EntryName
  | .error _ => []
  | .ok entries => (entries.takeWhile Except.isOk).filterMap Except.toOption

/-- A stream of directory entries, which names none of them twice. -/
structure Listing where
  entries : Except String (List (Except String EntryName))
  distinct : (visited entries).Nodup

variable {rotation : Rotation} {faults : EntryName → EntryFaults}

theorem walk_eq_foldl (sweep : Sweep) (entries : List (Except String EntryName)) :
    rotation.walk faults sweep entries = (visited (.ok entries)).foldl (rotation.visit faults) sweep := by
  induction entries generalizing sweep with
  | nil => rfl
  | cons entry rest ih =>
    cases entry with
    | error why => rfl
    | ok path => exact ih _

theorem runOnce_eq_foldl (entries : Except String (List (Except String EntryName))) (dir : LogDir) :
    rotation.runOnce faults entries dir = (visited entries).foldl (rotation.visit faults) ⟨dir, fun _ => []⟩ := by
  cases entries with
  | error why => rfl
  | ok entries => exact walk_eq_foldl _ entries

/-! ## One entry -/

section
variable {faults : EntryFaults} {dir : LogDir} {path : EntryName} {action : Action}

/-- Something is asked for files only, by the age of each. -/
theorem action_eq_some : rotation.action faults dir path = some action ↔ faults.isFile = none ∧ faults.modified = none ∧
    ∃ content modified, dir path = some (.file content modified) ∧
      (path.isGz = true ∧ action = .remove ∧ olderThan modified rotation.now rotation.retention = true ∨
        path.isGz = false ∧ action = .compress ∧ olderThan modified rotation.now rotation.compressAfter = true) := by
  unfold Rotation.action isFile modified
  cases faults.isFile with
  | some error => simp
  | none =>
    cases here : dir path with
    | none => simp
    | some node =>
      cases node with
      | directory time => simp [LogNode.isFile]
      | file content time =>
        cases faults.modified with
        | some error => simp [LogNode.isFile]
        | none =>
          cases path.isGz with
          | true =>
            cases old : olderThan time rotation.now rotation.retention <;> cases action <;>
              simp [LogNode.isFile, LogNode.modified, old]
          | false =>
            cases old : olderThan time rotation.now rotation.compressAfter <;> cases action <;>
              simp [LogNode.isFile, LogNode.modified, old]

theorem action_congr {other : LogDir} (same : dir path = other path) :
    rotation.action faults dir path = rotation.action faults other path := by
  unfold Rotation.action isFile modified
  rw [same]

end

inductive Moves (rotation : Rotation) (faults : EntryName → EntryFaults) (sweep : Sweep) (path : EntryName) : LogDir → Prop where
  | passed : Moves rotation faults sweep path sweep.dir
  | removed (asked : rotation.action (faults path) sweep.dir path = some .remove) :
      Moves rotation faults sweep path (update sweep.dir path none)
  | compressed {content : List UInt8} {modified : Int} {next : LogDir}
      (asked : rotation.action (faults path) sweep.dir path = some .compress)
      (here : sweep.dir path = some (.file content modified))
      (leaves : CompressionLeaves rotation.gzip (rotation.stamp path.gzPathFor) sweep.dir path content next) :
      Moves rotation faults sweep path next

theorem visit_moves (sweep : Sweep) (path : EntryName) :
    Moves rotation faults sweep path (rotation.visit faults sweep path).dir := by
  unfold Rotation.visit
  cases asked : rotation.action (faults path) sweep.dir path with
  | none => exact .passed
  | some action =>
    cases action with
    | remove =>
      obtain ⟨-, -, content, modified, here, -⟩ := action_eq_some.mp asked
      simp only [Rotation.carryOut]
      cases (faults path).removeFile with
      | some error => exact .passed
      | none =>
        rw [removeFile_file here]
        exact .removed asked
    | compress =>
      obtain ⟨-, -, content, modified, here, -⟩ := action_eq_some.mp asked
      exact .compressed asked here (compress_leaves here)

theorem visit_asked (sweep : Sweep) (path other : EntryName) :
    (rotation.visit faults sweep path).asked other =
      if other = path then sweep.asked path ++ (rotation.action (faults path) sweep.dir path).toList
      else sweep.asked other := by
  unfold Rotation.visit
  cases asked : rotation.action (faults path) sweep.dir path with
  | none =>
    by_cases same : other = path
    · simp [same]
    · rw [if_neg same]
  | some action =>
    dsimp only
    rw [update_apply]
    rfl

namespace Moves

variable {sweep : Sweep} {path other : EntryName} {next : LogDir}

/-- An entry is left alone by the visits of all others, but an archive by that of its own file. -/
theorem eq_of_apart (moves : Moves rotation faults sweep path next) (different : other ≠ path)
    (apart : path.isGz = false → path.gzPathFor ≠ other) : next other = sweep.dir other := by
  cases moves with
  | passed => rfl
  | removed => exact update_of_ne different ..
  | compressed asked here leaves =>
    -- only a file that is not itself an archive is compressed, and its archive is some other entry
    obtain ⟨-, -, -, -, -, ⟨-, wrong, -⟩ | ⟨plain, -, -⟩⟩ := action_eq_some.mp asked
    · cases wrong
    · have other_archive := (apart plain).symm
      cases leaves with
      | untouched => rfl
      | written output free => exact update_of_ne other_archive ..
      | replaced free => exact (update_of_ne different ..).trans (update_of_ne other_archive ..)

theorem own (moves : Moves rotation faults sweep path next) : next path = sweep.dir path ∨ next path = none := by
  have other_archive : path ≠ path.gzPathFor := by
    intro same
    have longer := congrArg (fun name : EntryName => name.chars.length) same
    simp [EntryName.gzPathFor] at longer
  cases moves with
  | passed => exact .inl rfl
  | removed => exact .inr (update_self ..)
  | compressed asked here leaves =>
    cases leaves with
    | untouched => exact .inl rfl
    | written output free => exact .inl (update_of_ne other_archive ..)
    | replaced free => exact .inr (update_self ..)

end Moves

/-! ## Many entries -/

/-- An entry that is not visited stays as it is, unless its own file is. -/
theorem foldl_other {other : EntryName} (paths : List EntryName) (sweep : Sweep) (absent : other ∉ paths)
    (apart : ∀ path ∈ paths, path.isGz = false → path.gzPathFor ≠ other) :
    (paths.foldl (rotation.visit faults) sweep).dir other = sweep.dir other := by
  induction paths generalizing sweep with
  | nil => rfl
  | cons path rest ih =>
    rw [List.mem_cons, not_or] at absent
    rw [List.forall_mem_cons] at apart
    exact (ih _ absent.2 apart.2).trans ((visit_moves sweep path).eq_of_apart absent.1 apart.1)

/-- Visits that do not write an entry take it away at most. -/
theorem foldl_shrinks {other : EntryName} (paths : List EntryName) (sweep : Sweep)
    (apart : ∀ path ∈ paths, path.isGz = false → path.gzPathFor ≠ other) :
    (paths.foldl (rotation.visit faults) sweep).dir other = sweep.dir other ∨
      (paths.foldl (rotation.visit faults) sweep).dir other = none := by
  induction paths generalizing sweep with
  | nil => exact .inl rfl
  | cons path rest ih =>
    rw [List.forall_mem_cons] at apart
    have first : (rotation.visit faults sweep path).dir other = sweep.dir other ∨
        (rotation.visit faults sweep path).dir other = none := by
      -- its own visit may take it away; any other one leaves it alone
      by_cases same : other = path
      · subst same
        exact (visit_moves sweep other).own
      · exact .inl ((visit_moves sweep path).eq_of_apart same apart.1)
    rcases ih (rotation.visit faults sweep path) apart.2 with kept | gone
    · rw [List.foldl_cons, kept]
      exact first
    · exact .inr gone

theorem foldl_asked {other : EntryName} (paths : List EntryName) (sweep : Sweep) (absent : other ∉ paths) :
    (paths.foldl (rotation.visit faults) sweep).asked other = sweep.asked other := by
  induction paths generalizing sweep with
  | nil => rfl
  | cons path rest ih =>
    rw [List.mem_cons, not_or] at absent
    rw [List.foldl_cons, ih _ absent.2, visit_asked, if_neg absent.1]

end AppSalmon.LogRotation
