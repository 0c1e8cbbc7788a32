import Mathlib.Logic.Function.Basic

/-! The log directory, and how a file of it is compressed.

A directory maps the names that are there to files and directories. An archive
is written in place: it is truncated as soon as it is opened.
-/

set_option autoImplicit false

namespace AppSalmon

/-! ## Names -/

/-- An entry of a directory. -/
structure EntryName where
  chars : List Char
  nonempty : chars ≠ []
  deriving DecidableEq

namespace EntryName

/-- Before the last dot, and behind it. -/
def rsplitDot : List Char → Option (List Char × List Char)
  | [] => none
  | first :: rest =>
    match rsplitDot rest with
    | some (before, behind) => some (first :: before, behind)
    -- no dot behind this one, so it is the last if it is one
    | none => if first = '.' then some ([], rest) else none

/-- `Path::extension`, which no dot in front begins. -/
def extension (name : EntryName) : Option (List Char) :=
  match rsplitDot name.chars with
  | some (_ :: _, behind) => some behind
  | some ([], _) | none => none

def isGz (name : EntryName) : Bool := name.extension = some ['g', 'z']

def gzPathFor (name : EntryName) : EntryName := ⟨name.chars ++ ['.', 'g', 'z'], by simp⟩

theorem rsplitDot_append (before : List Char) : rsplitDot (before ++ ['.', 'g', 'z']) = some (before, ['g', 'z']) := by
  induction before with
  | nil => decide
  | cons first rest ih => rw [List.cons_append, rsplitDot, ih]

theorem isGz_gzPathFor (name : EntryName) : name.gzPathFor.isGz = true := by
  obtain ⟨chars, nonempty⟩ := name
  cases chars with
  | nil => exact absurd rfl nonempty
  | cons first rest =>
    unfold isGz extension gzPathFor
    rw [rsplitDot_append]
    rfl

theorem gzPathFor_injective : Function.Injective gzPathFor := by
  intro first second same
  obtain ⟨firstChars, firstNonempty⟩ := first
  obtain ⟨secondChars, secondNonempty⟩ := second
  simpa [gzPathFor] using same

theorem gzPathFor_ne_of_plain {name : EntryName} (plain : name.isGz = false) (stem : EntryName) : stem.gzPathFor ≠ name := by
  rintro rfl
  cases plain.symm.trans stem.isGz_gzPathFor

end EntryName

/-! ## What is there -/

inductive LogNode where
  | file (content : List UInt8) (modified : Int)
  | directory (modified : Int)
  deriving DecidableEq

def LogNode.isFile : LogNode → Bool
  | .file .. => true
  | .directory _ => false

def LogNode.modified : LogNode → Int
  | .file _ modified | .directory modified => modified

abbrev LogDir := EntryName → Option LogNode

/-- A compressor, whose output is read back once it is finished. -/
structure Gzip where
  encode : List UInt8 → List UInt8
  decode : List UInt8 → Option (List UInt8)
  complete : ∀ content, decode (encode content) = some content

theorem Gzip.encode_injective (gzip : Gzip) : Function.Injective gzip.encode := by
  intro first second same
  have decoded := gzip.complete first
  rw [same, gzip.complete] at decoded
  exact (Option.some.inj decoded).symm

/-! ## Compression -/

inductive CompressError where
  | io (source : String)
  | taskFailed (why : String)
  deriving DecidableEq

/-- The call at which a compression ends with an error, and what has been written by then. -/
inductive StopPoint where
  | opening
  | creating
  | copying (written : List UInt8)
  | finishing (written : List UInt8)
  | removing

structure CompressionStop where
  point : StopPoint
  error : CompressError

/-- The archive, truncated and written. Its time is that of the last write. -/
def LogDir.write (dir : LogDir) (gzPath : EntryName) (output : List UInt8) (stamp : Int) : LogDir :=
  Function.update dir gzPath (some (.file output stamp))

/-- Once both files are open. A directory can be opened, and is not read. -/
def copyAndRemove (gzip : Gzip) (stamp : Int) (stop : Option CompressionStop) (dir : LogDir) (path : EntryName) :
    LogNode → Except CompressError Unit × LogDir
  | .directory _ => (.error (.io "Is a directory"), dir.write path.gzPathFor [] stamp)
  | .file content _ =>
    match stop with
    | some ⟨.copying written, error⟩ | some ⟨.finishing written, error⟩ =>
      (.error error, dir.write path.gzPathFor written stamp)
    -- the archive is whole by now, and the file beside it
    | some ⟨.removing, error⟩ => (.error error, dir.write path.gzPathFor (gzip.encode content) stamp)
    | _ => (.ok (), Function.update (dir.write path.gzPathFor (gzip.encode content) stamp) path none)

def compressFileBlocking (gzip : Gzip) (stamp : Int) (stop : Option CompressionStop) (dir : LogDir) (path : EntryName) :
    Except CompressError Unit × LogDir :=
  match dir path, stop with
  | none, _ => (.error (.io "No such file or directory"), dir)
  | some _, some ⟨.opening, error⟩ | some _, some ⟨.creating, error⟩ => (.error error, dir)
  | some source, stop =>
    if (dir path.gzPathFor).all LogNode.isFile then copyAndRemove gzip stamp stop dir path source
    -- the archive cannot be created over a directory
    else (.error (.io "Is a directory"), dir)

def removeFile (failure : Option String) (dir : LogDir) (path : EntryName) : Except String Unit × LogDir :=
  match failure, dir path with
  | some error, _ => (.error error, dir)
  | none, none => (.error "No such file or directory", dir)
  | none, some (.directory _) => (.error "Is a directory", dir)
  | none, some (.file ..) => (.ok (), Function.update dir path none)

section
variable {gzip : Gzip} {stamp : Int} {stop : Option CompressionStop} {dir : LogDir} {path : EntryName}

theorem removeFile_file {content : List UInt8} {modified : Int} (here : dir path = some (.file content modified)) :
    (removeFile none dir path).2 = Function.update dir path none := by
  unfold removeFile
  rw [here]

/-- What a compression may leave. The file is there, unless its archive is complete. -/
inductive CompressionLeaves (gzip : Gzip) (stamp : Int) (dir : LogDir) (path : EntryName) (content : List UInt8) : LogDir → Prop where
  | untouched : CompressionLeaves gzip stamp dir path content dir
  | written (output : List UInt8) (free : (dir path.gzPathFor).all LogNode.isFile = true) :
      CompressionLeaves gzip stamp dir path content (dir.write path.gzPathFor output stamp)
  | replaced (free : (dir path.gzPathFor).all LogNode.isFile = true) : CompressionLeaves gzip stamp dir path content
      (Function.update (dir.write path.gzPathFor (gzip.encode content) stamp) path none)

theorem compress_leaves {content : List UInt8} {modified : Int} (here : dir path = some (.file content modified)) :
    CompressionLeaves gzip stamp dir path content (compressFileBlocking gzip stamp stop dir path).2 := by
  have opened : CompressionLeaves gzip stamp dir path content
      (if (dir path.gzPathFor).all LogNode.isFile then copyAndRemove gzip stamp stop dir path (.file content modified)
        else (.error (.io "Is a directory"), dir)).2 := by
    split
    · next free =>
      rcases stop with _ | ⟨_ | _ | written | written | _, error⟩
      · exact .replaced free
      · exact .replaced free
      · exact .replaced free
      · exact .written written free
      · exact .written written free
      · exact .written _ free
    · exact .untouched
  unfold compressFileBlocking
  rw [here]
  rcases stop with _ | ⟨_ | _ | written | written | _, error⟩
  · exact opened
  · exact .untouched
  · exact .untouched
  · exact opened
  · exact opened
  · exact opened

/-- Where nothing fails, the archive takes the place of the file, and of what was under its name. -/
theorem compress_replaces {content : List UInt8} {modified : Int} (here : dir path = some (.file content modified))
    (free : (dir path.gzPathFor).all LogNode.isFile = true) :
    (compressFileBlocking gzip stamp none dir path).2 =
      Function.update (dir.write path.gzPathFor (gzip.encode content) stamp) path none := by
  unfold compressFileBlocking
  rw [here]
  exact congrArg Prod.snd (if_pos free)

theorem compress_of_directory (taken : (dir path.gzPathFor).all LogNode.isFile = false) :
    (compressFileBlocking gzip stamp none dir path).2 = dir := by
  unfold compressFileBlocking
  cases dir path with
  | none => rfl
  | some source => exact congrArg Prod.snd (if_neg (by simp [taken]))

theorem compress_of_opening (error : CompressError) :
    (compressFileBlocking gzip stamp (some ⟨.opening, error⟩) dir path).2 = dir := by
  unfold compressFileBlocking
  cases dir path <;> rfl

end

end AppSalmon
