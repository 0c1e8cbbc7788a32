import AppSalmon.Library.UnixPath
import Mathlib.Algebra.Order.Ring.Int

/-! Validation and extraction of an uploaded tar.

The tar crate is a parameter: which entries it yields for the uploaded bytes,
and what `unpack_in` does to the file system. Its fields state what the crate
documents about path safety. Every effect is recorded with the path text the
system call receives, since the follow-up mode change builds that text itself.
-/

set_option autoImplicit false

namespace AppSalmon.TarValidation

open UnixPath

structure IoError where
  message : String
  deriving DecidableEq, Repr

inductive EntryType where
  | regular | link | symlink | char | block | directory | fifo | continuous
  | gnuLongName | gnuLongLink | gnuSparse | xGlobalHeader | xHeader
  | other (flag : UInt8)
  deriving DecidableEq, Repr

/-- `size` and `entryType` come from the raw header; `path` and `content` from
the entry, extension headers applied. -/
structure Entry where
  entryType : EntryType
  size : Except IoError UInt64
  mode : Nat
  path : Except IoError Path
  content : List UInt8

inductive Effect where
  | createDir (path : Path)
  | writeFile (path : Path) (content : List UInt8)
  | setMode (path : Path) (mode : Nat)
  deriving DecidableEq, Repr

def Effect.path : Effect → Path
  | .createDir path | .writeFile path _ | .setMode path _ => path

/-- The first argument of `unpackIn` is the position of the call, so that equal
entries may meet different I/O outcomes. -/
structure TarCrate where
  entries : List UInt8 → Except IoError (List (Except IoError Entry))
  unpackIn : Nat → Entry → Path → List Effect × Except IoError Bool
  refuses_parent : ∀ index entry dest path, entry.path = .ok path →
    .parentDir ∈ components path → unpackIn index entry dest = ([], .ok false)
  joins_normal : ∀ index entry dest path, entry.path = .ok path →
    ∀ effect ∈ (unpackIn index entry dest).1,
      ∃ names, names <+: normalNames path ∧ effect.path = pushAll dest names
  needs_path : ∀ index entry dest source, entry.path = .error source →
    (unpackIn index entry dest).1 = []

structure TarLimits where
  maxEntryBytes : UInt64
  maxTotalBytes : UInt64

inductive TarValidationError where
  | disallowedEntryType (index : Nat) (path : Path) (entryType : EntryType)
  | entryTooLarge (index : Nat) (path : Path) (sizeBytes limitBytes : UInt64)
  | totalTooLarge (limitBytes : UInt64)
  | unsafeEntry (index : Nat) (path : Path)
  | read (index : Nat) (source : IoError)
  | extract (index : Nat) (path : Path) (source : IoError)
  deriving DecidableEq, Repr

def usizeMax : Nat := 2 ^ 64 - 1

def saturatingAdd (first second : UInt64) : UInt64 :=
  if first.toNat + second.toNat < 2 ^ 64 then first + second else UInt64.ofNat (2 ^ 64 - 1)

def entryPathForDisplay (entry : Entry) : Path :=
  match entry.path with
  | .ok path => path
  | .error _ => "<unreadable path>".toList

def allowed (entryType : EntryType) : Bool := entryType = .regular || entryType = .directory

/-- The type and size checks made before `unpack_in`; returns the running total. -/
def checkEntry (limits : TarLimits) (index : Nat) (total : UInt64) (entry : Entry) :
    Except TarValidationError UInt64 :=
  if !allowed entry.entryType then
    .error (.disallowedEntryType index (entryPathForDisplay entry) entry.entryType)
  else match entry.size with
    | .error source => .error (.read index source)
    | .ok size =>
      if size > limits.maxEntryBytes then
        .error (.entryTooLarge index (entryPathForDisplay entry) size limits.maxEntryBytes)
      else if saturatingAdd total size > limits.maxTotalBytes then
        .error (.totalTooLarge limits.maxTotalBytes)
      else .ok (saturatingAdd total size)

def normalMode (entryType : EntryType) : Nat := if entryType = .directory then 0o755 else 0o644

structure Extraction where
  effects : List Effect
  result : Except TarValidationError Unit

/-- The result of `std::fs::set_permissions` at the given position. -/
abbrev SetPermissions := Nat → Path → Nat → Except IoError Unit

variable (tar : TarCrate) (setPermissions : SetPermissions) (dest : Path) (limits : TarLimits)

def extractEntries (index : Nat) (total : UInt64) : List (Except IoError Entry) → Extraction
  | [] => ⟨[], .ok ()⟩
  | .error source :: _ => ⟨[], .error (.read index source)⟩
  | .ok entry :: rest =>
    match checkEntry limits index total entry with
    | .error why => ⟨[], .error why⟩
    | .ok total =>
      let placed := (tar.unpackIn index entry dest).1
      match (tar.unpackIn index entry dest).2 with
      | .error source => ⟨placed, .error (.extract index (entryPathForDisplay entry) source)⟩
      | .ok false => ⟨placed, .error (.unsafeEntry index (entryPathForDisplay entry))⟩
      | .ok true =>
        match entry.path with
        | .error source => ⟨placed, .error (.read index source)⟩
        | .ok path =>
          -- this second reading of the path is `dest.join`, not the crate's own joining
          let extracted := join dest path
          let mode := normalMode entry.entryType
          match setPermissions index extracted mode with
          | .error source => ⟨placed, .error (.extract index (entryPathForDisplay entry) source)⟩
          | .ok () =>
            let tail := extractEntries (index + 1) total rest
            ⟨placed ++ .setMode extracted mode :: tail.effects, tail.result⟩

def validateAndExtract (tarBytes : List UInt8) : Extraction :=
  match tar.entries tarBytes with
  | .error source => ⟨[], .error (.read usizeMax source)⟩
  | .ok items => extractEntries tar setPermissions dest limits 0 0 items

/-! ## Which entries are normalised -/

/-- The running total through position `k` of the items still to be read. -/
def totalThrough (total : UInt64) (items : List (Except IoError Entry)) (k : Nat) : UInt64 :=
  (items.take (k + 1)).foldl
    (fun sum item => match item with
      | .ok entry => match entry.size with
        | .ok size => saturatingAdd sum size
        | .error _ => sum
      | .error _ => sum) total

/-- The item at position `k` passes every check, is unpacked, and its mode is set. -/
structure Accepted (index : Nat) (total : UInt64) (items : List (Except IoError Entry)) (k : Nat)
    (entry : Entry) (path : Path) : Prop where
  yielded : items[k]? = some (.ok entry)
  allowed : allowed entry.entryType = true
  entrySize : ∃ size, entry.size = .ok size ∧ size ≤ limits.maxEntryBytes
  totalSize : totalThrough total items k ≤ limits.maxTotalBytes
  unpacked : (tar.unpackIn (index + k) entry dest).2 = .ok true
  named : entry.path = .ok path
  permitted : setPermissions (index + k) (join dest path) (normalMode entry.entryType) = .ok ()

/-- The loop is still running when it comes to position `k`. -/
def Reaches (index : Nat) (total : UInt64) (items : List (Except IoError Entry)) (k : Nat) : Prop :=
  ∀ j < k, ∃ entry path, Accepted tar setPermissions dest limits index total items j entry path

/-- No entry whose turn comes and which is accepted names an absolute path outside `dest`. -/
def AbsoluteEntriesInside (cwd : List Name) (index : Nat) (total : UInt64)
    (items : List (Except IoError Entry)) : Prop :=
  ∀ k entry path, Reaches tar setPermissions dest limits index total items k →
    Accepted tar setPermissions dest limits index total items k entry path →
    hasRoot path = true → Within cwd dest path

variable {tar setPermissions dest limits}

theorem checkEntry_ok {index : Nat} {total next : UInt64} {entry : Entry} :
    checkEntry limits index total entry = .ok next ↔
      allowed entry.entryType = true ∧ ∃ size, entry.size = .ok size ∧
        size ≤ limits.maxEntryBytes ∧ saturatingAdd total size ≤ limits.maxTotalBytes ∧
        next = saturatingAdd total size := by
  unfold checkEntry
  cases kind : allowed entry.entryType with
  | false => simp
  | true =>
    cases measured : entry.size with
    | error source => simp
    | ok size =>
      simp only [Bool.not_true, Bool.false_eq_true, if_false, true_and, Except.ok.injEq,
        exists_eq_left', gt_iff_lt]
      by_cases large : limits.maxEntryBytes < size
      · simp [large, UInt64.not_le.mpr large]
      · by_cases excess : limits.maxTotalBytes < saturatingAdd total size
        · simp [large, excess, UInt64.not_le.mpr excess]
        · simp [large, excess, UInt64.not_lt.mp large, UInt64.not_lt.mp excess, eq_comm]

theorem totalThrough_zero (total : UInt64) {entry : Entry} {size : UInt64}
    (measured : entry.size = .ok size) (rest : List (Except IoError Entry)) :
    totalThrough total (.ok entry :: rest) 0 = saturatingAdd total size := by
  simp [totalThrough, measured]

theorem totalThrough_succ (total : UInt64) {entry : Entry} {size : UInt64}
    (measured : entry.size = .ok size) (rest : List (Except IoError Entry)) (k : Nat) :
    totalThrough total (.ok entry :: rest) (k + 1) =
      totalThrough (saturatingAdd total size) rest k := by
  simp [totalThrough, measured]

theorem accepted_succ {index : Nat} {total size : UInt64} {first entry : Entry}
    (measured : first.size = .ok size) {rest : List (Except IoError Entry)} {k : Nat} {path : Path} :
    Accepted tar setPermissions dest limits index total (.ok first :: rest) (k + 1) entry path ↔
      Accepted tar setPermissions dest limits (index + 1) (saturatingAdd total size) rest k entry path := by
  have position : index + (k + 1) = index + 1 + k := by omega
  constructor
  · intro accepted
    obtain ⟨yielded, kind, entrySize, totalSize, unpacked, named, permitted⟩ := accepted
    rw [totalThrough_succ total measured] at totalSize
    rw [position] at unpacked permitted
    exact ⟨by simpa using yielded, kind, entrySize, totalSize, unpacked, named, permitted⟩
  · intro accepted
    obtain ⟨yielded, kind, entrySize, totalSize, unpacked, named, permitted⟩ := accepted
    rw [← totalThrough_succ total measured] at totalSize
    rw [← position] at unpacked permitted
    exact ⟨by simpa using yielded, kind, entrySize, totalSize, unpacked, named, permitted⟩

theorem reaches_succ {index : Nat} {total size : UInt64} {first : Entry}
    (measured : first.size = .ok size) {rest : List (Except IoError Entry)} {path : Path}
    (accepted : Accepted tar setPermissions dest limits index total (.ok first :: rest) 0 first path)
    (k : Nat) :
    Reaches tar setPermissions dest limits index total (.ok first :: rest) (k + 1) ↔
      Reaches tar setPermissions dest limits (index + 1) (saturatingAdd total size) rest k := by
  constructor
  · intro reaches j below
    obtain ⟨entry, other, found⟩ := reaches (j + 1) (by omega)
    exact ⟨entry, other, (accepted_succ measured).mp found⟩
  · intro reaches j below
    cases j with
    | zero => exact ⟨first, path, accepted⟩
    | succ j =>
      obtain ⟨entry, other, found⟩ := reaches j (by omega)
      exact ⟨entry, other, (accepted_succ measured).mpr found⟩

/-- Everything one turn of the loop can do: stop with no effect beyond those of
`unpack_in`, or accept the entry, set its mode and go on. -/
theorem extractEntries_cons (index : Nat) (total : UInt64) (entry : Entry)
    (rest : List (Except IoError Entry)) :
    (∀ effect ∈ (extractEntries tar setPermissions dest limits index total (.ok entry :: rest)).effects,
        effect ∈ (tar.unpackIn index entry dest).1) ∧
      (∀ other path,
        ¬ Accepted tar setPermissions dest limits index total (.ok entry :: rest) 0 other path) ∨
    ∃ path size, entry.size = .ok size ∧
      Accepted tar setPermissions dest limits index total (.ok entry :: rest) 0 entry path ∧
      (extractEntries tar setPermissions dest limits index total (.ok entry :: rest)).effects =
        (tar.unpackIn index entry dest).1 ++
          .setMode (join dest path) (normalMode entry.entryType) ::
          (extractEntries tar setPermissions dest limits (index + 1) (saturatingAdd total size) rest).effects := by
  have same : ∀ {other path},
      Accepted tar setPermissions dest limits index total (.ok entry :: rest) 0 other path →
        other = entry := by
    intro other path accepted
    simpa using accepted.yielded.symm
  cases checked : checkEntry limits index total entry with
  | error why =>
    refine .inl ⟨by simp [extractEntries, checked], ?_⟩
    intro other path accepted
    obtain rfl := same accepted
    obtain ⟨size, measured, small⟩ := accepted.entrySize
    have fits := accepted.totalSize
    rw [totalThrough_zero total measured] at fits
    have passes : checkEntry limits index total other = .ok _ :=
      checkEntry_ok.mpr ⟨accepted.allowed, size, measured, small, fits, rfl⟩
    rw [checked] at passes
    cases passes
  | ok next =>
    obtain ⟨kind, size, measured, small, fits, rfl⟩ := checkEntry_ok.mp checked
    by_cases unpacked : (tar.unpackIn index entry dest).2 = .ok true
    · cases named : entry.path with
      | error source =>
        refine .inl ⟨by simp [extractEntries, checked, unpacked, named], ?_⟩
        intro other path accepted
        obtain rfl := same accepted
        have read := accepted.named
        rw [named] at read
        cases read
      | ok path =>
        cases permitted : setPermissions index (join dest path) (normalMode entry.entryType) with
        | error source =>
          refine .inl ⟨by simp [extractEntries, checked, unpacked, named, permitted], ?_⟩
          intro other path' accepted
          obtain rfl := same accepted
          obtain rfl : path = path' := by simpa [named] using accepted.named
          have set := accepted.permitted
          rw [Nat.add_zero, permitted] at set
          cases set
        | ok =>
          refine .inr ⟨path, size, measured, ?_, by simp [extractEntries, checked, unpacked, named, permitted]⟩
          exact ⟨rfl, kind, ⟨size, measured, small⟩, by rwa [totalThrough_zero total measured],
            unpacked, named, permitted⟩
    · refine .inl ⟨?_, fun other path accepted => ?_⟩
      · cases outcome : (tar.unpackIn index entry dest).2 with
        | error source => simp [extractEntries, checked, outcome]
        | ok placed =>
          cases placed with
          | false => simp [extractEntries, checked, outcome]
          | true => exact absurd outcome unpacked
      · obtain rfl := same accepted
        exact unpacked accepted.unpacked

theorem placed_within (cwd : List Name) (index : Nat) (entry : Entry) :
    ∀ effect ∈ (tar.unpackIn index entry dest).1, Within cwd dest effect.path := by
  intro effect member
  cases named : entry.path with
  | error source =>
    rw [tar.needs_path index entry dest source named] at member
    cases member
  | ok path =>
    obtain ⟨names, initial, same⟩ := tar.joins_normal index entry dest path named effect member
    rw [same]
    exact within_pushAll cwd dest names (fun name inside => normalNames_plain name (initial.subset inside))

/-- An entry that `unpack_in` took has no `..`, so only an absolute path can
make `dest.join` leave `dest`. -/
theorem setMode_within_iff (cwd : List Name) {index : Nat} {entry : Entry} {path : Path}
    (unpacked : (tar.unpackIn index entry dest).2 = .ok true) (named : entry.path = .ok path) :
    Within cwd dest (join dest path) ↔ (hasRoot path = true → Within cwd dest path) := by
  cases absolute : hasRoot path with
  | true => simp [join_absolute dest absolute]
  | false =>
    have descending : .parentDir ∉ components path := by
      intro above
      rw [tar.refuses_parent index entry dest path named above] at unpacked
      cases unpacked
    simpa using within_join cwd dest absolute descending

theorem absoluteEntriesInside_of_stop (cwd : List Name) {index : Nat} {total : UInt64}
    {items : List (Except IoError Entry)}
    (stop : ∀ entry path, ¬ Accepted tar setPermissions dest limits index total items 0 entry path) :
    AbsoluteEntriesInside tar setPermissions dest limits cwd index total items := by
  intro k entry path reaches accepted _
  cases k with
  | zero => exact absurd accepted (stop entry path)
  | succ k =>
    obtain ⟨first, other, accepted⟩ := reaches 0 (by omega)
    exact absurd accepted (stop first other)

theorem absoluteEntriesInside_cons (cwd : List Name) {index : Nat} {total size : UInt64}
    {entry : Entry} {rest : List (Except IoError Entry)} {path : Path}
    (measured : entry.size = .ok size)
    (accepted : Accepted tar setPermissions dest limits index total (.ok entry :: rest) 0 entry path) :
    AbsoluteEntriesInside tar setPermissions dest limits cwd index total (.ok entry :: rest) ↔
      (hasRoot path = true → Within cwd dest path) ∧
        AbsoluteEntriesInside tar setPermissions dest limits cwd (index + 1)
          (saturatingAdd total size) rest := by
  constructor
  · intro inside
    refine ⟨inside 0 entry path (fun j below => absurd below (Nat.not_lt_zero j)) accepted, ?_⟩
    intro k other name reaches found
    exact inside (k + 1) other name ((reaches_succ measured accepted k).mpr reaches)
      ((accepted_succ measured).mpr found)
  · rintro ⟨head, tail⟩ k other name reaches found
    cases k with
    | zero =>
      obtain rfl : entry = other := by simpa using found.yielded
      obtain rfl : path = name := by
        have both := accepted.named.symm.trans found.named
        simpa using both
      exact head
    | succ k =>
      exact tail k other name ((reaches_succ measured accepted k).mp reaches)
        ((accepted_succ measured).mp found)

theorem extractEntries_within_iff (cwd : List Name) (items : List (Except IoError Entry))
    (index : Nat) (total : UInt64) :
    (∀ effect ∈ (extractEntries tar setPermissions dest limits index total items).effects,
        Within cwd dest effect.path) ↔
      AbsoluteEntriesInside tar setPermissions dest limits cwd index total items := by
  induction items generalizing index total with
  | nil =>
    refine iff_of_true (by simp [extractEntries]) (absoluteEntriesInside_of_stop cwd ?_)
    intro entry path accepted
    simpa using accepted.yielded
  | cons item rest ih =>
    cases item with
    | error source =>
      refine iff_of_true (by simp [extractEntries]) (absoluteEntriesInside_of_stop cwd ?_)
      intro entry path accepted
      simpa using accepted.yielded
    | ok entry =>
      rcases extractEntries_cons index total entry rest with ⟨placed, stop⟩ | ⟨path, size, measured, accepted, effects⟩
      · exact iff_of_true (fun effect member => placed_within cwd index entry effect (placed effect member))
          (absoluteEntriesInside_of_stop cwd stop)
      · have mode := setMode_within_iff cwd accepted.unpacked accepted.named
        rw [absoluteEntriesInside_cons cwd measured accepted, effects, List.forall_mem_append,
          List.forall_mem_cons, ih]
        simp only [Effect.path, mode]
        exact ⟨And.right, fun tail => ⟨placed_within cwd index entry, tail⟩⟩

/-- Every effect of an extraction stays in `dest` exactly when no accepted entry
has an absolute path leading elsewhere: `unpack_in` strips the root, the mode
change afterwards does not. -/
theorem extraction_confined_iff (tar : TarCrate) (setPermissions : SetPermissions)
    (limits : TarLimits) (cwd : List Name) (dest : Path) (tarBytes : List UInt8) :
    (∀ effect ∈ (validateAndExtract tar setPermissions dest limits tarBytes).effects,
        Within cwd dest effect.path) ↔
      ∀ items, tar.entries tarBytes = .ok items →
        AbsoluteEntriesInside tar setPermissions dest limits cwd 0 0 items := by
  unfold validateAndExtract
  cases yielded : tar.entries tarBytes with
  | error source => simp
  | ok items => simpa using extractEntries_within_iff cwd items 0 0

/-! ## An archive that changes a mode outside the staging directory -/

/-- `unpack_in` as documented, when no I/O operation fails. -/
def documentedUnpackIn (entry : Entry) (dest : Path) : List Effect × Except IoError Bool :=
  match entry.path with
  | .error source => ([], .error source)
  | .ok path =>
    if .parentDir ∈ components path then ([], .ok false)
    else
      let names := normalNames path
      if names = [] then ([], .ok true)
      else
        let target := pushAll dest names
        let made := if entry.entryType = .directory then .createDir target
          else .writeFile target entry.content
        (names.dropLast.inits.map (fun parents => .createDir (pushAll dest parents)) ++
          [made, .setMode target entry.mode], .ok true)

theorem documentedUnpackIn_joins {entry : Entry} {dest path : Path} (named : entry.path = .ok path) :
    ∀ effect ∈ (documentedUnpackIn entry dest).1,
      ∃ names, names <+: normalNames path ∧ effect.path = pushAll dest names := by
  intro effect member
  simp only [documentedUnpackIn, named] at member
  split at member
  · cases member
  · split at member
    · cases member
    · rcases List.mem_append.mp member with inside | inside
      · obtain ⟨parents, initial, rfl⟩ := List.mem_map.mp inside
        exact ⟨parents, ((List.mem_inits _ _).mp initial).trans (List.dropLast_prefix _), rfl⟩
      · refine ⟨normalNames path, List.prefix_rfl, ?_⟩
        simp only [List.mem_cons, List.not_mem_nil, or_false] at inside
        rcases inside with rfl | rfl
        · split <;> rfl
        · rfl

/-- The crate restricted to a known table of archives. -/
def documentedCrate (archive : List UInt8) (items : List (Except IoError Entry)) : TarCrate where
  entries bytes := if bytes = archive then .ok items else .error ⟨"failed to read entire block"⟩
  unpackIn _ := documentedUnpackIn
  refuses_parent _ entry dest path named above := by simp [documentedUnpackIn, named, above]
  joins_normal _ _ _ _ named := documentedUnpackIn_joins named
  needs_path _ entry dest source unnamed := by simp [documentedUnpackIn, unnamed]

def asciiField (text : String) (width : Nat) : List UInt8 :=
  let bytes := text.toList.map fun letter => letter.toNat.toUInt8
  bytes ++ List.replicate (width - bytes.length) 0

/-- One GNU header block for a regular file of mode 0644, around its checksum text. -/
def gnuHeader (name size checksum : String) : List UInt8 :=
  asciiField name 100 ++ asciiField "0000644" 8 ++ asciiField "" 8 ++ asciiField "" 8 ++
    asciiField size 12 ++ asciiField "00000000000" 12 ++ asciiField checksum 8 ++ asciiField "0" 1 ++
    asciiField "" 100 ++ asciiField "ustar  " 8 ++ asciiField "" 247

/-- The unsigned byte sum of a header whose checksum field holds blanks. -/
def headerSum (name size : String) : Nat :=
  ((gnuHeader name size "        ").map UInt8.toNat).sum

def databasePath : String := "/var/lib/app_salmon/state.sqlite3"

def stagingSlot : Path := "/var/lib/app_salmon/tar-staging/agent/slot-0".toList

/-- One regular file of four bytes whose name is the path of the service's own database. -/
def absoluteArchive : List UInt8 :=
  gnuHeader databasePath "00000000004" "012633" ++ asciiField "data" 512 ++ List.replicate 1024 0

example : headerSum databasePath "00000000004" = 0o12633 := by decide +kernel

def absoluteEntry : Entry where
  entryType := .regular
  size := .ok 4
  mode := 0o644
  path := .ok databasePath.toList
  content := asciiField "data" 4

theorem absolute_entry_escapes :
    ¬ ∀ effect ∈ (validateAndExtract (documentedCrate absoluteArchive [.ok absoluteEntry])
        (fun _ _ _ => .ok ()) stagingSlot ⟨1024, 4096⟩ absoluteArchive).effects,
      Within [] stagingSlot effect.path := by
  have yielded : (documentedCrate absoluteArchive [.ok absoluteEntry]).entries absoluteArchive =
      .ok [.ok absoluteEntry] := by simp [documentedCrate]
  simp only [validateAndExtract, yielded]
  rw [extractEntries_within_iff]
  intro inside
  have accepted : Accepted (documentedCrate absoluteArchive [.ok absoluteEntry])
      (fun _ _ _ => .ok ()) stagingSlot ⟨1024, 4096⟩ 0 0 [.ok absoluteEntry] 0 absoluteEntry
      databasePath.toList := by
    refine ⟨rfl, rfl, ⟨4, rfl, by decide⟩, by decide, ?_, rfl, rfl⟩
    decide +kernel
  have reached := inside 0 absoluteEntry databasePath.toList
    (fun j below => absurd below (Nat.not_lt_zero j)) accepted (by decide)
  exact absurd reached (by decide)

end AppSalmon.TarValidation
