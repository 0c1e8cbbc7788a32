import AppSalmon.Domain.TarValidation
import Mathlib.Algebra.BigOperators.Group.Finset.Basic

/-! How much an extraction writes, against the two size limits.

The checks read the size field of the raw header. What is copied is the content
of the entry, whose length a PAX extension may give instead.
-/

set_option autoImplicit false

namespace AppSalmon.TarValidation

open UnixPath

/-! ## What the crate documents of `unpack_in` -/

/-- The effects of a call that succeeds: missing parents, then the entry itself with a mode of its own. -/
def placement (file : Bool) (content : List UInt8) (mode : Nat) (dest : Path) (names : List Name) : List Effect :=
  if names = [] then []
  else names.dropLast.inits.map (fun parents => .createDir (pushAll dest parents)) ++
    [if file then .writeFile (pushAll dest names) content else .createDir (pushAll dest names),
      .setMode (pushAll dest names) mode]

def Effect.content? : Effect → Option (List UInt8)
  | .writeFile _ content => some content
  | .createDir _ | .setMode .. => none

structure Placing (tar : TarCrate) where
  /-- A regular entry is placed as a file, unless an old header's name ends in a separator. -/
  isFile : Entry → Bool
  directory_is_no_file : ∀ entry, entry.entryType = .directory → isFile entry = false
  regular_is_file : ∀ entry path, entry.entryType = .regular → entry.path = .ok path →
    path.getLast? ≠ some '/' → isFile entry = true
  places : ∀ index entry dest path, (tar.unpackIn index entry dest).2 = .ok true → entry.path = .ok path →
    ∃ mode, (tar.unpackIn index entry dest).1 = placement (isFile entry) entry.content mode dest (normalNames path)
  /-- A copy may end early, and then the call fails. -/
  copies : ∀ index entry dest, (tar.unpackIn index entry dest).1.filterMap Effect.content? = [] ∨
    ∃ part, part <+: entry.content ∧ (tar.unpackIn index entry dest).1.filterMap Effect.content? = [part]

/-- The length of an entry's content, by its header and the PAX `size` record before it. -/
def contentSize (paxSize : Option UInt64) (headerSize : UInt64) : UInt64 :=
  match paxSize with
  | some size => if headerSize = 0 then size else headerSize
  | none => headerSize

/-- The PAX `size` records of an archive, by the position of the entry that they apply to. -/
structure PaxSizes (tar : TarCrate) where
  paxSize : List UInt8 → Nat → Option UInt64
  content_size : ∀ tarBytes items k entry size, tar.entries tarBytes = .ok items → items[k]? = some (.ok entry) →
    entry.size = .ok size → entry.content.length = (contentSize (paxSize tarBytes k) size).toNat

/-! ## What has been written -/

def Effect.bytes (effect : Effect) : Nat := (effect.content?.map List.length).getD 0

def bytesWritten (effects : List Effect) : Nat := (effects.map Effect.bytes).sum

/-- The effects up to some point, the last of them perhaps a file of which only a part is there. -/
inductive Seen (effects : List Effect) : List Effect → Prop where
  | between {seen : List Effect} : seen <+: effects → Seen effects seen
  | writing {done rest : List Effect} {path : Path} {content part : List UInt8} :
      effects = done ++ .writeFile path content :: rest → part <+: content → Seen effects (done ++ [.writeFile path part])

structure Bounded (limits : TarLimits) (effects : List Effect) : Prop where
  files : ∀ effect ∈ effects, effect.bytes ≤ limits.maxEntryBytes.toNat
  total : bytesWritten effects ≤ limits.maxTotalBytes.toNat

@[simp] theorem bytesWritten_nil : bytesWritten [] = 0 := rfl

@[simp] theorem bytesWritten_cons (effect : Effect) (effects : List Effect) :
    bytesWritten (effect :: effects) = effect.bytes + bytesWritten effects := by
  simp [bytesWritten]

@[simp] theorem bytesWritten_append (first second : List Effect) :
    bytesWritten (first ++ second) = bytesWritten first + bytesWritten second := by
  simp [bytesWritten]

@[simp] theorem bytes_writeFile (path : Path) (content : List UInt8) :
    (Effect.writeFile path content).bytes = content.length := rfl

@[simp] theorem bytes_setMode (path : Path) (mode : Nat) : (Effect.setMode path mode).bytes = 0 := rfl

@[simp] theorem bytes_createDir (path : Path) : (Effect.createDir path).bytes = 0 := rfl

/-- Nothing that is written goes away again, so the end decides about every point before it. -/
theorem bounded_at_every_point {limits : TarLimits} {effects : List Effect} :
    (∀ seen, Seen effects seen → Bounded limits seen) ↔ Bounded limits effects := by
  constructor
  · intro always
    exact always effects (.between List.prefix_rfl)
  · intro bounded seen here
    cases here with
    | between initial =>
      obtain ⟨rest, rfl⟩ := initial
      constructor
      · intro effect member
        exact bounded.files effect (List.mem_append_left rest member)
      · have total := bounded.total
        rw [bytesWritten_append] at total
        omega
    | @writing done rest path content part same initial =>
      subst same
      have shorter := initial.length_le
      constructor
      · intro effect member
        rcases List.mem_append.mp member with before | last
        · exact bounded.files effect (List.mem_append_left _ before)
        · obtain rfl := List.mem_singleton.mp last
          have whole := bounded.files (.writeFile path content) (by simp)
          simp only [bytes_writeFile] at whole ⊢
          omega
      · have total := bounded.total
        simp only [bytesWritten_append, bytesWritten_cons, bytesWritten_nil, bytes_writeFile] at total ⊢
        omega

/-! ## Which entries are copied -/

variable (tar : TarCrate) (setPermissions : SetPermissions) (dest : Path) (limits : TarLimits)

/-- The item at position `k` passes the checks that come before `unpack_in`. -/
structure Checked (total : UInt64) (items : List (Except IoError Entry)) (k : Nat) (entry : Entry) : Prop where
  yielded : items[k]? = some (.ok entry)
  allowed : allowed entry.entryType = true
  entrySize : ∃ size, entry.size = .ok size ∧ size ≤ limits.maxEntryBytes
  totalSize : totalThrough total items k ≤ limits.maxTotalBytes

variable {tar setPermissions dest limits}

theorem Accepted.checked {index : Nat} {total : UInt64} {items : List (Except IoError Entry)} {k : Nat} {entry : Entry}
    {path : Path} (accepted : Accepted tar setPermissions dest limits index total items k entry path) :
    Checked limits total items k entry :=
  ⟨accepted.yielded, accepted.allowed, accepted.entrySize, accepted.totalSize⟩

theorem checked_zero_iff (index : Nat) (total : UInt64) (entry : Entry) (rest : List (Except IoError Entry)) :
    Checked limits total (.ok entry :: rest) 0 entry ↔ ∃ next, checkEntry limits index total entry = .ok next := by
  constructor
  · rintro ⟨-, kind, ⟨size, measured, small⟩, fits⟩
    rw [totalThrough_zero total measured] at fits
    exact ⟨_, checkEntry_ok.mpr ⟨kind, size, measured, small, fits, rfl⟩⟩
  · rintro ⟨next, passed⟩
    obtain ⟨kind, size, measured, small, fits, -⟩ := checkEntry_ok.mp passed
    exact ⟨rfl, kind, ⟨size, measured, small⟩, by rwa [totalThrough_zero total measured]⟩

theorem checked_succ {total size : UInt64} {first entry : Entry} (measured : first.size = .ok size)
    {rest : List (Except IoError Entry)} {k : Nat} :
    Checked limits total (.ok first :: rest) (k + 1) entry ↔
      Checked limits (saturatingAdd total size) rest k entry := by
  constructor
  · rintro ⟨yielded, kind, entrySize, totalSize⟩
    rw [totalThrough_succ total measured] at totalSize
    exact ⟨by simpa using yielded, kind, entrySize, totalSize⟩
  · rintro ⟨yielded, kind, entrySize, totalSize⟩
    rw [← totalThrough_succ total measured] at totalSize
    exact ⟨by simpa using yielded, kind, entrySize, totalSize⟩

/-- A turn that passes the checks and does not accept its entry leaves what `unpack_in` has done. -/
theorem extractEntries_stops {index : Nat} {total next : UInt64} {entry : Entry} {rest : List (Except IoError Entry)}
    (passed : checkEntry limits index total entry = .ok next)
    (stop : ∀ other path, ¬ Accepted tar setPermissions dest limits index total (.ok entry :: rest) 0 other path) :
    (extractEntries tar setPermissions dest limits index total (.ok entry :: rest)).effects =
      (tar.unpackIn index entry dest).1 := by
  obtain ⟨yielded, kind, entrySize, totalSize⟩ := (checked_zero_iff index total entry rest).mpr ⟨next, passed⟩
  cases unpacked : (tar.unpackIn index entry dest).2 with
  | error source => simp [extractEntries, passed, unpacked]
  | ok placed =>
    cases placed with
    | false => simp [extractEntries, passed, unpacked]
    | true =>
      cases named : entry.path with
      | error source => simp [extractEntries, passed, unpacked, named]
      | ok path =>
        cases permitted : setPermissions index (join dest path) (normalMode entry.entryType) with
        | error source => simp [extractEntries, passed, unpacked, named, permitted]
        | ok done => exact absurd ⟨yielded, kind, entrySize, totalSize, unpacked, named, permitted⟩ (stop entry path)

/-! ## Positions and bytes -/

/-- What a length function gives for the item at position `k`. -/
def lengthAt (length : Nat → Entry → Nat) (index : Nat) (items : List (Except IoError Entry)) (k : Nat) : Nat :=
  match items[k]? with
  | some (.ok entry) => length (index + k) entry
  | some (.error _) | none => 0

theorem lengthAt_succ (length : Nat → Entry → Nat) (index : Nat) (first : Except IoError Entry)
    (rest : List (Except IoError Entry)) (k : Nat) :
    lengthAt length index (first :: rest) (k + 1) = lengthAt length (index + 1) rest k := by
  have position : index + (k + 1) = index + 1 + k := by omega
  simp only [lengthAt, List.getElem?_cons_succ, position]

theorem sum_lengthAt_succ (length : Nat → Entry → Nat) (index : Nat) (first : Entry)
    (rest : List (Except IoError Entry)) (k : Nat) :
    ∑ j ∈ Finset.range (k + 1), lengthAt length index (.ok first :: rest) j =
      length index first + ∑ j ∈ Finset.range k, lengthAt length (index + 1) rest j := by
  rw [Finset.sum_range_succ', Nat.add_comm]
  congr 1
  exact Finset.sum_congr rfl fun j _ => lengthAt_succ length index (.ok first) rest j

variable (tar setPermissions dest limits)

/-- Counted by this length, nothing that gets past the checks is too long. -/
def Fits (length : Nat → Entry → Nat) (before index : Nat) (total : UInt64) (items : List (Except IoError Entry)) : Prop :=
  ∀ k entry, Reaches tar setPermissions dest limits index total items k → Checked limits total items k entry →
    lengthAt length index items k ≤ limits.maxEntryBytes.toNat ∧
      before + ∑ j ∈ Finset.range (k + 1), lengthAt length index items j ≤ limits.maxTotalBytes.toNat

def placedBytes (index : Nat) (entry : Entry) : Nat := bytesWritten (tar.unpackIn index entry dest).1

variable {tar setPermissions dest limits}

theorem bytesWritten_eq (effects : List Effect) :
    bytesWritten effects = ((effects.filterMap Effect.content?).map List.length).sum := by
  induction effects with
  | nil => rfl
  | cons effect rest ih =>
    rw [bytesWritten_cons, ih, List.filterMap_cons]
    cases effect with
    | createDir | setMode | writeFile => simp [Effect.content?]

theorem bytes_le_bytesWritten {effects : List Effect} {effect : Effect} (member : effect ∈ effects) :
    effect.bytes ≤ bytesWritten effects := by
  induction effects with
  | nil => cases member
  | cons first rest ih =>
    rw [bytesWritten_cons]
    rcases List.mem_cons.mp member with rfl | later
    · omega
    · have below := ih later
      omega

/-- A call writes one file at most. -/
theorem placed_files_iff (placing : Placing tar) (index : Nat) (entry : Entry) (limit : Nat) :
    (∀ effect ∈ (tar.unpackIn index entry dest).1, effect.bytes ≤ limit) ↔ placedBytes tar dest index entry ≤ limit := by
  constructor
  · intro short
    -- the one file that is written has all the bytes of the call
    rcases placing.copies index entry dest with none_copied | ⟨part, -, copied⟩
    · simp [placedBytes, bytesWritten_eq, none_copied]
    · have member : part ∈ (tar.unpackIn index entry dest).1.filterMap Effect.content? := by simp [copied]
      obtain ⟨effect, inside, content⟩ := List.mem_filterMap.mp member
      have fits := short effect inside
      simpa [placedBytes, bytesWritten_eq, copied, Effect.bytes, content] using fits
  · intro short effect member
    exact (bytes_le_bytesWritten member).trans short

theorem fits_of_stop {length : Nat → Entry → Nat} {before index : Nat} {total : UInt64}
    {items : List (Except IoError Entry)} (stop : ∀ entry, ¬ Checked limits total items 0 entry) :
    Fits tar setPermissions dest limits length before index total items := by
  intro k entry reaches checked
  cases k with
  | zero => exact absurd checked (stop entry)
  | succ k =>
    -- no later turn comes without this one
    obtain ⟨first, path, accepted⟩ := reaches 0 (by omega)
    exact absurd accepted.checked (stop first)

/-- A turn that is the last one. -/
theorem fits_last {length : Nat → Entry → Nat} {before index : Nat} {total : UInt64} {entry : Entry}
    {rest : List (Except IoError Entry)} (checked : Checked limits total (.ok entry :: rest) 0 entry)
    (stop : ∀ other path, ¬ Accepted tar setPermissions dest limits index total (.ok entry :: rest) 0 other path) :
    Fits tar setPermissions dest limits length before index total (.ok entry :: rest) ↔
      length index entry ≤ limits.maxEntryBytes.toNat ∧ before + length index entry ≤ limits.maxTotalBytes.toNat := by
  constructor
  · intro fits
    have first := fits 0 entry (fun j below => absurd below (Nat.not_lt_zero j)) checked
    rw [sum_lengthAt_succ] at first
    simpa [lengthAt] using first
  · intro short k other reaches checked
    cases k with
    | zero =>
      rw [sum_lengthAt_succ]
      simpa [lengthAt] using short
    | succ k =>
      obtain ⟨first, path, accepted⟩ := reaches 0 (by omega)
      exact absurd accepted (stop first path)

/-- A turn that accepts its entry and goes on. -/
theorem fits_cons {length : Nat → Entry → Nat} {before index : Nat} {total size : UInt64} {entry : Entry} {path : Path}
    {rest : List (Except IoError Entry)} (measured : entry.size = .ok size)
    (accepted : Accepted tar setPermissions dest limits index total (.ok entry :: rest) 0 entry path) :
    Fits tar setPermissions dest limits length before index total (.ok entry :: rest) ↔
      (length index entry ≤ limits.maxEntryBytes.toNat ∧ before + length index entry ≤ limits.maxTotalBytes.toNat) ∧
        Fits tar setPermissions dest limits length (before + length index entry) (index + 1) (saturatingAdd total size)
          rest := by
  constructor
  · intro fits
    constructor
    · have first := fits 0 entry (fun j below => absurd below (Nat.not_lt_zero j)) accepted.checked
      rw [sum_lengthAt_succ] at first
      simpa [lengthAt] using first
    · intro k other reaches checked
      have later := fits (k + 1) other ((reaches_succ measured accepted k).mpr reaches) ((checked_succ measured).mpr checked)
      rw [lengthAt_succ, sum_lengthAt_succ, ← Nat.add_assoc] at later
      exact later
  · rintro ⟨first, later⟩ k other reaches checked
    cases k with
    | zero =>
      rw [sum_lengthAt_succ]
      simpa [lengthAt] using first
    | succ k =>
      rw [lengthAt_succ, sum_lengthAt_succ, ← Nat.add_assoc]
      exact later k other ((reaches_succ measured accepted k).mp reaches) ((checked_succ measured).mp checked)

/-- The bytes of a run, by those of its calls. -/
theorem extractEntries_fits_iff (placing : Placing tar) (items : List (Except IoError Entry)) (before index : Nat)
    (total : UInt64) (room : before ≤ limits.maxTotalBytes.toNat) :
    Fits tar setPermissions dest limits (placedBytes tar dest) before index total items ↔
      (∀ effect ∈ (extractEntries tar setPermissions dest limits index total items).effects,
        effect.bytes ≤ limits.maxEntryBytes.toNat) ∧
      before + bytesWritten (extractEntries tar setPermissions dest limits index total items).effects ≤
        limits.maxTotalBytes.toNat := by
  induction items generalizing before index total with
  | nil =>
    apply iff_of_true
    · exact fits_of_stop fun entry checked => by simpa using checked.yielded
    · simpa [extractEntries] using room
  | cons item rest ih =>
    cases item with
    | error source =>
      apply iff_of_true
      · exact fits_of_stop fun entry checked => by simpa using checked.yielded
      · simpa [extractEntries] using room
    | ok entry =>
      cases passed : checkEntry limits index total entry with
      | error why =>
        -- an entry that a check refuses is never copied
        have unchecked : ∀ other, ¬ Checked limits total (.ok entry :: rest) 0 other := by
          intro other checked
          obtain rfl : entry = other := by simpa using checked.yielded
          obtain ⟨next, passes⟩ := (checked_zero_iff index total entry rest).mp checked
          rw [passed] at passes
          cases passes
        apply iff_of_true (fits_of_stop unchecked)
        simpa [extractEntries, passed] using room
      | ok next =>
        have checked := (checked_zero_iff index total entry rest).mpr ⟨next, passed⟩
        have files : (∀ effect ∈ (tar.unpackIn index entry dest).1, effect.bytes ≤ limits.maxEntryBytes.toNat) ↔
            placedBytes tar dest index entry ≤ limits.maxEntryBytes.toNat := placed_files_iff placing index entry _
        rcases extractEntries_cons index total entry rest with ⟨-, stop⟩ | ⟨path, size, measured, accepted, effects⟩
        -- the last turn: what `unpack_in` has done is all there is, even if the call failed
        · rw [extractEntries_stops passed stop, fits_last checked stop, files, placedBytes]
        -- another turn: its bytes count towards the total of those that follow
        · rw [fits_cons measured accepted, effects, List.forall_mem_append, List.forall_mem_cons, bytesWritten_append,
            bytesWritten_cons, files]
          simp only [bytes_setMode, Nat.zero_le, true_and, Nat.zero_add, ← Nat.add_assoc]
          constructor
          · rintro ⟨first, later⟩
            have tail := (ih _ _ _ first.2).mp later
            exact ⟨⟨first.1, tail.1⟩, tail.2⟩
          · rintro ⟨⟨first, short⟩, sum⟩
            have here : before + placedBytes tar dest index entry ≤ limits.maxTotalBytes.toNat := by
              rw [placedBytes]
              omega
            exact ⟨⟨first, here⟩, (ih _ _ _ here).mpr ⟨short, sum⟩⟩

/-! ## The lengths of the contents -/

/-- How much of an entry gets copied: a file in whole if the call succeeds, whatever the call got to if it fails. -/
def copiedBytes (placing : Placing tar) (dest : Path) (index : Nat) (entry : Entry) : Nat :=
  match (tar.unpackIn index entry dest).2, entry.path with
  -- an entry for `dest` itself is not copied, nor is a directory
  | .ok true, .ok path => if placing.isFile entry = true ∧ normalNames path ≠ [] then entry.content.length else 0
  | _, _ => placedBytes tar dest index entry

variable (tar setPermissions dest limits) in
/-- The content of every entry whose turn comes and which the checks let through fits the limits, and so do all of them
together up to there. -/
def ContentsFit (placing : Placing tar) (tarBytes : List UInt8) : Prop :=
  ∀ items, tar.entries tarBytes = .ok items →
    Fits tar setPermissions dest limits (copiedBytes placing dest) 0 0 0 items

theorem bytesWritten_placement (file : Bool) (content : List UInt8) (mode : Nat) (dest : Path) (names : List Name) :
    bytesWritten (placement file content mode dest names) = if file = true ∧ names ≠ [] then content.length else 0 := by
  have parents : ∀ above : List (List Name),
      bytesWritten (above.map fun parents => Effect.createDir (pushAll dest parents)) = 0 := by
    intro above
    induction above with
    | nil => rfl
    | cons first rest ih => simpa using ih
  unfold placement
  by_cases empty : names = []
  · simp [empty]
  · cases file <;> simp [empty, parents]

theorem copiedBytes_eq (placing : Placing tar) : copiedBytes placing dest = placedBytes tar dest := by
  funext index entry
  unfold copiedBytes
  split
  · next path unpacked named =>
    -- the call succeeds, so the content is there in whole
    obtain ⟨mode, placed⟩ := placing.places index entry dest path unpacked named
    rw [placedBytes, placed, bytesWritten_placement]
  · rfl

theorem copiedBytes_le (placing : Placing tar) (index : Nat) (entry : Entry) :
    copiedBytes placing dest index entry ≤ entry.content.length := by
  rw [copiedBytes_eq, placedBytes, bytesWritten_eq]
  rcases placing.copies index entry dest with none_copied | ⟨part, initial, copied⟩
  · simp [none_copied]
  · simpa [copied] using initial.length_le

theorem bounded_iff_contentsFit (placing : Placing tar) (tarBytes : List UInt8) :
    Bounded limits (validateAndExtract tar setPermissions dest limits tarBytes).effects ↔
      ContentsFit tar setPermissions dest limits placing tarBytes := by
  unfold validateAndExtract ContentsFit
  cases yields : tar.entries tarBytes with
  | error source =>
    apply iff_of_true
    · exact ⟨fun effect member => (List.not_mem_nil member).elim, Nat.zero_le _⟩
    · intro items same
      cases same
  | ok items =>
    have written := @extractEntries_fits_iff _ setPermissions dest limits placing items 0 0 0 (Nat.zero_le _)
    rw [Nat.zero_add] at written
    simp only [Except.ok.injEq, forall_eq', copiedBytes_eq]
    constructor
    · intro bounded
      exact written.mpr ⟨bounded.files, bounded.total⟩
    · intro fits
      obtain ⟨files, total⟩ := written.mp fits
      exact ⟨files, total⟩

/-! ## Archives whose headers tell the truth -/

theorem saturatingAdd_toNat {first second : UInt64} (below : saturatingAdd first second < UInt64.ofNat (2 ^ 64 - 1)) :
    (saturatingAdd first second).toNat = first.toNat + second.toNat := by
  unfold saturatingAdd at below ⊢
  split
  · next small =>
    rw [UInt64.toNat_add]
    exact Nat.mod_eq_of_lt small
  -- at the bound the sum may stand for anything larger, so it has to be below it
  · next large =>
    rw [if_neg large] at below
    exact absurd below (by decide)

/-- Lengths that the headers cover fit, since the headers are checked. -/
theorem fits_of_headers {length : Nat → Entry → Nat} (finite : limits.maxTotalBytes < UInt64.ofNat (2 ^ 64 - 1))
    (items : List (Except IoError Entry)) (before index : Nat) (total : UInt64) (covered : before ≤ total.toNat)
    (headers : ∀ k entry size, items[k]? = some (.ok entry) → entry.size = .ok size →
      length (index + k) entry ≤ size.toNat) :
    Fits tar setPermissions dest limits length before index total items := by
  -- what has been written so far stays within the sum of the header sizes so far
  induction items generalizing before index total with
  | nil => exact fits_of_stop fun entry checked => by simpa using checked.yielded
  | cons item rest ih =>
    cases item with
    | error source => exact fits_of_stop fun entry checked => by simpa using checked.yielded
    | ok entry =>
      by_cases checked : Checked limits total (.ok entry :: rest) 0 entry
      · have ⟨_, _, ⟨size, measured, small⟩, fits⟩ := checked
        rw [totalThrough_zero total measured] at fits
        have sum := saturatingAdd_toNat (UInt64.lt_of_le_of_lt fits finite)
        have short : length index entry ≤ size.toNat := headers 0 entry size rfl measured
        have small := UInt64.le_iff_toNat_le.mp small
        have room := UInt64.le_iff_toNat_le.mp fits
        have first : length index entry ≤ limits.maxEntryBytes.toNat ∧
            before + length index entry ≤ limits.maxTotalBytes.toNat := by omega
        rcases extractEntries_cons index total entry rest with ⟨-, stop⟩ | ⟨path, size', measured', accepted, -⟩
        · exact (fits_last checked stop).mpr first
        · obtain rfl : size = size' := by simpa [measured] using measured'
          apply (fits_cons measured accepted).mpr ⟨first, ih _ _ _ (by omega) ?_⟩
          intro k other size yielded
          have position : index + 1 + k = index + (k + 1) := by omega
          rw [position]
          exact headers (k + 1) other size (by simpa using yielded)
      · apply fits_of_stop
        intro other here
        obtain rfl : entry = other := by simpa using here.yielded
        exact checked here

/-- No entry has a size record that counts instead of its header. -/
def PaxSizes.NoOverride (sizes : PaxSizes tar) (tarBytes : List UInt8) : Prop :=
  ∀ items k entry size, tar.entries tarBytes = .ok items → items[k]? = some (.ok entry) → entry.size = .ok size →
    contentSize (sizes.paxSize tarBytes k) size = size

theorem contentsFit_of_noOverride (placing : Placing tar) {sizes : PaxSizes tar} {tarBytes : List UInt8}
    (finite : limits.maxTotalBytes < UInt64.ofNat (2 ^ 64 - 1)) (plain : sizes.NoOverride tarBytes) :
    ContentsFit tar setPermissions dest limits placing tarBytes := by
  intro items yields
  apply fits_of_headers finite items 0 0 0 (Nat.zero_le _)
  intro k entry size yielded measured
  have length := sizes.content_size tarBytes items k entry size yields yielded measured
  rw [plain items k entry size yields yielded measured] at length
  exact length ▸ copiedBytes_le placing _ entry

/-- What an extraction writes stays within both limits, at every point of it, exactly where the contents do that get
copied. They do, under a total limit that can be exceeded, where no size record stands over a header of zero. -/
theorem sizes_bounded_iff (tar : TarCrate) (placing : Placing tar) (setPermissions : SetPermissions) (dest : Path)
    (limits : TarLimits) (tarBytes : List UInt8) :
    ((∀ seen, Seen (validateAndExtract tar setPermissions dest limits tarBytes).effects seen → Bounded limits seen) ↔
      ContentsFit tar setPermissions dest limits placing tarBytes) ∧
    ∀ sizes : PaxSizes tar, limits.maxTotalBytes < UInt64.ofNat (2 ^ 64 - 1) → sizes.NoOverride tarBytes →
      ContentsFit tar setPermissions dest limits placing tarBytes :=
  ⟨bounded_at_every_point.trans (bounded_iff_contentsFit placing tarBytes),
    fun _ finite plain => contentsFit_of_noOverride placing finite plain⟩

/-! ## An archive whose header says zero -/

theorem documentedUnpackIn_places {entry : Entry} {dest path : Path}
    (unpacked : (documentedUnpackIn entry dest).2 = .ok true) (named : entry.path = .ok path) :
    (documentedUnpackIn entry dest).1 =
      placement (entry.entryType ≠ .directory) entry.content entry.mode dest (normalNames path) := by
  unfold documentedUnpackIn at unpacked ⊢
  unfold placement
  simp only [named] at unpacked ⊢
  split at unpacked
  · cases unpacked
  · next descending =>
    rw [if_neg descending]
    by_cases empty : normalNames path = []
    · simp [empty]
    · by_cases directory : entry.entryType = .directory <;> simp [empty, directory]

theorem content?_placement (file : Bool) (content : List UInt8) (mode : Nat) (dest : Path) (names : List Name) :
    (placement file content mode dest names).filterMap Effect.content? = [] ∨
      (placement file content mode dest names).filterMap Effect.content? = [content] := by
  have parents : ∀ above : List (List Name),
      (above.map fun parents => Effect.createDir (pushAll dest parents)).filterMap Effect.content? = [] := by
    intro above
    simp [Effect.content?]
  unfold placement
  by_cases empty : names = []
  · simp [empty]
  · cases file <;> simp [empty, parents, Effect.content?]

/-- The documented crate, over headers that are not of the old format. -/
def documentedPlacing (archive : List UInt8) (items : List (Except IoError Entry)) :
    Placing (documentedCrate archive items) where
  isFile entry := entry.entryType ≠ .directory
  directory_is_no_file entry directory := by simp [directory]
  regular_is_file entry path regular _ _ := by simp [regular]
  places _ entry dest path unpacked named := ⟨entry.mode, documentedUnpackIn_places unpacked named⟩
  copies _ entry dest := by
    have whole : (documentedUnpackIn entry dest).1 = [] ∨ ∃ mode names,
        (documentedUnpackIn entry dest).1 = placement (entry.entryType ≠ .directory) entry.content mode dest names := by
      cases named : entry.path with
      | error source => exact .inl (by simp [documentedUnpackIn, named])
      | ok path =>
        by_cases above : .parentDir ∈ components path
        · exact .inl (by simp [documentedUnpackIn, named, above])
        · refine .inr ⟨entry.mode, normalNames path, documentedUnpackIn_places ?_ named⟩
          simp only [documentedUnpackIn, named, above, if_false]
          split <;> rfl
    simp only [documentedCrate]
    rcases whole with nothing | ⟨mode, names, placed⟩
    · exact .inl (by simp [nothing])
    · rw [placed]
      exact (content?_placement _ _ _ _ _).imp_right fun content => ⟨entry.content, List.prefix_rfl, content⟩

/-- One block of an extension header, which applies to the entry after it. -/
def paxHeader (name size checksum : String) : List UInt8 :=
  asciiField name 100 ++ asciiField "0000644" 8 ++ asciiField "" 8 ++ asciiField "" 8 ++
    asciiField size 12 ++ asciiField "00000000000" 12 ++ asciiField checksum 8 ++ asciiField "x" 1 ++
    asciiField "" 100 ++ asciiField "ustar  " 8 ++ asciiField "" 247

/-- One regular file of five bytes. Its header says zero, the extension before it says five. -/
def paxArchive : List UInt8 :=
  paxHeader "pax" "00000000012" "005261" ++ asciiField "10 size=5\n" 512 ++
    gnuHeader "a.txt" "00000000000" "005414" ++ asciiField "abcde" 512 ++ List.replicate 1024 0

example : ((paxHeader "pax" "00000000012" "        ").map UInt8.toNat).sum = 0o5261 ∧
    headerSum "a.txt" "00000000000" = 0o5414 := by decide +kernel

def paxEntry : Entry where
  entryType := .regular
  size := .ok 0
  mode := 0o644
  path := .ok "a.txt".toList
  content := asciiField "abcde" 5

def paxSizes : PaxSizes (documentedCrate paxArchive [.ok paxEntry]) where
  paxSize tarBytes k := if tarBytes = paxArchive ∧ k = 0 then some 5 else none
  content_size tarBytes items k entry size yields yielded measured := by
    simp only [documentedCrate] at yields
    split at yields
    · next same =>
      cases yields
      cases k with
      | zero =>
        obtain rfl : paxEntry = entry := by simpa using yielded
        obtain rfl : 0 = size := Except.ok.inj measured
        -- the header says zero, so the record's five count
        rw [if_pos ⟨same, rfl⟩]
        rfl
      | succ k => simp at yielded
    · cases yields

theorem paxArchive_yields : (documentedCrate paxArchive [.ok paxEntry]).entries paxArchive = .ok [.ok paxEntry] := by
  simp [documentedCrate]

/-- The limit for one entry is four bytes, and five are written. -/
theorem pax_size_exceeds_limit :
    ¬ ∀ seen, Seen (validateAndExtract (documentedCrate paxArchive [.ok paxEntry]) (fun _ _ _ => .ok ())
      stagingSlot ⟨4, 8⟩ paxArchive).effects seen → Bounded ⟨4, 8⟩ seen := by
  intro always
  have bounded := bounded_at_every_point.mp always
  simp only [validateAndExtract, paxArchive_yields] at bounded
  have written := bounded.files (.writeFile (pushAll stagingSlot ["a.txt".toList]) paxEntry.content)
    (by decide +kernel)
  exact absurd written (by decide)

/-- The same file with its size in the header. -/
def plainArchive : List UInt8 :=
  gnuHeader "a.txt" "00000000005" "005421" ++ asciiField "abcde" 512 ++ List.replicate 1024 0

example : headerSum "a.txt" "00000000005" = 0o5421 := by decide +kernel

def plainEntry : Entry := { paxEntry with size := .ok 5 }

def plainSizes : PaxSizes (documentedCrate plainArchive [.ok plainEntry]) where
  paxSize _ _ := none
  content_size tarBytes items k entry size yields yielded measured := by
    simp only [documentedCrate] at yields
    split at yields
    · cases yields
      cases k with
      | zero =>
        obtain rfl : plainEntry = entry := by simpa using yielded
        obtain rfl : 5 = size := Except.ok.inj measured
        rfl
      | succ k => simp at yielded
    · cases yields

/-- Under a limit of five bytes the five that the record announces fit, which the header does not tell; and so do the
five that a header tells. -/
theorem sizes_bounded_pax :
    (∀ seen, Seen (validateAndExtract (documentedCrate paxArchive [.ok paxEntry]) (fun _ _ _ => .ok ())
      stagingSlot ⟨5, 8⟩ paxArchive).effects seen → Bounded ⟨5, 8⟩ seen) ∧
    ¬ paxSizes.NoOverride paxArchive ∧
    ContentsFit (documentedCrate plainArchive [.ok plainEntry]) (fun _ _ _ => .ok ()) stagingSlot ⟨5, 8⟩
      (documentedPlacing plainArchive [.ok plainEntry]) plainArchive := by
  have overridden := sizes_bounded_iff _ (documentedPlacing paxArchive [.ok paxEntry]) (fun _ _ _ => .ok ()) stagingSlot
    ⟨5, 8⟩ paxArchive
  have plain := sizes_bounded_iff _ (documentedPlacing plainArchive [.ok plainEntry]) (fun _ _ _ => .ok ()) stagingSlot
    ⟨5, 8⟩ plainArchive
  refine ⟨overridden.1.mpr fun items yields k entry reaches checked => ?_, fun told => ?_,
    plain.2 plainSizes (by decide) fun items k entry size yields yielded measured => rfl⟩
  · obtain rfl : [.ok paxEntry] = items := Except.ok.inj (paxArchive_yields.symm.trans yields)
    cases k with
    | zero => decide +kernel
    | succ k => simpa using checked.yielded
  · exact absurd (told _ 0 paxEntry 0 paxArchive_yields rfl rfl) (by decide +kernel)

end AppSalmon.TarValidation
