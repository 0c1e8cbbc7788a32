import AppSalmon.Domain.TarSizes

/-! The modes of an extracted tree.

The loop sets one mode for each entry, at the path that the entry names. What
`unpack_in` makes on the way there keeps the mode that the umask leaves it.
-/

set_option autoImplicit false

namespace AppSalmon.TarValidation

open UnixPath

/-! ## The tree -/

structure Node where
  directory : Bool
  mode : Nat
  deriving DecidableEq

/-- What stands at each place. -/
abbrev Tree := List Name → Option Node

/-- The bits of a mode that the umask lets through. -/
def masked (mode umask : Nat) : Nat := mode - (mode &&& umask)

def newDirectory (umask : Nat) : Node := ⟨true, masked 0o777 umask⟩

namespace Tree

/-- Whether something new can be made there. -/
def parentStands (tree : Tree) (place : List Name) : Bool := (tree place.dropLast).any Node.directory

/-- What an effect makes of the tree; nothing where the system refuses it. -/
def apply (cwd : List Name) (umask : Nat) (tree : Tree) : Effect → Option Tree
  | .createDir path =>
    match tree (locate cwd path) with
    -- a directory that is there already is let slide
    | some node => if node.directory then some tree else none
    | none =>
      if tree.parentStands (locate cwd path) then some (Function.update tree (locate cwd path) (some (newDirectory umask)))
      else none
  | .writeFile path _ =>
    -- a file replaces a file, and never a directory
    if (tree (locate cwd path)).any Node.directory then none
    else if tree.parentStands (locate cwd path) then
      some (Function.update tree (locate cwd path) (some ⟨false, masked 0o666 umask⟩))
    else none
  | .setMode path mode =>
    (tree (locate cwd path)).map fun node => Function.update tree (locate cwd path) (some { node with mode := mode })

def run (cwd : List Name) (umask : Nat) (tree : Tree) (effects : List Effect) : Option Tree :=
  effects.foldlM (apply cwd umask) tree

/-- `dest` is an empty directory of mode 0755. -/
def EmptyAt (cwd : List Name) (dest : Path) (tree : Tree) : Prop :=
  ∀ names, tree (locate cwd dest ++ names) = if names = [] then some ⟨true, 0o755⟩ else none

/-- From `dest` downwards, directories have mode 0755 and files 0644. -/
def Readable (cwd : List Name) (dest : Path) (tree : Tree) : Prop :=
  ∀ names node, tree (locate cwd dest ++ names) = some node → node.mode = if node.directory then 0o755 else 0o644

variable {cwd : List Name} {umask : Nat}

@[simp] theorem run_nil (tree : Tree) : run cwd umask tree [] = some tree := rfl

theorem run_cons {tree last : Tree} {effect : Effect} {rest : List Effect}
    (ran : run cwd umask tree (effect :: rest) = some last) :
    ∃ next, apply cwd umask tree effect = some next ∧ run cwd umask next rest = some last := by
  simpa [run, Option.bind_eq_some_iff] using ran

theorem run_append {tree last : Tree} {first second : List Effect}
    (ran : run cwd umask tree (first ++ second) = some last) :
    ∃ next, run cwd umask tree first = some next ∧ run cwd umask next second = some last := by
  simpa [run, List.foldlM_append, Option.bind_eq_some_iff] using ran

/-! ## One effect -/

theorem apply_setMode {tree next : Tree} {path : Path} {mode : Nat}
    (applied : apply cwd umask tree (.setMode path mode) = some next) :
    ∃ node, tree (locate cwd path) = some node ∧
      next = Function.update tree (locate cwd path) (some { node with mode := mode }) := by
  simp only [apply, Option.map_eq_some_iff] at applied
  obtain ⟨node, here, rfl⟩ := applied
  exact ⟨node, here, rfl⟩

theorem apply_writeFile {tree next : Tree} {path : Path} {content : List UInt8}
    (applied : apply cwd umask tree (.writeFile path content) = some next) :
    next = Function.update tree (locate cwd path) (some ⟨false, masked 0o666 umask⟩) := by
  simp only [apply, Option.ite_none_left_eq_some, Option.ite_none_right_eq_some, Option.some.injEq] at applied
  exact applied.2.2.symm

/-- Either way there is a directory afterwards. -/
theorem apply_createDir {tree next : Tree} {path : Path}
    (applied : apply cwd umask tree (.createDir path) = some next) :
    (∃ node, next (locate cwd path) = some node ∧ node.directory = true) ∧
      next = Function.update tree (locate cwd path) (some ((tree (locate cwd path)).getD (newDirectory umask))) := by
  simp only [apply] at applied
  cases here : tree (locate cwd path) with
  | some node =>
    simp only [here, Option.ite_none_right_eq_some, Option.some.injEq] at applied
    obtain ⟨directory, rfl⟩ := applied
    exact ⟨⟨node, here, directory⟩, by rw [Option.getD_some, ← here, Function.update_eq_self]⟩
  | none =>
    simp only [here, Option.ite_none_right_eq_some, Option.some.injEq] at applied
    obtain ⟨-, rfl⟩ := applied
    exact ⟨⟨newDirectory umask, Function.update_self .., rfl⟩, rfl⟩

/-- The directories of a list of places are there in the end, and nothing else has changed. -/
theorem run_createDirs {dest : Path} {above : List (List Name)} (plain : ∀ names ∈ above, ∀ name ∈ names, Plain name)
    {tree last : Tree} (ran : run cwd umask tree (above.map fun names => .createDir (pushAll dest names)) = some last) :
    (∀ names ∈ above, ∃ node, last (locate cwd dest ++ names) = some node ∧ node.directory = true) ∧
      ∀ place, last place = if place ∈ above.map (locate cwd dest ++ ·) then
        some ((tree place).getD (newDirectory umask)) else tree place := by
  -- induction on the places, shortest first: a later one finds its parent made by an earlier one
  induction above generalizing tree with
  | nil =>
    obtain rfl := Option.some.inj ran
    simp
  | cons first rest ih =>
    obtain ⟨next, applied, ran⟩ := run_cons ran
    obtain ⟨directories, elsewhere⟩ := ih (fun names member => plain names (List.mem_cons_of_mem _ member)) ran
    obtain ⟨⟨node, here, directory⟩, changed⟩ := apply_createDir applied
    rw [locate_pushAll cwd dest first (plain first List.mem_cons_self)] at here changed
    constructor
    · intro names member
      rcases List.mem_cons.mp member with rfl | later
      · rw [elsewhere]
        split
        -- made now and met again later in the list: it stays what it is
        · exact ⟨node, by rw [here, Option.getD_some], directory⟩
        · exact ⟨node, here, directory⟩
      · exact directories names later
    · intro place
      rw [elsewhere, changed]
      simp only [List.map_cons, List.mem_cons]
      by_cases same : place = locate cwd dest ++ first
      · subst same
        simp
      · simp [same]

/-! ## One entry -/

/-- The effects of a call that succeeds and of the mode change after it. -/
theorem run_placement {dest : Path} {file : Bool} {content : List UInt8} {headerMode : Nat} {names : List Name}
    {path : Path} {mode : Nat} (plain : ∀ name ∈ names, Plain name)
    (target : locate cwd path = locate cwd dest ++ names) {tree last : Tree}
    (ran : run cwd umask tree (placement file content headerMode dest names ++ [.setMode path mode]) = some last)
    (named : names ≠ []) (place : List Name) :
    last place = if place = locate cwd dest ++ names then some ⟨!file, mode⟩
      else if place ∈ names.dropLast.inits.map (locate cwd dest ++ ·) then
        some ((tree place).getD (newDirectory umask)) else tree place := by
  have above : ∀ parents ∈ names.dropLast.inits, ∀ name ∈ parents, Plain name := by
    intro parents member name inside
    have initial := ((List.mem_inits _ _).mp member).trans (List.dropLast_prefix _)
    exact plain name (initial.subset inside)
  -- the parents, the entry itself, the crate's mode and the loop's mode, in this order
  simp only [placement, named, if_false, List.append_assoc, List.cons_append, List.nil_append] at ran
  obtain ⟨stood, parents, ran⟩ := run_append ran
  obtain ⟨-, elsewhere⟩ := run_createDirs above parents
  obtain ⟨made, makes, ran⟩ := run_cons ran
  obtain ⟨own, sets, ran⟩ := run_cons ran
  obtain ⟨normal, normalises, ran⟩ := run_cons ran
  obtain rfl := Option.some.inj ran
  obtain ⟨first, here, rfl⟩ := apply_setMode sets
  obtain ⟨second, there, rfl⟩ := apply_setMode normalises
  rw [locate_pushAll cwd dest names plain] at here there ⊢
  rw [target] at there ⊢
  rw [Function.update_self, Option.some.injEq] at there
  subst there
  -- what has been made at the entry's own place is of the entry's kind
  have kind : first.directory = !file ∧
      ∀ other, other ≠ locate cwd dest ++ names → made other = stood other := by
    cases file with
    | true =>
      have written := apply_writeFile makes
      rw [locate_pushAll cwd dest names plain] at written
      subst written
      rw [Function.update_self, Option.some.injEq] at here
      subst here
      exact ⟨rfl, fun other different => Function.update_of_ne different _ _⟩
    | false =>
      obtain ⟨⟨node, stands, directory⟩, created⟩ := apply_createDir makes
      rw [locate_pushAll cwd dest names plain] at stands created
      obtain rfl : node = first := by simpa [stands] using here
      refine ⟨directory, fun other different => ?_⟩
      rw [created, Function.update_of_ne different]
  -- the loop's mode replaces the crate's, which comes from the header
  by_cases own_place : place = locate cwd dest ++ names
  · subst own_place
    simp [kind.1]
  · rw [Function.update_of_ne own_place, Function.update_of_ne own_place, kind.2 place own_place, elsewhere,
      if_neg own_place]

end Tree

/-! ## The tree after a list of entries -/

variable {tar : TarCrate} {setPermissions : SetPermissions} {dest : Path} {limits : TarLimits}

/-- The entries that have a path, with the names on it. -/
def namedEntries (items : List (Except IoError Entry)) : List (Entry × List Name) :=
  items.filterMap fun item => match item with
    | .ok entry => entry.path.toOption.map fun path => (entry, normalNames path)
    | .error _ => none

/-- What stands below `dest` once these entries are extracted: the last entry of a name decides. -/
def standing (placing : Placing tar) (umask : Nat) (done : List (Entry × List Name)) (names : List Name) : Option Node :=
  match done.reverse.find? fun item => item.2 = names with
  | some item => some ⟨names = [] || !placing.isFile item.1, normalMode item.1.entryType⟩
  | none =>
    if names = [] then some ⟨true, 0o755⟩
    else if ∃ item ∈ done, names <+: item.2 then some (newDirectory umask) else none

theorem standing_append_same (placing : Placing tar) (umask : Nat) (done : List (Entry × List Name)) (entry : Entry)
    (names : List Name) :
    standing placing umask (done ++ [(entry, names)]) names =
      some ⟨names = [] || !placing.isFile entry, normalMode entry.entryType⟩ := by
  simp [standing]

theorem prefix_dropLast_iff {names other : List Name} (named : names ≠ []) :
    other ∈ names.dropLast.inits ↔ other <+: names ∧ other ≠ names := by
  rw [List.mem_inits]
  have whole := List.dropLast_append_getLast named
  constructor
  · intro initial
    refine ⟨initial.trans (List.dropLast_prefix _), ?_⟩
    rintro rfl
    have shorter := initial.length_le
    have long : 0 < other.length := List.length_pos_iff.mpr named
    rw [List.length_dropLast] at shorter
    omega
  · rintro ⟨initial, different⟩
    -- a proper prefix ends before the last name
    rw [← whole] at initial different
    exact (List.prefix_concat_iff.mp initial).resolve_left different

/-- Below `dest` an entry adds its missing parents and decides its own place. -/
theorem standing_append_other (placing : Placing tar) (umask : Nat) (done : List (Entry × List Name)) (entry : Entry)
    {names other : List Name} (different : other ≠ names) :
    standing placing umask (done ++ [(entry, names)]) other =
      if names ≠ [] ∧ other ∈ names.dropLast.inits then
        some ((standing placing umask done other).getD (newDirectory umask)) else standing placing umask done other := by
  have apart : ¬ names = other := fun same => different same.symm
  have below : (∃ item ∈ done ++ [(entry, names)], other <+: item.2) ↔
      (∃ item ∈ done, other <+: item.2) ∨ other <+: names := by
    simp only [List.mem_append, List.mem_singleton, or_and_right, exists_or, exists_eq_left]
  simp only [standing, List.reverse_append, List.reverse_cons, List.reverse_nil, List.nil_append, List.cons_append,
    List.find?_cons, apart, decide_false]
  cases found : done.reverse.find? fun item => item.2 = other with
  -- an earlier entry of this name decides, whatever is made around it
  | some item => simp
  | none =>
    by_cases root : other = []
    · simp [root]
    · simp only [root, if_false, below]
      -- no entry of its own: there since an earlier entry below it, or since this one, or not at all
      by_cases under : ∃ item ∈ done, other <+: item.2
      · simp only [under, true_or, if_true, Option.getD_some, ite_self]
      · simp only [under, false_or, if_false, Option.getD_none]
        by_cases initial : other <+: names
        · have named : names ≠ [] := by
            rintro rfl
            exact root (List.prefix_nil.mp initial)
          rw [if_pos initial, if_pos ⟨named, (prefix_dropLast_iff named).mpr ⟨initial, different⟩⟩]
        · rw [if_neg initial, if_neg]
          rintro ⟨named, parent⟩
          exact initial ((prefix_dropLast_iff named).mp parent).1

/-- `dest` itself is always a directory. -/
theorem standing_root (placing : Placing tar) (umask : Nat) (done : List (Entry × List Name)) :
    ∃ mode, standing placing umask done [] = some ⟨true, mode⟩ := by
  unfold standing
  split
  · exact ⟨_, rfl⟩
  · exact ⟨0o755, rfl⟩

def Describes (placing : Placing tar) (cwd : List Name) (umask : Nat) (dest : Path) (done : List (Entry × List Name))
    (tree : Tree) : Prop :=
  ∀ names, tree (locate cwd dest ++ names) = standing placing umask done names

theorem describes_entry {placing : Placing tar} {cwd : List Name} {umask : Nat} {done : List (Entry × List Name)}
    {tree last : Tree} (describes : Describes placing cwd umask dest done tree) {entry : Entry} {path : Path}
    {headerMode : Nat} (relative : hasRoot path = false) (descending : Component.parentDir ∉ components path)
    (ran : tree.run cwd umask (placement (placing.isFile entry) entry.content headerMode dest (normalNames path) ++
      [.setMode (join dest path) (normalMode entry.entryType)]) = some last) :
    Describes placing cwd umask dest (done ++ [(entry, normalNames path)]) last := by
  have target : locate cwd (join dest path) = locate cwd dest ++ normalNames path := by
    rw [locate_join cwd dest path relative, locate_relative _ relative descending]
  intro names
  by_cases named : normalNames path = []
  -- an entry without a name is `dest` itself: nothing is placed, and its mode is set all the same
  · rw [named, List.append_nil] at target
    rw [named] at ran ⊢
    simp only [placement, if_true, List.nil_append] at ran
    obtain ⟨next, applied, ran⟩ := Tree.run_cons ran
    obtain rfl := Option.some.inj ran
    obtain ⟨node, here, rfl⟩ := Tree.apply_setMode applied
    rw [target] at here ⊢
    by_cases root : names = []
    · obtain ⟨mode, own⟩ := standing_root placing umask done
      have stands := describes []
      rw [List.append_nil, here, own, Option.some.injEq] at stands
      subst root stands
      rw [standing_append_same, List.append_nil, Function.update_self]
      rfl
    · have elsewhere : locate cwd dest ++ names ≠ locate cwd dest := by simpa using root
      rw [standing_append_other placing umask done entry root, Function.update_of_ne elsewhere, describes]
      simp
  · have changed := Tree.run_placement normalNames_plain target ran named (locate cwd dest ++ names)
    rw [changed, describes]
    by_cases same : names = normalNames path
    · subst same
      rw [if_pos rfl, standing_append_same]
      simp [named]
    · rw [if_neg (by simpa using same), standing_append_other placing umask done entry same]
      simp [named]

/-! ## A run that succeeds -/

/-- A loop that succeeds has accepted its first item. -/
theorem extractEntries_ok {index : Nat} {total : UInt64} {item : Except IoError Entry}
    {rest : List (Except IoError Entry)}
    (ok : (extractEntries tar setPermissions dest limits index total (item :: rest)).result = .ok ()) :
    ∃ entry path next, item = .ok entry ∧ entry.path = .ok path ∧
      (tar.unpackIn index entry dest).2 = .ok true ∧
      (extractEntries tar setPermissions dest limits (index + 1) next rest).result = .ok () ∧
      (extractEntries tar setPermissions dest limits index total (item :: rest)).effects =
        ((tar.unpackIn index entry dest).1 ++ [.setMode (join dest path) (normalMode entry.entryType)]) ++
          (extractEntries tar setPermissions dest limits (index + 1) next rest).effects := by
  cases item with
  | error source => simp [extractEntries] at ok
  | ok entry =>
    cases checked : checkEntry limits index total entry with
    | error why => simp [extractEntries, checked] at ok
    | ok next =>
      cases unpacked : (tar.unpackIn index entry dest).2 with
      | error source => simp [extractEntries, checked, unpacked] at ok
      | ok placed =>
        cases placed with
        -- skipped by the crate: the loop takes that for an error
        | false => simp [extractEntries, checked, unpacked] at ok
        | true =>
          cases named : entry.path with
          | error source => simp [extractEntries, checked, unpacked, named] at ok
          | ok path =>
            cases permitted : setPermissions index (join dest path) (normalMode entry.entryType) with
            | error source => simp [extractEntries, checked, unpacked, named, permitted] at ok
            | ok done =>
              simp only [extractEntries, checked, unpacked, named, permitted] at ok
              refine ⟨entry, path, next, rfl, named, unpacked, ok, ?_⟩
              simp [extractEntries, checked, unpacked, named, permitted]

/-- No entry has an absolute path. -/
def RelativePaths (items : List (Except IoError Entry)) : Prop :=
  ∀ entry path, .ok entry ∈ items → entry.path = .ok path → hasRoot path = false

theorem describes_run {placing : Placing tar} {cwd : List Name} {umask : Nat} (items : List (Except IoError Entry))
    (relative : RelativePaths items) {index : Nat} {total : UInt64} {done : List (Entry × List Name)} {tree last : Tree}
    (describes : Describes placing cwd umask dest done tree)
    (ok : (extractEntries tar setPermissions dest limits index total items).result = .ok ())
    (ran : tree.run cwd umask (extractEntries tar setPermissions dest limits index total items).effects = some last) :
    Describes placing cwd umask dest (done ++ namedEntries items) last := by
  induction items generalizing index total done tree with
  | nil =>
    obtain rfl := Option.some.inj ran
    simpa [namedEntries] using describes
  | cons item rest ih =>
    obtain ⟨entry, path, after, rfl, named, unpacked, continues, effects⟩ := extractEntries_ok ok
    -- the crate places nothing with `..` in its path, so the loop's own joining stays below `dest`
    have descending : .parentDir ∉ components path := by
      intro above
      rw [tar.refuses_parent index entry dest path named above] at unpacked
      cases unpacked
    obtain ⟨mode, placed⟩ := placing.places index entry dest path unpacked named
    rw [effects, placed] at ran
    obtain ⟨middle, first, later⟩ := Tree.run_append ran
    have onward := describes_entry describes (relative entry path List.mem_cons_self named) descending first
    have relative' : RelativePaths rest := fun other name member => relative other name (List.mem_cons_of_mem _ member)
    have whole := ih relative' onward continues later
    have split : namedEntries (.ok entry :: rest) = (entry, normalNames path) :: namedEntries rest := by
      simp [namedEntries, named, Except.toOption]
    rwa [split, ← List.singleton_append, ← List.append_assoc]

/-! ## When the tree is readable -/

/-- Every directory above an entry has an entry of its own or gets mode 0755 from the umask; and the last entry of each
name leaves there what its header says, a directory for a directory and a file for a file. -/
structure ModesNormalised (placing : Placing tar) (umask : Nat) (items : List (Except IoError Entry)) : Prop where
  parents : ∀ item ∈ namedEntries items, ∀ above, above <+: item.2 → above ≠ [] →
    (∃ other ∈ namedEntries items, other.2 = above) ∨ masked 0o777 umask = 0o755
  last : ∀ before item after, namedEntries items = before ++ item :: after → (∀ other ∈ after, other.2 ≠ item.2) →
    item.1.entryType = .directory ∨ placing.isFile item.1 = true ∧ item.2 ≠ []

theorem find_last_iff {done : List (Entry × List Name)} {item : Entry × List Name} {names : List Name} :
    done.reverse.find? (fun item => item.2 = names) = some item ↔
      item.2 = names ∧ ∃ before after, done = before ++ item :: after ∧ ∀ other ∈ after, other.2 ≠ item.2 := by
  rw [List.find?_eq_some_iff_append]
  simp only [decide_eq_true_eq, Bool.not_eq_true', decide_eq_false_iff_not]
  apply and_congr_right
  rintro rfl
  constructor
  · rintro ⟨late, early, same, others⟩
    refine ⟨early.reverse, late.reverse, ?_, fun other member => others other (List.mem_reverse.mp member)⟩
    rw [← List.reverse_reverse done, same]
    simp
  · rintro ⟨before, after, rfl, others⟩
    refine ⟨after.reverse, before.reverse, by simp, fun other member => others other (List.mem_reverse.mp member)⟩

/-- The mode of an entry's header type against what is placed for it. -/
theorem normalMode_iff (placing : Placing tar) (entry : Entry) (names : List Name) :
    normalMode entry.entryType = (if (names = [] || !placing.isFile entry) = true then 0o755 else 0o644) ↔
      entry.entryType = .directory ∨ placing.isFile entry = true ∧ names ≠ [] := by
  by_cases directory : entry.entryType = .directory
  · have placed := placing.directory_is_no_file entry directory
    simp [normalMode, directory, placed]
  · by_cases root : names = []
    · simp [normalMode, directory, root]
    · cases file : placing.isFile entry <;> simp [normalMode, directory, root]

theorem readable_iff {placing : Placing tar} {cwd : List Name} {umask : Nat} {items : List (Except IoError Entry)}
    {tree : Tree} (describes : Describes placing cwd umask dest (namedEntries items) tree) :
    tree.Readable cwd dest ↔ ModesNormalised placing umask items := by
  constructor
  · intro readable
    constructor
    · intro item member above initial proper
      -- a parent without an entry of its own shows the mode that the umask left it
      by_cases own : ∃ other ∈ namedEntries items, other.2 = above
      · exact .inl own
      · right
        have unnamed : (namedEntries items).reverse.find? (fun item => item.2 = above) = none := by
          rw [List.find?_eq_none]
          intro other inside
          simpa using fun same => own ⟨other, List.mem_reverse.mp inside, same⟩
        have here := describes above
        simp only [standing, unnamed, proper, if_false] at here
        rw [if_pos ⟨item, member, initial⟩] at here
        exact readable above _ here
    · intro before item after same others
      have found := find_last_iff.mpr ⟨rfl, before, after, same, others⟩
      have here := describes item.2
      simp only [standing, found] at here
      exact (normalMode_iff placing item.1 item.2).mp (readable item.2 _ here)
  · intro normalised names node here
    rw [describes] at here
    unfold standing at here
    split at here
    · next item found =>
      -- named by an entry, and the last of that name decides
      obtain ⟨rfl, before, after, same, others⟩ := find_last_iff.mp found
      obtain rfl := Option.some.inj here
      exact (normalMode_iff placing item.1 item.2).mpr (normalised.last before item after same others)
    · next unnamed =>
      split at here
      · obtain rfl := Option.some.inj here
        rfl
      · next proper =>
        split at here
        · next under =>
          obtain ⟨item, member, initial⟩ := under
          obtain rfl := Option.some.inj here
          -- only a parent of an entry
          rcases normalised.parents item member names initial proper with ⟨other, inside, same⟩ | default_mode
          · have absent := List.find?_eq_none.mp unnamed other (List.mem_reverse.mpr inside)
            simp [same] at absent
          · exact default_mode
        · cases here

/-- Whether an extraction that succeeds leaves everything readable depends on the names, the kinds and the order of the
entries and on the umask, and not on the modes in the headers. -/
theorem extracted_readable_iff (tar : TarCrate) (placing : Placing tar) (setPermissions : SetPermissions)
    (limits : TarLimits) (cwd : List Name) (dest : Path) (umask : Nat) {tarBytes : List UInt8}
    {items : List (Except IoError Entry)} (yields : tar.entries tarBytes = .ok items) (relative : RelativePaths items)
    (ok : (validateAndExtract tar setPermissions dest limits tarBytes).result = .ok ()) {before after : Tree}
    (empty : before.EmptyAt cwd dest)
    (leads : before.run cwd umask (validateAndExtract tar setPermissions dest limits tarBytes).effects = some after) :
    after.Readable cwd dest ↔ ModesNormalised placing umask items := by
  simp only [validateAndExtract, yields] at ok leads
  have initial : Describes placing cwd umask dest [] before := by
    intro names
    rw [empty names]
    simp [standing]
  have describes := describes_run items relative initial ok leads
  rw [List.nil_append] at describes
  exact readable_iff describes

def emptyStaging : Tree := fun place => if place = locate [] stagingSlot then some ⟨true, 0o755⟩ else none

theorem emptyStaging_emptyAt : emptyStaging.EmptyAt [] stagingSlot := by
  intro names
  by_cases root : names = []
  · simp [emptyStaging, root]
  · simp [emptyStaging, root]

/-- One header block for a directory. -/
def directoryHeader (name checksum : String) : List UInt8 :=
  asciiField name 100 ++ asciiField "0000755" 8 ++ asciiField "" 8 ++ asciiField "" 8 ++
    asciiField "00000000000" 12 ++ asciiField "00000000000" 12 ++ asciiField checksum 8 ++ asciiField "5" 1 ++
    asciiField "" 100 ++ asciiField "ustar  " 8 ++ asciiField "" 247

/-- A directory and a file in it. -/
def nestedArchive : List UInt8 :=
  directoryHeader "functions/" "006455" ++ gnuHeader "functions/a.txt" "00000000005" "007431" ++
    asciiField "abcde" 512 ++ List.replicate 1024 0

example : ((directoryHeader "functions/" "        ").map UInt8.toNat).sum = 0o6455 ∧
    headerSum "functions/a.txt" "00000000005" = 0o7431 := by decide +kernel

def nestedEntries : List (Except IoError Entry) :=
  [.ok ⟨.directory, .ok 0, 0o755, .ok "functions/".toList, []⟩,
    .ok { plainEntry with path := .ok "functions/a.txt".toList }]

/-- Under a umask that leaves nothing to others, a directory with an entry of its own and the file in it can be read. -/
theorem nested_archive_readable :
    ∃ after, emptyStaging.run [] 0o077 (validateAndExtract (documentedCrate nestedArchive nestedEntries)
        (fun _ _ _ => .ok ()) stagingSlot ⟨1024, 4096⟩ nestedArchive).effects = some after ∧
      after.Readable [] stagingSlot := by
  have yields : (documentedCrate nestedArchive nestedEntries).entries nestedArchive = .ok nestedEntries := by
    simp [documentedCrate]
  have runs : (emptyStaging.run [] 0o077 (validateAndExtract (documentedCrate nestedArchive nestedEntries)
      (fun _ _ _ => .ok ()) stagingSlot ⟨1024, 4096⟩ nestedArchive).effects).isSome = true := by
    simp only [validateAndExtract, yields]
    decide +kernel
  obtain ⟨after, leads⟩ := Option.isSome_iff_exists.mp runs
  have relative : RelativePaths nestedEntries := by
    intro entry path member named
    rcases List.mem_pair.mp member with same | same <;> cases same <;> cases named <;> rfl
  have kinds : ∀ item ∈ namedEntries nestedEntries, item.1.entryType = .directory ∨
      (documentedPlacing nestedArchive nestedEntries).isFile item.1 = true ∧ item.2 ≠ [] := by
    intro item member
    rcases List.mem_pair.mp member with rfl | rfl
    · exact .inl rfl
    · exact .inr ⟨rfl, by decide⟩
  have parents : ∀ item ∈ namedEntries nestedEntries, ∀ above ∈ item.2.inits, above ≠ [] →
      ∃ other ∈ namedEntries nestedEntries, other.2 = above := by
    have names : ∀ item ∈ namedEntries nestedEntries, ∀ above ∈ item.2.inits, above ≠ [] →
        above ∈ (namedEntries nestedEntries).map Prod.snd := by
      decide +kernel
    exact fun item member above initial proper => List.mem_map.mp (names item member above initial proper)
  refine ⟨after, leads, (extracted_readable_iff _ (documentedPlacing _ _) _ _ _ _ _ yields relative ?_ emptyStaging_emptyAt
    leads).mpr ⟨fun item member above initial proper => .inl ?_, fun before item after same others => kinds item ?_⟩⟩
  · simp only [validateAndExtract, yields]
    decide +kernel
  · exact parents item member above ((List.mem_inits _ _).mpr initial) proper
  · rw [same]
    exact List.mem_append_right _ List.mem_cons_self

/-! ## An archive that closes `dest` -/

/-- One regular entry, whose name is `.` and which is empty. -/
def dotArchive : List UInt8 := gnuHeader "." "00000000000" "004513" ++ List.replicate 1024 0

example : headerSum "." "00000000000" = 0o4513 := by decide +kernel

def dotEntry : Entry where
  entryType := .regular
  size := .ok 0
  mode := 0o644
  path := .ok ".".toList
  content := []

/-- Nothing is extracted, and `dest` itself gets the mode of a file. -/
theorem dot_entry_closes_dest :
    (validateAndExtract (documentedCrate dotArchive [.ok dotEntry]) (fun _ _ _ => .ok ()) stagingSlot ⟨1024, 4096⟩
        dotArchive).result = .ok () ∧
      ∃ after, emptyStaging.run [] 0o022 (validateAndExtract (documentedCrate dotArchive [.ok dotEntry])
          (fun _ _ _ => .ok ()) stagingSlot ⟨1024, 4096⟩ dotArchive).effects = some after ∧
        ¬ after.Readable [] stagingSlot := by
  have yields : (documentedCrate dotArchive [.ok dotEntry]).entries dotArchive = .ok [.ok dotEntry] := by
    simp [documentedCrate]
  simp only [validateAndExtract, yields]
  constructor
  · decide +kernel
  have ran : ((emptyStaging.run [] 0o022 (extractEntries (documentedCrate dotArchive [.ok dotEntry])
      (fun _ _ _ => .ok ()) stagingSlot ⟨1024, 4096⟩ 0 0 [.ok dotEntry]).effects).map fun tree =>
        tree (locate [] stagingSlot)) = some (some ⟨true, 0o644⟩) := by decide +kernel
  obtain ⟨after, leads, here⟩ := Option.map_eq_some_iff.mp ran
  refine ⟨after, leads, fun readable => ?_⟩
  have mode := readable [] ⟨true, 0o644⟩ (by rwa [List.append_nil])
  cases mode

end AppSalmon.TarValidation
