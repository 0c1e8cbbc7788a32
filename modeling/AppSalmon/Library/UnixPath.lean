import Mathlib.Data.List.Basic
import Mathlib.Data.List.Infix
import Mathlib.Tactic.Common

/-! Unix path text, its components, joining, and lexical resolution.

A path is raw text. Doubled separators, `.` and `..` survive in the text and
are interpreted only by `components` and `locate`, so two readers of one path
can be compared.
-/

set_option autoImplicit false

namespace UnixPath

abbrev Path := List Char
abbrev Name := List Char

instance : LawfulBEq Path := inferInstance

inductive Component where
  | rootDir
  | curDir
  | parentDir
  | normal (name : Name)
  deriving DecidableEq, Repr

def hasRoot : Path → Bool
  | [] => false
  | first :: _ => first = '/'

/-- The texts between separators, empty texts included. -/
def segments : Path → List Name
  | [] => [[]]
  | first :: rest =>
      if first = '/' then [] :: segments rest
      else match segments rest with
        | [] => [[first]]
        | head :: tail => (first :: head) :: tail

def bodyComponent (segment : Name) : Option Component :=
  if segment = [] ∨ segment = ['.'] then none
  else if segment = ['.', '.'] then some .parentDir
  else some (.normal segment)

/-- A leading `.` is reported; every other empty or `.` segment is not. -/
def components (path : Path) : List Component :=
  if hasRoot path then .rootDir :: (segments path).filterMap bodyComponent
  else match segments path with
    | ['.'] :: rest => .curDir :: rest.filterMap bodyComponent
    | parts => parts.filterMap bodyComponent

/-- An absolute right operand replaces the base. -/
def join (base path : Path) : Path :=
  if hasRoot path then path
  else if base = [] ∨ base.getLast? = some '/' then base ++ path
  else base ++ '/' :: path

def pushAll (base : Path) (names : List Name) : Path := names.foldl join base

def Component.name? : Component → Option Name
  | .normal name => some name
  | _ => none

def normalNames (path : Path) : List Name := (components path).filterMap Component.name?

/-- Where one more component leads when no symbolic link is on the way. -/
def enter (place : List Name) : Component → List Name
  | .rootDir => []
  | .curDir => place
  | .parentDir => place.dropLast
  | .normal name => place ++ [name]

def locate (cwd : List Name) (path : Path) : List Name := (components path).foldl enter cwd

/-- The place of `path` is the place of `base` or lies strictly below it. -/
def Within (cwd : List Name) (base path : Path) : Prop := locate cwd base <+: locate cwd path

instance (cwd : List Name) (base path : Path) : Decidable (Within cwd base path) :=
  inferInstanceAs (Decidable (_ <+: _))

theorem segments_ne_nil (path : Path) : segments path ≠ [] := by
  cases path with
  | nil => simp [segments]
  | cons first rest =>
    simp only [segments]
    split
    · simp
    · split <;> simp

theorem segments_append (base path : Path) :
    segments (base ++ '/' :: path) = segments base ++ segments path := by
  induction base with
  | nil => simp [segments]
  | cons first rest ih =>
    by_cases separator : first = '/'
    · simp [segments, separator, ih]
    · simp only [List.cons_append, segments, separator, if_false, ih]
      cases parts : segments rest with
      | nil => exact absurd parts (segments_ne_nil rest)
      | cons head tail => simp

theorem segments_no_separator (path : Path) : ∀ segment ∈ segments path, '/' ∉ segment := by
  induction path with
  | nil => simp [segments]
  | cons first rest ih =>
    by_cases separator : first = '/'
    · simpa [segments, separator] using ih
    · simp only [segments, separator, if_false]
      cases parts : segments rest with
      | nil => exact absurd parts (segments_ne_nil rest)
      | cons head tail =>
        rw [parts] at ih
        intro segment member
        rcases List.mem_cons.mp member with same | member
        · subst same
          simpa [Ne.symm separator] using ih head (by simp)
        · exact ih segment (List.mem_cons_of_mem _ member)

theorem hasRoot_join {base path : Path} (nonempty : base ≠ []) (relative : hasRoot path = false) :
    hasRoot (join base path) = hasRoot base := by
  cases base with
  | nil => exact absurd rfl nonempty
  | cons first rest =>
    unfold join
    rw [relative]
    simp only [Bool.false_eq_true, if_false]
    split <;> simp [hasRoot]

/-- Resolution of segment texts; unreported segments leave the place alone. -/
def walk (place : List Name) (parts : List Name) : List Name :=
  (parts.filterMap bodyComponent).foldl enter place

@[simp] theorem walk_append (place : List Name) (first second : List Name) :
    walk place (first ++ second) = walk (walk place first) second := by
  simp [walk]

@[simp] theorem walk_empty (place : List Name) : walk place [[]] = place := by
  simp [walk, bodyComponent]

theorem locate_eq_walk (cwd : List Name) (path : Path) :
    locate cwd path = walk (if hasRoot path then [] else cwd) (segments path) := by
  unfold locate components
  cases rooted : hasRoot path with
  | true => simp [enter, walk]
  | false =>
    simp only [Bool.false_eq_true, if_false]
    split
    · rename_i rest parts
      rw [parts]
      simp [walk, enter, bodyComponent]
    · rfl

theorem segments_of_trailing {base : Path} (trailing : base.getLast? = some '/') :
    ∃ front, base = front ++ ['/'] ∧ segments base = segments front ++ [[]] := by
  obtain ⟨front, same⟩ := List.getLast?_eq_some_iff.mp trailing
  refine ⟨front, same, ?_⟩
  rw [same, segments_append]
  rfl

/-- A relative path is resolved from the place of the base it is joined to. -/
theorem locate_join (cwd : List Name) (base path : Path) (relative : hasRoot path = false) :
    locate cwd (join base path) = locate (locate cwd base) path := by
  by_cases empty : base = []
  · subst empty
    have here : locate cwd [] = cwd := by simp [locate, components, hasRoot, segments, bodyComponent]
    rw [here]
    simp [join, relative]
  · rw [locate_eq_walk _ (join base path), hasRoot_join empty relative, locate_eq_walk _ path,
      locate_eq_walk _ base, relative]
    by_cases trailing : base.getLast? = some '/'
    · obtain ⟨front, same, parts⟩ := segments_of_trailing trailing
      have joined : segments (join base path) = segments front ++ segments path := by
        simp only [join, relative, trailing, or_true, if_true, Bool.false_eq_true, if_false]
        rw [same, List.append_assoc]
        exact segments_append front path
      rw [joined, parts]
      simp
    · have joined : segments (join base path) = segments base ++ segments path := by
        simp only [join, relative, empty, trailing, or_self, Bool.false_eq_true, if_false]
        exact segments_append base path
      rw [joined, walk_append]
      simp

/-- A name that a path component can carry. -/
structure Plain (name : Name) : Prop where
  separator : '/' ∉ name
  nonempty : name ≠ []
  not_current : name ≠ ['.']
  not_parent : name ≠ ['.', '.']

instance (name : Name) : Decidable (Plain name) :=
  decidable_of_iff ('/' ∉ name ∧ name ≠ [] ∧ name ≠ ['.'] ∧ name ≠ ['.', '.'])
    ⟨fun all => ⟨all.1, all.2.1, all.2.2.1, all.2.2.2⟩,
      fun plain => ⟨plain.separator, plain.nonempty, plain.not_current, plain.not_parent⟩⟩

theorem segments_plain {name : Name} (plain : '/' ∉ name) : segments name = [name] := by
  induction name with
  | nil => rfl
  | cons first rest ih =>
    simp only [List.mem_cons, not_or] at plain
    simp [segments, Ne.symm plain.1, ih plain.2]

theorem Plain.relative {name : Name} (plain : Plain name) : hasRoot name = false := by
  cases name with
  | nil => rfl
  | cons first rest =>
    have other : ¬ first = '/' := fun same => plain.separator (by simp [same])
    simp [hasRoot, other]

theorem Plain.locate {name : Name} (plain : Plain name) (cwd : List Name) :
    locate cwd name = cwd ++ [name] := by
  rw [locate_eq_walk, plain.relative, segments_plain plain.separator]
  simp [walk, bodyComponent, plain.nonempty, plain.not_current, plain.not_parent, enter]

theorem bodyComponent_normal {segment name : Name}
    (found : bodyComponent segment = some (.normal name)) (text : '/' ∉ segment) : Plain name := by
  unfold bodyComponent at found
  split at found
  · simp at found
  · rename_i visible
    split at found
    · simp at found
    · rename_i below
      obtain rfl : segment = name := by simpa using found
      exact ⟨text, fun same => visible (.inl same), fun same => visible (.inr same), below⟩

theorem mem_components_body {path : Path} {component : Component} (member : component ∈ components path) :
    component = .rootDir ∨ component = .curDir ∨
      ∃ segment ∈ segments path, bodyComponent segment = some component := by
  unfold components at member
  split at member
  · rcases List.mem_cons.mp member with same | member
    · exact .inl same
    · exact .inr (.inr (List.mem_filterMap.mp member))
  · split at member
    · rename_i rest parts
      rcases List.mem_cons.mp member with same | member
      · exact .inr (.inl same)
      · obtain ⟨segment, inside, found⟩ := List.mem_filterMap.mp member
        exact .inr (.inr ⟨segment, parts ▸ List.mem_cons_of_mem _ inside, found⟩)
    · exact .inr (.inr (List.mem_filterMap.mp member))

theorem normalNames_plain {path : Path} : ∀ name ∈ normalNames path, Plain name := by
  intro name member
  obtain ⟨component, inside, named⟩ := List.mem_filterMap.mp member
  cases component with
  | rootDir | curDir | parentDir => simp [Component.name?] at named
  | normal other =>
    obtain rfl : other = name := by simpa [Component.name?] using named
    rcases mem_components_body inside with same | same | ⟨segment, within, found⟩
    · simp at same
    · simp at same
    · exact bodyComponent_normal found (segments_no_separator path segment within)

theorem locate_pushAll (cwd : List Name) (base : Path) (names : List Name)
    (plain : ∀ name ∈ names, Plain name) :
    locate cwd (pushAll base names) = locate cwd base ++ names := by
  induction names generalizing base with
  | nil => simp [pushAll]
  | cons name rest ih =>
    have first := plain name (by simp)
    have tail := ih (join base name) (fun other member => plain other (List.mem_cons_of_mem _ member))
    simp only [pushAll, List.foldl_cons] at tail ⊢
    rw [tail, locate_join cwd base name first.relative, first.locate, List.append_assoc]
    rfl

/-- Components other than `..` only ever extend the place they start from. -/
theorem enter_descends {parts : List Component} (place : List Name)
    (descending : Component.parentDir ∉ parts) (relative : Component.rootDir ∉ parts) :
    parts.foldl enter place = place ++ parts.filterMap Component.name? := by
  induction parts generalizing place with
  | nil => simp
  | cons first rest ih =>
    simp only [List.mem_cons, not_or] at descending relative
    rw [List.foldl_cons, ih _ descending.2 relative.2]
    cases first with
    | rootDir => exact absurd rfl relative.1
    | parentDir => exact absurd rfl descending.1
    | curDir => simp [enter, Component.name?, List.filterMap_cons]
    | normal name => simp [enter, Component.name?]

theorem rootDir_not_mem_components {path : Path} (relative : hasRoot path = false) :
    Component.rootDir ∉ components path := by
  have body : ∀ parts : List Name, Component.rootDir ∉ parts.filterMap bodyComponent := by
    intro parts member
    obtain ⟨segment, _, found⟩ := List.mem_filterMap.mp member
    simp only [bodyComponent] at found
    split at found
    · simp at found
    · split at found <;> simp at found
  unfold components
  rw [relative]
  simp only [Bool.false_eq_true, if_false]
  split
  · simpa using body _
  · exact body _

theorem locate_relative (cwd : List Name) {path : Path} (relative : hasRoot path = false)
    (descending : Component.parentDir ∉ components path) :
    locate cwd path = cwd ++ normalNames path :=
  enter_descends cwd descending (rootDir_not_mem_components relative)

/-- Joining a relative path without `..` never leaves the base. -/
theorem within_join (cwd : List Name) (base : Path) {path : Path} (relative : hasRoot path = false)
    (descending : Component.parentDir ∉ components path) : Within cwd base (join base path) := by
  unfold Within
  rw [locate_join cwd base path relative, locate_relative _ relative descending]
  exact List.prefix_append _ _

theorem within_pushAll (cwd : List Name) (base : Path) (names : List Name)
    (plain : ∀ name ∈ names, Plain name) : Within cwd base (pushAll base names) := by
  unfold Within
  rw [locate_pushAll cwd base names plain]
  exact List.prefix_append _ _

/-- What a joined path is made of. -/
theorem mem_pushAll {base : Path} {names : List Name} {char : Char} (member : char ∈ pushAll base names) :
    char ∈ base ∨ char = '/' ∨ ∃ name ∈ names, char ∈ name := by
  induction names generalizing base with
  | nil => exact .inl member
  | cons name rest ih =>
    rcases ih member with joined | slash | ⟨other, later, inside⟩
    · rw [join] at joined
      split at joined
      · exact .inr (.inr ⟨name, List.mem_cons_self, joined⟩)
      · split at joined
        · rcases List.mem_append.mp joined with before | inside
          · exact .inl before
          · exact .inr (.inr ⟨name, List.mem_cons_self, inside⟩)
        · rcases List.mem_append.mp joined with before | behind
          · exact .inl before
          · rcases List.mem_cons.mp behind with slash | inside
            · exact .inr (.inl slash)
            · exact .inr (.inr ⟨name, List.mem_cons_self, inside⟩)
    · exact .inr (.inl slash)
    · exact .inr (.inr ⟨other, List.mem_cons_of_mem _ later, inside⟩)

theorem join_absolute (base : Path) {path : Path} (absolute : hasRoot path = true) :
    join base path = path := by
  simp [join, absolute]

end UnixPath
