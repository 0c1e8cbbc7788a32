import Mathlib.Logic.Basic

/-! JSON as a derived serializer writes it and a derived deserializer reads it.

A text is represented by the tree it parses to, since every reader goes through
that tree; a text that is no JSON keeps its own constructor. Fields are found
by name: a missing or doubled one is an error, an unknown one is ignored. A
derived deserializer also takes a sequence for a structure, its fields in their
order, and the content of a tagged enumeration is read from a buffer, which
takes a little more than the text itself.
-/

set_option autoImplicit false

namespace SerdeJson

inductive Json where
  | null
  | bool (value : Bool)
  | integer (value : Int)
  | float (text : String)
  | string (value : String)
  | array (items : List Json)
  | object (fields : List (String × Json))

inductive Text where
  | parsed (tree : Json)
  | malformed (text : String)

abbrev Decoded := Except String

abbrev Fields := List (String × Json)

def Text.tree : Text → Decoded Json
  | .parsed tree => .ok tree
  | .malformed _ => .error "expected value"

def Json.asString : Json → Decoded String
  | .string value => .ok value
  | _ => .error "invalid type, expected a string"

def Json.asBool : Json → Decoded Bool
  | .bool value => .ok value
  | _ => .error "invalid type, expected a boolean"

def Json.asInteger (low high : Int) : Json → Decoded Int
  | .integer value => if low ≤ value ∧ value ≤ high then .ok value else .error "invalid value"
  | _ => .error "invalid type, expected an integer"

/-- The fields of a structure: those of a map, or a sequence of them in their order. -/
def Json.asStruct (names : List String) : Json → Decoded Fields
  | .object fields => .ok fields
  | .array items => if items.length ≤ names.length then .ok (names.zip items) else .error "trailing characters"
  | _ => .error "invalid type, expected a struct"

/-- A variant without content: its name, or a map from its name to nothing. -/
def Json.asUnitVariant : Json → Decoded String
  | .string name => .ok name
  | .object [(name, .null)] => .ok name
  | _ => .error "expected a unit variant"

/-- The same out of a buffer, where an empty map is nothing too. -/
def Json.asBufferedUnitVariant : Json → Decoded String
  | .object [(name, .object [])] => .ok name
  | tree => tree.asUnitVariant

/-- A field that may be absent. -/
def optionalField (fields : Fields) (name : String) : Decoded (Option Json) :=
  match fields.filter (fun field => field.1 = name) with
  | [] => .ok none
  | [(_, value)] => .ok (some value)
  | _ => .error ("duplicate field " ++ name)

def field (fields : Fields) (name : String) : Decoded Json := do
  match ← optionalField fields name with
  | some value => .ok value
  | none => .error ("missing field " ++ name)

/-- An internally tagged enumeration: the tag, and the content beside it. -/
def Json.asTagged (tag : String) : Json → Decoded (Json × Json)
  | .object fields => do return (← field fields tag, .object (fields.filter fun field => field.1 ≠ tag))
  | .array [] => .error ("missing field " ++ tag)
  | .array (first :: rest) => .ok (first, .array rest)
  | _ => .error "invalid type, expected an internally tagged enum"

/-- A tag out of a buffer is a name, or the position of one. -/
def Json.asBufferedTag (names : List String) : Json → Decoded String
  | .string name => .ok name
  | .integer (.ofNat index) =>
    match names[index]? with
    | some name => .ok name
    | none => .error "invalid value, expected a variant index"
  | _ => .error "invalid type, expected a variant identifier"

/-- The decoding that belongs to a variant's name. -/
def variant {α : Type} (name : String) (variants : List (String × Decoded α)) : Decoded α :=
  match variants.find? (fun entry => entry.1 = name) with
  | some entry => entry.2
  | none => .error ("unknown variant " ++ name)

/-- An `Option` is `null` or absent when empty. -/
def optional {α : Type} (decode : Json → Decoded α) : Option Json → Decoded (Option α)
  | none | some .null => .ok none
  | some value => (decode value).map some

def ofOption {α : Type} (encode : α → Json) : Option α → Json
  | none => .null
  | some value => encode value

@[simp] theorem asString_string (value : String) : (Json.string value).asString = .ok value := rfl

@[simp] theorem asBool_bool (value : Bool) : (Json.bool value).asBool = .ok value := rfl

@[simp] theorem asStruct_object (names : List String) (fields : Fields) :
    (Json.object fields).asStruct names = .ok fields := rfl

@[simp] theorem asUnitVariant_string (name : String) : (Json.string name).asUnitVariant = .ok name := rfl

@[simp] theorem asBufferedUnitVariant_string (name : String) : (Json.string name).asBufferedUnitVariant = .ok name := rfl

@[simp] theorem asBufferedTag_string (names : List String) (name : String) :
    (Json.string name).asBufferedTag names = .ok name := rfl

theorem asInteger_integer {low high value : Int} (above : low ≤ value) (below : value ≤ high) :
    (Json.integer value).asInteger low high = .ok value := if_pos ⟨above, below⟩

theorem optional_ofOption {α : Type} {encode : α → Json} {decode : Json → Decoded α}
    (encoded : ∀ value, decode (encode value) = .ok value) (kept : ∀ value, encode value ≠ .null)
    (value : Option α) : optional decode (some (ofOption encode value)) = .ok value := by
  cases value with
  | none => rfl
  | some value =>
    have same := encoded value
    have there := kept value
    simp only [ofOption]
    cases shape : encode value with
    | null => exact absurd shape there
    | _ =>
      rw [shape] at same
      simp [optional, same, Except.map]

end SerdeJson
