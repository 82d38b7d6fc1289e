import Rewind.Json.Value

/-!
Reading values and records out of JSON.

A record may be written as an object of its fields or as an array of them in order. Fields that the
record does not know are passed over unread; a field it knows may stand there once. What happens
when a field is absent is the field's own choice: `required` refuses, `optional` gives none (an
array must still hold it), `defaulted` gives a default in either form.
-/

namespace Rewind.Json

/-- Why a text or a value can not be read. -/
inductive Fault where
  /-- The text is no JSON value. -/
  | malformed
  /-- Something else was expected at this place. -/
  | mismatch (expected : String)
  | missing (field : String)
  | repeated (field : String)
  | unknownVariant (name : String)
  /-- The number is not in the range of its field. -/
  | outOfRange
  | tooDeep
  | tooLong
deriving DecidableEq, Repr

def Fault.message : Fault → String
  | .malformed => "the text is not valid JSON"
  | .mismatch expected => s!"expected {expected}"
  | .missing field => s!"missing field {field}"
  | .repeated field => s!"repeated field {field}"
  | .unknownVariant name => s!"unknown variant {name}"
  | .outOfRange => "number out of range"
  | .tooDeep => "nested too deeply"
  | .tooLong => "too many elements"

/-- Reads one kind of value. -/
abbrev Decoder (α : Type) := Json → Except Fault α

def asString : Decoder String
  | .str text => .ok text
  | _ => .error (.mismatch "a string")

def asBool : Decoder Bool
  | .bool value => .ok value
  | _ => .error (.mismatch "a boolean")

/-- Reads a whole number between two bounds, both included. -/
def asBounded (least greatest : Int) : Decoder Int
  | .int n => if least ≤ n ∧ n ≤ greatest then .ok n else .error .outOfRange
  | _ => .error (.mismatch "an integer")

/-- Reads a signed number of 64 bits. -/
def asInt64 : Decoder Int :=
  asBounded Int64.minValue.toInt Int64.maxValue.toInt

/-- Reads a natural number below a limit. -/
def asNat (limit : Nat) (json : Json) : Except Fault Nat :=
  (asBounded 0 (limit - 1) json).map Int.toNat

/-- Reads a value that null stands in for. -/
def asOption {α : Type} (decode : Decoder α) : Decoder (Option α)
  | .null => .ok none
  | json => (decode json).map some

def asList {α : Type} (decode : Decoder α) : Decoder (List α)
  | .arr items => items.mapM decode
  | _ => .error (.mismatch "an array")

/-- Puts an entry into a map that is ordered by its keys, in place of one with the same key. -/
def insertSorted {α : Type} (key : String) (value : α) :
    List (String × α) → List (String × α)
  | [] => [(key, value)]
  | (other, old) :: rest =>
      if key < other then (key, value) :: (other, old) :: rest
      else if other = key then (key, value) :: rest
      else (other, old) :: insertSorted key value rest

/-- Reads an object as a map in the order of its keys; of two members with one name the last one
counts. -/
def asMap {α : Type} (decode : Decoder α) : Decoder (List (String × α))
  | .obj members =>
      members.foldlM
        (fun map entry => (decode entry.2).map fun value => insertSorted entry.1 value map) []
  | _ => .error (.mismatch "an object")

mutual

/-- The same value with the members of every object in the order of their names. -/
def sortKeys : Json → Json
  | .arr items => .arr (sortItems items)
  | .obj members => .obj (sortMembers members)
  | json => json

/-- Every item with its members in order. -/
def sortItems : List Json → List Json
  | [] => []
  | item :: items => sortKeys item :: sortItems items

/-- The members in order, and the members of their values too. -/
def sortMembers : List (String × Json) → List (String × Json)
  | [] => []
  | (name, value) :: members => insertSorted name (sortKeys value) (sortMembers members)

end

/-- The fields of a record as they were found. -/
structure Fields where
  found : List (String × Json)
  /-- Whether they were listed in an array, without names. -/
  positional : Bool

/-- The first name that occurs twice. -/
def firstRepeated? : List String → Option String
  | [] => none
  | name :: names => if names.contains name then some name else firstRepeated? names

/-- The fields among `names` that a value holds. -/
def fields (names : List String) : Decoder Fields
  | .obj members =>
      let known := members.filter fun entry => names.contains entry.1
      match firstRepeated? (known.map Prod.fst) with
      | some name => .error (.repeated name)
      | none => .ok ⟨known, false⟩
  | .arr items =>
      if items.length > names.length then .error .tooLong
      else .ok ⟨names.zip items, true⟩
  | _ => .error (.mismatch "a record")

def Fields.get? (fields : Fields) (name : String) : Option Json :=
  (fields.found.find? (·.1 = name)).map Prod.snd

/-- A field that must be there. -/
def Fields.required {α : Type} (fields : Fields) (name : String) (decode : Decoder α) :
    Except Fault α :=
  match fields.get? name with
  | some json => decode json
  | none => .error (.missing name)

/-- A field that an object may leave out. -/
def Fields.optional {α : Type} (fields : Fields) (name : String) (decode : Decoder α) :
    Except Fault (Option α) :=
  match fields.get? name with
  | some json => asOption decode json
  | none => if fields.positional then .error (.missing name) else .ok none

/-- A field that may be left out in either form. -/
def Fields.defaulted {α : Type} (fields : Fields) (name : String) (default : α)
    (decode : Decoder α) : Except Fault α :=
  match fields.get? name with
  | some json => decode json
  | none => .ok default

/-- The name of a variant and its payload, if it was written with one. -/
def asVariant : Decoder (String × Option Json)
  | .str name => .ok (name, none)
  | .obj [(name, payload)] => .ok (name, some payload)
  | _ => .error (.mismatch "a variant")

/-- Whether a payload is right for a variant that carries nothing. -/
def isUnit : Option Json → Bool
  | none | some .null => true
  | some _ => false

/-- Reads a variant that carries nothing by its name. -/
def asUnitVariant {α : Type} (named : String → Option α) (json : Json) : Except Fault α := do
  let (name, payload) ← asVariant json
  match named name with
  | some value => if isUnit payload then .ok value else .error (.mismatch "null")
  | none => .error (.unknownVariant name)

/-- Reads the fields that a variant carries. -/
def payloadFields (names : List String) : Option Json → Except Fault Fields
  | some payload => fields names payload
  | none => .error (.mismatch "the fields of a variant")

/-- A value that has to be held back before it is read: all of it must have a value, and it may be
nested no deeper than `limit`. -/
def heldBack (limit : Nat) (json : Json) : Except Fault Json :=
  if !json.isReadable then .error .malformed
  else if json.nesting > limit then .error .tooDeep
  else .ok json

end Rewind.Json
