/-!
JSON values.

Members keep their order and their repetitions, because records refuse a repeated field. Numbers
that are whole by spelling are kept exactly; all others keep their spelling, since no record of this
library holds a fraction.
-/

namespace Rewind

/-- A JSON value as it was spelled. -/
inductive Json where
  | null
  | bool (value : Bool)
  /-- A number without fraction and exponent. -/
  | int (value : Int)
  /-- Any other number, also a negative zero. -/
  | real (literal : String)
  | str (value : String)
  | arr (items : List Json)
  | obj (members : List (String × Json))
  /-- Well-formed text that has no value: a string, or a member's name, with half a surrogate pair,
  or a number too large for a double. -/
  | unreadable
deriving Inhabited

namespace Json

/-- The first member of that name; a value that is no object has none. -/
def get? (name : String) : Json → Option Json
  | .obj members => (members.find? (·.1 = name)).map Prod.snd
  | _ => none

/-- The member of that name, unless it is absent or null. -/
def present? (name : String) (json : Json) : Option Json :=
  match json.get? name with
  | some .null => none
  | found => found

/-- A number from a count. -/
def nat (n : Nat) : Json :=
  .int n

/-- A value, or null if there is none. -/
def ofOption {α : Type} (encode : α → Json) : Option α → Json
  | some value => encode value
  | none => .null

/-- A list of encoded values. -/
def ofList {α : Type} (encode : α → Json) (values : List α) : Json :=
  .arr (values.map encode)

/-- One member if there is a value, none otherwise. -/
def optionalMember {α : Type} (name : String) (encode : α → Json) :
    Option α → List (String × Json)
  | some value => [(name, encode value)]
  | none => []

/-- How many arrays and objects stand inside each other. -/
def nesting : Json → Nat
  | .arr items => nestingOfItems items + 1
  | .obj members => nestingOfMembers members + 1
  | _ => 0
where
  nestingOfItems : List Json → Nat
    | [] => 0
    | item :: items => max (nesting item) (nestingOfItems items)
  nestingOfMembers : List (String × Json) → Nat
    | [] => 0
    | (_, value) :: members => max (nesting value) (nestingOfMembers members)

/-- Whether every part of the value has a value. -/
def isReadable : Json → Bool
  | .unreadable => false
  | .arr items => readableItems items
  | .obj members => readableMembers members
  | _ => true
where
  readableItems : List Json → Bool
    | [] => true
    | item :: items => isReadable item && readableItems items
  readableMembers : List (String × Json) → Bool
    | [] => true
    | (_, value) :: members => isReadable value && readableMembers members

end Json

end Rewind
