import Rewind.Json.Value
import Rewind.Text.Decimal

/-!
Writing JSON text.

One printer serves both layouts, which differ only in the blanks between the tokens: `compact` has
none, `indented` starts a line for every item and member, two spaces deeper at each level. An empty
array or object is two brackets in either.
-/

namespace Rewind.Json

/-- The blanks of a layout: in front of an item at a depth, and behind a colon. -/
structure Layout where
  lineBreak : Nat → List Char
  afterColon : List Char

/-- No blanks at all. -/
def Layout.compact : Layout :=
  ⟨fun _ => [], []⟩

/-- One item or member a line, indented by two spaces a level. -/
def Layout.indented : Layout :=
  ⟨fun depth => '\n' :: List.replicate (2 * depth) ' ', [' ']⟩

/-- One character inside a string. -/
def escaped (c : Char) : List Char :=
  if c = '"' then ['\\', '"']
  else if c = '\\' then ['\\', '\\']
  else if c.toNat = 0x08 then ['\\', 'b']
  else if c.toNat = 0x09 then ['\\', 't']
  else if c.toNat = 0x0A then ['\\', 'n']
  else if c.toNat = 0x0C then ['\\', 'f']
  else if c.toNat = 0x0D then ['\\', 'r']
  else if c.toNat < 0x20 then
    ['\\', 'u', '0', '0', Decimal.hexDigit (c.toNat / 16), Decimal.hexDigit (c.toNat % 16)]
  else [c]

/-- A string with its quotes. -/
def stringText (text : String) : List Char :=
  '"' :: (text.toList.flatMap escaped ++ ['"'])

mutual

/-- The text of a value that stands at `depth`. -/
def print (layout : Layout) (depth : Nat) : Json → List Char
  | .null | .unreadable => ['n', 'u', 'l', 'l']
  | .bool true => ['t', 'r', 'u', 'e']
  | .bool false => ['f', 'a', 'l', 's', 'e']
  | .int n => Decimal.ofInt n
  | .real literal => literal.toList
  | .str text => stringText text
  | .arr [] => ['[', ']']
  | .arr (item :: items) =>
      '[' :: (layout.lineBreak (depth + 1) ++ print layout (depth + 1) item
        ++ printItems layout (depth + 1) items ++ layout.lineBreak depth ++ [']'])
  | .obj [] => ['\x7b', '\x7d']
  | .obj ((name, value) :: members) =>
      '\x7b' :: (layout.lineBreak (depth + 1) ++ stringText name ++ ':' :: layout.afterColon
        ++ print layout (depth + 1) value ++ printMembers layout (depth + 1) members
        ++ layout.lineBreak depth ++ ['\x7d'])

/-- The items behind the first one, a comma in front of each. -/
def printItems (layout : Layout) (depth : Nat) : List Json → List Char
  | [] => []
  | item :: items =>
      ',' :: (layout.lineBreak depth ++ print layout depth item ++ printItems layout depth items)

/-- The members behind the first one, a comma in front of each. -/
def printMembers (layout : Layout) (depth : Nat) : List (String × Json) → List Char
  | [] => []
  | (name, value) :: members =>
      ',' :: (layout.lineBreak depth ++ stringText name ++ ':' :: layout.afterColon
        ++ print layout depth value ++ printMembers layout depth members)

end

/-- A value on one line. -/
def compact (json : Json) : String :=
  String.ofList (json.print .compact 0)

/-- A value spread over lines. -/
def indented (json : Json) : String :=
  String.ofList (json.print .indented 0)

end Rewind.Json
