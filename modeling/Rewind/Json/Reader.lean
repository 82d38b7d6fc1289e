import Rewind.Json.Double
import Rewind.Json.Value
import Rewind.Text.Decimal

/-!
Reading JSON text.

`Json.parse?` accepts the standard grammar and nothing else: no superfluous zero, no plus sign, no
raw control character in a string, no trailing comma, and only blanks behind the value. Recursion is
bounded by a count that starts above the length of the text, and every step takes a character.
-/

namespace Rewind.Json

/-- Drops the blanks that may stand between tokens. -/
def skipBlanks (cs : List Char) : List Char :=
  cs.dropWhile fun c => c = ' ' || c = '\t' || c = '\n' || c = '\r'

/-- The code unit that four digits of base sixteen spell. -/
def hexUnit? (a b c d : Char) : Option Nat := do
  let a ← Decimal.hexValue? a
  let b ← Decimal.hexValue? b
  let c ← Decimal.hexValue? c
  let d ← Decimal.hexValue? d
  some (((a * 16 + b) * 16 + c) * 16 + d)

/-- The character that a letter behind a backslash stands for. -/
def shortEscape? : Char → Option Nat
  | '"' => some 0x22
  | '\\' => some 0x5C
  | '/' => some 0x2F
  | 'b' => some 0x08
  | 'f' => some 0x0C
  | 'n' => some 0x0A
  | 'r' => some 0x0D
  | 't' => some 0x09
  | _ => none

/-- Reads a string behind its opening quote, up to and with the closing one. The result holds code
points, and the halves of surrogate pairs as they were escaped. -/
def stringBody? : List Char → Option (List Nat × List Char)
  | [] => none
  | '"' :: rest => some ([], rest)
  | '\\' :: 'u' :: a :: b :: c :: d :: rest => do
      let unit ← hexUnit? a b c d
      let (points, rest) ← stringBody? rest
      some (unit :: points, rest)
  | '\\' :: letter :: rest => do
      let point ← shortEscape? letter
      let (points, rest) ← stringBody? rest
      some (point :: points, rest)
  | c :: rest =>
      if c.toNat < 0x20 || c = '\\' then none
      else do
        let (points, rest) ← stringBody? rest
        some (c.toNat :: points, rest)

/-- Joins the halves of surrogate pairs; a half on its own spells no text. -/
def joinPairs? : List Nat → Option (List Char)
  | [] => some []
  | high :: rest =>
      if 0xD800 ≤ high ∧ high < 0xDC00 then
        match rest with
        | low :: rest =>
            if 0xDC00 ≤ low ∧ low < 0xE000 then
              (joinPairs? rest).map
                (Char.ofNat (0x10000 + (high - 0xD800) * 0x400 + (low - 0xDC00)) :: ·)
            else none
        | [] => none
      else if 0xDC00 ≤ high ∧ high < 0xE000 then none
      else (joinPairs? rest).map (Char.ofNat high :: ·)

/-- Reads a string behind its opening quote; the text is absent if it has half a pair. -/
def string? (cs : List Char) : Option (Option String × List Char) := do
  let (points, rest) ← stringBody? cs
  some ((joinPairs? points).map String.ofList, rest)

/-- The leading digits and what follows them. -/
def spanDigits (cs : List Char) : List Char × List Char :=
  (cs.takeWhile Char.isDigit, cs.dropWhile Char.isDigit)

/-- Reads the fraction of a number, if a point announces one. -/
def fraction? : List Char → Option (List Char × List Char)
  | '.' :: rest =>
      let (digits, rest) := spanDigits rest
      if digits.isEmpty then none else some (digits, rest)
  | cs => some ([], cs)

/-- Reads digits behind an exponent's sign. -/
def exponentDigits? (negative : Bool) (cs : List Char) : Option (Option Int × List Char) := do
  let (digits, rest) := spanDigits cs
  let size ← Decimal.nat? digits
  some (some (if negative then -(size : Int) else size), rest)

/-- Reads the exponent of a number, if a letter announces one. -/
def exponent? : List Char → Option (Option Int × List Char)
  | c :: rest =>
      if c = 'e' || c = 'E' then
        match rest with
        | '-' :: rest => exponentDigits? true rest
        | '+' :: rest => exponentDigits? false rest
        | rest => exponentDigits? false rest
      else some (none, c :: rest)
  | [] => some (none, [])

/-- Reads the digits in front of the point: a zero, or digits that begin with another one. -/
def wholeDigits? (cs : List Char) : Option (List Char × List Char) :=
  match cs with
  | '0' :: rest => some (['0'], rest)
  | cs =>
      let (digits, rest) := spanDigits cs
      if digits.isEmpty then none else some (digits, rest)

/-- Reads a number without its sign. -/
def unsigned? (negative : Bool) (cs : List Char) : Option (Json × List Char) := do
  let (whole, rest) ← wholeDigits? cs
  let (part, rest) ← fraction? rest
  let (exponent, rest) ← exponent? rest
  if Double.isTooLarge whole part (exponent.getD 0) then some (.unreadable, rest)
  else if part.isEmpty && exponent.isNone then do
    let size ← Decimal.nat? whole
    if negative then
      if size = 0 then some (.real "-0", rest) else some (.int (-(size : Int)), rest)
    else some (.int size, rest)
  else
    let sign := if negative then ['-'] else []
    let point := if part.isEmpty then [] else '.' :: part
    let scale := exponent.elim [] fun e => 'e' :: Decimal.ofInt e
    some (.real (String.ofList (sign ++ whole ++ point ++ scale)), rest)

/-- Reads a number. -/
def number? : List Char → Option (Json × List Char)
  | '-' :: rest => unsigned? true rest
  | cs => unsigned? false cs

/-- An object, unless one of its names spells no text. -/
def ofMembers (members : List (Option String × Json)) : Json :=
  match members.mapM fun entry => entry.1.map fun name => (name, entry.2) with
  | some members => .obj members
  | none => .unreadable

mutual

/-- Reads one value in at most `fuel` nested steps. -/
def value? : Nat → List Char → Option (Json × List Char)
  | 0, _ => none
  | fuel + 1, cs =>
      match skipBlanks cs with
      | 'n' :: 'u' :: 'l' :: 'l' :: rest => some (.null, rest)
      | 't' :: 'r' :: 'u' :: 'e' :: rest => some (.bool true, rest)
      | 'f' :: 'a' :: 'l' :: 's' :: 'e' :: rest => some (.bool false, rest)
      | '"' :: rest => do
          let (text, rest) ← string? rest
          some (text.elim .unreadable .str, rest)
      | '[' :: rest =>
          match skipBlanks rest with
          | ']' :: rest => some (.arr [], rest)
          | rest => do
              let (items, rest) ← items? fuel rest
              some (.arr items, rest)
      | '\x7b' :: rest =>
          match skipBlanks rest with
          | '\x7d' :: rest => some (.obj [], rest)
          | rest => do
              let (members, rest) ← members? fuel rest
              some (ofMembers members, rest)
      | rest => number? rest

/-- Reads the items of an array and its closing bracket. -/
def items? : Nat → List Char → Option (List Json × List Char)
  | 0, _ => none
  | fuel + 1, cs => do
      let (item, rest) ← value? fuel cs
      match skipBlanks rest with
      | ',' :: rest => do
          let (items, rest) ← items? fuel rest
          some (item :: items, rest)
      | ']' :: rest => some ([item], rest)
      | _ => none

/-- Reads the members of an object and its closing brace. -/
def members? : Nat → List Char → Option (List (Option String × Json) × List Char)
  | 0, _ => none
  | fuel + 1, cs =>
      match skipBlanks cs with
      | '"' :: rest => do
          let (name, rest) ← string? rest
          match skipBlanks rest with
          | ':' :: rest => do
              let (value, rest) ← value? fuel rest
              match skipBlanks rest with
              | ',' :: rest => do
                  let (members, rest) ← members? fuel rest
                  some ((name, value) :: members, rest)
              | '\x7d' :: rest => some ([(name, value)], rest)
              | _ => none
          | _ => none
      | _ => none

end

/-- The value that a text spells, if it is one JSON value and nothing more. -/
def parse? (text : String) : Option Json := do
  let cs := text.toList
  let (value, rest) ← value? (cs.length + 1) cs
  if (skipBlanks rest).isEmpty then some value else none

end Rewind.Json
