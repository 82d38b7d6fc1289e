import Rewind.Json.Record
import Rewind.Text.Decimal

/-!
Universally unique identifiers.

They are written as thirty-two digits of base sixteen in five groups. Three more forms are read: the
digits alone, the five groups in braces, and the five groups behind `urn:uuid:`.
-/

namespace Rewind

/-- A number of 128 bits that names one thing. -/
structure Uuid where
  bits : BitVec 128
deriving DecidableEq, Repr, Inhabited

namespace Uuid

/-- The lowest `count` digits of a number, the highest of them first. -/
def hexDigits : Nat → Nat → List Char
  | 0, _ => []
  | count + 1, n => hexDigits count (n / 16) ++ [Decimal.hexDigit (n % 16)]

/-- The value of digits of base sixteen. -/
def hexValue? (cs : List Char) : Option Nat :=
  cs.foldlM (fun value c => (Decimal.hexValue? c).map (value * 16 + ·)) 0

/-- The five groups with hyphens between them. -/
def text (id : Uuid) : List Char :=
  let digits := hexDigits 32 id.bits.toNat
  digits.take 8 ++ '-' :: ((digits.drop 8).take 4 ++ '-' :: ((digits.drop 12).take 4 ++ '-' ::
    ((digits.drop 16).take 4 ++ '-' :: digits.drop 20)))

def toString (id : Uuid) : String :=
  String.ofList id.text

/-- Reads thirty-two digits. -/
def ofDigits? (cs : List Char) : Option Uuid :=
  if cs.length = 32 then (hexValue? cs).map fun n => ⟨BitVec.ofNat 128 n⟩ else none

/-- Reads five groups with hyphens between them. -/
def ofGroups? (cs : List Char) : Option Uuid :=
  if cs.length = 36 ∧ cs[8]? = some '-' ∧ cs[13]? = some '-' ∧ cs[18]? = some '-' ∧
      cs[23]? = some '-' then
    ofDigits? (cs.take 8 ++ (cs.drop 9).take 4 ++ (cs.drop 14).take 4 ++ (cs.drop 19).take 4
      ++ cs.drop 24)
  else none

/-- Reads any of the four forms. -/
def parse? (cs : List Char) : Option Uuid :=
  match cs.length, cs with
  | 32, cs => ofDigits? cs
  | 36, cs => ofGroups? cs
  | 38, '\x7b' :: rest => if rest.getLast? = some '\x7d' then ofGroups? rest.dropLast else none
  | 45, cs =>
      if (cs.take 9).map Char.toLower = "urn:uuid:".toList then ofGroups? (cs.drop 9) else none
  | _, _ => none

/-- Marks a number as a random identifier: version 4, variant 1. -/
def ofRandom (bits : BitVec 128) : Uuid :=
  ⟨(bits &&& ~~~((0xF#128 <<< 76) ||| (0x3#128 <<< 62))) ||| (0x4#128 <<< 76) ||| (0x2#128 <<< 62)⟩

/-- Spreads a label over 128 bits, starting from a seed. -/
def mix (seed : BitVec 128) (label : List Char) : BitVec 128 :=
  label.foldl
    (fun bits c => (bits ^^^ BitVec.ofNat 128 c.toNat) * 0x0000000001000000000000000000013B#128)
    (seed ^^^ 0x6c62272e07bb014262b821756295c58d#128)

/-- The identifier that a random seed gives to a label. -/
def derived (seed : BitVec 128) (label : String) : Uuid :=
  ofRandom (mix seed label.toList)

def toJson (id : Uuid) : Json :=
  .str id.toString

def ofJson : Json.Decoder Uuid := fun json => do
  let text ← json.asString
  match parse? text.toList with
  | some id => .ok id
  | none => .error (.mismatch "an identifier")

end Uuid

end Rewind
