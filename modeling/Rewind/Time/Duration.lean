import Rewind.Json.Record
import Rewind.Text.Decimal

/-!
Spans of time, exact to the nanosecond.

A written span has its whole seconds and the rest; on reading, a rest of a second or more carries
over. The text of a span uses the largest unit that leaves a whole part.
-/

namespace Rewind

/-- A span of time that is not negative. -/
structure Duration where
  nanoseconds : Nat
deriving DecidableEq, Repr, Inhabited

namespace Duration

def zero : Duration := ⟨0⟩

def ofSeconds (seconds : Nat) : Duration :=
  ⟨seconds * 1000000000⟩

/-- A span from whole seconds and a number of nanoseconds of any size. -/
def ofParts (seconds nanoseconds : Nat) : Duration :=
  ⟨seconds * 1000000000 + nanoseconds⟩

def seconds (d : Duration) : Nat :=
  d.nanoseconds / 1000000000

/-- The nanoseconds beyond the whole seconds. -/
def rest (d : Duration) : Nat :=
  d.nanoseconds % 1000000000

/-- The whole milliseconds that have passed. -/
def wholeMilliseconds (d : Duration) : Nat :=
  d.nanoseconds / 1000000

/-- A number with a fraction of `places` digits, its trailing zeros left out. -/
def decimal (whole fraction places : Nat) : List Char :=
  let digits := (Decimal.padded places fraction).reverse.dropWhile (· = '0')
  if digits.isEmpty then Decimal.ofNat whole else Decimal.ofNat whole ++ '.' :: digits.reverse

/-- The span in its largest unit: seconds, or `ms`, `µs` and `ns`. -/
def text (d : Duration) : String :=
  if d.seconds > 0 then String.ofList (decimal d.seconds d.rest 9 ++ ['s'])
  else if d.nanoseconds ≥ 1000000 then
    String.ofList (decimal (d.nanoseconds / 1000000) (d.nanoseconds % 1000000) 6 ++ ['m', 's'])
  else if d.nanoseconds ≥ 1000 then
    String.ofList (decimal (d.nanoseconds / 1000) (d.nanoseconds % 1000) 3 ++ ['µ', 's'])
  else String.ofList (Decimal.ofNat d.nanoseconds ++ ['n', 's'])

def toJson (d : Duration) : Json :=
  .obj [("secs", .nat d.seconds), ("nanos", .nat d.rest)]

/-- Whether a value has no other members than the two of a span. -/
def hasOnlyParts : Json → Bool
  | .obj members => members.all fun entry => entry.1 = "secs" || entry.1 = "nanos"
  | _ => true

/-- Reads a span; other members are refused, and so are seconds beyond 64 bits after the carry. -/
def ofJson : Json.Decoder Duration := fun json => do
  if hasOnlyParts json then
    let fields ← json.fields ["secs", "nanos"]
    let seconds ← fields.required "secs" (Json.asNat UInt64.size)
    let nanoseconds ← fields.required "nanos" (Json.asNat UInt32.size)
    let d := ofParts seconds nanoseconds
    if d.seconds < UInt64.size then .ok d else .error .outOfRange
  else .error (.mismatch "secs or nanos")

end Duration

end Rewind
