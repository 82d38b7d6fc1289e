import Rewind.Json.Record
import Rewind.Text.Blank
import Rewind.Text.Decimal
import Rewind.Time.Calendar

/-!
Points in time, in UTC and exact to the nanosecond.

They are written in the RFC 3339 form with `Z` and as many digits of the fraction as it takes, in
groups of three. Reading is more lenient: blanks may stand between the parts, parts may have fewer
digits, and any offset of less than a day is converted. A leap second is the 60th second of its
minute, kept as the 59th with a billion nanoseconds more.
-/

namespace Rewind

/-- A point in time. -/
structure Timestamp where
  date : Date
  /-- The second of the day, a leap second counted as the one before it. -/
  second : Nat
  /-- The nanosecond of the second, a billion more in a leap second. -/
  nanosecond : Nat
deriving DecidableEq, Repr, Inhabited

namespace Timestamp

/-- The years that can be written and read. -/
def isYear (year : Int) : Bool :=
  -262143 ≤ year && year ≤ 262142

/-- The point so many nanoseconds after the start of 1970. -/
def ofEpochNanoseconds (nanoseconds : Nat) : Timestamp :=
  let seconds := nanoseconds / 1000000000
  ⟨Date.ofEpochDay (seconds / 86400), seconds % 86400, nanoseconds % 1000000000⟩

/-! ### Writing -/

def yearText (year : Int) : List Char :=
  if 0 ≤ year ∧ year ≤ 9999 then Decimal.padded 4 year.toNat
  else if year < 0 then '-' :: Decimal.padded 4 year.natAbs
  else '+' :: Decimal.padded 4 year.natAbs

/-- No fraction, or three, six or nine digits of it. -/
def fractionText (nanosecond : Nat) : List Char :=
  if nanosecond = 0 then []
  else if nanosecond % 1000000 = 0 then '.' :: Decimal.padded 3 (nanosecond / 1000000)
  else if nanosecond % 1000 = 0 then '.' :: Decimal.padded 6 (nanosecond / 1000)
  else '.' :: Decimal.padded 9 nanosecond

def text (t : Timestamp) : List Char :=
  let leap := t.nanosecond / 1000000000
  yearText t.date.year ++ '-' :: (Decimal.padded 2 t.date.month ++ '-' ::
    (Decimal.padded 2 t.date.day ++ 'T' :: (Decimal.padded 2 (t.second / 3600) ++ ':' ::
      (Decimal.padded 2 (t.second / 60 % 60) ++ ':' ::
        (Decimal.padded 2 (t.second % 60 + leap) ++ (fractionText (t.nanosecond % 1000000000)
          ++ ['Z']))))))

/-! ### Reading -/

/-- Reads up to `most` digits after any blanks. -/
def number? (most : Nat) (cs : List Char) : Option (Nat × List Char) := do
  let cs := Text.trimStart cs
  let digits := (cs.take most).takeWhile Char.isDigit
  let value ← Decimal.nat? digits
  some (value, cs.drop digits.length)

/-- Reads a year: up to four digits, or a sign and any number of digits. -/
def year? (cs : List Char) : Option (Int × List Char) :=
  match Text.trimStart cs with
  | '-' :: rest => signedYear? true rest
  | '+' :: rest => signedYear? false rest
  | cs => (number? 4 cs).map fun (year, rest) => (year, rest)
where
  signedYear? (negative : Bool) (cs : List Char) : Option (Int × List Char) := do
    let digits := cs.takeWhile Char.isDigit
    let value ← Decimal.nat? digits
    some (if negative then -(value : Int) else value, cs.drop digits.length)

/-- Drops blanks and one separator, which must be there. -/
def separator? (c : Char) (cs : List Char) : Option (List Char) :=
  match Text.trimStart cs with
  | d :: rest => if d = c then some rest else none
  | [] => none

/-- Reads the fraction of a second in nanoseconds; digits behind the ninth are dropped. -/
def fraction? : List Char → Option (Nat × List Char)
  | '.' :: rest => do
      let digits := (rest.take 9).takeWhile Char.isDigit
      let value ← Decimal.nat? digits
      some (value * Nat.pow 10 (9 - digits.length), rest.dropWhile Char.isDigit)
  | cs => some (0, cs)

/-- Reads hours and minutes of an offset, in seconds. -/
def offsetSize? : List Char → Option (Nat × List Char)
  | h :: h' :: rest => do
      let hours ← Decimal.nat? [h, h']
      match rest.dropWhile fun c => c = ':' || Text.isBlank c with
      | m :: m' :: rest => do
          let minutes ← Decimal.nat? [m, m']
          if minutes < 60 ∧ hours < 24 then some (hours * 3600 + minutes * 60, rest) else none
      | _ => none
  | _ => none

/-- Reads a time zone: the seconds that local time is ahead of UTC. -/
def zone? (cs : List Char) : Option (Int × List Char) :=
  match Text.trimStart cs with
  | 'Z' :: rest | 'z' :: rest => some (0, rest)
  | '+' :: rest => (offsetSize? rest).map fun (size, rest) => ((size : Int), rest)
  | '-' :: rest | '\u2212' :: rest =>
      (offsetSize? rest).map fun (size, rest) => (-(size : Int), rest)
  | u :: t :: c :: rest =>
      if u.toLower = 'u' ∧ t.toLower = 't' ∧ c.toLower = 'c' then some (0, rest) else none
  | _ => none

/-- The point at a local date and second of the day, where local time is ahead by `offset`. -/
def ofLocal (date : Date) (second : Nat) (nanosecond : Nat) (offset : Int) : Timestamp :=
  let utc := (second : Int) - offset
  if utc < 0 then ⟨date.previous, (utc + 86400).toNat, nanosecond⟩
  else if utc ≥ 86400 then ⟨date.next, (utc - 86400).toNat, nanosecond⟩
  else ⟨date, utc.toNat, nanosecond⟩

/-- Reads a point in time. -/
def parse? (cs : List Char) : Option Timestamp := do
  let (year, cs) ← year? cs
  let cs ← separator? '-' cs
  let (month, cs) ← number? 2 cs
  let cs ← separator? '-' cs
  let (day, cs) ← number? 2 cs
  let cs ← match cs with
    | 'T' :: rest | 't' :: rest | ' ' :: rest => some rest
    | _ => none
  let (hour, cs) ← number? 2 cs
  let cs ← separator? ':' cs
  let (minute, cs) ← number? 2 cs
  let cs ← separator? ':' cs
  let (second, cs) ← number? 2 cs
  let (fraction, cs) ← fraction? cs
  let (offset, cs) ← zone? cs
  let date : Date := ⟨year, month, day⟩
  let start := hour * 3600 + minute * 60
  let point :=
    if second = 60 then ofLocal date (start + 59) (fraction + 1000000000) offset
    else ofLocal date (start + second) fraction offset
  if (Text.trimStart cs).isEmpty && date.isValid && isYear year && isYear point.date.year
      && hour < 24 && minute < 60 && second ≤ 60 then some point
  else none

def toJson (t : Timestamp) : Json :=
  .str (String.ofList t.text)

def ofJson : Json.Decoder Timestamp := fun json => do
  let text ← json.asString
  match parse? text.toList with
  | some t => .ok t
  | none => .error (.mismatch "a point in time")

end Timestamp

end Rewind
