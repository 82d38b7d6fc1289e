/-!
Whole numbers in decimal digits.

`Decimal.ofNat` writes a number with no superfluous zero in front; `Decimal.nat?` reads a non-empty
run of the digits `0` to `9` and nothing else. Reading a written number gives it back.
-/

namespace Rewind.Decimal

/-- The digit of a number below ten. -/
def digit (n : Nat) : Char :=
  Char.ofNat (48 + n)

/-- The number that one of the digits `0` to `9` stands for. -/
def digitValue? (c : Char) : Option Nat :=
  if 48 ≤ c.toNat ∧ c.toNat ≤ 57 then some (c.toNat - 48) else none

/-- Writes a natural number. -/
def ofNat (n : Nat) : List Char :=
  if n < 10 then [digit n] else ofNat (n / 10) ++ [digit (n % 10)]
termination_by n

/-- Reads further digits behind the number `start`. -/
def extend? (start : Nat) (cs : List Char) : Option Nat :=
  cs.foldlM (fun value c => (digitValue? c).map (value * 10 + ·)) start

/-- Reads a non-empty run of digits. -/
def nat? (cs : List Char) : Option Nat :=
  if cs.isEmpty then none else extend? 0 cs

/-- Reads a run of digits that a plus sign may precede. -/
def plusNat? : List Char → Option Nat
  | '+' :: rest => nat? rest
  | cs => nat? cs

/-- Reads a run of digits that a sign may precede. -/
def signed? : List Char → Option Int
  | '-' :: rest => (nat? rest).map fun n => -(n : Int)
  | cs => (plusNat? cs).map Int.ofNat

/-- Writes an integer, a minus sign in front if it is negative. -/
def ofInt : Int → List Char
  | .ofNat n => ofNat n
  | .negSucc n => '-' :: ofNat (n + 1)

/-- The text of a natural number. -/
def text (n : Nat) : String :=
  String.ofList (ofNat n)

/-- The text of an integer. -/
def signedText (n : Int) : String :=
  String.ofList (ofInt n)

/-- Writes a number with zeros in front up to `width` digits. -/
def padded (width n : Nat) : List Char :=
  let digits := ofNat n
  List.replicate (width - digits.length) '0' ++ digits

/-- The characters `0` to `9` and `a` to `f` or `A` to `F` as digits of base sixteen. -/
def hexValue? (c : Char) : Option Nat :=
  if 48 ≤ c.toNat ∧ c.toNat ≤ 57 then some (c.toNat - 48)
  else if 97 ≤ c.toNat ∧ c.toNat ≤ 102 then some (c.toNat - 87)
  else if 65 ≤ c.toNat ∧ c.toNat ≤ 70 then some (c.toNat - 55)
  else none

/-- The lower case digit of base sixteen for a number below sixteen. -/
def hexDigit (n : Nat) : Char :=
  if n < 10 then Char.ofNat (48 + n) else Char.ofNat (87 + n)

/-- Writes a number in base sixteen. -/
def hexOfNat (n : Nat) : List Char :=
  if n < 16 then [hexDigit n] else hexOfNat (n / 16) ++ [hexDigit (n % 16)]
termination_by n

theorem digitValue?_digit {n : Nat} (h : n < 10) : digitValue? (digit n) = some n := by
  match n, h with
  | 0, _ | 1, _ | 2, _ | 3, _ | 4, _ | 5, _ | 6, _ | 7, _ | 8, _ | 9, _ => rfl

theorem extend?_append (start : Nat) (cs ds : List Char) :
    extend? start (cs ++ ds) = (extend? start cs).bind fun n => extend? n ds := by
  simp [extend?, List.foldlM_append, bind]

theorem ofNat_ne_nil (n : Nat) : ofNat n ≠ [] := by
  rw [ofNat]; split <;> simp

theorem extend?_ofNat (n : Nat) : extend? 0 (ofNat n) = some n := by
  induction n using Nat.strongRecOn with
  | ind n ih =>
    rw [ofNat]
    split
    · next h => simp [extend?, digitValue?_digit h]
    · next h =>
      rw [extend?_append, ih (n / 10) (by omega)]
      simp only [Option.bind_some, extend?, List.foldlM_cons, List.foldlM_nil,
        digitValue?_digit (Nat.mod_lt n (by decide : 0 < 10)), Option.map_some]
      simp only [bind, Option.bind_some, pure, Option.some.injEq]
      omega

/-- Reading a written number gives it back. -/
theorem nat?_ofNat (n : Nat) : nat? (ofNat n) = some n := by
  simp [nat?, ofNat_ne_nil, extend?_ofNat]

end Rewind.Decimal
