import Rewind.Text.Decimal

/-!
The range of numbers in double precision.

A number that is not kept exactly is a significand times a power of ten. The significand takes up
digits while it fits into 64 bits; the ones behind are not looked at. The significand, the power and
their product are rounded one after the other, so close to the largest double the answer is not
always that of rounding once.
-/

namespace Rewind.Json.Double

/-- A quotient rounded to the nearest number, a half to the even one. -/
def roundDiv (n d : Nat) : Nat :=
  let twice := 2 * (n % d)
  if d < twice || (twice = d && n / d % 2 = 1) then n / d + 1 else n / d

/-- The nearest number of at most 53 significant bits. -/
def round (n : Nat) : Nat :=
  let unit := Nat.pow 2 (n.log2 - 52)
  roundDiv n unit * unit

/-- The least number that rounds to infinity: half a unit above the largest double. -/
def limit : Nat :=
  Nat.pow 2 1024 - Nat.pow 2 970

/-- Takes digits up into a significand; gives the digits that it has no room for as well. -/
def takeUp (significand : Nat) : List Char → Nat × List Char
  | [] => (significand, [])
  | c :: rest =>
      let next := significand * 10 + (c.toNat - '0'.toNat)
      if next < UInt64.size then takeUp next rest else (significand, c :: rest)

/-- Whether a significand times a power of ten is infinite. -/
def overflows (significand : Nat) (exponent : Int) : Bool :=
  significand ≠ 0 && (308 < exponent ||
    (0 ≤ exponent && limit ≤ round significand * round (Nat.pow 10 exponent.toNat)))

/-- Whether the number with these digits in front of the point and behind it is infinite. -/
def isTooLarge (whole part : List Char) (exponent : Int) : Bool :=
  let (front, dropped) := takeUp 0 whole
  let (significand, ignored) := takeUp front part
  overflows significand (exponent + dropped.length + ignored.length - part.length)

/-- Rounding moves a quotient by at most a half. -/
theorem roundDiv_near (n : Nat) {d : Nat} (h : 0 < d) :
    2 * n ≤ 2 * (d * roundDiv n d) + d ∧ 2 * (d * roundDiv n d) ≤ 2 * n + d := by
  have hsplit := Nat.div_add_mod n d
  have hrest := Nat.mod_lt n h
  unfold roundDiv
  by_cases hup : (d < 2 * (n % d) || (2 * (n % d) = d && n / d % 2 = 1)) = true
  · rw [if_pos hup, Nat.mul_add, Nat.mul_one]
    have htwice : d ≤ 2 * (n % d) := by
      simp only [Bool.or_eq_true, Bool.and_eq_true, decide_eq_true_eq] at hup
      omega
    omega
  · rw [if_neg hup]
    have htwice : 2 * (n % d) ≤ d := by
      simp only [Bool.or_eq_true, decide_eq_true_eq, not_or] at hup
      exact Nat.le_of_not_lt hup.1
    omega

theorem roundDiv_one (n : Nat) : roundDiv n 1 = n := by
  simp [roundDiv, Nat.mod_one]

/-- Numbers of 53 bits are doubles. -/
theorem round_eq_self {n : Nat} (h : n < 9007199254740992) : round n = n := by
  have hlog : n.log2 - 52 = 0 := by
    by_cases hzero : n = 0
    · subst hzero
      rfl
    · have hlt : n.log2 < 53 := (Nat.log2_lt hzero).mpr h
      omega
  simp [round, hlog, roundDiv_one]

end Rewind.Json.Double
