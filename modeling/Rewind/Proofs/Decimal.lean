import Mathlib.Algebra.Group.Nat.Defs
import Rewind.Text.Decimal

/-!
Written numbers inside of a text.

A written number consists of digits, so a reader that takes digits as long as there are any gives it
back whenever something else follows; a number that is not zero does not begin with a zero. Filled
up with zeros it has the width that was asked for, if it fits into it, and it keeps its value.

Main statements: `Decimal.takeWhile_digits`, `Decimal.length_padded` and `Decimal.nat?_padded`.
-/

namespace Rewind.Decimal

/-! ### Digits -/

theorem toNat_of_mem_ofNat {n : Nat} {c : Char} (h : c ∈ ofNat n) :
    48 ≤ c.toNat ∧ c.toNat ≤ 57 := by
  have hdigit : ∀ k < 10, 48 ≤ (digit k).toNat ∧ (digit k).toNat ≤ 57 := by decide
  induction n using Nat.strongRecOn with
  | ind n ih =>
      rw [ofNat] at h
      split at h
      · next hsmall =>
          obtain rfl := List.mem_singleton.mp h
          exact hdigit n hsmall
      · next hlarge =>
          rcases List.mem_append.mp h with hfront | hlast
          · exact ih (n / 10) (by omega) hfront
          · obtain rfl := List.mem_singleton.mp hlast
            exact hdigit _ (Nat.mod_lt n (by decide))

theorem isDigit_of_mem_ofNat {n : Nat} {c : Char} (h : c ∈ ofNat n) : c.isDigit = true :=
  Char.isDigit_iff_toNat.mpr (toNat_of_mem_ofNat h)

theorem plusNat?_ofNat (n : Nat) : plusNat? (ofNat n) = some n := by
  cases hdigits : ofNat n with
  | nil => exact absurd hdigits (ofNat_ne_nil n)
  | cons first rest =>
      have hfirst : 48 ≤ first.toNat ∧ first.toNat ≤ 57 :=
        toNat_of_mem_ofNat (n := n) (hdigits ▸ List.mem_cons_self)
      have hplus : first ≠ '+' := by
        rintro rfl
        exact absurd hfirst.1 (by decide)
      rw [plusNat?.eq_2 _ fun rest heq => hplus (List.cons.inj heq).1, ← hdigits, nat?_ofNat]

/-- A number above zero has no superfluous zero in front. -/
theorem ofNat_ne_zero_cons {n : Nat} (hpos : 0 < n) (rest : List Char) : ofNat n ≠ '0' :: rest := by
  have hdigit : ∀ k < 10, 0 < k → digit k ≠ '0' := by decide
  induction n using Nat.strongRecOn generalizing rest with
  | ind n ih =>
      rw [ofNat]
      split
      · next hsmall =>
          intro heq
          exact hdigit n hsmall hpos (List.cons.inj heq).1
      · next hlarge =>
          intro heq
          cases hfront : ofNat (n / 10) with
          | nil => exact absurd hfront (ofNat_ne_nil _)
          | cons first digits =>
              rw [hfront, List.cons_append] at heq
              obtain ⟨rfl, -⟩ := List.cons.inj heq
              exact ih (n / 10) (by omega) (by omega) digits hfront

/-- A number below a power of ten has at most as many digits as the exponent says. -/
theorem length_ofNat_le {n width : Nat} (hwidth : 0 < width) (h : n < 10 ^ width) :
    (ofNat n).length ≤ width := by
  induction width generalizing n with
  | zero => exact absurd hwidth (Nat.lt_irrefl 0)
  | succ width ih =>
      rw [ofNat]
      split
      · exact hwidth
      · next hlarge =>
          have hfront : n / 10 < 10 ^ width := by
            rw [Nat.pow_succ] at h
            omega
          have hinner : 0 < width := by
            refine Nat.pos_of_ne_zero ?_
            rintro rfl
            simp at h
            omega
          rw [List.length_append, List.length_singleton]
          exact Nat.succ_le_succ (ih hinner hfront)

/-- Reading one more digit in front of the others. -/
theorem extend?_cons {start n : Nat} {c : Char} {digits : List Char}
    (h : extend? start (c :: digits) = some n) :
    extend? (start * 10 + (c.toNat - 48)) digits = some n := by
  simp only [extend?, List.foldlM_cons, digitValue?] at h
  split at h
  · exact h
  · cases h

/-- Further digits make no number smaller. -/
theorem le_of_extend? {start n : Nat} {digits : List Char} (h : extend? start digits = some n) :
    start ≤ n := by
  induction digits generalizing start with
  | nil => exact Nat.le_of_eq (Option.some.inj h)
  | cons c digits ih =>
      have hnext := ih (extend?_cons h)
      omega

/-- So many digits make up a number below that power of ten. -/
theorem lt_of_extend? {start n : Nat} {digits : List Char} (h : extend? start digits = some n) :
    n < (start + 1) * 10 ^ digits.length := by
  induction digits generalizing start with
  | nil =>
      obtain rfl := Option.some.inj h
      simp
  | cons c digits ih =>
      have hdigit : c.toNat - 48 ≤ 9 := by
        simp only [extend?, List.foldlM_cons, digitValue?] at h
        split at h
        · omega
        · cases h
      have hlt := ih (extend?_cons h)
      have hle : start * 10 + (c.toNat - 48) + 1 ≤ (start + 1) * 10 := by omega
      refine Nat.lt_of_lt_of_le hlt ?_
      rw [List.length_cons, Nat.pow_succ', ← Nat.mul_assoc]
      exact Nat.mul_le_mul_right _ hle

theorem lt_of_nat? {n : Nat} {digits : List Char} (h : nat? digits = some n) :
    n < 10 ^ digits.length := by
  unfold nat? at h
  split at h
  · cases h
  · simpa using lt_of_extend? h

/-! ### Numbers with zeros in front -/

theorem isDigit_of_mem_padded {width n : Nat} {c : Char} (h : c ∈ padded width n) :
    c.isDigit = true := by
  rcases List.mem_append.mp h with hzero | hdigits
  · obtain rfl := List.eq_of_mem_replicate hzero
    rfl
  · exact isDigit_of_mem_ofNat hdigits

/-- Something is written even for zero, and it begins with a digit. -/
theorem padded_eq_cons (width n : Nat) :
    ∃ c cs, padded width n = c :: cs ∧ c.isDigit = true := by
  cases hdigits : padded width n with
  | nil => exact absurd (List.append_eq_nil_iff.mp hdigits).2 (ofNat_ne_nil n)
  | cons c cs => exact ⟨c, cs, rfl, isDigit_of_mem_padded (hdigits ▸ List.mem_cons_self)⟩

theorem length_padded {width n : Nat} (hwidth : 0 < width) (h : n < 10 ^ width) :
    (padded width n).length = width := by
  have hle := length_ofNat_le hwidth h
  rw [padded, List.length_append, List.length_replicate]
  omega

theorem extend?_zeros (count : Nat) : extend? 0 (List.replicate count '0') = some 0 := by
  induction count with
  | zero => rfl
  | succ count ih =>
      rw [List.replicate_succ, ← List.singleton_append, extend?_append]
      exact ih

/-- Zeros in front do not change the value. -/
theorem nat?_padded (width n : Nat) : nat? (padded width n) = some n := by
  obtain ⟨c, cs, hcons, -⟩ := padded_eq_cons width n
  rw [nat?, if_neg (by simp [hcons]), padded, extend?_append, extend?_zeros]
  exact extend?_ofNat n

/-! ### Digits in front of something else -/

/-- A text that does not go on with a digit. -/
def EndsDigits (rest : List Char) : Prop :=
  ∀ c ∈ rest.head?, c.isDigit = false

theorem takeWhile_digits {digits rest : List Char} (hdigits : ∀ c ∈ digits, c.isDigit = true)
    (hrest : EndsDigits rest) : (digits ++ rest).takeWhile Char.isDigit = digits := by
  rw [List.takeWhile_append_of_pos hdigits]
  cases rest with
  | nil => exact List.append_nil digits
  | cons c rest =>
      rw [List.takeWhile_cons_of_neg (by simp [hrest c rfl]), List.append_nil]

theorem dropWhile_digits {digits rest : List Char} (hdigits : ∀ c ∈ digits, c.isDigit = true)
    (hrest : EndsDigits rest) : (digits ++ rest).dropWhile Char.isDigit = rest := by
  rw [List.dropWhile_append_of_pos hdigits]
  cases rest with
  | nil => rfl
  | cons c rest => exact List.dropWhile_cons_of_neg (by simp [hrest c rfl])

theorem takeWhile_padded (width n : Nat) {rest : List Char} (hrest : EndsDigits rest) :
    (padded width n ++ rest).takeWhile Char.isDigit = padded width n :=
  takeWhile_digits (fun _ => isDigit_of_mem_padded) hrest

theorem dropWhile_padded (width n : Nat) {rest : List Char} (hrest : EndsDigits rest) :
    (padded width n ++ rest).dropWhile Char.isDigit = rest :=
  dropWhile_digits (fun _ => isDigit_of_mem_padded) hrest

end Rewind.Decimal
