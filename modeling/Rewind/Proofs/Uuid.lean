import Mathlib.Algebra.Group.Nat.Defs
import Rewind.Uuid

/-!
Identifiers survive being written and read.

The thirty-two digits are cut into five groups, and reading puts the groups together again.

Main statement: `Uuid.parse?_text`.
-/

namespace Rewind.Uuid

theorem length_hexDigits (count n : Nat) : (hexDigits count n).length = count := by
  induction count generalizing n with
  | zero => rfl
  | succ count ih => rw [hexDigits, List.length_append, ih, List.length_singleton]

/-- So many digits tell the number modulo that power of sixteen. -/
theorem hexValue?_hexDigits (count n : Nat) :
    hexValue? (hexDigits count n) = some (n % 16 ^ count) := by
  have hdigit : ∀ k < 16, Decimal.hexValue? (Decimal.hexDigit k) = some k := by decide
  induction count generalizing n with
  | zero => simp [hexDigits, hexValue?, Nat.mod_one]
  | succ count ih =>
      have ih := ih (n / 16)
      simp only [hexValue?] at ih ⊢
      rw [hexDigits, List.foldlM_append, ih]
      simp only [List.foldlM_cons, List.foldlM_nil, hdigit _ (Nat.mod_lt n (by decide : 0 < 16)),
        bind, Option.bind_some, Option.map_some, pure, Option.some.injEq]
      rw [Nat.pow_succ', Nat.mod_mul]
      omega

/-- Groups of the right lengths are put together. -/
theorem ofGroups?_groups {a b c d e : List Char} (ha : a.length = 8) (hb : b.length = 4)
    (hc : c.length = 4) (hd : d.length = 4) (he : e.length = 12) :
    ofGroups? (a ++ '-' :: (b ++ '-' :: (c ++ '-' :: (d ++ '-' :: e))))
      = ofDigits? (a ++ b ++ c ++ d ++ e) := by
  rw [ofGroups?, if_pos (by simp [ha, hb, hc, hd, he])]
  simp [ha, hb, hc, hd, List.drop_append, List.drop_of_length_le]

/-- Cutting digits into groups loses none of them. -/
theorem take_drop_groups (digits : List Char) :
    digits.take 8 ++ (digits.drop 8).take 4 ++ (digits.drop 12).take 4 ++ (digits.drop 16).take 4
      ++ digits.drop 20 = digits := by
  have hjoin : ∀ n, (digits.drop n).take 4 ++ digits.drop (n + 4) = digits.drop n := fun n => by
    rw [← List.drop_drop, List.take_append_drop]
  simp only [List.append_assoc, hjoin, List.take_append_drop]

/-- Reading a written identifier gives it back. -/
theorem parse?_text (id : Uuid) : parse? id.text = some id := by
  have hlength := length_hexDigits 32 id.bits.toNat
  have hvalue := hexValue?_hexDigits 32 id.bits.toNat
  have hlt : id.bits.toNat < 16 ^ 32 := Nat.lt_of_lt_of_eq id.bits.isLt (by decide)
  rw [Nat.mod_eq_of_lt hlt] at hvalue
  have hgroups : parse? id.text = ofGroups? id.text := by
    have htext : id.text.length = 36 := by simp [text, hlength]
    simp only [parse?, htext]
  rw [hgroups, text]
  rw [ofGroups?_groups (by simp [hlength]) (by simp [hlength]) (by simp [hlength])
    (by simp [hlength]) (by simp [hlength]), take_drop_groups, ofDigits?, if_pos hlength, hvalue,
    Option.map_some, BitVec.ofNat_toNat, BitVec.setWidth_eq]

end Rewind.Uuid
