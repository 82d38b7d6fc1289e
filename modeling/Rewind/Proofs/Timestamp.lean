import Rewind.Proofs.Decimal
import Rewind.Time.Timestamp

/-!
Points in time survive being written and read.

A written point has no blanks, all of its parts but the year and the fraction have two digits, and
its zone is UTC. So each part is read where it ends, and nothing is converted. The digits that a
fraction leaves out are zeros, which is what reading fills it up with.

Reading gives proper points only, those that can be written: a leap second is the last one of its
minute in every time zone, because zones differ by whole minutes.

Main statements: `Timestamp.parse?_text` and `Timestamp.isProper_of_parse?`.
-/

namespace Rewind

theorem Date.daysInMonth_le (year : Int) (month : Nat) : Date.daysInMonth year month ≤ 31 := by
  unfold Date.daysInMonth
  repeat' split
  all_goals omega

namespace Timestamp

/-- A point that exists and whose year can be written: a leap second ends a minute. -/
structure IsProper (t : Timestamp) : Prop where
  date : t.date.isValid = true
  year : isYear t.date.year = true
  second : t.second < 86400
  nanosecond : t.nanosecond < 1000000000 ∨ t.second % 60 = 59 ∧ t.nanosecond < 2000000000

/-- Every point of the years with four digits is proper, but for leap seconds elsewhere than at the
end of a minute. -/
theorem isProper_of_year {t : Timestamp} (hdate : t.date.isValid = true)
    (hyear : 0 ≤ t.date.year ∧ t.date.year ≤ 9999) (hsecond : t.second < 86400)
    (hnanosecond : t.nanosecond < 1000000000) : t.IsProper where
  date := hdate
  year := by
    simp only [isYear, Bool.and_eq_true, decide_eq_true_eq]
    omega
  second := hsecond
  nanosecond := .inl hnanosecond

/-! ### Reading what was written -/

/-- No digit is blank. -/
theorem not_isBlank_of_isDigit {c : Char} (h : c.isDigit = true) : Text.isBlank c = false := by
  have hdigit : 48 ≤ c.toNat ∧ c.toNat ≤ 57 := Char.isDigit_iff_toNat.mp h
  simp only [Text.isBlank, Bool.or_eq_false_iff, Bool.and_eq_false_iff, decide_eq_false_iff_not]
  omega

theorem trimStart_padded {width n : Nat} (rest : List Char) :
    Text.trimStart (Decimal.padded width n ++ rest) = Decimal.padded width n ++ rest := by
  obtain ⟨c, cs, hcons, hc⟩ := Decimal.padded_eq_cons width n
  rw [hcons]
  exact List.dropWhile_cons_of_neg (by simp [not_isBlank_of_isDigit hc])

/-- A number of so many digits is read up to its end, whatever follows. -/
theorem number?_padded {width n : Nat} (hwidth : 0 < width) (h : n < 10 ^ width)
    (rest : List Char) : number? width (Decimal.padded width n ++ rest) = some (n, rest) := by
  have hlength := Decimal.length_padded hwidth h
  have hdigits : ((Decimal.padded width n ++ rest).take width).takeWhile Char.isDigit
      = Decimal.padded width n := by
    rw [List.take_left' hlength]
    have hread := Decimal.takeWhile_padded width n
      (show Decimal.EndsDigits [] by simp [Decimal.EndsDigits])
    rwa [List.append_nil] at hread
  simp only [number?, trimStart_padded, hdigits, Decimal.nat?_padded, bind, Option.bind_some,
    List.drop_left]

theorem separator?_cons {c : Char} (h : Text.isBlank c = false) (rest : List Char) :
    separator? c (c :: rest) = some rest := by
  have htrim : Text.trimStart (c :: rest) = c :: rest := List.dropWhile_cons_of_neg (by simp [h])
  simp [separator?, htrim]

/-- A year with a sign ends where its digits do. -/
theorem signedYear?_padded (negative : Bool) (n : Nat) {rest : List Char}
    (hrest : Decimal.EndsDigits rest) :
    year?.signedYear? negative (Decimal.padded 4 n ++ rest)
      = some (if negative then -(n : Int) else n, rest) := by
  simp only [year?.signedYear?, Decimal.takeWhile_padded 4 n hrest, Decimal.nat?_padded, bind,
    Option.bind_some, List.drop_left]

theorem year?_yearText (year : Int) (rest : List Char) :
    year? (yearText year ++ '-' :: rest) = some (year, '-' :: rest) := by
  have hrest : Decimal.EndsDigits ('-' :: rest) := by rintro _ ⟨⟩; rfl
  unfold yearText
  split
  · next h =>
      have hbound : year.toNat < 10 ^ 4 := by omega
      have hsign : ∀ sign tail, sign.isDigit = false →
          Decimal.padded 4 year.toNat ++ '-' :: rest ≠ sign :: tail := by
        rintro sign tail hsign heq
        obtain ⟨c, cs, hcons, hc⟩ := Decimal.padded_eq_cons 4 year.toNat
        rw [hcons, List.cons_append] at heq
        obtain ⟨rfl, -⟩ := List.cons.inj heq
        exact absurd (hsign.symm.trans hc) (by decide)
      unfold year?
      rw [trimStart_padded]
      split
      · next heq => exact absurd heq (hsign _ _ rfl)
      · next heq => exact absurd heq (hsign _ _ rfl)
      · rw [number?_padded (by decide) hbound]
        simp [Int.toNat_of_nonneg h.1]
  split
  · next h =>
      have hread := signedYear?_padded true year.natAbs hrest
      rw [if_pos rfl, show -(year.natAbs : Int) = year by omega] at hread
      exact hread
  · next h =>
      have hread := signedYear?_padded false year.natAbs hrest
      rw [if_neg (by decide), show (year.natAbs : Int) = year by omega] at hread
      exact hread

/-- The digits that a fraction leaves out are zeros. -/
theorem fraction?_padded {width n : Nat} (hwidth : 0 < width) (hnine : width ≤ 9)
    (h : n < 10 ^ width) {rest : List Char} (hrest : Decimal.EndsDigits rest) :
    fraction? ('.' :: (Decimal.padded width n ++ rest)) = some (n * 10 ^ (9 - width), rest) := by
  have hlength := Decimal.length_padded hwidth h
  have htake : (Decimal.padded width n ++ rest).take 9
      = Decimal.padded width n ++ rest.take (9 - width) := by
    rw [List.take_append, hlength, List.take_of_length_le (by omega)]
  have hfront : Decimal.EndsDigits (rest.take (9 - width)) := by
    intro c hc
    rw [List.head?_take] at hc
    split at hc
    · cases hc
    · exact hrest c hc
  simp only [fraction?, htake, Decimal.takeWhile_padded width n hfront, Decimal.nat?_padded,
    hlength, Decimal.dropWhile_padded width n hrest, bind, Option.bind_some]
  rfl

theorem fraction?_fractionText {nanosecond : Nat} (h : nanosecond < 1000000000) :
    fraction? (fractionText nanosecond ++ ['Z']) = some (nanosecond, ['Z']) := by
  have hrest : Decimal.EndsDigits ['Z'] := by rintro _ ⟨⟩; rfl
  unfold fractionText
  split
  · next hzero => subst hzero; rfl
  split
  · next hmilli =>
      rw [List.cons_append, fraction?_padded (by decide) (by decide) (by omega) hrest]
      congr 2
      omega
  split
  · next hmicro =>
      rw [List.cons_append, fraction?_padded (by decide) (by decide) (by omega) hrest]
      congr 2
      omega
  · rw [List.cons_append, fraction?_padded (by decide) (by decide) (by omega) hrest]
    congr 2
    omega

/-- Local time in UTC is UTC. -/
theorem ofLocal_zero (date : Date) {second : Nat} (h : second < 86400) (nanosecond : Nat) :
    ofLocal date second nanosecond 0 = ⟨date, second, nanosecond⟩ := by
  unfold ofLocal
  dsimp only
  rw [if_neg (by omega), if_neg (by omega)]
  rfl

/-- The parts of the day and of the second that are written make up the point. -/
theorem ofLocal_parts {t : Timestamp} (h : t.IsProper) :
    (if t.second % 60 + t.nanosecond / 1000000000 = 60 then
      ofLocal t.date (t.second / 3600 * 3600 + t.second / 60 % 60 * 60 + 59)
        (t.nanosecond % 1000000000 + 1000000000) 0
    else
      ofLocal t.date (t.second / 3600 * 3600 + t.second / 60 % 60 * 60
        + (t.second % 60 + t.nanosecond / 1000000000)) (t.nanosecond % 1000000000) 0) = t := by
  obtain ⟨-, -, hsecond, hnanosecond⟩ := h
  obtain ⟨date, second, nanosecond⟩ := t
  dsimp only at hsecond hnanosecond ⊢
  split
  · next hleap =>
      rw [ofLocal_zero _ (by omega), Timestamp.mk.injEq]
      exact ⟨rfl, by omega, by omega⟩
  · next hleap =>
      rw [ofLocal_zero _ (by omega), Timestamp.mk.injEq]
      exact ⟨rfl, by omega, by omega⟩

/-- Reading a written point gives it back. -/
theorem parse?_text {t : Timestamp} (h : t.IsProper) : parse? t.text = some t := by
  have hdate := Date.isValid_iff.mp h.date
  have hday : t.date.day ≤ 31 := Nat.le_trans hdate.2.2 (Date.daysInMonth_le _ _)
  have hsecond := h.second
  have hhour : t.second / 3600 < 24 := by omega
  have hminute : t.second / 60 % 60 < 60 := Nat.mod_lt _ (by decide)
  have hshown : t.second % 60 + t.nanosecond / 1000000000 ≤ 60 := by
    have hnanosecond := h.nanosecond
    omega
  have htwo : ∀ n < 100, ∀ rest, number? 2 (Decimal.padded 2 n ++ rest) = some (n, rest) :=
    fun n hn rest => number?_padded (by decide) hn rest
  have hdash : ∀ rest, separator? '-' ('-' :: rest) = some rest := separator?_cons rfl
  have hcolon : ∀ rest, separator? ':' (':' :: rest) = some rest := separator?_cons rfl
  have hzone : zone? ['Z'] = some (0, []) := rfl
  have hyear := year?_yearText t.date.year
  unfold parse? text
  rw [hyear]
  dsimp only [Option.bind_eq_bind, Option.bind_some]
  rw [hdash, Option.bind_some, htwo t.date.month (by omega)]
  dsimp only [Option.bind_some]
  rw [hdash, Option.bind_some, htwo t.date.day (by omega)]
  change Option.bind (number? 2 _) _ = _
  rw [htwo (t.second / 3600) (by omega)]
  dsimp only [Option.bind_some]
  rw [hcolon, Option.bind_some, htwo (t.second / 60 % 60) (by omega)]
  dsimp only [Option.bind_some]
  rw [hcolon, Option.bind_some, htwo (t.second % 60 + t.nanosecond / 1000000000) (by omega)]
  dsimp only [Option.bind_some]
  rw [fraction?_fractionText (Nat.mod_lt t.nanosecond (by decide : 0 < 1000000000))]
  dsimp only [Option.bind_some]
  rw [hzone]
  dsimp only [Option.bind_some]
  rw [ofLocal_parts h]
  exact if_pos (by simp [h.date, h.year, hhour, hminute, hshown, Text.trimStart])

/-! ### What is read -/

/-- The size of an offset is whole minutes and less than a day. -/
theorem whole_minutes_of_offsetSize? {cs rest : List Char} {size : Nat}
    (h : offsetSize? cs = some (size, rest)) : ∃ minutes < 1440, size = 60 * minutes := by
  unfold offsetSize? at h
  split at h
  · simp only [bind, Option.bind_eq_some_iff] at h
    obtain ⟨hours, -, h⟩ := h
    split at h
    · simp only [Option.bind_eq_some_iff] at h
      obtain ⟨minutes, -, h⟩ := h
      split at h
      · next hbound =>
          obtain ⟨rfl, -⟩ := Prod.mk.inj (Option.some.inj h)
          exact ⟨hours * 60 + minutes, by omega, by omega⟩
      · cases h
    · cases h
  · cases h

/-- A time zone is whole minutes and less than a day ahead or behind. -/
theorem whole_minutes_of_zone? {cs rest : List Char} {offset : Int}
    (h : zone? cs = some (offset, rest)) :
    ∃ minutes : Int, offset = 60 * minutes ∧ -1440 < minutes ∧ minutes < 1440 := by
  have hutc : ∀ {rest'}, some ((0 : Int), rest') = some (offset, rest) →
      ∃ minutes : Int, offset = 60 * minutes ∧ -1440 < minutes ∧ minutes < 1440 := fun h =>
    ⟨0, by simpa using (Prod.mk.inj (Option.some.inj h)).1.symm, by decide, by decide⟩
  unfold zone? at h
  split at h
  · exact hutc h
  · exact hutc h
  · obtain ⟨⟨size, rest'⟩, hsize, heq⟩ := Option.map_eq_some_iff.mp h
    obtain ⟨minutes, hlt, rfl⟩ := whole_minutes_of_offsetSize? hsize
    obtain ⟨rfl, -⟩ := Prod.mk.inj heq
    exact ⟨minutes, by omega, by omega, by omega⟩
  · obtain ⟨⟨size, rest'⟩, hsize, heq⟩ := Option.map_eq_some_iff.mp h
    obtain ⟨minutes, hlt, rfl⟩ := whole_minutes_of_offsetSize? hsize
    obtain ⟨rfl, -⟩ := Prod.mk.inj heq
    exact ⟨-minutes, by omega, by omega, by omega⟩
  · obtain ⟨⟨size, rest'⟩, hsize, heq⟩ := Option.map_eq_some_iff.mp h
    obtain ⟨minutes, hlt, rfl⟩ := whole_minutes_of_offsetSize? hsize
    obtain ⟨rfl, -⟩ := Prod.mk.inj heq
    exact ⟨-minutes, by omega, by omega, by omega⟩
  · split at h
    · exact hutc h
    · cases h
  · cases h

theorem lt_of_fraction? {cs rest : List Char} {n : Nat} (h : fraction? cs = some (n, rest)) :
    n < 1000000000 := by
  unfold fraction? at h
  split at h
  · next digits =>
      simp only [bind, Option.bind_eq_some_iff] at h
      obtain ⟨value, hvalue, h⟩ := h
      obtain ⟨rfl, -⟩ := Prod.mk.inj (Option.some.inj h)
      have hnine : ((digits.take 9).takeWhile Char.isDigit).length ≤ 9 :=
        Nat.le_trans (List.takeWhile_prefix _).length_le (List.length_take_le 9 digits)
      have hlt := Decimal.lt_of_nat? hvalue
      generalize ((digits.take 9).takeWhile Char.isDigit).length = length at hnine hlt
      calc value * 10 ^ (9 - length)
          < 10 ^ length * 10 ^ (9 - length) :=
            Nat.mul_lt_mul_of_pos_right hlt (Nat.pow_pos (by decide))
        _ = 1000000000 := by rw [← Nat.pow_add, Nat.add_sub_cancel' hnine]
  · obtain ⟨rfl, -⟩ := Prod.mk.inj (Option.some.inj h)
    decide

/-- Local time is converted by going to the next or to the previous day. -/
theorem ofLocal_date_isValid {date : Date} (h : date.isValid = true) (second nanosecond : Nat)
    (offset : Int) : (ofLocal date second nanosecond offset).date.isValid = true := by
  unfold ofLocal
  dsimp only
  split
  · exact Date.previous_isValid h
  split
  · exact Date.next_isValid h
  · exact h

/-- The second of the day is moved by the offset, up to whole days. -/
theorem ofLocal_second (date : Date) {second : Nat} (nanosecond : Nat) {minutes : Int}
    (hsecond : second < 86400) (hlow : -1440 < minutes) (hhigh : minutes < 1440) :
    (ofLocal date second nanosecond (60 * minutes)).second < 86400
      ∧ (ofLocal date second nanosecond (60 * minutes)).second % 60 = second % 60
      ∧ (ofLocal date second nanosecond (60 * minutes)).nanosecond = nanosecond := by
  unfold ofLocal
  dsimp only
  split
  · exact ⟨by dsimp only; omega, by dsimp only; omega, rfl⟩
  split
  · exact ⟨by dsimp only; omega, by dsimp only; omega, rfl⟩
  · exact ⟨by dsimp only; omega, by dsimp only; omega, rfl⟩

/-- Parts in their ranges make up a proper point. -/
theorem isProper_ofLocal {date : Date} {hour minute second fraction : Nat} {offset : Int}
    (hdate : date.isValid = true) (hhour : hour < 24) (hminute : minute < 60)
    (hsecond : second ≤ 60) (hfraction : fraction < 1000000000)
    (hoffset : ∃ minutes : Int, offset = 60 * minutes ∧ -1440 < minutes ∧ minutes < 1440)
    {t : Timestamp}
    (ht : (if second = 60 then
        ofLocal date (hour * 3600 + minute * 60 + 59) (fraction + 1000000000) offset
      else ofLocal date (hour * 3600 + minute * 60 + second) fraction offset) = t)
    (hyear : isYear t.date.year = true) : t.IsProper := by
  obtain ⟨minutes, rfl, hlow, hhigh⟩ := hoffset
  split at ht
  · subst ht
    obtain ⟨hday, hrest, hnano⟩ := ofLocal_second date (fraction + 1000000000)
      (show hour * 3600 + minute * 60 + 59 < 86400 by omega) hlow hhigh
    exact ⟨ofLocal_date_isValid hdate _ _ _, hyear, hday, .inr ⟨by omega, by omega⟩⟩
  · subst ht
    obtain ⟨hday, -, hnano⟩ := ofLocal_second date fraction
      (show hour * 3600 + minute * 60 + second < 86400 by omega) hlow hhigh
    exact ⟨ofLocal_date_isValid hdate _ _ _, hyear, hday, .inl (by omega)⟩

/-- Whatever is read is a proper point. -/
theorem isProper_of_parse? {cs : List Char} {t : Timestamp} (h : parse? cs = some t) :
    t.IsProper := by
  unfold parse? at h
  obtain ⟨⟨year, _⟩, -, h⟩ := Option.bind_eq_some_iff.mp h
  obtain ⟨_, -, h⟩ := Option.bind_eq_some_iff.mp h
  obtain ⟨⟨month, _⟩, -, h⟩ := Option.bind_eq_some_iff.mp h
  obtain ⟨_, -, h⟩ := Option.bind_eq_some_iff.mp h
  obtain ⟨⟨day, _⟩, -, h⟩ := Option.bind_eq_some_iff.mp h
  dsimp only at h
  split at h
  case h_4 => cases h
  -- The three letters between the date and the time of day lead to the same reading.
  all_goals
    obtain ⟨_, -, h⟩ := Option.bind_eq_some_iff.mp h
    obtain ⟨⟨hour, _⟩, -, h⟩ := Option.bind_eq_some_iff.mp h
    obtain ⟨_, -, h⟩ := Option.bind_eq_some_iff.mp h
    obtain ⟨⟨minute, _⟩, -, h⟩ := Option.bind_eq_some_iff.mp h
    obtain ⟨_, -, h⟩ := Option.bind_eq_some_iff.mp h
    obtain ⟨⟨second, _⟩, -, h⟩ := Option.bind_eq_some_iff.mp h
    obtain ⟨⟨fraction, _⟩, hfraction, h⟩ := Option.bind_eq_some_iff.mp h
    obtain ⟨⟨zone, _⟩, hzone, h⟩ := Option.bind_eq_some_iff.mp h
    obtain ⟨hcheck, hpoint⟩ := Option.ite_none_right_eq_some.mp h
    have ht := Option.some.inj hpoint
    simp only [Bool.and_eq_true, decide_eq_true_eq] at hcheck
    obtain ⟨⟨⟨⟨⟨⟨-, hdate⟩, -⟩, hyear⟩, hhour⟩, hminute⟩, hsecond⟩ := hcheck
    exact isProper_ofLocal hdate hhour hminute hsecond (lt_of_fraction? hfraction)
      (whole_minutes_of_zone? hzone) ht (ht ▸ hyear)

end Timestamp

end Rewind
