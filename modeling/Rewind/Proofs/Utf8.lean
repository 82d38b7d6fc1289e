import Rewind.Text.Utf8

/-!
Texts survive being encoded and decoded, and bytes that can be decoded are those of their text.

A character is encoded in one to four bytes, by the size of its code point. Which of the four it is
can be told from the first byte, and the bounds on the second one, which shut out overlong forms and
surrogates, are those that code points of that size meet, and no others.

Main statements: `Utf8.front_encodeChar` and `Utf8.encodeChar_of_front`, character by character, and
`Utf8.decode_eq_ok_iff`.
-/

namespace Rewind.Utf8

/-! ### The bytes of a text -/

theorem toList_loop (bytes : ByteArray) (i : Nat) (read : List UInt8) :
    ByteArray.toList.loop bytes i read = read.reverse ++ bytes.data.toList.drop i := by
  induction hleft : bytes.size - i generalizing i read with
  | zero =>
      rw [ByteArray.toList.loop.eq_def, if_neg (by omega), List.drop_of_length_le, List.append_nil]
      simpa using (by omega : bytes.size ≤ i)
  | succ left ih =>
      have hi : i < bytes.data.toList.length := by simpa using (by omega : i < bytes.size)
      rw [ByteArray.toList.loop.eq_def, if_pos (by omega), ih _ _ (by omega),
        List.drop_eq_getElem_cons hi, List.reverse_cons, List.append_assoc, List.singleton_append]
      congr 2
      exact getElem!_pos bytes.data i hi

/-- The bytes of a text are those of its characters. -/
theorem encode_ofList (text : List Char) :
    encode (String.ofList text) = text.flatMap String.utf8EncodeChar := by
  have hbytes : (String.ofList text).toUTF8.data.toList = text.flatMap String.utf8EncodeChar := by
    simp [String.toUTF8, List.utf8Encode]
  rw [encode, ByteArray.toList, toList_loop, hbytes]
  rfl

/-! ### Characters -/

/-- Bytes of the form `10xxxxxx` continue a character and carry six bits. -/
theorem isContinuation_ofNat {n : Nat} (h : n < 64) :
    isContinuation (UInt8.ofNat (n + 128)) = true := by
  simp only [isContinuation, Bool.and_eq_true, decide_eq_true_eq, UInt8.le_iff_toNat_le,
    UInt8.toNat_ofNat']
  constructor <;> simp <;> omega

theorem payload_ofNat {n : Nat} (h : n < 64) : payload (UInt8.ofNat (n + 128)) = n := by
  simp only [payload, UInt8.toNat_ofNat']
  omega

/-- The second byte of three shuts out overlong forms and surrogates. -/
theorem mayFollowOfThree_ofNat {high middle : Nat} (hhigh : high < 16) (hmiddle : middle < 64)
    (hlong : high = 0 → 32 ≤ middle) (hpair : high = 13 → middle < 32) :
    mayFollowOfThree (UInt8.ofNat (high + 224)) (UInt8.ofNat (middle + 128)) = true := by
  have hfirst : (UInt8.ofNat (high + 224)).toNat = high + 224 :=
    UInt8.toNat_ofNat_of_lt' (show _ < 256 by omega)
  have hsecond : (UInt8.ofNat (middle + 128)).toNat = middle + 128 :=
    UInt8.toNat_ofNat_of_lt' (show _ < 256 by omega)
  simp only [mayFollowOfThree, isContinuation_ofNat hmiddle, Bool.and_eq_true, Bool.or_eq_true,
    bne_iff_ne, ne_eq, decide_eq_true_eq, ← UInt8.toNat_inj, UInt8.le_iff_toNat_le,
    UInt8.reduceToNat, hfirst, hsecond]
  exact ⟨⟨trivial, by omega⟩, by omega⟩

/-- The second byte of four shuts out overlong forms and what lies beyond the last code point. -/
theorem mayFollowOfFour_ofNat {high middle : Nat} (hhigh : high < 8) (hmiddle : middle < 64)
    (hlong : high = 0 → 16 ≤ middle) (hlast : high = 4 → middle < 16) :
    mayFollowOfFour (UInt8.ofNat (high + 240)) (UInt8.ofNat (middle + 128)) = true := by
  have hfirst : (UInt8.ofNat (high + 240)).toNat = high + 240 :=
    UInt8.toNat_ofNat_of_lt' (show _ < 256 by omega)
  have hsecond : (UInt8.ofNat (middle + 128)).toNat = middle + 128 :=
    UInt8.toNat_ofNat_of_lt' (show _ < 256 by omega)
  simp only [mayFollowOfFour, isContinuation_ofNat hmiddle, Bool.and_eq_true, Bool.or_eq_true,
    bne_iff_ne, ne_eq, decide_eq_true_eq, ← UInt8.toNat_inj, UInt8.le_iff_toNat_le,
    UInt8.reduceToNat, hfirst, hsecond]
  exact ⟨⟨trivial, by omega⟩, by omega⟩

theorem front_two {high low : Nat} (hhigh : 2 ≤ high ∧ high < 32) (hlow : low < 64)
    (rest : List UInt8) :
    front (UInt8.ofNat (high + 192)) (UInt8.ofNat (low + 128) :: rest)
      = .char (Char.ofNat (high * 64 + low)) 1 := by
  have hfirst : (UInt8.ofNat (high + 192)).toNat = high + 192 :=
    UInt8.toNat_ofNat_of_lt' (show _ < 256 by omega)
  simp only [front, UInt8.lt_iff_toNat_lt, UInt8.reduceToNat, hfirst]
  rw [if_neg (by omega), if_neg (by omega), if_pos (by omega)]
  simp only [frontOfTwo, isContinuation_ofNat hlow, payload_ofNat hlow, hfirst, if_true,
    show (high + 192) % 32 = high by omega]

theorem front_three {high middle low : Nat} (hhigh : high < 16) (hmiddle : middle < 64)
    (hlow : low < 64) (hlong : high = 0 → 32 ≤ middle) (hpair : high = 13 → middle < 32)
    (rest : List UInt8) :
    front (UInt8.ofNat (high + 224)) (UInt8.ofNat (middle + 128) :: UInt8.ofNat (low + 128) :: rest)
      = .char (Char.ofNat ((high * 64 + middle) * 64 + low)) 2 := by
  have hfirst : (UInt8.ofNat (high + 224)).toNat = high + 224 :=
    UInt8.toNat_ofNat_of_lt' (show _ < 256 by omega)
  simp only [front, UInt8.lt_iff_toNat_lt, UInt8.reduceToNat, hfirst]
  rw [if_neg (by omega), if_neg (by omega), if_neg (by omega), if_pos (by omega)]
  simp only [frontOfThree, mayFollowOfThree_ofNat hhigh hmiddle hlong hpair,
    isContinuation_ofNat hlow, payload_ofNat hmiddle, payload_ofNat hlow, hfirst, if_true,
    show (high + 224) % 16 = high by omega]

theorem front_four {high upper lower low : Nat} (hhigh : high < 5) (hupper : upper < 64)
    (hlower : lower < 64) (hlow : low < 64) (hlong : high = 0 → 16 ≤ upper)
    (hlast : high = 4 → upper < 16) (rest : List UInt8) :
    front (UInt8.ofNat (high + 240)) (UInt8.ofNat (upper + 128) :: UInt8.ofNat (lower + 128)
        :: UInt8.ofNat (low + 128) :: rest)
      = .char (Char.ofNat (((high * 64 + upper) * 64 + lower) * 64 + low)) 3 := by
  have hfirst : (UInt8.ofNat (high + 240)).toNat = high + 240 :=
    UInt8.toNat_ofNat_of_lt' (show _ < 256 by omega)
  simp only [front, UInt8.lt_iff_toNat_lt, UInt8.reduceToNat, hfirst]
  rw [if_neg (by omega), if_neg (by omega), if_neg (by omega), if_neg (by omega),
    if_pos (by omega)]
  simp only [frontOfFour, mayFollowOfFour_ofNat (by omega) hupper hlong hlast,
    isContinuation_ofNat hlower, isContinuation_ofNat hlow, payload_ofNat hupper,
    payload_ofNat hlower, payload_ofNat hlow, hfirst, if_true,
    show (high + 240) % 8 = high by omega]

/-- Encoded characters are recognised, whatever follows them. -/
theorem front_encodeChar (c : Char) (rest : List UInt8) :
    ∃ first more, String.utf8EncodeChar c = first :: more
      ∧ front first (more ++ rest) = .char c more.length := by
  have hvalid : c.toNat < 0xD800 ∨ 0xDFFF < c.toNat ∧ c.toNat < 0x110000 := c.valid
  have hchar := Char.ofNat_toNat c
  unfold String.utf8EncodeChar
  rw [show c.val.toNat = c.toNat from rfl]
  generalize c.toNat = n at hvalid hchar ⊢
  subst hchar
  dsimp only
  split
  · next hone =>
      have hbyte : (UInt8.ofNat n).toNat = n := UInt8.toNat_ofNat_of_lt' (show _ < 256 by omega)
      have hfirst : UInt8.ofNat n < 0x80 := by
        rw [UInt8.lt_iff_toNat_lt, hbyte]
        exact Nat.lt_succ_of_le hone
      refine ⟨_, _, rfl, ?_⟩
      rw [front, if_pos hfirst, hbyte]
      rfl
  split
  · next hone htwo =>
      refine ⟨_, _, rfl, (front_two (by omega) (Nat.mod_lt _ (by decide)) rest).trans ?_⟩
      congr 2
      omega
  split
  · next hone htwo hthree =>
      refine ⟨_, _, rfl, (front_three (by omega) (Nat.mod_lt _ (by decide))
        (Nat.mod_lt _ (by decide)) (by omega) (by omega) rest).trans ?_⟩
      congr 2
      omega
  · next hone htwo hthree =>
      refine ⟨_, _, rfl, (front_four (by omega) (Nat.mod_lt _ (by decide))
        (Nat.mod_lt _ (by decide)) (Nat.mod_lt _ (by decide)) (by omega) (by omega) rest).trans ?_⟩
      congr 2
      omega

/-! ### Back from characters to bytes -/

theorem toNat_charOfNat {n : Nat} (h : n < 0xD800 ∨ 0xDFFF < n ∧ n < 0x110000) :
    (Char.ofNat n).val.toNat = n := by
  rw [Char.ofNat, dif_pos h]
  rfl

/-- A byte that continues a character is told by the bits that it carries. -/
theorem ofNat_payload {b : UInt8} (h : isContinuation b = true) :
    UInt8.ofNat (payload b + 128) = b := by
  simp only [isContinuation, Bool.and_eq_true, decide_eq_true_eq, UInt8.le_iff_toNat_le,
    UInt8.reduceToNat] at h
  rw [payload, show b.toNat % 64 + 128 = b.toNat by omega, UInt8.ofNat_toNat]

theorem payload_lt (b : UInt8) : payload b < 64 :=
  Nat.mod_lt _ (by decide)

theorem encodeChar_one {n : Nat} (h : n < 128) :
    String.utf8EncodeChar (Char.ofNat n) = [UInt8.ofNat n] := by
  have hcode : (Char.ofNat n).val.toNat = n := toNat_charOfNat (by omega)
  unfold String.utf8EncodeChar
  dsimp only
  rw [hcode, if_pos (by omega)]

theorem encodeChar_two {high low : Nat} (hhigh : 2 ≤ high ∧ high < 32) (hlow : low < 64) :
    String.utf8EncodeChar (Char.ofNat (high * 64 + low)) =
      [UInt8.ofNat (high + 192), UInt8.ofNat (low + 128)] := by
  have hcode : (Char.ofNat (high * 64 + low)).val.toNat = high * 64 + low :=
    toNat_charOfNat (by omega)
  unfold String.utf8EncodeChar
  dsimp only
  rw [hcode, if_neg (by omega), if_pos (by omega),
    show (high * 64 + low) / 64 % 32 = high by omega,
    show (high * 64 + low) % 64 = low by omega]

theorem encodeChar_three {high middle low : Nat} (hhigh : high < 16) (hmiddle : middle < 64)
    (hlow : low < 64) (hlong : high = 0 → 32 ≤ middle) (hpair : high = 13 → middle < 32) :
    String.utf8EncodeChar (Char.ofNat ((high * 64 + middle) * 64 + low)) =
      [UInt8.ofNat (high + 224), UInt8.ofNat (middle + 128), UInt8.ofNat (low + 128)] := by
  have hcode : (Char.ofNat ((high * 64 + middle) * 64 + low)).val.toNat =
      (high * 64 + middle) * 64 + low := toNat_charOfNat (by omega)
  unfold String.utf8EncodeChar
  dsimp only
  rw [hcode, if_neg (by omega), if_neg (by omega), if_pos (by omega),
    show ((high * 64 + middle) * 64 + low) / 4096 % 16 = high by omega,
    show ((high * 64 + middle) * 64 + low) / 64 % 64 = middle by omega,
    show ((high * 64 + middle) * 64 + low) % 64 = low by omega]

theorem encodeChar_four {high upper lower low : Nat} (hhigh : high < 5) (hupper : upper < 64)
    (hlower : lower < 64) (hlow : low < 64) (hlong : high = 0 → 16 ≤ upper)
    (hlast : high = 4 → upper < 16) :
    String.utf8EncodeChar (Char.ofNat (((high * 64 + upper) * 64 + lower) * 64 + low)) =
      [UInt8.ofNat (high + 240), UInt8.ofNat (upper + 128), UInt8.ofNat (lower + 128),
        UInt8.ofNat (low + 128)] := by
  have hcode : (Char.ofNat (((high * 64 + upper) * 64 + lower) * 64 + low)).val.toNat =
      ((high * 64 + upper) * 64 + lower) * 64 + low := toNat_charOfNat (by omega)
  unfold String.utf8EncodeChar
  dsimp only
  rw [hcode, if_neg (by omega), if_neg (by omega), if_neg (by omega),
    show (((high * 64 + upper) * 64 + lower) * 64 + low) / 262144 % 8 = high by omega,
    show (((high * 64 + upper) * 64 + lower) * 64 + low) / 4096 % 64 = upper by omega,
    show (((high * 64 + upper) * 64 + lower) * 64 + low) / 64 % 64 = lower by omega,
    show (((high * 64 + upper) * 64 + lower) * 64 + low) % 64 = low by omega]

/-- The second byte of three bounds the code point from below and keeps it out of the surrogates. -/
theorem bounds_of_mayFollowOfThree {first b : UInt8} (h : mayFollowOfThree first b = true)
    (hfirst : 0xE0 ≤ first.toNat ∧ first.toNat < 0xF0) :
    isContinuation b = true ∧ (first.toNat % 16 = 0 → 32 ≤ payload b) ∧
      (first.toNat % 16 = 13 → payload b < 32) := by
  simp only [mayFollowOfThree, Bool.and_eq_true] at h
  refine ⟨h.1.1, ?_⟩
  have hb := h.1.1
  simp only [isContinuation, Bool.and_eq_true, Bool.or_eq_true, bne_iff_ne, ne_eq,
    decide_eq_true_eq, ← UInt8.toNat_inj, UInt8.le_iff_toNat_le, UInt8.reduceToNat] at h hb
  rw [payload]
  omega

/-- The second byte of four bounds the code point from below, and from above. -/
theorem bounds_of_mayFollowOfFour {first b : UInt8} (h : mayFollowOfFour first b = true)
    (hfirst : 0xF0 ≤ first.toNat ∧ first.toNat < 0xF5) :
    isContinuation b = true ∧ (first.toNat % 8 = 0 → 16 ≤ payload b) ∧
      (first.toNat % 8 = 4 → payload b < 16) := by
  simp only [mayFollowOfFour, Bool.and_eq_true] at h
  refine ⟨h.1.1, ?_⟩
  have hb := h.1.1
  simp only [isContinuation, Bool.and_eq_true, Bool.or_eq_true, bne_iff_ne, ne_eq,
    decide_eq_true_eq, ← UInt8.toNat_inj, UInt8.le_iff_toNat_le, UInt8.reduceToNat] at h hb
  rw [payload]
  omega

theorem encodeChar_of_frontOfTwo {first : UInt8} {rest : List UInt8} {c : Char} {more : Nat}
    (hfirst : 0xC2 ≤ first.toNat ∧ first.toNat < 0xE0) (h : frontOfTwo first rest = .char c more) :
    String.utf8EncodeChar c ++ rest.drop more = first :: rest := by
  cases rest with
  | nil => exact absurd h (by simp [frontOfTwo])
  | cons b rest =>
      simp only [frontOfTwo] at h
      split at h
      · next hb =>
          obtain ⟨rfl, rfl⟩ := Front.char.inj h
          rw [encodeChar_two (by omega) (payload_lt b), ofNat_payload hb,
            show first.toNat % 32 + 192 = first.toNat by omega, UInt8.ofNat_toNat]
          rfl
      · exact absurd h (by simp)

theorem encodeChar_of_frontOfThree {first : UInt8} {rest : List UInt8} {c : Char} {more : Nat}
    (hfirst : 0xE0 ≤ first.toNat ∧ first.toNat < 0xF0)
    (h : frontOfThree first rest = .char c more) :
    String.utf8EncodeChar c ++ rest.drop more = first :: rest := by
  unfold frontOfThree at h
  split at h
  · exact absurd h (by simp)
  split at h
  · next b rest hb =>
      obtain ⟨hb, hlong, hpair⟩ := bounds_of_mayFollowOfThree hb hfirst
      split at h
      · exact absurd h (by simp)
      split at h
      · next d rest hd =>
          obtain ⟨rfl, rfl⟩ := Front.char.inj h
          rw [encodeChar_three (by omega) (payload_lt b) (payload_lt d) hlong hpair,
            ofNat_payload hb, ofNat_payload hd,
            show first.toNat % 16 + 224 = first.toNat by omega, UInt8.ofNat_toNat]
          rfl
      · exact absurd h (by simp)
  · exact absurd h (by simp)

theorem encodeChar_of_frontOfFour {first : UInt8} {rest : List UInt8} {c : Char} {more : Nat}
    (hfirst : 0xF0 ≤ first.toNat ∧ first.toNat < 0xF5)
    (h : frontOfFour first rest = .char c more) :
    String.utf8EncodeChar c ++ rest.drop more = first :: rest := by
  unfold frontOfFour at h
  split at h
  · exact absurd h (by simp)
  split at h
  · next b rest hb =>
      obtain ⟨hb, hlong, hlast⟩ := bounds_of_mayFollowOfFour hb hfirst
      split at h
      · exact absurd h (by simp)
      split at h
      · next d rest hd =>
          split at h
          · exact absurd h (by simp)
          split at h
          · next e rest he =>
              obtain ⟨rfl, rfl⟩ := Front.char.inj h
              rw [encodeChar_four (by omega) (payload_lt b) (payload_lt d) (payload_lt e) hlong
                hlast, ofNat_payload hb, ofNat_payload hd, ofNat_payload he,
                show first.toNat % 8 + 240 = first.toNat by omega, UInt8.ofNat_toNat]
              rfl
          · exact absurd h (by simp)
      · exact absurd h (by simp)
  · exact absurd h (by simp)

/-- What is recognised as a character is its encoding. -/
theorem encodeChar_of_front {first : UInt8} {rest : List UInt8} {c : Char} {more : Nat}
    (h : front first rest = .char c more) :
    String.utf8EncodeChar c ++ rest.drop more = first :: rest := by
  simp only [front, UInt8.lt_iff_toNat_lt, UInt8.reduceToNat] at h
  split at h
  · next hone =>
      obtain ⟨rfl, rfl⟩ := Front.char.inj h
      rw [encodeChar_one hone, UInt8.ofNat_toNat]
      rfl
  split at h
  · exact absurd h (by simp)
  split at h
  · exact encodeChar_of_frontOfTwo (by omega) h
  split at h
  · exact encodeChar_of_frontOfThree (by omega) h
  split at h
  · exact encodeChar_of_frontOfFour (by omega) h
  · exact absurd h (by simp)

/-! ### Texts -/

theorem decodeFrom_encode (text : List Char) (index : Nat) :
    decodeFrom index (text.flatMap String.utf8EncodeChar) = .ok text := by
  induction text generalizing index with
  | nil => rw [List.flatMap_nil, decodeFrom]
  | cons c text ih =>
      obtain ⟨first, more, hbytes, hfront⟩ :=
        front_encodeChar c (text.flatMap String.utf8EncodeChar)
      rw [List.flatMap_cons, hbytes, List.cons_append, decodeFrom]
      simp only [hfront, List.drop_left, ih]
      rfl

/-- Decoding an encoded text gives it back. -/
theorem decode_encode (text : String) : decode (encode text) = .ok text := by
  obtain ⟨cs, rfl⟩ : ∃ cs, text = String.ofList cs := ⟨text.toList, String.ofList_toList.symm⟩
  rw [decode, encode_ofList, decodeFrom_encode]
  rfl

theorem encode_of_decodeFrom {index : Nat} {bytes : List UInt8} {text : List Char}
    (h : decodeFrom index bytes = .ok text) : text.flatMap String.utf8EncodeChar = bytes := by
  induction index, bytes using decodeFrom.induct generalizing text with
  | case1 index =>
      rw [decodeFrom] at h
      obtain rfl := Except.ok.inj h
      rfl
  | case2 index first rest c more hfront ih =>
      rw [decodeFrom, hfront] at h
      cases hrest : decodeFrom (index + 1 + more) (rest.drop more) with
      | error fault => simp [hrest, Except.map] at h
      | ok later =>
          obtain rfl : c :: later = text := by simpa [hrest, Except.map] using h
          rw [List.flatMap_cons, ih hrest, encodeChar_of_front hfront]
  | case3 index first rest length hfront => simp [decodeFrom, hfront] at h
  | case4 index first rest hfront => simp [decodeFrom, hfront] at h

/-- Bytes are decoded to the text whose bytes they are, and refused if there is none. -/
theorem decode_eq_ok_iff {bytes : List UInt8} {text : String} :
    decode bytes = .ok text ↔ encode text = bytes := by
  constructor
  · intro h
    rw [decode] at h
    cases hfrom : decodeFrom 0 bytes with
    | error fault => simp [hfrom, Except.map] at h
    | ok cs =>
        obtain rfl : String.ofList cs = text := by simpa [hfrom, Except.map] using h
        rw [encode_ofList, encode_of_decodeFrom hfrom]
  · rintro rfl
    exact decode_encode text

end Rewind.Utf8
