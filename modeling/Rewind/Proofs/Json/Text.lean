import Rewind.Json.Printer
import Rewind.Json.Reader
import Rewind.Proofs.Decimal

/-!
Printed values are read back.

Printing puts tokens one after the other, with the blanks of a layout between some of them, and
reading takes them off again one by one. So what has to be known of each token is that it is taken
off completely and that nothing more is: strings end at their quote, because inside of them quotes
are escaped; words and brackets end by themselves; numbers end where no digit, point or exponent
follows. The bound on the recursion is never met, since every step leaves fewer characters than
steps.

Values that hold a number of no word, or that could not be read in the first place, are left out:
they are not `Plain`.

Main statements: `Json.stringBody?_escaped`, `Json.number?_ofInt` and, for whole texts in any
layout, `Json.parse?_print`.
-/

namespace Rewind.Json

/-! ### Strings -/

theorem hexUnit?_escaped {n : Nat} (h : n < 256) :
    hexUnit? '0' '0' (Decimal.hexDigit (n / 16)) (Decimal.hexDigit (n % 16)) = some n := by
  have hdigit : ∀ k < 16, Decimal.hexValue? (Decimal.hexDigit k) = some k := by decide
  have hzero : Decimal.hexValue? '0' = some 0 := rfl
  simp only [hexUnit?, hzero, hdigit (n / 16) (by omega), hdigit (n % 16) (by omega), bind,
    Option.bind_some, Option.some.injEq]
  omega

/-- An escaped character is one code point. -/
theorem stringBody?_escaped (c : Char) (rest : List Char) :
    stringBody? (escaped c ++ rest)
      = (stringBody? rest).bind fun (points, rest) => some (c.toNat :: points, rest) := by
  unfold escaped
  split
  · next h => subst h; rfl
  split
  · next h => subst h; rfl
  split
  · next h => rw [h]; rfl
  split
  · next h => rw [h]; rfl
  split
  · next h => rw [h]; rfl
  split
  · next h => rw [h]; rfl
  split
  · next h => rw [h]; rfl
  split
  · next hsmall =>
      simp only [List.cons_append, List.nil_append, stringBody?,
        hexUnit?_escaped (show c.toNat < 256 by omega), bind, Option.bind_some]
  · next hquote hslash _ _ _ _ _ hlarge =>
      rw [List.singleton_append, stringBody?.eq_5 c rest hquote
        (fun _ _ _ _ _ h _ => hslash h) (fun _ _ h _ => hslash h),
        if_neg (by simp [hslash, hlarge])]
      rfl

/-- A text is read up to its closing quote as its code points. -/
theorem stringBody?_text (text rest : List Char) :
    stringBody? (text.flatMap escaped ++ '"' :: rest) = some (text.map Char.toNat, rest) := by
  induction text with
  | nil => rfl
  | cons c text ih =>
      rw [List.flatMap_cons, List.append_assoc, stringBody?_escaped, ih]
      rfl

/-- No character is half of a surrogate pair. -/
theorem joinPairs?_toNat (text : List Char) : joinPairs? (text.map Char.toNat) = some text := by
  induction text with
  | nil => rfl
  | cons c text ih =>
      have hvalid : c.toNat < 0xD800 ∨ 0xDFFF < c.toNat ∧ c.toNat < 0x110000 := c.valid
      rw [List.map_cons]
      unfold joinPairs?
      rw [if_neg (by omega), if_neg (by omega), ih, Char.ofNat_toNat]
      rfl

/-- A printed string is read behind its opening quote. -/
theorem string?_text (text : String) (rest : List Char) :
    string? (text.toList.flatMap escaped ++ '"' :: rest) = some (some text, rest) := by
  simp only [string?, stringBody?_text, joinPairs?_toNat, bind, Option.bind_some, Option.map_some,
    String.ofList_toList]

theorem stringText_append (text : String) (rest : List Char) :
    stringText text ++ rest = '"' :: (text.toList.flatMap escaped ++ '"' :: rest) := by
  simp [stringText]

/-! ### Numbers -/

/-- A text in front of which a number ends. -/
def Apart (rest : List Char) : Prop :=
  ∀ c ∈ rest.head?, c.isDigit = false ∧ c ≠ '.' ∧ c ≠ 'e' ∧ c ≠ 'E'

theorem Apart.endsDigits {rest : List Char} (h : Apart rest) : Decimal.EndsDigits rest :=
  fun c hc => (h c hc).1

theorem fraction?_apart {rest : List Char} (h : Apart rest) : fraction? rest = some ([], rest) :=
  fraction?.eq_2 rest fun _ heq => (h '.' (by simp [heq])).2.1 rfl

theorem exponent?_apart {rest : List Char} (h : Apart rest) :
    exponent? rest = some (none, rest) := by
  cases rest with
  | nil => rfl
  | cons c rest =>
      have hc := h c rfl
      unfold exponent?
      exact if_neg (by simp [hc])

theorem wholeDigits?_ofNat (n : Nat) {rest : List Char} (h : Apart rest) :
    wholeDigits? (Decimal.ofNat n ++ rest) = some (Decimal.ofNat n, rest) := by
  by_cases hzero : n = 0
  · subst hzero
    rw [show Decimal.ofNat 0 = ['0'] by rw [Decimal.ofNat]; rfl]
    rfl
  · have hfront : ∀ tail, Decimal.ofNat n ++ rest = '0' :: tail → False := by
      intro tail heq
      cases hdigits : Decimal.ofNat n with
      | nil => exact Decimal.ofNat_ne_nil n hdigits
      | cons c digits =>
          rw [hdigits, List.cons_append] at heq
          obtain ⟨rfl, -⟩ := List.cons.inj heq
          exact Decimal.ofNat_ne_zero_cons (Nat.pos_of_ne_zero hzero) digits hdigits
    have hdigits : ∀ c ∈ Decimal.ofNat n, c.isDigit = true := fun _ => Decimal.isDigit_of_mem_ofNat
    rw [wholeDigits?.eq_2 _ hfront]
    simp only [spanDigits, Decimal.takeWhile_digits hdigits h.endsDigits,
      Decimal.dropWhile_digits hdigits h.endsDigits]
    exact if_neg (by simpa using Decimal.ofNat_ne_nil n)

/-- Digits that make up a word all fit into the significand. -/
theorem takeUp_digits {start n : Nat} {digits : List Char}
    (hvalue : Decimal.extend? start digits = some n) (hn : n < UInt64.size) :
    Double.takeUp start digits = (n, []) := by
  induction digits generalizing start with
  | nil =>
      obtain rfl := Option.some.inj hvalue
      rfl
  | cons c digits ih =>
      have hnext := Decimal.extend?_cons hvalue
      have hle := Decimal.le_of_extend? hnext
      unfold Double.takeUp
      exact (if_pos (Nat.lt_of_le_of_lt hle hn)).trans (ih hnext)

/-- Rounding a number at most doubles it. -/
theorem round_le (n : Nat) : Double.round n ≤ 2 * n := by
  by_cases hsmall : n < 9007199254740992
  · rw [Double.round_eq_self hsmall]
    omega
  · have hne : n ≠ 0 := by omega
    have hunit : Nat.pow 2 (n.log2 - 52) ≤ n :=
      Nat.le_trans (Nat.pow_le_pow_right (by decide) (Nat.sub_le _ _)) (Nat.log2_self_le hne)
    have hpos : 0 < Nat.pow 2 (n.log2 - 52) := Nat.pow_pos Nat.two_pos
    have hnear := (Double.roundDiv_near n hpos).2
    rw [Double.round, Nat.mul_comm]
    omega

/-- A word is no infinite number. -/
theorem isTooLarge_ofNat {n : Nat} (hn : n < UInt64.size) :
    Double.isTooLarge (Decimal.ofNat n) [] 0 = false := by
  have hround : decide (Double.limit ≤ Double.round n * Double.round (Nat.pow 10 0)) = false := by
    have hone : Double.round (Nat.pow 10 0) = 1 := Double.round_eq_self (by decide)
    have hword : 2 * UInt64.size < Double.limit := by decide +kernel
    have hle := round_le n
    rw [hone, Nat.mul_one, decide_eq_false_iff_not]
    omega
  have hoverflows : Double.isTooLarge (Decimal.ofNat n) [] 0 = Double.overflows n 0 := by
    simp only [Double.isTooLarge, takeUp_digits (Decimal.extend?_ofNat n) hn, Double.takeUp]
    rfl
  have hexponent : decide ((308 : Int) < 0) = false := rfl
  rw [hoverflows, Double.overflows, Int.toNat_zero, hround, hexponent, Bool.and_false,
    Bool.or_false, Bool.and_false]

theorem unsigned?_ofNat (negative : Bool) {n : Nat} (hn : n < UInt64.size) {rest : List Char}
    (h : Apart rest) :
    unsigned? negative (Decimal.ofNat n ++ rest)
      = if negative then if n = 0 then some (.real "-0", rest) else some (.int (-(n : Int)), rest)
        else some (.int n, rest) := by
  simp only [unsigned?, wholeDigits?_ofNat n h, fraction?_apart h, exponent?_apart h, bind,
    Option.bind_some, Option.getD_none, isTooLarge_ofNat hn, Decimal.nat?_ofNat]
  rfl

/-- A whole number is read where its digits end. -/
theorem number?_ofInt {n : Int} (hn : n.natAbs < UInt64.size) {rest : List Char} (h : Apart rest) :
    number? (Decimal.ofInt n ++ rest) = some (.int n, rest) := by
  cases n with
  | ofNat n =>
      have hsign : ∀ tail, Decimal.ofNat n ++ rest = '-' :: tail → False := by
        intro tail heq
        cases hdigits : Decimal.ofNat n with
        | nil => exact Decimal.ofNat_ne_nil n hdigits
        | cons c digits =>
            rw [hdigits, List.cons_append] at heq
            obtain ⟨rfl, -⟩ := List.cons.inj heq
            have hdigit : '-' ∈ Decimal.ofNat n := by simp [hdigits]
            exact absurd (Decimal.isDigit_of_mem_ofNat hdigit) (by decide)
      rw [Decimal.ofInt, number?.eq_2 _ hsign, unsigned?_ofNat (n := n) false hn h]
      rfl
  | negSucc n =>
      rw [Decimal.ofInt, List.cons_append, number?, unsigned?_ofNat (n := n + 1) true hn h]
      rfl

/-! ### Blanks -/

/-- Only characters that may stand between tokens. -/
def Blank (cs : List Char) : Prop :=
  ∀ c ∈ cs, c = ' ' ∨ c = '\n'

/-- A layout puts nothing but blanks between the tokens. -/
structure Layout.IsBlank (layout : Layout) : Prop where
  lineBreak : ∀ depth, Blank (layout.lineBreak depth)
  afterColon : Blank layout.afterColon

theorem Layout.isBlank_compact : Layout.compact.IsBlank where
  lineBreak _ _ h := absurd h List.not_mem_nil
  afterColon _ h := absurd h List.not_mem_nil

theorem Layout.isBlank_indented : Layout.indented.IsBlank where
  lineBreak depth c h := by
    rcases List.mem_cons.mp h with rfl | h
    · exact .inr rfl
    · exact .inl (List.eq_of_mem_replicate h)
  afterColon c h := .inl (List.mem_singleton.mp h)

theorem skipBlanks_append {blanks : List Char} (h : Blank blanks) (cs : List Char) :
    skipBlanks (blanks ++ cs) = skipBlanks cs :=
  List.dropWhile_append_of_pos fun c hc => by
    rcases h c hc with rfl | rfl <;> rfl

/-- A character that begins a token. -/
def BeginsToken (c : Char) : Prop :=
  c ≠ ' ' ∧ c ≠ '\t' ∧ c ≠ '\n' ∧ c ≠ '\r'

instance (c : Char) : Decidable (BeginsToken c) :=
  inferInstanceAs (Decidable (_ ∧ _))

theorem skipBlanks_token {c : Char} (h : BeginsToken c) (cs : List Char) :
    skipBlanks (c :: cs) = c :: cs :=
  List.dropWhile_cons_of_neg (by simp [h.1, h.2.1, h.2.2.1, h.2.2.2])

theorem apart_cons {c : Char} (h : c.isDigit = false ∧ c ≠ '.' ∧ c ≠ 'e' ∧ c ≠ 'E')
    (rest : List Char) : Apart (c :: rest) := by
  rintro _ ⟨⟩
  exact h

theorem Apart.blanks {rest : List Char} (h : Apart rest) {blanks : List Char}
    (hblank : Blank blanks) : Apart (blanks ++ rest) := by
  cases blanks with
  | nil => exact h
  | cons c blanks =>
      refine apart_cons ?_ _
      rcases hblank c List.mem_cons_self with rfl | rfl <;> decide

/-! ### Values -/

/-- Every number in the value is a whole one whose size is a word, and the value can be read. -/
def Plain : Json → Prop
  | .null | .bool _ | .str _ => True
  | .int n => n.natAbs < UInt64.size
  | .real _ | .unreadable => False
  | .arr items => plainItems items
  | .obj members => plainMembers members
where
  plainItems : List Json → Prop
    | [] => True
    | item :: items => Plain item ∧ plainItems items
  plainMembers : List (String × Json) → Prop
    | [] => True
    | (_, value) :: members => Plain value ∧ plainMembers members

@[simp] theorem plain_str (text : String) : (str text).Plain :=
  trivial

@[simp] theorem plain_bool (value : Bool) : (Json.bool value).Plain :=
  trivial

@[simp] theorem plain_arr {items : List Json} : (arr items).Plain ↔ ∀ item ∈ items, item.Plain := by
  induction items with
  | nil => simp [Plain, Plain.plainItems]
  | cons item items ih => simpa [Plain, Plain.plainItems] using fun _ => ih

@[simp] theorem plain_obj {members : List (String × Json)} :
    (obj members).Plain ↔ ∀ entry ∈ members, entry.2.Plain := by
  induction members with
  | nil => simp [Plain, Plain.plainMembers]
  | cons entry members ih =>
      obtain ⟨name, value⟩ := entry
      simpa [Plain, Plain.plainMembers] using fun _ => ih

/-- A number begins with a sign or a digit. -/
theorem ofInt_eq_cons (n : Int) :
    ∃ c cs, Decimal.ofInt n = c :: cs ∧ (c = '-' ∨ 48 ≤ c.toNat ∧ c.toNat ≤ 57) := by
  cases n with
  | ofNat n =>
      cases hdigits : Decimal.ofNat n with
      | nil => exact absurd hdigits (Decimal.ofNat_ne_nil n)
      | cons c cs =>
          have hc : c ∈ Decimal.ofNat n := hdigits ▸ List.mem_cons_self
          exact ⟨c, cs, hdigits, .inr (Decimal.toNat_of_mem_ofNat hc)⟩
  | negSucc n => exact ⟨'-', _, rfl, .inl rfl⟩

/-- Printed values begin with a token, which closes nothing. -/
theorem print_eq_cons {json : Json} (h : json.Plain) (layout : Layout) (depth : Nat) :
    ∃ c cs, json.print layout depth = c :: cs ∧ BeginsToken c ∧ c ≠ ']' := by
  cases json with
  | null => exact ⟨_, _, by rw [print], by decide⟩
  | bool value => cases value <;> exact ⟨_, _, by rw [print], by decide⟩
  | int n =>
      obtain ⟨c, cs, htext, hc⟩ := ofInt_eq_cons n
      refine ⟨c, cs, by rw [print, htext], ?_⟩
      rcases hc with rfl | hdigit
      · decide
      · refine ⟨⟨?_, ?_, ?_, ?_⟩, ?_⟩ <;> rintro rfl <;> revert hdigit <;> decide
  | str text => exact ⟨_, _, by rw [print, stringText], by decide⟩
  | arr items =>
      cases items with
      | nil => exact ⟨_, _, by rw [print], by decide⟩
      | cons item items => exact ⟨_, _, by rw [print], by decide⟩
  | obj members =>
      cases members with
      | nil => exact ⟨_, _, by rw [print], by decide⟩
      | cons entry members => exact ⟨_, _, by rw [print], by decide⟩
  | real literal => exact h.elim
  | unreadable => exact h.elim

/-- Blanks in front of a value do not matter. -/
theorem value?_blanks {blanks : List Char} (h : Blank blanks) (fuel : Nat) (cs : List Char) :
    value? fuel (blanks ++ cs) = value? fuel cs := by
  cases fuel with
  | zero => rfl
  | succ fuel => rw [value?, value?, skipBlanks_append h]

theorem value?_number {c : Char} (hc : c = '-' ∨ 48 ≤ c.toNat ∧ c.toNat ≤ 57) (fuel : Nat)
    (cs : List Char) : value? (fuel + 1) (c :: cs) = number? (c :: cs) := by
  have htoken : BeginsToken c := by
    rcases hc with rfl | hdigit
    · decide
    · refine ⟨?_, ?_, ?_, ?_⟩ <;> rintro rfl <;> revert hdigit <;> decide
  rw [value?, skipBlanks_token htoken]
  split
  case h_7 => rfl
  all_goals
    next heq =>
      obtain ⟨rfl, -⟩ := List.cons.inj heq
      exact absurd hc (by decide)

theorem value?_string (text : String) (fuel : Nat) (rest : List Char) :
    value? (fuel + 1) (stringText text ++ rest) = some (.str text, rest) := by
  rw [stringText_append, value?, skipBlanks_token (by decide)]
  simp only [string?_text, bind, Option.bind_some, Option.elim_some]

/-- The names of the members that were printed all spell a text. -/
theorem ofMembers_named (members : List (String × Json)) :
    ofMembers (members.map fun entry => (some entry.1, entry.2)) = .obj members := by
  have hnames : (members.map fun entry => (some entry.1, entry.2)).mapM
      (fun entry : Option String × Json => entry.1.map fun name => (name, entry.2))
        = some members := by
    induction members with
    | nil => rfl
    | cons entry members ih =>
        rw [List.map_cons, List.mapM_cons, ih]
        rfl
  rw [ofMembers, hnames]

theorem items?_blanks {blanks : List Char} (h : Blank blanks) (fuel : Nat) (cs : List Char) :
    items? fuel (blanks ++ cs) = items? fuel cs := by
  cases fuel with
  | zero => rfl
  | succ fuel => rw [items?, items?, value?_blanks h]

theorem members?_blanks {blanks : List Char} (h : Blank blanks) (fuel : Nat) (cs : List Char) :
    members? fuel (blanks ++ cs) = members? fuel cs := by
  cases fuel with
  | zero => rfl
  | succ fuel => rw [members?, members?, skipBlanks_append h]

/-- An array that does not close at once is read item by item. -/
theorem value?_items {blanks : List Char} (hblank : Blank blanks) {c : Char} (hc : BeginsToken c)
    (hopen : c ≠ ']') (fuel : Nat) (cs : List Char) :
    value? (fuel + 1) ('[' :: (blanks ++ c :: cs))
      = (items? fuel (c :: cs)).map fun (items, rest) => (.arr items, rest) := by
  rw [value?, skipBlanks_token (by decide)]
  simp only [skipBlanks_append hblank, skipBlanks_token hc]
  split
  · next heq => exact absurd (List.cons.inj heq).1 hopen
  · cases items? fuel (c :: cs) <;> rfl

/-- An object that does not close at once is read member by member. -/
theorem value?_members {blanks : List Char} (hblank : Blank blanks) (fuel : Nat) (cs : List Char) :
    value? (fuel + 1) ('\x7b' :: (blanks ++ '"' :: cs))
      = (members? fuel ('"' :: cs)).map fun (members, rest) => (ofMembers members, rest) := by
  rw [value?, skipBlanks_token (by decide)]
  simp only [skipBlanks_append hblank, skipBlanks_token (show BeginsToken '"' by decide)]
  split
  · next heq => exact absurd (List.cons.inj heq).1 (by decide)
  · cases members? fuel ('"' :: cs) <;> rfl

/-- The last item stands in front of a bracket. -/
theorem items?_last {fuel : Nat} {cs rest : List Char} {item : Json} {blanks : List Char}
    (hblank : Blank blanks) (hitem : value? fuel cs = some (item, blanks ++ ']' :: rest)) :
    items? (fuel + 1) cs = some ([item], rest) := by
  simp only [items?, hitem, bind, Option.bind_some, skipBlanks_append hblank,
    skipBlanks_token (show BeginsToken ']' by decide)]

/-- Every other item stands in front of a comma. -/
theorem items?_cons {fuel : Nat} {cs rest : List Char} {item : Json}
    (hitem : value? fuel cs = some (item, ',' :: rest)) :
    items? (fuel + 1) cs = (items? fuel rest).map fun (items, rest) => (item :: items, rest) := by
  simp only [items?, hitem, bind, Option.bind_some,
    skipBlanks_token (show BeginsToken ',' by decide)]
  cases items? fuel rest <;> rfl

/-- The last member stands in front of a brace. -/
theorem members?_last {fuel : Nat} {name : String} {cs rest : List Char} {value : Json}
    {blanks : List Char} (hblank : Blank blanks)
    (hvalue : value? fuel cs = some (value, blanks ++ '\x7d' :: rest)) :
    members? (fuel + 1) (stringText name ++ ':' :: cs) = some ([(some name, value)], rest) := by
  simp only [members?, stringText_append, skipBlanks_token (show BeginsToken '"' by decide),
    string?_text, bind, Option.bind_some, skipBlanks_token (show BeginsToken ':' by decide), hvalue,
    skipBlanks_append hblank, skipBlanks_token (show BeginsToken '\x7d' by decide)]

/-- Every other member stands in front of a comma. -/
theorem members?_cons {fuel : Nat} {name : String} {cs rest : List Char} {value : Json}
    (hvalue : value? fuel cs = some (value, ',' :: rest)) :
    members? (fuel + 1) (stringText name ++ ':' :: cs)
      = (members? fuel rest).map fun (members, rest) => ((some name, value) :: members, rest) := by
  simp only [members?, stringText_append, skipBlanks_token (show BeginsToken '"' by decide),
    string?_text, bind, Option.bind_some, skipBlanks_token (show BeginsToken ':' by decide), hvalue,
    skipBlanks_token (show BeginsToken ',' by decide)]
  cases members? fuel rest <;> rfl

theorem apart_close {blanks : List Char} (hblank : Blank blanks) {c : Char}
    (hc : c = ']' ∨ c = '\x7d') (rest : List Char) : Apart (blanks ++ c :: rest) :=
  (apart_cons (by rcases hc with rfl | rfl <;> decide) rest).blanks hblank

theorem apart_comma (rest : List Char) : Apart (',' :: rest) :=
  apart_cons (by decide) rest

mutual

/-- A printed value is read where it ends. -/
theorem value?_print {layout : Layout} (hlayout : layout.IsBlank) :
    ∀ (json : Json) (depth fuel : Nat) (rest : List Char), json.Plain →
      (json.print layout depth).length < fuel → Apart rest →
      value? fuel (json.print layout depth ++ rest) = some (json, rest)
  | _, _, 0, _, _, hfuel, _ => absurd hfuel (Nat.not_lt_zero _)
  | .null, _, _ + 1, _, _, _, _ => by rw [print]; rfl
  | .bool true, _, _ + 1, _, _, _, _ => by rw [print]; rfl
  | .bool false, _, _ + 1, _, _, _, _ => by rw [print]; rfl
  | .int n, _, _ + 1, _, hplain, _, hrest => by
      obtain ⟨c, cs, htext, hc⟩ := ofInt_eq_cons n
      rw [print, htext, List.cons_append, value?_number hc, ← List.cons_append, ← htext]
      exact number?_ofInt hplain hrest
  | .str text, _, fuel + 1, rest, _, _, _ => by
      rw [print]
      exact value?_string text fuel rest
  | .arr [], _, _ + 1, _, _, _, _ => by rw [print]; rfl
  | .arr (item :: items), depth, fuel + 1, rest, hplain, hfuel, _ => by
      have hall := plain_arr.mp hplain
      obtain ⟨c, cs, htext, hc, hopen⟩ := print_eq_cons (hall item List.mem_cons_self)
        layout (depth + 1)
      rw [print] at hfuel
      have hitems := items?_print hlayout (item :: items) (depth + 1) fuel rest
        (printItems.eq_2 ..) hall (hlayout.lineBreak depth) (by simp at hfuel ⊢; omega)
      simp only [List.append_assoc, items?_blanks (hlayout.lineBreak (depth + 1))] at hitems
      rw [print]
      simp only [List.append_assoc, List.cons_append, List.nil_append]
      rw [htext] at hitems ⊢
      rw [List.cons_append, value?_items (hlayout.lineBreak (depth + 1)) hc hopen,
        ← List.cons_append, hitems]
      rfl
  | .obj [], _, _ + 1, _, _, _, _ => by rw [print]; rfl
  | .obj ((name, value) :: members), depth, fuel + 1, rest, hplain, hfuel, _ => by
      rw [print] at hfuel
      have hmembers := members?_print hlayout ((name, value) :: members) (depth + 1) fuel rest
        (printMembers.eq_2 ..) (plain_obj.mp hplain) (hlayout.lineBreak depth)
        (by simp at hfuel ⊢; omega)
      simp only [List.append_assoc, List.cons_append,
        members?_blanks (hlayout.lineBreak (depth + 1))] at hmembers
      rw [print]
      simp only [List.append_assoc, List.cons_append, List.nil_append]
      rw [stringText_append] at hmembers ⊢
      rw [value?_members (hlayout.lineBreak (depth + 1)), hmembers]
      exact congrArg (fun members => some (members, rest)) (ofMembers_named _)
  | .real _, _, _ + 1, _, hplain, _, _ => hplain.elim
  | .unreadable, _, _ + 1, _, hplain, _, _ => hplain.elim

/-- Printed items are read behind the comma in front of them, up to the bracket behind them. -/
theorem items?_print {layout : Layout} (hlayout : layout.IsBlank) :
    ∀ (items : List Json) (depth fuel : Nat) (rest : List Char) {cs blanks : List Char},
      printItems layout depth items = ',' :: cs → (∀ item ∈ items, item.Plain) → Blank blanks →
      cs.length + 1 < fuel → items? fuel (cs ++ (blanks ++ ']' :: rest)) = some (items, rest)
  | _, _, 0, _, _, _, _, _, _, hfuel => absurd hfuel (Nat.not_lt_zero _)
  | [], _, _ + 1, _, _, _, htext, _, _, _ => by rw [printItems] at htext; cases htext
  | [item], depth, fuel + 1, rest, cs, blanks, htext, hall, hblank, hfuel => by
      simp only [printItems, List.cons.injEq, true_and, List.append_nil] at htext
      subst htext
      rw [List.length_append] at hfuel
      have hitem := value?_print hlayout item depth fuel _ (hall item List.mem_cons_self)
        (by omega) (apart_close hblank (.inl rfl) rest)
      rw [List.append_assoc, items?_blanks (hlayout.lineBreak depth)]
      exact items?_last hblank hitem
  | item :: next :: items, depth, fuel + 1, rest, cs, blanks, htext, hall, hblank, hfuel => by
      obtain ⟨cs', hcs'⟩ : ∃ cs', printItems layout depth (next :: items) = ',' :: cs' :=
        ⟨_, printItems.eq_2 ..⟩
      rw [printItems, hcs'] at htext
      obtain rfl := (List.cons.inj htext).2
      simp only [List.length_append, List.length_cons] at hfuel
      have hitem := value?_print hlayout item depth fuel _ (hall item List.mem_cons_self)
        (by omega) (apart_comma (cs' ++ (blanks ++ ']' :: rest)))
      have hitems := items?_print hlayout (next :: items) depth fuel rest hcs'
        (fun each heach => hall each (List.mem_cons_of_mem item heach)) hblank (by omega)
      simp only [List.append_assoc, List.cons_append]
      rw [items?_blanks (hlayout.lineBreak depth), items?_cons hitem, hitems]
      rfl

/-- Printed members are read behind the comma in front of them, up to the brace behind them. -/
theorem members?_print {layout : Layout} (hlayout : layout.IsBlank) :
    ∀ (members : List (String × Json)) (depth fuel : Nat) (rest : List Char)
      {cs blanks : List Char},
      printMembers layout depth members = ',' :: cs → (∀ entry ∈ members, entry.2.Plain) →
      Blank blanks → cs.length + 1 < fuel →
      members? fuel (cs ++ (blanks ++ '\x7d' :: rest))
        = some (members.map fun entry => (some entry.1, entry.2), rest)
  | _, _, 0, _, _, _, _, _, _, hfuel => absurd hfuel (Nat.not_lt_zero _)
  | [], _, _ + 1, _, _, _, htext, _, _, _ => by rw [printMembers] at htext; cases htext
  | [(name, value)], depth, fuel + 1, rest, cs, blanks, htext, hall, hblank, hfuel => by
      simp only [printMembers, List.cons.injEq, true_and, List.append_nil] at htext
      subst htext
      simp only [List.length_append, List.length_cons] at hfuel
      have hvalue := value?_print hlayout value depth fuel _ (hall (name, value) List.mem_cons_self)
        (by omega) (apart_close hblank (.inr rfl) rest)
      rw [← value?_blanks hlayout.afterColon] at hvalue
      simp only [List.append_assoc, List.cons_append]
      rw [members?_blanks (hlayout.lineBreak depth)]
      exact members?_last hblank hvalue
  | (name, value) :: next :: members, depth, fuel + 1, rest, cs, blanks, htext, hall, hblank,
      hfuel => by
      obtain ⟨cs', hcs'⟩ : ∃ cs', printMembers layout depth (next :: members) = ',' :: cs' :=
        ⟨_, printMembers.eq_2 ..⟩
      rw [printMembers, hcs'] at htext
      obtain rfl := (List.cons.inj htext).2
      simp only [List.length_append, List.length_cons] at hfuel
      have hvalue := value?_print hlayout value depth fuel _ (hall (name, value) List.mem_cons_self)
        (by omega)
        (apart_comma (cs' ++ (blanks ++ '\x7d' :: rest)))
      rw [← value?_blanks hlayout.afterColon] at hvalue
      have hmembers := members?_print hlayout (next :: members) depth fuel rest hcs'
        (fun each heach => hall each (List.mem_cons_of_mem _ heach)) hblank (by omega)
      simp only [List.append_assoc, List.cons_append]
      rw [members?_blanks (hlayout.lineBreak depth), members?_cons hvalue, hmembers]
      rfl

end

/-- Reading a printed value gives it back, whatever the layout. -/
theorem parse?_print {layout : Layout} (hlayout : layout.IsBlank) {json : Json} (h : json.Plain) :
    parse? (String.ofList (json.print layout 0)) = some json := by
  have hvalue := value?_print hlayout json 0 _ [] h (Nat.lt_succ_self _) (fun _ hc => by cases hc)
  rw [List.append_nil] at hvalue
  simp only [parse?, String.toList_ofList, hvalue, bind, Option.bind_some]
  rfl

theorem parse?_compact {json : Json} (h : json.Plain) : parse? json.compact = some json :=
  parse?_print Layout.isBlank_compact h

theorem parse?_indented {json : Json} (h : json.Plain) : parse? json.indented = some json :=
  parse?_print Layout.isBlank_indented h

end Rewind.Json
