import Rewind.Json.Record
import Rewind.Proofs.Json.Text

/-!
Written forms of values.

A form is an encoder and a decoder. It is faithful for the proper values of a type, those that the
words of its numbers have room for, when decoding undoes encoding for each of them and never gives
another one. Forms of lists and of values that may be absent are faithful if those of their elements
are, and a record is read field by field: `Fields.get?` skips the members with other names, and
those that were left out.

A faithful form stays so in a text: what is printed is read back, and a text that was read is
brought to a normal form by writing its value again.

Main statements: `Json.Faithful.ofList`, `Json.Faithful.ofOption` and `Json.Faithful.roundTrips`.
-/

namespace Rewind.Json

/-! ### Results -/

theorem bind_eq_ok {ε α β : Type} {result : Except ε α} {next : α → Except ε β} {value : β} :
    (result >>= next) = .ok value ↔ ∃ first, result = .ok first ∧ next first = .ok value := by
  cases result with
  | error fault => simp [bind, Except.bind]
  | ok first => simp [bind, Except.bind]

theorem map_eq_ok {ε α β : Type} {result : Except ε α} {f : α → β} {value : β} :
    result.map f = .ok value ↔ ∃ first, result = .ok first ∧ f first = value := by
  cases result with
  | error fault => simp [Except.map]
  | ok first => simp [Except.map]

theorem mapError_eq_ok {ε ε' α : Type} {result : Except ε α} {f : ε → ε'} {value : α} :
    result.mapError f = .ok value ↔ result = .ok value := by
  cases result with
  | error fault => exact ⟨nofun, nofun⟩
  | ok first => exact ⟨fun h => by cases h; rfl, fun h => by cases h; rfl⟩

/-! ### Forms -/

/-- Decoding undoes encoding for the proper values, and gives no others. -/
structure Faithful {α : Type} (encode : α → Json) (decode : Decoder α) (IsProper : α → Prop) :
    Prop where
  decode_encode : ∀ value, IsProper value → decode (encode value) = .ok value
  plain : ∀ value, IsProper value → (encode value).Plain
  proper : ∀ json value, decode json = .ok value → IsProper value

/-- Reads a text that spells one value. -/
def read {α : Type} (decode : Decoder α) (text : String) : Except Fault α :=
  match parse? text with
  | some json => decode json
  | none => .error .malformed

/-- Writes the value that a text spells anew. -/
def normalForm {α : Type} (encode : α → Json) (decode : Decoder α) (text : String) :
    Except Fault String :=
  (read decode text).map fun value => (encode value).compact

/-- Texts of a form are read as what they were written for. -/
structure RoundTrips {α : Type} (encode : α → Json) (decode : Decoder α) (IsProper : α → Prop) :
    Prop where
  /-- A proper value is read from the text that it is written as, on one line or on several. -/
  read_text : ∀ value, IsProper value →
    read decode (encode value).compact = .ok value ∧
      read decode (encode value).indented = .ok value
  /-- No other values are ever read. -/
  proper_of_read : ∀ text value, read decode text = .ok value → IsProper value
  /-- An accepted text has a normal form: it says the same, and it is its own normal form. -/
  normal : ∀ text value, read decode text = .ok value →
    ∃ form, normalForm encode decode text = .ok form ∧ read decode form = .ok value ∧
      normalForm encode decode form = .ok form

variable {α β : Type} {encode : α → Json} {decode : Decoder α} {IsProper : α → Prop}

theorem read_ok {text : String} {json : Json} (h : parse? text = some json) :
    read decode text = decode json := by
  rw [read, h]

/-- Reading a text gives what decoding some value gives. -/
theorem decode_of_read {text : String} {value : α} (h : read decode text = .ok value) :
    ∃ json, decode json = .ok value := by
  unfold read at h
  split at h
  · next json _ => exact ⟨json, h⟩
  · cases h

/-- A faithful form is one of texts as well. -/
theorem Faithful.roundTrips (h : Faithful encode decode IsProper) :
    RoundTrips encode decode IsProper := by
  have hcompact : ∀ value, IsProper value → read decode (encode value).compact = .ok value :=
    fun value hvalue =>
      (read_ok (parse?_compact (h.plain value hvalue))).trans (h.decode_encode value hvalue)
  have hproper : ∀ text value, read decode text = .ok value → IsProper value := by
    intro text value hread
    obtain ⟨json, hjson⟩ := decode_of_read hread
    exact h.proper json value hjson
  refine ⟨fun value hvalue => ⟨hcompact value hvalue, ?_⟩, hproper, fun text value hread => ?_⟩
  · exact (read_ok (parse?_indented (h.plain value hvalue))).trans (h.decode_encode value hvalue)
  · have hform := hcompact value (hproper text value hread)
    refine ⟨(encode value).compact, ?_, hform, ?_⟩
    · rw [normalForm, hread]
      rfl
    · rw [normalForm, hform]
      rfl

/-! ### Simple values -/

theorem faithful_string : Faithful .str asString fun _ => True where
  decode_encode _ _ := rfl
  plain _ _ := trivial
  proper _ _ _ := trivial

/-- A number that a signed word of 64 bits has room for. -/
def IsInt64 (n : Int) : Prop :=
  Int64.minValue.toInt ≤ n ∧ n ≤ Int64.maxValue.toInt

instance (n : Int) : Decidable (IsInt64 n) :=
  inferInstanceAs (Decidable (_ ∧ _))

theorem faithful_int64 : Faithful .int asInt64 IsInt64 where
  decode_encode n h := if_pos h
  plain n h := by
    obtain ⟨hlow, hhigh⟩ := h
    rw [show Int64.minValue.toInt = -9223372036854775808 from rfl] at hlow
    rw [show Int64.maxValue.toInt = 9223372036854775807 from rfl] at hhigh
    show n.natAbs < 18446744073709551616
    omega
  proper json n h := by
    unfold asInt64 asBounded at h
    split at h
    · split at h
      · next hbound =>
          obtain rfl := Except.ok.inj h
          exact hbound
      · cases h
    · cases h

theorem faithful_nat {limit : Nat} (hlimit : limit ≤ UInt64.size) :
    Faithful .nat (asNat limit) (· < limit) where
  decode_encode n h := by
    have hbound : (0 : Int) ≤ n ∧ (n : Int) ≤ limit - 1 := by omega
    rw [nat, asNat, asBounded, if_pos hbound]
    rfl
  plain n h := Nat.lt_of_lt_of_le h hlimit
  proper json n h := by
    unfold asNat asBounded at h
    split at h
    · split at h
      · next hbound =>
          obtain rfl := Except.ok.inj h
          omega
      · cases h
    · cases h

theorem faithful_byte : Faithful (fun b : UInt8 => .nat b.toNat)
    (fun json => (json.asNat UInt8.size).map Nat.toUInt8) fun _ => True where
  decode_encode b _ := by
    rw [(faithful_nat (show UInt8.size ≤ UInt64.size by decide)).decode_encode _ b.toNat_lt_size]
    exact congrArg Except.ok UInt8.ofNat_toNat
  plain b _ := (faithful_nat (show UInt8.size ≤ UInt64.size by decide)).plain _ b.toNat_lt_size
  proper _ _ _ := trivial

/-! ### Lists and absent values -/

theorem Faithful.mapM_map (h : Faithful encode decode IsProper) {values : List α}
    (hvalues : ∀ value ∈ values, IsProper value) :
    (values.map encode).mapM decode = .ok values := by
  induction values with
  | nil => rfl
  | cons value values ih =>
      rw [List.map_cons, List.mapM_cons, h.decode_encode value (hvalues value List.mem_cons_self),
        ih fun each heach => hvalues each (List.mem_cons_of_mem value heach)]
      rfl

theorem Faithful.proper_of_mapM (h : Faithful encode decode IsProper) {items : List Json}
    {values : List α} (hitems : items.mapM decode = .ok values) :
    ∀ value ∈ values, IsProper value := by
  induction items generalizing values with
  | nil =>
      obtain rfl := Except.ok.inj hitems
      exact fun _ hvalue => absurd hvalue List.not_mem_nil
  | cons item items ih =>
      simp only [List.mapM_cons, bind_eq_ok] at hitems
      obtain ⟨first, hfirst, rest, hrest, heq⟩ := hitems
      obtain rfl := Except.ok.inj heq
      intro value hvalue
      rcases List.mem_cons.mp hvalue with rfl | hvalue
      · exact h.proper item value hfirst
      · exact ih hrest value hvalue

theorem Faithful.ofList (h : Faithful encode decode IsProper) :
    Faithful (.ofList encode) (asList decode) fun values => ∀ value ∈ values, IsProper value where
  decode_encode _ hvalues := h.mapM_map hvalues
  plain values hvalues := by
    refine plain_arr.mpr fun item hitem => ?_
    obtain ⟨value, hvalue, rfl⟩ := List.mem_map.mp hitem
    exact h.plain value (hvalues value hvalue)
  proper json values hvalues := by
    cases json with
    | arr items => exact h.proper_of_mapM hvalues
    | _ => cases hvalues

theorem asOption_of_ne_null {json : Json} (hnull : json ≠ .null) :
    asOption decode json = (decode json).map some := by
  cases json with
  | null => exact absurd rfl hnull
  | _ => rfl

/-- Null stands for no value, so it may not stand for one. -/
theorem Faithful.ofOption (h : Faithful encode decode IsProper)
    (hnull : ∀ value, encode value ≠ .null) :
    Faithful (.ofOption encode) (asOption decode)
      fun value? => ∀ value ∈ value?, IsProper value where
  decode_encode
    | none, _ => rfl
    | some value, hvalue => by
        rw [Json.ofOption, asOption_of_ne_null (hnull value),
          h.decode_encode value (hvalue value rfl)]
        rfl
  plain
    | none, _ => trivial
    | some value, hvalue => h.plain value (hvalue value rfl)
  proper json value? hvalue value hmem := by
    by_cases hjson : json = .null
    · subst hjson
      obtain rfl := Except.ok.inj hvalue
      cases hmem
    · rw [asOption_of_ne_null hjson, map_eq_ok] at hvalue
      obtain ⟨first, hfirst, rfl⟩ := hvalue
      obtain rfl := Option.some.inj hmem
      exact h.proper json first hfirst

/-! ### Records -/

/-- A record whose members all have names of its own, each of them once. -/
theorem fields_obj {names : List String} {members : List (String × Json)}
    (hknown : ∀ entry ∈ members, entry.1 ∈ names) (hdistinct : (members.map Prod.fst).Nodup) :
    fields names (.obj members) = .ok ⟨members, false⟩ := by
  have hall : members.filter (fun entry => names.contains entry.1) = members :=
    List.filter_eq_self.mpr fun entry hentry => by simp [hknown entry hentry]
  have hnone : ∀ found : List String, found.Nodup → firstRepeated? found = none := by
    intro found hfound
    induction hfound with
    | nil => rfl
    | cons hnew _ ih =>
        rw [firstRepeated?, if_neg (by simpa using fun hmem => hnew _ hmem rfl)]
        exact ih
  simp only [fields, hall, hnone _ hdistinct]

/-- The same for a record that has left out some of its fields. -/
theorem fields_sublist {names : List String} {members : List (String × Json)}
    (hmembers : (members.map Prod.fst).Sublist names) (hnames : names.Nodup) :
    fields names (.obj members) = .ok ⟨members, false⟩ :=
  fields_obj (fun _ hentry => hmembers.subset (List.mem_map_of_mem hentry))
    (hnames.sublist hmembers)

theorem optionalMember_sublist (name : String) (value? : Option α) :
    ((optionalMember name encode value?).map Prod.fst).Sublist [name] := by
  cases value? with
  | none => exact List.nil_sublist _
  | some value => exact List.Sublist.refl _

theorem Faithful.plain_optionalMember (h : Faithful encode decode IsProper) (name : String)
    {value? : Option α} (hproper : ∀ value ∈ value?, IsProper value) :
    ∀ entry ∈ optionalMember name encode value?, entry.2.Plain := by
  cases value? with
  | none => exact fun _ hentry => absurd hentry List.not_mem_nil
  | some value =>
      intro entry hentry
      obtain rfl := List.mem_singleton.mp hentry
      exact h.plain value (hproper value rfl)

namespace Fields

@[simp] theorem get?_nil (name : String) (positional : Bool) : get? ⟨[], positional⟩ name = none :=
  rfl

@[simp] theorem get?_cons_self (name : String) (json : Json) (members : List (String × Json))
    (positional : Bool) : get? ⟨(name, json) :: members, positional⟩ name = some json := by
  simp [get?]

@[simp] theorem get?_cons_of_ne {name other : String} (h : other ≠ name) (json : Json)
    (members : List (String × Json)) (positional : Bool) :
    get? ⟨(other, json) :: members, positional⟩ name = get? ⟨members, positional⟩ name := by
  simp [get?, h]

@[simp] theorem get?_optionalMember_of_ne {name other : String} (h : other ≠ name)
    (value? : Option α) (members : List (String × Json)) (positional : Bool) :
    get? ⟨optionalMember other encode value? ++ members, positional⟩ name
      = get? ⟨members, positional⟩ name := by
  cases value? with
  | none => rfl
  | some value => exact get?_cons_of_ne h _ members positional

/-- A member that may have been left out. -/
@[simp] theorem get?_optionalMember_self (name : String) (value? : Option α)
    (members : List (String × Json)) (positional : Bool)
    (hnone : get? ⟨members, positional⟩ name = none) :
    get? ⟨optionalMember name encode value? ++ members, positional⟩ name = value?.map encode := by
  cases value? with
  | none => exact hnone
  | some value => exact get?_cons_self name _ members positional

@[simp] theorem get?_optionalMember_last_of_ne {name other : String} (h : other ≠ name)
    (value? : Option α) (positional : Bool) :
    get? ⟨optionalMember other encode value?, positional⟩ name = none := by
  rw [← List.append_nil (optionalMember other encode value?), get?_optionalMember_of_ne h, get?_nil]

@[simp] theorem get?_optionalMember_last (name : String) (value? : Option α) (positional : Bool) :
    get? ⟨optionalMember name encode value?, positional⟩ name = value?.map encode := by
  rw [← List.append_nil (optionalMember name encode value?)]
  exact get?_optionalMember_self name value? [] positional rfl

theorem required_ok (hform : Faithful encode decode IsProper) {fields : Fields} {name : String}
    {value : α} (hproper : IsProper value) (h : fields.get? name = some (encode value)) :
    fields.required name decode = .ok value := by
  rw [required, h]
  exact hform.decode_encode value hproper

theorem optional_ok (hform : Faithful encode decode IsProper)
    (hnull : ∀ value, encode value ≠ .null) {fields : Fields} {name : String} {value? : Option α}
    (hproper : ∀ value ∈ value?, IsProper value)
    (h : fields.get? name = some (.ofOption encode value?)) :
    fields.optional name decode = .ok value? := by
  rw [optional, h]
  exact (hform.ofOption hnull).decode_encode value? hproper

/-- A field that is left out when there is no value. -/
theorem defaulted_ok (hform : Faithful encode decode IsProper)
    (hnull : ∀ value, encode value ≠ .null) {fields : Fields} {name : String} {value? : Option α}
    (hproper : ∀ value ∈ value?, IsProper value) (h : fields.get? name = value?.map encode) :
    fields.defaulted name none (asOption decode) = .ok value? := by
  rw [defaulted, h]
  cases value? with
  | none => rfl
  | some value => exact (hform.ofOption hnull).decode_encode (some value) hproper

theorem proper_of_required (hform : Faithful encode decode IsProper) {fields : Fields}
    {name : String} {value : α} (h : fields.required name decode = .ok value) : IsProper value := by
  unfold required at h
  split at h
  · exact hform.proper _ value h
  · cases h

theorem proper_of_defaulted (hform : Faithful encode decode IsProper) {fields : Fields}
    {name : String} {default value : α} (hdefault : IsProper default)
    (h : fields.defaulted name default decode = .ok value) : IsProper value := by
  unfold defaulted at h
  split at h
  · exact hform.proper _ value h
  · obtain rfl := Except.ok.inj h
    exact hdefault

end Fields

end Rewind.Json
