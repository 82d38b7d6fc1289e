import Rewind.History.Cursor
import Rewind.Proofs.Decimal
import Rewind.Service.Paging
import Rewind.Target.Source

/-!
Reading a list page by page.

A token that a page bears is read back as the offset that it was made from, so a cursor that asks for
the next page gets the items behind those that it has. How far a cursor has come is told by the number
of pages that it has received and the number of items that it has given out.

Main statements: tokens survive being written and read (`Paging.offsetOf?_tokenOf`), a page moves a
cursor on by one page (`Cursor.At.receive`), and a cursor is at the end when it has received as many
pages as the items fill, but at least one (`Cursor.At.fetched_eq`).
-/

namespace Rewind

namespace Paging

/-- The bytes of a token spell the digits that it was made of. -/
theorem map_tokenOf (offset : Nat) :
    (tokenOf offset).map (fun b => Char.ofNat b.toNat) = Decimal.ofNat offset := by
  rw [tokenOf, List.map_map]
  refine (List.map_congr_left fun c hc => ?_).trans (List.map_id _)
  have hdigit := Decimal.toNat_of_mem_ofNat hc
  have hbyte : c.toNat.toUInt8.toNat = c.toNat := by
    rw [Nat.toUInt8_eq, UInt8.toNat_ofNat']
    omega
  simp [hbyte]

theorem tokenOf_ne_nil (offset : Nat) : tokenOf offset ≠ [] := by
  simp [tokenOf, Decimal.ofNat_ne_nil]

/-- The digits of a number are a token if the number fits into a machine word. -/
theorem offsetOf?_tokenOf_eq (offset : Nat) :
    offsetOf? (some (tokenOf offset)) =
      if offset < UInt64.size then .ok offset else .error offsetOf?.refusal := by
  rw [offsetOf?]
  · rw [map_tokenOf, Decimal.plusNat?_ofNat]
  · exact tokenOf_ne_nil offset

/-- A token stands for the offset that it was made from. -/
theorem offsetOf?_tokenOf {offset : Nat} (h : offset < UInt64.size) :
    offsetOf? (some (tokenOf offset)) = .ok offset := by
  rw [offsetOf?_tokenOf_eq, if_pos h]

theorem hasMore_tokenOf (offset : Nat) : hasMore (some (tokenOf offset)) = true := by
  simpa [hasMore] using tokenOf_ne_nil offset

variable {α : Type} {items : List α} {offset limit : Nat}

theorem items_page (h : offset ≤ items.length) :
    (page items offset limit).items = (items.drop offset).take limit := by
  simp [page, Nat.min_eq_left h]

theorem token_page (h : offset ≤ items.length) :
    (page items offset limit).token =
      if offset + limit < items.length then some (tokenOf (offset + limit)) else none := by
  simp only [page, Nat.min_eq_left h]
  by_cases hmore : offset + limit < items.length
  · simp [hmore, Nat.min_eq_left (Nat.le_of_lt hmore)]
  · simp [hmore, Nat.min_eq_right (Nat.le_of_not_lt hmore)]

theorem limit_pos (cap requested : Nat) : 0 < Paging.limit cap requested :=
  Nat.le_max_left 1 _

/-- A page that is not the last one has an entry. -/
theorem items_page_ne_nil (hlimit : 0 < limit) (hmore : (page items offset limit).token ≠ none) :
    (page items offset limit).items ≠ [] := by
  by_cases hstart : offset < items.length
  · rw [items_page (Nat.le_of_lt hstart)]
    simp [List.drop_eq_nil_iff, Nat.not_le.mpr hstart, Nat.ne_of_gt hlimit]
  · have hend : min offset items.length = items.length := Nat.min_eq_right (Nat.le_of_not_lt hstart)
    simp [page, hend] at hmore

end Paging

namespace Cursor

variable {α : Type} {items : List α} {limit fetched taken : Nat} {cursor : Cursor α}

theorem take?_eq_some {item : α} {rest : Cursor α} (h : cursor.take? = some (item, rest)) :
    cursor.buffered = item :: rest.buffered ∧ rest.token = cursor.token ∧
      rest.exhausted = cursor.exhausted := by
  rw [take?] at h
  split at h
  · next hbuffered =>
      obtain ⟨rfl, rfl⟩ := Prod.mk.inj (Option.some.inj h)
      exact ⟨hbuffered, rfl, rfl⟩
  · exact absurd h (by simp)

theorem take?_eq_none : cursor.take? = none ↔ cursor.buffered = [] := by
  rw [take?]
  split <;> simp_all

/-- A cursor has received a number of pages of a list, all of the largest size but the last one, and
has given out a number of the items. -/
structure At (items : List α) (limit fetched taken : Nat) (cursor : Cursor α) : Prop where
  buffered : cursor.buffered = (items.take (fetched * limit)).drop taken
  taken_le : taken ≤ min (fetched * limit) items.length
  token : cursor.exhausted = false → Paging.offsetOf? cursor.token = .ok (fetched * limit)
  exhausted : cursor.exhausted = true ↔ 0 < fetched ∧ items.length ≤ fetched * limit
  /-- No page was asked for behind the last one. -/
  frugal : fetched ≤ 1 ∨ (fetched - 1) * limit < items.length

namespace At

theorem start (items : List α) (limit : Nat) : At items limit 0 0 (.start : Cursor α) := by
  constructor <;> simp [Cursor.start, Paging.offsetOf?]

theorem open_iff (h : At items limit fetched taken cursor) :
    cursor.exhausted = false ↔ fetched = 0 ∨ fetched * limit < items.length := by
  rw [← Bool.not_eq_true, h.exhausted]
  omega

/-- The item that is there is the next one of the list. -/
theorem take?_some {item : α} {rest : Cursor α} (h : At items limit fetched taken cursor)
    (htake : cursor.take? = some (item, rest)) :
    items[taken]? = some item ∧ At items limit fetched (taken + 1) rest := by
  obtain ⟨hbuffered, htoken, hexhausted⟩ := take?_eq_some htake
  rw [h.buffered] at hbuffered
  have hlength : taken < (items.take (fetched * limit)).length := by
    have hcount := congrArg List.length hbuffered
    simp only [List.length_drop, List.length_cons] at hcount
    omega
  rw [List.drop_eq_getElem_cons hlength, List.cons.injEq, List.getElem_take] at hbuffered
  obtain ⟨hitem, hrest⟩ := hbuffered
  rw [List.length_take] at hlength
  refine ⟨List.getElem?_eq_some_iff.mpr ⟨by omega, hitem⟩, hrest.symm, hlength, ?_, ?_, h.frugal⟩
  · rw [hexhausted, htoken]
    exact h.token
  · rw [hexhausted]
    exact h.exhausted

/-- When nothing is there, all items of the received pages were given out. -/
theorem take?_none (h : At items limit fetched taken cursor) (htake : cursor.take? = none) :
    taken = min (fetched * limit) items.length := by
  have hempty := (take?_eq_none.mp htake).symm.trans h.buffered
  have hlength := List.drop_eq_nil_iff.mp hempty.symm
  rw [List.length_take] at hlength
  exact Nat.le_antisymm h.taken_le hlength

variable (hlimit : 0 < limit) (hshort : items.length < UInt64.size)

include hshort in
/-- The page that a cursor asks for brings it on by one page. -/
theorem receive (h : At items limit fetched taken cursor) (hopen : cursor.exhausted = false) :
    At items limit (fetched + 1) taken
      (cursor.receive (Paging.page items (fetched * limit) limit)) := by
  have hoffset : fetched * limit ≤ items.length := by
    rcases h.open_iff.mp hopen with rfl | hless
    · simp
    · omega
  have hnext : (fetched + 1) * limit = fetched * limit + limit := Nat.succ_mul fetched limit
  have hmore : hasMore (Paging.page items (fetched * limit) limit).token =
      decide ((fetched + 1) * limit < items.length) := by
    rw [Paging.token_page hoffset, hnext]
    split
    · next hless => simp [Paging.hasMore_tokenOf, hless]
    · next hless => simp [hasMore, hless]
  constructor
  · have hfront : taken ≤ (items.take (fetched * limit)).length := by
      rw [List.length_take]
      exact h.taken_le
    simp only [Cursor.receive, h.buffered, Paging.items_page hoffset]
    rw [hnext, List.take_add, List.drop_append_of_le_length hfront]
  · have hbefore := h.taken_le
    omega
  · intro hstill
    simp only [Cursor.receive, hmore, Bool.not_eq_false', decide_eq_true_eq] at hstill ⊢
    rw [if_pos hstill, Paging.token_page hoffset, ← hnext, if_pos hstill,
      Paging.offsetOf?_tokenOf (by omega)]
  · simp only [Cursor.receive, hmore, Bool.not_eq_true', decide_eq_false_iff_not]
    omega
  · rw [Nat.add_sub_cancel]
    rcases h.open_iff.mp hopen with rfl | hless
    · simp
    · exact .inr hless

include hlimit hshort in
/-- Behind a page that was asked for when nothing was there, there is an item or the list is over. -/
theorem receive_settled (h : At items limit fetched taken cursor)
    (hopen : cursor.exhausted = false) (htake : cursor.take? = none) :
    ((cursor.receive (Paging.page items (fetched * limit) limit)).exhausted ||
      !(cursor.receive (Paging.page items (fetched * limit) limit)).buffered.isEmpty) = true := by
  have hafter := h.receive hshort hopen
  rw [Bool.or_eq_true]
  by_cases hover : (cursor.receive (Paging.page items (fetched * limit) limit)).exhausted
  · exact .inl hover
  · right
    rw [Bool.not_eq_true] at hover
    have hmore := hafter.open_iff.mp hover
    have htaken := h.take?_none htake
    have hnext : (fetched + 1) * limit = fetched * limit + limit := Nat.succ_mul fetched limit
    rw [Bool.not_eq_true', List.isEmpty_eq_false_iff, hafter.buffered, ne_eq,
      List.drop_eq_nil_iff, List.length_take]
    omega

include hlimit in
/-- While there is another page, no more pages than items were received. -/
theorem fetched_le (h : At items limit fetched taken cursor) (hopen : cursor.exhausted = false) :
    fetched ≤ items.length := by
  rcases h.open_iff.mp hopen with rfl | hless
  · exact Nat.zero_le _
  · exact Nat.le_trans (Nat.le_mul_of_pos_right fetched hlimit) (Nat.le_of_lt hless)

include hlimit in
/-- At the end of the list, a cursor has received the pages that the items fill, but at least one. -/
theorem fetched_eq (h : At items limit fetched taken cursor) (hover : cursor.exhausted = true) :
    fetched = max 1 ((items.length + limit - 1) / limit) := by
  obtain ⟨hsome, hall⟩ := h.exhausted.mp hover
  have hupper : (items.length + limit - 1) / limit ≤ fetched := by
    apply Nat.le_of_lt_succ
    rw [Nat.div_lt_iff_lt_mul hlimit, Nat.succ_mul]
    omega
  rcases h.frugal with hone | hfilled
  · omega
  · have hlower : fetched ≤ (items.length + limit - 1) / limit := by
      rw [Nat.le_div_iff_mul_le hlimit]
      obtain ⟨before, rfl⟩ := Nat.exists_eq_add_of_lt hsome
      simp only [Nat.zero_add, Nat.add_sub_cancel, Nat.succ_mul] at hfilled ⊢
      omega
    omega

end At

end Cursor

/-- A source asks for a page of its query when it has given out all answers at hand. -/
theorem Source.exists_query {source behind : Source} {request : ScanRequest}
    (hpoll : source.poll = (.ask request, behind)) :
    ∃ targets, source.feed = .query targets ∧ targets.pages.exhausted = false ∧
      targets.pages.buffered = [] ∧ request = targets.request ∧ behind = source := by
  unfold poll at hpoll
  split at hpoll
  · simp at hpoll
  · next targets hfeed =>
      split at hpoll
      · simp at hpoll
      · next htake =>
          split at hpoll
          · simp at hpoll
          · next hopen =>
              obtain ⟨hrequest, rfl⟩ := Prod.mk.inj hpoll
              exact ⟨targets, hfeed, by simpa using hopen, Cursor.take?_eq_none.mp htake,
                (Poll.ask.inj hrequest).symm, rfl⟩

end Rewind
