import Mathlib.Data.UInt
import Rewind.Proofs.Atomic
import Rewind.Proofs.Reading

/-!
Following the tokens of pages.

A client asks for one page after the other, for each with a size of its own, and goes on with the token
of each page until a page bears none. The pages that it gets are the list cut into pieces: a piece holds
an entry unless it is the last one, and begins where the one before it has ended.

Offsets, sizes and the cap are machine words. A page is also worked out in such words alone, where a sum
that does not fit into a word is cut off at the largest one; that page is no other.

Main statements: the pages of one call (`GivenBy.ask`), those of all calls (`GivenBy.receives`), the page
in machine words (`Paging.pageInWords?_eq`), and all together (`tokens_partition`).
-/

namespace Rewind

namespace Paging

variable {α : Type} {items : List α}

/-! ### Pages in machine words -/

/-- The sum of two machine words, or the largest word if the sum does not fit into one. -/
def saturatingSum (a b : UInt64) : UInt64 :=
  if a.toNat + b.toNat < UInt64.size then a + b else .ofNat (UInt64.size - 1)

theorem toNat_saturatingSum (a b : UInt64) :
    (saturatingSum a b).toNat = min (a.toNat + b.toNat) (UInt64.size - 1) := by
  rw [saturatingSum]
  split
  · next hfits =>
      rw [UInt64.toNat_add, Nat.mod_eq_of_lt hfits]
      omega
  · next hlarge =>
      rw [UInt64.toNat_ofNat_of_lt' (by decide)]
      omega

/-- Where a page ends. -/
def endInWords (length start limit : UInt64) : UInt64 :=
  min (saturatingSum start limit) length

/-- What is cut off a sum lies behind the end of every list. -/
theorem toNat_endInWords (length start limit : UInt64) :
    (endInWords length start limit).toNat = min (start.toNat + limit.toNat) length.toNat := by
  have hlength := length.toNat_lt_size
  rw [endInWords, UInt64.toNat_min, toNat_saturatingSum]
  omega

/-- How many entries a page may hold. A cap of zero leaves no number for it. -/
def limitInWords? (cap size : UInt64) : Option UInt64 :=
  if 1 ≤ cap then some (max 1 (min size cap)) else none

/-- The page of at most `size` items that starts at `offset`, with no number above a machine word and
with its bounds checked. -/
def pageInWords? (items : List α) (cap offset size : UInt64) : Option (Page α) := do
  let length := UInt64.ofNat items.length
  let limit ← limitInWords? cap size
  let start := min offset length
  let stop := endInWords length start limit
  let part ← slice? items start.toNat stop.toNat
  some ⟨part, if stop < length then some (tokenOf stop.toNat) else none⟩

theorem pageInWords?_eq {cap : UInt64} (hpositive : 1 ≤ cap) (hshort : items.length < UInt64.size)
    (offset size : UInt64) :
    pageInWords? items cap offset size =
      some (page items offset.toNat (limit cap.toNat size.toNat)) := by
  have hlength : (UInt64.ofNat items.length).toNat = items.length := UInt64.toNat_ofNat_of_lt' hshort
  have hlimit : (max 1 (min size cap)).toNat = limit cap.toNat size.toNat := by
    rw [UInt64.toNat_max, UInt64.toNat_min]
    rfl
  rw [← page?_eq, page?, pageInWords?, limitInWords?, if_pos hpositive]
  simp only [Option.bind_eq_bind, Option.bind_some, UInt64.lt_iff_toNat_lt, toNat_endInWords,
    hlimit, UInt64.toNat_min, hlength, Option.map_eq_bind]
  rfl

/-! ### The last page -/

variable {offset limit : Nat}

/-- The last page holds what is left, which is nothing behind the end of the list. -/
theorem page_of_end (h : items.length ≤ offset + limit) :
    page items offset limit = ⟨items.drop offset, none⟩ := by
  have hstop : min (min offset items.length + limit) items.length = items.length := by omega
  have hall : (items.drop (min offset items.length)).take limit = items.drop offset := by
    rw [← List.drop_eq_drop_min, List.take_of_length_le (by rw [List.length_drop]; omega)]
  simp only [page, hstop, hall, Nat.lt_irrefl, if_false]

end Paging

/-- A list is cut into pages: all but the last one hold an entry and bear a token, and the last one
bears none. -/
structure Partition {α : Type} (items : List α) (pages : List (Page α)) : Prop where
  whole : pages.flatMap Page.items = items
  ends : ∃ front last, pages = front ++ [last] ∧ last.token = none ∧
    ∀ page ∈ front, page.items ≠ [] ∧ page.token ≠ none
  /-- There are no more pages than entries, or there is one page. -/
  few : pages.length ≤ max 1 items.length

namespace Partition

variable {α : Type} {items : List α} {pages : List (Page α)} {page : Page α}

theorem single (items : List α) : Partition items [⟨items, none⟩] where
  whole := List.flatMap_singleton _ _
  ends := ⟨[], _, rfl, rfl, nofun⟩
  few := Nat.le_max_left 1 _

theorem cons (h : Partition items pages) (hsome : items ≠ []) (hentry : page.items ≠ [])
    (htoken : page.token ≠ none) : Partition (page.items ++ items) (page :: pages) where
  whole := by rw [List.flatMap_cons, h.whole]
  ends := by
    obtain ⟨front, last, rfl, hlast, hfront⟩ := h.ends
    refine ⟨page :: front, last, rfl, hlast, fun other hother => ?_⟩
    rcases List.mem_cons.mp hother with rfl | hother
    · exact ⟨hentry, htoken⟩
    · exact hfront other hother
  few := by
    have hfew := h.few
    have hsome := List.length_pos_of_ne_nil hsome
    have hentry := List.length_pos_of_ne_nil hentry
    rw [List.length_cons, List.length_append]
    omega

/-- A page in front of the pages that start where it ends. -/
theorem page_cons {offset limit : Nat} (hlimit : 0 < limit) (hmore : offset + limit < items.length)
    (h : Partition (items.drop (offset + limit)) pages) :
    Partition (items.drop offset) (Paging.page items offset limit :: pages) := by
  have hwithin : offset ≤ items.length := by omega
  have htoken : (Paging.page items offset limit).token ≠ none := by
    simp [Paging.token_page hwithin, hmore]
  have hsome : items.drop (offset + limit) ≠ [] := by
    rwa [ne_eq, List.drop_eq_nil_iff, Nat.not_le]
  have hlist : items.drop offset =
      (Paging.page items offset limit).items ++ items.drop (offset + limit) := by
    rw [Paging.items_page hwithin, ← List.drop_drop, List.take_append_drop]
  rw [hlist]
  exact h.cons hsome (Paging.items_page_ne_nil hlimit htoken) htoken

end Partition

/-! ### Lists that a service gives out -/

/-- A list that a service gives out in pages: the history of a run, or what a query finds. -/
inductive Listing where
  | history (domain workflowId runId : String)
  | found (domain query : String)
deriving DecidableEq, Repr

namespace Listing

/-- What the list holds. -/
def Item : Listing → Type
  | history .. => Event
  | found .. => WorkflowRef

def method : Listing → Method
  | history .. => .getHistory
  | found .. => .scan

theorem method_ne_reset (listing : Listing) : listing.method ≠ .reset := by
  cases listing <;> simp [method]

/-- What the calls for it are about. -/
def subject : Listing → String
  | history _ workflowId _ => workflowId
  | found _ query => query

/-- Asks for the page of a size that a token names. -/
def ask : (listing : Listing) → Nat → Option Token → Service →
    Except ServiceError (Page listing.Item) × Service
  | history domain workflowId runId, size, token, s =>
      s.call (.history ⟨domain, workflowId, runId, size, token⟩)
  | found domain query, size, token, s => s.call (.scan ⟨domain, query, size, token⟩)

/-- The list that a store has. -/
def items? : (listing : Listing) → Store → Except ServiceError (List listing.Item)
  | history _ workflowId runId, s => (s.resolve workflowId (some runId)).map Run.history
  | found _ query, s => .ok (s.visibility query)

/-- Asks for pages of these sizes, one call for each, and goes on with the token of each page as long as
there is one. -/
def follow (listing : Listing) : List Nat → Option Token → Service →
    Except ServiceError (List (Page listing.Item)) × Service
  | [], _, s => (.ok [], s)
  | size :: sizes, token, s =>
      match listing.ask size token s with
      | (.error error, s) => (.error error, s)
      | (.ok page, s) =>
          if hasMore page.token then
            let (pages, s) := listing.follow sizes page.token s
            (pages.map (page :: ·), s)
          else (.ok [page], s)

/-- Following the tokens from one on gets these items in pages, by one call for each page. -/
def Receives (listing : Listing) (sizes : List Nat) (token : Option Token) (s : Service)
    (items : List listing.Item) : Prop :=
  ∃ pages s', listing.follow sizes token s = (.ok pages, s') ∧ Partition items pages ∧
    s'.store.calls.of listing.method = s.store.calls.of listing.method + pages.length

/-- A service has the list, answers in time, and no failure is scripted for the calls. -/
structure GivenBy (listing : Listing) (s : Service) (items : List listing.Item) : Prop where
  inTime : s.missed? = none
  unscripted : s.store.failures listing.method listing.subject = []
  has : listing.items? s.store = .ok items

variable {listing : Listing} {s : Service} {items : List listing.Item}

/-- What a call is answered with, and the store behind it. -/
theorem GivenBy.call_ask (h : listing.GivenBy s items) (size : Nat) {token : Option Token}
    {offset : Nat} (hoffset : Paging.offsetOf? token = .ok offset) :
    (listing.ask size token s).1 =
        .ok (Paging.page items offset (Paging.limit s.store.pageCap size)) ∧
      (listing.ask size token s).2.store = s.store.count listing.method := by
  obtain ⟨htime, hunscripted, hhas⟩ := h
  cases listing with
  | history domain workflowId runId =>
      constructor
      · refine (Service.call_unscripted htime (.history ⟨_, _, _, _, _⟩) hunscripted).trans ?_
        cases hrun : s.store.resolve workflowId (some runId) with
        | error error => simp [items?, hrun, Except.map] at hhas
        | ok run =>
            rw [items?, hrun] at hhas
            obtain rfl := Except.ok.inj hhas
            exact Store.historyPage_of_resolve hrun hoffset
      · exact Service.store_call_unscripted htime (.history ⟨_, _, _, _, _⟩) hunscripted
          (method_ne_reset (.history domain workflowId runId))
  | found domain query =>
      constructor
      · refine (Service.call_unscripted htime (.scan ⟨_, _, _, _⟩) hunscripted).trans ?_
        obtain rfl := Except.ok.inj hhas
        exact Store.scanPage_of_offset hoffset
      · exact Service.store_call_unscripted htime (.scan ⟨_, _, _, _⟩) hunscripted
          (method_ne_reset (.found domain query))

/-- A call is answered with the page at the offset, is counted, and leaves the list to be asked for
again. -/
theorem GivenBy.ask (h : listing.GivenBy s items) (size : Nat) {token : Option Token} {offset : Nat}
    (hoffset : Paging.offsetOf? token = .ok offset) :
    ∃ s', listing.ask size token s =
        (.ok (Paging.page items offset (Paging.limit s.store.pageCap size)), s') ∧
      listing.GivenBy s' items ∧
      s'.store.calls.of listing.method = s.store.calls.of listing.method + 1 := by
  obtain ⟨hanswer, hstore⟩ := h.call_ask size hoffset
  refine ⟨_, Prod.ext hanswer rfl, ⟨?_, ?_, ?_⟩, ?_⟩
  · cases listing with
    | history domain workflowId runId | found domain query => exact h.inTime
  · rw [hstore]
    exact h.unscripted
  · rw [hstore, ← h.has]
    cases listing with
    | history domain workflowId runId | found domain query => rfl
  · rw [hstore, Store.count, CallCounts.of_increment, if_pos rfl]

/-- Each page of the list takes one call, and the calls end with the list. -/
theorem GivenBy.receives (hshort : items.length < UInt64.size) {sizes : List Nat}
    {token : Option Token} {offset : Nat} (h : listing.GivenBy s items)
    (hoffset : Paging.offsetOf? token = .ok offset)
    (hsizes : max 1 (items.length - offset) ≤ sizes.length) :
    listing.Receives sizes token s (items.drop offset) := by
  induction sizes generalizing s token offset with
  | nil => simp at hsizes
  | cons size sizes ih =>
      have hpositive := Paging.limit_pos s.store.pageCap size
      obtain ⟨s', hask, hgiven, hcount⟩ := h.ask size hoffset
      generalize Paging.limit s.store.pageCap size = limit at hask hpositive
      by_cases hmore : offset + limit < items.length
      · -- The next page starts behind this offset, so the sizes that are left are enough for the rest.
        rw [List.length_cons] at hsizes
        have hnext := Paging.offsetOf?_tokenOf (Nat.lt_trans hmore hshort)
        obtain ⟨pages, s'', hfollow, hrest, hcounts⟩ := ih hgiven hnext (by omega)
        have htoken : (Paging.page items offset limit).token =
            some (Paging.tokenOf (offset + limit)) := by
          rw [Paging.token_page (by omega), if_pos hmore]
        refine ⟨_, s'', ?_, hrest.page_cons hpositive hmore, ?_⟩
        · simp [follow, hask, htoken, Paging.hasMore_tokenOf, hfollow, Except.map]
        · rw [hcounts, hcount, List.length_cons]
          omega
      · rw [Paging.page_of_end (Nat.le_of_not_lt hmore)] at hask
        refine ⟨_, s', ?_, .single _, hcount⟩
        simp [follow, hask, hasMore]

/-- Following the tokens cuts a list into pages, whatever sizes are asked for, in no more calls than the
list has entries, or in one. From the token of an offset on, the list behind the offset is cut so. The
page of each call is the one that is worked out in machine words, of which no sum is too large. A list in
memory has fewer entries than a machine word can count. -/
theorem tokens_partition {cap : UInt64} (hgiven : listing.GivenBy s items)
    (hcap : s.store.pageCap = cap.toNat) (hpositive : 1 ≤ cap) (hshort : items.length < UInt64.size) :
    (∀ sizes : List Nat, max 1 items.length ≤ sizes.length →
      listing.Receives sizes none s items) ∧
    (∀ (offset : UInt64) (sizes : List Nat), max 1 (items.length - offset.toNat) ≤ sizes.length →
      listing.Receives sizes (some (Paging.tokenOf offset.toNat)) s
        (items.drop (min offset.toNat items.length))) ∧
    ∀ (token : Option Token) (offset size : UInt64), Paging.offsetOf? token = .ok offset.toNat →
      ∃ page, Paging.pageInWords? items cap offset size = some page ∧
        (listing.ask size.toNat token s).1 = .ok page := by
  refine ⟨fun sizes hsizes => ?_, fun offset sizes hsizes => ?_, fun token offset size hoffset => ?_⟩
  · have hstart : Paging.offsetOf? none = .ok 0 := rfl
    exact hgiven.receives hshort hstart hsizes
  · have hoffset := Paging.offsetOf?_tokenOf offset.toNat_lt_size
    rw [← List.drop_eq_drop_min]
    exact hgiven.receives hshort hoffset hsizes
  · refine ⟨_, Paging.pageInWords?_eq hpositive hshort offset size, ?_⟩
    rw [(hgiven.call_ask size.toNat hoffset).1, hcap]

/-- The second page would end behind the largest machine word. -/
theorem tokens_partition_sample :
    let history := Listing.history "default" "pay" "base"
    let service := Service.ofStore (Store.sampleFixture.store Store.sampleNaming)
    let events : List Event := [.started 1 none, .taskScheduled 2, .taskCompleted 3 2]
    history.GivenBy service events ∧
    history.Receives [0, UInt64.size - 1, 7] none service events ∧
    history.Receives [1, 0] (some (Paging.tokenOf 1)) service [.taskScheduled 2, .taskCompleted 3 2] ∧
    history.Receives [3] (some (Paging.tokenOf (UInt64.size - 1))) service [] ∧
    ∃ page, Paging.pageInWords? events 0xffffffffffffffff 1 0xffffffffffffffff = some page ∧
      (history.ask (UInt64.size - 1) (some (Paging.tokenOf 1)) service).1 = .ok page := by
  intro history service events
  have hgiven : history.GivenBy service events := ⟨rfl, rfl, rfl⟩
  have hcap : service.store.pageCap = (0xffffffffffffffff : UInt64).toNat := by decide
  obtain ⟨hstart, hoffset, hwords⟩ := tokens_partition hgiven hcap (by decide) (by decide)
  refine ⟨hgiven, hstart _ (by decide), hoffset 1 _ (by decide),
    hoffset 0xffffffffffffffff _ (by decide), hwords _ 1 0xffffffffffffffff ?_⟩
  exact Paging.offsetOf?_tokenOf (by decide)

end Listing

end Rewind
