import Rewind.Service.Error
import Rewind.Service.Message
import Rewind.Text.Decimal

/-!
Cutting a list into pages.

A token is the decimal text of the offset at which the next page starts. Whatever size is asked for,
a page holds at least one entry while there are any, and no more than the service's cap.
-/

namespace Rewind.Paging

/-- How many entries a page may hold. -/
def limit (cap requested : Nat) : Nat :=
  max 1 (min requested cap)

/-- The token for an offset. -/
def tokenOf (offset : Nat) : Token :=
  (Decimal.ofNat offset).map fun c => c.toNat.toUInt8

/-- The offset that a token stands for: no token and an empty one stand for the start. -/
def offsetOf? : Option Token → Except ServiceError Nat
  | none | some [] => .ok 0
  | some token =>
      match Decimal.plusNat? (token.map fun b => Char.ofNat b.toNat) with
      | some offset =>
          if offset < UInt64.size then .ok offset else .error refusal
      | none => .error refusal
where
  refusal : ServiceError := ⟨.invalidArgument, "invalid next page token"⟩

/-- The page of at most `limit` items that starts at `offset`, or at the end of a shorter list. -/
def page {α : Type} (items : List α) (offset limit : Nat) : Page α :=
  let start := min offset items.length
  let stop := min (start + limit) items.length
  ⟨(items.drop start).take limit,
    if stop < items.length then some (tokenOf stop) else none⟩

end Rewind.Paging
