import TenantLoad.Payload.Schema
import TenantLoad.Random.Draw

/-!
# Generated payloads

The bodies that a tenant sends are drawn from its generator, or from any other
source of random words.  The order of the draws is part of the definition: it
fixes which payloads follow from a seed.
-/

namespace TenantLoad
namespace Payload

open TenantLoad.Random

variable {Source : Type} [Words Source]

/-- The characters of random names. -/
def alphabet : List Char := "abcdefghijklmnopqrstuvwxyz0123456789".toList

/-- One element of a list that is not empty. -/
def pick [Inhabited α] (items : List α) : StateM Source α := do
  let index ← Draw.natBetween 0 (items.length - 1)
  pure (items.getD index default)

/-- So many random characters. -/
def randomChars : Nat → StateM Source (List Char)
  | 0 => pure []
  | count + 1 => do
    let character ← pick alphabet
    let rest ← randomChars count
    pure (character :: rest)

/-- A random name of so many characters. -/
def randomName (length : Nat) : StateM Source String := do
  let characters ← randomChars length
  pure (String.ofList characters)

/-- The signup of a tenant; only the slug of its organisation is random. -/
def identity (tenant : Nat) : StateM Source Api.Signup := do
  let suffix ← randomName 6
  pure
    { email := s!"stress{tenant}@example.com"
      username := s!"stress{tenant}"
      name := s!"Stress Tester {tenant}"
      password := s!"Passw0rd!{tenant}"
      orgSlug := s!"org-{tenant}-{suffix}" }

/-- The request for a tenant's table of the given index. -/
def newTable (table : Nat) : StateM Source Api.NewTable := do
  let suffix ← randomName 4
  pure { name := s!"work_items_{table}_{suffix}" }

/-- An amount rounded to whole hundredths, a half away from zero. -/
def toHundredths [Quantity Value] (amount : Value) : Value :=
  Quantity.round (amount * Quantity.ofNat 100) / Quantity.ofNat 100

/-- The cost that a part of the range of costs stands for. -/
def costOf [Quantity Value] (part : Nat) : Value :=
  toHundredths (Draw.within (Quantity.ofNat 10) (Quantity.ofNat 5000) part)

/-- A cost between ten and five thousand. -/
def cost : StateM Source Float := do
  let value ← Draw.long
  pure (costOf (value >>> 12).toNat)

/-- Whether an item of a status is completed: only complete ones can be. -/
def completed (status : String) : StateM Source Bool :=
  if status = completeStatus then Draw.coin 0.8 else pure false

/-- The row of the given index, its fields in ascending order. -/
def row (index : Nat) : StateM Source Json := do
  let status ← pick statuses
  let category ← pick categories
  let cost ← cost
  let completed ← completed status
  pure (Json.sorted
    [("title", .text s!"Work item {index} - {status}"),
      ("status", .text status),
      ("category", .text category),
      ("cost", .real cost),
      ("completed", .boolean completed)])

/-- A list with the drawn filter if a coin shows it. -/
def maybeFilter (probability : Float) (field : String) (value : StateM Source Json) :
    StateM Source (List Api.Filter) := do
  if ← Draw.coin probability then
    let value ← value
    pure [Api.Filter.equal field value]
  else
    pure []

/-- A text picked from a list. -/
def pickText (items : List String) : StateM Source Json := do
  let item ← pick items
  pure (.text item)

/-- A truth value, both equally likely. -/
def pickTruth : StateM Source Json := do
  let value ← Draw.coin 0.5
  pure (.boolean value)

/-- A search over the columns. -/
def search : StateM Source Api.Search := do
  let byStatus ← maybeFilter 0.7 "status" (pickText statuses)
  let byCategory ← maybeFilter 0.4 "category" (pickText categories)
  let byCompleted ← maybeFilter 0.3 "completed" pickTruth
  let pageNumber ← Draw.smallBetween 0 4
  let pageSize ← pick pageSizes
  let sortField ← pick sortFields
  let ascending ← Draw.coin 0.5
  pure
    { pageNumber
      pageSize
      filters := byStatus ++ byCategory ++ byCompleted
      sortField
      direction := if ascending then .ascending else .descending }

/-- The rows of the given indices, in order. -/
def rows : List Nat → StateM Source (List Json)
  | [] => pure []
  | index :: rest => do
    let first ← row index
    let others ← rows rest
    pure (first :: others)

/-- So many searches. -/
def searches : Nat → StateM Source (List Api.Search)
  | 0 => pure []
  | count + 1 => do
    let first ← search
    let others ← searches count
    pure (first :: others)

end Payload
end TenantLoad
