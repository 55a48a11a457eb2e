import TenantLoad.Batch.Report

/-!
# Gathering outcomes

A collector begins with every item not started and puts in the outcomes of
items that have ended, in whatever order they arrive.  Of the failed items it
keeps the one that ended first, which the order of arrival does not show.
-/

namespace TenantLoad
namespace Batch

/-- The outcomes gathered so far. -/
structure Collection (Value Error : Type) where
  outcomes : Array (Outcome Value Error)
  /-- The failed item that ended first, with its place in the order of
  ending. -/
  firstFailure : Option (Nat × Nat)

namespace Collection

/-- Nothing gathered from so many items. -/
def empty (items : Nat) : Collection Value Error := ⟨Array.replicate items .notStarted, none⟩

/-- Whether the outcome of an item is still to be gathered. -/
def lacks (collection : Collection Value Error) (index : Nat) : Bool :=
  match collection.outcomes[index]? with
  | some .notStarted => true
  | _ => false

/-- Whether an item that ended as the given one ended before every failed item
gathered so far. -/
def precedes (collection : Collection Value Error) (order : Nat) : Bool :=
  match collection.firstFailure with
  | none => true
  | some (_, first) => decide (order < first)

/-- Put in the outcome of an item that ended as the given one. -/
def add (collection : Collection Value Error) (index order : Nat)
    (outcome : Outcome Value Error) : Collection Value Error :=
  { outcomes := collection.outcomes.setIfInBounds index outcome
    firstFailure :=
      if outcome.isFailure && collection.precedes order then some (index, order)
      else collection.firstFailure }

end Collection
end Batch
end TenantLoad
