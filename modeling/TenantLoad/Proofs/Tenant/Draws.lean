import TenantLoad.Proofs.Batch.Sequential
import TenantLoad.Tenant.Machine

/-!
# The draws of a tenant

A tenant draws the payloads of a batch one after the other and then the
generators of its items, so there is one of each for every item.
-/

namespace TenantLoad
namespace Tenant

open TenantLoad.Random

section Laws

variable {First Second : Type}

/-- A draw that goes on with another one. -/
theorem bind_apply
    (first : Draw First)
    (next : First → Draw Second)
    (generator : Generator) :
    (first >>= next) generator = next (first generator).1 (first generator).2 := rfl

theorem pure_apply
    (value : First)
    (generator : Generator) :
    (pure value : Draw First) generator = (value, generator) := rfl

end Laws

/-- The rows of a table and the generators of their items. -/
def drawRows (count : Nat) : Draw (List Json × List Generator) := do
  let rows ← Payload.rows (List.range count)
  let generators ← Batch.itemGenerators count
  pure (rows, generators)

/-- The searches of a table and the generators of their items. -/
def drawSearches (count : Nat) : Draw (List Api.Search × List Generator) := do
  let searches ← Payload.searches count
  let generators ← Batch.itemGenerators count
  pure (searches, generators)

theorem length_rows
    (indices : List Nat)
    (generator : Generator) :
    (Payload.rows indices generator).1.length = indices.length := by
  induction indices generalizing generator with
  | nil => rfl
  | cons index indices inductionHypothesis =>
      rw [Payload.rows, bind_apply, bind_apply, pure_apply, List.length_cons, List.length_cons,
        inductionHypothesis]

theorem length_searches
    (count : Nat)
    (generator : Generator) :
    (Payload.searches count generator).1.length = count := by
  induction count generalizing generator with
  | zero => rfl
  | succ count inductionHypothesis =>
      rw [Payload.searches, bind_apply, bind_apply, pure_apply, List.length_cons,
        inductionHypothesis]

variable {count : Nat} {generator : Generator}

@[simp] theorem length_drawRows_rows : (drawRows count generator).1.1.length = count :=
  (length_rows (List.range count) generator).trans List.length_range

@[simp] theorem length_drawRows_generators : (drawRows count generator).1.2.length = count :=
  Batch.length_itemGenerators count (Payload.rows (List.range count) generator).2

@[simp] theorem length_drawSearches_searches :
    (drawSearches count generator).1.1.length = count :=
  length_searches count generator

@[simp] theorem length_drawSearches_generators :
    (drawSearches count generator).1.2.length = count :=
  Batch.length_itemGenerators count (Payload.searches count generator).2

/-- A tenant begins with its identity drawn and nothing done. -/
theorem initial_eq
    (index : Nat)
    (generator : Generator) :
    initial index generator =
      let drawn := Payload.identity index generator
      { index, identity := drawn.1, generator := drawn.2, tables := [], position := .waiting } := by
  unfold initial
  generalize Payload.identity index generator = drawn
  rfl

end Tenant
end TenantLoad
