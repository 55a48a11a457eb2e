import TenantLoad.Random.Generator
import TenantLoad.Quantity

/-!
# Draws from a distribution

A draw takes a source of raw words to a value and the source that follows.
Whole numbers come from one widening multiplication with rejection, a coin from
one comparison and a floating-point number from the top 52 bits of a long word.
-/

namespace TenantLoad
namespace Random

/-- A source of raw words: it gives one of 64 or of 32 bits and moves on. -/
class Words (Source : Type) where
  nextLong : Source → UInt64 × Source
  nextWord : Source → UInt32 × Source
  /-- How many times in a row a value is refused before the least one is taken:
  more often than in any draw that ends. -/
  patience : Nat

/-- The patience with generators.  It exceeds the number of words in a
keystream, so a draw from a generator that reaches it would never end. -/
def refusalLimit : Nat := 0x100000000000000000000

@[default_instance]
instance : Words Generator := ⟨Generator.nextLong, Generator.nextWord, refusalLimit⟩

/-- A random value, as a step of the generator. -/
abbrev Draw := StateM Generator

namespace Draw

variable {Source : Type}

/-- A raw 32-bit word. -/
def word [Words Source] : StateM Source UInt32 := Words.nextWord

/-- A raw 64-bit word. -/
def long [Words Source] : StateM Source UInt64 := Words.nextLong

/-- Multiply raw values by `count` until the low half of the product lies in
the accepted zone; the high half is then uniform below `count`. -/
def belowByRejection (width count zone : Nat) (raw : StateM Source Nat) :
    Nat → StateM Source Nat
  | 0 => pure 0
  | refusals + 1 => do
    let value ← raw
    let product := value * count
    if product % Nat.pow 2 width ≤ zone then
      pure (product / Nat.pow 2 width)
    else
      belowByRejection width count zone raw refusals

/-- The largest accepted low half: `count` is shifted until its top bit is
the word's top bit. -/
def acceptedZone (width count : Nat) : Nat :=
  count <<< (width - 1 - count.log2) - 1

/-- A whole number from `low` to `high`, drawn from raw words of a width that
holds both.  The whole range of the words takes one raw draw. -/
def between [Words Source] (width : Nat) (raw : StateM Source Nat) (low high : Nat) :
    StateM Source Nat := do
  let count := high - low + 1
  if count = Nat.pow 2 width then
    raw
  else
    let offset ←
      belowByRejection width count (acceptedZone width count) raw (Words.patience Source)
    pure (low + offset)

/-- A whole number from `low` to `high` by 64-bit words. -/
def natBetween [Words Source] (low high : Nat) : StateM Source Nat :=
  between 64 (fun source => let (value, next) := Words.nextLong source; (value.toNat, next))
    low high

/-- A whole number from `low` to `high` by 32-bit words. -/
def smallBetween [Words Source] (low high : Nat) : StateM Source Nat :=
  between 32 (fun source => let (value, next) := Words.nextWord source; (value.toNat, next))
    low high

/-- A coin that shows `true` with a probability below one. -/
def coin [Words Source] (probability : Float) : StateM Source Bool := do
  let value ← long
  pure (value < (probability * 18446744073709551616.0).toUInt64)

variable {Value : Type} [Quantity Value]

/-- The number of fractions that 52 random bits give. -/
def fractions : Nat := 0x10000000000000

/-- The largest fraction that 52 random bits give. -/
def largestFraction : Value := Quantity.ofNat (fractions - 1) / Quantity.ofNat fractions

/-- Lower a scale until the largest fraction stays within the bound. -/
def fitScale (low high scale : Value) : Nat → Value
  | 0 => scale
  | steps + 1 =>
    if Quantity.less high (scale * largestFraction + low) then
      fitScale low high (Quantity.previous scale) steps
    else
      scale

/-- How many steps a scale is lowered at most. -/
def fitSteps : Nat := 64

/-- A fraction of so many parts of the interval from `low` to `high`. -/
def within (low high : Value) (part : Nat) : Value :=
  let scale := fitScale low high ((high - low) / largestFraction) fitSteps
  Quantity.ofNat part / Quantity.ofNat fractions * scale + low

end Draw
end Random
end TenantLoad
