import TenantLoad.Random.KeystreamBlock

/-!
# A seeded generator of random words

A generator is a key and a position in that key's keystream.  Drawing a word
reads the keystream at the position and moves on by one, so every draw is a
function of the key and of the number of words drawn before it.  The block
that holds the position is kept beside it; `Generator.ext` says that it adds
nothing to the state.
-/

namespace TenantLoad
namespace Random

/-- A position in the keystream of a key. -/
structure Generator where
  /-- The key of the keystream. -/
  key : Key
  /-- The number of words already drawn. -/
  position : Nat
  /-- The block that holds the next word. -/
  block : Block
  /-- The kept block is the one at the position. -/
  block_eq : block = Block.keystream key (UInt64.ofNat (position / 16))

namespace Generator

/-- The generator at a position of a keystream. -/
def atPosition (key : Key) (position : Nat) : Generator :=
  ⟨key, position, Block.keystream key (UInt64.ofNat (position / 16)), rfl⟩

/-- Key and position determine a generator. -/
theorem ext {left right : Generator}
    (key : left.key = right.key) (position : left.position = right.position) :
    left = right := by
  obtain ⟨leftKey, leftPosition, leftBlock, leftEq⟩ := left
  obtain ⟨rightKey, rightPosition, rightBlock, rightEq⟩ := right
  simp only at key position
  subst key position
  subst leftEq rightEq
  rfl

/-- The generator one word further on. -/
def advance (generator : Generator) : Generator :=
  if same : (generator.position + 1) % 16 = 0 then
    atPosition generator.key (generator.position + 1)
  else
    ⟨generator.key, generator.position + 1, generator.block, by
      rw [generator.block_eq]
      have : (generator.position + 1) / 16 = generator.position / 16 := by omega
      rw [this]⟩

@[simp] theorem advance_key (generator : Generator) :
    generator.advance.key = generator.key := by
  unfold advance; split <;> rfl

@[simp] theorem advance_position (generator : Generator) :
    generator.advance.position = generator.position + 1 := by
  unfold advance; split <;> rfl

/-- Draw a 32-bit word. -/
def nextWord (generator : Generator) : UInt32 × Generator :=
  (generator.block.get ⟨generator.position % 16, Nat.mod_lt _ (by decide)⟩, generator.advance)

/-- Draw a 64-bit word: the low half first. -/
def nextLong (generator : Generator) : UInt64 × Generator :=
  let (low, generator) := generator.nextWord
  let (high, generator) := generator.nextWord
  ((high.toUInt64 <<< 32) ||| low.toUInt64, generator)

/-- The state that follows a state of the seed expander. -/
def expandStep (state : UInt64) : UInt64 :=
  state * 6364136223846793005 + 11634580027462260723

/-- The key word that a state of the seed expander yields: a xor-shift, then
a rotation by the top five bits. -/
def expandWord (state : UInt64) : UInt32 :=
  let shifted := (((state >>> 18) ^^^ state) >>> 27).toUInt32
  let rotation := (state >>> 59).toUInt32
  (shifted >>> rotation) ||| (shifted <<< ((32 - rotation) &&& 31))

/-- The eight key words of a 64-bit seed. -/
def expandSeed (seed : UInt64) : Key :=
  Vector.ofFn fun index => expandWord (Nat.repeat expandStep (index.val + 1) seed)

/-- The generator of a 64-bit seed. -/
def ofSeed (seed : UInt64) : Generator :=
  atPosition (expandSeed seed) 0

end Generator
end Random
end TenantLoad
