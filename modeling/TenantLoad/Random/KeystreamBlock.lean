/-!
# Blocks of the ChaCha keystream

A keystream block is sixteen 32-bit words: the constant, the key, a 64-bit
block counter and two zero words, mixed by six double rounds and added to
the unmixed words.  The module only computes blocks; `TenantLoad.Random.Generator`
reads them as one long sequence of words.
-/

namespace TenantLoad
namespace Random

/-- Sixteen 32-bit words, in row order. -/
abbrev Block := Vector UInt32 16

/-- The eight key words of a keystream. -/
abbrev Key := Vector UInt32 8

namespace Block

/-- Rotate a word to the left. -/
def rotateLeft (word : UInt32) (amount : UInt32) : UInt32 :=
  (word <<< amount) ||| (word >>> (32 - amount))

/-- Mix four words of a block. -/
def quarterRound (block : Block) (a b c d : Fin 16) : Block :=
  let block := block.set a (block[a] + block[b])
  let block := block.set d (rotateLeft (block[d] ^^^ block[a]) 16)
  let block := block.set c (block[c] + block[d])
  let block := block.set b (rotateLeft (block[b] ^^^ block[c]) 12)
  let block := block.set a (block[a] + block[b])
  let block := block.set d (rotateLeft (block[d] ^^^ block[a]) 8)
  let block := block.set c (block[c] + block[d])
  block.set b (rotateLeft (block[b] ^^^ block[c]) 7)

/-- Mix the four columns and then the four diagonals. -/
def doubleRound (block : Block) : Block :=
  let block := quarterRound block 0 4 8 12
  let block := quarterRound block 1 5 9 13
  let block := quarterRound block 2 6 10 14
  let block := quarterRound block 3 7 11 15
  let block := quarterRound block 0 5 10 15
  let block := quarterRound block 1 6 11 12
  let block := quarterRound block 2 7 8 13
  quarterRound block 3 4 9 14

/-- The number of double rounds, twelve rounds in all. -/
def doubleRounds : Nat := 6

/-- The words of a block before mixing. -/
def unmixed (key : Key) (counter : UInt64) : Block :=
  #v[0x61707865, 0x3320646e, 0x79622d32, 0x6b206574,
    key[0], key[1], key[2], key[3],
    key[4], key[5], key[6], key[7],
    counter.toUInt32, (counter >>> 32).toUInt32, 0, 0]

/-- The keystream block of a key at a counter. -/
def keystream (key : Key) (counter : UInt64) : Block :=
  let start := unmixed key counter
  Vector.zipWith (fun mixed word => mixed + word)
    (Nat.repeat doubleRound doubleRounds start) start

end Block
end Random
end TenantLoad
