/-!
# Percent encoding

A character outside a part's plain set is written as the bytes of its UTF-8
form, each as a percent sign and two hexadecimal digits.  Characters outside
ASCII are never plain.
-/

namespace TenantLoad
namespace Url
namespace Percent

/-- A set of ASCII characters that must be encoded. -/
abbrev Reserved := Char → Bool

/-- The control characters. -/
def isControl (character : Char) : Bool := character.toNat < 0x20 || character.toNat == 0x7f

/-- A reserved set with further characters. -/
def withChars (reserved : Reserved) (more : List Char) : Reserved :=
  fun character => reserved character || more.contains character

/-- What is encoded in a fragment. -/
def fragmentSet : Reserved := withChars isControl [' ', '"', '<', '>', '\x60']

/-- What is encoded in a query. -/
def querySet : Reserved := withChars isControl [' ', '"', '#', '<', '>']

/-- What is encoded in the query of a special scheme. -/
def specialQuerySet : Reserved := withChars querySet ['\'']

/-- What is encoded in a path. -/
def pathSet : Reserved := withChars fragmentSet ['#', '?', '\x7b', '\x7d']

/-- What is encoded in a single segment of a path. -/
def segmentSet : Reserved := withChars pathSet ['/', '%']

/-- What is encoded in a single segment of a path of a special scheme. -/
def specialSegmentSet : Reserved := withChars segmentSet ['\\']

/-- What is encoded in a user's name and password. -/
def userSet : Reserved :=
  withChars pathSet ['/', ':', ';', '=', '@', '[', '\\', ']', '^', '|']

/-- A hexadecimal digit in upper case. -/
def upperHexDigit (value : Nat) : Char :=
  Char.ofNat (if value % 16 < 10 then '0'.toNat + value % 16 else 'A'.toNat + (value % 16 - 10))

/-- The written form of a byte. -/
def encodeByte (byte : UInt8) : List Char :=
  ['%', upperHexDigit (byte.toNat / 16), upperHexDigit byte.toNat]

/-- The written form of a character. -/
def encodeChar (reserved : Reserved) (character : Char) : List Char :=
  if character.toNat < 0x80 && !reserved character then [character]
  else (String.utf8EncodeChar character).flatMap encodeByte

/-- The written form of a text. -/
def encode (reserved : Reserved) (text : List Char) : List Char :=
  text.flatMap (encodeChar reserved)

/-- The value of a hexadecimal digit. -/
def hexValue? (character : Char) : Option Nat :=
  if character.isDigit then some (character.toNat - '0'.toNat)
  else if 'a' ≤ character ∧ character ≤ 'f' then some (character.toNat - 'a'.toNat + 10)
  else if 'A' ≤ character ∧ character ≤ 'F' then some (character.toNat - 'A'.toNat + 10)
  else none

/-- The bytes of a text; a percent sign with two hexadecimal digits is one
byte, and any other percent sign stands for itself. -/
def decodeBytes : List Char → List UInt8
  | [] => []
  | '%' :: high :: low :: rest =>
    match hexValue? high, hexValue? low with
    | some high, some low => UInt8.ofNat (16 * high + low) :: decodeBytes rest
    | _, _ => String.utf8EncodeChar '%' ++ decodeBytes (high :: low :: rest)
  | character :: rest => String.utf8EncodeChar character ++ decodeBytes rest

/-- The text that a written form stands for, if its bytes are UTF-8. -/
def decode? (text : List Char) : Option (List Char) :=
  (String.fromUTF8? ⟨(decodeBytes text).toArray⟩).map String.toList

end Percent
end Url
end TenantLoad
