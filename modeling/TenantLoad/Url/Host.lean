import TenantLoad.Url.Domain
import TenantLoad.Url.Percent

/-!
# Hosts

The host of a URL is a name, an IPv4 address in any of its number forms, or
an IPv6 address in brackets.
-/

namespace TenantLoad
namespace Url

/-- Why a text is no URL. -/
inductive Fault where
  | emptyHost
  | internationalName
  | port
  | ipv4Address
  | ipv6Address
  | hostCharacter
  | noScheme
  deriving Repr, DecidableEq

/-- The text of a fault. -/
def Fault.message : Fault → String
  | .emptyHost => "empty host"
  | .internationalName => "invalid international domain name"
  | .port => "invalid port number"
  | .ipv4Address => "invalid IPv4 address"
  | .ipv6Address => "invalid IPv6 address"
  | .hostCharacter => "invalid domain character"
  | .noScheme => "relative URL without a base"

/-- The host of a URL. -/
inductive Host where
  | named (name : String)
  | ipv4 (address : UInt32)
  /-- Eight pieces of 16 bits. -/
  | ipv6 (pieces : List Nat)
  deriving Repr, DecidableEq

namespace Host

/-! ## IPv4 addresses -/

/-- The value of digits in a base, if all of them are digits of it. -/
def digitsValue? (base : Nat) (digits : List Char) : Option Nat :=
  digits.foldlM
    (fun value digit =>
      (Percent.hexValue? digit).bind fun digit =>
        if digit < base then some (base * value + digit) else none)
    0

/-- The number of a part of an IPv4 address: hexadecimal after `0x`, octal
after `0`, otherwise decimal.  A prefix alone is zero. -/
def partValue? : List Char → Option Nat
  | [] => none
  | '0' :: 'x' :: digits | '0' :: 'X' :: digits => digitsValue? 16 digits
  | '0' :: digit :: digits => digitsValue? 8 (digit :: digits)
  | digits => digitsValue? 10 digits

/-- The parts of a name, without the empty part after a dot at its end. -/
def parts (text : List Char) : List (List Char) :=
  let parts := text.splitOn '.'
  if parts.getLast? = some [] then parts.dropLast else parts

/-- Whether a name ends in a number, which makes it an IPv4 address. -/
def endsInNumber (text : List Char) : Bool :=
  match (parts text).getLast? with
  | none | some [] => false
  | some last => last.all Char.isDigit || (partValue? last).isSome

/-- The address of numbers: all but the last are bytes, and the last fills
the rest. -/
def addressOf? (numbers : List Nat) : Option UInt32 :=
  match numbers.getLast? with
  | none => none
  | some last =>
    let bytes := numbers.dropLast
    if bytes.all (· ≤ 255) ∧ last < Nat.pow 256 (4 - bytes.length) then
      some (UInt32.ofNat
        (bytes.foldl (fun value byte => 256 * value + byte) 0 * Nat.pow 256 (4 - bytes.length) + last))
    else none

/-- The IPv4 address of a text. -/
def ipv4? (text : List Char) : Option UInt32 :=
  let parts := parts text
  if 4 < parts.length then none else (parts.mapM partValue?).bind addressOf?

/-- The four bytes of an IPv4 address with dots between them. -/
def ipv4Text (address : UInt32) : String :=
  let byte (shift : UInt32) := toString (((address >>> shift) &&& 0xff).toNat)
  ".".intercalate [byte 24, byte 16, byte 8, byte 0]

/-! ## IPv6 addresses -/

/-- A piece of one to four hexadecimal digits. -/
def piece? (digits : List Char) : Option Nat :=
  if digits.isEmpty ∨ 4 < digits.length then none else digitsValue? 16 digits

/-- A byte without leading zeros. -/
def byte? (digits : List Char) : Option Nat :=
  match digits with
  | ['0'] => some 0
  | '0' :: _ | [] => none
  | _ => (digitsValue? 10 digits).filter (· ≤ 255)

/-- The two pieces of four bytes with dots between them. -/
def bytePieces? (text : List Char) : Option (List Nat) :=
  match (text.splitOn '.').mapM byte? with
  | some [first, second, third, fourth] => some [256 * first + second, 256 * third + fourth]
  | _ => none

/-- The pieces of texts, the last of which may be four bytes. -/
def piecesOf? : List (List Char) → Option (List Nat)
  | [] => some []
  | [last] => if last.contains '.' then bytePieces? last else (piece? last).map ([·])
  | first :: rest => do
    let piece ← piece? first
    let pieces ← piecesOf? rest
    pure (piece :: pieces)

/-- The pieces between colons; no text has no pieces. -/
def pieces? (text : List Char) : Option (List Nat) :=
  if text.isEmpty then some [] else piecesOf? (text.splitOn ':')

/-- Split a text at its first two colons in a row. -/
def splitDouble : List Char → Option (List Char × List Char)
  | [] => none
  | ':' :: ':' :: rest => some ([], rest)
  | character :: rest => (splitDouble rest).map fun (before, after) => (character :: before, after)

/-- The IPv6 address of a text: eight pieces, or fewer with two colons in a
row in place of the zeros that are missing. -/
def ipv6? (text : List Char) : Option (List Nat) :=
  match splitDouble text with
  | none => (pieces? text).filter fun pieces => pieces.length == 8
  | some (before, after) => do
    if before.contains '.' then none
    else
      let before ← pieces? before
      let after ← pieces? after
      let count := before.length + after.length
      if count < 8 then some (before ++ List.replicate (8 - count) 0 ++ after) else none

/-- The length of the run of zeros that a list begins with. -/
def zeroRun (pieces : List Nat) : Nat := (pieces.takeWhile (· == 0)).length

/-- The start and length of the first longest run of zeros. -/
def longestZeros (pieces : List Nat) : Nat × Nat :=
  (List.range pieces.length).foldl
    (fun best start =>
      let length := zeroRun (pieces.drop start)
      if best.2 < length then (start, length) else best)
    (0, 0)

/-- Pieces in hexadecimal with colons between them. -/
def piecesText (pieces : List Nat) : String :=
  ":".intercalate (pieces.map fun piece => String.ofList (Nat.toDigits 16 piece))

/-- The text of an IPv6 address: the first longest run of two or more zeros
is left out. -/
def ipv6Text (pieces : List Nat) : String :=
  let (start, length) := longestZeros pieces
  if length < 2 then piecesText pieces
  else piecesText (pieces.take start) ++ "::" ++ piecesText (pieces.drop (start + length))

/-! ## Reading hosts -/

/-- The text of a host. -/
def text : Host → String
  | .named name => name
  | .ipv4 address => ipv4Text address
  | .ipv6 pieces => "[" ++ ipv6Text pieces ++ "]"

/-- The address in brackets. -/
def bracketed (text : List Char) : Except Fault Host :=
  match text.getLast? with
  | some ']' =>
    match ipv6? ((text.drop 1).dropLast) with
    | some pieces => .ok (.ipv6 pieces)
    | none => .error .ipv6Address
  | _ => .error .ipv6Address

/-- The host of a special scheme. -/
def parseSpecial (text : List Char) : Except Fault Host :=
  if text.head? = some '[' then bracketed text
  else
    match (Percent.decode? text).bind Domain.toAscii? with
    | none => .error .internationalName
    | some [] => .error .emptyHost
    | some name =>
      if endsInNumber name then
        match ipv4? name with
        | some address => .ok (.ipv4 address)
        | none => .error .ipv4Address
      else .ok (.named (String.ofList name))

/-- The characters that no host of any scheme has. -/
def isForbidden (character : Char) : Bool :=
  ['\x00', '\t', '\n', '\r', ' ', '#', '/', ':', '<', '>', '?', '@', '[', '\\', ']', '^',
    '|'].contains character

/-- The host of a scheme that is not special, which is kept as it is. -/
def parseOther (text : List Char) : Except Fault Host :=
  if text.head? = some '[' then bracketed text
  else if text.any isForbidden then .error .hostCharacter
  else .ok (.named (String.ofList (Percent.encode Percent.isControl text)))

end Host
end Url
end TenantLoad
