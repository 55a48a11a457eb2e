import TenantLoad.Text.CaseFold
import TenantLoad.Text.Category
import TenantLoad.Url.Punycode

/-!
# Domain names

The ASCII form of a domain name.  Letters lose their case, wide forms become
plain ones and invisible marks are dropped; a label with characters outside
ASCII is then written in Punycode.  A label that is given in Punycode must be
what such a label is written as.

Letters are not composed with the marks behind them, and of the compatibility
forms only wide ones become plain.  The order of letters that are written from
right to left is not checked, and a joiner is refused wherever it stands.
-/

namespace TenantLoad
namespace Url
namespace Domain

/-- The ASCII characters that no domain name has. -/
def isForbidden (character : Char) : Bool :=
  character.toNat ≤ 0x20 || character.toNat == 0x7f ||
    ['%', '#', '/', ':', '<', '>', '?', '@', '[', '\\', ']', '^', '|'].contains character

/-- Marks that are dropped. -/
def isDropped (character : Char) : Bool :=
  let code := character.toNat
  [0xad, 0x34f, 0x180b, 0x180c, 0x180d, 0x180f, 0x200b, 0x2060, 0x2064, 0xfeff].contains code ||
    (0xfe00 ≤ code && code ≤ 0xfe0f) || (0xe0100 ≤ code && code ≤ 0xe01ef)

/-- The plain form of a character. -/
def plainForm (character : Char) : Char :=
  let code := character.toNat
  if 0xff01 ≤ code ∧ code ≤ 0xff5e then (Char.ofNat (code - 0xfee0)).toLower
  else if code = 0x3002 ∨ code = 0xff61 then '.'
  else if code = 0x3c2 then character
  else if code = 0x1e9e then 'ß'
  else Text.fold character

/-- Whether a character outside ASCII may stand in a label. -/
def isAllowed (character : Char) : Bool :=
  !Text.hasCategory character ["Cc", "Cf", "Cn", "Co", "Cs", "Zl", "Zp", "Zs"]

/-- The characters of a name in their plain forms. -/
def normalize (name : List Char) : List Char :=
  (name.filter fun character => !isDropped character).map plainForm

/-- What marks a label in Punycode. -/
def marker : List Char := ['x', 'n', '-', '-']

/-- Whether all characters of a label are ASCII. -/
def isPlain (label : List Char) : Bool := label.all fun character => character.toNat < 0x80

/-- Whether a label with characters outside ASCII is well formed. -/
def isWellFormed (label : List Char) : Bool :=
  (label.all fun character => character.toNat < 0x80 || isAllowed character) &&
    !(label.head?.any fun character => Text.hasCategory character ["Mn", "Mc", "Me"]) &&
    normalize label == label

/-- The ASCII form of a label in plain form. -/
def labelToAscii? (label : List Char) : Option (List Char) :=
  if isPlain label then
    if marker.isPrefixOf label then
      match Punycode.decode? (label.drop marker.length) with
      | some decoded => if !isPlain decoded && isWellFormed decoded then some label else none
      | none => none
    else some label
  else if isWellFormed label then some (marker ++ Punycode.encode label)
  else none

/-- Split a name at its dots. -/
def labels (name : List Char) : List (List Char) := name.splitOn '.'

/-- The ASCII form of a domain name. -/
def toAscii? (name : List Char) : Option (List Char) := do
  let name := normalize name
  if name.any isForbidden then none
  else
    let parts ← (labels name).mapM labelToAscii?
    pure (List.intercalate ['.'] parts)

end Domain
end Url
end TenantLoad
