import TenantLoad.Text.Category

/-!
# Quoted text

A quoted text stands between double quotes.  Quotes, backslashes and the
common control characters are escaped by a backslash; characters that cannot
be seen, and those that only extend the character before them, are written by
their code.
-/

namespace TenantLoad
namespace Text

/-- Spacing marks that extend the character before them. -/
def extendingMarks : List Nat :=
  [0x9be, 0x9d7, 0xb3e, 0xb57, 0xbbe, 0xbd7, 0xcc2, 0xcd5, 0xcd6, 0xd3e, 0xd57, 0xdcf, 0xddf,
    0x1b35, 0x302e, 0x302f, 0xff9e, 0xff9f, 0x1133e, 0x11357, 0x114b0, 0x114bd, 0x115af, 0x11930,
    0x1d165, 0x1d16e, 0x1d16f, 0x1d170, 0x1d171, 0x1d172]

/-- Whether a character only extends the one before it. -/
def isExtending (character : Char) : Bool :=
  hasCategory character ["Mn", "Me"] || extendingMarks.contains character.toNat

/-- Whether a character can be seen; of the blanks only the space can. -/
def isVisible (character : Char) : Bool :=
  character == ' ' ||
    !hasCategory character ["Cc", "Cf", "Cs", "Co", "Cn", "Zl", "Zp", "Zs"]

/-- The code of a character as an escape. -/
def codeEscape (character : Char) : List Char :=
  ['\\', 'u', '\x7b'] ++ Nat.toDigits 16 character.toNat ++ ['\x7d']

/-- The written form of a character within quotes. -/
def quotedChar (character : Char) : List Char :=
  if character = '\x00' then ['\\', '0']
  else if character = '\t' then ['\\', 't']
  else if character = '\r' then ['\\', 'r']
  else if character = '\n' then ['\\', 'n']
  else if character = '\\' then ['\\', '\\']
  else if character = '"' then ['\\', '"']
  else if isExtending character || !isVisible character then codeEscape character
  else [character]

/-- A text in quotes. -/
def quoted (text : String) : String :=
  String.ofList ('"' :: text.toList.flatMap quotedChar ++ ['"'])

end Text
end TenantLoad
