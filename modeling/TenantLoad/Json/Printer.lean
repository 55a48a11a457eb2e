import TenantLoad.Json.Basic
import TenantLoad.Decimal.Layout

/-!
# JSON text

The compact form has no blanks.  The indented form puts every item and member
on a line of its own, two blanks deeper for each level, and keeps an empty
container on one line.  A float that is not finite is written as `null`.
-/

namespace TenantLoad
namespace Json

/-- A hexadecimal digit in lower case. -/
def hexDigit (value : Nat) : Char := (Nat.toDigits 16 (value % 16)).headD '0'

/-- The written form of a character within a string. -/
def escapeChar (character : Char) : List Char :=
  if character = '"' then ['\\', '"']
  else if character = '\\' then ['\\', '\\']
  else if character = '\x08' then ['\\', 'b']
  else if character = '\x0c' then ['\\', 'f']
  else if character = '\n' then ['\\', 'n']
  else if character = '\r' then ['\\', 'r']
  else if character = '\t' then ['\\', 't']
  else if character.toNat < 0x20 then
    ['\\', 'u', '0', '0', hexDigit (character.toNat / 16), hexDigit character.toNat]
  else [character]

/-- A string in quotes. -/
def quote (text : String) : String :=
  String.ofList ('"' :: text.toList.flatMap escapeChar ++ ['"'])

/-- The text of a float. -/
def realText (value : Float) : String :=
  if Decimal.isFinite value.toBits then Decimal.jsonLayout.text value.toBits else "null"

mutual

/-- The compact text of a value, appended to a text. -/
def appendCompact (out : String) : Json → String
  | .null => out ++ "null"
  | .boolean true => out ++ "true"
  | .boolean false => out ++ "false"
  | .integer value => out ++ toString value
  | .real value => out ++ realText value
  | .text value => out ++ quote value
  | .list [] => out ++ "[]"
  | .list (item :: rest) => appendCompactItems (appendCompact (out ++ "[") item) rest ++ "]"
  | .object [] => out ++ "\x7b\x7d"
  | .object ((name, value) :: rest) =>
    appendCompactMembers (appendCompact (out ++ "\x7b" ++ quote name ++ ":") value) rest ++ "\x7d"

/-- The items after the first one. -/
def appendCompactItems (out : String) : List Json → String
  | [] => out
  | item :: rest => appendCompactItems (appendCompact (out ++ ",") item) rest

/-- The members after the first one. -/
def appendCompactMembers (out : String) : List (String × Json) → String
  | [] => out
  | (name, value) :: rest =>
    appendCompactMembers (appendCompact (out ++ "," ++ quote name ++ ":") value) rest

end

/-- The compact text of a value. -/
def compact (value : Json) : String := appendCompact "" value

/-- A line break and the indentation of a level. -/
def newline (level : Nat) : String := "\n".pushn ' ' (2 * level)

mutual

/-- The indented text of a value at a level, appended to a text. -/
def appendPretty (level : Nat) (out : String) : Json → String
  | .null => out ++ "null"
  | .boolean true => out ++ "true"
  | .boolean false => out ++ "false"
  | .integer value => out ++ toString value
  | .real value => out ++ realText value
  | .text value => out ++ quote value
  | .list [] => out ++ "[]"
  | .list (item :: rest) =>
    appendPrettyItems (level + 1)
      (appendPretty (level + 1) (out ++ "[" ++ newline (level + 1)) item) rest
      ++ newline level ++ "]"
  | .object [] => out ++ "\x7b\x7d"
  | .object ((name, value) :: rest) =>
    appendPrettyMembers (level + 1)
      (appendPretty (level + 1) (out ++ "\x7b" ++ newline (level + 1) ++ quote name ++ ": ") value)
      rest
      ++ newline level ++ "\x7d"

/-- The items after the first one. -/
def appendPrettyItems (level : Nat) (out : String) : List Json → String
  | [] => out
  | item :: rest =>
    appendPrettyItems level (appendPretty level (out ++ "," ++ newline level) item) rest

/-- The members after the first one. -/
def appendPrettyMembers (level : Nat) (out : String) : List (String × Json) → String
  | [] => out
  | (name, value) :: rest =>
    appendPrettyMembers level
      (appendPretty level (out ++ "," ++ newline level ++ quote name ++ ": ") value) rest

end

/-- The indented text of a value. -/
def pretty (value : Json) : String := appendPretty 0 "" value

end Json
end TenantLoad
