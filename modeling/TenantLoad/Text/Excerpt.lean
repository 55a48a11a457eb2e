/-!
# Excerpts of messages

A message that is longer than a limit is cut after that many characters and
marked with three dots.  Characters are never split.
-/

namespace TenantLoad
namespace Text

/-- At most so many characters of a list, marked when any are left out. -/
def excerptChars (limit : Nat) (characters : List Char) : List Char :=
  if characters.length ≤ limit then characters else characters.take limit ++ ['.', '.', '.']

/-- At most so many characters of a message, marked when any are left out. -/
def excerpt (limit : Nat) (message : String) : String :=
  String.ofList (excerptChars limit message.toList)

end Text
end TenantLoad
