/-!
# JSON values

A value of the data format.  Whole numbers keep their exact value and all
other numbers are floats.  The members of an object are a list: values read
from text or built by `Json.sorted` have strictly ascending names, while a
record that is about to be written keeps the order of its fields.
-/

namespace TenantLoad

/-- A JSON value. -/
inductive Json where
  | null
  | boolean (value : Bool)
  | integer (value : Int)
  | real (value : Float)
  | text (value : String)
  | list (items : List Json)
  | object (members : List (String × Json))
  deriving Inhabited

namespace Json

/-- Put a member into a list ordered by name; a member of that name is
replaced. -/
def insertMember (name : String) (value : α) : List (String × α) → List (String × α)
  | [] => [(name, value)]
  | (other, kept) :: rest =>
    if name < other then (name, value) :: (other, kept) :: rest
    else if name = other then (name, value) :: rest
    else (other, kept) :: insertMember name value rest

/-- Members ordered by name; of two members of one name the later one stays. -/
def sortMembers (members : List (String × α)) : List (String × α) :=
  members.foldl (fun sorted member => insertMember member.1 member.2 sorted) []

/-- An object with its members ordered by name. -/
def sorted (members : List (String × Json)) : Json := .object (sortMembers members)

/-- The member of a name, if the value is an object that has one. -/
def member? (name : String) : Json → Option Json
  | .object members => members.lookup name
  | _ => none

/-- A natural number as a value. -/
def natural (value : Nat) : Json := .integer value

/-- An optional value, absence written as `null`. -/
def optional (encode : α → Json) : Option α → Json
  | none => .null
  | some value => encode value

mutual

/-- The value with the members of every object ordered by name. -/
def ordered : Json → Json
  | .list items => .list (orderedItems items)
  | .object members => .object (sortMembers (orderedMembers members))
  | value => value

/-- `ordered`, item by item. -/
def orderedItems : List Json → List Json
  | [] => []
  | item :: rest => item.ordered :: orderedItems rest

/-- `ordered`, member by member. -/
def orderedMembers : List (String × Json) → List (String × Json)
  | [] => []
  | (name, value) :: rest => (name, value.ordered) :: orderedMembers rest

end

end Json
end TenantLoad
