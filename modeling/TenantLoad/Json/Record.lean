import TenantLoad.Json.Written

/-!
# Reading records

A source is data that records can be read from: it offers texts, numbers,
lists and the fields of a record.  Fields that a record does not have are
skipped, a field that occurs twice is a fault, and where a source has lists
it may give the fields by position.
-/

namespace TenantLoad

/-- Data that records can be read from. -/
class Source (Data : Type) where
  /-- The text that the data is. -/
  text? : Data → Option String
  /-- The whole number within bounds that the data is. -/
  integer? : (least most : Int) → Data → Option Int
  /-- The truth value that the data is. -/
  boolean? : Data → Option Bool
  /-- The word, chosen from a few, that the data is. -/
  word? : Data → Option String
  /-- The data of a value that may be absent, if it is there; there is no
  answer where absence is claimed wrongly. -/
  present? : Data → Option (Option Data)
  /-- The items of the list that the data is. -/
  items? : Data → Option (List Data)
  /-- The fields of the given names of the record that the data is. -/
  fields? : List String → Data → Option (List (Option Data))

namespace Source

variable {Data : Type} [Source Data]

/-- A natural number of so many bits. -/
def natural? (bits : Nat) (data : Data) : Option Nat :=
  (integer? 0 (Nat.pow 2 bits - 1) data).map Int.toNat

/-- A value or its absence. -/
def optional? (read : Data → Option Value) (data : Data) : Option (Option Value) :=
  (present? data).bind fun present =>
    match present with
    | none => some none
    | some data => (read data).map some

/-- A list of values. -/
def list? (read : Data → Option Value) (data : Data) : Option (List Value) :=
  (items? data).bind fun items => items.mapM read

/-- One of the given words. -/
def choice? (words : List (String × Value)) (data : Data) : Option Value :=
  (word? data).bind fun word => words.lookup word

/-- A field that must be present. -/
def required? (read : Data → Option Value) (field : Option Data) : Option Value :=
  field.bind read

/-- A field that has a value of its own when it is absent. -/
def defaulted? (default : Value) (read : Data → Option Value) (field : Option Data) :
    Option Value :=
  match field with
  | none => some default
  | some data => read data

end Source

namespace Json

/-- The value of each of the given names among members, if no name occurs
twice. -/
def pickMembers? (names : List String) (members : List (String × Data)) :
    Option (List (Option Data)) :=
  names.mapM fun name =>
    match members.filter fun member => member.1 == name with
    | [] => some none
    | [member] => some (some member.2)
    | _ => none

/-- The items of a list padded with absences to the number of names. -/
def padItems? (names : List String) (items : List Data) : Option (List (Option Data)) :=
  if items.length ≤ names.length then
    some (items.map some ++ List.replicate (names.length - items.length) none)
  else
    none

instance : Source Json where
  text?
    | .text value => some value
    | _ => none
  integer? least most
    | .integer value => if least ≤ value ∧ value ≤ most then some value else none
    | _ => none
  boolean?
    | .boolean value => some value
    | _ => none
  word?
    | .text word => some word
    | .object [(word, .null)] => some word
    | _ => none
  present?
    | .null => some none
    | value => some (some value)
  items?
    | .list items => some items
    | _ => none
  fields? names
    | .object members => pickMembers? names members
    | .list items => padItems? names items
    | _ => none

/-- A parsed text with the levels of nesting that are left for it. -/
structure Nested where
  levels : Nat
  written : Written

namespace Nested

/-- The names of members, if every one has a value. -/
def nameMembers? (members : List (Option String × Data)) : Option (List (String × Data)) :=
  members.mapM fun (name, value) => name.map fun name => (name, value)

instance : Source Nested where
  text?
    | ⟨_, .text value⟩ => value
    | _ => none
  integer? least most
    | ⟨_, .number (some (.integer value))⟩ =>
      if least ≤ value ∧ value ≤ most then some value else none
    | _ => none
  boolean?
    | ⟨_, .boolean value⟩ => some value
    | _ => none
  word?
    | ⟨_, .text word⟩ => word
    | ⟨_ + 1, .object [(word, .null)]⟩ => word
    | _ => none
  present?
    | ⟨_, .null⟩ => some none
    | data => some (some data)
  items?
    | ⟨levels + 1, .list items⟩ => some (items.map fun item => ⟨levels, item⟩)
    | _ => none
  fields? names
    | ⟨levels + 1, .object members⟩ =>
      (nameMembers? members).bind fun members =>
        pickMembers? names (members.map fun (name, value) => (name, ⟨levels, value⟩))
    | ⟨levels + 1, .list items⟩ =>
      padItems? names (items.map fun item => (⟨levels, item⟩ : Nested))
    | _ => none

/-- The value of the data. -/
def value? (data : Nested) : Option Json := data.written.value? data.levels

end Nested

/-- Read a record from a JSON text. -/
def readRecord? (read : Nested → Option Value) (text : String) : Option Value :=
  (Written.parse? text).bind fun written => read ⟨Written.levelLimit, written⟩

end Json
end TenantLoad
