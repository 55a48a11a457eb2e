import TenantLoad.Json.Record
import TenantLoad.Yaml.Document
import TenantLoad.Yaml.Word

/-!
# Records in documents

Records are read from the nodes of a document.  Texts are scalars of any
style, while numbers and truth values are plain.  A place where nothing is
written is an empty record or an empty list.
-/

namespace TenantLoad
namespace Yaml

/-- A node within a document. -/
structure Located where
  root : Node
  node : Node

namespace Located

/-- The names of the types that a tag may claim for a block scalar. -/
def standardTag (name : String) : String := s!"tag:yaml.org,2002:{name}"

/-- The node that is meant: an alias means its target. -/
def meant (data : Located) : Node := Node.target data.root data.node

/-- Another node of the same document. -/
def focus (data : Located) (node : Node) : Located := { data with node }

/-- The text of a scalar. -/
def scalarText? (data : Located) : Option String :=
  match data.meant with
  | .scalar _ _ text => some text
  | _ => none

/-- The text of a scalar that is plain, or literal with the tag of a type. -/
def plainText? (type : String) (data : Located) : Option String :=
  match data.meant with
  | .scalar _ .plain text => some text
  | .scalar marks .literal text => if marks.tag = some (standardTag type) then some text else none
  | _ => none

/-- The word after the mark of a tag that is local to a document. -/
def localTag? (tag : String) : Option String :=
  match tag.toList with
  | ['!'] => some tag
  | '!' :: name => some (String.ofList name)
  | _ => none

/-- The word that a scalar is, or that its local tag is if nothing else is
written. -/
def chosenWord? (data : Located) : Option String :=
  match data.meant with
  | .scalar marks style text =>
    match marks.tag.bind localTag? with
    | some word => if style = .plain ∧ (text.isEmpty ∨ Word.isNull text) then some word else none
    | none => some text
  | _ => none

/-- The data that may be absent: it is if nothing or a word for nothing is
written, and a tag that says so must not lie. -/
def presentData? (data : Located) : Option (Option Located) :=
  match data.meant with
  | .scalar marks .plain text =>
    match marks.tag with
    | none => some (if text.isEmpty || Word.isNull text then none else some data)
    | some tag =>
      if tag = standardTag "null" then if Word.isNull text then some none else none
      else some (some data)
  | _ => some (some data)

/-- Whether nothing is written. -/
def isEmpty (data : Located) : Bool :=
  match data.meant with
  | .scalar _ .plain "" => true
  | _ => false

/-- The entries of a mapping by the texts of their keys. -/
def members? (data : Located) (entries : List (Node × Node)) : Option (List (String × Located)) :=
  entries.mapM fun (key, value) =>
    (data.focus key).scalarText?.map fun name => (name, data.focus value)

instance : Source Located where
  text? := scalarText?
  integer? least most data := do
    let value ← (data.plainText? "int").bind Word.unsigned?
    if least ≤ value ∧ value ≤ most then some value else none
  boolean? data := (data.plainText? "bool").bind Word.boolean?
  word? := chosenWord?
  present? := presentData?
  items? data :=
    match data.meant with
    | .sequence _ items => some (items.map data.focus)
    | _ => if data.isEmpty then some [] else none
  fields? names data :=
    match data.meant with
    | .mapping _ entries => (data.members? entries).bind (Json.pickMembers? names)
    | _ => if data.isEmpty then some (names.map fun _ => none) else none

end Located

/-- Read a record from the text of a document. -/
def readRecord? (read : Located → Option Value) (text : String) : Option Value :=
  (Document.parse? text).bind fun root => read ⟨root, root⟩

end Yaml
end TenantLoad
