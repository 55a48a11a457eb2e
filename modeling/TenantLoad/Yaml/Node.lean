import TenantLoad.Yaml.Token

/-!
# Nodes

A document is a tree of nodes.  An alias stands for the node that carries its
number: of several nodes with one number it is the last.
-/

namespace TenantLoad
namespace Yaml

/-- What a node carries besides its content. -/
structure Marks where
  /-- The number that aliases refer to. -/
  anchor : Option Nat := none
  /-- The name of its type. -/
  tag : Option String := none
  deriving Repr, DecidableEq

/-- A node of a document. -/
inductive Node where
  | alias (number : Nat)
  | scalar (marks : Marks) (style : Style) (text : String)
  | sequence (marks : Marks) (items : List Node)
  | mapping (marks : Marks) (entries : List (Node × Node))
  deriving Inhabited

namespace Node

/-- The node of a place where nothing is written. -/
def empty : Node := .scalar {} .plain ""

/-- A node under the number that it carries. -/
def underNumber (marks : Marks) (node : Node) : List (Nat × Node) :=
  match marks.anchor with
  | none => []
  | some number => [(number, node)]

mutual

/-- The nodes that carry a number, in the order in which they begin. -/
def numbered : Node → List (Nat × Node)
  | .alias _ => []
  | .scalar marks style text => underNumber marks (.scalar marks style text)
  | .sequence marks items => underNumber marks (.sequence marks items) ++ numberedItems items
  | .mapping marks entries => underNumber marks (.mapping marks entries) ++ numberedEntries entries

/-- Such nodes among items. -/
def numberedItems : List Node → List (Nat × Node)
  | [] => []
  | item :: rest => numbered item ++ numberedItems rest

/-- Such nodes among entries. -/
def numberedEntries : List (Node × Node) → List (Nat × Node)
  | [] => []
  | (key, value) :: rest => numbered key ++ numbered value ++ numberedEntries rest

end

/-- The node that a node within a document stands for. -/
def target (root : Node) : Node → Node
  | .alias number => (root.numbered.reverse.lookup number).getD empty
  | node => node

end Node
end Yaml
end TenantLoad
