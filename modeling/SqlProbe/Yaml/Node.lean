import SqlProbe.Yaml.Token

/-!
# Nodes of a YAML document

What a document says: a tree of scalars, sequences and mappings. A node may
carry a tag and an anchor, and an alias stands for the node that has an anchor.
Anchors are numbers here.

* `Node`: the nodes.
* `Document`: a root with the nodes its anchors stand for.
-/

namespace SqlProbe

namespace Yaml

/-- What a node carries besides its content. -/
structure Marks where
  /-- The anchor. -/
  anchor : Option Nat
  /-- The tag. -/
  tag : Option String
deriving DecidableEq, Repr

/-- No marks. -/
def Marks.none : Marks := ⟨.none, .none⟩

/-- A node. -/
inductive Node where
  /-- A scalar. -/
  | scalar (marks : Marks) (style : ScalarStyle) (text : String)
  /-- A sequence. -/
  | sequence (marks : Marks) (items : List Node)
  /-- A mapping, as its entries in the order they are written. -/
  | mapping (marks : Marks) (entries : List (Node × Node))
  /-- The node that has an anchor. -/
  | aliasOf (anchor : Nat)
deriving Repr

namespace Node

/-- The node that stands where none is written. -/
def empty (marks : Marks) : Node := .scalar marks .plain ""

mutual

/-- How many steps it takes to walk through a node: one for a scalar or an alias,
and two for the ends of a collection. -/
def size : Node → Nat
  | scalar _ _ _ => 1
  | sequence _ items => 2 + sizeOfItems items
  | mapping _ entries => 2 + sizeOfEntries entries
  | aliasOf _ => 1

/-- The steps through the items of a sequence. -/
def sizeOfItems : List Node → Nat
  | [] => 0
  | n :: rest => n.size + sizeOfItems rest

/-- The steps through the entries of a mapping. -/
def sizeOfEntries : List (Node × Node) → Nat
  | [] => 0
  | (k, v) :: rest => k.size + v.size + sizeOfEntries rest

end

/-- A node under its anchor, if it has one. -/
def anchored (marks : Marks) (n : Node) : List (Nat × Node) :=
  marks.anchor.toList.map fun a => (a, n)

mutual

/-- The nodes with anchors, in the order in which they begin. -/
def anchors : Node → List (Nat × Node)
  | scalar marks style text => anchored marks (scalar marks style text)
  | sequence marks items => anchored marks (sequence marks items) ++ anchorsOfItems items
  | mapping marks entries => anchored marks (mapping marks entries) ++ anchorsOfEntries entries
  | aliasOf _ => []

/-- The nodes with anchors among the items of a sequence. -/
def anchorsOfItems : List Node → List (Nat × Node)
  | [] => []
  | n :: rest => n.anchors ++ anchorsOfItems rest

/-- The nodes with anchors among the entries of a mapping. -/
def anchorsOfEntries : List (Node × Node) → List (Nat × Node)
  | [] => []
  | (k, v) :: rest => k.anchors ++ v.anchors ++ anchorsOfEntries rest

end

end Node

/-- A document. -/
structure Document where
  /-- The root, if there is one. -/
  root : Option Node
  /-- The nodes with anchors, the last one first. -/
  targets : List (Nat × Node)
deriving Repr

namespace Document

/-- The document without a root. -/
def void : Document := ⟨none, []⟩

/-- The document with a root. -/
def ofRoot (n : Node) : Document := ⟨some n, n.anchors.reverse⟩

/-- The node that an anchor stands for: the last one that has it. -/
def target? (d : Document) (anchor : Nat) : Option Node := d.targets.lookup anchor

/-- The number of steps it takes to walk through the document. -/
def size (d : Document) : Nat := (d.root.map Node.size).getD 1

end Document

end Yaml

end SqlProbe
