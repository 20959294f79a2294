import CascadingForms.Yaml.Token

/-!
# Nodes of a YAML document

A node is a scalar, a sequence, a mapping, or an alias for a node that carries an anchor. Anchors
are numbers here; where several nodes carry the same one, an alias stands for the last of them.
-/

namespace CascadingForms.Yaml

inductive Node where
  | reference (anchor : Nat)
  | scalar (tag : Option Tag) (style : Style) (text : String)
  | sequence (items : List Node)
  | mapping (entries : List (Node × Node))
  | anchored (anchor : Nat) (node : Node)

namespace Node

def empty : Node := .scalar none .plain ""

mutual

/-- The nodes that carry an anchor, in the order in which they start. -/
def anchors : Node → List (Nat × Node)
  | reference _ => []
  | scalar _ _ _ => []
  | sequence items => anchorsOfItems items
  | mapping entries => anchorsOfEntries entries
  | anchored anchor node => (anchor, node) :: node.anchors

def anchorsOfItems : List Node → List (Nat × Node)
  | [] => []
  | item :: items => item.anchors ++ anchorsOfItems items

def anchorsOfEntries : List (Node × Node) → List (Nat × Node)
  | [] => []
  | (key, value) :: entries => key.anchors ++ value.anchors ++ anchorsOfEntries entries

end

mutual

/-- The number of marks it takes to tell a node: one for a scalar or an alias, and two for the ends
of a collection besides its parts. -/
def size : Node → Nat
  | reference _ => 1
  | scalar _ _ _ => 1
  | sequence items => sizeOfItems items + 2
  | mapping entries => sizeOfEntries entries + 2
  | anchored _ node => node.size

def sizeOfItems : List Node → Nat
  | [] => 0
  | item :: items => item.size + sizeOfItems items

def sizeOfEntries : List (Node × Node) → Nat
  | [] => 0
  | (key, value) :: entries => key.size + value.size + sizeOfEntries entries

end

/-- The node that an alias for an anchor stands for, somewhere inside this one. -/
def target? (root : Node) (anchor : Nat) : Option Node :=
  ((root.anchors.filter (·.1 = anchor)).getLast?).map (·.2)

end Node

end CascadingForms.Yaml
