import CascadingForms.Yaml.Document

/-!
# Reading values out of a document

A `Reader` takes a value of some type out of a node. It sees through anchors and aliases, knows how
many collections may still be nested in the node, and counts the aliases that it follows: a document
with `n` marks allows `100 * n` of them. Values that no reader asks for are not looked into.

A plain scalar without content stands for an empty collection, and the words for null, where a value
may be missing, for none.
-/

namespace CascadingForms.Yaml

/-- A computation that may follow aliases; its state is how many more it may follow. -/
abbrev Reading := StateT Nat (Except Error)

/-- A reader for nodes of a document, given its root and how many collections may be nested. -/
abbrev Reader (α : Type) := Node → Nat → Node → Reading α

namespace Node

def followAlias (root : Node) (anchor : Nat) : Reading Node := do
  match ← get with
  | 0 => throw .tooManyAliases
  | left + 1 =>
    set left
    match root.target? anchor with
    | some node => return node
    | none => throw .tooManyAliases

/-- The node that carries the anchor, or the node itself. -/
def strip : Node → Node
  | anchored _ node => node.strip
  | node => node

/-- The node without its anchor, or the one that it is an alias for. -/
def resolve (node root : Node) : Reading Node :=
  match node.strip with
  | reference anchor => do return (← followAlias root anchor).strip
  | node => return node

end Node

namespace Reader

def isNull (text : String) : Bool := ["null", "Null", "NULL", "~"].contains text

def bool? (text : String) : Option Bool :=
  if ["true", "True", "TRUE"].contains text then some true
  else if ["false", "False", "FALSE"].contains text then some false
  else none

/-- Any scalar, with its text as it is. -/
def string : Reader String := fun root _ node => do
  match ← node.resolve root with
  | .scalar _ _ text => return text
  | _ => throw (.wrongShape "a string")

/-- Whether a scalar may be a Boolean: without quotes, or literal and tagged as one. -/
def maySpellBool (tag : Option Tag) (style : Style) : Bool :=
  style = .plain || (style = .literal && tag = some (Tag.ofText "tag:yaml.org,2002:bool"))

def bool : Reader Bool := fun root _ node => do
  match ← node.resolve root with
  | .scalar tag style text =>
    match if maySpellBool tag style then bool? text else none with
    | some b => return b
    | none => throw (.wrongShape "a boolean")
  | _ => throw (.wrongShape "a boolean")

/-- Whether a node says that there is no value. One that is tagged as null has to. -/
def saysNone : Node → Except Error Bool
  | .scalar none .plain text => .ok (text.isEmpty || isNull text)
  | .scalar (some tag) .plain text =>
    if tag = Tag.ofText "tag:yaml.org,2002:null" then
      if isNull text then .ok true else .error (.wrongShape "null")
    else .ok false
  | _ => .ok false

def nullable {α : Type} (read : Reader α) : Reader (Option α) := fun root depth node => do
  let node ← node.resolve root
  if ← saysNone node then return none else return some (← read root depth node)

/-- The items of a sequence, each with how many collections may be nested in it. -/
def items (root : Node) (depth : Nat) (node : Node) : Reading (List Node × Nat) := do
  match ← node.resolve root, depth with
  | .sequence items, depth + 1 => return (items, depth)
  | .sequence _, 0 => throw .tooDeep
  | .scalar _ .plain "", depth => return ([], depth - 1)
  | _, _ => throw (.wrongShape "a sequence")

def list {α : Type} (read : Reader α) : Reader (List α) := fun root depth node => do
  let (items, depth) ← items root depth node
  items.mapM (read root depth)

/-- Takes the entries with a known name out of a mapping. A name that is not known is an error if
`strict`, and a known name may stand only once. -/
def knownEntries (known : List String) (strict : Bool) (root : Node) (depth : Nat) :
    List (Node × Node) → Reading (List (String × Node))
  | [] => return []
  | (key, value) :: entries => do
    let name ← string root depth key
    if known.contains name then
      let fields ← knownEntries known strict root depth entries
      if fields.any (·.1 = name) then throw (.repeatedField name)
      else return (name, value) :: fields
    else if strict then throw (.unknownField name)
    else knownEntries known strict root depth entries

/-- The fields of a record, each with how many collections may be nested in it. -/
def fields (known : List String) (strict : Bool) (root : Node) (depth : Nat) (node : Node) :
    Reading (List (String × Node) × Nat) := do
  match ← node.resolve root, depth with
  | .mapping entries, depth + 1 => return (← knownEntries known strict root depth entries, depth)
  | .mapping _, 0 => throw .tooDeep
  | .scalar _ .plain "", depth => return ([], depth - 1)
  | _, _ => throw (.wrongShape "a mapping")

/-- The value of a field that may be absent. -/
def field? {α : Type} (read : Reader α) (root : Node) (depth : Nat)
    (fields : List (String × Node)) (name : String) : Reading (Option α) :=
  match fields.find? (·.1 = name) with
  | none => return none
  | some (_, node) => do return some (← read root depth node)

def field {α : Type} (read : Reader α) (root : Node) (depth : Nat)
    (fields : List (String × Node)) (name : String) : Reading α :=
  match fields.find? (·.1 = name) with
  | none => throw (.missingField name)
  | some (_, node) => read root depth node

/-- The name that a tag spells behind its exclamation mark. -/
def tagName? (tag : Option Tag) : Option String :=
  match tag with
  | some (mark :: rest) =>
    if mark = '!'.toNat.toUInt8 then
      String.fromUTF8? ⟨(if rest.isEmpty then [mark] else rest).toArray⟩
    else none
  | _ => none

/-- One of several names. It stands as the text of a scalar, or as a tag on a scalar that says
nothing else. -/
def oneOf {α : Type} (names : List (String × α)) : Reader α := fun root _ node => do
  match ← node.resolve root with
  | .scalar tag style text =>
    match tagName? tag with
    | some name =>
      if style = .plain && (text.isEmpty || isNull text) then pick name
      else throw (.wrongShape "null")
    | none => pick text
  | _ => throw (.wrongShape "a name")
where
  pick (name : String) : Reading α :=
    match names.find? (·.1 = name) with
    | some (_, value) => return value
    | none => throw (.unknownVariant name)

def maxDepth : Nat := 128

/-- Reads a value out of the only document in a text. -/
def ofText {α : Type} (read : Reader α) (text : String) : Except Error α := do
  let root ← Node.ofText text
  (read root maxDepth root).run' (100 * root.size)

end Reader

end CascadingForms.Yaml
