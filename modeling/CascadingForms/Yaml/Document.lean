import CascadingForms.Yaml.Node
import CascadingForms.Yaml.Token.Lexer

/-!
# From tokens to a document

A text holds exactly one document, with its directives in front and a mark at its end if it likes.
The tokens of the document are read by one function for each kind of collection. Their fuel bounds
the nesting and the number of entries together; no chain of calls makes more than four without
taking a token.
-/

namespace CascadingForms.Yaml

structure Directives where
  version : Bool := false
  tags : List (String × Tag) := []

namespace Directives

/-- The handles that need no directive. -/
def defaults : List (String × Tag) :=
  [("!", Tag.ofText "!"), ("!!", Tag.ofText "tag:yaml.org,2002:")]

def resolve (d : Directives) (handle : String) (suffix : Tag) : Except Error Tag :=
  if handle.isEmpty then .ok suffix
  else
    match (d.tags ++ defaults).find? (·.1 = handle) with
    | some (_, tag) => .ok (tag ++ suffix)
    | none => .error (.unknownTagHandle handle)

def take (d : Directives) : List Token → Except Error (Directives × List Token)
  | .version major minor :: rest =>
    if d.version then .error .repeatedDirective
    else if major = 1 && (minor = 1 || minor = 2) then take { d with version := true } rest
    else .error .badVersion
  | .tagDirective handle tag :: rest =>
    if d.tags.any (·.1 = handle) then .error .repeatedDirective
    else take { d with tags := d.tags ++ [(handle, tag)] } rest
  | rest => .ok (d, rest)

end Directives

/-- What is left to read, and the number that each anchor's name has at present. -/
structure Cursor where
  rest : List Token
  names : List (String × Nat) := []

namespace Cursor

def skip (c : Cursor) : Cursor := { c with rest := c.rest.tail }

/-- The number of a name that is given to a node: as many as there are names. A name that is given
again moves to the new number. -/
def bind (c : Cursor) (name : String) : Nat × Cursor :=
  let number := c.names.length
  let others := c.names.filter (·.1 ≠ name)
  (number, { c with names := (name, number) :: others })

def lookup (c : Cursor) (name : String) : Except Error Nat :=
  match c.names.find? (·.1 = name) with
  | some (_, number) => .ok number
  | none => .error (.unknownAlias name)

end Cursor

/-- Which block collections may be the value of a node: none in a flow collection; in a block, and
where a mapping goes on, also a sequence whose entries are not indented. -/
inductive Context where
  | flow
  | block
  | blockOrEntries
deriving DecidableEq

/-- An anchor and a tag in front of a node. -/
structure Properties where
  anchor : Option String := none
  tag : Option Tag := none

namespace Properties

def areGiven (p : Properties) : Bool := p.anchor.isSome || p.tag.isSome

/-- The tag of a scalar that is written out: a lone exclamation mark says nothing there. -/
def scalarTag (p : Properties) : Option Tag := p.tag.filter (· ≠ Tag.ofText "!")

end Properties

/-- Takes an anchor and a tag in either order. -/
def takeProperties (d : Directives) : List Token → Except Error (Properties × List Token)
  | .anchor name :: .tag handle suffix :: rest => do
    .ok (⟨some name, some (← d.resolve handle suffix)⟩, rest)
  | .anchor name :: rest => .ok (⟨some name, none⟩, rest)
  | .tag handle suffix :: .anchor name :: rest => do
    .ok (⟨some name, some (← d.resolve handle suffix)⟩, rest)
  | .tag handle suffix :: rest => do .ok (⟨none, some (← d.resolve handle suffix)⟩, rest)
  | rest => .ok (⟨none, none⟩, rest)

/-- Whether a collection goes on with another part here, so that the part before it is empty. -/
def atBlockPart : List Token → Bool
  | .key :: _ => true
  | .value :: _ => true
  | .blockEnd :: _ => true
  | _ => false

def atEntryEnd : List Token → Bool
  | .blockEntry :: _ => true
  | .blockEnd :: _ => true
  | _ => false

def atFlowPart : List Token → Bool
  | .value :: _ => true
  | .flowEntry :: _ => true
  | .flowSequenceEnd :: _ => true
  | _ => false

def atFlowMappingPart : List Token → Bool
  | .value :: _ => true
  | .flowEntry :: _ => true
  | .flowMappingEnd :: _ => true
  | _ => false

def atFlowValueEnd : List Token → Bool
  | .flowEntry :: _ => true
  | .flowSequenceEnd :: _ => true
  | _ => false

def atFlowMappingValueEnd : List Token → Bool
  | .flowEntry :: _ => true
  | .flowMappingEnd :: _ => true
  | _ => false

mutual

def parseNode (d : Directives) (context : Context) : Nat → Cursor → Except Error (Node × Cursor)
  | 0, _ => .error .missingNode
  | fuel + 1, c =>
    match c.rest with
    | .reference name :: _ => do .ok (.reference (← c.lookup name), c.skip)
    | _ => do
      let (properties, rest) ← takeProperties d c.rest
      match properties.anchor with
      | none => parseContent d context properties fuel { c with rest }
      | some name => do
        let (number, c) := { c with rest }.bind name
        let (node, c) ← parseContent d context properties fuel c
        .ok (.anchored number node, c)

/-- Reads a node behind its anchor and tag. Where one of these is given, nothing needs to follow. -/
def parseContent (d : Directives) (context : Context) (properties : Properties) :
    Nat → Cursor → Except Error (Node × Cursor)
  | 0, _ => .error .missingNode
  | fuel + 1, c =>
    match c.rest with
    | .scalar style text :: _ =>
      .ok (.scalar properties.scalarTag style text, c.skip)
    | .flowSequenceStart :: _ => do
      let (items, c) ← parseFlowSequence d true fuel c.skip
      .ok (.sequence items, c)
    | .flowMappingStart :: _ => do
      let (entries, c) ← parseFlowMapping d true fuel c.skip
      .ok (.mapping entries, c)
    | token :: _ =>
      match token, context with
      | .blockEntry, .blockOrEntries => do
        let (items, c) ← parseEntries d fuel c
        .ok (.sequence items, c)
      | .blockSequenceStart, .block | .blockSequenceStart, .blockOrEntries => do
        let (items, c) ← parseBlockSequence d fuel c.skip
        .ok (.sequence items, c)
      | .blockMappingStart, .block | .blockMappingStart, .blockOrEntries => do
        let (entries, c) ← parseBlockMapping d fuel c.skip
        .ok (.mapping entries, c)
      | _, _ =>
        if properties.areGiven then .ok (.scalar properties.tag .plain "", c)
        else .error .missingNode
    | [] =>
      if properties.areGiven then .ok (.scalar properties.tag .plain "", c)
      else .error .missingNode

/-- Reads the items of an indented sequence from the next one to the end. -/
def parseBlockSequence (d : Directives) : Nat → Cursor → Except Error (List Node × Cursor)
  | 0, _ => .error .unclosedCollection
  | fuel + 1, c =>
    match c.rest with
    | .blockEntry :: rest => do
      let (item, c) ←
        if atEntryEnd rest then .ok (.empty, c.skip) else parseNode d .block fuel c.skip
      let (items, c) ← parseBlockSequence d fuel c
      .ok (item :: items, c)
    | .blockEnd :: _ => .ok ([], c.skip)
    | _ => .error .unclosedCollection

/-- Reads the items of a sequence that stands at the indentation of the mapping around it. -/
def parseEntries (d : Directives) : Nat → Cursor → Except Error (List Node × Cursor)
  | 0, _ => .error .unclosedCollection
  | fuel + 1, c =>
    match c.rest with
    | .blockEntry :: rest => do
      let (item, c) ←
        if atEntryEnd rest || atBlockPart rest then .ok (.empty, c.skip)
        else parseNode d .block fuel c.skip
      let (items, c) ← parseEntries d fuel c
      .ok (item :: items, c)
    | _ => .ok ([], c)

def parseBlockMapping (d : Directives) : Nat → Cursor → Except Error (List (Node × Node) × Cursor)
  | 0, _ => .error .unclosedCollection
  | fuel + 1, c =>
    match c.rest with
    | .key :: rest => do
      let (key, c) ←
        if atBlockPart rest then .ok (.empty, c.skip)
        else parseNode d .blockOrEntries fuel c.skip
      let (value, c) ← parseBlockValue d fuel c
      let (entries, c) ← parseBlockMapping d fuel c
      .ok ((key, value) :: entries, c)
    | .blockEnd :: _ => .ok ([], c.skip)
    | _ => .error .unclosedCollection

/-- Reads the value of an entry, or nothing where there is no colon. -/
def parseBlockValue (d : Directives) : Nat → Cursor → Except Error (Node × Cursor)
  | 0, _ => .error .unclosedCollection
  | fuel + 1, c =>
    match c.rest with
    | .value :: rest =>
      if atBlockPart rest then .ok (.empty, c.skip)
      else parseNode d .blockOrEntries fuel c.skip
    | _ => .ok (.empty, c)

def parseFlowSequence (d : Directives) (first : Bool) :
    Nat → Cursor → Except Error (List Node × Cursor)
  | 0, _ => .error .unclosedCollection
  | fuel + 1, c =>
    match c.rest, first with
    | .flowSequenceEnd :: _, _ => .ok ([], c.skip)
    | _, true => parseFlowItem d fuel c
    | .flowEntry :: .flowSequenceEnd :: _, false => .ok ([], c.skip.skip)
    | .flowEntry :: _, false => parseFlowItem d fuel c.skip
    | _, false => .error .unclosedCollection

def parseFlowItem (d : Directives) : Nat → Cursor → Except Error (List Node × Cursor)
  | 0, _ => .error .unclosedCollection
  | fuel + 1, c => do
    let (item, c) ← match c.rest with
      | .key :: _ => parseFlowPair d fuel c.skip
      | _ => parseNode d .flow fuel c
    let (items, c) ← parseFlowSequence d false fuel c
    .ok (item :: items, c)

/-- Reads an item that is a mapping with a single entry. Where its key is missing, the token in the
key's place counts for nothing. -/
def parseFlowPair (d : Directives) : Nat → Cursor → Except Error (Node × Cursor)
  | 0, _ => .error .unclosedCollection
  | fuel + 1, c => do
    let (key, c) ←
      if atFlowPart c.rest then .ok (.empty, c.skip) else parseNode d .flow fuel c
    let (value, c) ← match c.rest with
      | .value :: rest =>
        if atFlowValueEnd rest then .ok (.empty, c.skip) else parseNode d .flow fuel c.skip
      | _ => .ok (.empty, c)
    .ok (.mapping [(key, value)], c)

def parseFlowMapping (d : Directives) (first : Bool) :
    Nat → Cursor → Except Error (List (Node × Node) × Cursor)
  | 0, _ => .error .unclosedCollection
  | fuel + 1, c =>
    match c.rest, first with
    | .flowMappingEnd :: _, _ => .ok ([], c.skip)
    | _, true => parseFlowEntry d fuel c
    | .flowEntry :: .flowMappingEnd :: _, false => .ok ([], c.skip.skip)
    | .flowEntry :: _, false => parseFlowEntry d fuel c.skip
    | _, false => .error .unclosedCollection

/-- Reads one entry and the entries after it. A key without a colon has no value. -/
def parseFlowEntry (d : Directives) : Nat → Cursor → Except Error (List (Node × Node) × Cursor)
  | 0, _ => .error .unclosedCollection
  | fuel + 1, c => do
    let (entry, c) ← match c.rest with
      | .key :: rest => do
        let (key, c) ←
          if atFlowMappingPart rest then .ok (.empty, c.skip) else parseNode d .flow fuel c.skip
        let (value, c) ← match c.rest with
          | .value :: rest =>
            if atFlowMappingValueEnd rest then .ok (.empty, c.skip)
            else parseNode d .flow fuel c.skip
          | _ => .ok (.empty, c)
        .ok ((key, value), c)
      | _ => do
        let (key, c) ← parseNode d .flow fuel c
        .ok ((key, Node.empty), c)
    let (entries, c) ← parseFlowMapping d false fuel c
    .ok (entry :: entries, c)

end

/-- Whether a document without content ends here. -/
def atDocumentEnd : List Token → Bool
  | [] => true
  | .version _ _ :: _ => true
  | .tagDirective _ _ :: _ => true
  | .documentStart :: _ => true
  | .documentEnd :: _ => true
  | _ => false

/-- The root of the only document in a list of tokens. -/
def Node.ofTokens (tokens : List Token) : Except Error Node := do
  let (d, rest) ← Directives.take {} tokens
  let fuel := 5 * (tokens.length + 1)
  let (node, c) ← match tokens, rest with
    | [], _ => .error .noDocument
    | _, .documentStart :: rest =>
      if atDocumentEnd rest then .ok (.empty, { rest }) else parseNode d .block fuel { rest }
    | .version _ _ :: _, _ | .tagDirective _ _ :: _, _ => .error .missingDocumentStart
    | _, _ => parseNode d .block fuel { rest }
  match c.rest.dropWhile (· matches .documentEnd) with
  | [] => .ok node
  | _ => .error .severalDocuments

/-- The root of the only document in a text. -/
def Node.ofText (text : String) : Except Error Node := do
  Node.ofTokens (← Token.ofText text)

end CascadingForms.Yaml
