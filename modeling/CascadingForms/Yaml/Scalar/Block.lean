import CascadingForms.Yaml.Scalar.Gap

/-!
# Literal and folded block scalars

A header line with optional chomping and indentation marks is followed by lines that share an
indentation. Without an indentation mark the first line that is not empty sets it. A literal scalar
keeps its line breaks; a folded one joins lines by a space, except around lines that start with a
blank.
-/

namespace CascadingForms.Yaml.Scalar

/-- What happens to the line breaks at the end. -/
inductive Chomping where
  | strip
  | clip
  | keep
deriving DecidableEq

structure Header where
  chomping : Chomping := .clip
  /-- The indentation beyond that of the enclosing collection, if it is given. -/
  increment : Option Nat := none

def chompingOf? (c : Char) : Option Chomping :=
  if c = '-' then some .strip else if c = '+' then some .keep else none

/-- A chomping mark at the front, or none. -/
def takeChomping (gs : List Glyph) : Chomping × List Glyph :=
  match gs with
  | [] => (.clip, [])
  | g :: rest =>
    match chompingOf? g.char with
    | some chomping => (chomping, rest)
    | none => (.clip, g :: rest)

/-- An indentation mark at the front, or none; zero is refused. -/
def takeIncrement (gs : List Glyph) : Except Error (Option Nat × List Glyph) :=
  match gs with
  | [] => .ok (none, [])
  | g :: rest =>
    if g.char = '0' then .error .badBlockHeader
    else if g.char.isDigit then .ok (some (g.char.toNat - '0'.toNat), rest)
    else .ok (none, g :: rest)

/-- Reads the two marks in either order, and the rest of the header line. -/
def takeHeader (gs : List Glyph) : Except Error (Header × List Glyph) := do
  let (chomping, rest) := takeChomping gs
  let (increment, rest) ← takeIncrement rest
  let (chomping, rest) :=
    if chomping = .clip && increment.isSome then takeChomping rest else (chomping, rest)
  match Glyph.endLine? rest with
  | some lines => .ok (⟨chomping, increment⟩, lines)
  | none => .error .badBlockHeader

structure BlockState where
  /-- The column at which content starts, once it is known. -/
  indent : Option Nat
  /-- The widest indentation met before that. -/
  widest : Nat := 0
  acc : List Char := []
  /-- The break at the end of the last line of content. -/
  lineBreak : Option Char := none
  /-- The breaks of the empty lines since, in reverse. -/
  emptyLines : List Char := []
  /-- Whether the last line of content starts with a blank. -/
  blankStart : Bool := false

namespace BlockState

def isLeft (s : BlockState) (column : Nat) : Bool :=
  match s.indent with
  | none => true
  | some indent => column < indent

/-- The column of content for a collection with a margin: what has been set, or the widest
indentation met. -/
def contentColumn (s : BlockState) (margin : Nat) : Nat :=
  match s.indent with
  | some indent => indent
  | none => max (max s.widest margin) 1

/-- The breaks between two lines of content, in reverse. -/
def joint (folds : Bool) (s : BlockState) (blank : Bool) : List Char :=
  if folds && s.lineBreak = some '\n' && !s.blankStart && !blank then
    if s.emptyLines.isEmpty then [' '] else s.emptyLines
  else s.emptyLines ++ s.lineBreak.toList

/-- Starts a line of content with its first character. -/
def startLine (folds : Bool) (column : Nat) (s : BlockState) (g : Glyph) : BlockState :=
  { indent := some column
    acc := g.char :: (s.joint folds g.isBlank ++ s.acc)
    blankStart := g.isBlank }

def text (chomping : Chomping) (s : BlockState) : String :=
  let ending := match chomping with
    | .strip => []
    | .clip => s.lineBreak.toList
    | .keep => s.emptyLines ++ s.lineBreak.toList
  String.ofList (ending ++ s.acc).reverse

end BlockState

/-- Reads the lines after the header. `inLine` tells that the content of a line has begun. -/
def scanLines (folds : Bool) (chomping : Chomping) (margin : Nat) (inLine : Bool)
    (s : BlockState) : List Glyph → Except Error Scanned
  | [] => .ok ⟨s.text chomping, []⟩
  | g :: rest =>
    if inLine then
      if g.isBreak then
        scanLines folds chomping margin false { s with lineBreak := some g.char } rest
      else scanLines folds chomping margin true { s with acc := g.char :: s.acc } rest
    else if s.isLeft g.column && g.char = ' ' then scanLines folds chomping margin false s rest
    else if s.isLeft g.column && g.char = '\t' then .error .tabInIndentation
    else
      let s := { s with widest := max s.widest g.column }
      if g.isBreak then
        scanLines folds chomping margin false { s with emptyLines := g.char :: s.emptyLines } rest
      else
        let column := s.contentColumn margin
        if g.column = column then
          scanLines folds chomping margin true (s.startLine folds column g) rest
        else .ok ⟨s.text chomping, g :: rest⟩

/-- Reads a block scalar from behind its opening indicator. Content of the enclosing collection
stands at the column `margin` or to its right. -/
def scanBlock (folds : Bool) (margin : Nat) (gs : List Glyph) : Except Error Scanned := do
  let (header, lines) ← takeHeader gs
  scanLines folds header.chomping margin false
    { indent := header.increment.map (margin - 1 + ·) } lines

end CascadingForms.Yaml.Scalar
