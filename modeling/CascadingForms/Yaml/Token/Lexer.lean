import CascadingForms.Yaml.Scalar.Block
import CascadingForms.Yaml.Scalar.Plain
import CascadingForms.Yaml.Scalar.Quoted
import CascadingForms.Yaml.Tag

/-!
# From glyphs to tokens

Two things make the tokens of YAML depend on more than the next character. Block collections start
and end where the indentation changes: the lexer keeps their margins on a stack. And a key is known
to be one only when its colon is met: the lexer remembers, once for every open flow collection,
where the last token stands that may turn out to start a key, and puts the key token in front of it
later.
-/

namespace CascadingForms.Yaml

/-- A token that may turn out to start a key on one line. -/
structure KeyStart where
  /-- Whether it has to: it stands where a block mapping goes on. -/
  required : Bool
  position : Nat
  line : Nat
  column : Nat
  offset : Nat

namespace KeyStart

/-- A key is at most 1024 characters long and stays on its line. -/
def isStale (k : KeyStart) (g : Glyph) : Bool := k.line < g.line || k.offset + 1024 < g.offset

end KeyStart

structure Lexer where
  rest : List Glyph
  tokens : Array Token := #[]
  /-- For each open block collection the column right of its own, innermost first. Content of the
  collection stands there or further to the right. -/
  margins : List Nat := []
  /-- What may start a key in the innermost flow collection, or in the block outside of all. -/
  keyStart : Option KeyStart := none
  /-- The same for each enclosing flow collection, then for the block. -/
  outerStarts : List (Option KeyStart) := []
  keyAllowed : Bool := true

namespace Lexer

def inFlow (s : Lexer) : Bool := !s.outerStarts.isEmpty

def margin (s : Lexer) : Nat := s.margins.headD 0

def emit (s : Lexer) (token : Token) (rest : List Glyph) : Lexer :=
  { s with tokens := s.tokens.push token, rest := rest }

/-- Drops blanks, comments and line breaks in front of the next token. A tab counts as a blank only
where no block collection could start. A new line in a block allows a key again. -/
def skipGap (flow : Bool) (inComment keyAllowed : Bool) : List Glyph → Bool × List Glyph
  | [] => (keyAllowed, [])
  | g :: rest =>
    if g.isBreak then skipGap flow false (keyAllowed || !flow) rest
    else if inComment || g.char = ' ' || (g.char = '\t' && (flow || !keyAllowed)) ||
        (g.char = byteOrderMark && g.column = 0) then
      skipGap flow inComment keyAllowed rest
    else if g.char = '#' then skipGap flow true keyAllowed rest
    else (keyAllowed, g :: rest)

/-- A place for a key start that is given up; one that is required must not be. -/
def giveUp (k : Option KeyStart) : Except Error (Option KeyStart) :=
  match k with
  | none => .ok none
  | some k => if k.required then .error .missingColon else .ok none

def giveUpIfStale (g : Glyph) (k : Option KeyStart) : Except Error (Option KeyStart) :=
  match k with
  | none => .ok none
  | some k => if k.isStale g then giveUp (some k) else .ok (some k)

def dropStale (s : Lexer) (g : Glyph) : Except Error Lexer := do
  let keyStart ← giveUpIfStale g s.keyStart
  let outerStarts ← s.outerStarts.mapM (giveUpIfStale g)
  .ok { s with keyStart, outerStarts }

def dropKeyStart (s : Lexer) : Except Error Lexer := do
  let keyStart ← giveUp s.keyStart
  .ok { s with keyStart }

/-- Remembers the next token, at `g`, as one that may start a key. -/
def saveKeyStart (s : Lexer) (g : Glyph) : Except Error Lexer :=
  if s.keyAllowed then do
    let s ← s.dropKeyStart
    let required := !s.inFlow && s.margin = g.column + 1
    .ok { s with keyStart := some ⟨required, s.tokens.size, g.line, g.column, g.offset⟩ }
  else .ok s

/-- Ends the block collections whose margin lies right of a column. -/
def closeBlocks (s : Lexer) (column : Nat) : Lexer :=
  if s.inFlow then s
  else
    let closed := s.margins.takeWhile (column < ·)
    { s with
      margins := s.margins.drop closed.length
      tokens := s.tokens ++ (closed.map fun _ => Token.blockEnd).toArray }

/-- Opens a block collection at a column, unless one is open there; its start token goes behind the
first `position` tokens. -/
def openBlock (s : Lexer) (column position : Nat) (start : Token) : Lexer :=
  if s.inFlow || column < s.margin then s
  else
    { s with
      margins := (column + 1) :: s.margins
      tokens := s.tokens.insertIdxIfInBounds position start }

/-- Reads a token of its own line: a directive or the mark of a document. -/
def openLine (s : Lexer) : Except Error Lexer := do
  let s ← (s.closeBlocks 0).dropKeyStart
  .ok { s with keyAllowed := false }

def openFlow (s : Lexer) (g : Glyph) (rest : List Glyph) (start : Token) : Except Error Lexer := do
  let s ← s.saveKeyStart g
  .ok { s.emit start rest with
    outerStarts := s.keyStart :: s.outerStarts
    keyStart := none
    keyAllowed := true }

def closeFlow (s : Lexer) (rest : List Glyph) (finish : Token) : Except Error Lexer := do
  let s ← s.dropKeyStart
  let s := match s.outerStarts with
    | [] => s
    | keyStart :: outerStarts => { s with keyStart, outerStarts }
  .ok { s.emit finish rest with keyAllowed := false }

def flowEntry (s : Lexer) (rest : List Glyph) : Except Error Lexer := do
  let s ← s.dropKeyStart
  .ok { s.emit .flowEntry rest with keyAllowed := true }

def blockEntry (s : Lexer) (g : Glyph) (rest : List Glyph) : Except Error Lexer :=
  if !s.inFlow && !s.keyAllowed then .error .misplacedEntry
  else do
    let s ← (s.openBlock g.column s.tokens.size .blockSequenceStart).dropKeyStart
    .ok { s.emit .blockEntry rest with keyAllowed := true }

def key (s : Lexer) (g : Glyph) (rest : List Glyph) : Except Error Lexer :=
  if !s.inFlow && !s.keyAllowed then .error .misplacedKey
  else do
    let s ← (s.openBlock g.column s.tokens.size .blockMappingStart).dropKeyStart
    .ok { s.emit .key rest with keyAllowed := !s.inFlow }

/-- A colon: it makes a key of the token that may start one, or stands for an empty key. -/
def value (s : Lexer) (g : Glyph) (rest : List Glyph) : Except Error Lexer :=
  match s.keyStart with
  | some k =>
    let s := { s with tokens := s.tokens.insertIdxIfInBounds k.position .key }
    let s := s.openBlock k.column k.position .blockMappingStart
    .ok { s.emit .value rest with keyStart := none, keyAllowed := false }
  | none =>
    if !s.inFlow && !s.keyAllowed then .error .misplacedValue
    else
      let s := s.openBlock g.column s.tokens.size .blockMappingStart
      .ok { s.emit .value rest with keyAllowed := !s.inFlow }

/-- The name of an anchor or alias, and what follows it. -/
def takeName (gs : List Glyph) : Except Error (String × List Glyph) :=
  let (name, rest) := Glyph.takeWord gs
  let ends := Glyph.atGap rest ||
    (rest.head?.map fun g => ['?', ':', ',', ']', '\x7d', '%', '@', '\x60'].contains g.char).getD
      false
  if name.isEmpty || !ends then .error .badAnchor else .ok (name, rest)

def anchor (s : Lexer) (g : Glyph) (rest : List Glyph) (token : String → Token) :
    Except Error Lexer := do
  let s ← s.saveKeyStart g
  let (name, rest) ← takeName rest
  .ok { s.emit (token name) rest with keyAllowed := false }

def tag (s : Lexer) (g : Glyph) (rest : List Glyph) : Except Error Lexer := do
  let s ← s.saveKeyStart g
  let (token, rest) ← Tag.take rest
  if Tag.mayEnd s.inFlow rest then .ok { s.emit token rest with keyAllowed := false }
  else .error .badTag

def block (s : Lexer) (rest : List Glyph) (style : Style) : Except Error Lexer := do
  let s ← s.dropKeyStart
  let scanned ← Scalar.scanBlock (style = .folded) s.margin rest
  .ok { s.emit (.scalar style scanned.text) scanned.rest with keyAllowed := true }

def quoted (s : Lexer) (g : Glyph) (rest : List Glyph) (style : Style) : Except Error Lexer := do
  let s ← s.saveKeyStart g
  let scanned ←
    if style = .singleQuoted then Scalar.scanSingle false {} [] rest
    else Scalar.scanDouble .text {} [] rest
  .ok { s.emit (.scalar style scanned.text) scanned.rest with keyAllowed := false }

def plain (s : Lexer) (g : Glyph) (rest : List Glyph) : Except Error Lexer := do
  let s ← s.saveKeyStart g
  let scanned ← Scalar.scanPlain s.inFlow s.margin {} [] (g :: rest)
  .ok { s.emit (.scalar .plain scanned.text) scanned.rest with keyAllowed := scanned.broken }

/-- The characters that a plain scalar may not start with, apart from what follows them. -/
def indicators : List Char :=
  ['-', '?', ':', ',', '[', ']', '\x7b', '\x7d', '#', '&', '*', '!', '|', '>', '\'', '"', '%', '@',
    '\x60']

def startsPlain (flow : Bool) (g : Glyph) (rest : List Glyph) : Bool :=
  if g.char = '-' then !((rest.head?.map Glyph.isBlank).getD false)
  else if g.char = '?' || g.char = ':' then !flow && !Glyph.atGap rest
  else !g.isBlank && !indicators.contains g.char

/-- Reads the token that starts with `g`, where nothing is left to skip. -/
def step (s : Lexer) (g : Glyph) (rest : List Glyph) : Except Error Lexer := do
  let s ← s.dropStale g
  let s := s.closeBlocks (g.column + 1)
  let ready := s.inFlow || Glyph.atGap rest
  if g.column = 0 && g.char = '%' then
    let s ← s.openLine
    let (token, rest) ← Directive.take rest
    .ok (s.emit token rest)
  else if Glyph.atMark '-' (g :: rest) then
    let s ← s.openLine
    .ok (s.emit .documentStart (rest.drop 2))
  else if Glyph.atMark '.' (g :: rest) then
    let s ← s.openLine
    .ok (s.emit .documentEnd (rest.drop 2))
  else if g.char = '[' then s.openFlow g rest .flowSequenceStart
  else if g.char = '\x7b' then s.openFlow g rest .flowMappingStart
  else if g.char = ']' then s.closeFlow rest .flowSequenceEnd
  else if g.char = '\x7d' then s.closeFlow rest .flowMappingEnd
  else if g.char = ',' then s.flowEntry rest
  else if g.char = '-' && Glyph.atGap rest then s.blockEntry g rest
  else if g.char = '?' && ready then s.key g rest
  else if g.char = ':' && ready then s.value g rest
  else if g.char = '*' then s.anchor g rest .reference
  else if g.char = '&' then s.anchor g rest .anchor
  else if g.char = '!' then s.tag g rest
  else if g.char = '|' && !s.inFlow then s.block rest .literal
  else if g.char = '>' && !s.inFlow then s.block rest .folded
  else if g.char = '\'' then s.quoted g rest .singleQuoted
  else if g.char = '"' then s.quoted g rest .doubleQuoted
  else if startsPlain s.inFlow g rest then s.plain g rest
  else .error (.strayIndicator g.char)

def finish (s : Lexer) : Except Error (List Token) := do
  let s ← s.openLine
  .ok s.tokens.toList

/-- Every step takes at least one glyph, so as many steps as there are glyphs suffice. -/
def run : Nat → Lexer → Except Error (List Token)
  | 0, s => s.finish
  | fuel + 1, s =>
    match skipGap s.inFlow false s.keyAllowed s.rest with
    | (_, []) => s.finish
    | (keyAllowed, g :: rest) => do
      let s ← { s with keyAllowed }.step g rest
      run fuel s

end Lexer

def Token.ofText (text : String) : Except Error (List Token) := do
  let glyphs ← Glyph.ofText text
  Lexer.run glyphs.length { rest := glyphs }

end CascadingForms.Yaml
