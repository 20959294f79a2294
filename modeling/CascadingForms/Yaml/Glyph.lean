import CascadingForms.Yaml.Error

/-!
# Characters with their place in a YAML text

The indentation rules of YAML speak of lines and columns, so a text is read as a list of `Glyph`s.
The three spellings of a line break and the next-line character all become a line feed; the line and
paragraph separators are breaks too, and stay as they are.
-/

namespace CascadingForms.Yaml

structure Glyph where
  char : Char
  line : Nat
  column : Nat
  /-- The number of characters before this one. -/
  offset : Nat

def isBreakChar (c : Char) : Bool :=
  c = '\n' || c = '\r' || c = '\u0085' || c = '\u2028' || c = '\u2029'

/-- A mark at the start of a text or line that tells its byte order; it is no content. -/
def byteOrderMark : Char := '\ufeff'

def isAllowed (c : Char) : Bool :=
  c = '\t' || c = '\n' || c = '\r' || (' ' ≤ c && c ≤ '~') || c = '\u0085' ||
    ('\u00a0' ≤ c && c ≤ '\ud7ff') || ('\ue000' ≤ c && c ≤ '\ufffd') || 0x10000 ≤ c.toNat

namespace Glyph

def isBreak (g : Glyph) : Bool := isBreakChar g.char

def isBlank (g : Glyph) : Bool := g.char = ' ' || g.char = '\t'

/-- Gives each character its place, from a given place on. -/
def place (line column offset : Nat) : List Char → List Glyph
  | [] => []
  | [c] => [⟨if c = '\r' || c = '\u0085' then '\n' else c, line, column, offset⟩]
  | c :: d :: rest =>
    if c = '\r' && d = '\n' then
      ⟨'\n', line, column, offset⟩ :: place (line + 1) 0 (offset + 2) rest
    else if isBreakChar c then
      ⟨if c = '\r' || c = '\u0085' then '\n' else c, line, column, offset⟩ ::
        place (line + 1) 0 (offset + 1) (d :: rest)
    else ⟨c, line, column, offset⟩ :: place line (column + 1) (offset + 1) (d :: rest)

/-- The glyphs of a text, without the byte order mark that it may start with. -/
def ofText (text : String) : Except Error (List Glyph) :=
  let chars := match text.toList with
    | [] => []
    | c :: rest => if c = byteOrderMark then rest else c :: rest
  match chars.find? fun c => !isAllowed c with
  | some c => .error (.forbiddenCharacter c)
  | none => .ok (place 0 0 0 chars)

/-- Whether a text ends here or goes on with white space. -/
def atGap : List Glyph → Bool
  | [] => true
  | g :: _ => g.isBlank || g.isBreak

def chars (gs : List Glyph) : List Char := gs.map Glyph.char

/-- Whether a line starts here with a mark, three characters long, and white space after it. -/
def atMark (mark : Char) : List Glyph → Bool
  | a :: b :: c :: rest =>
    a.column = 0 && a.char = mark && b.char = mark && c.char = mark && atGap rest
  | _ => false

/-- Whether a line starts here that opens or closes a document. -/
def atDocumentMark (gs : List Glyph) : Bool := atMark '-' gs || atMark '.' gs

/-- The characters of anchors and tag handles: ASCII letters and digits, `_` and `-`. -/
def isWordChar (c : Char) : Bool := c.isAlphanum || c = '_' || c = '-'

/-- The word at the front, maybe empty, and what follows it. -/
def takeWord (gs : List Glyph) : String × List Glyph :=
  (String.ofList (chars (gs.takeWhile (isWordChar ·.char))), gs.dropWhile (isWordChar ·.char))

/-- What follows the rest of a line, its break excluded. -/
def dropLine (gs : List Glyph) : List Glyph := gs.dropWhile (!·.isBreak)

/-- The next line, when nothing but blanks and a comment is left on this one. -/
def endLine? (gs : List Glyph) : Option (List Glyph) :=
  match gs.dropWhile isBlank with
  | [] => some []
  | g :: rest =>
    if g.isBreak then some rest
    else if g.char = '#' then some ((dropLine rest).drop 1)
    else none

end Glyph

end CascadingForms.Yaml
