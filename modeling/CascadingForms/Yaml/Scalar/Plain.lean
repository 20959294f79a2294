import CascadingForms.Yaml.Scalar.Gap

/-!
# Scalars without quotes

A plain scalar ends at a colon before white space, at a comment, at a document mark and, in a block
collection, at the first line that is not indented enough. In a flow collection it also ends at a
comma and at a bracket or brace.
-/

namespace CascadingForms.Yaml.Scalar

def isFlowEnd (c : Char) : Bool :=
  c = ',' || c = '[' || c = ']' || c = '\x7b' || c = '\x7d'

/-- A plain scalar, and whether it reached over a line break before it ended. -/
structure Plain extends Scanned where
  broken : Bool

/-- Whether a plain scalar ends at a character that follows white space. -/
def endsLine (inFlow : Bool) (margin : Nat) (gs : List Glyph) : Bool :=
  match gs with
  | [] => true
  | g :: _ => (!inFlow && g.column < margin) || Glyph.atDocumentMark gs || g.char = '#'

/-- Whether a colon here cannot be told from one that would end a key. -/
def ambiguousColon (g : Glyph) : List Glyph → Bool
  | [] => false
  | next :: _ => g.char = ':' && (isFlowEnd next.char || next.char = '?')

/-- Reads on after the characters in `acc`, which are in reverse. Content of the enclosing block
collection stands at the column `margin` or to its right. -/
def scanPlain (inFlow : Bool) (margin : Nat) (gap : Gap) (acc : List Char) :
    List Glyph → Except Error Plain
  | [] => .ok ⟨⟨String.ofList acc.reverse, []⟩, gap.broken⟩
  | g :: rest =>
    if g.isBlank then
      if gap.broken && g.column < margin && g.char = '\t' then .error .tabInIndentation
      else scanPlain inFlow margin (gap.addBlank g.char) acc rest
    else if g.isBreak then scanPlain inFlow margin (gap.addBreak g.char) acc rest
    else if !gap.isEmpty && endsLine inFlow margin (g :: rest) then
      .ok ⟨⟨String.ofList acc.reverse, g :: rest⟩, gap.broken⟩
    else if inFlow && ambiguousColon g rest then .error .ambiguousColon
    else if (g.char = ':' && Glyph.atGap rest) || (inFlow && isFlowEnd g.char) then
      .ok ⟨⟨String.ofList acc.reverse, g :: rest⟩, gap.broken⟩
    else scanPlain inFlow margin {} (g.char :: (gap.fold ++ acc)) rest

end CascadingForms.Yaml.Scalar
