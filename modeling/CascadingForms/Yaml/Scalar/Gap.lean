import CascadingForms.Yaml.Glyph

/-!
# White space inside a scalar

Blanks within a line stay as they are. Once a line is broken, blanks count for nothing: a single
break folds into a space, and of several breaks the first is dropped.
-/

namespace CascadingForms.Yaml.Scalar

/-- The white space met since the last visible character, the lists in reverse. -/
structure Gap where
  blanks : List Char := []
  /-- Whether the line has been broken. -/
  broken : Bool := false
  /-- The first break, unless it was escaped. -/
  first : Option Char := none
  more : List Char := []

namespace Gap

def isEmpty (gap : Gap) : Bool := gap.blanks.isEmpty && !gap.broken

def addBlank (gap : Gap) (c : Char) : Gap :=
  if gap.broken then gap else { gap with blanks := c :: gap.blanks }

def addBreak (gap : Gap) (c : Char) : Gap :=
  if gap.broken then { gap with more := c :: gap.more }
  else { blanks := [], broken := true, first := some c }

/-- The characters that a gap stands for, in reverse. -/
def fold (gap : Gap) : List Char :=
  if gap.broken then
    match gap.first with
    | none => gap.more
    | some c => if c ≠ '\n' then gap.more ++ [c] else if gap.more.isEmpty then [' '] else gap.more
  else gap.blanks

end Gap

/-- A scalar read up to its end, and what follows it. -/
structure Scanned where
  text : String
  rest : List Glyph

end CascadingForms.Yaml.Scalar
