import CascadingForms.Text.Hex
import CascadingForms.Yaml.Scalar.Gap

/-!
# Scalars in quotes

Between single quotes a quote is written twice and nothing else is special. Between double quotes a
backslash starts an escape; before a line break it joins the lines without a space.
-/

namespace CascadingForms.Yaml.Scalar

/-- The character that a one-letter escape stands for. -/
def unescape? (c : Char) : Option Char :=
  match c with
  | '0' => some '\x00'
  | 'a' => some '\x07'
  | 'b' => some '\x08'
  | 't' => some '\t'
  | '\t' => some '\t'
  | 'n' => some '\n'
  | 'v' => some '\x0b'
  | 'f' => some '\x0c'
  | 'r' => some '\r'
  | 'e' => some '\x1b'
  | ' ' => some ' '
  | '"' => some '"'
  | '/' => some '/'
  | '\\' => some '\\'
  | 'N' => some '\u0085'
  | '_' => some '\u00a0'
  | 'L' => some '\u2028'
  | 'P' => some '\u2029'
  | _ => none

/-- How many hexadecimal digits follow the letter of an escape. -/
def escapeDigits? (c : Char) : Option Nat :=
  match c with
  | 'x' => some 2
  | 'u' => some 4
  | 'U' => some 8
  | _ => none

def charOf? (n : Nat) : Option Char :=
  if h : n.isValidChar then some (Char.ofNatAux n h) else none

/-- Reads on between single quotes. `pending` tells that the last character was a quote, which ends
the scalar unless another one follows. -/
def scanSingle (pending : Bool) (gap : Gap) (acc : List Char) :
    List Glyph → Except Error Scanned
  | [] => if pending then .ok ⟨String.ofList acc.reverse, []⟩ else .error .unclosedQuote
  | g :: rest =>
    if pending then
      if g.char = '\'' then scanSingle false {} ('\'' :: acc) rest
      else .ok ⟨String.ofList acc.reverse, g :: rest⟩
    else if g.isBlank then scanSingle false (gap.addBlank g.char) acc rest
    else if g.isBreak then scanSingle false (gap.addBreak g.char) acc rest
    else if Glyph.atDocumentMark (g :: rest) then .error .documentMarkInQuote
    else if g.char = '\'' then scanSingle true {} (gap.fold ++ acc) rest
    else scanSingle false {} (g.char :: (gap.fold ++ acc)) rest

/-- Where a double-quoted scalar is being read. -/
inductive DoubleMode where
  | text
  | escape
  | digits (left : Nat) (value : Nat)

/-- Reads on between double quotes. -/
def scanDouble (mode : DoubleMode) (gap : Gap) (acc : List Char) :
    List Glyph → Except Error Scanned
  | [] => .error .unclosedQuote
  | g :: rest =>
    match mode with
    | .text =>
      if g.isBlank then scanDouble .text (gap.addBlank g.char) acc rest
      else if g.isBreak then scanDouble .text (gap.addBreak g.char) acc rest
      else if Glyph.atDocumentMark (g :: rest) then .error .documentMarkInQuote
      else if g.char = '"' then .ok ⟨String.ofList (gap.fold ++ acc).reverse, rest⟩
      else if g.char = '\\' then scanDouble .escape {} (gap.fold ++ acc) rest
      else scanDouble .text {} (g.char :: (gap.fold ++ acc)) rest
    | .escape =>
      if g.isBreak then scanDouble .text { broken := true } acc rest
      else
        match escapeDigits? g.char with
        | some count => scanDouble (.digits count 0) {} acc rest
        | none =>
          match unescape? g.char with
          | some c => scanDouble .text {} (c :: acc) rest
          | none => .error .badEscape
    | .digits left value =>
      match Text.hexValue? g.char with
      | none => .error .badEscape
      | some digit =>
        if left ≤ 1 then
          match charOf? (16 * value + digit) with
          | some c => scanDouble .text {} (c :: acc) rest
          | none => .error .badEscape
        else scanDouble (.digits (left - 1) (16 * value + digit)) {} acc rest

end CascadingForms.Yaml.Scalar
