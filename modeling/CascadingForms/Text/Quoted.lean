import CascadingForms.Text.Hex
import CascadingForms.Text.Printable
import CascadingForms.Text.Split

/-!
# Quoted texts

Log lines and error texts show a key in double quotes, with the quote, the backslash and the
characters that cannot be shown written as escapes. File names escape the single quote too.
-/

namespace CascadingForms.Text

/-- Which quote marks are written with a backslash. -/
structure Marks where
  single : Bool
  double : Bool

/-- The marks escaped in keys and labels. -/
def Marks.ofText : Marks := ⟨false, true⟩

/-- The marks escaped in file names. -/
def Marks.ofPath : Marks := ⟨true, true⟩

def quoteChar (marks : Marks) (c : Char) : List Char :=
  if c = '\x00' then ['\\', '0']
  else if c = '\t' then ['\\', 't']
  else if c = '\r' then ['\\', 'r']
  else if c = '\n' then ['\\', 'n']
  else if c = '\\' then ['\\', '\\']
  else if c = '"' && marks.double then ['\\', '"']
  else if c = '\'' && marks.single then ['\\', '\'']
  else if isPrintable c then [c]
  else ['\\', 'u', '{'] ++ hexDigits c.toNat ++ ['}']

def quoteWith (marks : Marks) (s : String) : String :=
  String.ofList (['"'] ++ s.toList.flatMap (quoteChar marks) ++ ['"'])

def quote (s : String) : String := quoteWith .ofText s

def quotePath (s : String) : String := quoteWith .ofPath s

/-- The members in brackets, separated by a comma and a space. -/
def quoteList (members : List String) : String :=
  "[" ++ join ", " (members.map quote) ++ "]"

end CascadingForms.Text
