import CascadingForms.Json.Value
import CascadingForms.Text.Hex
import CascadingForms.Text.Split

/-!
# Writing JSON

`compact` writes a value on one line without spaces. `pretty` gives every member a line of its own,
indented by two columns a level, with a space after the colon; empty arrays and objects stay closed.
Strings escape the quote, the backslash and the control characters below the space, and nothing
else.
-/

namespace CascadingForms.Json

def escapeChar (c : Char) : List Char :=
  if c = '"' then ['\\', '"']
  else if c = '\\' then ['\\', '\\']
  else if c = '\x08' then ['\\', 'b']
  else if c = '\x0c' then ['\\', 'f']
  else if c = '\n' then ['\\', 'n']
  else if c = '\r' then ['\\', 'r']
  else if c = '\t' then ['\\', 't']
  else if c.toNat < 0x10 then ['\\', 'u', '0', '0', '0'] ++ Text.hexDigits c.toNat
  else if c.toNat < 0x20 then ['\\', 'u', '0', '0'] ++ Text.hexDigits c.toNat
  else [c]

def literal (s : String) : String :=
  String.ofList (['"'] ++ s.toList.flatMap escapeChar ++ ['"'])

mutual

def compact : Json → String
  | .null => "null"
  | .bool true => "true"
  | .bool false => "false"
  | .number s => s
  | .string s => literal s
  | .brokenString => "null"
  | .array items => "[" ++ Text.join "," (compactItems items) ++ "]"
  | .object members => "\x7b" ++ Text.join "," (compactMembers members) ++ "\x7d"

def compactItems : List Json → List String
  | [] => []
  | item :: items => item.compact :: compactItems items

def compactMembers : List (String × Json) → List String
  | [] => []
  | (name, value) :: members => (literal name ++ ":" ++ value.compact) :: compactMembers members

end

/-- A line break and the indentation of a nesting depth. -/
def newline (depth : Nat) : String := "\n" ++ String.ofList (List.replicate (2 * depth) ' ')

mutual

/-- A value inside `depth` open arrays and objects. -/
def prettyAt (depth : Nat) : Json → String
  | .null => "null"
  | .bool true => "true"
  | .bool false => "false"
  | .number s => s
  | .string s => literal s
  | .brokenString => "null"
  | .array [] => "[]"
  | .array (item :: items) =>
    let indent := newline (depth + 1)
    "[" ++ indent ++ Text.join ("," ++ indent) (prettyItems (depth + 1) (item :: items)) ++
      newline depth ++ "]"
  | .object [] => "\x7b\x7d"
  | .object (member :: members) =>
    let indent := newline (depth + 1)
    "\x7b" ++ indent ++ Text.join ("," ++ indent) (prettyMembers (depth + 1) (member :: members)) ++
      newline depth ++ "\x7d"

def prettyItems (depth : Nat) : List Json → List String
  | [] => []
  | item :: items => item.prettyAt depth :: prettyItems depth items

def prettyMembers (depth : Nat) : List (String × Json) → List String
  | [] => []
  | (name, value) :: members =>
    (literal name ++ ": " ++ value.prettyAt depth) :: prettyMembers depth members

end

def pretty (j : Json) : String := j.prettyAt 0

end CascadingForms.Json
