import CascadingForms.Json.Value
import CascadingForms.Yaml.Resolution

/-!
# Writing YAML

Objects become block mappings, indented by two columns for each level, and arrays block sequences
that stand at the column of their mapping. A text goes without quotes where it can, in quotes where
it would be misread, in double quotes where it holds characters that need an escape, and over
several lines where it has line feeds.
-/

namespace CascadingForms.Yaml.Printer

def spaces (n : Nat) : List Char := List.replicate n ' '

def isPrintable (c : Char) : Bool :=
  c = '\n' || (' ' ≤ c && c ≤ '~') || ('\u00a0' ≤ c && c ≤ '\ufffd' && c ≠ byteOrderMark)

/-- Whether a character is a blank or a break, or the end of the text. -/
def isGap : Option Char → Bool
  | none => true
  | some c => c = ' ' || c = '\t' || isBreakChar c || c = '\x00'

/-- Whether a pair of neighbours occurs in a list. -/
def hasPair (p q : Char → Bool) : List Char → Bool
  | c :: d :: rest => (p c && q d) || hasPair p q (d :: rest)
  | _ => false

/-- Whether a break comes behind a space; then the text can only stand in double quotes. -/
def breaksSpace (cs : List Char) : Bool := hasPair (· = ' ') isBreakChar cs

def needsEscapes (cs : List Char) : Bool := breaksSpace cs || !cs.all isPrintable

/-- Whether a character that starts a text would be taken for an indicator there. -/
def startsIndicator : List Char → Bool
  | [] => false
  | c :: rest =>
    ['#', ',', '[', ']', '\x7b', '\x7d', '&', '*', '!', '|', '>', '\'', '"', '%', '@',
      '\x60'].contains c ||
      (['?', ':', '-'].contains c && isGap rest.head?)

/-- Whether a colon would end a key, or a number sign start a comment, behind a first character. -/
def hasIndicator : List Char → Bool
  | [] => false
  | [_] => false
  | c :: d :: rest =>
    (d = ':' && isGap rest.head?) || (d = '#' && isGap (some c)) || hasIndicator (d :: rest)

def isMarkLike : List Char → Bool
  | '-' :: '-' :: '-' :: _ => true
  | '.' :: '.' :: '.' :: _ => true
  | _ => false

def mayBePlain (cs : List Char) : Bool :=
  cs.head? ≠ some ' ' && cs.getLast? ≠ some ' ' && !cs.any isBreakChar && !needsEscapes cs &&
    !isMarkLike cs && !startsIndicator cs && !hasIndicator cs

def mayBeSingle (cs : List Char) : Bool := !hasPair isBreakChar (· = ' ') cs && !needsEscapes cs

def mayBeLiteral (cs : List Char) : Bool := cs.getLast? ≠ some ' ' && !needsEscapes cs

/-- A text in single quotes; a line that goes on after a break is indented. -/
def singleQuoted (indent : Nat) (cs : List Char) : List Char :=
  ['\''] ++ go false cs ++ ['\'']
where
  go (broken : Bool) : List Char → List Char
    | [] => if broken then spaces indent else []
    | c :: rest =>
      if isBreakChar c then c :: go true rest
      else
        (if broken then spaces indent else []) ++ (if c = '\'' then ['\'', '\''] else [c]) ++
          go false rest

def escapeChar (c : Char) : List Char :=
  if c = '\x00' then ['\\', '0']
  else if c = '\x07' then ['\\', 'a']
  else if c = '\x08' then ['\\', 'b']
  else if c = '\t' then ['\\', 't']
  else if c = '\n' then ['\\', 'n']
  else if c = '\x0b' then ['\\', 'v']
  else if c = '\x0c' then ['\\', 'f']
  else if c = '\r' then ['\\', 'r']
  else if c = '\x1b' then ['\\', 'e']
  else if c = '"' then ['\\', '"']
  else if c = '\\' then ['\\', '\\']
  else if c = '\u0085' then ['\\', 'N']
  else if c = '\u2028' then ['\\', 'L']
  else if c = '\u2029' then ['\\', 'P']
  else if isPrintable c then [c]
  else if c.toNat ≤ 0xff then ['\\', 'x'] ++ Text.hexDigitsUpper 2 c.toNat
  else if c.toNat ≤ 0xffff then ['\\', 'u'] ++ Text.hexDigitsUpper 4 c.toNat
  else ['\\', 'U'] ++ Text.hexDigitsUpper 8 c.toNat

def doubleQuoted (cs : List Char) : List Char := ['"'] ++ cs.flatMap escapeChar ++ ['"']

/-- What the header says of the line breaks at the end of a literal text. -/
def chompingMark (cs : List Char) : List Char :=
  match cs.reverse with
  | [] => ['-']
  | [c] => if isBreakChar c then ['+'] else ['-']
  | c :: d :: _ => if !isBreakChar c then ['-'] else if isBreakChar d then ['+'] else []

/-- A text over several lines, each of them indented. -/
def literal (indent : Nat) (cs : List Char) : List Char :=
  let hint := match cs with
    | [] => []
    | c :: _ => if c = ' ' || isBreakChar c then ['2'] else []
  ['|'] ++ hint ++ chompingMark cs ++ ['\n'] ++ go true cs
where
  go (broken : Bool) : List Char → List Char
    | [] => []
    | c :: rest =>
      if isBreakChar c then c :: go true rest
      else (if broken then spaces indent else []) ++ c :: go false rest

/-- A text in its written form, where further lines of it are indented. -/
def scalar (indent : Nat) (s : String) : List Char :=
  let cs := s.toList
  if cs.contains '\n' then
    if mayBeLiteral cs then literal indent cs else doubleQuoted cs
  else if !Resolution.isAmbiguous s && mayBePlain cs then cs
  else if mayBeSingle cs then singleQuoted indent cs
  else doubleQuoted cs

/-- Ends a line, unless a literal text has ended it. -/
def endLine (cs : List Char) : List Char :=
  match cs.getLast? with
  | some c => if isBreakChar c then cs else cs ++ ['\n']
  | none => ['\n']

mutual

/-- The value of a member, from behind the colon to the end of its last line. -/
def member (indent : Nat) : Json → List Char
  | .null => " null\n".toList
  | .bool true => " true\n".toList
  | .bool false => " false\n".toList
  | .number s => ' ' :: s.toList ++ ['\n']
  | .string s => ' ' :: endLine (scalar (indent + 2) s)
  | .brokenString => " null\n".toList
  | .array [] => " []\n".toList
  | .array (item :: rest) => '\n' :: items indent (item :: rest)
  | .object [] => [' ', '\x7b', '\x7d', '\n']
  | .object (m :: rest) => '\n' :: members (spaces (indent + 2)) (indent + 2) (m :: rest)

/-- The members of a mapping. The first one stands behind `start`, the others are indented. -/
def members (start : List Char) (indent : Nat) : List (String × Json) → List Char
  | [] => []
  | (name, value) :: rest =>
    start ++ name.toList ++ [':'] ++ member indent value ++ members (spaces indent) indent rest

def items (indent : Nat) : List Json → List Char
  | [] => []
  | .object (m :: rest) :: others =>
    members (spaces indent ++ ['-', ' ']) (indent + 2) (m :: rest) ++ items indent others
  | item :: others => spaces indent ++ ['-'] ++ member indent item ++ items indent others

end

def document : Json → String
  | .object ms => String.ofList (members [] 0 ms)
  | j => String.ofList ((member 0 j).drop 1)

end CascadingForms.Yaml.Printer
