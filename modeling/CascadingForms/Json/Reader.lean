import CascadingForms.Json.Value
import CascadingForms.Text.Hex

/-!
# Reading JSON

`Json.read?` reads one value that takes up the whole text, spaces around it aside. Control
characters in strings, leading zeros, trailing commas and anything after the value are refused.
-/

namespace CascadingForms.Json

def isSpace (c : Char) : Bool := c = ' ' || c = '\n' || c = '\r' || c = '\t'

/-- Where a string is being read: between characters, after a backslash, or in the digits of a
`\u` escape. -/
inductive StringMode where
  | plain
  | escape
  | digits (left : Nat) (value : Nat)

/-- What a string has shown so far, its characters in reverse. `high` is the first half of a
surrogate pair, read last; `broken` tells that some half had no partner. -/
structure StringState where
  chars : List Char := []
  high : Option Nat := none
  broken : Bool := false

namespace StringState

def push (s : StringState) (c : Char) : StringState :=
  { chars := c :: s.chars, high := none, broken := s.broken || s.high.isSome }

/-- Adds a code unit that was written as a `\u` escape. -/
def pushUnit (s : StringState) (unit : Nat) : StringState :=
  if 0xd800 ≤ unit ∧ unit < 0xdc00 then
    { s with high := some unit, broken := s.broken || s.high.isSome }
  else if 0xdc00 ≤ unit ∧ unit < 0xe000 then
    match s.high with
    | some high =>
      { s with
        chars := Char.ofNat (0x10000 + (high - 0xd800) * 0x400 + (unit - 0xdc00)) :: s.chars
        high := none }
    | none => { s with broken := true }
  else s.push (Char.ofNat unit)

def value (s : StringState) : Json :=
  if s.broken || s.high.isSome then .brokenString else .string (String.ofList s.chars.reverse)

end StringState

/-- The character that a one-letter escape stands for. -/
def unescape? (c : Char) : Option Char :=
  match c with
  | '"' => some '"'
  | '\\' => some '\\'
  | '/' => some '/'
  | 'b' => some '\x08'
  | 'f' => some '\x0c'
  | 'n' => some '\n'
  | 'r' => some '\r'
  | 't' => some '\t'
  | _ => none

/-- Reads the rest of a string up to its closing quote. -/
def readString : StringMode → StringState → List Char → Option (Json × List Char)
  | _, _, [] => none
  | .plain, s, c :: rest =>
    if c = '"' then some (s.value, rest)
    else if c = '\\' then readString .escape s rest
    else if c.toNat < 0x20 then none
    else readString .plain (s.push c) rest
  | .escape, s, c :: rest =>
    if c = 'u' then readString (.digits 4 0) s rest
    else
      match unescape? c with
      | some char => readString .plain (s.push char) rest
      | none => none
  | .digits left value, s, c :: rest =>
    match Text.hexValue? c with
    | none => none
    | some digit =>
      if left ≤ 1 then readString .plain (s.pushUnit (16 * value + digit)) rest
      else readString (.digits (left - 1) (16 * value + digit)) s rest

/-- The digits at the front, at least one. -/
def readDigits (cs : List Char) : Option (List Char × List Char) :=
  match cs.takeWhile Char.isDigit with
  | [] => none
  | digits => some (digits, cs.dropWhile Char.isDigit)

/-- The whole part of a number: a single zero, or digits that do not begin with one. -/
def readWhole (cs : List Char) : Option (List Char × List Char) := do
  let (digits, rest) ← readDigits cs
  if digits.length > 1 && digits.head? = some '0' then none else some (digits, rest)

def readFraction : List Char → Option (List Char × List Char)
  | '.' :: rest => do
    let (digits, rest) ← readDigits rest
    some ('.' :: digits, rest)
  | cs => some ([], cs)

def readExponent : List Char → Option (List Char × List Char)
  | c :: rest =>
    if c = 'e' || c = 'E' then
      match rest with
      | [] => none
      | sign :: digits =>
        if sign = '+' || sign = '-' then do
          let (digits, rest) ← readDigits digits
          some (c :: sign :: digits, rest)
        else do
          let (digits, rest) ← readDigits (sign :: digits)
          some (c :: digits, rest)
    else some ([], c :: rest)
  | [] => some ([], [])

def readNumber (cs : List Char) : Option (Json × List Char) := do
  let (sign, rest) := match cs with
    | '-' :: rest => (['-'], rest)
    | _ => ([], cs)
  let (whole, rest) ← readWhole rest
  let (fraction, rest) ← readFraction rest
  let (exponent, rest) ← readExponent rest
  some (.number (String.ofList (sign ++ whole ++ fraction ++ exponent)), rest)

def readWord : List Char → List Char → Option (List Char)
  | [], rest => some rest
  | _ :: _, [] => none
  | c :: word, d :: rest => if c = d then readWord word rest else none

/-- An object whose members are given in reverse. A name that is no text spoils the whole object. -/
def closeObject (members : List (Json × Json)) : Json :=
  match members.reverse.mapM fun member => member.1.string?.map (·, member.2) with
  | some named => .object named
  | none => .brokenString

mutual

/-- Reads a value; `fuel` bounds the nesting and the number of members. -/
def readValue : Nat → List Char → Option (Json × List Char)
  | 0, _ => none
  | fuel + 1, cs =>
    match cs.dropWhile isSpace with
    | [] => none
    | c :: rest =>
      if c = '"' then readString .plain {} rest
      else if c = '[' then
        match rest.dropWhile isSpace with
        | ']' :: rest => some (.array [], rest)
        | rest => readItems fuel [] rest
      else if c = '{' then
        match rest.dropWhile isSpace with
        | '}' :: rest => some (.object [], rest)
        | rest => readMembers fuel [] rest
      else if c = 't' then (readWord ['r', 'u', 'e'] rest).map (.bool true, ·)
      else if c = 'f' then (readWord ['a', 'l', 's', 'e'] rest).map (.bool false, ·)
      else if c = 'n' then (readWord ['u', 'l', 'l'] rest).map (.null, ·)
      else readNumber (c :: rest)

def readItems : Nat → List Json → List Char → Option (Json × List Char)
  | 0, _, _ => none
  | fuel + 1, items, cs =>
    match readValue fuel cs with
    | none => none
    | some (item, rest) =>
      match rest.dropWhile isSpace with
      | ',' :: rest => readItems fuel (item :: items) rest
      | ']' :: rest => some (.array (item :: items).reverse, rest)
      | _ => none

def readMembers : Nat → List (Json × Json) → List Char → Option (Json × List Char)
  | 0, _, _ => none
  | fuel + 1, members, cs =>
    match cs.dropWhile isSpace with
    | '"' :: rest =>
      match readString .plain {} rest with
      | none => none
      | some (name, rest) =>
        match rest.dropWhile isSpace with
        | ':' :: rest =>
          match readValue fuel rest with
          | none => none
          | some (value, rest) =>
            match rest.dropWhile isSpace with
            | ',' :: rest => readMembers fuel ((name, value) :: members) rest
            | '}' :: rest => some (closeObject ((name, value) :: members), rest)
            | _ => none
        | _ => none
    | _ => none

end

/-- The value that a text spells, if it spells exactly one. -/
def read? (s : String) : Option Json :=
  match readValue (2 * s.toList.length + 2) s.toList with
  | some (value, rest) => if rest.all isSpace then some value else none
  | none => none

end CascadingForms.Json
