import CascadingForms.Text.Hex
import CascadingForms.Yaml.Glyph
import CascadingForms.Yaml.Token

/-!
# Tags and directives

A tag is written with a handle and a suffix, or in full between angle brackets. Its octets may be
escaped by a percent sign and two digits; escaped octets have to come in the groups of an encoded
character. Directives name the version of the language and declare handles.
-/

namespace CascadingForms.Yaml

namespace Tag

/-- The characters of a tag; `inBrackets` adds those that would end one in a flow collection. -/
def isUriChar (inBrackets : Bool) (c : Char) : Bool :=
  Glyph.isWordChar c || [';', '/', '?', ':', '@', '&', '=', '+', '$', '.', '%', '!', '~', '*', '\'',
    '(', ')'].contains c || (inBrackets && [',', '[', ']'].contains c)

/-- How many octets follow the first one of an encoded character. -/
def followers? (octet : Nat) : Option Nat :=
  if octet < 0x80 then some 0
  else if 0xc0 ≤ octet && octet < 0xe0 then some 1
  else if 0xe0 ≤ octet && octet < 0xf0 then some 2
  else if 0xf0 ≤ octet && octet < 0xf8 then some 3
  else none

/-- Decodes the escapes, where `pending` octets of a character are still due. -/
def octets? (pending : Nat) : List Char → Option Tag
  | [] => if pending = 0 then some [] else none
  | '%' :: a :: b :: rest => do
    let octet := 16 * (← Text.hexValue? a) + (← Text.hexValue? b)
    let pending ← if pending = 0 then followers? octet
      else if 0x80 ≤ octet && octet < 0xc0 then some (pending - 1) else none
    return octet.toUInt8 :: (← octets? pending rest)
  | c :: rest =>
    if pending = 0 && c ≠ '%' then do return c.toNat.toUInt8 :: (← octets? 0 rest) else none

def takeUri (inBrackets : Bool) (gs : List Glyph) : Except Error (Tag × List Glyph) :=
  match octets? 0 (Glyph.chars (gs.takeWhile (isUriChar inBrackets ·.char))) with
  | some tag => .ok (tag, gs.dropWhile (isUriChar inBrackets ·.char))
  | none => .error .badTag

/-- A tag text of at least one octet. -/
def takeUri1 (inBrackets : Bool) (gs : List Glyph) : Except Error (Tag × List Glyph) := do
  let (tag, rest) ← takeUri inBrackets gs
  if tag.isEmpty then .error .badTag else .ok (tag, rest)

/-- Reads a tag from behind its exclamation mark. -/
def take (gs : List Glyph) : Except Error (Token × List Glyph) :=
  match gs with
  | [] => .ok (.tag "" (ofText "!"), [])
  | g :: rest =>
    if g.char = '<' then do
      let (tag, rest) ← takeUri1 true rest
      match rest with
      | [] => .error .badTag
      | g :: rest => if g.char = '>' then .ok (.tag "" tag, rest) else .error .badTag
    else
      let (word, afterWord) := Glyph.takeWord gs
      match afterWord with
      | h :: afterMark =>
        if h.char = '!' then do
          let (tag, rest) ← takeUri1 false afterMark
          .ok (.tag ("!" ++ word ++ "!") tag, rest)
        else do
          let (tag, rest) ← takeUri false gs
          .ok (if tag.isEmpty then .tag "" (ofText "!") else .tag "!" tag, rest)
      | [] => .ok (if word.isEmpty then .tag "" (ofText "!") else .tag "!" (ofText word), [])

def mayEnd (inFlow : Bool) : List Glyph → Bool
  | [] => true
  | g :: _ => g.isBlank || g.isBreak || (inFlow && g.char = ',')

end Tag

namespace Directive

def takeNumber (gs : List Glyph) : Except Error (Nat × List Glyph) :=
  let digits := Glyph.chars (gs.takeWhile (·.char.isDigit))
  if digits.isEmpty || 9 < digits.length then .error .badDirective
  else
    .ok (digits.foldl (fun n c => 10 * n + (c.toNat - '0'.toNat)) 0, gs.dropWhile (·.char.isDigit))

def takeVersion (gs : List Glyph) : Except Error (Token × List Glyph) := do
  let (major, rest) ← takeNumber (gs.dropWhile Glyph.isBlank)
  match rest with
  | [] => .error .badDirective
  | g :: rest =>
    if g.char = '.' then do
      let (minor, rest) ← takeNumber rest
      .ok (.version major minor, rest)
    else .error .badDirective

/-- A handle is an exclamation mark, alone or with a word and a second one behind it. -/
def takeHandle (gs : List Glyph) : Except Error (String × List Glyph) :=
  match gs with
  | [] => .error .badDirective
  | g :: rest =>
    if g.char = '!' then
      let (word, afterWord) := Glyph.takeWord rest
      match afterWord with
      | [] => if word.isEmpty then .ok ("!", []) else .error .badDirective
      | h :: afterMark =>
        if h.char = '!' then .ok ("!" ++ word ++ "!", afterMark)
        else if word.isEmpty then .ok ("!", afterWord)
        else .error .badDirective
    else .error .badDirective

def takeTag (gs : List Glyph) : Except Error (Token × List Glyph) := do
  let (handle, rest) ← takeHandle (gs.dropWhile Glyph.isBlank)
  if (rest.head?.map Glyph.isBlank).getD false then do
    let (tag, rest) ← Tag.takeUri1 true (rest.dropWhile Glyph.isBlank)
    if Glyph.atGap rest then .ok (.tagDirective handle tag, rest) else .error .badDirective
  else .error .badDirective

/-- Reads a directive from behind its percent sign, up to the end of its line. -/
def take (gs : List Glyph) : Except Error (Token × List Glyph) := do
  let (name, rest) := Glyph.takeWord gs
  if name.isEmpty || !Glyph.atGap rest then .error .badDirective
  else
    let (token, rest) ←
      if name = "YAML" then takeVersion rest
      else if name = "TAG" then takeTag rest
      else .error (.unknownDirective name)
    match Glyph.endLine? rest with
    | some rest => .ok (token, rest)
    | none => .error .badDirective

end Directive

end CascadingForms.Yaml
