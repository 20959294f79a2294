/-!
# Tokens of a YAML text

The indentation of block collections is spelled out by start and end tokens, so that a list of
tokens can be read without looking at columns again.
-/

namespace CascadingForms.Yaml

/-- The octets of a tag: escapes in it may spell what is no text. -/
abbrev Tag := List UInt8

def Tag.ofText (s : String) : Tag := s.toUTF8.toList

inductive Style where
  | plain
  | singleQuoted
  | doubleQuoted
  | literal
  | folded
deriving DecidableEq

inductive Token where
  | version (major minor : Nat)
  | tagDirective (handle : String) (tag : Tag)
  | documentStart
  | documentEnd
  | blockSequenceStart
  | blockMappingStart
  | blockEnd
  | flowSequenceStart
  | flowSequenceEnd
  | flowMappingStart
  | flowMappingEnd
  | blockEntry
  | flowEntry
  | key
  | value
  | reference (name : String)
  | anchor (name : String)
  /-- A tag in two parts. An empty handle makes the suffix the whole tag. -/
  | tag (handle : String) (suffix : Tag)
  | scalar (style : Style) (text : String)

end CascadingForms.Yaml
