/-!
# Why a text is no YAML document of the wanted shape

Errors carry their cause and no position: whoever writes a menu sees the cause beside the name of
the text.
-/

namespace CascadingForms.Yaml

inductive Error where
  /-- A character outside the set that a YAML text may hold. -/
  | forbiddenCharacter (c : Char)
  | missingColon
  | strayIndicator (c : Char)
  | misplacedEntry
  | misplacedKey
  | misplacedValue
  | ambiguousColon
  | tabInIndentation
  | unknownDirective (name : String)
  | badDirective
  | badVersion
  | repeatedDirective
  | badAnchor
  | badTag
  | unknownTagHandle (handle : String)
  | unknownAlias (name : String)
  | unclosedQuote
  | documentMarkInQuote
  | badEscape
  | badBlockHeader
  | missingNode
  | unclosedCollection
  | missingDocumentStart
  | noDocument
  | severalDocuments
  | tooDeep
  | tooManyAliases
  | wrongShape (wanted : String)
  | unknownField (name : String)
  | repeatedField (name : String)
  | missingField (name : String)
  | unknownVariant (name : String)

namespace Error

def message : Error → String
  | forbiddenCharacter _ => "control characters are not allowed"
  | missingColon => "could not find expected ':'"
  | strayIndicator c => "found character '" ++ String.singleton c ++ "' that cannot start any token"
  | misplacedEntry => "block sequence entries are not allowed in this context"
  | misplacedKey => "mapping keys are not allowed in this context"
  | misplacedValue => "mapping values are not allowed in this context"
  | ambiguousColon => "found unexpected ':'"
  | tabInIndentation => "found a tab character that violates indentation"
  | unknownDirective name => "found unknown directive name " ++ name
  | badDirective => "a directive is malformed"
  | badVersion => "found incompatible YAML document"
  | repeatedDirective => "found duplicate directive"
  | badAnchor => "did not find expected alphabetic or numeric character"
  | badTag => "a tag is malformed"
  | unknownTagHandle handle => "found undefined tag handle " ++ handle
  | unknownAlias name => "unknown anchor " ++ name
  | unclosedQuote => "found unexpected end of stream"
  | documentMarkInQuote => "found unexpected document indicator"
  | badEscape => "found unknown escape character"
  | badBlockHeader => "did not find expected comment or line break"
  | missingNode => "did not find expected node content"
  | unclosedCollection => "did not find expected end of a collection"
  | missingDocumentStart => "did not find expected <document start>"
  | noDocument => "found no document"
  | severalDocuments => "found more than one document"
  | tooDeep => "recursion limit exceeded"
  | tooManyAliases => "repetition limit exceeded"
  | wrongShape wanted => "invalid type, expected " ++ wanted
  | unknownField name => "unknown field \x60" ++ name ++ "\x60"
  | repeatedField name => "duplicate field \x60" ++ name ++ "\x60"
  | missingField name => "missing field \x60" ++ name ++ "\x60"
  | unknownVariant name => "unknown variant \x60" ++ name ++ "\x60"

end Error

end CascadingForms.Yaml
