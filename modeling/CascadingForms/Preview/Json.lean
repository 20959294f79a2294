import CascadingForms.Json.Printer
import CascadingForms.Json.Reader
import CascadingForms.Menu.Json
import CascadingForms.Preview.Basic

/-!
# Remembered previews as JSON

The four remembered fields stand in a fixed order. A field that is absent has its initial value, and
further fields are ignored.
-/

namespace CascadingForms

namespace MenuSource

def toJson : MenuSource → Json
  | embedded d => .object [("Embedded", .string d.title)]
  | file path => .object [("File", .string path)]

def ofJson? : Json → Option MenuSource
  | .object [("Embedded", j)] => do return .embedded (← Deployment.ofTitle? (← j.name?))
  | .object [("File", j)] => do return .file (← j.string?)
  | _ => none

end MenuSource

namespace SavedPreview

def toJson (s : SavedPreview) : Json :=
  .object [("source", (s.source.map MenuSource.toJson).getD .null),
    ("saved_selection", .strings s.savedSelection), ("show_form_wrapper", .bool s.wrapsForm),
    ("message", .string s.message)]

/-- A field with an initial value, which it has where it is absent. -/
def field? {α : Type} (initial : α) (read : Json → Option α) : Option Json → Option α
  | none => some initial
  | some j => read j

def ofJson? (j : Json) : Option SavedPreview :=
  match j.record? ["source", "saved_selection", "show_form_wrapper", "message"] with
  | some [source, selection, wraps, message] => do
    return {
      source := ← Json.absent? MenuSource.ofJson? source
      savedSelection := ← field? [] Json.strings? selection
      wrapsForm := ← field? false Json.bool? wraps
      message := ← field? "" Json.string? message }
  | _ => none

end SavedPreview

namespace Preview

/-- The remembered part of a preview as JSON text. -/
def toJsonText (p : Preview) : String := p.saved.toJson.compact

/-- A preview with the remembered part that a JSON text spells, and no menu open. -/
def ofJsonText? (text : String) : Option Preview := do
  return ofSaved (← SavedPreview.ofJson? (← Json.read? text))

end Preview

end CascadingForms
