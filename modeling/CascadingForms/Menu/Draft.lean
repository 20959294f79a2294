import CascadingForms.Menu.Basic
import CascadingForms.Yaml.Reading

/-!
# Menus as they are written

In a menu file an entry may give a segment of the template path and some of the submission settings;
the entries below it take over what they do not set themselves. `Draft` is one such entry. Fields
that a menu, an entry or a block of settings does not have are errors, so that no setting is lost by
a spelling mistake; labels and exercises may carry further fields.
-/

namespace CascadingForms

open Yaml (Reader)

/-- The submission settings of an entry, each given or not. -/
structure Settings where
  files : Option Bool := none
  accept : Option (List String) := none
  multipleFiles : Option Bool := none
  functionName : Option Bool := none
  multipleExercises : Option Bool := none
  exercises : Option (List Choice) := none
  sourceLabel : Option String := none

structure Draft where
  key : String
  label : Option String
  prompt : Option String
  path : Option String
  settings : Settings
  children : List Draft

structure MenuDraft where
  name : String
  role : Role
  locale : Locale
  labels : Labels
  root : Draft

namespace Choice

def reader : Reader Choice := fun root depth node => do
  let (fields, depth) ← Reader.fields ["key", "label"] false root depth node
  return {
    key := ← Reader.field Reader.string root depth fields "key"
    label := ← Reader.field Reader.string root depth fields "label" }

end Choice

namespace Labels

def reader : Reader Labels := fun root depth node => do
  let (fields, depth) ←
    Reader.fields ["submit", "source_files", "function_name"] false root depth node
  return {
    submit := ← Reader.field Reader.string root depth fields "submit"
    sourceFiles := ← Reader.field Reader.string root depth fields "source_files"
    functionName := ← Reader.field Reader.string root depth fields "function_name" }

end Labels

namespace Settings

/-- A setting that may be absent or null. -/
def setting {α : Type} (read : Reader α) (root : Yaml.Node) (depth : Nat)
    (fields : List (String × Yaml.Node)) (name : String) : Yaml.Reading (Option α) := do
  return (← Reader.field? (Reader.nullable read) root depth fields name).join

def names : List String :=
  ["files", "accept", "multiple_files", "function_name", "multiple_exercises", "exercises",
    "source_label"]

def reader : Reader Settings := fun root depth node => do
  let (fields, depth) ← Reader.fields names true root depth node
  return {
    files := ← setting Reader.bool root depth fields "files"
    accept := ← setting (Reader.list Reader.string) root depth fields "accept"
    multipleFiles := ← setting Reader.bool root depth fields "multiple_files"
    functionName := ← setting Reader.bool root depth fields "function_name"
    multipleExercises := ← setting Reader.bool root depth fields "multiple_exercises"
    exercises := ← setting (Reader.list Choice.reader) root depth fields "exercises"
    sourceLabel := ← setting Reader.string root depth fields "source_label" }

end Settings

namespace Draft

def names : List String := ["key", "label", "prompt", "path", "submission", "children"]

/-- Reads an entry with everything below it. -/
def reader : Reader Draft := fun root depth node => do
  let (fields, inner) ← Reader.fields names true root depth node
  let key ← Reader.field Reader.string root inner fields "key"
  let label ← Settings.setting Reader.string root inner fields "label"
  let prompt ← Settings.setting Reader.string root inner fields "prompt"
  let path ← Settings.setting Reader.string root inner fields "path"
  let settings ← Reader.field? Settings.reader root inner fields "submission"
  let (items, _) ← match fields.find? (·.1 = "children") with
    | none => pure ([], 0)
    | some (_, node) => Reader.items root inner node
  let children ← match depth with
    | depth + 2 => items.mapM (reader root depth)
    | _ => pure []
  return ⟨key, label, prompt, path, settings.getD {}, children⟩

end Draft

namespace MenuDraft

def names : List String := ["name", "role", "locale", "labels", "root"]

def reader : Reader MenuDraft := fun root depth node => do
  let (fields, depth) ← Reader.fields names true root depth node
  return {
    name := ← Reader.field Reader.string root depth fields "name"
    role := ← Reader.field (Reader.oneOf (Role.all.map fun r => (r.name, r))) root depth fields
      "role"
    locale := ← Reader.field (Reader.oneOf (Locale.all.map fun l => (l.name, l))) root depth fields
      "locale"
    labels := ← Reader.field Labels.reader root depth fields "labels"
    root := ← Reader.field Draft.reader root depth fields "root" }

end MenuDraft

end CascadingForms
