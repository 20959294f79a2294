import CascadingForms.Json.Value
import CascadingForms.Menu.Basic

/-!
# Menus as JSON

The exported form of a menu: prompts, children, descriptors and source labels are left out where
there are none. Reading takes back what writing makes, and ignores members that it does not know.
-/

namespace CascadingForms

def Role.ofJson? (j : Json) : Option Role := do
  let name ← j.name?
  Role.all.find? (·.name = name)

def Locale.ofJson? (j : Json) : Option Locale := do
  let name ← j.name?
  Locale.all.find? (·.name = name)

namespace Choice

def toJson (c : Choice) : Json := .object [("key", .string c.key), ("label", .string c.label)]

def ofJson? (j : Json) : Option Choice :=
  match j.record? ["key", "label"] with
  | some [some key, some label] => do return ⟨← key.string?, ← label.string?⟩
  | _ => none

end Choice

namespace Labels

def toJson (l : Labels) : Json :=
  .object [("submit", .string l.submit), ("source_files", .string l.sourceFiles),
    ("function_name", .string l.functionName)]

def ofJson? (j : Json) : Option Labels :=
  match j.record? ["submit", "source_files", "function_name"] with
  | some [some submit, some sourceFiles, some functionName] => do
    return ⟨← submit.string?, ← sourceFiles.string?, ← functionName.string?⟩
  | _ => none

end Labels

/-- A member that is left out where there is nothing to say. -/
def Json.member? {α : Type} (name : String) (toJson : α → Json) : Option α → List (String × Json)
  | none => []
  | some a => [(name, toJson a)]

/-- A member that may be absent or `null`. -/
def Json.absent? {α : Type} (read : Json → Option α) : Option Json → Option (Option α)
  | none => some none
  | some j => j.nullable? read

namespace Descriptor

def toJson (d : Descriptor) : Json :=
  .object ([("path", .string d.path), ("collects_files", .bool d.collectsFiles),
    ("accepted_file_extensions", .strings d.acceptedExtensions),
    ("allow_multiple_files", .bool d.allowsMultipleFiles),
    ("requires_function_name", .bool d.requiresFunctionName),
    ("allow_multiple_exercises", .bool d.allowsMultipleExercises),
    ("exercises", .array (d.exercises.map Choice.toJson))] ++
    Json.member? "source_label" .string d.sourceLabel)

def ofJson? (j : Json) : Option Descriptor :=
  match j.record? ["path", "collects_files", "accepted_file_extensions", "allow_multiple_files",
      "requires_function_name", "allow_multiple_exercises", "exercises", "source_label"] with
  | some [some path, some files, some extensions, some multiple, some function, some several,
      some exercises, sourceLabel] => do
    return {
      path := ← path.string?
      collectsFiles := ← files.bool?
      acceptedExtensions := ← extensions.strings?
      allowsMultipleFiles := ← multiple.bool?
      requiresFunctionName := ← function.bool?
      allowsMultipleExercises := ← several.bool?
      exercises := ← (← exercises.array?).mapM Choice.ofJson?
      sourceLabel := ← Json.absent? Json.string? sourceLabel }
  | _ => none

end Descriptor

namespace Entry

mutual

def toJson : Entry → Json
  | ⟨key, label, prompt, children, descriptor⟩ =>
    .object ([("key", .string key), ("label", .string label)] ++
      Json.member? "prompt" .string prompt ++
      (if children.isEmpty then [] else [("children", .array (toJsonAll children))]) ++
      Json.member? "submission" Descriptor.toJson descriptor)

def toJsonAll : List Entry → List Json
  | [] => []
  | child :: children => child.toJson :: toJsonAll children

end

/-- Reads an entry; `fuel` bounds the nesting. -/
def ofJsonWithin : Nat → Json → Option Entry
  | 0, _ => none
  | fuel + 1, j =>
    match j.record? ["key", "label", "prompt", "children", "submission"] with
    | some [some key, some label, prompt, children, submission] => do
      return {
        key := ← key.string?
        label := ← label.string?
        prompt := ← Json.absent? Json.string? prompt
        children := ← match children with
          | none => some []
          | some children => do (← children.array?).mapM (ofJsonWithin fuel)
        descriptor := ← Json.absent? Descriptor.ofJson? submission }
    | _ => none

end Entry

namespace Json

mutual

/-- The largest number of values nested in each other. -/
def depth : Json → Nat
  | .array items => depthOfItems items + 1
  | .object members => depthOfMembers members + 1
  | _ => 1

def depthOfItems : List Json → Nat
  | [] => 0
  | item :: items => max item.depth (depthOfItems items)

def depthOfMembers : List (String × Json) → Nat
  | [] => 0
  | (_, value) :: members => max value.depth (depthOfMembers members)

end

end Json

def Entry.ofJson? (j : Json) : Option Entry := Entry.ofJsonWithin j.depth j

namespace Menu

def toJson (m : Menu) : Json :=
  .object [("name", .string m.name), ("role", .string m.role.name),
    ("locale", .string m.locale.name), ("labels", m.labels.toJson), ("root", m.root.toJson)]

def ofJson? (j : Json) : Option Menu :=
  match j.record? ["name", "role", "locale", "labels", "root"] with
  | some [some name, some role, some locale, some labels, some root] => do
    return {
      name := ← name.string?
      role := ← Role.ofJson? role
      locale := ← Locale.ofJson? locale
      labels := ← Labels.ofJson? labels
      root := ← Entry.ofJson? root }
  | _ => none

end Menu

end CascadingForms
