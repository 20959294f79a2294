import CascadingForms.Form.Field
import CascadingForms.Menu.Basic
import CascadingForms.Text.Blank
import CascadingForms.Text.Split

/-!
# Defects of a menu

`Menu.issues` lists every defect of a menu with the place where it is found, entry by entry from the
root down. A menu without children at its root has that one defect and no other.
-/

namespace CascadingForms

inductive Defect where
  | emptyMenu
  | emptyKey
  | blankInKey (key : String)
  | reservedKey (key : String)
  | repeatedSibling (key : String)
  | repeatedAncestor (key : String)
  | missingPrompt
  | missingChildren
  | missingDescriptor
  | unexpectedDescriptor
  | escapingPath (path : String)
  | repeatedExercise (key : String)
  | emptyPicker
  | badExtension (extension : String)
deriving DecidableEq

def Defect.message : Defect → String
  | emptyMenu => "the menu has no entries"
  | emptyKey => "empty key"
  | blankInKey key => "key \x60" ++ key ++ "\x60 contains whitespace"
  | reservedKey key => "key \x60" ++ key ++ "\x60 collides with a reserved form field"
  | repeatedSibling key => "duplicate sibling key \x60" ++ key ++ "\x60"
  | repeatedAncestor key => "key \x60" ++ key ++ "\x60 already used by an ancestor"
  | missingPrompt => "dropdown without prompt"
  | missingChildren => "prompt set but no children to choose from"
  | missingDescriptor => "leaf without submission descriptor"
  | unexpectedDescriptor => "submission descriptor on a node with children"
  | escapingPath path =>
    "template path \x60" ++ path ++ "\x60 must be relative and stay inside the scripts tree"
  | repeatedExercise key => "duplicate exercise \x60" ++ key ++ "\x60 in picker"
  | emptyPicker => "multiple exercises allowed but no exercise configured"
  | badExtension extension => "file extension \x60" ++ extension ++ "\x60 must start with a dot"

structure Issue where
  /-- The keys from the root to the entry, joined by slashes. -/
  place : String
  defect : Defect
deriving DecidableEq

def Issue.message (i : Issue) : String := i.place ++ ": " ++ i.defect.message

/-- Whether a template path may lead out of the tree of scripts. -/
def escapesScripts (path : String) : Bool :=
  path.toList.head? = some '/' || path.toList.contains '\\' || (Text.split '/' path).contains ".."

def isExtension (s : String) : Bool :=
  match s.toList with
  | '.' :: _ :: _ => true
  | _ => false

/-- The keys of a list that have stood in it before, or in `seen`. -/
def repeats (seen : List String) : List String → List String
  | [] => []
  | key :: keys =>
    if seen.contains key then key :: repeats seen keys else repeats (key :: seen) keys

/-- A list with one element if a condition holds. -/
def defectIf (condition : Bool) (defect : Defect) : List Defect :=
  if condition then [defect] else []

namespace Descriptor

def defects (d : Descriptor) : List Defect :=
  defectIf (escapesScripts d.path) (.escapingPath d.path) ++
    (d.acceptedExtensions.filter fun e => !isExtension e).map .badExtension ++
    (repeats [] (d.exercises.map Choice.key)).map .repeatedExercise ++
    defectIf (d.allowsMultipleExercises && d.exercises.isEmpty) .emptyPicker

end Descriptor

namespace Entry

def keyDefects (ancestors : List String) (key : String) : List Defect :=
  (if key.isEmpty then [.emptyKey] else defectIf (key.toList.any Text.isBlank) (.blankInKey key)) ++
    defectIf (Field.reserved.contains key) (.reservedKey key) ++
    defectIf (ancestors.contains key) (.repeatedAncestor key)

def leafDefects (e : Entry) : List Defect :=
  defectIf e.prompt.isSome .missingChildren ++
    match e.descriptor with
    | none => [.missingDescriptor]
    | some d => d.defects

def isBlankPrompt (prompt : Option String) : Bool :=
  match prompt with
  | none => true
  | some s => s.toList.all Text.isBlank

def branchDefects (e : Entry) : List Defect :=
  defectIf (isBlankPrompt e.prompt) .missingPrompt ++
    defectIf e.descriptor.isSome .unexpectedDescriptor ++
    (repeats [] e.childKeys).map .repeatedSibling

/-- The defects of an entry itself, given the keys above it. -/
def ownDefects (ancestors : List String) (e : Entry) : List Defect :=
  keyDefects ancestors e.key ++ if e.isLeaf then e.leafDefects else e.branchDefects

/-- The defects of an entry itself, each with its place. -/
def ownIssues (ancestors : List String) (e : Entry) : List Issue :=
  (e.ownDefects ancestors).map (⟨Text.join "/" (ancestors ++ [e.key]), ·⟩)

mutual

/-- The issues of an entry and of everything below it. -/
def issues (ancestors : List String) : Entry → List Issue
  | ⟨key, label, prompt, children, descriptor⟩ =>
    ownIssues ancestors ⟨key, label, prompt, children, descriptor⟩ ++
      issuesOf (ancestors ++ [key]) children

def issuesOf (ancestors : List String) : List Entry → List Issue
  | [] => []
  | child :: children => child.issues ancestors ++ issuesOf ancestors children

end

end Entry

def Menu.issues (m : Menu) : List Issue :=
  if m.root.isLeaf then [⟨m.root.key, .emptyMenu⟩] else m.root.issues []

end CascadingForms
