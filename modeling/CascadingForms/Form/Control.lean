import CascadingForms.Form.Field
import CascadingForms.Log
import CascadingForms.Menu.Basic

/-!
# Form controls

An entry with children is rendered as one dropdown, and a leaf as the fields that its descriptor
asks for, with the submit button last.
-/

namespace CascadingForms

inductive Control where
  | dropdown (name placeholder : String) (options : List Choice) (selected : Option String)
  | hidden (name value : String)
  | label (target text : String)
  | fileInput (name : String) (accept : List String) (multiple : Bool)
  | textInput (name : String)
  | exercisePicker (name : String) (multiple : Bool) (options : List Choice)
  | submit (text : String)
deriving DecidableEq

namespace Control

def isDropdown : Control → Bool
  | dropdown _ _ _ _ => true
  | _ => false

def isSubmit : Control → Bool
  | submit _ => true
  | _ => false

/-- A dropdown with another option selected, or none. -/
def choose (selected : Option String) : Control → Control
  | dropdown name placeholder options _ => dropdown name placeholder options selected
  | control => control

end Control

def Descriptor.controls (d : Descriptor) (labels : Labels) : List Control :=
  [.hidden Field.path d.path] ++
    (if d.collectsFiles then
      [.label Field.source (d.sourceText labels),
        .fileInput Field.source d.acceptedExtensions d.allowsMultipleFiles]
    else []) ++
    (if d.requiresFunctionName then
      [.label Field.function labels.functionName, .textInput Field.function]
    else []) ++
    (if d.hasPicker then
      [.exercisePicker Field.exercise d.allowsMultipleExercises d.exercises]
    else []) ++
    [.submit labels.submit]

namespace Entry

/-- The dropdown that offers the children of an entry, with nothing selected. -/
def dropdown (e : Entry) : Control :=
  .dropdown e.key ("-- " ++ e.prompt.getD "" ++ " --") e.choices none

/-- The controls of an entry. A leaf without a descriptor has none. -/
def controls (e : Entry) (labels : Labels) : List Control :=
  if e.isLeaf then
    match e.descriptor with
    | none => []
    | some d => d.controls labels
  else [e.dropdown]

/-- The complaint about a leaf without a descriptor. -/
def controlsLog (e : Entry) : List Record :=
  if e.isLeaf && e.descriptor.isNone then
    [⟨.error, "leaf \x60" ++ e.key ++ "\x60 has no submission descriptor"⟩]
  else []

end Entry

end CascadingForms
