import CascadingForms.Deployment.Basic
import CascadingForms.Selector.Operations

/-!
# The preview

The preview opens one menu at a time, lets its user choose in the dropdowns, and remembers between
sessions which menu was open and what was chosen in it. `source` and `savedSelection` are what it
remembers; `restore` opens the menu again and repeats the selection.
-/

namespace CascadingForms

inductive MenuSource where
  | embedded (d : Deployment)
  | file (path : String)
deriving DecidableEq

/-- A source as log records show it. -/
def MenuSource.describe : MenuSource → String
  | embedded d => "Embedded(" ++ d.title ++ ")"
  | file path => "File(" ++ Text.quotePath path ++ ")"

inductive Screen where
  | deployments
  | cascade
deriving DecidableEq

structure Preview where
  source : Option MenuSource := none
  savedSelection : List String := []
  /-- Whether the HTML is shown with the form around it. -/
  wrapsForm : Bool := false
  message : String := ""
  screen : Screen := .deployments
  selector : Option Selector := none

namespace Preview

/-- The keys chosen in the open menu, or those that were saved. -/
def currentSelection (p : Preview) : List String :=
  match p.selector with
  | some s => s.selection
  | none => p.savedSelection

def fail (p : Preview) (message : String) : Logged Preview := do
  Logged.record .error message
  return { p with message, selector := none, screen := .deployments }

def openMenu (p : Preview) (m : Menu) (source : MenuSource) : Logged Preview :=
  match Selector.ofMenu m with
  | .error e => p.fail e.message
  | .ok selector => do
    let started ← selector.start
    Logged.record .info ("preview opened " ++ source.describe)
    return { p with
      selector := some started
      source := some source
      savedSelection := []
      message := ""
      screen := .cascade }

def openDeployment (p : Preview) (d : Deployment) : Logged Preview := do
  match ← d.load with
  | .ok m => p.openMenu m (.embedded d)
  | .error e => p.fail ("No se pudo abrir " ++ d.name ++ ": " ++ e.message)

def openFile (p : Preview) (files : FileSystem) (path : String) : Logged Preview := do
  match ← Menu.loadFile files path with
  | .ok m => p.openMenu m (.file path)
  | .error e => p.fail ("No se pudo abrir " ++ path ++ ": " ++ e.message)

/-- Repeats a selection in the menu that has just been opened, as far as it goes. -/
def replay (p : Preview) (saved : List String) : Logged Preview :=
  match p.selector with
  | none => return p
  | some selector =>
    let step := selector.selectPath saved
    let p := { p with selector := some step.selector }
    match step.result with
    | .ok _ => ⟨p, step.log⟩
    | .error e =>
      ⟨{ p with message := "La selección guardada ya no es válida: " ++ e.message },
        step.log ++ [⟨.warning, "saved selection " ++ Text.quoteList saved ++
          " no longer applies: " ++ e.message⟩]⟩

/-- Opens the menu of the source again and repeats the saved selection. -/
def restore (p : Preview) (files : FileSystem) : Logged Preview :=
  let cleared := { p with savedSelection := [] }
  match p.source with
  | none => return cleared
  | some (.embedded d) => do (← cleared.openDeployment d).replay p.savedSelection
  | some (.file path) => do (← cleared.openFile files path).replay p.savedSelection

def choose (p : Preview) (level : Nat) (key : String) : Logged Preview :=
  match p.selector with
  | none => return p
  | some selector =>
    let step := selector.select level key
    let p := { p with selector := some step.selector }
    match step.result with
    | .ok _ => ⟨{ p with message := "" }, step.log⟩
    | .error e => ⟨{ p with message := e.message }, step.log⟩

def back (p : Preview) : Logged Preview :=
  match p.selector with
  | none => return p
  | some selector =>
    let step := selector.back
    let p := { p with selector := some step.selector }
    match step.result with
    | .ok _ => ⟨p, step.log⟩
    | .error e => ⟨{ p with message := e.message }, step.log⟩

/-- Leaves the dropdown of the root and nothing else. -/
def resetSelection (p : Preview) : Logged Preview :=
  match p.selector with
  | none => return { p with message := "" }
  | some selector => do
    let started ← selector.start
    return { p with selector := some started, message := "" }

/-- Closes the menu and goes back to the list of deployments. -/
def changeMenu (p : Preview) : Preview :=
  { p with
    selector := none, source := none, savedSelection := [], message := ""
    screen := .deployments }

/-- Notes the current selection, so that it will be remembered. -/
def syncForSave (p : Preview) : Preview := { p with savedSelection := p.currentSelection }

end Preview

/-- What a preview remembers between sessions. -/
structure SavedPreview where
  source : Option MenuSource := none
  savedSelection : List String := []
  wrapsForm : Bool := false
  message : String := ""

namespace Preview

def saved (p : Preview) : SavedPreview := ⟨p.source, p.savedSelection, p.wrapsForm, p.message⟩

/-- A preview with what was remembered and no menu open. -/
def ofSaved (s : SavedPreview) : Preview :=
  { source := s.source, savedSelection := s.savedSelection, wrapsForm := s.wrapsForm
    message := s.message }

/-- Notes the current selection and remembers the preview. -/
def save (p : Preview) : Preview × SavedPreview :=
  let p := p.syncForSave
  (p, p.saved)

/-- The preview at the start of a session, given what was remembered, if anything was. -/
def ofStorage (files : FileSystem) (storage : Option SavedPreview) : Logged Preview :=
  (ofSaved (storage.getD {})).restore files

end Preview

end CascadingForms
