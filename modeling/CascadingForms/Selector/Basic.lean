import CascadingForms.Form.Html
import CascadingForms.Form.Posted
import CascadingForms.Menu.Load
import CascadingForms.Text.Quoted

/-!
# Cascading selectors

A selector shows a menu level by level: a dropdown for the root, and below every chosen option the
dropdown of its entry or, at a leaf, the fields to submit. Level `i` belongs to the entry that the
first `i` keys of the selection lead to. A selector that has been started has one level more than it
has selected keys.
-/

namespace CascadingForms

inductive SelectionError where
  | notInitialized
  | unknownLevel (level rendered : Nat)
  | leafLevel (level : Nat)
  | invalidSelection (parent key : String)
deriving DecidableEq

def SelectionError.message : SelectionError → String
  | notInitialized => "selector is not initialized"
  | unknownLevel level rendered =>
    "level " ++ toString level ++ " is not rendered (" ++ toString rendered ++
      " level(s) on screen)"
  | leafLevel level => "level " ++ toString level ++ " shows the submission fields, not a dropdown"
  | invalidSelection parent key =>
    "\x60" ++ key ++ "\x60 is not an option of \x60" ++ parent ++ "\x60"

/-- The controls rendered for one level of the cascade. -/
structure Level where
  depth : Nat
  entryKey : String
  controls : List Control
deriving DecidableEq

namespace Level

def isDropdown (l : Level) : Bool :=
  match l.controls with
  | [] => false
  | control :: _ => control.isDropdown

def isSubmission (l : Level) : Bool := l.controls.any Control.isSubmit

/-- The level with another option selected in its dropdown, or none. -/
def choose (selected : Option String) (l : Level) : Level :=
  match l.controls with
  | [] => l
  | control :: controls => { l with controls := control.choose selected :: controls }

end Level

structure Selector where
  menu : Menu
  selection : List String := []
  levels : List Level := []

namespace Selector

/-- A selector that is not started yet. Only menus without defects are taken. -/
def ofMenu (m : Menu) : Except LoadError Selector := m.validated.map fun menu => { menu }

def isStarted (s : Selector) : Bool := !s.levels.isEmpty

/-- The last entry that the selection leads to. -/
def frontier (s : Selector) : Entry := (s.menu.entryAt? s.selection).getD s.menu.root

/-- What is submitted, once the selection has come to a leaf. -/
def descriptor? (s : Selector) : Option Descriptor :=
  if s.frontier.isLeaf then s.frontier.descriptor else none

def isComplete (s : Selector) : Bool := s.descriptor?.isSome

/-- The labels on the way along a path, as far as it goes. -/
def labelsAlong (e : Entry) : List String → List String
  | [] => []
  | key :: keys =>
    match e.child? key with
    | none => []
    | some child => child.label :: labelsAlong child keys

def breadcrumb (s : Selector) : List String := labelsAlong s.menu.root s.selection

def controls (s : Selector) : List Control := s.levels.flatMap Level.controls

def html (s : Selector) : String := Text.join "" (s.levels.map fun l => Html.controls l.controls)

end Selector

end CascadingForms
