import CascadingForms.Selector.Basic

/-!
# Selecting and going back

Every operation gives the selector that it leaves, what came of it, and its log records. An
operation that is refused leaves the selector as it was; `selectPath` keeps the keys before the
first that is refused.
-/

namespace CascadingForms

namespace Selector

/-- What an operation on a selector comes to. -/
structure Step (α : Type) where
  selector : Selector
  result : Except SelectionError α
  log : List Record

def teardown (s : Selector) : Selector := { s with selection := [], levels := [] }

/-- Renders the entry that the first `depth` keys lead to, in place of all levels from there on. -/
def render (s : Selector) (depth : Nat) : Logged Selector :=
  let path := s.selection.take depth
  let kept := s.levels.take depth
  match s.menu.entryAt? path with
  | none =>
    ⟨{ s with levels := kept },
      [⟨.error, "selection " ++ Text.quoteList path ++ " left the menu tree"⟩]⟩
  | some e =>
    let controls := e.controls s.menu.labels
    ⟨{ s with levels := kept ++ [⟨depth, e.key, controls⟩] },
      e.controlsLog ++
        [⟨.debug, "render level " ++ toString depth ++ " for \x60" ++ e.key ++ "\x60 (" ++
          toString controls.length ++ " control(s))"⟩]⟩

/-- Shows the dropdown of the root and nothing else. -/
def start (s : Selector) : Logged Selector := s.teardown.render 0

/-- The entry whose dropdown stands at a level. -/
def entryForLevel (s : Selector) (level : Nat) : Except SelectionError Entry :=
  if s.levels.isEmpty then .error .notInitialized
  else if s.levels.length ≤ level then .error (.unknownLevel level s.levels.length)
  else
    match s.menu.entryAt? (s.selection.take level) with
    | none => .error (.unknownLevel level s.levels.length)
    | some e => if e.isLeaf then .error (.leafLevel level) else .ok e

/-- Keeps the levels up to one whose dropdown shows another option, or none. -/
def truncate (s : Selector) (level : Nat) (selected : Option String) : Selector :=
  { s with
    selection := s.selection.take level ++ selected.toList
    levels := (s.levels.take (level + 1)).modify level (Level.choose selected) }

/-- Chooses an option of the dropdown at a level and renders the level below it. -/
def select (s : Selector) (level : Nat) (key : String) : Step Level :=
  match s.entryForLevel level with
  | .error e => ⟨s, .error e, []⟩
  | .ok entry =>
    match entry.child? key with
    | none =>
      ⟨s, .error (.invalidSelection entry.key key),
        [⟨.warning, "rejected selection \x60" ++ key ++ "\x60 at level " ++ toString level ++
          " (\x60" ++ entry.key ++ "\x60)"⟩]⟩
    | some _ =>
      let chosen := s.truncate level (some key)
      let rendered := chosen.render (level + 1)
      ⟨rendered.value,
        match rendered.value.levels.getLast? with
        | some l => .ok l
        | none => .error (.unknownLevel (level + 1) 0),
        ⟨.debug, "selected " ++ Text.quoteList chosen.selection⟩ :: rendered.log⟩

/-- Chooses one option after the other, from a level on. -/
def selectFrom (s : Selector) (level : Nat) : List String → Step Unit
  | [] => ⟨s, .ok (), []⟩
  | key :: keys =>
    let step := s.select level key
    match step.result with
    | .error e => ⟨step.selector, .error e, step.log⟩
    | .ok _ =>
      let rest := step.selector.selectFrom (level + 1) keys
      ⟨rest.selector, rest.result, step.log ++ rest.log⟩

/-- Chooses the keys of a path from the root on. -/
def selectPath (s : Selector) (keys : List String) : Step Unit :=
  let started := s.start
  let step := started.value.selectFrom 0 keys
  ⟨step.selector, step.result, started.log ++ step.log⟩

/-- Takes back what is chosen at a level and below it. -/
def resetTo (s : Selector) (level : Nat) : Step Unit :=
  match s.entryForLevel level with
  | .error e => ⟨s, .error e, []⟩
  | .ok _ => ⟨s.truncate level none, .ok (), [⟨.debug, "reset to level " ++ toString level⟩]⟩

/-- Takes back the last choice, if there is one. -/
def back (s : Selector) : Step Unit :=
  if s.selection.isEmpty then ⟨s, .ok (), []⟩ else s.resetTo (s.selection.length - 1)

/-- What the form of a selector posts before its user fills anything in. -/
def posted (s : Selector) : PostedForm := PostedForm.ofControls s.controls

end Selector

end CascadingForms
