import CascadingForms.Files.Basic
import CascadingForms.Log
import CascadingForms.Menu.Inheritance
import CascadingForms.Menu.Issue

/-!
# Loading menus

`Menu.parse` makes a menu of a YAML text, whatever its defects. `Menu.load` and `Menu.loadFile`
accept only menus without any. The origin of a text is the name that messages give it.
-/

namespace CascadingForms

inductive LoadError where
  | unreadable (path : String) (cause : FileFailure)
  | malformed (origin : String) (cause : Yaml.Error)
  | invalid (name : String) (issues : List Issue)
  | unknownDeployment (name : String)

namespace LoadError

def message : LoadError → String
  | unreadable path cause => "cannot read menu " ++ path ++ ": " ++ cause.message
  | malformed origin cause => "invalid YAML in " ++ origin ++ ": " ++ cause.message
  | invalid name issues =>
    "menu \x60" ++ name ++ "\x60 has " ++ toString issues.length ++ " problem(s):\n" ++
      Text.join "\n" (issues.map fun issue => "  - " ++ issue.message)
  | unknownDeployment name => "unknown deployment \x60" ++ name ++ "\x60"

end LoadError

namespace Menu

def parse (text origin : String) : Except LoadError Menu :=
  match MenuDraft.reader.ofText text with
  | .ok draft => .ok draft.menu
  | .error cause => .error (.malformed origin cause)

/-- The menu itself, if it has no defects. -/
def validated (m : Menu) : Except LoadError Menu :=
  if m.issues.isEmpty then .ok m else .error (.invalid m.name m.issues)

/-- The record of a menu that has been loaded. -/
def loadedText (m : Menu) (origin : String) : String :=
  "loaded menu \x60" ++ m.name ++ "\x60 (" ++ m.role.title ++ "/" ++ m.locale.title ++ ", " ++
    toString m.leaves.length ++ " leaves) from " ++ origin

def load (text origin : String) : Logged (Except LoadError Menu) :=
  match (parse text origin).bind validated with
  | .error e => return .error e
  | .ok m => do
    Logged.record .info (m.loadedText origin)
    return .ok m

def loadFile (files : FileSystem) (path : String) : Logged (Except LoadError Menu) :=
  match files path with
  | .error cause => return .error (.unreadable path cause)
  | .ok text => load text path

end Menu

end CascadingForms
