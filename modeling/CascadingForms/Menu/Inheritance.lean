import CascadingForms.Menu.Draft
import CascadingForms.Text.Blank
import CascadingForms.Text.Split

/-!
# What entries take over from those above them

A setting that an entry does not give is the one of the nearest entry above that gives it. The
template path of a leaf is made of the segments given on the way to it, without the slashes at their
ends.
-/

namespace CascadingForms

namespace Settings

/-- The settings of an entry, completed by those of the entry above it. -/
def completedBy (own inherited : Settings) : Settings where
  files := own.files <|> inherited.files
  accept := own.accept <|> inherited.accept
  multipleFiles := own.multipleFiles <|> inherited.multipleFiles
  functionName := own.functionName <|> inherited.functionName
  multipleExercises := own.multipleExercises <|> inherited.multipleExercises
  exercises := own.exercises <|> inherited.exercises
  sourceLabel := own.sourceLabel <|> inherited.sourceLabel

/-- The list without the elements that have stood in it before, or in `seen`. -/
def distinct (seen : List String) : List String → List String
  | [] => []
  | s :: rest => if seen.contains s then distinct seen rest else s :: distinct (s :: seen) rest

/-- What is submitted at a leaf with these settings. Where nothing is set, files are collected, any
number of them, and nothing else. -/
def descriptor (s : Settings) (path : String) : Descriptor where
  path := path
  collectsFiles := s.files.getD true
  acceptedExtensions := distinct [] (s.accept.getD [])
  allowsMultipleFiles := s.multipleFiles.getD true
  requiresFunctionName := s.functionName.getD false
  allowsMultipleExercises := s.multipleExercises.getD false
  exercises := s.exercises.getD []
  sourceLabel := s.sourceLabel

end Settings

def joinPath (segments : List String) : String :=
  Text.join "/" ((segments.map (Text.strip (· = '/'))).filter (!·.isEmpty))

namespace Draft

mutual

/-- The menu entry that a draft stands for, below entries that give some settings and segments. -/
def entry (inherited : Settings) (segments : List String) : Draft → Entry
  | ⟨key, label, prompt, path, settings, children⟩ =>
    let settings := settings.completedBy inherited
    let segments := segments ++ path.toList
    { key
      label := label.getD key
      prompt
      children := entries settings segments children
      descriptor :=
        if children.isEmpty then some (settings.descriptor (joinPath segments)) else none }

def entries (inherited : Settings) (segments : List String) : List Draft → List Entry
  | [] => []
  | child :: children => child.entry inherited segments :: entries inherited segments children

end

end Draft

/-- The menu that a draft stands for. -/
def MenuDraft.menu (d : MenuDraft) : Menu where
  name := d.name
  role := d.role
  locale := d.locale
  labels := d.labels
  root := d.root.entry {} []

end CascadingForms
