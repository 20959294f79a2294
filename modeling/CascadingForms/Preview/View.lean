import CascadingForms.Preview.Basic
import CascadingForms.Submission.Decode

/-!
# What the preview shows of a menu

The dropdowns of the open menu, the fields of its leaf, the HTML of the form, and what the receiver
of the form would make of it once its free fields have been filled in by way of example.
-/

namespace CascadingForms

/-- A dropdown as it is shown in one level of the preview. -/
structure LevelView where
  level : Nat
  name : String
  placeholder : String
  options : List Choice
  selected : Option String

namespace LevelView

/-- The label of the selected option, or the placeholder. -/
def selectedText (v : LevelView) : String :=
  match v.selected.bind fun key => v.options.find? (·.key = key) with
  | some choice => choice.label
  | none => v.placeholder

def ofLevel? (l : Level) : Option LevelView :=
  match l.controls with
  | .dropdown name placeholder options selected :: _ =>
    some ⟨l.depth, name, placeholder, options, selected⟩
  | _ => none

end LevelView

/-- A built-in menu as it stands in the list of deployments. -/
structure DeploymentInfo where
  deployment : Deployment
  role : Option Role
  locale : Option Locale
  leaves : Nat
  error : Option String

namespace DeploymentInfo

def isOk (i : DeploymentInfo) : Bool := i.error.isNone

def roleText : Role → String
  | .student => "alumnos"
  | .teacher => "profesores"

def label (i : DeploymentInfo) : String :=
  match i.role, i.locale with
  | some role, some locale =>
    i.deployment.name ++ " (" ++ roleText role ++ ", " ++ locale.name ++ ") · " ++
      toString i.leaves ++ " hojas"
  | _, _ => i.deployment.name ++ " ⚠"

def ofDeployment (d : Deployment) : Logged DeploymentInfo := do
  match ← d.load with
  | .ok m => return ⟨d, some m.role, some m.locale, m.leaves.length, none⟩
  | .error e => return ⟨d, none, none, 0, some e.message⟩

def all : Logged (List DeploymentInfo) := Deployment.all.mapM ofDeployment

end DeploymentInfo

def StudentSubmission.describe (s : StudentSubmission) : String :=
  "StudentSubmission \x7b selection: " ++ Text.quoteList s.selection ++ ", path: " ++
    Text.quote s.path ++ ", function_name: " ++
    (match s.functionName with
      | none => "None"
      | some name => "Some(" ++ Text.quote name ++ ")") ++ " \x7d"

def TeacherQuery.describe (q : TeacherQuery) : String :=
  "TeacherQuery \x7b course: " ++ Text.quote q.course ++ ", group: " ++ Text.quote q.group ++
    ", selection: " ++ Text.quoteList q.selection ++ ", exercises: " ++
    Text.quoteList q.exercises ++ " \x7d"

namespace Preview

def levelViews (p : Preview) : List LevelView :=
  match p.selector with
  | none => []
  | some s => s.levels.filterMap LevelView.ofLevel?

/-- The fields of the leaf, once one has been reached. -/
def submissionControls (p : Preview) : List Control :=
  match p.selector.bind fun s => s.levels.getLast? with
  | none => []
  | some l => if l.isSubmission then l.controls else []

def html (p : Preview) : String :=
  match p.selector with
  | none => ""
  | some s =>
    let body := Text.join "\n" (s.levels.map fun l => Html.controls l.controls)
    if p.wrapsForm then Html.form "form" "/" ("\n" ++ body ++ "\n") else body

/-- The values that stand for what a user would fill in. -/
def sampleFields (d : Descriptor) : List (String × String) :=
  (if d.requiresFunctionName then [(Field.function, "main")] else []) ++
    match d.exercises with
    | [] => []
    | first :: _ => [(Field.exercise, first.key)]

/-- What a decoder makes of a form, as text. -/
def outcome {α : Type} (describe : α → String) : Except SubmissionError α → String
  | .ok a => describe a
  | .error e => "⚠ " ++ e.message

/-- What the receiver of the form would read in it, once a leaf has been reached. -/
def decoded (p : Preview) : Logged (Option String) :=
  match p.selector with
  | none => return none
  | some s =>
    match s.descriptor? with
    | none => return none
    | some d =>
      let form := s.posted.pushAll (sampleFields d)
      match s.menu.role with
      | .student => do
        return some (outcome StudentSubmission.describe (← s.menu.decodeStudent form))
      | .teacher => do
        return some (outcome TeacherQuery.describe (← s.menu.decodeTeacher form))

end Preview

end CascadingForms
