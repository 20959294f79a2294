import CascadingForms.CommandLine.Arguments
import CascadingForms.Json.Printer
import CascadingForms.Menu.Json
import CascadingForms.Selector.Operations
import CascadingForms.Submission.Decode
import CascadingForms.Yaml.Printer

/-!
# What the commands do

`check` gives a verdict on each menu, built-in ones first. `render` prints the HTML of a selection,
`export` a menu with everything inherited filled in, and `decode` what the receiver of a form reads
in it. A command fails with a message, and a cause where another failure lies behind it.
-/

namespace CascadingForms

structure Failure where
  message : String
  cause : Option String := none

def Failure.report (f : Failure) : String :=
  "Error: " ++ f.message ++
    (match f.cause with
      | none => ""
      | some cause => "\n\nCaused by:\n    " ++ Text.hanging cause) ++ "\n"

namespace Failure

def ofLoad (e : LoadError) : Failure where
  message := e.message
  cause := match e with
    | .unreadable _ cause => some cause.message
    | .malformed _ cause => some cause.message
    | _ => none

end Failure

/-- How a command ends. A text to be written to a file has not been written yet. -/
inductive Outcome where
  | done (output : String)
  | failed (output : String) (failure : Failure)
  | writes (path text : String)

/-- What is said on a menu. -/
inductive Verdict where
  | sound (origin : String) (menu : Menu)
  | defective (origin : String) (issues : List Issue)
  | broken (error : LoadError)

namespace Verdict

def isSound : Verdict → Bool
  | sound _ _ => true
  | _ => false

def ofText (origin text : String) : Verdict :=
  match Menu.parse text origin with
  | .error e => broken e
  | .ok m => if m.issues.isEmpty then sound origin m else defective origin m.issues

def lines : Verdict → List String
  | sound origin m =>
    ["✓ " ++ origin ++ ": \x60" ++ m.name ++ "\x60 (" ++ toString m.leaves.length ++
      " leaves, up to " ++ toString m.height ++ " dropdowns)"]
  | defective origin issues =>
    ("✗ " ++ origin ++ ": " ++ toString issues.length ++ " problem(s)") ::
      issues.map fun issue => "    " ++ issue.message
  | broken e => ["✗ " ++ e.message]

end Verdict

namespace Command

/-- The text of a file, with its path as the origin. -/
def readSource (files : FileSystem) (path : String) : Except Failure (String × String) :=
  match files path with
  | .ok text => .ok (path, text)
  | .error cause => .error ⟨"cannot read " ++ path, some cause.message⟩

/-- The texts to check with their origins: those of deployments, all of them if nothing is named,
and then those of files. -/
def sources (files : FileSystem) (paths : List String) (deployments : List Deployment) :
    Except Failure (List (String × String)) := do
  let deployments :=
    if paths.isEmpty && deployments.isEmpty then Deployment.all else deployments
  let texts ← paths.mapM (readSource files)
  return (deployments.map fun d => (d.name, d.text)) ++ texts

def printLines (lines : List String) : String := Text.join "" (lines.map (· ++ "\n"))

def runCheck (files : FileSystem) (paths : List String) (deployments : List Deployment) :
    Outcome :=
  match sources files paths deployments with
  | .error failure => .failed "" failure
  | .ok texts =>
    let verdicts := texts.map fun (origin, text) => Verdict.ofText origin text
    let failed := (verdicts.filter (!·.isSound)).length
    let output := printLines (verdicts.flatMap Verdict.lines)
    if failed = 0 then .done output
    else
      .failed output ⟨toString failed ++ " of " ++ toString texts.length ++
        " menu(s) failed validation", none⟩

def loadMenu (files : FileSystem) (choice : MenuChoice) : Except Failure Menu :=
  match choice.file, choice.deployment with
  | some path, _ => (Menu.loadFile files path).value.mapError Failure.ofLoad
  | none, some d => d.load.value.mapError Failure.ofLoad
  | none, none =>
    .error ⟨"pass --deployment or --menu (or set " ++ CommandLine.deploymentVariable ++ " / " ++
      CommandLine.menuVariable ++ ")", none⟩

def html (m : Menu) (select : List String) (action : Option String) : Except Failure String := do
  let selector ← (Selector.ofMenu m).mapError Failure.ofLoad
  let step := selector.selectPath select
  match step.result with
  | .error e => .error ⟨"cannot select " ++ Text.quoteList select, some e.message⟩
  | .ok _ =>
    match action with
    | some action => .ok (Html.form "form" action step.selector.html)
    | none => .ok step.selector.html

def exported (m : Menu) : ExportFormat → String
  | .json => m.toJson.pretty
  | .yaml => Yaml.Printer.document m.toJson

/-- The form that is spelled by fields with an equals sign between name and value. -/
def formOf (fields : List String) : Except Failure PostedForm :=
  match fields.find? fun field => (Text.splitOnce '=' field).isNone with
  | some field => .error ⟨"field \x60" ++ field ++ "\x60 is not \x60name=value\x60", none⟩
  | none => .ok ⟨fields.filterMap (Text.splitOnce '=')⟩

/-- What the receiver reads in a form, as JSON. -/
def decoded (m : Menu) (form : PostedForm) : Except Failure Json :=
  let refused := fun e : SubmissionError => Failure.mk e.message none
  match m.role with
  | .student => ((m.decodeStudent form).value.mapError refused).map StudentSubmission.toJson
  | .teacher => ((m.decodeTeacher form).value.mapError refused).map TeacherQuery.toJson

/-- Prints a text with a line break behind it. -/
def printed : Except Failure String → Outcome
  | .ok text => .done (text ++ "\n")
  | .error failure => .failed "" failure

def run (files : FileSystem) : Command → Outcome
  | check paths deployments => runCheck files paths deployments
  | render menu select action output =>
    let text := do html (← loadMenu files menu) select action
    match text, output with
    | .ok text, some path => .writes path (text ++ "\n")
    | text, _ => printed text
  | exportMenu menu format => printed do return exported (← loadMenu files menu) format
  | decode menu fields => printed do
    let m ← loadMenu files menu
    return (← decoded m (← formOf fields)).pretty

def inputs : Command → List String
  | check paths _ => paths
  | render menu _ _ _ => menu.file.toList
  | exportMenu menu _ => menu.file.toList
  | decode menu _ => menu.file.toList

end Command

/-- What a finished command leaves: its exit code and what it prints. -/
structure Report where
  exitCode : Nat
  output : String := ""
  errors : String := ""

/-- The report of a command, given what came of writing its file, if it writes one. -/
def Outcome.report (o : Outcome) (written : Option FileFailure) : Report :=
  match o, written with
  | .done output, _ => ⟨0, output, ""⟩
  | .failed output failure, _ => ⟨1, output, failure.report⟩
  | .writes _ _, none => ⟨0, "", ""⟩
  | .writes path _, some cause =>
    ⟨1, "", Failure.report ⟨"cannot write " ++ path, some cause.message⟩⟩

end CascadingForms
