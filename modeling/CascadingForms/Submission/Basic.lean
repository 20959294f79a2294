import CascadingForms.Form.Posted
import CascadingForms.Json.Value

/-!
# Submissions

What a posted form says once it has been checked against its menu: the work that a student hands in,
or the work of a group that a teacher asks for.
-/

namespace CascadingForms

inductive SubmissionError where
  | missingField (name : String)
  | unknownOption (field value : String)
  | pathMismatch (posted expected : String)
  | unknownExercise (key : String)
  | tooManyExercises (count : Nat)
  | wrongRole (expected : Role)
deriving DecidableEq

def SubmissionError.message : SubmissionError → String
  | missingField name => "missing field \x60" ++ name ++ "\x60"
  | unknownOption field value =>
    "\x60" ++ value ++ "\x60 is not an option of \x60" ++ field ++ "\x60"
  | pathMismatch posted expected =>
    "posted path \x60" ++ posted ++ "\x60 does not match the selected exercise (\x60" ++
      expected ++ "\x60)"
  | unknownExercise key => "exercise \x60" ++ key ++ "\x60 is not offered for this selection"
  | tooManyExercises count => "only one exercise can be chosen here, got " ++ toString count
  | wrongRole expected => "this menu is for " ++ expected.title ++ " submissions"

structure StudentSubmission where
  selection : List String
  path : String
  functionName : Option String
deriving DecidableEq

def StudentSubmission.toJson (s : StudentSubmission) : Json :=
  .object [("selection", .strings s.selection), ("path", .string s.path),
    ("function_name", .ofText? s.functionName)]

structure TeacherQuery where
  course : String
  group : String
  selection : List String
  exercises : List String
deriving DecidableEq

namespace TeacherQuery

def toJson (q : TeacherQuery) : Json :=
  .object [("course", .string q.course), ("group", .string q.group),
    ("selection", .strings q.selection), ("exercises", .strings q.exercises)]

/-- The path of a report for each exercise: the exercise takes the place of the group. -/
def reportBases (q : TeacherQuery) : List (List String) :=
  q.exercises.map fun exercise => q.selection.dropLast ++ [exercise]

end TeacherQuery

end CascadingForms
