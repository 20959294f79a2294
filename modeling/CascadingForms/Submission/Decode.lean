import CascadingForms.Submission.Basic
import CascadingForms.Text.Blank

/-!
# Checking a posted form against its menu

`Menu.chain` follows the dropdowns: the value posted under the key of an entry is the key of the
next one. The receiver of a form goes on for as long as a value is the name of another field, so a
field with the name of the leaf is refused. `Menu.decodeStudent` and `Menu.decodeTeacher` check the
other fields too. Whatever does not fit is refused, and nothing is guessed.
-/

namespace CascadingForms

namespace Entry

mutual

/-- The keys that a form chooses below an entry, and the leaf to which they lead. -/
def chain (form : PostedForm) : Entry → Except SubmissionError (List String × Entry)
  | ⟨key, label, prompt, [], descriptor⟩ =>
    match form.get? key with
    | some extra => .error (.unknownOption key extra)
    | none => .ok ([], ⟨key, label, prompt, [], descriptor⟩)
  | ⟨key, _, _, child :: children, _⟩ =>
    match form.get? key with
    | none => .error (.missingField key)
    | some value => chainAmong form key value (child :: children)

def chainAmong (form : PostedForm) (field value : String) :
    List Entry → Except SubmissionError (List String × Entry)
  | [] => .error (.unknownOption field value)
  | child :: children =>
    if child.key = value then
      match child.chain form with
      | .error e => .error e
      | .ok (keys, leaf) => .ok (child.key :: keys, leaf)
    else chainAmong form field value children

end

end Entry

namespace Descriptor

/-- The name of the function to run: what is posted first, without the blanks around it. -/
def functionName (d : Descriptor) (form : PostedForm) :
    Except SubmissionError (Option String) :=
  if d.requiresFunctionName then
    match (form.get? Field.function).map Text.trim with
    | none => .error (.missingField Field.function)
    | some name =>
      if name.isEmpty then .error (.missingField Field.function) else .ok (some name)
  else .ok none

/-- The exercises asked for, empty values aside. Without a picker they count for nothing. -/
def pickedExercises (d : Descriptor) (form : PostedForm) :
    Except SubmissionError (List String) :=
  let picked := (form.getAll Field.exercise).filter (!·.isEmpty)
  if !d.hasPicker then .ok []
  else if picked.isEmpty then .error (.missingField Field.exercise)
  else
    match picked.find? fun key => (d.exercise? key).isNone with
    | some key => .error (.unknownExercise key)
    | none =>
      if !d.allowsMultipleExercises && 1 < picked.length then
        .error (.tooManyExercises picked.length)
      else .ok picked

end Descriptor

namespace Menu

/-- The keys that a form chooses, and the leaf to which they lead. -/
def chain (m : Menu) (form : PostedForm) : Except SubmissionError (List String × Entry) :=
  m.root.chain form

/-- The keys that a form chooses and the descriptor of their leaf, whose path has to be posted. -/
def chosen (m : Menu) (form : PostedForm) :
    Except SubmissionError (List String × Descriptor) :=
  match m.chain form with
  | .error e => .error e
  | .ok (keys, leaf) =>
    match leaf.descriptor, form.get? Field.path with
    | none, _ => .error (.missingField Field.path)
    | _, none => .error (.missingField Field.path)
    | some d, some posted =>
      if posted = d.path then .ok (keys, d) else .error (.pathMismatch posted d.path)

/-- What follows of a choice, or a record of why there is none. -/
def logged (m : Menu) (kind : String) {α : Type}
    (chosen : Except SubmissionError (List String × Descriptor))
    (next : List String → Descriptor → Except SubmissionError α) :
    Logged (Except SubmissionError α) :=
  match chosen with
  | .error e =>
    ⟨.error e, [⟨.warning, "rejected " ++ kind ++ " for \x60" ++ m.name ++ "\x60: " ++ e.message⟩]⟩
  | .ok (keys, d) => ⟨next keys d, []⟩

def decodeStudent (m : Menu) (form : PostedForm) :
    Logged (Except SubmissionError StudentSubmission) :=
  if m.role ≠ .student then ⟨.error (.wrongRole m.role), []⟩
  else
    m.logged "submission" (m.chosen form) fun selection d =>
      (d.functionName form).map fun name => ⟨selection, d.path, name⟩

def decodeTeacher (m : Menu) (form : PostedForm) :
    Logged (Except SubmissionError TeacherQuery) :=
  if m.role ≠ .teacher then ⟨.error (.wrongRole m.role), []⟩
  else
    m.logged "teacher query" (m.chosen form) fun selection d =>
      (d.pickedExercises form).map fun exercises =>
        ⟨selection.head?.getD "", selection.getLast?.getD "", selection, exercises⟩

end Menu

end CascadingForms
