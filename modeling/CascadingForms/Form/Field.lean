/-!
# Names of form fields

Dropdowns are posted under the keys of menu entries, and everything else under the fixed names here.
-/

namespace CascadingForms.Field

def path : String := "path"

def source : String := "source"

def function : String := "FUN"

def exercise : String := "exercise"

/-- The names that the receiver of a form reads itself, its login page included. No key of a menu
may be one of them. -/
def reserved : List String :=
  [path, source, function, exercise, "student", "consent", "login", "password"]

end CascadingForms.Field
