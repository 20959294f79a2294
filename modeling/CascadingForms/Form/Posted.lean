import CascadingForms.Form.Control

/-!
# Posted forms

A posted form is the list of its fields in the order in which they were sent; a name may come more
than once. `get?` gives the first value of a name and `getAll` every one.
-/

namespace CascadingForms

structure PostedForm where
  fields : List (String × String) := []

namespace PostedForm

def push (f : PostedForm) (name value : String) : PostedForm := ⟨f.fields ++ [(name, value)]⟩

def pushAll (f : PostedForm) (fields : List (String × String)) : PostedForm := ⟨f.fields ++ fields⟩

def getAll (f : PostedForm) (name : String) : List String :=
  (f.fields.filter (·.1 = name)).map (·.2)

def get? (f : PostedForm) (name : String) : Option String := (f.getAll name).head?

def contains (f : PostedForm) (name : String) : Bool := f.fields.any (·.1 = name)

/-- The names of the fields, each once. -/
def names (f : PostedForm) : List String := f.fields.foldl (fun names (name, _) =>
  if names.contains name then names else names ++ [name]) []

/-- What a control posts before its user fills anything in: the option that is selected in a
dropdown, or a hidden value. -/
def ofControl : Control → List (String × String)
  | .dropdown name _ _ (some key) => [(name, key)]
  | .hidden name value => [(name, value)]
  | _ => []

def ofControls (controls : List Control) : PostedForm := ⟨controls.flatMap ofControl⟩

end PostedForm

end CascadingForms
