import CascadingForms.Form.Control
import CascadingForms.Text.Split

/-!
# Controls as HTML

Attributes stand in single quotes. Every text from a menu is escaped, in attributes and outside of
them, so that none can open or close a tag or an attribute.
-/

namespace CascadingForms.Html

def escapeChar (c : Char) : List Char :=
  if c = '&' then ['&', 'a', 'm', 'p', ';']
  else if c = '<' then ['&', 'l', 't', ';']
  else if c = '>' then ['&', 'g', 't', ';']
  else if c = '\'' then ['&', '#', '3', '9', ';']
  else if c = '"' then ['&', 'q', 'u', 'o', 't', ';']
  else [c]

def escape (s : String) : String := String.ofList (s.toList.flatMap escapeChar)

/-- A text that stands only where a condition holds. -/
def textIf (condition : Bool) (s : String) : String := if condition then s else ""

/-- An option of a select element, marked if its key is the selected one. -/
def option (selected : Option String) (choice : Choice) : String :=
  "<option value='" ++ escape choice.key ++ "'" ++
    textIf (selected = some choice.key) " selected" ++ ">" ++ escape choice.label ++ "</option>"

def options (choices : List Choice) (selected : Option String) : String :=
  Text.join "" (choices.map (option selected))

def control : Control → String
  | .dropdown name placeholder choices selected =>
    "<select id='" ++ escape name ++ "' name='" ++ escape name ++ "'><option disabled" ++
      textIf selected.isNone " selected" ++ " value>" ++ escape placeholder ++ "</option>" ++
      options choices selected ++ "</select>"
  | .hidden name value =>
    "<input type='hidden' name='" ++ escape name ++ "' value='" ++ escape value ++ "'>"
  | .label target text => "<label for='" ++ escape target ++ "'>" ++ escape text ++ "</label>"
  | .fileInput name accept multiple =>
    "<input type='file' name='" ++ escape name ++ "'" ++ textIf multiple " multiple=''" ++
      textIf (!accept.isEmpty) (" accept='" ++ escape (Text.join "," accept) ++ "'") ++ ">"
  | .textInput name => "<input name='" ++ escape name ++ "' type='text'>"
  | .exercisePicker name multiple choices =>
    "<select " ++ textIf multiple "multiple='' " ++ "name='" ++ escape name ++ "'>" ++
      options choices none ++ "</select>"
  | .submit text => "<input type='submit' value='" ++ escape text ++ "'>"

def controls (cs : List Control) : String := Text.join "" (cs.map control)

def form (id action body : String) : String :=
  "<form id='" ++ escape id ++ "' action='" ++ escape action ++
    "' method='post' enctype='multipart/form-data'>" ++ body ++ "</form>"

end CascadingForms.Html
