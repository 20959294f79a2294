import CascadingForms.Preview.View

/-!
# The screens of the preview

A screen is the list of its widgets from top to bottom, each with the text that it shows and what a
click on it does. Widgets without text are left out.
-/

namespace CascadingForms

inductive Action where
  | changeMenu
  | back
  | resetSelection
  | toggleForm
  | openDeployment (d : Deployment)
  | close

structure Widget where
  text : String
  action : Option Action := none

namespace Widget

def inert (text : String) : Widget := { text }

def button (text : String) (action : Action) : Widget := { text, action := some action }

def topBar : List Widget :=
  [button "Cambiar menú" .changeMenu, button "⬅ Atrás" .back,
    button "🔄 Reiniciar selección" .resetSelection, button "Con <form>" .toggleForm]

/-- The entry of a built-in menu in the list; one that cannot be loaded cannot be clicked. -/
def ofInfo (i : DeploymentInfo) : List Widget :=
  { text := i.label, action := if i.isOk then some (.openDeployment i.deployment) else none } ::
    i.error.toList.map inert

/-- A level of the cascade: its name and its combo box. -/
def ofLevel (v : LevelView) : List Widget := [inert v.name, inert v.selectedText]

/-- The likeness of a field at a leaf. -/
def ofControl : Control → List Widget
  | .hidden name value => [inert (name ++ " = " ++ if value.isEmpty then "(vacío)" else value)]
  | .label _ text => [inert text]
  | .fileInput _ accept multiple =>
    [inert ("📂 Examinar…" ++ (if multiple then " (varios)" else "") ++
      if accept.isEmpty then "" else " " ++ Text.join "," accept)]
  | .textInput name => [inert name]
  | .exercisePicker _ multiple options =>
    inert ("Ejercicios (" ++ (if multiple then "selección múltiple" else "selección única") ++
      ")") :: options.map fun o => inert ("  • " ++ o.label ++ " (" ++ o.key ++ ")")
  | .submit text => [inert text]
  | .dropdown _ _ _ _ => []

end Widget

namespace Preview

def deploymentWidgets (p : Preview) : List Widget :=
  [Widget.inert "Formulario de entregas", Widget.inert "Selecciona un menú"] ++
    DeploymentInfo.all.value.flatMap Widget.ofInfo ++
    [Widget.button "Salir" .close, Widget.inert p.message]

def cascadeWidgets (p : Preview) : List Widget :=
  Widget.topBar ++
    (match p.selector with
      | none => []
      | some s => [Widget.inert s.menu.name, Widget.inert (Text.join " › " s.breadcrumb)]) ++
    p.levelViews.flatMap Widget.ofLevel ++
    p.submissionControls.flatMap Widget.ofControl ++
    [Widget.inert p.message, Widget.inert "HTML", Widget.inert p.html] ++
    match p.decoded.value with
    | none => []
    | some decoded => [Widget.inert "Servidor", Widget.inert decoded]

/-- The widgets of the current screen that show a text. -/
def widgets (p : Preview) : List Widget :=
  (match p.screen with
    | .deployments => p.deploymentWidgets
    | .cascade => p.cascadeWidgets).filter (!·.text.isEmpty)

def texts (p : Preview) : List String := p.widgets.map Widget.text

/-- What a click does to the preview; closing the window leaves it as it is. -/
def perform (p : Preview) : Action → Logged Preview
  | .changeMenu => return p.changeMenu
  | .back => p.back
  | .resetSelection => p.resetSelection
  | .toggleForm => return { p with wrapsForm := !p.wrapsForm }
  | .openDeployment d => p.openDeployment d
  | .close => return p

/-- What a click on the first widget with a text does, if there is such a widget: nothing, where the
widget is inert. -/
def widgetAt? (p : Preview) (text : String) : Option Widget :=
  p.widgets.find? (·.text = text)

def comboBox? (p : Preview) (level : Nat) : Option LevelView :=
  match p.screen with
  | .deployments => none
  | .cascade => p.levelViews.find? (·.level = level)

/-- Picks an option of a combo box by its number. The selected option, and a number without an
option, change nothing. -/
def pick (p : Preview) (box : LevelView) (number : Nat) : Logged Preview :=
  match box.options[number]? with
  | none => return p
  | some choice =>
    if box.selected = some choice.key then return p else p.choose box.level choice.key

end Preview

end CascadingForms
