import CascadingForms.Deployment.Basic

/-!
# Command lines

Four commands work on menus. Options are written in long or, some of them, in short form, with their
value attached or as the next argument; a value that is an argument of its own does not start with a
hyphen, unless it is nothing but one. Behind two hyphens no option follows. Where a menu has to be
named and no option does it, the environment may.
-/

namespace CascadingForms

/-- Where a command takes its menu from; the file comes first if both are given. -/
structure MenuChoice where
  deployment : Option Deployment
  file : Option String

inductive ExportFormat where
  | json
  | yaml
deriving DecidableEq

inductive Command where
  | check (files : List String) (deployments : List Deployment)
  /-- The form is printed within its element if an action is given for it. -/
  | render (menu : MenuChoice) (select : List String) (action output : Option String)
  | exportMenu (menu : MenuChoice) (format : ExportFormat)
  | decode (menu : MenuChoice) (fields : List String)

inductive Invocation where
  | help
  | misuse
  | run (command : Command)

namespace CommandLine

structure Flag where
  name : String
  short : Option Char := none
  takesValue : Bool := true

/-- An argument, or an option with its value. -/
inductive Item where
  | help
  | option (name value : String)
  | positional (text : String)

/-- Whether an argument may be the value of an option in front of it. -/
def isValue (s : String) : Bool := s.toList.head? ≠ some '-' || s = "-"

/-- An option whose value is attached to it, or else is the next argument; with the arguments left.
-/
def takeValue (flag : Flag) (attached : Option String) (rest : List String) :
    Option (Item × List String) :=
  match attached, rest with
  | some value, _ => if flag.takesValue then some (.option flag.name value, rest) else none
  | none, [] => if flag.takesValue then none else some (.option flag.name "", [])
  | none, value :: others =>
    if !flag.takesValue then some (.option flag.name "", rest)
    else if isValue value then some (.option flag.name value, others)
    else none

/-- The next item and the arguments behind it. -/
def takeItem (flags : List Flag) (arg : String) (rest : List String) :
    Option (Item × List String) :=
  match arg.toList with
  | '-' :: '-' :: name =>
    let name := String.ofList name
    let (name, attached) := match Text.splitOnce '=' name with
      | some (name, value) => (name, some value)
      | none => (name, none)
    if name = "help" && attached.isNone then some (.help, rest)
    else
      match flags.find? (·.name = name) with
      | some flag => takeValue flag attached rest
      | none => none
  | '-' :: 'h' :: _ => some (.help, rest)
  | '-' :: c :: attached =>
    match flags.find? (·.short = some c) with
    | some flag =>
      takeValue flag (match attached with
        | [] => none
        | '=' :: value => some (String.ofList value)
        | value => some (String.ofList value)) rest
    | none => none
  | _ => some (.positional arg, rest)

/-- All items of a command line; every step takes at least one argument. -/
def items? (flags : List Flag) : Nat → List String → Option (List Item)
  | _, [] => some []
  | 0, _ => none
  | fuel + 1, arg :: rest =>
    if arg = "--" then some (rest.map .positional)
    else
      match takeItem flags arg rest with
      | none => none
      | some (.help, _) => some [.help]
      | some (item, rest) => (items? flags fuel rest).map (item :: ·)

def positionals (items : List Item) : List String :=
  items.filterMap fun item => match item with
    | .positional text => some text
    | _ => none

/-- The values of an option, in the order in which they are given. -/
def valuesOf (name : String) (items : List Item) : List String :=
  items.filterMap fun item => match item with
    | .option other value => if other = name then some value else none
    | _ => none

/-- The value of an option that may be given once. -/
def single? (name : String) (items : List Item) : Option (Option String) :=
  match valuesOf name items with
  | [] => some none
  | [value] => some (some value)
  | _ => none

/-- Reads a value, if there is one. -/
def each? {α : Type} (read : String → Option α) : Option String → Option (Option α)
  | none => some none
  | some s => (read s).map some

def deployment? (s : String) : Option Deployment := (Deployment.ofName s).toOption

def path? (s : String) : Option String := if s.isEmpty then none else some s

def format? (s : String) : Option ExportFormat :=
  if s = "json" then some .json else if s = "yaml" then some .yaml else none

/-- The variables that name a menu where no option does. -/
structure Environment where
  deployment : Option String := none
  menu : Option String := none

def deploymentVariable : String := "BADASS_FORM_DEPLOYMENT"

def menuVariable : String := "BADASS_FORM_MENU"

def deploymentFlag : Flag := { name := "deployment", short := some 'd' }

def menuFlags : List Flag := [deploymentFlag, { name := "menu", short := some 'm' }]

def menuChoice? (env : Environment) (items : List Item) : Option MenuChoice := do
  let deployment ← single? "deployment" items
  let menu ← single? "menu" items
  return {
    deployment := ← each? deployment? (deployment <|> env.deployment)
    file := ← each? path? (menu <|> env.menu) }

def check? (items : List Item) : Option Command := do
  let files ← (positionals items).mapM path?
  let deployments ← (valuesOf "deployment" items).mapM deployment?
  return .check files deployments

def renderFlags : List Flag :=
  menuFlags ++ [{ name := "select", short := some 's' }, { name := "form", takesValue := false },
    { name := "action" }, { name := "output", short := some 'o' }]

def render? (env : Environment) (items : List Item) : Option Command := do
  let menu ← menuChoice? env items
  let form ← single? "form" items
  let action ← single? "action" items
  let output ← each? path? (← single? "output" items)
  if (positionals items).isEmpty then
    return .render menu ((valuesOf "select" items).flatMap (Text.split ','))
      (form.map fun _ => action.getD "/") output
  else none

def exportFlags : List Flag := menuFlags ++ [{ name := "format", short := some 'f' }]

def export? (env : Environment) (items : List Item) : Option Command := do
  let menu ← menuChoice? env items
  let format ← each? format? (← single? "format" items)
  if (positionals items).isEmpty then return .exportMenu menu (format.getD .json) else none

def decode? (env : Environment) (items : List Item) : Option Command := do
  return .decode (← menuChoice? env items) (positionals items)

def invocation (flags : List Flag) (command? : List Item → Option Command) (args : List String) :
    Invocation :=
  match items? flags args.length args with
  | none => .misuse
  | some items =>
    if items.any fun item => item matches .help then .help
    else
      match command? items with
      | some command => .run command
      | none => .misuse

def commandNames : List String := ["check", "render", "export", "decode"]

def parse (env : Environment) : List String → Invocation
  | "check" :: args => invocation [deploymentFlag] check? args
  | "render" :: args => invocation renderFlags (render? env) args
  | "export" :: args => invocation exportFlags (export? env) args
  | "decode" :: args => invocation menuFlags (decode? env) args
  | ["help"] => .help
  | ["help", name] => if ("help" :: commandNames).contains name then .help else .misuse
  | arg :: _ => if arg = "--help" || "-h".isPrefixOf arg then .help else .misuse
  | [] => .misuse

end CommandLine

end CascadingForms
