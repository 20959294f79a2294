/-!
# Menus

A menu is a tree of entries. An entry with children is shown as a dropdown that offers them; an
entry without children is a leaf, where something is submitted, and its descriptor says what. A path
of keys leads from the root to an entry: `Menu.entryAt?` follows it, `Menu.leaves` lists the paths
to all leaves in the order of the menu, and `Menu.height` is the length of the longest.
-/

namespace CascadingForms

/-- Who fills in the form of a menu. -/
inductive Role where
  | student
  | teacher
deriving DecidableEq

def Role.all : List Role := [.student, .teacher]

/-- The name of a role in menus. -/
def Role.name : Role → String
  | student => "student"
  | teacher => "teacher"

/-- The name of a role in messages. -/
def Role.title : Role → String
  | student => "Student"
  | teacher => "Teacher"

inductive Locale where
  | fr
  | en
deriving DecidableEq

def Locale.all : List Locale := [.fr, .en]

/-- The name of a locale in menus. -/
def Locale.name : Locale → String
  | fr => "fr"
  | en => "en"

/-- The name of a locale in messages. -/
def Locale.title : Locale → String
  | fr => "Fr"
  | en => "En"

/-- An option of a dropdown or picker: the value that is posted and the text that is shown. -/
structure Choice where
  key : String
  label : String
deriving DecidableEq

/-- The fixed texts of a form in the language of its menu. -/
structure Labels where
  submit : String
  sourceFiles : String
  functionName : String
deriving DecidableEq

/-- What is submitted at a leaf. Without extensions every file is accepted, and without exercises
there is no picker for them. -/
structure Descriptor where
  /-- The template of the exercise, relative to the tree of scripts. -/
  path : String
  collectsFiles : Bool
  acceptedExtensions : List String
  allowsMultipleFiles : Bool
  requiresFunctionName : Bool
  allowsMultipleExercises : Bool
  exercises : List Choice
  sourceLabel : Option String
deriving DecidableEq

namespace Descriptor

def hasPicker (d : Descriptor) : Bool := !d.exercises.isEmpty

def exercise? (d : Descriptor) (key : String) : Option Choice := d.exercises.find? (·.key = key)

/-- The label of the file input: the leaf's own, or the one of the menu. -/
def sourceText (d : Descriptor) (labels : Labels) : String := d.sourceLabel.getD labels.sourceFiles

end Descriptor

/-- A node of a menu with everything below it. -/
structure Entry where
  key : String
  label : String
  prompt : Option String
  children : List Entry
  descriptor : Option Descriptor

namespace Entry

def isLeaf (e : Entry) : Bool := e.children.isEmpty

def child? (e : Entry) (key : String) : Option Entry := e.children.find? (·.key = key)

def childKeys (e : Entry) : List String := e.children.map Entry.key

def choices (e : Entry) : List Choice := e.children.map fun child => ⟨child.key, child.label⟩

/-- The entry to which a path of keys leads, children first. -/
def descend? (e : Entry) : List String → Option Entry
  | [] => some e
  | key :: keys =>
    match e.child? key with
    | none => none
    | some child => child.descend? keys

mutual

/-- The leaves at or below an entry, each with the path to it. -/
def leaves : Entry → List (List String × Entry)
  | ⟨key, label, prompt, [], descriptor⟩ => [([], ⟨key, label, prompt, [], descriptor⟩)]
  | ⟨_, _, _, child :: children, _⟩ => leavesOf (child :: children)

def leavesOf : List Entry → List (List String × Entry)
  | [] => []
  | child :: children =>
    (child.leaves.map fun (path, leaf) => (child.key :: path, leaf)) ++ leavesOf children

end

mutual

/-- The length of the longest path below an entry. -/
def height : Entry → Nat
  | ⟨_, _, _, children, _⟩ => heightOf children

def heightOf : List Entry → Nat
  | [] => 0
  | child :: children => max (child.height + 1) (heightOf children)

end

end Entry

structure Menu where
  name : String
  role : Role
  locale : Locale
  labels : Labels
  root : Entry

namespace Menu

def entryAt? (m : Menu) (path : List String) : Option Entry := m.root.descend? path

/-- The leaves below the root, each with the path to it. -/
def leaves (m : Menu) : List (List String × Entry) := Entry.leavesOf m.root.children

/-- The largest number of selections that a leaf may take. -/
def height (m : Menu) : Nat := m.root.height

end Menu

end CascadingForms
