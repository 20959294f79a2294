import CascadingForms.Deployment.Text
import CascadingForms.Menu.Load

/-!
# Built-in menus

Four menus come with the program, one for each place where it is used and each kind of user.
-/

namespace CascadingForms

inductive Deployment where
  | onlineStudent
  | onlineTeacher
  | demoStudent
  | demoTeacher
deriving DecidableEq

namespace Deployment

def all : List Deployment := [onlineStudent, onlineTeacher, demoStudent, demoTeacher]

def name : Deployment → String
  | onlineStudent => "online-student"
  | onlineTeacher => "online-teacher"
  | demoStudent => "demo-student"
  | demoTeacher => "demo-teacher"

/-- The name of a deployment in saved states and log records. -/
def title : Deployment → String
  | onlineStudent => "OnlineStudent"
  | onlineTeacher => "OnlineTeacher"
  | demoStudent => "DemoStudent"
  | demoTeacher => "DemoTeacher"

def text : Deployment → String
  | onlineStudent => onlineStudentText
  | onlineTeacher => onlineTeacherText
  | demoStudent => demoStudentText
  | demoTeacher => demoTeacherText

def ofName (name : String) : Except LoadError Deployment :=
  match all.find? (·.name = name) with
  | some d => .ok d
  | none => .error (.unknownDeployment name)

def ofTitle? (title : String) : Option Deployment := all.find? (·.title = title)

def load (d : Deployment) : Logged (Except LoadError Menu) := Menu.load d.text d.name

end Deployment

end CascadingForms
