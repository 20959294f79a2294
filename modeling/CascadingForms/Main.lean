import CascadingForms.CommandLine.Commands

/-!
# The program

Reads the files that the command line names, runs the command, and prints or writes what comes of
it.
-/

namespace CascadingForms.Main

/-- Whether an error has a number, which some operations give with a minus sign. -/
def hasCode (code number : UInt32) : Bool := code = number || code = 0 - number

def failureOf : IO.Error → FileFailure
  | .noFileOrDirectory _ _ _ => .notFound
  | .inappropriateType _ code _ => if hasCode code 21 then .isDirectory else .notDirectory
  | .invalidArgument file code details =>
    if hasCode code 36 then .nameTooLong
    else .other (toString (IO.Error.invalidArgument file code details))
  | e => .other (toString e)

def readFile (path : String) : IO (Except FileFailure String) := do
  try
    match String.fromUTF8? (← IO.FS.readBinFile path) with
    | some text => return .ok text
    | none => return .error .notText
  catch e => return .error (failureOf e)

/-- The contents of some files as they are now. -/
def readFiles (paths : List String) : IO FileSystem := do
  let contents ← paths.mapM fun path => do return (path, ← readFile path)
  return fun path =>
    match contents.find? (·.1 = path) with
    | some (_, content) => content
    | none => .error .notFound

def writeFile (path text : String) : IO (Option FileFailure) := do
  try
    IO.FS.writeFile path text
    return none
  catch e => return some (failureOf e)

def run (command : Command) : IO Report := do
  let outcome := command.run (← readFiles command.inputs)
  match outcome with
  | .writes path text => return outcome.report (← writeFile path text)
  | _ => return outcome.report none

def usage : String := "usage: genform check|render|export|decode [arguments]\n"

end CascadingForms.Main

open CascadingForms in
def main (args : List String) : IO UInt32 := do
  let env := {
    deployment := ← IO.getEnv CommandLine.deploymentVariable
    menu := ← IO.getEnv CommandLine.menuVariable }
  match CommandLine.parse env args with
  | .help =>
    IO.print Main.usage
    return 0
  | .misuse =>
    IO.eprint Main.usage
    return 2
  | .run command => do
    let report ← Main.run command
    IO.print report.output
    IO.eprint report.errors
    return report.exitCode.toUInt32
