/-!
# Files as far as menus need them

Reading a file gives its text or a reason why there is none. A `FileSystem` is the answer for every
path at one moment.
-/

namespace CascadingForms

inductive FileFailure where
  | notFound
  | notDirectory
  | isDirectory
  | nameTooLong
  | nulInName
  | notText
  | other (text : String)
deriving DecidableEq

/-- The words of the operating system for a failure. -/
def FileFailure.message : FileFailure → String
  | notFound => "No such file or directory (os error 2)"
  | notDirectory => "Not a directory (os error 20)"
  | isDirectory => "Is a directory (os error 21)"
  | nameTooLong => "File name too long (os error 36)"
  | nulInName => "file name contained an unexpected NUL byte"
  | notText => "stream did not contain valid UTF-8"
  | other text => text

abbrev FileSystem := String → Except FileFailure String

end CascadingForms
