import CascadingForms.Files.Basic
import CascadingForms.Text.Split

/-!
# A directory held in memory

`Directory` keeps the files below a working directory with their bytes. Every name in front of a
file is a directory; nothing outside of the working directory can be read or written.
-/

namespace CascadingForms

structure Directory where
  /-- Each file under the names that lead to it. -/
  files : List (List String × ByteArray) := []

namespace Directory

inductive Place where
  | file (names : List String) (bytes : ByteArray)
  | directory (names : List String)
  | outside

/-- What the names in a directory lead to. -/
def place? (d : Directory) (names : List String) : Option Place :=
  match d.files.find? (·.1 = names) with
  | some (_, bytes) => some (.file names bytes)
  | none =>
    if names.isEmpty || d.files.any (fun f => names.isPrefixOf f.1) then some (.directory names)
    else none

def enter (d : Directory) (place : Place) (name : String) : Except FileFailure Place :=
  match place with
  | .file _ _ => .error .notDirectory
  | .outside => if ["", ".", ".."].contains name then .ok .outside else .error .notFound
  | .directory names =>
    if name = "" || name = "." then .ok place
    else if name = ".." then
      if names.isEmpty then .ok .outside else .ok (.directory names.dropLast)
    else if 255 < name.utf8ByteSize then .error .nameTooLong
    else
      match d.place? (names ++ [name]) with
      | some place => .ok place
      | none => .error .notFound

/-- The names in a path and the place that it starts from. -/
def start (path : String) : Except FileFailure (Place × List String) :=
  if path.toList.contains '\x00' then .error .nulInName
  else if path = "" then .error .notFound
  else if 4095 < path.utf8ByteSize then .error .nameTooLong
  else
    match Text.split '/' path with
    | "" :: names => .ok (.outside, names)
    | names => .ok (.directory [], names)

def read (d : Directory) : FileSystem := fun path => do
  let (place, names) ← start path
  match ← names.foldlM d.enter place with
  | .file _ bytes =>
    match String.fromUTF8? bytes with
    | some text => .ok text
    | none => .error .notText
  | _ => .error .isDirectory

/-- Puts a file in place of whatever has its names. -/
def put (d : Directory) (names : List String) (bytes : ByteArray) : Directory :=
  { files := d.files.filter (·.1 ≠ names) ++ [(names, bytes)] }

def remove (d : Directory) (names : List String) : Directory :=
  { files := d.files.filter (·.1 ≠ names) }

/-- The bytes of the file with these names. -/
def bytes? (d : Directory) (names : List String) : Option ByteArray :=
  (d.files.find? (·.1 = names)).map (·.2)

/-- Writes a text to a path whose directory exists. -/
def write (d : Directory) (path text : String) : Except FileFailure Directory := do
  let (place, names) ← start path
  match ← names.dropLast.foldlM d.enter place, names.getLast? with
  | .file _ _, _ => .error .notDirectory
  | .outside, some name =>
    .error (if ["", ".", ".."].contains name then .isDirectory else .notFound)
  | .directory parents, some name =>
    if ["", ".", ".."].contains name then .error .isDirectory
    else if 255 < name.utf8ByteSize then .error .nameTooLong
    else
      match d.place? (parents ++ [name]) with
      | some (.directory _) => .error .isDirectory
      | _ => .ok (d.put (parents ++ [name]) text.toUTF8)
  | _, none => .error .isDirectory

end Directory

end CascadingForms
