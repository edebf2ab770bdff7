import WireSchema.CommandLine

/-!
A directory that holds nothing but files, and the reading of paths that start in it.
-/
namespace WireSchema.CommandLine

structure File where
  name : String
  content : ByteArray

/-- The files in the order in which they were written. A name holds what was written last. -/
abbrev Directory := List File

/-- The most bytes that one part of a path may have. -/
def nameLimit : Nat := 255

def pathLimit : Nat := 4095

/-- What a path leads to. Nothing is known of the entries of other directories. -/
inductive Target
  | here
  | elsewhere
  | file (content : ByteArray)

namespace Directory

def file? (directory : Directory) (name : String) : Option File :=
  directory.reverse.find? (·.name == name)

def step (directory : Directory) (target : Target) (part : String) : Except ReadError Target :=
  match target with
  | .file _ => .error .notDirectory
  | .here =>
    if part = "" ∨ part = "." then .ok .here
    else if part = ".." then .ok .elsewhere
    else if part.utf8ByteSize > nameLimit then .error .nameTooLong
    else
      match directory.file? part with
      | none => .error .notFound
      | some file => .ok (.file file.content)
  | .elsewhere =>
    if part = "" ∨ part = "." ∨ part = ".." then .ok .elsewhere
    else if part.utf8ByteSize > nameLimit then .error .nameTooLong
    else .error .notFound

/-- The target of a path. Its parts are followed one by one, and the first failure counts. -/
def resolve (directory : Directory) (path : String) : Except ReadError Target :=
  if path.isEmpty then .error .notFound
  else if path.utf8ByteSize > pathLimit then .error .nameTooLong
  else
    let start := if path.startsWith "/" then Target.elsewhere else .here
    (path.splitOn "/").foldlM directory.step start

def read (directory : Directory) (path : String) : Except ReadError ByteArray :=
  match directory.resolve path with
  | .error e => .error e
  | .ok (.file content) => .ok content
  | .ok _ => .error .isDirectory

end Directory

end WireSchema.CommandLine
