import WireSchema.CommandLine.Log
import WireSchema.Definition.Outline
import WireSchema.Definition.Parse
import WireSchema.Definition.Report

/-!
The command line: every file named is read as a definition and shown, or reported as failed. One
file never affects what is said of another. Without files the standard input is read. The log is
written to the error output as well.
-/
namespace WireSchema.CommandLine

inductive ReadError
  | notFound
  | notDirectory
  | isDirectory
  | nameTooLong
  | notUtf8
  | other (reason : String)
  deriving DecidableEq, Repr

def ReadError.reason : ReadError → String
  | notFound => "No such file or directory (os error 2)"
  | notDirectory => "Not a directory (os error 20)"
  | isDirectory => "Is a directory (os error 21)"
  | nameTooLong => "File name too long (os error 36)"
  | notUtf8 => "stream did not contain valid UTF-8"
  | other reason => reason

/-- How a definition is shown. -/
inductive Style
  | report
  | outline
  deriving DecidableEq, Repr

def isFlag (argument : String) : Bool := argument == "-d" || argument == "--debug"

def styleOf (arguments : List String) : Style :=
  if arguments.any isFlag then .outline else .report

/-- The arguments that are paths: all but the first flag. -/
def pathsOf (arguments : List String) : List String := arguments.eraseP isFlag

structure Outcome where
  code : UInt32
  stdout : String
  stderr : String
  deriving DecidableEq, Repr

def decode (bytes : ByteArray) : Except ReadError String :=
  match String.fromUTF8? bytes with
  | none => .error .notUtf8
  | some source => .ok source

def present (style : Style) (label : String) (d : Definition) : String :=
  match style with
  | .report => label ++ ":\n" ++ d.report
  | .outline => label ++ ": " ++ d.outline.spread ++ "\n"

/-- What a run has written so far, how many of its inputs have failed, and how much it has recorded. -/
structure Session where
  failures : Nat := 0
  recorded : Nat := 0
  stdout : String := ""
  stderr : String := ""
  deriving DecidableEq, Repr

namespace Session

def print (session : Session) (block : String) : Session :=
  { session with stdout := session.stdout ++ block }

def fail (session : Session) (label reason : String) : Session :=
  { session with
    failures := session.failures + 1
    stderr := session.stderr ++ (label ++ ": " ++ reason ++ "\n") }

def record (log : Log) (session : Session) (record : Record) : Session :=
  { session with
    recorded := session.recorded + 1
    stderr := session.stderr ++ log session.recorded record }

def conclude (log : Log) (style : Style) (session : Session) (label : String) :
    Except ParseError Definition → Session
  | .ok d => (session.record log (.accepted label d)).print (present style label d)
  | .error e => (session.record log (.refused label e)).fail label e.message

def dump (log : Log) (style : Style) (session : Session) (label source : String) : Session :=
  let reading := Definition.trace {} source
  let session := (reading.entries.map Record.ofEvent).foldl (record log) session
  session.conclude log style label reading.result

/-- Goes on to one more path. A failure does not keep the run from the paths after it. -/
def visit (log : Log) (read : String → Except ReadError ByteArray) (style : Style)
    (session : Session) (path : String) : Session :=
  match (read path).bind decode with
  | .ok source => session.dump log style path source
  | .error e => session.fail path e.reason

/-- The end of a run, with a last line that counts the failures if there are any. -/
def finish (session : Session) : Outcome :=
  if session.failures = 0 then ⟨0, session.stdout, session.stderr⟩
  else
    { code := 1
      stdout := session.stdout
      stderr := session.stderr ++
        ("lelei_dump: " ++ Text.decimal session.failures ++ " document(s) failed\n") }

end Session

/-- The run on arguments, with a way to read files, the standard input and a log. -/
def run (read : String → Except ReadError ByteArray) (stdin : ByteArray)
    (arguments : List String) (log : Log := .silent) : Outcome :=
  let style := styleOf arguments
  match pathsOf arguments with
  | [] =>
    match decode stdin with
    | .error e => ⟨1, "", "Error: " ++ e.reason ++ "\n"⟩
    | .ok source => (Session.dump log style {} "<stdin>" source).finish
  | paths => (paths.foldl (Session.visit log read style) {}).finish

end WireSchema.CommandLine
