import WireSchema.CommandLine

/-!
The program: files and standard input are read, the command line is run on them with a silent log,
and its outcome is written out.
-/
namespace WireSchema.CommandLine

/-- A read error by its number in the operating system, which may come with its sign changed. -/
def ReadError.ofSystem (code : UInt32) (reason : String) : ReadError :=
  let number := if code < 0x80000000 then code else 0 - code
  match number with
  | 2 => .notFound
  | 20 => .notDirectory
  | 21 => .isDirectory
  | 36 => .nameTooLong
  | _ => .other (reason.capitalize ++ " (os error " ++ toString number ++ ")")

def ReadError.ofIO : IO.Error → ReadError
  | .noFileOrDirectory _ code reason | .permissionDenied _ code reason
  | .inappropriateType _ code reason | .invalidArgument _ code reason
  | .resourceExhausted _ code reason => .ofSystem code reason
  | .hardwareFault code reason | .otherError code reason => .ofSystem code reason
  | e => .other (toString e)

def readFile (path : String) : IO (Except ReadError ByteArray) := do
  match ← (IO.FS.readBinFile path).toBaseIO with
  | .ok bytes => return .ok bytes
  | .error e => return .error (.ofIO e)

partial def readAll (stream : IO.FS.Stream) (bytes : ByteArray) : IO ByteArray := do
  let more ← stream.read 65536
  if more.isEmpty then return bytes else readAll stream (bytes ++ more)

end WireSchema.CommandLine

open WireSchema CommandLine in
def main (arguments : List String) : IO UInt32 := do
  let paths := pathsOf arguments
  let files ← paths.mapM fun path => return (path, ← readFile path)
  let stdin ← if paths.isEmpty then readAll (← IO.getStdin) .empty else pure .empty
  let read (path : String) : Except ReadError ByteArray :=
    (files.lookup path).getD (.error .notFound)
  let outcome := run read stdin arguments
  IO.print outcome.stdout
  IO.eprint outcome.stderr
  return outcome.code
