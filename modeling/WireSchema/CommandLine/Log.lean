import WireSchema.Definition.Event

/-!
The log of a run. For every source that is read, the events of reading it are recorded and then what
came of it. What is written of a record is not the affair of the run: a log may show the time, pass
over records or write nothing at all.
-/
namespace WireSchema.CommandLine

inductive Level
  | info
  | debug
  | trace
  deriving DecidableEq, Repr

structure Record where
  level : Level
  target : String
  message : String
  details : List (String × String)
  deriving DecidableEq, Repr

namespace Record

def ofEvent (event : Event) : Record where
  level :=
    match event.level with
    | .debug => .debug
    | .trace => .trace
  target := "lelei::parser"
  message := event.message
  details := event.details

def accepted (label : String) (d : Definition) : Record where
  level := .info
  target := "lelei_dump"
  message := "parsed"
  details := [("source", label), ("proto", d.protocol.name),
    ("fields", toString d.layout.fields.length)]

def refused (label : String) (e : ParseError) : Record where
  level := .debug
  target := "lelei_dump"
  message := "parse failed"
  details := [("source", label), ("kind", e.kind)]

end Record

/-- What is written of a record, by the number of records before it: the time may be part of it. -/
abbrev Log := Nat → Record → String

def Log.silent : Log := fun _ _ => ""

end WireSchema.CommandLine
