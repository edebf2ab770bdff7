import WireSchema.Definition.OfNode
import WireSchema.Xml.Document

/-!
Reading a definition from a text, within the limits of a configuration.
-/
namespace WireSchema
open Xml

/-- What a text may hold. The length is counted in bytes of UTF-8 and judged before anything else. -/
structure Config where
  allowDoctype : Bool := false
  nodesLimit : UInt32 := 4294967295
  maxLength? : Option Nat := none
  deriving DecidableEq, Repr

def StructuralError.ofXml (e : Xml.Error) : StructuralError :=
  .xml e.position.row e.position.column e.message

def Config.lengthError? (config : Config) (source : String) : Option StructuralError :=
  match config.maxLength? with
  | none => none
  | some limit =>
    if source.utf8ByteSize > limit then some (.inputTooLarge source.utf8ByteSize limit) else none

/-- Reading a text as a tree: with a DOCTYPE or without, and up to a number of nodes. -/
abbrev TreeReader :=
  (allowDoctype : Bool) → (nodesLimit : UInt32) → (source : String) → Except Xml.Error Node

namespace Definition

/-- The definition in a text, with the events of reading it. -/
def traceBy (read : TreeReader) (config : Config) (source : String) : Traced Definition :=
  match config.lengthError? source with
  | some e => .fail (.structural e)
  | none =>
    match read config.allowDoctype config.nodesLimit source with
    | .error e => .fail (.structural (.ofXml e))
    | .ok document =>
      match document.rootElement? with
      | none => .fail (.structural (.ofXml .noRoot))
      | some root => Definition.ofNode root

def parseBy (read : TreeReader) (config : Config) (source : String) :
    Except ParseError Definition :=
  (traceBy read config source).result

def trace (config : Config) (source : String) : Traced Definition := traceBy Xml.read config source

def parse (config : Config) (source : String) : Except ParseError Definition :=
  parseBy Xml.read config source

end Definition

end WireSchema
