/-!
Names of elements and attributes, as they are written and as they are resolved.
-/
namespace WireSchema.Xml

structure QualifiedName where
  qualifier : String
  localName : String
  deriving DecidableEq, Repr

/-- The written form; a colon after an empty qualifier is left out. -/
def QualifiedName.toText (name : QualifiedName) : String :=
  if name.qualifier.isEmpty then name.localName else name.qualifier ++ ":" ++ name.localName

structure ExpandedName where
  uri? : Option String
  localName : String
  deriving DecidableEq, Repr

end WireSchema.Xml
