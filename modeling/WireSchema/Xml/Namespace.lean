import WireSchema.Xml.Error
import WireSchema.Xml.Node

/-!
Namespaces: bindings of prefixes to URIs, the scope they form, and the resolution of the names of
elements and attributes in it. A binding without a prefix is that of the default namespace, which
elements take and attributes do not.
-/
namespace WireSchema.Xml

def xmlUri : String := "http://www.w3.org/XML/1998/namespace"

def xmlnsUri : String := "http://www.w3.org/2000/xmlns/"

structure Binding where
  name? : Option String
  uri : String
  deriving DecidableEq, Repr

/-- The bindings in force; the first one of a prefix counts. -/
abbrev Scope := List Binding

def Scope.uri? (scope : Scope) (name? : Option String) : Option String :=
  (scope.find? (·.name? == name?)).map (·.uri)

structure RawAttribute where
  name : QualifiedName
  value : String
  place : Position
  deriving DecidableEq, Repr

/-- What an attribute stands for: a binding, nothing new, or an attribute of the element. -/
inductive Role
  | binding (b : Binding)
  | settled
  | plain
  deriving DecidableEq, Repr

namespace RawAttribute

/-- The URI that a prefix is bound to here; `xml` is bound from the start and stays so. -/
private def prefixRole (a : RawAttribute) : Except Error Role :=
  if a.value = xmlnsUri then .error (.reservedXmlnsUri a.place)
  else if a.name.localName = "xml" then
    if a.value = xmlUri then .ok .settled else .error (.wrongXmlUri a.place)
  else if a.value = xmlUri then .error (.reservedXmlUri a.place)
  else .ok (.binding ⟨some a.name.localName, a.value⟩)

private def defaultRole (a : RawAttribute) : Except Error Role :=
  if a.value = xmlUri then .error (.reservedXmlUri a.place)
  else if a.value = xmlnsUri then .error (.reservedXmlnsUri a.place)
  else .ok (.binding ⟨none, a.value⟩)

def role (a : RawAttribute) (bindings : Scope) : Except Error Role :=
  if a.name.qualifier = "xmlns" then
    match prefixRole a with
    | .error e => .error e
    | .ok role =>
      if bindings.any (·.name? == some a.name.localName) then
        .error (.duplicatePrefix a.name.localName a.place)
      else .ok role
  else if a.name.localName = "xmlns" then defaultRole a
  else .ok .plain

def resolve (scope : Scope) (a : RawAttribute) : Except Error Attribute :=
  let resolved (uri? : Option String) : Attribute := ⟨⟨uri?, a.name.localName⟩, a.value⟩
  if a.name.qualifier = "xml" then .ok (resolved (some xmlUri))
  else if a.name.qualifier = "" then .ok (resolved none)
  else
    match scope.uri? (some a.name.qualifier) with
    | none => .error (.unknownPrefix a.name.qualifier a.place)
    | some uri => .ok (resolved (some uri))

def resolveAll (scope : Scope) : (done : List Attribute) → List RawAttribute →
    Except Error (List Attribute)
  | done, [] => .ok done
  | done, a :: rest => do
    let resolved ← a.resolve scope
    if done.any (·.name == resolved.name) then
      .error (.duplicateAttribute a.name.localName a.place)
    else resolveAll scope (done ++ [resolved]) rest

end RawAttribute

def QualifiedName.resolve (name : QualifiedName) (scope : Scope) (place : Position) :
    Except Error ExpandedName :=
  if name.qualifier = "" then .ok ⟨scope.uri? none, name.localName⟩
  else
    match scope.uri? (some name.qualifier) with
    | none => .error (.unknownPrefix name.qualifier place)
    | some uri => .ok ⟨some uri, name.localName⟩

end WireSchema.Xml
