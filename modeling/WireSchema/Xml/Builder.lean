import WireSchema.Xml.Cursor
import WireSchema.Xml.Namespace

/-!
A tree under construction: the nodes finished beside the root, the elements still open, and what a
start tag has collected so far. Siblings stand in reverse order, and the innermost of the open elements
comes first. A failure leaves the tree as far as it was built.
-/
namespace WireSchema.Xml

structure Frame where
  writtenName : QualifiedName
  name : ExpandedName
  attributes : List Attribute
  scope : Scope
  children : List Node
  deriving Repr

structure Builder where
  entities : List (String × Cursor) := []
  finished : List Node := []
  opened : List Frame := []
  /-- Whether further text belongs to the text node just added. -/
  joining : Bool := false
  latest? : Option (QualifiedName × Position) := none
  attributes : List RawAttribute := []
  bindings : Scope := []
  /-- References counted below the outermost one. -/
  references : Nat := 0
  deriving Repr

abbrev Build := EStateM Error Builder

namespace Builder

/-- The children so far of the innermost open element, or of the document. -/
def siblings (b : Builder) : List Node :=
  match b.opened with
  | [] => b.finished
  | frame :: _ => frame.children

def withSiblings (b : Builder) (nodes : List Node) : Builder :=
  match b.opened with
  | [] => { b with finished := nodes }
  | frame :: rest => { b with opened := { frame with children := nodes } :: rest }

def add (b : Builder) (node : Node) : Builder := b.withSiblings (node :: b.siblings)

def addText (b : Builder) (content : String) : Builder :=
  let b' := { b with joining := true }
  match b.joining, b.siblings with
  | true, .text before :: rest => b'.withSiblings (.text (before ++ content) :: rest)
  | _, _ => b'.add (.text content)

def openSize : List Frame → Nat
  | [] => 0
  | frame :: frames => 1 + Node.sizes frame.children + openSize frames

/-- The number of nodes built, the document included. -/
def size (b : Builder) : Nat := 1 + Node.sizes b.finished + openSize b.opened

def scope (b : Builder) : Scope :=
  b.bindings ++ (match b.opened with
    | [] => []
    | frame :: _ => frame.scope)

def tree (b : Builder) : Except Error Node :=
  if !b.opened.isEmpty then .error .unclosedRoot
  else if b.finished.any Node.isElement then .ok (.document b.finished.reverse)
  else .error .noRoot

theorem size_of_tree {b : Builder} {node : Node} (h : b.tree = .ok node) : node.size = b.size := by
  unfold tree at h
  split at h
  · cases h
  · split at h <;> cases h
    simp_all [Node.size, Node.sizes_reverse, size, openSize]

end Builder

namespace Build

def addAttribute (a : RawAttribute) : Build Unit := do
  match ← ofExcept (a.role (← get).bindings) with
  | .binding binding => modify fun b => { b with bindings := b.bindings ++ [binding] }
  | .settled => pure ()
  | .plain => modify fun b => { b with attributes := b.attributes ++ [a] }

def openTag (name : QualifiedName) (place : Position) : Build Unit := do
  if name.qualifier = "xmlns" then throw (.reservedElementPrefix place)
  modify fun b => { b with joining := false, latest? := some (name, place) }

def collected : Build (Scope × List Attribute) := do
  let b ← get
  set { b with bindings := [] }
  let attributes ← ofExcept (RawAttribute.resolveAll b.scope [] b.attributes)
  modify fun b => { b with attributes := [] }
  return (b.scope, attributes)

/-- The end of a start tag: the element joins the tree, and unless it is childless stays open. -/
def tagEnd (childless : Bool) : Build Unit := do
  match (← get).latest? with
  | none => pure ()
  | some (writtenName, place) =>
    modify fun b => { b with joining := false }
    let (scope, attributes) ← collected
    let name ← ofExcept (writtenName.resolve scope place)
    if childless then modify (·.add (.element name attributes []))
    else modify fun b => { b with opened := ⟨writtenName, name, attributes, scope, []⟩ :: b.opened }

def closeTag (name : QualifiedName) (place : Position) : Build Unit := do
  modify fun b => { b with joining := false }
  if (← get).latest?.isNone then throw (.closeInEntity place)
  let _ ← collected
  let b ← get
  match b.opened with
  | [] => throw (.closeInEntity place)
  | frame :: rest =>
    if frame.writtenName ≠ name then
      throw (.mismatchedClose frame.writtenName.toText name.toText place)
    set ({ b with opened := rest }.add
      (.element frame.name frame.attributes frame.children.reverse))

def addAside (node : Node) : Build Unit :=
  modify fun b => { b.add node with joining := false }

end Build

end WireSchema.Xml
