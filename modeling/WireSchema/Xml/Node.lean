import WireSchema.Xml.Name

/-!
The tree of a document. Adjacent pieces of text are one text node; the document is itself a node
whose children are the root element and what stands beside it.
-/
namespace WireSchema.Xml

structure Attribute where
  name : ExpandedName
  value : String
  deriving DecidableEq, Repr

inductive Node
  | document (children : List Node)
  | element (name : ExpandedName) (attributes : List Attribute) (children : List Node)
  | text (content : String)
  | comment (content : String)
  | instruction (target content : String)
  deriving Repr

namespace Node

/-- The local name of an element; empty for every other node. -/
def localName : Node → String
  | element name _ _ => name.localName
  | _ => ""

def attributes : Node → List Attribute
  | element _ attributes _ => attributes
  | _ => []

def children : Node → List Node
  | document children => children
  | element _ _ children => children
  | _ => []

def isElement : Node → Bool
  | element .. => true
  | _ => false

def textContent? : Node → Option String
  | text content => some content
  | _ => none

/-- Whether the node is an element with the local name, in any namespace. -/
def isNamed (name : String) (node : Node) : Bool := node.isElement && node.localName == name

/-- The child elements with the local name, in document order. -/
def elements (node : Node) (name : String) : List Node := node.children.filter (isNamed name)

def child? (node : Node) (name : String) : Option Node := node.children.find? (isNamed name)

/-- The direct text of the node, with comments, instructions and elements left out. -/
def ownText (node : Node) : String := String.join (node.children.filterMap textContent?)

/-- The value of the attribute with the local name and no namespace. -/
def attribute? (node : Node) (name : String) : Option String :=
  (node.attributes.find? (·.name == ⟨none, name⟩)).map (·.value)

def rootElement? (node : Node) : Option Node := node.children.find? isElement

/-- The node reached by going down from child to child by index. -/
def descend? (node : Node) : List Nat → Option Node
  | [] => some node
  | index :: path => (node.children[index]?).bind (descend? · path)

mutual

def size : Node → Nat
  | document children => 1 + sizes children
  | element _ _ children => 1 + sizes children
  | text _ | comment _ | instruction _ _ => 1

def sizes : List Node → Nat
  | [] => 0
  | node :: nodes => size node + sizes nodes

end

theorem sizes_append (xs ys : List Node) : sizes (xs ++ ys) = sizes xs + sizes ys := by
  induction xs with
  | nil => simp [sizes]
  | cons x xs ih => simp [sizes, ih, Nat.add_assoc]

theorem sizes_reverse (xs : List Node) : sizes xs.reverse = sizes xs := by
  induction xs with
  | nil => rfl
  | cons x xs ih => simp [sizes, sizes_append, ih, Nat.add_comm]

theorem child?_eq_head? (node : Node) (name : String) :
    node.child? name = (node.elements name).head? := by
  simp [child?, elements]

end Node

end WireSchema.Xml
