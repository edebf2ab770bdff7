import WireSchema.Xml.Expansion
import WireSchema.Xml.Token.Document

/-!
Reading a text as an XML document. The limit on the number of nodes is judged on the tree as far as
it was built: a tree beyond the limit is refused for that reason, whatever came after.
-/
namespace WireSchema.Xml

/-- Whether a tree of `size` nodes needed one more node than allowed. The document itself is always
allowed. -/
def exceeds (nodesLimit : UInt32) (size : Nat) : Bool := nodesLimit.toNat < size && 1 < size

def treeOf (tokens : Journal Token Error Unit) : Builder × Except Error Node :=
  match (Build.document tokens).run {} with
  | .ok _ b => (b, b.tree)
  | .error e b => (b, .error e)

def read (allowDoctype : Bool) (nodesLimit : UInt32) (source : String) : Except Error Node :=
  let (built, outcome) := treeOf (documentTokens allowDoctype (.ofString source))
  if exceeds nodesLimit built.size then .error .nodesLimitReached else outcome

end WireSchema.Xml
