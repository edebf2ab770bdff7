/-!
Line ends and white space as a document reads them. In an attribute value all white space becomes
spaces, and one space for the two characters that end a line together; in text a line ends with a line
feed, however it was written.
-/
namespace WireSchema.Xml

def attributeCharacter (c : Char) (following : Option Char) : List Char :=
  if c = '\r' ∧ following = some '\n' then []
  else if c = '\n' ∨ c = '\t' ∨ c = '\r' then [' ']
  else [c]

/-- Text, in reverse order, after one more character. A carriage return becomes a line feed once a
character follows it or if it is the last one; a line feed after it adds nothing. -/
def pushText (reversed : List Char) (c : Char) (isLast : Bool) : List Char :=
  let pushed := if c = '\r' && isLast then '\n' else c
  match reversed with
  | '\r' :: before => if c = '\n' then '\n' :: before else pushed :: '\n' :: before
  | _ => pushed :: reversed

def pushAll (reversed : List Char) : List Char → List Char
  | [] => reversed
  | c :: cs => pushAll (pushText reversed c cs.isEmpty) cs

def withLineFeeds (cs : List Char) : List Char := (pushAll [] cs).reverse

end WireSchema.Xml
