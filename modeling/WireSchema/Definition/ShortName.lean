import WireSchema.Text.Blank
import WireSchema.Text.Lowercase

/-!
Short names of protocols. A name of one word is its own short name; of several words the initials
make it, in lower case.
-/
namespace WireSchema
open Text

/-- The initials of the words of a text, in lower case. -/
def initials (cs : List Char) : List Char :=
  ((words cs).filterMap List.head?).flatMap lowercase

def shortNameOf (name : String) : String :=
  if name.toList.any isBlank then String.ofList (initials name.toList) else name

end WireSchema
