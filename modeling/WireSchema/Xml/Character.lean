import WireSchema.Text.Ranges

/-!
The character classes of XML 1.0: characters, white space, and the characters of names.
-/
namespace WireSchema.Xml
open Text

def isSpace (c : Char) : Bool := c = ' ' || c = '\t' || c = '\n' || c = '\r'

/-- Characters that may occur in a document at all. -/
def isXmlChar (c : Char) : Bool :=
  if c.toNat < 0x20 then isSpace c else c.toNat ≠ 0xFFFE && c.toNat ≠ 0xFFFF

def nameStartRanges : Ranges :=
  [(0x003A, 0x003A), (0x0041, 0x005A), (0x005F, 0x005F), (0x0061, 0x007A), (0x00C0, 0x00D6),
   (0x00D8, 0x00F6), (0x00F8, 0x02FF), (0x0370, 0x037D), (0x037F, 0x1FFF), (0x200C, 0x200D),
   (0x2070, 0x218F), (0x2C00, 0x2FEF), (0x3001, 0xD7FF), (0xF900, 0xFDCF), (0xFDF0, 0xFFFD),
   (0x10000, 0xEFFFF)]

def isNameStart (c : Char) : Bool := nameStartRanges.contains c

/-- Characters that a name may hold after its first one. -/
def nameOtherRanges : Ranges :=
  [(0x002D, 0x002E), (0x0030, 0x0039), (0x00B7, 0x00B7), (0x0300, 0x036F), (0x203F, 0x2040)]

def isNameChar (c : Char) : Bool := isNameStart c || nameOtherRanges.contains c

end WireSchema.Xml
