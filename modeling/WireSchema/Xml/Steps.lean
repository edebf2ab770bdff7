import WireSchema.Journal
import WireSchema.Xml.Scan

/-!
Reading a text step by step. Every step but the last consumes some of the text, so the reading ends;
the entries found before a failure are kept.
-/
namespace WireSchema.Xml

inductive Step (Entry σ : Type) (c : Cursor)
  | stop (next : Cursor)
  | more (entries : List Entry) (state : σ) (next : Cursor) (shorter : next.size < c.size)

namespace Step
variable {Entry σ : Type}

/-- The step that goes on with a reading from a later place. -/
def reading {c k : Cursor} (later : k.size < c.size) (p : Scan (List Entry × σ)) :
    Except Error (Step Entry σ c) :=
  match p k with
  | .error e => .error e
  | .ok r => .ok (.more r.value.1 r.value.2 r.next (Nat.lt_of_le_of_lt r.next_le later))

end Step

def repeatSteps {Entry σ : Type} (step : σ → (c : Cursor) → Except Error (Step Entry σ c))
    (state : σ) (c : Cursor) : Journal Entry Error Cursor :=
  match step state c with
  | .error e => .fail e
  | .ok (.stop next) => pure next
  | .ok (.more entries state next _) => do
    Journal.record entries
    repeatSteps step state next
termination_by c.size

end WireSchema.Xml
