import WireSchema.Xml.Token.Content
import WireSchema.Xml.Token.Prolog

/-!
The tokens of a whole document: an optional byte order mark and declaration, the prolog, one element
and what follows it. A document type declaration is refused unless it is allowed.
-/
namespace WireSchema.Xml

private def documentStart (c : Cursor) : Except Error Cursor :=
  let c := if c.startsWith "\uFEFF" then c.next else c
  if c.startsWith "<?xml " then (Scan.declaration c).map (·.next) else .ok c

def documentTokens (allowDoctype : Bool) (c : Cursor) : Journal Token Error Unit := do
  let c ← miscTokens (← .lift (documentStart c))
  let c ←
    if c.startsWith "<!DOCTYPE" then
      if allowDoctype then do miscTokens (← doctypeTokens c) else .fail .doctypeNotAllowed
    else pure c
  let c ← if c.startsWith "<" then elementTokens c.next else pure c
  let c ← miscTokens c
  if c.rest.isEmpty then pure () else .fail (.unknownToken c.place)

end WireSchema.Xml
