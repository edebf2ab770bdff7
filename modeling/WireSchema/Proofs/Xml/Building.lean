import WireSchema.Xml.Document

/-!
Properties of a tree under construction. A property that every change to the tree keeps is kept by
every step of building, whether the step succeeds or fails, and so by the building of a whole
document. What the names of elements are like is left to the tokens that open them.
-/
namespace WireSchema.Xml

/-- Whether a token opens no element, or one with an allowed name. -/
def Token.OpensOnly (allowed : QualifiedName → Prop) : Token → Prop
  | openTag name _ => allowed name
  | _ => True

/-- What every change to a tree keeps, as long as the names of the elements opened are allowed. -/
structure Builder.Kept (allowed : QualifiedName → Prop) (P : Builder → Prop) : Prop where
  /-- Only the nodes and the latest start tag count. -/
  bookkeeping : ∀ b b', b'.finished = b.finished → b'.opened = b.opened → b'.latest? = b.latest? →
    P b → P b'
  allowed_of_latest : ∀ b name place, P b → b.latest? = some (name, place) → allowed name
  setLatest : ∀ b (latest? : Option (QualifiedName × Position)),
    (∀ name place, latest? = some (name, place) → allowed name) → P b → P { b with latest? }
  add : ∀ b node, node.isElement = false → P b → P (b.add node)
  addText : ∀ b content, P b → P (b.addText content)
  childless : ∀ b written name attributes, allowed written → name.localName = written.localName →
    P b → P (b.add (.element name attributes []))
  push : ∀ b written name attributes scope, allowed written → name.localName = written.localName →
    P b → P { b with opened := ⟨written, name, attributes, scope, []⟩ :: b.opened }
  pop : ∀ b frame rest, b.opened = frame :: rest → P b → P ({ b with opened := rest }.add
    (.element frame.name frame.attributes frame.children.reverse))

theorem QualifiedName.localName_of_resolve {written : QualifiedName} {scope : Scope}
    {place : Position} {name : ExpandedName} (resolved : written.resolve scope place = .ok name) :
    name.localName = written.localName := by
  unfold resolve at resolved
  split at resolved
  · cases resolved
    rfl
  · split at resolved <;> cases resolved
    rfl

namespace Build
variable {α β : Type} {P : Builder → Prop}

/-- The tree as it stands after a step, also after one that fails. -/
def after (m : Build α) (b : Builder) : Builder :=
  match m.run b with
  | .ok _ b' => b'
  | .error _ b' => b'

def Keeps (P : Builder → Prop) (m : Build α) : Prop := ∀ b, P b → P (m.after b)

theorem keeps_pure (a : α) : Keeps P (pure a) := fun _ before => before

theorem keeps_throw (e : Error) : Keeps P (throw e : Build α) := fun _ before => before

theorem keeps_throw_bind (e : Error) (f : α → Build β) : Keeps P (throw e >>= f) :=
  fun _ before => before

theorem keeps_modify {f : Builder → Builder} (each : ∀ b, P b → P (f b)) : Keeps P (modify f) := each

theorem keeps_get_bind {f : Builder → Build α} (next : ∀ b, P b → P ((f b).after b)) :
    Keeps P (get >>= f) := next

theorem after_bind (m : Build α) (f : α → Build β) (b : Builder) :
    (m >>= f).after b =
      match m.run b with
      | .ok a b' => (f a).after b'
      | .error _ b' => b' := by
  unfold after
  rw [EStateM.run_bind]
  cases m.run b <;> rfl

theorem Keeps.bind {m : Build α} {f : α → Build β} (first : Keeps P m) (next : ∀ a, Keeps P (f a)) :
    Keeps P (m >>= f) := by
  intro b before
  have middle := first b before
  unfold after at middle
  rw [after_bind]
  cases done : m.run b with
  | ok a b' =>
    rw [done] at middle
    exact next a b' middle
  | error e b' =>
    rw [done] at middle
    exact middle

/-- A result that is there already is known in what follows it. -/
theorem keeps_ofExcept_bind {result : Except Error α} {f : α → Build β}
    (next : ∀ a, result = .ok a → Keeps P (f a)) : Keeps P (ofExcept result >>= f) := by
  cases result with
  | error e => exact keeps_throw_bind e f
  | ok a => exact next a rfl

theorem keeps_set_bind {b b' : Builder} {f : Unit → Build α} (given : P b') (next : Keeps P (f ())) :
    P ((set b' >>= f).after b) := next b' given

theorem keeps_forM {ι : Type} {items : List ι} {f : ι → Build Unit}
    (each : ∀ i ∈ items, Keeps P (f i)) : Keeps P (items.forM f) := by
  induction items with
  | nil => exact keeps_pure ()
  | cons item items ih =>
    obtain ⟨here, later⟩ := List.forall_mem_cons.mp each
    exact here.bind fun _ => ih later

theorem keeps_mapM {ι : Type} {items : List ι} {f : ι → Build α} (each : ∀ i, Keeps P (f i)) :
    Keeps P (items.mapM f) := by
  induction items with
  | nil => exact keeps_pure []
  | cons item items ih =>
    rw [List.mapM_cons]
    exact (each item).bind fun _ => ih.bind fun _ => keeps_pure _

section
variable {allowed : QualifiedName → Prop} (kept : Builder.Kept allowed P)
include kept

theorem keeps_bookkeeping {f : Builder → Builder} (finished : ∀ b, (f b).finished = b.finished)
    (opened : ∀ b, (f b).opened = b.opened) (latest : ∀ b, (f b).latest? = b.latest?) :
    Keeps P (modify f) :=
  keeps_modify fun b => kept.bookkeeping b (f b) (finished b) (opened b) (latest b)

theorem keeps_addAttribute (a : RawAttribute) : Keeps P (addAttribute a) := by
  apply keeps_get_bind
  intro b before
  refine keeps_ofExcept_bind ?_ b before
  intro role _
  cases role with
  | binding binding => exact keeps_bookkeeping kept (fun _ => rfl) (fun _ => rfl) (fun _ => rfl)
  | settled => exact keeps_pure ()
  | plain => exact keeps_bookkeeping kept (fun _ => rfl) (fun _ => rfl) (fun _ => rfl)

theorem keeps_openTag {name : QualifiedName} (named : allowed name) (place : Position) :
    Keeps P (openTag name place) := by
  have noted : Keeps P
      (modify fun b => { b with joining := false, latest? := some (name, place) }) := by
    apply keeps_modify
    intro b before
    refine kept.setLatest { b with joining := false } _ ?_ (kept.bookkeeping b _ rfl rfl rfl before)
    rintro _ _ ⟨⟩
    exact named
  unfold openTag
  split
  · exact keeps_throw_bind _ _
  · exact noted

theorem keeps_collected : Keeps P collected := by
  apply keeps_get_bind
  intro b before
  refine keeps_set_bind (kept.bookkeeping b _ rfl rfl rfl before) ?_
  apply keeps_ofExcept_bind
  intro attributes _
  apply Keeps.bind
  · exact keeps_bookkeeping kept (fun _ => rfl) (fun _ => rfl) (fun _ => rfl)
  · exact fun _ => keeps_pure _

theorem keeps_tagEnd (childless : Bool) : Keeps P (tagEnd childless) := by
  apply keeps_get_bind
  intro b before
  cases latest : b.latest? with
  | none => exact before
  | some tag =>
    obtain ⟨written, place⟩ := tag
    have named : allowed written := kept.allowed_of_latest b written place before latest
    refine Keeps.bind ?_ ?_ b before
    · exact keeps_bookkeeping kept (fun _ => rfl) (fun _ => rfl) (fun _ => rfl)
    rintro ⟨⟩
    apply (keeps_collected kept).bind
    rintro ⟨scope, attributes⟩
    apply keeps_ofExcept_bind
    intro name resolved
    have same := QualifiedName.localName_of_resolve resolved
    split
    · exact keeps_modify fun b => kept.childless b written name attributes named same
    · exact keeps_modify fun b => kept.push b written name attributes scope named same

theorem keeps_closeTag (name : QualifiedName) (place : Position) : Keeps P (closeTag name place) := by
  apply Keeps.bind
  · exact keeps_bookkeeping kept (fun _ => rfl) (fun _ => rfl) (fun _ => rfl)
  intro _
  apply keeps_get_bind
  intro b before
  dsimp only
  split
  · exact before
  · refine (keeps_collected kept).bind ?_ b before
    intro _
    apply keeps_get_bind
    intro b before
    cases innermost : b.opened with
    | nil => exact before
    | cons frame rest =>
      dsimp only
      split
      · exact before
      · exact kept.pop b frame rest innermost before

theorem keeps_addAside {node : Node} (other : node.isElement = false) : Keeps P (addAside node) := by
  apply keeps_modify
  intro b before
  exact kept.bookkeeping (b.add node) _ rfl rfl rfl (kept.add b node other before)

omit kept in
theorem keeps_entityValue (name : String) (place : Position) : Keeps P (entityValue name place) := by
  apply keeps_get_bind
  intro b before
  split <;> exact before

theorem keeps_countReference (levels : Nat) (place : Position) :
    Keeps P (countReference levels place) := by
  unfold countReference
  split
  · apply keeps_get_bind
    intro b before
    split
    · exact before
    · exact kept.bookkeeping b _ rfl rfl rfl before
  · exact keeps_pure ()

theorem keeps_leaveEntity (levels : Nat) : Keeps P (leaveEntity levels) := by
  apply keeps_modify
  intro b before
  split
  · exact before
  · exact kept.bookkeeping b _ rfl rfl rfl before

theorem keeps_attributePiece {expand : Position → Cursor → Build (List Char)}
    (inside : ∀ place value, Keeps P (expand place value)) (levels : Nat) (piece : Piece) :
    Keeps P (attributePiece levels expand piece) := by
  cases piece with
  | plain c following => exact keeps_pure _
  | character c place following =>
    simp only [attributePiece]
    split
    · exact keeps_pure _
    · split
      · exact keeps_throw_bind _ _
      · exact keeps_pure _
  | entity name place after =>
    refine Keeps.bind (keeps_entityValue name place) ?_
    intro value
    apply (keeps_countReference kept levels after).bind
    intro _
    apply (inside after value).bind
    intro content
    exact (keeps_leaveEntity kept levels).bind fun _ => keeps_pure _

theorem keeps_attributeText (levels : Nat) (value : Cursor) :
    Keeps P (attributeText levels value) := by
  have part {levels : Nat} {expand : Position → Cursor → Build (List Char)}
      (inside : ∀ place value, Keeps P (expand place value)) (value : Cursor) :
      Keeps P (attributeText.attributeTextWith levels expand value) := by
    apply (keeps_mapM (keeps_attributePiece kept inside levels)).bind
    intro parts
    exact keeps_ofExcept_bind fun _ _ => keeps_pure _
  -- The value of an entity is read one level further in; at the last level every use fails.
  induction levels generalizing value with
  | zero => exact part (fun _ _ => keeps_throw _) value
  | succ levels ih => exact part (fun _ => ih) value

theorem keeps_flush (reversed : List Char) : Keeps P (flush reversed) := by
  unfold flush
  split
  · exact keeps_modify fun b => kept.addText b _
  · exact keeps_pure ()

theorem keeps_textPieces {expand : Position → Cursor → Build Unit}
    (inside : ∀ place value, Keeps P (expand place value)) (levels : Nat) (pieces : List Piece)
    (reversed : List Char) (verbatim : Bool) :
    Keeps P (textPieces levels expand pieces reversed verbatim) := by
  induction pieces generalizing reversed verbatim with
  | nil => exact keeps_pure reversed
  | cons piece rest ih =>
    cases piece with
    | plain c following => exact ih _ _
    | character c place following =>
      unfold textPieces
      split <;> exact ih _ _
    | entity name place after =>
      refine Keeps.bind (keeps_entityValue name place) ?_
      intro value
      apply (keeps_flush kept reversed).bind
      intro _
      apply (keeps_countReference kept levels after).bind
      intro _
      apply (inside after value).bind
      intro _
      exact (keeps_leaveEntity kept levels).bind fun _ => ih _ _

theorem keeps_text {expand : Position → Cursor → Build Unit}
    (inside : ∀ place value, Keeps P (expand place value)) (levels : Nat) (value : Cursor) :
    Keeps P (text levels expand value) := by
  apply (keeps_textPieces kept inside levels _ [] false).bind
  intro reversed
  exact keeps_ofExcept_bind fun _ _ => keeps_flush kept reversed

theorem keeps_token {expand : Position → Cursor → Build Unit}
    (inside : ∀ place value, Keeps P (expand place value)) (levels : Nat) {t : Token}
    (opens : t.OpensOnly allowed) : Keeps P (token levels expand t) := by
  cases t with
  | comment content => exact keeps_addAside kept rfl
  | instruction target content => exact keeps_addAside kept rfl
  | entity name value => exact keeps_bookkeeping kept (fun _ => rfl) (fun _ => rfl) (fun _ => rfl)
  | openTag name place => exact keeps_openTag kept opens place
  | «attribute» name value place =>
    exact (keeps_attributeText kept levels value).bind fun _ => keeps_addAttribute kept _
  | tagEnd childless => exact keeps_tagEnd kept childless
  | closeTag name place => exact keeps_closeTag kept name place
  | text value => exact keeps_text kept inside levels value
  | characterData content => exact keeps_modify fun b => kept.addText b _

omit kept in
theorem keeps_tokens {step : Token → Build Unit} {found : Journal Token Error α}
    (each : ∀ t ∈ found.entries, Keeps P (step t)) : Keeps P (tokens step found) := by
  apply (keeps_forM each).bind
  intro _
  exact keeps_ofExcept_bind fun _ _ => keeps_pure ()

variable (content : ∀ value, ∀ t ∈ (contentTokens value).entries, t.OpensOnly allowed)
include content

theorem keeps_entityContent (levels : Nat) (place : Position) (value : Cursor) :
    Keeps P (entityContent levels place value) := by
  induction levels generalizing place value with
  | zero => exact keeps_throw _
  | succ levels ih =>
    apply keeps_get_bind
    intro outer before
    refine Keeps.bind ?_ ?_ outer before
    · exact keeps_modify fun b => kept.setLatest b none (by simp)
    intro _
    apply (keeps_tokens fun t member => keeps_token kept ih levels (content value t member)).bind
    intro _
    -- The start tag that comes back is the one that was noted before.
    exact keeps_modify fun b =>
      kept.setLatest b outer.latest? fun name place => kept.allowed_of_latest outer name place before

theorem keeps_step {t : Token} (opens : t.OpensOnly allowed) :
    Keeps P (token depthLimit (entityContent depthLimit) t) :=
  keeps_token kept (keeps_entityContent kept content depthLimit) depthLimit opens

end

end Build

theorem treeOf_eq (tokens : Journal Token Error Unit) :
    (treeOf tokens).1 = (Build.document tokens).after {} ∧
      ∀ tree, (treeOf tokens).2 = .ok tree → (treeOf tokens).1.tree = .ok tree := by
  unfold treeOf Build.after
  cases (Build.document tokens).run {} with
  | ok _ b => exact ⟨rfl, fun _ built => built⟩
  | error e b => exact ⟨rfl, fun _ built => nomatch built⟩

theorem tree_of_read {allowDoctype : Bool} {nodesLimit : UInt32} {source : String} {tree : Node}
    (accepted : read allowDoctype nodesLimit source = .ok tree) :
    let built := (treeOf (documentTokens allowDoctype (.ofString source))).1
    exceeds nodesLimit built.size = false ∧ built.tree = .ok tree := by
  intro built
  let outcome := treeOf (documentTokens allowDoctype (.ofString source))
  change (if exceeds nodesLimit outcome.1.size then .error .nodesLimitReached else outcome.2) =
    .ok tree at accepted
  split at accepted
  · cases accepted
  · next within => exact ⟨Bool.eq_false_iff.mpr within, (treeOf_eq _).2 tree accepted⟩

end WireSchema.Xml
