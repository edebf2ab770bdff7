import WireSchema.Proofs.Xml.Building

/-!
Names of elements. A name is read as a run of name characters, so that is what tokens open elements
with, in the document and in the values of entities, and what the elements of the tree are called.
-/
namespace WireSchema

namespace Journal
variable {Entry Failure α β : Type} {Q : Entry → Prop}

def All (Q : Entry → Prop) (x : Journal Entry Failure α) : Prop := ∀ entry ∈ x.entries, Q entry

theorem all_pure (a : α) : All Q (pure a : Journal Entry Failure α) := fun _ member => nomatch member

theorem all_fail (e : Failure) : All Q (fail e : Journal Entry Failure α) :=
  fun _ member => nomatch member

theorem All.bind {x : Journal Entry Failure α} {f : α → Journal Entry Failure β} (first : x.All Q)
    (next : ∀ a, (f a).All Q) : (x >>= f).All Q := by
  unfold All at first ⊢
  cases done : x.result with
  | error e =>
    rw [bind_of_error done]
    exact first
  | ok a =>
    rw [bind_of_ok done]
    exact List.forall_mem_append.mpr ⟨first, next a⟩

end Journal

namespace Xml

def IsNameText (s : String) : Prop := ∀ c ∈ s.toList, isNameChar c = true

def QualifiedName.InNameChars (name : QualifiedName) : Prop := IsNameText name.localName

abbrev Token.Named : Token → Prop := Token.OpensOnly QualifiedName.InNameChars

theorem QualifiedName.inNameChars_of_ofChars? {run : List Char} {name : QualifiedName}
    (all : ∀ c ∈ run, isNameChar c = true) (found : ofChars? run = some name) :
    name.InNameChars := by
  have fits {qualifier base : List Char} (inside : base ⊆ run)
      (same : some ⟨String.ofList qualifier, String.ofList base⟩ = some name) :
      name.InNameChars := by
    cases same
    intro c member
    rw [String.toList_ofList] at member
    exact all c (inside member)
  unfold ofChars? at found
  by_cases colon : ':' ∈ run
  · rw [if_pos colon] at found
    obtain ⟨_, same⟩ := Option.ite_none_right_eq_some.mp found
    refine fits (fun c member => ?_) same
    exact (List.dropWhile_sublist _).mem (List.mem_of_mem_drop member)
  · rw [if_neg colon] at found
    obtain ⟨_, same⟩ := Option.ite_none_right_eq_some.mp found
    exact fits (fun _ member => member) same

namespace Scan
variable {α β : Type} {Q : α → Prop} {R : β → Prop}

/-- Whether all values that a reading can give have a property. -/
def Gives (Q : α → Prop) (p : Scan α) : Prop := ∀ c r, p c = .ok r → Q r.value

theorem gives_pure {a : α} (has : Q a) : Gives Q (pure a) := by
  rintro c _ ⟨⟩
  exact has

theorem gives_fail (e : Error) : Gives Q (fail e) := by
  rintro c r ⟨⟩

theorem Gives.bind {p : Scan α} {f : α → Scan β} (first : Gives Q p)
    (next : ∀ a, Q a → Gives R (f a)) : Gives R (p >>= f) := by
  intro c r read
  change Scan.bind p f c = .ok r at read
  unfold Scan.bind at read
  cases before : p c with
  | error e =>
    rw [before] at read
    cases read
  | ok s =>
    simp only [before] at read
    cases after : f s.value s.next with
    | error e =>
      rw [after] at read
      cases read
    | ok t =>
      rw [after] at read
      cases read
      exact next s.value (first c s before) s.next t after

theorem gives_bind {p : Scan α} {f : α → Scan β} (next : ∀ a, Gives R (f a)) : Gives R (p >>= f) :=
  Gives.bind (Q := fun _ => True) (fun _ _ _ => trivial) fun a _ => next a

theorem gives_takeWhile (p : Char → Bool) : Gives (∀ c ∈ ·, p c = true) (takeWhile p) := by
  apply gives_bind
  intro start
  apply gives_bind
  intro _
  exact gives_pure (List.all_eq_true.mp List.all_takeWhile)

theorem gives_qualifiedName : Gives QualifiedName.InNameChars qualifiedName := by
  apply gives_bind
  intro start
  refine (gives_takeWhile isNameChar).bind ?_
  intro run all
  cases found : QualifiedName.ofChars? run with
  | none => exact gives_fail _
  | some name => exact gives_pure (QualifiedName.inNameChars_of_ofChars? all found)

theorem gives_openTag : Gives Token.Named openTag :=
  gives_bind fun _ => gives_qualifiedName.bind fun _ named => gives_pure named

theorem gives_comment (start : Position) : Gives Token.Named (comment start) := by
  apply gives_bind
  intro _
  apply gives_bind
  intro content
  split
  · exact gives_bind fun _ => gives_pure trivial
  · exact gives_pure trivial

theorem gives_instruction (start : Position) : Gives Token.Named (instruction start) := by
  have rest : Gives Token.Named do
      drop 1
      let target ← name
      spaces
      let content ← charactersThrough "?>"
      return .instruction target (String.ofList content) :=
    gives_bind fun _ => gives_bind fun _ => gives_bind fun _ => gives_bind fun _ => gives_pure trivial
  apply gives_bind
  intro declares
  split
  · exact gives_bind fun _ => rest
  · exact rest

theorem gives_aside (start : Position) : Gives Token.Named (aside start) := by
  apply gives_bind
  intro comments
  split
  · exact gives_comment start
  · exact gives_instruction start

theorem gives_textAfter (first : Char) (start : Position) :
    Gives Token.Named (textAfter first start) := by
  unfold textAfter
  extract_lets characters
  have rest : Gives Token.Named (characters ()) := by
    apply gives_bind
    intro run
    dsimp only
    split
    · exact gives_bind fun _ => gives_bind fun _ => gives_pure trivial
    · exact gives_pure trivial
  split
  · exact gives_bind fun _ => rest
  · exact rest

theorem gives_entityDeclaration : Gives (fun made => ∀ t ∈ made, t.Named) entityDeclaration := by
  unfold entityDeclaration
  apply gives_bind
  intro _
  apply gives_bind
  intro _
  apply gives_bind
  intro sign
  extract_lets isParameter declaration
  have rest : Gives (fun made => ∀ t ∈ made, t.Named) (declaration ()) := by
    refine gives_bind fun declared => gives_bind fun _ => gives_bind fun value? => gives_bind fun _ =>
      gives_bind fun _ => gives_pure ?_
    rw [List.forall_mem_map]
    exact fun _ _ => trivial
  split
  · exact gives_bind fun _ => gives_bind fun _ => rest
  · exact rest

theorem gives_subsetDeclaration (doctype start : Position) :
    Gives (fun made => ∀ t ∈ made, t.Named) (subsetDeclaration doctype start) := by
  apply gives_bind
  intro entity
  split
  · exact gives_entityDeclaration
  · apply gives_bind
    intro comment
    apply gives_bind
    intro instruction
    split
    · refine (gives_aside start).bind ?_
      exact fun t opens => gives_pure (List.forall_mem_singleton.mpr opens)
    · refine gives_bind fun _ => gives_bind fun _ => gives_bind fun _ => ?_
      split
      · exact gives_bind fun _ => gives_pure (fun t member => nomatch member)
      · exact gives_fail _

theorem gives_single {σ : Type} {P : Token → Prop} {p : Scan Token} (state : σ) (gives : Gives P p) :
    Gives (fun made : List Token × σ => ∀ t ∈ made.1, P t) (return ([← p], state)) :=
  gives.bind fun _ has => gives_pure (List.forall_mem_singleton.mpr has)

theorem gives_markup (start : Position) (levels : Nat) :
    Gives (fun made => ∀ t ∈ made.1, t.Named)
      (markup start levels) := by
  have characters : Gives Token.Named characterData :=
    gives_bind fun _ => gives_bind fun _ => gives_pure trivial
  have close : Gives Token.Named (closeTag start) :=
    gives_bind fun _ => gives_bind fun _ => gives_bind fun _ => gives_bind fun _ => gives_pure trivial
  apply gives_bind
  intro first
  split
  · exact gives_fail _
  · apply gives_bind
    intro comments
    split
    · exact gives_single _ (gives_comment start)
    · apply gives_bind
      intro data
      split
      · exact gives_single _ characters
      · exact gives_fail _
  · exact gives_single _ (gives_instruction start)
  · exact gives_single _ close
  · exact gives_single _ gives_openTag

end Scan

namespace Step
variable {Entry σ : Type} {Q : Entry → Prop} {c k : Cursor}

/-- Whether a step fails, stops or makes entries that have a property. -/
def Makes (Q : Entry → Prop) : Except Error (Step Entry σ c) → Prop
  | .ok (.more entries ..) => ∀ t ∈ entries, Q t
  | _ => True

theorem makes_reading {p : Scan (List Entry × σ)} (later : k.size < c.size)
    (gives : Scan.Gives (fun made => ∀ t ∈ made.1, Q t) p) : Makes Q (reading later p) := by
  unfold reading
  cases read : p k with
  | error e => trivial
  | ok r => exact gives k r read

end Step

theorem all_repeatSteps {Entry σ : Type} {Q : Entry → Prop}
    {step : σ → (c : Cursor) → Except Error (Step Entry σ c)}
    (each : ∀ state c, Step.Makes Q (step state c)) (state : σ) (c : Cursor) :
    (repeatSteps step state c).All Q := by
  fun_induction repeatSteps step state c with
  | case1 state c e failed => exact Journal.all_fail e
  | case2 state c next stopped => exact Journal.all_pure next
  | case3 state c entries state' next shorter more ih =>
    have made := each state c
    rw [more] at made
    exact Journal.All.bind made fun _ => ih

theorem makes_contentStep (levels : Nat) (c : Cursor) :
    Step.Makes Token.Named (contentStep levels c) := by
  unfold contentStep
  split
  · trivial
  · exact Step.makes_reading _ (Scan.gives_markup _ _)
  · exact Step.makes_reading _ (Scan.gives_single _ (Scan.gives_textAfter _ _))

theorem makes_tagStep (levels : Nat) (c : Cursor) :
    Step.Makes Token.Named (tagStep levels c) := by
  have childless : Scan.Gives (fun made => ∀ t ∈ made.1, t.Named)
      (Scan.childlessEnd levels) :=
    Scan.gives_bind fun _ => Scan.gives_pure (List.forall_mem_singleton.mpr trivial)
  have given (first : Char) (start : Position) :
      Scan.Gives (fun made => ∀ t ∈ made.1, t.Named)
        (Scan.attributeAfter first start levels) :=
    Scan.gives_bind fun _ => Scan.gives_bind fun _ =>
      Scan.gives_pure (List.forall_mem_singleton.mpr trivial)
  unfold tagStep
  split
  · trivial
  · split
    · trivial
    · split
      · trivial
      · exact List.forall_mem_singleton.mpr trivial
      · exact Step.makes_reading _ childless
      · split
        · trivial
        · exact Step.makes_reading _ (given _ _)

theorem makes_withinStep (within : Within) (c : Cursor) :
    Step.Makes Token.Named (withinStep within c) := by
  unfold withinStep
  split
  · trivial
  · exact makes_contentStep _ c
  · exact makes_tagStep _ c

theorem named_contentTokens (value : Cursor) : (contentTokens value).All Token.Named :=
  all_repeatSteps makes_withinStep _ value

theorem makes_miscStep (state : Unit) (c : Cursor) :
    Step.Makes Token.Named (miscStep state c) := by
  unfold miscStep
  split
  · trivial
  · split
    · split
      · exact Step.makes_reading _ (Scan.gives_single _ (Scan.gives_aside _))
      · trivial
    · trivial

theorem makes_subsetStep (doctype : Position) (state : Unit) (c : Cursor) :
    Step.Makes Token.Named (subsetStep doctype state c) := by
  have declared (start : Position) : Scan.Gives
      (fun made : List Token × Unit => ∀ t ∈ made.1, t.Named)
      (return (← Scan.subsetDeclaration doctype start, ())) :=
    (Scan.gives_subsetDeclaration doctype start).bind fun _ opens => Scan.gives_pure opens
  unfold subsetStep
  split
  · trivial
  · split
    · exact Step.makes_reading _ (declared _)
    · split <;> trivial
    · split <;> trivial
    · trivial

theorem named_miscTokens (c : Cursor) : (miscTokens c).All Token.Named :=
  all_repeatSteps makes_miscStep () c

theorem named_doctypeTokens (c : Cursor) : (doctypeTokens c).All Token.Named := by
  unfold doctypeTokens
  split
  · exact Journal.all_fail _
  · exact Journal.all_pure _
  · exact all_repeatSteps (makes_subsetStep c.place) () _

theorem named_elementTokens (c : Cursor) : (elementTokens c).All Token.Named := by
  unfold elementTokens
  cases read : Scan.openTag c with
  | error e => exact Journal.all_fail e
  | ok opening =>
    refine Journal.All.bind ?_ fun _ => all_repeatSteps makes_withinStep _ _
    exact List.forall_mem_singleton.mpr (Scan.gives_openTag c opening read)

theorem named_documentTokens (allowDoctype : Bool) (c : Cursor) :
    (documentTokens allowDoctype c).All Token.Named := by
  unfold documentTokens
  refine Journal.All.bind (fun t member => nomatch member) fun start => ?_
  refine (named_miscTokens start).bind fun c => ?_
  extract_lets ending element
  have named_ending (c : Cursor) : (ending c).All Token.Named := by
    refine (named_miscTokens c).bind fun c => ?_
    split
    · exact Journal.all_pure ()
    · exact Journal.all_fail _
  have named_element (c : Cursor) : (element c).All Token.Named := by
    dsimp only [element]
    split
    · exact (named_elementTokens c.next).bind named_ending
    · exact (Journal.all_pure c).bind named_ending
  split
  · split
    · exact (named_doctypeTokens c).bind fun c => (named_miscTokens c).bind named_element
    · exact (Journal.all_fail _).bind named_element
  · exact (Journal.all_pure c).bind named_element

/-- Whether the elements beside and around the place of building have names in name characters. -/
structure Builder.Named (b : Builder) : Prop where
  finished : ∀ node ∈ b.finished, node.isElement = true → IsNameText node.localName
  opened : ∀ frame ∈ b.opened, IsNameText frame.name.localName
  latest : ∀ name place, b.latest? = some (name, place) → name.InNameChars

namespace Builder
variable {b : Builder}

theorem Named.withSiblings (named : b.Named) {nodes : List Node}
    (each : ∀ node ∈ nodes, node.isElement = true → node ∈ b.siblings ∨ IsNameText node.localName) :
    (b.withSiblings nodes).Named := by
  unfold Builder.withSiblings
  split
  next opened =>
    have siblings : b.siblings = b.finished := by rw [Builder.siblings, opened]
    refine ⟨?_, named.opened, named.latest⟩
    intro node member element
    rcases each node member element with before | fits
    · exact named.finished node (siblings ▸ before) element
    · exact fits
  next frame rest opened =>
    have all := named.opened
    rw [opened] at all
    exact ⟨named.finished, List.forall_mem_cons.mpr (List.forall_mem_cons.mp all), named.latest⟩

theorem Named.add (named : b.Named) {node : Node}
    (fits : node.isElement = true → IsNameText node.localName) : (b.add node).Named := by
  apply named.withSiblings
  rw [List.forall_mem_cons]
  exact ⟨fun element => .inr (fits element), fun other member _ => .inl member⟩

theorem Named.addText (named : b.Named) (content : String) : (b.addText content).Named := by
  have joining : Named { b with joining := true } := ⟨named.finished, named.opened, named.latest⟩
  unfold Builder.addText
  split
  next before rest _ found =>
    apply joining.withSiblings
    rw [List.forall_mem_cons]
    refine ⟨fun element => (nomatch element), fun other member _ => .inl ?_⟩
    change other ∈ b.siblings
    rw [found]
    exact List.mem_cons_of_mem _ member
  next => exact joining.add fun element => nomatch element

theorem kept_named : Kept QualifiedName.InNameChars Named where
  bookkeeping b b' finished opened latest before :=
    ⟨finished ▸ before.finished, opened ▸ before.opened, latest ▸ before.latest⟩
  allowed_of_latest b name place before latest := before.latest name place latest
  setLatest b latest? fits before := ⟨before.finished, before.opened, fits⟩
  add b node other before := before.add fun element => by simp [other] at element
  addText b content before := before.addText content
  childless b written name attributes fits same before :=
    before.add fun _ => by rwa [Node.localName, same]
  push b written name attributes scope fits same before := by
    refine ⟨before.finished, ?_, before.latest⟩
    rw [List.forall_mem_cons, same]
    exact ⟨fits, before.opened⟩
  pop b frame rest innermost before := by
    have all := before.opened
    rw [innermost] at all
    obtain ⟨own, others⟩ := List.forall_mem_cons.mp all
    have outer : Named { b with opened := rest } := ⟨before.finished, others, before.latest⟩
    exact outer.add fun _ => own

end Builder

theorem named_treeOf {tokens : Journal Token Error Unit} (named : tokens.All Token.Named) :
    (treeOf tokens).1.Named := by
  have start : Builder.Named {} := ⟨by simp, by simp, by simp⟩
  rw [(treeOf_eq tokens).1]
  refine Build.keeps_tokens ?_ {} start
  exact fun t member => Build.keeps_step Builder.kept_named named_contentTokens (named t member)

/-- The root element of a document that is read has a name in name characters. -/
theorem isNameText_of_read {allowDoctype : Bool} {nodesLimit : UInt32} {source : String}
    {tree root : Node} (accepted : read allowDoctype nodesLimit source = .ok tree)
    (top : tree.rootElement? = some root) : IsNameText root.localName := by
  obtain ⟨_, built⟩ := tree_of_read accepted
  have named := named_treeOf (named_documentTokens allowDoctype (.ofString source))
  unfold Builder.tree at built
  split at built
  · cases built
  · split at built
    · cases built
      have member := List.mem_reverse.mp (List.mem_of_find?_eq_some top)
      exact named.finished root member (List.find?_some top)
    · cases built

end Xml

end WireSchema
