import WireSchema.Proofs.Xml.Building

/-!
Growth: no step of building makes the tree smaller, whether the step succeeds or fails. So a tree that
was beyond a limit at some point of its construction is beyond it at the end, and a text that is cut
off has no larger tree than the whole.
-/
namespace WireSchema.Xml

namespace Builder

theorem size_withSiblings (b : Builder) (nodes : List Node) :
    (b.withSiblings nodes).size + Node.sizes b.siblings = b.size + Node.sizes nodes := by
  unfold withSiblings siblings size
  cases opened : b.opened with
  | nil =>
    dsimp only
    omega
  | cons frame rest =>
    simp only [openSize]
    omega

theorem size_add (b : Builder) (node : Node) : (b.add node).size = b.size + node.size := by
  have same := size_withSiblings b (node :: b.siblings)
  rw [Node.sizes] at same
  unfold add
  omega

theorem size_le_addText (b : Builder) (content : String) : b.size ≤ (b.addText content).size := by
  let b' : Builder := { b with joining := true }
  have alone : b.size ≤ (b'.add (.text content)).size := by
    rw [size_add]
    exact Nat.le_add_right b.size _
  unfold addText
  -- Text joins the text node before it, which is counted already, or is a node of its own.
  split
  next before rest _ found =>
    have same := size_withSiblings b' (.text (before ++ content) :: rest)
    have siblings : b'.siblings = .text before :: rest := found
    rw [siblings] at same
    simp only [Node.sizes, Node.size] at same
    change b.size ≤ (b'.withSiblings _).size
    have size : b'.size = b.size := rfl
    omega
  next => exact alone

theorem size_close {b : Builder} {frame : Frame} {rest : List Frame}
    (innermost : b.opened = frame :: rest) :
    ({ b with opened := rest }.add
      (.element frame.name frame.attributes frame.children.reverse)).size = b.size := by
  rw [size_add]
  simp only [size, Node.size, Node.sizes_reverse, innermost, openSize]
  omega

theorem kept_size_le (n : Nat) : Kept (fun _ => True) (n ≤ ·.size) where
  bookkeeping b b' finished opened _ before := by
    rwa [size, finished, opened]
  allowed_of_latest _ _ _ _ _ := trivial
  setLatest _ _ _ before := before
  add b node _ before := by
    rw [size_add]
    exact Nat.le_add_right_of_le before
  addText b content before := Nat.le_trans before (b.size_le_addText content)
  childless b _ _ _ _ _ before := by
    rw [size_add]
    exact Nat.le_add_right_of_le before
  push b written name attributes scope _ _ before := by
    simp only [size, openSize, Node.sizes] at before ⊢
    omega
  pop b frame rest innermost before := by
    rwa [size_close innermost]

end Builder

namespace Build
variable {α : Type}

def Grows (m : Build α) : Prop := ∀ b, b.size ≤ (m.after b).size

theorem grows_of_keeps {m : Build α} (keeps : ∀ n, Keeps (n ≤ ·.size) m) : Grows m :=
  fun b => keeps b.size b (Nat.le_refl _)

theorem keeps_size_step (n : Nat) (t : Token) :
    Keeps (n ≤ ·.size) (token depthLimit (entityContent depthLimit) t) := by
  have opens (t : Token) : t.OpensOnly fun _ => True := by
    cases t <;> trivial
  exact keeps_step (Builder.kept_size_le n) (fun _ t _ => opens t) (opens t)

end Build

/-- Of tokens that are cut off by a failure the tree is built like that of the whole if a token fails;
else the failure counts, and the tree is not larger than that of the whole. -/
theorem treeOf_cut (entries more : List Token) (e : Error) (result : Except Error Unit) :
    treeOf ⟨entries, .error e⟩ = treeOf ⟨entries ++ more, result⟩ ∨
      (treeOf ⟨entries, .error e⟩).2 = .error e ∧
      (treeOf ⟨entries, .error e⟩).1.size ≤ (treeOf ⟨entries ++ more, result⟩).1.size := by
  let step := Build.token depthLimit (Build.entityContent depthLimit)
  let stop (result : Except Error Unit) : Build Unit := do let _ ← ofExcept result
  have cut : Build.document ⟨entries, .error e⟩ = (entries.forM step >>= fun _ => stop (.error e)) :=
    rfl
  have whole : Build.document ⟨entries ++ more, result⟩ =
      (entries.forM step >>= fun _ => more.forM step >>= fun _ => stop result) := by
    change (forM (entries ++ more) step >>= fun _ => stop result) = _
    rw [List.forM_append, bind_assoc]
    rfl
  unfold treeOf
  rw [cut, whole, EStateM.run_bind, EStateM.run_bind]
  cases (entries.forM step).run {} with
  | error e' b => exact .inl rfl
  | ok _ b =>
    right
    -- The whole goes on from the same tree, and nothing that follows makes it smaller.
    have grown : Build.Grows (more.forM step >>= fun _ => stop result) := by
      apply Build.grows_of_keeps
      intro n
      exact (Build.keeps_forM fun t _ => Build.keeps_size_step n t).bind fun _ =>
        Build.keeps_ofExcept_bind fun _ _ => Build.keeps_pure ()
    have larger := grown b
    unfold Build.after at larger
    refine ⟨rfl, ?_⟩
    dsimp only
    cases rest : (more.forM step >>= fun _ => stop result).run b <;> rwa [rest] at larger

end WireSchema.Xml
