import CellScript.Proofs.Python.Steps

set_option autoImplicit false

/-! # The tree of a text

Nodes of a tree show fragments of the best reading. So every node of the tree of a text starts and
ends at a place of the text, `Tree.ends_ofText`, comments have no children,
`Tree.commentsBare_ofText`, and an identifier that something is taken of is in a single row,
`Tree.namesInRow_ofText`. -/

namespace CellScript.Python

open Grammar

variable {source : List Char}

/-- What holds of what every node that shows a fragment of a text says about itself. -/
structure Label.ShownIn (source : List Char) (l : Label) : Prop where
  start : l.start.IsIn source
  stop : l.stop.IsIn source
  name : l.kind = .identifier → l.role = some .object → l.start.row = l.stop.row

/-- What holds of every node that shows a fragment of a text. -/
structure ShownIn (source : List Char) (l : Label) (cs : List Tree) : Prop where
  label : l.ShownIn source
  comment : l.kind = .comment → cs = []

/-- Parts of a phrase that passes on a role are words where the phrase shows them as identifiers, if
the role is one that names are compared for. -/
def NamesWords (shape : Nat) (role : Option Role) (fs : List Fragment) : Prop :=
  role = some .object → ∀ place named, (shapeAt shape).aliases.lookup place =
    some (.identifier, named) → ∀ f ∈ fs, f.extra = false → isWord f.symbol = true

mutual

/-- The nodes that show a fragment of a text. A fragment that is shown by another name is no
comment, and a word where it is shown as an identifier. -/
theorem Fragment.shownIn_nodes (as : Shown) (f : Fragment)
    (has : ∀ a ∈ as.alias_, a.1 ≠ .comment ∧
      (a.1 = .identifier → as.role = some .object → isWord f.symbol = true))
    (h : f.IsIn source) : ∀ t ∈ f.nodes as, t.Each (ShownIn source) := by
  cases f with
  | mk r ps =>
      have hword : isWord r.symbol = true → r.start.row = r.stop.row := fun hw => h.word (.inl hw)
      have hrenamed := h.renamed
      obtain ⟨start, stop, comment, -, -, parts⟩ := h
      have hparts : ∀ role, NamesWords r.shape role ps →
          ∀ t ∈ nodesOf (shapeAt r.shape) 0 role ps, t.Each (ShownIn source) :=
        fun role hrole => shownIn_nodesOf r.shape 0 role ps hrole parts
      rw [Fragment.nodes]
      intro t ht
      dsimp only at ht
      split at ht
      · rename_i kind named hkind
        obtain ⟨hcomment, hname⟩ := has _ hkind
        rw [List.mem_singleton.1 ht]
        exact .node ⟨⟨start, stop, fun hk hrole => hword (hname hk hrole)⟩,
          fun hk => absurd hk hcomment⟩ (hparts none nofun)
      · split at ht
        · rw [List.mem_singleton.1 ht]
          refine .node ⟨⟨start, stop, fun hk _ => hword ?_⟩, fun hk => ?_⟩ (hparts none nofun)
          · rw [(eq_of_kindOf r.symbol).2 hk]
            decide
          · rw [comment ((eq_of_kindOf r.symbol).1 hk)]
            rfl
        · rename_i hvisible
          refine hparts as.role (fun _ place named halias => ?_) t ht
          exact hrenamed (renames_of_alias (Bool.eq_false_iff.2 hvisible) halias)

theorem shownIn_nodesOf (shape place : Nat) (role : Option Role) (fs : List Fragment)
    (hwords : NamesWords shape role fs) (h : ∀ f ∈ fs, f.IsIn source) :
    ∀ t ∈ nodesOf (shapeAt shape) place role fs, t.Each (ShownIn source) := by
  cases fs with
  | nil =>
      intro t ht
      cases ht
  | cons f fs =>
      obtain ⟨hf, hfs⟩ := List.forall_mem_cons.1 h
      have hrest : NamesWords shape role fs := fun hrole place named halias f' hf' =>
        hwords hrole place named halias f' (List.mem_cons_of_mem _ hf')
      rw [nodesOf]
      intro t ht
      split at ht
      · rcases List.mem_append.1 ht with ht | ht
        · exact Fragment.shownIn_nodes ⟨none, none⟩ f (fun a ha => by cases ha) hf t ht
        · exact shownIn_nodesOf shape place role fs hrest hfs t ht
      · rename_i hextra
        rcases List.mem_append.1 ht with ht | ht
        · refine Fragment.shownIn_nodes _ f (fun a ha => ⟨(shown_of_alias ha).1, ?_⟩) hf t ht
          obtain ⟨kind, named⟩ := a
          rintro rfl hrole
          refine hwords ?_ place named ha f List.mem_cons_self (Bool.eq_false_iff.2 hextra)
          -- the part has the role from the phrase, since it has none of its own
          have hown := (shown_of_alias ha).2 rfl
          generalize (shapeAt shape).roles.lookup place = own at hown hrole
          cases own with
          | none => exact hrole
          | some r => exact absurd hrole hown
        · exact shownIn_nodesOf shape (place + 1) role fs hrest hfs t ht

end

/-- The root of the tree of a text and all nodes below it. -/
theorem Tree.shownIn_ofText (source : List Char) :
    (ofText source).label.ShownIn source ∧
      ∀ c ∈ (ofText source).children, c.Each (ShownIn source) := by
  have hstart : Position.start.IsIn source := ⟨Nat.zero_le _, rfl⟩
  unfold Tree.ofText
  split
  · rename_i t ts heq
    obtain ⟨⟨r, ps⟩, hf, hnodes⟩ := Option.map_eq_some_iff.1 heq
    have hwhole := Fragment.wholeIn_of_ofText hf
    have hparts : ∀ t ∈ nodesOf (shapeAt r.shape) 0 none ps, t.Each (ShownIn source) :=
      shownIn_nodesOf r.shape 0 none ps nofun hwhole.parts
    rw [Fragment.nodes] at hnodes
    dsimp only at hnodes
    split at hnodes
    · obtain ⟨rfl, -⟩ := List.cons.inj hnodes
      exact ⟨⟨hwhole.start, hwhole.stop, nofun⟩, hparts⟩
    · have ht : t.Each (ShownIn source) := by
        refine hparts t ?_
        rw [hnodes]
        exact List.mem_cons_self
      exact ⟨ht.self.label, fun c hc => ht.child hc⟩
  · exact ⟨⟨hstart, hstart, nofun⟩, nofun⟩

/-- What every node of the tree of a text says about itself. -/
theorem Tree.each_ofText (source : List Char) :
    (ofText source).Each fun l _ => l.ShownIn source := by
  obtain ⟨hlabel, hchildren⟩ := shownIn_ofText source
  generalize ofText source = t at hlabel hchildren
  cases t with
  | node l cs => exact .node hlabel fun c hc => (hchildren c hc).imp fun _ _ h => h.label

/-- In the tree of a text comments have no children. -/
theorem Tree.commentsBare_ofText (source : List Char) : (ofText source).CommentsBare :=
  fun c hc => ((shownIn_ofText source).2 c hc).imp fun _ _ h => h.comment

/-- **Every node of the tree of a text starts and ends at a place of the text.** -/
theorem Tree.ends_ofText (source : List Char) :
    (ofText source).Each fun l _ => l.start.IsIn source ∧ l.stop.IsIn source :=
  (each_ofText source).imp fun _ _ h => ⟨h.start, h.stop⟩

/-- **In the tree of a text no name of an object goes on in another row.** -/
theorem Tree.namesInRow_ofText (source : List Char) : (ofText source).NamesInRow :=
  (each_ofText source).imp fun _ _ h => h.name

end CellScript.Python
