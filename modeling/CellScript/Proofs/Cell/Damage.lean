import CellScript.Cell.Check
import CellScript.Proofs.Cell.Escape
import CellScript.Proofs.Python.OfText

set_option autoImplicit false

/-! # Damaged trees

The search for damage passes over every node that does not count as damaged. `Tree.CountsDamage` is
what a tree has to promise for that: the nodes that count are those that are damage themselves or
have some below them. A token that is missing but has no node of its own would break it. Under it,
`firstDamage?_eq_find?` says that the search finds what a search of all nodes in `Tree.preorder`
finds, and `takeDamage?_eq_firstDamageOf?` that a loop over a list of trees does the same as the
recursion. `damage_found` adds that the error for damaged code always names a line of the cell. -/

namespace CellScript

open Python

/-! ## All nodes of a tree -/

namespace Python.Tree

/-- The root is damage itself: text that fits nowhere, or a token that is not in the text. -/
def isDamage (t : Tree) : Bool := t.isError || t.isMissing

mutual

/-- All nodes of a tree, each before what is below it, and siblings in order. -/
def preorder : Tree → List Tree
  | .node l cs => .node l cs :: preorderOf cs

/-- All nodes of some trees. -/
def preorderOf : List Tree → List Tree
  | [] => []
  | t :: ts => t.preorder ++ preorderOf ts

end

/-- The nodes that count as damaged are those that are damage or have some below them. -/
def CountsDamage (t : Tree) : Prop :=
  ∀ n ∈ t.preorder, n.label.damaged = true ↔ ∃ d ∈ n.preorder, d.isDamage = true

instance (t : Tree) : Decidable t.CountsDamage := inferInstanceAs (Decidable (∀ _ ∈ _, _))

/-- Every node starts in a row of the text. -/
def RowsIn (code : Text) (t : Tree) : Prop :=
  ∀ n ∈ t.preorder, n.start.row < (Text.rows code).length

theorem preorderOf_eq_flatMap (ts : List Tree) : preorderOf ts = ts.flatMap preorder := by
  induction ts with
  | nil => rfl
  | cons t ts ih => simp only [preorderOf, List.flatMap_cons, ih]

theorem mem_preorder_self (t : Tree) : t ∈ t.preorder := by
  cases t with
  | node l cs => simp [preorder]

theorem mem_preorder_node {l : Label} {cs : List Tree} {n : Tree} :
    n ∈ preorder (.node l cs) ↔ n = .node l cs ∨ ∃ c ∈ cs, n ∈ c.preorder := by
  rw [preorder, List.mem_cons, preorderOf_eq_flatMap, List.mem_flatMap]

/-- What holds of every node holds of those in the list of them. -/
theorem Each.of_mem_preorder {P : Label → List Tree → Prop} {t n : Tree} (h : t.Each P)
    (hn : n ∈ t.preorder) : P n.label n.children := by
  induction h with
  | node h _ ih =>
      rcases mem_preorder_node.1 hn with rfl | ⟨c, hc, hn⟩
      · exact h
      · exact ih c hc hn

theorem CountsDamage.child {l : Label} {cs : List Tree} (h : CountsDamage (.node l cs)) {c : Tree}
    (hc : c ∈ cs) : c.CountsDamage :=
  fun n hn => h n (mem_preorder_node.2 (.inr ⟨c, hc, hn⟩))

/-- The nodes of the tree of a text start in its rows. -/
theorem rowsIn_ofText (code : Text) : (ofText code).RowsIn code := by
  intro n hn
  obtain ⟨hstart, -⟩ := (ends_ofText code).of_mem_preorder hn
  exact hstart.row_lt_rows

end Python.Tree

/-! ## The search -/

mutual

/-- What the search passes over holds no damage. -/
theorem firstDamage?_eq_find? (t : Tree) (h : t.CountsDamage) :
    firstDamage? t = t.preorder.find? Tree.isDamage := by
  cases t with
  | node l cs =>
      rw [firstDamage?, Tree.preorder]
      by_cases hself : l.kind = .error ∨ l.missing = true
      · have hdamage : Tree.isDamage (.node l cs) = true := by
          simpa [Tree.isDamage, Tree.isError, Tree.isMissing, Tree.kind, Tree.label] using hself
        rw [if_pos hself, List.find?_cons_of_pos hdamage]
      · have hdamage : ¬ Tree.isDamage (.node l cs) = true := by
          simpa [Tree.isDamage, Tree.isError, Tree.isMissing, Tree.kind, Tree.label] using hself
        rw [if_neg hself, List.find?_cons_of_neg hdamage]
        by_cases hcounts : l.damaged = true
        · rw [if_pos hcounts]
          exact firstDamageOf?_eq_find? cs fun c hc => h.child hc
        · -- a node that does not count has no damage below it
          rw [if_neg hcounts, eq_comm, List.find?_eq_none]
          intro d hd hdamaged
          refine hcounts ((h _ (Tree.mem_preorder_self _)).2 ⟨d, ?_, hdamaged⟩)
          rw [Tree.preorder]
          exact List.mem_cons_of_mem _ hd

theorem firstDamageOf?_eq_find? (ts : List Tree) (h : ∀ t ∈ ts, t.CountsDamage) :
    firstDamageOf? ts = (Tree.preorderOf ts).find? Tree.isDamage := by
  cases ts with
  | nil => rfl
  | cons t ts =>
      rw [firstDamageOf?, Tree.preorderOf, List.find?_append,
        firstDamage?_eq_find? t (h t List.mem_cons_self),
        firstDamageOf?_eq_find? ts fun u hu => h u (List.mem_cons_of_mem t hu)]
      exact Option.orElse_eq_or

end

theorem firstDamageOf?_append (ts us : List Tree) :
    firstDamageOf? (ts ++ us) = (firstDamageOf? ts <|> firstDamageOf? us) := by
  induction ts with
  | nil => simp [firstDamageOf?]
  | cons t ts ih =>
      rw [List.cons_append, firstDamageOf?, firstDamageOf?, ih]
      cases firstDamage? t <;> rfl

/-- Searching the children at once is searching them next. -/
theorem takeDamage?_eq_firstDamageOf? (ts : List Tree) : takeDamage? ts = firstDamageOf? ts := by
  fun_induction takeDamage? ts with
  | case1 => rfl
  | case2 ts l cs h => simp [firstDamageOf?, firstDamage?, h]
  | case3 ts l cs h hcounts ih =>
      rw [ih, firstDamageOf?_append, firstDamageOf?, firstDamage?, if_neg h, if_pos hcounts]
  | case4 ts l cs h hcounts ih => simp [firstDamageOf?, firstDamage?, h, hcounts, ih]

/-- In a damaged tree there is damage to find. -/
theorem exists_firstDamage? {t : Tree} (h : t.CountsDamage) (hd : t.label.damaged = true) :
    ∃ d ∈ t.preorder, firstDamage? t = some d := by
  obtain ⟨d, hd, hdamage⟩ := (h t t.mem_preorder_self).1 hd
  rw [firstDamage?_eq_find? t h]
  cases hfind : t.preorder.find? Tree.isDamage with
  | none => exact absurd hdamage (List.find?_eq_none.1 hfind d hd)
  | some d' => exact ⟨d', List.mem_of_find?_eq_some hfind, rfl⟩

/-! ## Lines of a cell -/

/-- The words for a flaw end in the number of a line of the cell. -/
def Flaw.NamesLine (f : Flaw) (n : Nat) : Prop :=
  ∃ what, f.message = what ++ " on cell line " ++ toString n

theorem namesLine_flawOf (code : Text) (d : Tree) :
    (flawOf code d).NamesLine (d.start.row + 1) := by
  -- the quote that closes what is shown stands before the words that name the line
  have hquoted : ∀ shown line : String,
      shown ++ "` on cell line " ++ line = shown ++ "`" ++ " on cell line " ++ line := by
    intro shown line
    have hwords : "` on cell line " = "`" ++ " on cell line " := by decide
    rw [hwords, String.append_assoc, String.append_assoc, String.append_assoc, String.append_assoc]
  unfold flawOf
  dsimp only
  split
  · exact ⟨_, hquoted _ _⟩
  · split
    · exact ⟨"invalid syntax", rfl⟩
    · exact ⟨_, hquoted _ _⟩

/-- Words that name a line are never those for a flaw at no known place. -/
theorem Flaw.NamesLine.message_ne {f : Flaw} {n : Nat} (h : f.NamesLine n) :
    f.message ≠ Flaw.message .somewhere := by
  obtain ⟨what, hwhat⟩ := h
  intro hmessage
  have hnot : 'o' ∉ (Flaw.message .somewhere).toList := by decide
  rw [← hmessage, hwhat, String.toList_append, String.toList_append] at hnot
  exact hnot (List.mem_append_left _ (List.mem_append_right _ (by decide)))

/-- The checked text has a row for each line, and one row if there is none. -/
theorem Cell.length_rows_code {c : Cell} (h : ∀ u ∈ c.content, '\n' ∉ u) :
    (Text.rows c.code).length = max 1 c.content.length := by
  by_cases hne : c.content = []
  · rw [Cell.code, hne]
    rfl
  · have hlines : ∀ u ∈ c.content.map escapeLine, '\n' ∉ u := by
      intro u hu
      obtain ⟨v, hv, rfl⟩ := List.mem_map.1 hu
      rw [mem_escapeLine (by decide)]
      exact h v hv
    rw [Cell.code, Text.rows_joinWith_of_not_mem (by simpa using hne) hlines, List.length_map]
    exact (Nat.max_eq_right (List.length_pos_iff.2 hne)).symm

/-! ## The check with any tree -/

/-- Check a cell, given the tree of its code. -/
def Cell.checkTree (c : Cell) (t : Tree) (line : Nat) : Except CellError Unit :=
  if c.kind ≠ .executable then .ok ()
  else (flawIn? c.code t).elim (.ok ()) fun flaw => .error (.invalidCode flaw line)

theorem Cell.check_eq_checkTree (c : Cell) (line : Nat) :
    c.check line = c.checkTree (Tree.ofText c.code) line := by
  rw [check, checkTree]
  cases flawIn? c.code (Tree.ofText c.code) <;> rfl

theorem Cell.checkTree_of_damaged {c : Cell} {t d : Tree} (hk : c.kind = .executable)
    (ht : t.label.damaged = true) (hd : firstDamage? t = some d) (line : Nat) :
    c.checkTree t line = .error (.invalidCode (flawOf c.code d) line) := by
  rw [checkTree, if_neg (by simp [hk]), flawIn?, if_pos ht, hd]
  rfl

/-- **The search for damage misses none, though it passes over the nodes that do not count as
damaged.** As recursion and as a loop it gives the first node that is damage in the order in which a
tree is written down, and nothing only if no node is. So where the tree of the code of a cell is
damaged, the error names a line of the cell, and a line that it has if the tree stands in the
code. -/
theorem damage_found (c : Cell) (t : Tree) (h : t.CountsDamage) :
    firstDamage? t = t.preorder.find? Tree.isDamage ∧ takeDamage? [t] = firstDamage? t ∧
    (firstDamage? t = none ↔ ∀ n ∈ t.preorder, n.isDamage = false) ∧
    (c.kind = .executable → t.label.damaged = true → ∀ line, ∃ d flaw,
      firstDamage? t = some d ∧ c.checkTree t line = .error (.invalidCode flaw line) ∧
        flaw.NamesLine (d.start.row + 1) ∧ flaw.message ≠ Flaw.message .somewhere ∧
        (t.RowsIn c.code → (∀ u ∈ c.content, '\n' ∉ u) →
          1 ≤ d.start.row + 1 ∧ d.start.row + 1 ≤ max 1 c.content.length)) ∧
    (∀ line, c.check line = c.checkTree (Tree.ofText c.code) line) ∧
    (Tree.ofText c.code).RowsIn c.code := by
  have hfind := firstDamage?_eq_find? t h
  have hloop : takeDamage? [t] = firstDamage? t := by
    rw [takeDamage?_eq_firstDamageOf?, firstDamageOf?, firstDamageOf?]
    cases firstDamage? t <;> rfl
  refine ⟨hfind, hloop, by simp [hfind], fun hk ht line => ?_, c.check_eq_checkTree,
    Tree.rowsIn_ofText c.code⟩
  obtain ⟨d, hmem, hd⟩ := exists_firstDamage? h ht
  have hnames := namesLine_flawOf c.code d
  refine ⟨d, flawOf c.code d, hd, Cell.checkTree_of_damaged hk ht hd line, hnames,
    hnames.message_ne, fun hrows hcontent => ⟨Nat.succ_pos _, ?_⟩⟩
  rw [← Cell.length_rows_code hcontent]
  exact hrows d hmem

/-- A call without its closing parenthesis, in the second line of a cell. -/
def unclosed : Cell := ⟨.executable, ["x = 1".toList, "int(\"frank\"".toList]⟩

theorem damage_found_unclosed :
    (Tree.ofText unclosed.code).CountsDamage ∧ (Tree.ofText unclosed.code).label.damaged = true ∧
      ∃ flaw line, unclosed.check 12 = .error (.invalidCode flaw 12) ∧ flaw.NamesLine line ∧
        1 ≤ line ∧ line ≤ 2 := by
  have hcounts : (Tree.ofText unclosed.code).CountsDamage := by decide +kernel
  have hdamaged : (Tree.ofText unclosed.code).label.damaged = true := by decide +kernel
  obtain ⟨-, -, -, herror, hcheck, hrows⟩ :=
    damage_found unclosed (Tree.ofText unclosed.code) hcounts
  obtain ⟨d, flaw, -, hflaw, hnames, -, hline⟩ := herror rfl hdamaged 12
  obtain ⟨hlow, hhigh⟩ := hline hrows (by decide +kernel)
  exact ⟨hcounts, hdamaged, flaw, d.start.row + 1, (hcheck 12).trans hflaw, hnames, hlow, hhigh⟩

end CellScript
