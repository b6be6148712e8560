import CellScript.Proofs.Block.CodeRows
import CellScript.Proofs.Cell.Settled
import CellScript.Proofs.Script.ErrorPlace

set_option autoImplicit false

/-! # The form of cells that are read

Whatever a script is and wherever its blocks stand, the lines of a cell that is read have a form of
their own, `ReadCode` and `ReadProse`. The steps of reading keep it up for each other: a line that
got back its own form is neither a placeholder nor marked, and taking quotes off or decoding makes
blank lines at the ends only, where they are dropped. `cells_inForm` says so for every cell of a
script. -/

namespace CellScript

open Python

/-- The lines of code, as they are read. -/
structure ReadCode (content : List Text) : Prop where
  filled : ∀ t ∈ content, IsFilled t
  noFeed : ∀ t ∈ content, '\n' ∉ t
  noPlaceholder : ∀ t ∈ content, ¬ IsPlaceholder t
  noMark : ∀ t ∈ content, ¬ IsMarked t
  last : content.getLast? ≠ some []

/-- The lines of prose, as they are read. -/
structure ReadProse (content : List Text) : Prop where
  filled : ∀ t ∈ content, IsFilled t
  noFeed : ∀ t ∈ content, '\n' ∉ t
  first : ∀ t, content.head? = some t → Text.isBlank t = false
  last : ∀ t, content.getLast? = some t → Text.isBlank t = false

/-- The content of a cell has the form of what is read for its kind. -/
def Cell.InForm (c : Cell) : Prop :=
  match c.kind with
  | .executable => ReadCode c.content
  | .prose => ReadProse c.content
  | .sandbox => True

/-! ## Code -/

theorem not_isPlaceholder_of_kept {t : Text} (h : keptLine? t = some t) : ¬ IsPlaceholder t := by
  intro hp
  rw [keptLine?_of_isPlaceholder hp] at h
  cases h

theorem not_isMarked_of_kept {t : Text} (h : keptLine? t = some t) : ¬ IsMarked t := by
  intro hm
  rw [keptLine?_of_not_isPlaceholder (not_isPlaceholder_of_kept h),
    unescapeLine_of_isMarked hm] at h
  exact tail_ne_of_isMarked hm (Option.some.inj h)

theorem readCode_of_codeLines {indent : Nat} {rs : List (Nat × Text)} {ts : List Text}
    (hrs : ∀ r ∈ rs.map Prod.snd, '\n' ∉ r) (h : codeLines indent rs = .ok ts) :
    ReadCode (dropEmptyEnd ts) := by
  obtain ⟨us, hus, rfl⟩ := codeLines_eq_ok_iff.1 h
  -- every line that is left was kept, and would be kept as it is
  have hline : ∀ t ∈ dropEmptyEnd (us.filterMap keptLine?),
      IsFilled t ∧ '\n' ∉ t ∧ keptLine? t = some t := by
    intro t ht
    obtain ⟨u, hu, hkept⟩ := List.mem_filterMap.1 (mem_of_mem_dropEmptyEnd ht)
    obtain ⟨hfilled, r, hr, hc⟩ := filled_of_dedents hus hu
    exact ⟨hfilled.of_kept hkept, fun hn => hrs r hr (hc _ (mem_of_kept hkept hn)),
      keptLine?_of_kept hkept⟩
  exact {
    filled := fun t ht => (hline t ht).1
    noFeed := fun t ht => (hline t ht).2.1
    noPlaceholder := fun t ht => not_isPlaceholder_of_kept (hline t ht).2.2
    noMark := fun t ht => not_isMarked_of_kept (hline t ht).2.2
    last := getLast?_dropEmptyEnd _ }

/-! ## Prose -/

theorem head?_dropBlankEnds {ts : List Text} {t : Text} (h : (dropBlankEnds ts).head? = some t) :
    Text.isBlank t = false := by
  rw [dropBlankEnds_eq] at h
  exact not_of_head?_dropWhile h

theorem readProse_of_filledInside {ts : List Text} (hfilled : FilledInside ts)
    (hfeed : ∀ t ∈ ts, '\n' ∉ t) : ReadProse (dropBlankEnds ts) where
  filled := hfilled.dropBlankEnds
  noFeed := fun t ht => hfeed t (mem_of_mem_dropBlankEnds ht)
  first := fun _ h => head?_dropBlankEnds h
  last := fun _ h => getLast?_dropBlankEnds h

theorem readProse_of_proseLines {header indent line : Nat} {rows content : List Text}
    (hrows : ∀ r ∈ rows, '\n' ∉ r) (h : proseLines header indent line rows = .ok content) :
    ReadProse content := by
  obtain ⟨ts, decode, hfilled, hts, rfl⟩ := exists_stripped_of_proseLines h
  have hfeed : ∀ t ∈ ts, '\n' ∉ t := by
    intro t ht hn
    obtain ⟨r, hr, hc⟩ := hts t ht
    exact hrows r hr (hc _ hn)
  cases decode with
  | false => exact readProse_of_filledInside hfilled hfeed
  | true =>
      refine readProse_of_filledInside hfilled.map_decodeProse fun t ht => ?_
      obtain ⟨u, hu, rfl⟩ := List.mem_map.1 ht
      exact fun hn => hfeed u hu (mem_of_mem_decodeProse hn)

/-! ## Cells -/

theorem not_mem_physicalLines {source l : Text} (h : l ∈ Text.physicalLines source) :
    '\n' ∉ l := by
  obtain ⟨r, hr, rfl⟩ := List.mem_map.1 h
  exact fun hn => Text.not_mem_of_mem_rows hr (Text.mem_of_mem_dropReturn hn)

/-- A cell that a block gives is in form, whatever the block and its tree. -/
theorem inForm_of_cell {source : Text} {b : Block} {c : Cell}
    (h : b.cell source (Text.physicalLines source) = .ok c) : c.InForm := by
  rw [Block.cell] at h
  split at h
  · cases h
  · split at h
    · obtain ⟨ts, hts, rfl⟩ := map_eq_ok.1 h
      have hrows := b.span.forall_rowsOf (P := fun l => '\n' ∉ l) (by simp)
        fun l (hl : l ∈ Text.physicalLines source) => not_mem_physicalLines hl
      exact readCode_of_codeLines hrows hts
    · obtain ⟨content, hcontent, rfl⟩ := map_eq_ok.1 h
      rw [proseContent] at hcontent
      split at hcontent
      · cases hcontent
      · exact readProse_of_proseLines (fun _ => not_mem_physicalLines) hcontent
    · obtain rfl := Except.ok.inj h
      trivial

/-- The cells of a reading come from blocks that were found. -/
theorem exists_block_of_mem_cells {source : Text} {lines : List Text} {fs : List Find} {c : Cell}
    (h : c ∈ (readFinds source lines fs).cells) :
    ∃ b, .block b ∈ fs ∧ b.cell source lines = .ok c := by
  induction fs with
  | nil => cases h
  | cons f fs ih =>
      have hlater : c ∈ (readFinds source lines fs).cells →
          ∃ b, .block b ∈ f :: fs ∧ b.cell source lines = .ok c := by
        intro h
        obtain ⟨b, hb, hc⟩ := ih h
        exact ⟨b, List.mem_cons_of_mem _ hb, hc⟩
      cases f with
      | discarded line => exact hlater h
      | failed e => cases h
      | block b =>
          rw [readFinds] at h
          cases hb : b.checkedCell source lines with
          | error e =>
              rw [hb] at h
              cases h
          | ok c' =>
              rw [hb] at h
              rcases List.mem_cons.1 h with rfl | h
              · exact ⟨b, List.mem_cons_self, (checkedCell_eq_ok_iff.1 hb).1⟩
              · exact hlater h

/-- **Cells that are read are in form**: of any script, with any module that guards are called on
and any tree, each block that gives a cell gives one in form, and so does the reading of all. -/
theorem cells_inForm (ns source : Text) (t : Tree) :
    (∀ (b : Block) (c : Cell), b.cell source (Text.physicalLines source) = .ok c → c.InForm) ∧
      ∀ c ∈ (readTree ns source t).cells, c.InForm := by
  refine ⟨fun b c => inForm_of_cell, fun c hc => ?_⟩
  obtain ⟨b, -, hb⟩ := exists_block_of_mem_cells hc
  exact inForm_of_cell hb

/-- Code with a line marked twice and a placeholder, and prose that is decoded. -/
def roughScript : Text :=
  ("with herzog.Cell(\"python\"):\n    ##!a\n    pass \n    #%b\r\n    \n" ++
    "with herzog.Cell(\"markdown\"):\n    u\"\"\"  \n    c\\\\\"\"\n      \"\"\"\n").toList

theorem cells_inForm_rough :
    (readTree "herzog".toList roughScript (Tree.ofText roughScript)).cells =
        [⟨.executable, ["##!a".toList, "%b".toList]⟩, ⟨.prose, ["c\\\"\"".toList]⟩] ∧
      Cell.InForm ⟨.executable, ["##!a".toList, "%b".toList]⟩ ∧
      Cell.InForm ⟨.prose, ["c\\\"\"".toList]⟩ := by
  have hcells : (readTree "herzog".toList roughScript (Tree.ofText roughScript)).cells =
      [⟨.executable, ["##!a".toList, "%b".toList]⟩, ⟨.prose, ["c\\\"\"".toList]⟩] := by
    decide +kernel
  have hform := (cells_inForm "herzog".toList roughScript (Tree.ofText roughScript)).2
  rw [hcells] at hform
  exact ⟨hcells, hform _ List.mem_cons_self, hform _ (List.mem_cons_of_mem _ List.mem_cons_self)⟩

end CellScript
