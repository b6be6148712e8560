import CellScript.Proofs.Python.Words
import CellScript.Python.Parse.Fragment

set_option autoImplicit false

/-! # Fragments that stand in a text

Cursors and fragments that come of a text count places of it, words do not go on in another row, and
no phrase is a comment: `Cursor.IsIn` and `Fragment.IsIn`. Here are the ways in which the parser
makes a new one of those it has: stepping over a character, tokens, and phrases,
`Fragment.isIn_phrase`. -/

namespace CellScript.Python

open Grammar

variable {source : List Char}

/-! ## Tables -/

/-- The symbol of comments. -/
def Grammar.comment : Nat := 99

/-- Only the one symbol is shown as a comment, and only the one as an identifier. -/
theorem Grammar.eq_of_kindOf (symbol : Nat) :
    (kindOf symbol = .comment → symbol = comment) ∧
      (kindOf symbol = .identifier → symbol = identifier) := by
  have htable : ∀ x ∈ kinds.zipIdx, ∀ y ∈ x.1.zipIdx,
      (y.1 = .comment → 16 * x.2 + y.2 = comment) ∧
        (y.1 = .identifier → 16 * x.2 + y.2 = identifier) := by decide
  have hother : ∀ i, (Kind.other "" = .comment → i = comment) ∧
      (Kind.other "" = .identifier → i = identifier) := fun _ => ⟨nofun, nofun⟩
  unfold kindOf
  split
  · exact ⟨nofun, nofun⟩
  · exact forall_shelved_zipIdx (fun i (kind : Kind) => (kind = .comment → i = comment) ∧
      (kind = .identifier → i = identifier)) htable hother symbol

/-- What a phrase shows by another name is shown as no comment, and if as an identifier, it has no
role that names are compared for. -/
theorem Grammar.shown_of_alias {i place : Nat} {kind : Kind} {named : Bool}
    (h : (shapeAt i).aliases.lookup place = some (kind, named)) :
    kind ≠ .comment ∧ (kind = .identifier → (shapeAt i).roles.lookup place ≠ some .object) := by
  have htable : ∀ shelf ∈ shapes, ∀ s ∈ shelf, ∀ a ∈ s.aliases,
      a.2.1 ≠ .comment ∧ (a.2.1 = .identifier → s.roles.lookup a.1 ≠ some .object) := by decide
  have hshape : ∀ a ∈ (shapeAt i).aliases, a.2.1 ≠ .comment ∧
      (a.2.1 = .identifier → (shapeAt i).roles.lookup a.1 ≠ some .object) :=
    forall_shelved (fun s : Shape => ∀ a ∈ s.aliases,
      a.2.1 ≠ .comment ∧ (a.2.1 = .identifier → s.roles.lookup a.1 ≠ some .object)) htable
      (by simp) 16 i
  obtain ⟨before, after, heq, -⟩ := List.lookup_eq_some_iff.1 h
  exact hshape (place, kind, named)
    (heq ▸ List.mem_append_right before List.mem_cons_self)

/-- A phrase that is not shown and shows a part as an identifier renames. -/
theorem Grammar.renames_of_alias {symbol i place : Nat} {named : Bool}
    (hsymbol : isVisible symbol = false)
    (h : (shapeAt i).aliases.lookup place = some (.identifier, named)) :
    renames symbol i = true := by
  obtain ⟨before, after, heq, -⟩ := List.lookup_eq_some_iff.1 h
  rw [renames, hsymbol, heq]
  simp

/-! ## Cursors -/

namespace Cursor

/-- A cursor stands in a text: at a place of it, with what follows there, as far as it is known. -/
structure IsIn (source : List Char) (c : Cursor) : Prop where
  pos : c.pos.IsIn source
  rest : c.rest <+: source.drop c.pos.offset

theorem isIn_ofText (source : List Char) : (ofText source).IsIn source :=
  ⟨⟨Nat.zero_le _, rfl⟩, List.prefix_refl _⟩

theorem isIn_default (source : List Char) : (default : Cursor).IsIn source :=
  ⟨⟨Nat.zero_le _, rfl⟩, List.nil_prefix⟩

theorem IsIn.next {p : Position} {x : Char} {xs : List Char}
    (h : (⟨p, x :: xs⟩ : Cursor).IsIn source) : (⟨p.next x, xs⟩ : Cursor).IsIn source := by
  obtain ⟨rest, hrest⟩ := h.rest
  have hlt : p.offset < source.length := by
    by_contra hge
    rw [List.drop_of_length_le (Nat.le_of_not_lt hge)] at hrest
    cases hrest
  have hdrop := List.drop_eq_getElem_cons hlt
  rw [← hrest] at hdrop
  obtain ⟨hx, hxs⟩ := List.cons.inj hdrop
  refine ⟨⟨?_, ?_⟩, ?_⟩
  · rw [Position.offset_next]
    exact hlt
  · rw [Position.offset_next, List.take_add_one, List.getElem?_eq_getElem hlt, Option.toList_some,
      Position.after_append, ← h.pos.eq_after, ← hx]
    rfl
  · rw [Position.offset_next]
    exact ⟨rest, hxs⟩

theorem IsIn.advance {c : Cursor} (h : c.IsIn source) : c.advance.IsIn source := by
  obtain ⟨p, rest⟩ := c
  cases rest with
  | nil => exact h
  | cons x xs => exact h.next

/-- A step that is taken or not. -/
theorem IsIn.ite {c d : Cursor} (hc : c.IsIn source) (hd : d.IsIn source) {p : Prop} [Decidable p] :
    (if p then c else d).IsIn source := by
  split
  · exact hc
  · exact hd

end Cursor

/-! ## Fragments -/

namespace Fragment

/-- A fragment stands in a text: it starts and ends at places of the text, as its parts do. A comment
has no parts, a word is in a single row, and only words are shown as identifiers by a phrase that is
not shown itself. -/
inductive IsIn (source : List Char) : Fragment → Prop where
  | mk {r : Reading} {ps : List Fragment} (start : r.start.IsIn source) (stop : r.stop.IsIn source)
      (comment : r.symbol = comment → ps = [])
      (word : isWord r.symbol = true ∨ r.keyword = true → r.start.row = r.stop.row)
      (renamed : renames r.symbol r.shape = true → ∀ p ∈ ps, p.extra = false →
        isWord p.symbol = true)
      (parts : ∀ p ∈ ps, IsIn source p) : IsIn source (.mk r ps)

namespace IsIn

variable {f : Fragment}

theorem start (h : f.IsIn source) : f.reading.start.IsIn source := by
  cases h with
  | mk start => exact start

theorem stop (h : f.IsIn source) : f.reading.stop.IsIn source := by
  cases h with
  | mk _ stop => exact stop

theorem parts (h : f.IsIn source) : ∀ p ∈ f.parts, p.IsIn source := by
  cases h with
  | mk _ _ _ _ _ parts => exact parts

theorem word (h : f.IsIn source) (hf : isWord f.symbol = true ∨ f.reading.keyword = true) :
    f.reading.start.row = f.reading.stop.row := by
  cases h with
  | mk _ _ _ word => exact word hf

theorem renamed (h : f.IsIn source) (hf : renames f.symbol f.reading.shape = true) :
    ∀ p ∈ f.parts, p.extra = false → isWord p.symbol = true := by
  cases h with
  | mk _ _ _ _ renamed => exact renamed hf

theorem setExtra (h : f.IsIn source) (extra : Bool) : (f.setExtra extra).IsIn source := by
  cases h with
  | mk start stop comment word renamed parts => exact ⟨start, stop, comment, word, renamed, parts⟩

end IsIn

theorem extra_setExtra (extra : Bool) (f : Fragment) : (f.setExtra extra).extra = extra := by
  cases f with
  | mk r ps => rfl

theorem symbol_setExtra (extra : Bool) (f : Fragment) : (f.setExtra extra).symbol = f.symbol := by
  cases f with
  | mk r ps => rfl

/-- A fragment without parts stands in a text if its ends do. -/
theorem isIn_leaf {r : Reading} (start : r.start.IsIn source) (stop : r.stop.IsIn source)
    (word : isWord r.symbol = true ∨ r.keyword = true → r.start.row = r.stop.row) :
    (mk r []).IsIn source :=
  ⟨start, stop, fun _ => rfl, word, fun _ _ hp => absurd hp List.not_mem_nil,
    fun _ hp => absurd hp List.not_mem_nil⟩

theorem isIn_token {start stop : Cursor} (hstart : start.IsIn source) (hstop : stop.IsIn source)
    {symbol : Nat} {keyword : Bool}
    (hword : isWord symbol = true ∨ keyword = true → start.pos.row = stop.pos.row) :
    (token symbol start.pos stop.pos keyword).IsIn source :=
  isIn_leaf hstart.pos hstop.pos hword

theorem isIn_missingToken {c : Cursor} (h : c.IsIn source) (symbol : Nat) :
    (missingToken symbol c.pos).IsIn source :=
  isIn_leaf h.pos h.pos fun _ => rfl

theorem start_phrase {symbol shape : Nat} {weight : Int} {extra : Bool} {at_ : Position}
    {parts : List Fragment} (hat : at_.IsIn source) (hparts : ∀ p ∈ parts, p.IsIn source) :
    (phrase symbol shape weight extra at_ parts).reading.start.IsIn source := by
  cases parts with
  | nil => exact hat
  | cons p ps => exact (hparts p List.mem_cons_self).start

theorem stop_phrase {symbol shape : Nat} {weight : Int} {extra : Bool} {at_ : Position}
    {parts : List Fragment} (hat : at_.IsIn source) (hparts : ∀ p ∈ parts, p.IsIn source) :
    (phrase symbol shape weight extra at_ parts).reading.stop.IsIn source := by
  unfold phrase reading
  dsimp only
  split
  · rename_i f hf
    exact (hparts f (List.mem_of_getLast? hf)).stop
  · exact hat

/-- A phrase stands in a text if its parts do. -/
theorem isIn_phrase {symbol shape : Nat} (weight : Int) (extra : Bool) {at_ : Position}
    {parts : List Fragment} (hsymbol : firstPhrase ≤ symbol)
    (hrenamed : renames symbol shape = true → ∀ p ∈ parts, p.extra = false →
      isWord p.symbol = true)
    (hat : at_.IsIn source) (hparts : ∀ p ∈ parts, p.IsIn source) :
    (phrase symbol shape weight extra at_ parts).IsIn source := by
  refine ⟨start_phrase hat hparts, stop_phrase hat hparts, fun h => ?_, fun h => ?_, hrenamed, hparts⟩
  · obtain rfl : symbol = comment := h
    exact absurd hsymbol (by decide)
  · have hword : isWord symbol = true := h.resolve_right Bool.false_ne_true
    rw [isWord_of_firstPhrase_le hsymbol] at hword
    cases hword

/-- Text that fits nowhere stands in a text if its parts do. -/
theorem isIn_phrase_of_error {symbol : Nat} (extra : Bool) {at_ : Position}
    {parts : List Fragment} (hsymbol : symbol = error ∨ symbol = errorPiece) (hat : at_.IsIn source)
    (hparts : ∀ p ∈ parts, p.IsIn source) : (phrase symbol 0 0 extra at_ parts).IsIn source := by
  refine isIn_phrase 0 extra ?_ (fun h => ?_) hat hparts
  · rcases hsymbol with rfl | rfl <;> decide
  · rcases hsymbol with rfl | rfl <;> exact absurd h (by decide)

end Fragment

end CellScript.Python
