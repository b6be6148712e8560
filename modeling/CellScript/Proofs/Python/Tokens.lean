import CellScript.Proofs.Python.Fragments
import CellScript.Python.Parse.Lex

set_option autoImplicit false

/-! # Tokens that stand in a text

Reading a token leads from a cursor of a text to cursors of the text: over layout,
`Layout.isIn_scan`, with the token automaton, `isIn_scan`, and over text that fits nowhere. So the
next token of a reading stands in the text, `Place.isIn_lex`. -/

namespace CellScript.Python

open Grammar

variable {source : List Char}

/-! ## Layout -/

/-- A layout token stands in a text. -/
structure LayoutScan.IsIn (source : List Char) (l : LayoutScan) : Prop where
  start : l.start.IsIn source
  stop : l.stop.IsIn source

namespace Layout

theorem isIn_skipRawEscape {c : Cursor} (h : c.IsIn source) (mark : Char) :
    (skipRawEscape mark c).IsIn source := by
  unfold skipRawEscape
  dsimp only
  refine .ite (.ite (.advance (.advance ?_)) (.advance ?_)) (.ite (.advance ?_) ?_) <;>
    exact .ite h.advance.advance h.advance

/-- A look at the inside of a string ends at a place of the text. -/
def Inside.IsIn (source : List Char) : Inside → Prop
  | .token _ stop _ => stop.IsIn source
  | .nothing => True
  | .ended c => c.IsIn source

theorem isIn_content {c : Cursor} (h : c.IsIn source) (l : Layout) (some_ : Bool) :
    (Inside.content l some_ c).IsIn source := by
  cases some_ with
  | true => exact h
  | false => trivial

theorem isIn_inside (l : Layout) (q : Quote) (fuel : Nat) (content : Bool) {c : Cursor}
    (h : c.IsIn source) : (inside l q fuel content c).IsIn source := by
  fun_induction inside l q fuel content c with
  | case1 | case2 | case3 => exact h
  | case4 | case7 | case8 => exact isIn_content h l _
  | case5 =>
      rename_i ih
      exact ih (isIn_skipRawEscape h q.mark)
  | case6 =>
      rename_i ih
      exact ih h.advance.advance.advance
  | case9 | case13 => exact h
  | case10 => exact h.advance.advance.advance
  | case11 => exact h.advance.advance
  | case12 | case14 => exact h.advance
  | case15 => trivial
  | case16 =>
      rename_i ih
      exact ih h.advance

theorem isIn_skipComment {p : Position} {rest : List Char}
    (h : (⟨p, rest⟩ : Cursor).IsIn source) : (skipComment rest p).IsIn source := by
  induction rest generalizing p with
  | nil => exact h
  | cons x xs ih =>
      rw [skipComment]
      exact .ite h (ih h.next)

theorem isIn_gap {comments : Bool} {fuel : Nat} {g g' : Gap} (h : g.stop.IsIn source)
    (hg : gap comments fuel g = some g') : g'.stop.IsIn source := by
  fun_induction gap comments fuel g with
  | case1 | case11 =>
      obtain rfl := Option.some.inj hg
      exact h
  | case2 =>
      obtain rfl := Option.some.inj hg
      exact h
  | case3 | case4 | case5 | case6 =>
      rename_i ih
      exact ih h.advance hg
  | case7 =>
      rename_i ih
      exact ih (isIn_skipComment h).advance hg
  | case8 | case10 => cases hg
  | case9 =>
      rename_i ih
      exact ih (Cursor.IsIn.ite h.advance.advance h.advance).advance hg

theorem isIn_stringPrefix {p : Position} {rest : List Char} (q : Quote)
    (h : (⟨p, rest⟩ : Cursor).IsIn source) : (stringPrefix rest p q).2.2.IsIn source := by
  induction rest generalizing p q with
  | nil => exact h
  | cons x xs ih =>
      unfold stringPrefix
      split
      · exact ih _ h.next
      · split
        · exact ih _ h.next
        · split
          · exact ih _ h.next
          · split
            · exact ih _ h.next
            · exact h

theorem isIn_stringStart {l : Layout} {start : Cursor} {found : LayoutScan}
    (h : start.IsIn source) (hl : l.stringStart start = some found) : found.IsIn source := by
  have hstop := isIn_stringPrefix ⟨'"', false, false, false, false⟩ h
  rcases hbegins : stringPrefix start.rest start.pos ⟨'"', false, false, false, false⟩ with
    ⟨_, q, c⟩
  rw [hbegins] at hstop
  unfold stringStart at hl
  rw [hbegins] at hl
  dsimp only at hl hstop
  split at hl
  · split at hl
    · obtain rfl := Option.some.inj hl
      exact ⟨h, hstop.advance⟩
    · split at hl
      · split at hl
        · obtain rfl := Option.some.inj hl
          exact ⟨h, hstop.advance.advance.advance⟩
        · obtain rfl := Option.some.inj hl
          exact ⟨h, hstop.advance⟩
      · cases hl
  · cases hl

theorem isIn_scanLine {l : Layout} {e : Expected} {start c : Cursor} {found : LayoutScan}
    (hstart : start.IsIn source) (h : c.IsIn source)
    (hl : l.scanLine e start c = some found) : found.IsIn source := by
  unfold scanLine at hl
  obtain ⟨g, hg, hl⟩ := Option.bind_eq_some_iff.1 hl
  have hstop : g.stop.IsIn source := isIn_gap (g := ⟨false, 0, .none, c⟩) h hg
  dsimp only at hl
  have hbegun : (if g.stop.pos.byte = c.pos.byte then start else g.stop).IsIn source :=
    .ite hstart hstop
  generalize (if g.stop.pos.byte = c.pos.byte then start else g.stop) = begun at hbegun hl
  -- a token that takes no room stands before the gap
  have hempty : ∀ t l', some (LayoutScan.mk t (if c.pos.byte < begun.pos.byte then c else begun) c
      l') = some found → found.IsIn source := by
    intro t l' heq
    obtain rfl := Option.some.inj heq
    exact ⟨.ite h hbegun, h⟩
  split at hl
  · exact hempty _ _ hl
  · split at hl
    · exact hempty _ _ hl
    · split at hl
      · exact hempty _ _ hl
      · split at hl
        · exact isIn_stringStart hbegun hl
        · cases hl

/-- A layout token that is read in a text stands in it. -/
theorem isIn_scan {l : Layout} {e : Expected} {c : Cursor} {found : LayoutScan}
    (h : c.IsIn source) (hl : l.scan e c = some found) : found.IsIn source := by
  unfold scan at hl
  split at hl
  · exact isIn_scanLine h h hl
  · rename_i q qs hq
    split at hl
    · exact isIn_scanLine h h hl
    · split at hl
      · dsimp only at hl
        split at hl
        · obtain rfl := Option.some.inj hl
          exact ⟨h, h.advance.advance⟩
        · cases hl
      · split at hl
        · have hinside := isIn_inside l q (c.rest.length + 1) false h
          split at hl
          · rename_i hi
            rw [hi] at hinside
            obtain rfl := Option.some.inj hl
            exact ⟨h, hinside⟩
          · cases hl
          · rename_i hi
            rw [hi] at hinside
            exact isIn_scanLine h hinside hl
        · exact isIn_scanLine h h hl

end Layout

/-! ## The token automaton -/

/-- What came of looking for a token stands in a text. -/
structure Scan.IsIn (source : List Char) (x : Scan) : Prop where
  start : x.start.IsIn source
  found : ∀ y ∈ x.found, y.2.IsIn source
  reached : x.reached.IsIn source

theorem isIn_completed (code : Nat) {best : Option (Nat × Cursor)} {here : Cursor}
    (hbest : ∀ y ∈ best, y.2.IsIn source) (h : here.IsIn source) :
    ∀ y ∈ completed code best here, y.2.IsIn source := by
  unfold completed
  split
  · exact hbest
  · intro y hy
    obtain rfl := Option.some.inj hy
    exact h

theorem isIn_scanFrom {start : Cursor} {best : Option (Nat × Cursor)} {p : Position}
    {rest : List Char} (state : Nat) (hstart : start.IsIn source)
    (hbest : ∀ y ∈ best, y.2.IsIn source) (h : (⟨p, rest⟩ : Cursor).IsIn source) :
    (scanFrom state start best p rest).IsIn source := by
  induction rest generalizing state start best p with
  | nil => exact ⟨hstart, isIn_completed _ hbest h, h⟩
  | cons x xs ih =>
      have hbest' := isIn_completed (tokenRow state % 256) hbest h
      unfold scanFrom
      dsimp only
      split
      · exact ⟨hstart, hbest', h⟩
      · exact ih _ (.ite h.next hstart) hbest' h.next

theorem isIn_scan {c : Cursor} (h : c.IsIn source) (state : Nat) : (scan state c).IsIn source :=
  isIn_scanFrom state h nofun h

/-! ## The next token -/

/-- A token that was read and the cursor after it stand in a text. -/
structure Lookahead.IsIn (source : List Char) (l : Lookahead) : Prop where
  token : l.token.IsIn source
  after : l.after.IsIn source

theorem Cursor.IsIn.skipMark {c : Cursor} (h : c.IsIn source) : c.skipMark.IsIn source :=
  .ite h.advance h

/-- What a look came to stands in a text. -/
def Look.IsIn (source : List Char) : Look → Prop
  | .token l => l.IsIn source
  | .nothing start reached => start.IsIn source ∧ reached.IsIn source

namespace Place

variable {p : Place} {c : Cursor}

theorem isIn_layoutToken? {mode : Nat} {anyToken : Bool} {l : Lookahead} (h : c.IsIn source)
    (hl : p.layoutToken? mode anyToken c = some l) : l.IsIn source := by
  unfold layoutToken? at hl
  dsimp only at hl
  split at hl
  · cases hl
  · obtain ⟨found, hfound, hl⟩ := Option.bind_eq_some_iff.1 hl
    have hscan := Layout.isIn_scan h.skipMark hfound
    split at hl
    · cases hl
    · obtain rfl := Option.some.inj hl
      refine ⟨Fragment.isIn_leaf hscan.start.pos hscan.stop.pos fun hword => ?_, hscan.stop⟩
      have hplain : ∀ t : LayoutToken, isWord t.symbol = false := by
        intro t
        cases t <;> decide
      exact absurd (hword.resolve_right Bool.false_ne_true) (by simp [hplain])

/-- A word is read where the automaton read a word. -/
theorem isWord_of_word {symbol : Nat} {start stop : Cursor}
    (h : isWord (p.word symbol start stop).1 = true ∨ (p.word symbol start stop).2 = true) :
    isWord symbol = true := by
  unfold word at h
  split at h
  · rename_i hidentifier
    rw [hidentifier]
    decide
  · exact h.resolve_right Bool.false_ne_true

theorem isIn_look (h : c.IsIn source) (mode : Nat) (anyToken : Bool) :
    (p.look mode anyToken c).IsIn source := by
  unfold look
  split
  · rename_i l hl
    exact isIn_layoutToken? h hl
  · have hscan := isIn_scan h.skipMark (lexState mode)
    dsimp only
    split
    · rename_i symbol stop hfound
      have hstop : stop.IsIn source := hscan.found _ hfound
      refine ⟨Fragment.isIn_token hscan.start hstop fun hword => ?_, hstop⟩
      exact row_eq_of_scan hfound (isWord_of_word hword)
    · exact ⟨hscan.start, hscan.reached⟩

theorem isIn_skipTo (fuel : Nat) {stop reached : Cursor} (hstop : stop.IsIn source)
    (hreached : reached.IsIn source) : (p.skipTo fuel stop reached).IsIn source := by
  induction fuel generalizing stop reached with
  | zero => exact hstop
  | succ fuel ih =>
      unfold skipTo
      dsimp only
      split
      · exact hstop
      · have hnext : (if reached.pos.byte = stop.pos.byte then reached.advance
            else reached).IsIn source := .ite hreached.advance hreached
        have hlook := isIn_look (p := p) hnext errorState true
        split
        · exact hnext
        · rename_i hx
          rw [hx] at hlook
          exact ih hnext hlook.2

/-- The next token of a reading stands in its text. -/
theorem isIn_lex (h : c.IsIn source) : (p.lex c).IsIn source := by
  have hany := isIn_look (p := p) h errorState true
  have hfirst : (if p.state = errorState then Look.nothing c c
      else p.look p.state false c).IsIn source := by
    split
    · exact ⟨h, h⟩
    · exact isIn_look h p.state false
  unfold lex
  split
  · rename_i hx
    rwa [hx] at hfirst
  · split
    · rename_i hx
      rwa [hx] at hany
    · rename_i hx
      rw [hx] at hany
      have hstop := isIn_skipTo (p := p) (c.rest.length + 2) hany.1 hany.2
      refine ⟨Fragment.isIn_token hany.1 hstop fun hword => ?_, hstop⟩
      exact absurd (hword.resolve_right Bool.false_ne_true) (by decide)

end Place

end CellScript.Python
