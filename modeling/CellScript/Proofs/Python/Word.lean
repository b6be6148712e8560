import CellScript.Proofs.Python.Placed
import CellScript.Python.Parse.Lex

set_option autoImplicit false

/-! # Words

`Cursor.between` is the cursor between two parts of a text. A word is what the grammar reads as an
identifier wherever it stands: `scan_word` says that the token automaton reads it to its end, over
the blanks before it, if what follows does not go on with it. `Place.lex_word` is the same of the
next token, which is a keyword only where the grammar expects that keyword. -/

namespace CellScript.Python

open Grammar

/-! ## Cursors in a text -/

namespace Position

theorem byte_after_lt (p : Position) {t : List Char} (h : t ≠ []) : p.byte < (p.after t).byte := by
  have hnext : ∀ (q : Position) (c : Char), q.byte < (q.next c).byte := by
    intro q c
    have hsize := c.utf8Size_pos
    unfold next
    split
    · exact Nat.lt_succ_self _
    · exact Nat.lt_add_of_pos_right hsize
  induction t generalizing p with
  | nil => exact absurd rfl h
  | cons c t ih =>
      cases t with
      | nil => exact hnext p c
      | cons d t => exact (hnext p c).trans (ih (p.next c) (List.cons_ne_nil d t))

end Position

namespace Cursor

/-- The cursor after some text and before some more. -/
def between (before rest : List Char) : Cursor := ⟨Position.start.after before, rest⟩

variable {before rest : List Char} {c : Char}

theorem advance_between : (between before (c :: rest)).advance = between (before ++ [c]) rest := by
  rw [between, advance, between, Position.after_append]
  rfl

theorem byte_between_lt (before rest : List Char) {more : List Char} (h : more ≠ []) :
    (between before (more ++ rest)).pos.byte < (between (before ++ more) rest).pos.byte := by
  rw [between, between, Position.after_append]
  exact Position.byte_after_lt _ h

/-- A mark is stepped over at the start of the text only. -/
theorem skipMark_between (h : before ≠ [] ∨ rest.head? ≠ some '\ufeff') :
    (between before rest).skipMark = between before rest := by
  rw [skipMark, if_neg]
  rintro ⟨hbyte, hsees⟩
  rcases h with h | h
  · have hlt := Position.byte_after_lt Position.start h
    exact Nat.ne_of_gt hlt hbyte
  · cases rest with
    | nil => cases hsees
    | cons c rest =>
        obtain rfl : c = '\ufeff' := by simpa [between, sees] using hsees
        exact h rfl

end Cursor

open Cursor

/-! ## Characters of words -/

/-- Whether a word may start with a character. -/
def startsWord (c : Char) : Bool := c.isAlpha || c = '_' || inRanges c.toNat identifierStarts

/-- Whether a word may go on with a character. -/
def continuesWord (c : Char) : Bool :=
  startsWord c || c.isDigit || inRanges c.toNat identifierRests

/-- Whether a text is a word: what the grammar reads as an identifier. -/
def spellsWord : List Char → Bool
  | [] => false
  | c :: t => startsWord c && t.all continuesWord

/-- The step of the token automaton from a state over a class of characters: nothing, or one more
than the next state with a mark for blanks. -/
def tokenStep (state cls : Nat) : Nat := (tokenRow state >>> (24 + 12 * cls)) % 4096

/-- The state of the token automaton before a word, where blanks are stepped over. -/
def beforeWord : Nat := 124

/-- The state of the token automaton inside a word. -/
def insideWord : Nat := 31

theorem tokenStep_word_ascii : ∀ n < 128,
    (startsWord (Char.ofNat n) = true →
      tokenStep beforeWord (charClass (Char.ofNat n)) = 2 * (insideWord + 1)) ∧
    (continuesWord (Char.ofNat n) = true →
      tokenStep insideWord (charClass (Char.ofNat n)) = 2 * (insideWord + 1)) := by
  decide

theorem lt_of_isAlpha {c : Char} (h : c.isAlpha = true) : c.toNat < 128 := by
  have hletter : (decide (65 ≤ c.val ∧ c.val ≤ 90) ||
      (decide (97 ≤ c.val) && decide (c.val ≤ 122))) = true := h
  simp only [Bool.or_eq_true, Bool.and_eq_true, decide_eq_true_eq,
    UInt32.le_iff_toNat_le] at hletter
  have hle : c.val.toNat ≤ 122 := by
    rcases hletter with ⟨-, h⟩ | ⟨-, h⟩
    · exact Nat.le_trans h (by decide)
    · exact h
  exact Nat.lt_of_le_of_lt hle (by decide)

theorem lt_of_isDigit {c : Char} (h : c.isDigit = true) : c.toNat < 128 := by
  simp only [Char.isDigit, Bool.and_eq_true, decide_eq_true_eq, ge_iff_le,
    UInt32.le_iff_toNat_le] at h
  exact Nat.lt_of_le_of_lt h.2 (by decide)

/-- The class of a character beyond ASCII that starts words, or goes on with them. -/
theorem charClass_of_le {c : Char} (hc : 128 ≤ c.toNat) :
    (startsWord c = true → charClass c = 32) ∧
      (continuesWord c = true → charClass c = 32 ∨ charClass c = 74) := by
  have halpha : c.isAlpha = false :=
    Bool.eq_false_iff.2 fun h => absurd (lt_of_isAlpha h) (Nat.not_lt.2 hc)
  have hdigit : c.isDigit = false :=
    Bool.eq_false_iff.2 fun h => absurd (lt_of_isDigit h) (Nat.not_lt.2 hc)
  have hne : c ≠ '_' := by
    rintro rfl
    exact absurd hc (by decide)
  have hmark : inRanges c.toNat identifierStarts = true ∨ inRanges c.toNat identifierRests = true →
      ¬ (c.toNat = 0x200b ∨ c.toNat = 0x2060 ∨ c.toNat = 0xfeff) := by
    rintro h (heq | heq | heq) <;> rw [heq] at h <;> exact absurd h (by decide +kernel)
  have hstart : startsWord c = inRanges c.toNat identifierStarts := by
    simp [startsWord, halpha, hne]
  have hcontinue : continuesWord c = true ↔ inRanges c.toNat identifierStarts = true ∨
      inRanges c.toNat identifierRests = true := by
    simp [continuesWord, hstart, hdigit]
  refine ⟨fun h => ?_, fun h => ?_⟩
  · rw [hstart] at h
    rw [charClass, if_neg (Nat.not_lt.2 hc), if_neg (hmark (.inl h)), if_pos h]
  · rw [hcontinue] at h
    rw [charClass, if_neg (Nat.not_lt.2 hc), if_neg (hmark h)]
    by_cases hs : inRanges c.toNat identifierStarts = true
    · exact .inl (if_pos hs)
    · rw [if_neg hs, if_pos (h.resolve_left hs)]
      exact .inr rfl

theorem tokenStep_start {c : Char} (h : startsWord c = true) :
    tokenStep beforeWord (charClass c) = 2 * (insideWord + 1) := by
  rcases Nat.lt_or_ge c.toNat 128 with hc | hc
  · have hascii := (tokenStep_word_ascii c.toNat hc).1
    rw [Char.ofNat_toNat] at hascii
    exact hascii h
  · rw [(charClass_of_le hc).1 h]
    decide

theorem tokenStep_continue {c : Char} (h : continuesWord c = true) :
    tokenStep insideWord (charClass c) = 2 * (insideWord + 1) := by
  rcases Nat.lt_or_ge c.toNat 128 with hc | hc
  · have hascii := (tokenStep_word_ascii c.toNat hc).2
    rw [Char.ofNat_toNat] at hascii
    exact hascii h
  · rcases (charClass_of_le hc).2 h with hclass | hclass <;> rw [hclass] <;> decide

/-! ## Running the token automaton -/

section

variable {state accepted : Nat} {start : Cursor} {best : Option (Nat × Cursor)}
  {before rest : List Char} {c : Char}

/-- Whether the token automaton stops in a state before some text. -/
def StopsBefore (state : Nat) (rest : List Char) : Prop :=
  ∀ c ∈ rest.head?, tokenStep state (charClass c) = 0

/-- The automaton stops in a state that accepts a token, at the end of the text or not. -/
theorem scanFrom_stop (hrow : tokenRow state % 256 = accepted + 1)
    (hend : (tokenRow state >>> 8) % 256 = accepted + 1) (h : StopsBefore state rest) :
    scanFrom state start best (Position.start.after before) rest =
      ⟨start, some (accepted, between before rest), between before rest⟩ := by
  cases rest with
  | nil =>
      rw [scanFrom, hend]
      rfl
  | cons c rest =>
      have hstep : (tokenRow state >>> (24 + 12 * charClass c)) % 4096 = 0 := h c rfl
      rw [scanFrom]
      dsimp only
      rw [hstep, if_pos rfl, hrow]
      rfl

/-- The automaton goes on over a character that is no blank. -/
theorem scanFrom_step {next : Nat} (h : tokenStep state (charClass c) = 2 * (next + 1)) :
    scanFrom state start best (Position.start.after before) (c :: rest) =
      scanFrom next start (completed (tokenRow state % 256) best (between before (c :: rest)))
        (Position.start.after (before ++ [c])) rest := by
  rw [scanFrom]
  dsimp only
  rw [tokenStep] at h
  rw [h, if_neg (by omega), if_neg (by omega), show 2 * (next + 1) / 2 - 1 = next by omega,
    Position.after_append]
  rfl

/-- The automaton steps over a blank, and the token starts after it. -/
theorem scanFrom_blank {next : Nat} (h : tokenStep state (charClass c) = 2 * (next + 1) + 1)
    (hrow : tokenRow state % 256 = 0) :
    scanFrom state start best (Position.start.after before) (c :: rest) =
      scanFrom next (between (before ++ [c]) rest) best (Position.start.after (before ++ [c]))
        rest := by
  rw [scanFrom]
  dsimp only
  rw [tokenStep] at h
  rw [h, hrow, if_neg (by omega), if_pos (by omega),
    show (2 * (next + 1) + 1) / 2 - 1 = next by omega, between, Position.after_append]
  rfl

end

/-- A blank or a line feed. -/
def isGap (c : Char) : Bool := c == ' ' || c == '\n'

variable {before rest gap w : List Char}

/-- Inside a word the automaton reads to the end of the word. -/
theorem scanFrom_word {start : Cursor} {best : Option (Nat × Cursor)}
    (hw : ∀ c ∈ w, continuesWord c = true) (hrest : StopsBefore insideWord rest) :
    scanFrom insideWord start best (Position.start.after before) (w ++ rest) =
      ⟨start, some (identifier, between (before ++ w) rest), between (before ++ w) rest⟩ := by
  induction w generalizing before best with
  | nil =>
      rw [List.append_nil]
      exact scanFrom_stop (by decide) (by decide) hrest
  | cons c w ih =>
      obtain ⟨hc, hw⟩ := List.forall_mem_cons.1 hw
      rw [List.cons_append, scanFrom_step (tokenStep_continue hc), ih hw, List.append_assoc]
      rfl

/-- The automaton steps over the gap before a token. -/
theorem scan_gap (before rest : List Char) (hgap : gap.all isGap = true) :
    scan beforeWord (between before (gap ++ rest)) =
      scan beforeWord (between (before ++ gap) rest) := by
  induction gap generalizing before with
  | nil => rw [List.append_nil, List.nil_append]
  | cons c gap ih =>
      rw [List.all_cons, Bool.and_eq_true] at hgap
      have hstep : tokenStep beforeWord (charClass c) = 2 * (beforeWord + 1) + 1 := by
        have hc := hgap.1
        simp only [isGap, Bool.or_eq_true, beq_iff_eq] at hc
        rcases hc with rfl | rfl <;> decide
      have happend : before ++ c :: gap = (before ++ [c]) ++ gap := by simp
      rw [happend, ← ih _ hgap.2, scan, scan, List.cons_append]
      exact scanFrom_blank hstep (by decide)

/-- A word is read as an identifier, over the gap before it. -/
theorem scan_word (before : List Char) (hgap : gap.all isGap = true) (hw : spellsWord w = true)
    (hrest : StopsBefore insideWord rest) :
    scan beforeWord (between before (gap ++ (w ++ rest))) =
      ⟨between (before ++ gap) (w ++ rest),
        some (identifier, between (before ++ gap ++ w) rest),
        between (before ++ gap ++ w) rest⟩ := by
  cases w with
  | nil => cases hw
  | cons c w =>
      rw [spellsWord, Bool.and_eq_true, List.all_eq_true] at hw
      rw [scan_gap _ _ hgap, scan]
      show scanFrom beforeWord _ none (Position.start.after (before ++ gap)) (c :: (w ++ rest)) = _
      rw [scanFrom_step (tokenStep_start hw.1), scanFrom_word hw.2 hrest]
      simp only [List.append_assoc, List.nil_append, List.cons_append]

/-- The end of the text is read over the gap before it. -/
theorem scan_end (before : List Char) (hgap : gap.all isGap = true) :
    scan beforeWord (between before gap) =
      ⟨between (before ++ gap) [], some (endOfText, between (before ++ gap) []),
        between (before ++ gap) []⟩ := by
  have h := scan_gap before [] hgap
  have hend : (tokenRow beforeWord >>> 8) % 256 = endOfText + 1 := by decide
  rw [List.append_nil] at h
  rw [h, scan, between, scanFrom, hend]
  rfl

/-- A token of one character that is not the start of a longer one. -/
theorem scan_mark (before : List Char) {state next accepted : Nat} {c : Char}
    (hstep : tokenStep state (charClass c) = 2 * (next + 1))
    (hrow : tokenRow next % 256 = accepted + 1)
    (hend : (tokenRow next >>> 8) % 256 = accepted + 1) (hrest : StopsBefore next rest) :
    scan state (between before (c :: rest)) =
      ⟨between before (c :: rest), some (accepted, between (before ++ [c]) rest),
        between (before ++ [c]) rest⟩ := by
  rw [scan]
  show scanFrom state _ none (Position.start.after before) (c :: rest) = _
  rw [scanFrom_step hstep, scanFrom_stop hrow hend hrest]

/-! ## Words as tokens -/

/-- The symbol of a word at a place, and whether it is that of a keyword. -/
def Place.symbolOf (p : Place) (w : List Char) : Nat × Bool :=
  match keyword? w with
  | some k => if expects p.state k then (k, true) else (identifier, false)
  | none => (identifier, false)

theorem Place.word_between (p : Place) :
    p.word identifier (between before (w ++ rest)) (between (before ++ w) rest) = p.symbolOf w := by
  have hlen : (between (before ++ w) rest).pos.offset -
      (between before (w ++ rest)).pos.offset = w.length := by
    simp only [between, Position.offset_after, List.length_append]
    omega
  rw [word, if_pos rfl, hlen, symbolOf]
  show (match keyword? ((w ++ rest).take w.length) with | some k => _ | none => _) = _
  rw [List.take_left]

variable {p : Place}

/-- Where there is no layout token, the next token is the one that the automaton reads. -/
theorem Place.lex_scan {c start stop reached : Cursor} {symbol : Nat}
    (hstate : p.state ≠ errorState) (hlayout : p.layoutToken? p.state false c = none)
    (hscan : scan (lexState p.state) c.skipMark = ⟨start, some (symbol, stop), reached⟩) :
    p.lex c = ⟨.token (p.word symbol start stop).1 start.pos stop.pos (p.word symbol start stop).2,
      stop⟩ := by
  rw [lex, if_neg hstate, look, hlayout]
  simp only [hscan]

/-- A layout token goes before all others. -/
theorem Place.lex_layout {c : Cursor} {l : Lookahead} (hstate : p.state ≠ errorState)
    (hlayout : p.layoutToken? p.state false c = some l) : p.lex c = l := by
  rw [lex, if_neg hstate, look, hlayout]

theorem Place.layoutToken?_eq_none {c : Cursor}
    (h : (p.layout.getD .none).scan ⟨layoutSet p.state⟩ c.skipMark = none) :
    p.layoutToken? p.state false c = none := by
  rw [layoutToken?]
  simp [h]

/-- A layout token that takes room or leads to another state is the next token. -/
theorem Place.lex_scanned {c : Cursor} {found : LayoutScan} (hstate : p.state ≠ errorState)
    (hadvanced : p.advanced = true) (hset : layoutSet p.state ≠ 0)
    (hscan : (p.layout.getD .none).scan ⟨layoutSet p.state⟩ c.skipMark = some found)
    (hmoves : c.pos.byte < found.stop.pos.byte ∨ next p.state found.token.symbol ≠ p.state) :
    p.lex c = ⟨.layoutToken found.token.symbol found.start.pos found.stop.pos found.layout
      (p.layout != some found.layout), found.stop⟩ := by
  refine lex_layout hstate ?_
  rw [layoutToken?]
  rcases hmoves with hmoves | hmoves
  · simp [hset, hscan, Nat.not_le.2 hmoves]
  · simp [hset, hscan, hadvanced, hmoves]

/-- The next token is a word, if there is no layout token before it. -/
theorem Place.lex_word (hstate : p.state ≠ errorState) (hlex : lexState p.state = beforeWord)
    (hmark : before ≠ [] ∨ (gap ++ (w ++ rest)).head? ≠ some '\ufeff')
    (hlayout : p.layoutToken? p.state false (between before (gap ++ (w ++ rest))) = none)
    (hgap : gap.all isGap = true) (hw : spellsWord w = true) (hrest : StopsBefore insideWord rest) :
    p.lex (between before (gap ++ (w ++ rest))) =
      ⟨.token (p.symbolOf w).1 (between (before ++ gap) (w ++ rest)).pos
        (between (before ++ gap ++ w) rest).pos (p.symbolOf w).2,
        between (before ++ gap ++ w) rest⟩ := by
  have hscan := scan_word before hgap hw hrest
  have hskip := skipMark_between hmark
  rw [lex_scan hstate hlayout (hlex.symm ▸ hskip.symm ▸ hscan), word_between]

/-- The next token is the end of the text, if there is no layout token before it. -/
theorem Place.lex_end (hstate : p.state ≠ errorState) (hlex : lexState p.state = beforeWord)
    (hmark : before ≠ [] ∨ gap.head? ≠ some '\ufeff')
    (hlayout : p.layoutToken? p.state false (between before gap) = none)
    (hgap : gap.all isGap = true) :
    p.lex (between before gap) =
      ⟨.token endOfText (between (before ++ gap) []).pos (between (before ++ gap) []).pos false,
        between (before ++ gap) []⟩ := by
  have hscan := scan_end before hgap
  have hskip := skipMark_between hmark
  rw [lex_scan hstate hlayout (hlex.symm ▸ hskip.symm ▸ hscan)]
  rfl

/-- The next token is a mark of one character, if there is no layout token before it. -/
theorem Place.lex_mark {next accepted : Nat} {c : Char} (hstate : p.state ≠ errorState)
    (hbefore : before ≠ [])
    (hlayout : p.layoutToken? p.state false (between before (c :: rest)) = none)
    (hstep : tokenStep (lexState p.state) (charClass c) = 2 * (next + 1))
    (hrow : tokenRow next % 256 = accepted + 1)
    (hend : (tokenRow next >>> 8) % 256 = accepted + 1) (hrest : StopsBefore next rest)
    (hword : accepted ≠ identifier) :
    p.lex (between before (c :: rest)) =
      ⟨.token accepted (between before (c :: rest)).pos (between (before ++ [c]) rest).pos false,
        between (before ++ [c]) rest⟩ := by
  have hscan := scan_mark before hstep hrow hend hrest
  have hskip : (between before (c :: rest)).skipMark = _ := skipMark_between (.inl hbefore)
  conv at hscan => lhs; rw [← hskip]
  rw [lex_scan hstate hlayout hscan, word, if_neg hword]

end CellScript.Python
