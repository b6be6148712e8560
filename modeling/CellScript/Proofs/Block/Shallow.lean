import CellScript.Proofs.Block.Content
import CellScript.Proofs.Text.Blank

set_option autoImplicit false

/-! # Shallow rows

A row is shallow for a block if it has content but not the indentation of the block. A row that
cannot be dedented is exactly a shallow one, `dedent_eq_error_iff`, so reading code or the rest of a
literal fails at the first shallow row, `codeLines_eq_error_iff` and `dedentRest_eq_error_iff`.
`Block.cell_eq_error_iff` lists all reasons why no content can be taken from a block. -/

namespace CellScript

open Python

/-! ## Bytes -/

/-- The UTF-8 bytes of a text. -/
def Text.bytes (t : Text) : List UInt8 := t.flatMap String.utf8EncodeChar

/-- Whether a byte is a space or a tab. -/
def isIndentByte (b : UInt8) : Bool := b == 32 || b == 9

theorem Text.bytes_cons (c : Char) (t : Text) :
    Text.bytes (c :: t) = String.utf8EncodeChar c ++ Text.bytes t := rfl

/-- An indenting character is one indenting byte. -/
theorem utf8EncodeChar_of_isIndent {c : Char} (h : isIndent c = true) :
    ∃ b, String.utf8EncodeChar c = [b] ∧ isIndentByte b = true := by
  rw [isIndent, Bool.or_eq_true, beq_iff_eq, beq_iff_eq] at h
  rcases h with rfl | rfl
  · exact ⟨32, by decide, by decide⟩
  · exact ⟨9, by decide, by decide⟩

/-- Any other character begins with another byte. -/
theorem utf8EncodeChar_of_not_isIndent {c : Char} (h : isIndent c = false) :
    ∃ b bs, String.utf8EncodeChar c = b :: bs ∧ isIndentByte b = false := by
  have hspace : c.toNat ≠ 32 ∧ c.toNat ≠ 9 := by
    rw [isIndent, Bool.or_eq_false_iff, beq_eq_false_iff_ne, beq_eq_false_iff_ne] at h
    exact ⟨fun hc => h.1 (Char.toNat_inj.1 hc), fun hc => h.2 (Char.toNat_inj.1 hc)⟩
  have hbyte : ∀ n : Nat, n < 256 → n ≠ 32 → n ≠ 9 → isIndentByte (UInt8.ofNat n) = false := by
    intro n hlt h32 h9
    have hne : ∀ m : Nat, m < 256 → n ≠ m → UInt8.ofNat n ≠ UInt8.ofNat m := by
      intro m hm hnm hc
      have hnat := congrArg UInt8.toNat hc
      rw [UInt8.toNat_ofNat', UInt8.toNat_ofNat', Nat.mod_eq_of_lt hlt, Nat.mod_eq_of_lt hm] at hnat
      exact hnm hnat
    rw [isIndentByte, Bool.or_eq_false_iff, beq_eq_false_iff_ne, beq_eq_false_iff_ne]
    exact ⟨hne 32 (by decide) h32, hne 9 (by decide) h9⟩
  have hval : c.val.toNat = c.toNat := rfl
  rw [String.utf8EncodeChar, hval]
  -- one byte is the character itself; the first of several is at least 0xc0
  split
  · exact ⟨_, _, rfl, hbyte _ (by omega) hspace.1 hspace.2⟩
  · split
    · exact ⟨_, _, rfl, hbyte _ (by omega) (by omega) (by omega)⟩
    · split
      · exact ⟨_, _, rfl, hbyte _ (by omega) (by omega) (by omega)⟩
      · exact ⟨_, _, rfl, hbyte _ (by omega) (by omega) (by omega)⟩

/-- Indentation counts the same in characters and in bytes. -/
theorem isIndented_iff {indent : Nat} {t : Text} :
    ((t.take indent).length = indent ∧ (t.take indent).all isIndent = true) ↔
      indent ≤ (Text.bytes t).length ∧ ((Text.bytes t).take indent).all isIndentByte = true := by
  induction indent generalizing t with
  | zero => simp
  | succ n ih =>
      cases t with
      | nil => simp [Text.bytes]
      | cons c t =>
          rw [Text.bytes_cons]
          cases hc : isIndent c with
          | true =>
              obtain ⟨b, hb, hindent⟩ := utf8EncodeChar_of_isIndent hc
              simpa [hb, hc, hindent] using @ih t
          | false =>
              -- both stop here, whatever bytes follow the first
              obtain ⟨b, bs, hb, hindent⟩ := utf8EncodeChar_of_not_isIndent hc
              simp [hb, hc, hindent]

/-! ## Shallow rows -/

/-- A row with content that is shorter than its indentation should be, or has something other than
spaces and tabs there. -/
def IsShallow (indent : Nat) (t : Text) : Prop :=
  Text.isBlank t = false ∧
    ((Text.bytes t).length < indent ∨ ∃ b ∈ (Text.bytes t).take indent, isIndentByte b = false)

instance (indent : Nat) (t : Text) : Decidable (IsShallow indent t) :=
  inferInstanceAs (Decidable (_ ∧ (_ ∨ _)))

theorem isShallow_iff {indent : Nat} {t : Text} :
    IsShallow indent t ↔ Text.isBlank t = false ∧
      ¬ ((t.take indent).length = indent ∧ (t.take indent).all isIndent = true) := by
  rw [IsShallow, isIndented_iff, not_and_or, Nat.not_le, Bool.not_eq_true, List.all_eq_false]
  simp

theorem not_isShallow_nil (indent : Nat) : ¬ IsShallow indent [] := fun h => absurd h.1 (by decide)

/-- A row cannot be dedented exactly if it is shallow. -/
theorem dedent_eq_error_iff {indent line : Nat} {t : Text} {e : CellError} :
    dedent indent line t = .error e ↔ IsShallow indent t ∧ e = .indentation line := by
  rw [dedent, isShallow_iff]
  dsimp only
  split
  · rename_i hb
    simp [hb]
  · rename_i hb
    split
    · rename_i hcut
      simp [hcut]
    · rename_i hcut
      constructor
      · intro h
        exact ⟨⟨by simpa using hb, hcut⟩, (Except.error.inj h).symm⟩
      · rintro ⟨-, rfl⟩
        rfl

/-- What a row is without the indentation of its block. -/
def dedented (indent : Nat) (t : Text) : Text := if Text.isBlank t then [] else t.drop indent

theorem Dedents.eq_dedented {indent : Nat} {t u : Text} (h : Dedents indent t u) :
    u = dedented indent t := by
  cases ht : Text.isBlank t with
  | true =>
      rw [Dedents, if_pos ht] at h
      rw [h, dedented, if_pos ht]
  | false =>
      rw [h.eq_drop ht, dedented, if_neg (by simp [ht])]

/-- A row can be dedented exactly if it is not shallow, in one way. -/
theorem dedents_iff {indent : Nat} {t u : Text} :
    Dedents indent t u ↔ ¬ IsShallow indent t ∧ u = dedented indent t := by
  constructor
  · intro h
    refine ⟨fun hs => ?_, h.eq_dedented⟩
    have hok : dedent indent 0 t = .ok u := dedent_eq_ok_iff.2 h
    rw [dedent_eq_error_iff.2 ⟨hs, rfl⟩] at hok
    cases hok
  · rintro ⟨hs, rfl⟩
    cases hd : dedent indent 0 t with
    | error e => exact absurd (dedent_eq_error_iff.1 hd).1 hs
    | ok u =>
        have hu : Dedents indent t u := dedent_eq_ok_iff.1 hd
        rwa [← hu.eq_dedented]

theorem forall₂_dedents_iff {indent : Nat} {rows us : List Text} :
    List.Forall₂ (Dedents indent) rows us ↔
      (∀ r ∈ rows, ¬ IsShallow indent r) ∧ us = rows.map (dedented indent) := by
  induction rows generalizing us with
  | nil => simp
  | cons r rows ih =>
      rw [List.forall₂_cons_left_iff, List.forall_mem_cons, List.map_cons]
      constructor
      · rintro ⟨u, vs, hu, hvs, rfl⟩
        obtain ⟨hr, rfl⟩ := dedents_iff.1 hu
        obtain ⟨hrows, rfl⟩ := ih.1 hvs
        exact ⟨⟨hr, hrows⟩, rfl⟩
      · rintro ⟨⟨hr, hrows⟩, rfl⟩
        exact ⟨_, _, dedents_iff.2 ⟨hr, rfl⟩, ih.2 ⟨hrows, rfl⟩, rfl⟩

/-- Dedenting a line and going on with others fails at the line if it is shallow, and as the others
do if not. -/
theorem dedent_bind_eq_error_iff {α β : Type} {indent line : Nat} {t : Text} {e : CellError}
    {x : Except CellError α} {f : Text → α → β} :
    (dedent indent line t >>= fun u => x >>= fun a => .ok (f u a)) = .error e ↔
      IsShallow indent t ∧ e = .indentation line ∨ ¬ IsShallow indent t ∧ x = .error e := by
  cases hd : dedent indent line t with
  | error e' =>
      obtain ⟨hs, rfl⟩ := dedent_eq_error_iff.1 hd
      simp [bind, Except.bind, hs, eq_comm]
  | ok u =>
      have hs : ¬ IsShallow indent t := by
        intro hs
        rw [dedent_eq_error_iff.2 ⟨hs, rfl⟩] at hd
        cases hd
      cases x <;> simp [bind, Except.bind, hs]

/-- A row is the first shallow one of those from a row on. -/
structure IsFirstShallow (indent : Nat) (rows : List Text) (first row : Nat) : Prop where
  first_le : first ≤ row
  isShallow : IsShallow indent (rows.getD row [])
  least : ∀ r, first ≤ r → r < row → ¬ IsShallow indent (rows.getD r [])

namespace IsFirstShallow

variable {indent first row : Nat} {rows : List Text}

theorem eq_first (h : IsFirstShallow indent rows first row)
    (hs : IsShallow indent (rows.getD first [])) : row = first := by
  rcases Nat.lt_or_eq_of_le h.first_le with hlt | heq
  · exact absurd hs (h.least first (Nat.le_refl _) hlt)
  · exact heq.symm

theorem refl (hs : IsShallow indent (rows.getD first [])) : IsFirstShallow indent rows first first :=
  ⟨Nat.le_refl _, hs, fun _ _ _ => by omega⟩

theorem succ_iff (hs : ¬ IsShallow indent (rows.getD first [])) :
    IsFirstShallow indent rows (first + 1) row ↔ IsFirstShallow indent rows first row := by
  constructor
  · intro h
    refine ⟨Nat.le_of_succ_le h.first_le, h.isShallow, fun r hr hlt => ?_⟩
    rcases Nat.lt_or_eq_of_le hr with hr | rfl
    · exact h.least r hr hlt
    · exact hs
  · intro h
    have hne : row ≠ first := by
      rintro rfl
      exact hs h.isShallow
    have hle := h.first_le
    exact ⟨by omega, h.isShallow, fun r hr => h.least r (by omega)⟩

/-- A shallow row is one of the rows. -/
theorem lt_length (h : IsFirstShallow indent rows first row) : row < rows.length := by
  by_contra hge
  have hrow : rows.getD row [] = [] := by
    rw [List.getD_eq_getElem?_getD, List.getElem?_eq_none (by omega)]
    rfl
  exact not_isShallow_nil indent (hrow ▸ h.isShallow)

end IsFirstShallow

/-! ## Where reading fails -/

theorem Span.rowsOf_eq (s : Span) (lines : List Text) :
    s.rowsOf lines =
      (List.range' s.start (s.stop + 1 - s.start)).map fun row => (row, lines.getD row []) := by
  rw [Span.rowsOf, List.range'_eq_map_range, List.map_map]
  rfl

/-- Reading some rows as code fails exactly if one of them is shallow, at the first that is. -/
theorem codeLines_eq_error_iff {indent first n : Nat} {rows : List Text} {e : CellError} :
    codeLines indent ((List.range' first n).map fun row => (row, rows.getD row [])) = .error e ↔
      ∃ row, IsFirstShallow indent rows first row ∧ row < first + n ∧
        e = .indentation (row + 1) := by
  induction n generalizing first with
  | zero =>
      constructor
      · intro h
        cases h
      · rintro ⟨row, hfirst, hlt, -⟩
        have := hfirst.first_le
        omega
  | succ n ih =>
      rw [List.range'_succ, List.map_cons, codeLines_cons, dedent_bind_eq_error_iff, ih]
      by_cases hs : IsShallow indent (rows.getD first [])
      · simp only [hs, true_and, not_true_eq_false, false_and, or_false]
        constructor
        · rintro rfl
          exact ⟨first, .refl hs, by omega, rfl⟩
        · rintro ⟨row, hfirst, -, rfl⟩
          rw [hfirst.eq_first hs]
      · simp only [hs, false_and, not_false_eq_true, true_and, false_or,
          IsFirstShallow.succ_iff hs, Nat.add_right_comm first 1 n, ← Nat.add_assoc]

/-- The same of the lines of a literal, which are numbered from its first. -/
theorem dedentRest_eq_error_iff {indent line first : Nat} {rows : List Text} {e : CellError} :
    dedentRest indent (line + first) (rows.drop first) = .error e ↔
      ∃ row, IsFirstShallow indent rows first row ∧ e = .indentation (line + row) := by
  induction hrest : rows.drop first generalizing first with
  | nil =>
      constructor
      · intro h
        cases h
      · rintro ⟨row, hfirst, -⟩
        have hlength := List.drop_eq_nil_iff.1 hrest
        have hlt := hfirst.lt_length
        have hle := hfirst.first_le
        omega
  | cons t ts ih =>
      have ht : rows.getD first [] = t := by
        rw [List.getD_eq_getElem?_getD, ← List.head?_drop, hrest]
        rfl
      have hts : rows.drop (first + 1) = ts := by
        rw [← List.tail_drop, hrest, List.tail_cons]
      rw [dedentRest_cons, dedent_bind_eq_error_iff, Nat.add_assoc, ih hts, ← ht]
      by_cases hs : IsShallow indent (rows.getD first [])
      · simp only [hs, true_and, not_true_eq_false, false_and, or_false]
        constructor
        · rintro rfl
          exact ⟨first, .refl hs, rfl⟩
        · rintro ⟨row, hfirst, rfl⟩
          rw [hfirst.eq_first hs]
      · simp only [hs, false_and, not_false_eq_true, true_and, false_or,
          IsFirstShallow.succ_iff hs]

/-- Reading a literal fails at the first shallow row after its first, or because the quotes do not
come off. -/
theorem proseLines_eq_error_iff {header indent line : Nat} {first : Text} {rest : List Text}
    {e : CellError} :
    proseLines header indent line (first :: rest) = .error e ↔
      (∃ row, IsFirstShallow indent (first :: rest) 1 row ∧ e = .indentation (line + row)) ∨
      ∃ us, List.Forall₂ (Dedents indent) rest us ∧ stripQuotes? (first :: us) = none ∧
        e = .malformed .notOneLiteral header := by
  rw [proseLines, bind_eq_error, map_eq_error, ← dedentRest_eq_error_iff, List.drop_one,
    List.tail_cons]
  refine or_congr_right ?_
  constructor
  · rintro ⟨rows, hrows, h⟩
    obtain ⟨us, hus, rfl⟩ := map_eq_ok.1 hrows
    dsimp only at h
    split at h
    · rename_i hstrip
      exact ⟨us, dedentRest_eq_ok_iff.1 hus, hstrip, (Except.error.inj h).symm⟩
    · cases h
  · rintro ⟨us, hus, hstrip, rfl⟩
    refine ⟨first :: us, map_eq_ok.2 ⟨us, dedentRest_eq_ok_iff.2 hus, rfl⟩, ?_⟩
    dsimp only
    rw [hstrip]

/-- Why no content can be taken from a block. -/
inductive Block.Fails (source : Text) (lines : List Text) (b : Block) : CellError → Prop where
  /-- There are no rows. -/
  | noRows (hspan : b.span.stop < b.span.start) :
      Fails source lines b (.malformed .noContent b.span.line)
  /-- A row of code is shallow. -/
  | codeRow {row : Nat} (hspan : b.span.start ≤ b.span.stop) (hk : b.kind = .executable)
      (hrow : IsFirstShallow b.span.indent lines b.span.start row) (hle : row ≤ b.span.stop) :
      Fails source lines b (.indentation (row + 1))
  /-- Prose is not one string literal. -/
  | notLiteral (hspan : b.span.start ≤ b.span.stop) (hk : b.kind = .prose)
      (hnone : proseLiteral? b.body = none) :
      Fails source lines b (.malformed .notOneLiteral b.span.line)
  /-- A row of a literal is shallow. -/
  | literalRow {literal : Tree} {row : Nat} (hspan : b.span.start ≤ b.span.stop)
      (hk : b.kind = .prose) (hsome : proseLiteral? b.body = some literal)
      (hrow : IsFirstShallow b.span.indent (Text.physicalLines (literal.text source)) 1 row) :
      Fails source lines b (.indentation (literal.start.row + 1 + row))
  /-- The quotes of a literal do not come off. -/
  | quotes {literal : Tree} {first : Text} {rest us : List Text}
      (hspan : b.span.start ≤ b.span.stop) (hk : b.kind = .prose)
      (hsome : proseLiteral? b.body = some literal)
      (hrows : Text.physicalLines (literal.text source) = first :: rest)
      (hrest : List.Forall₂ (Dedents b.span.indent) rest us)
      (hstrip : stripQuotes? (first :: us) = none) :
      Fails source lines b (.malformed .notOneLiteral b.span.line)

section

variable {source : Text} {lines : List Text} {b : Block} {e : CellError}

theorem proseContent_eq (source : Text) {literal : Tree}
    (h : proseLiteral? b.body = some literal) :
    ∃ first rest, Text.physicalLines (literal.text source) = first :: rest ∧
      proseContent source b =
        proseLines b.span.line b.span.indent (literal.start.row + 1) (first :: rest) := by
  obtain ⟨first, rest, hrows⟩ := List.exists_cons_of_ne_nil
    (Text.physicalLines_ne_nil (literal.text source))
  refine ⟨first, rest, hrows, ?_⟩
  rw [proseContent, h, ← hrows]

theorem Block.fails_of_cell (h : b.cell source lines = .error e) : b.Fails source lines e := by
  rw [Block.cell] at h
  split at h
  · rename_i hspan
    cases h
    exact .noRows hspan
  · rename_i hspan
    have hle : b.span.start ≤ b.span.stop := Nat.le_of_not_lt hspan
    cases hk : b.kind with
    | executable =>
        rw [hk] at h
        have hcode := map_eq_error.1 h
        rw [Span.rowsOf_eq, codeLines_eq_error_iff] at hcode
        obtain ⟨row, hrow, hlt, rfl⟩ := hcode
        exact .codeRow hle hk hrow (by omega)
    | prose =>
        rw [hk] at h
        have hprose := map_eq_error.1 h
        cases hl : proseLiteral? b.body with
        | none =>
            rw [proseContent, hl] at hprose
            cases hprose
            exact .notLiteral hle hk hl
        | some literal =>
            obtain ⟨first, rest, hrows, hcontent⟩ := proseContent_eq source hl
            rw [hcontent, proseLines_eq_error_iff] at hprose
            rcases hprose with ⟨row, hrow, rfl⟩ | ⟨us, hus, hstrip, rfl⟩
            · exact .literalRow hle hk hl (by rwa [hrows])
            · exact .quotes hle hk hl hrows hus hstrip
    | sandbox =>
        rw [hk] at h
        cases h

theorem Block.Fails.cell_eq (h : b.Fails source lines e) : b.cell source lines = .error e := by
  have hcell : b.span.start ≤ b.span.stop → b.kind = .prose →
      proseContent source b = .error e → b.cell source lines = .error e := by
    intro hle hk hcontent
    rw [Block.cell, if_neg (Nat.not_lt.2 hle), hk]
    exact map_eq_error.2 hcontent
  cases h with
  | noRows hspan => rw [Block.cell, if_pos hspan]
  | codeRow hle hk hrow hrowLe =>
      rw [Block.cell, if_neg (Nat.not_lt.2 hle), hk]
      refine map_eq_error.2 ?_
      rw [Span.rowsOf_eq, codeLines_eq_error_iff]
      exact ⟨_, hrow, by omega, rfl⟩
  | notLiteral hle hk hnone =>
      refine hcell hle hk ?_
      rw [proseContent, hnone]
  | literalRow hle hk hsome hrow =>
      refine hcell hle hk ?_
      obtain ⟨first, rest, hrows, hcontent⟩ := proseContent_eq source hsome
      rw [hcontent, proseLines_eq_error_iff]
      exact .inl ⟨_, hrows ▸ hrow, rfl⟩
  | quotes hle hk hsome hrows hrest hstrip =>
      refine hcell hle hk ?_
      obtain ⟨first, rest, hrows', hcontent⟩ := proseContent_eq source hsome
      obtain ⟨rfl, rfl⟩ := List.cons.inj (hrows.symm.trans hrows')
      rw [hcontent, proseLines_eq_error_iff]
      exact .inr ⟨_, hrest, hstrip, rfl⟩

/-- Taking the content of a block fails exactly for these reasons. -/
theorem Block.cell_eq_error_iff : b.cell source lines = .error e ↔ b.Fails source lines e :=
  ⟨Block.fails_of_cell, Block.Fails.cell_eq⟩

end

end CellScript
