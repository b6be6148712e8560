import CellScript.Proofs.Python.Margin

set_option autoImplicit false

/-! # Inside of literals

A literal in triple quotes is read in pieces: stretches of content, which end at a quote or a
backslash, and escapes. `Inner` says what may stand in such a literal without ending it, and of
what may stand there each piece leaves what may stand there: `inside_piece` for content and
`scan_escape` for escapes. -/

namespace CellScript.Python

open Grammar Cursor

/-- What may stand in a literal between triple quotes of a mark, when `more` follows the literal.
Three quotes would end the literal, unless there is a backslash before one of them. A `\N{` takes in
everything up to the next brace that closes it, so that brace must not come after the literal. -/
inductive Inner (m : Char) (more : List Char) : List Char → Prop where
  | nil : Inner m more []
  | plain {x : Char} {r : List Char} (hx : x ≠ m ∧ x ≠ '\\' ∧ x ≠ '\x00') (h : Inner m more r) :
      Inner m more (x :: r)
  | quote {y : Char} {r : List Char} (hy : y ≠ m) (h : Inner m more (y :: r)) :
      Inner m more (m :: y :: r)
  | quotes {y : Char} {r : List Char} (hy : y ≠ m) (h : Inner m more (y :: r)) :
      Inner m more (m :: m :: y :: r)
  | pair {x : Char} {r : List Char} (hx : x = '\\' ∨ x = '"' ∨ x = '\'') (h : Inner m more r) :
      Inner m more ('\\' :: x :: r)
  | escape {x : Char} {r : List Char} (hx : x ≠ '\\' ∧ x ≠ '"' ∧ x ≠ '\'')
      (hname : ∀ s, x :: r = 'N' :: '{' :: s → '}' ∈ more → '}' ∈ s) (h : Inner m more (x :: r)) :
      Inner m more ('\\' :: x :: r)

namespace Inner

variable {m x : Char} {more r s : List Char}

/-- After a character that is neither a quote nor a backslash, the rest may stand in a literal. -/
theorem of_append (hm : m = '"' ∨ m = '\'') (hx : x ≠ '\\' ∧ x ≠ '"' ∧ x ≠ '\'')
    (h : Inner m more (r ++ x :: s)) : Inner m more s := by
  have hxm : x ≠ m := by rcases hm with rfl | rfl <;> simp [hx]
  generalize hr : r ++ x :: s = t at h
  induction h generalizing r with
  | nil => simp at hr
  | plain _ h ih =>
      cases r with
      | nil => exact (List.cons.inj hr).2 ▸ h
      | cons c r => exact ih (List.cons.inj hr).2
  | quote hy h ih =>
      cases r with
      | nil => exact absurd (List.cons.inj hr).1 hxm
      | cons c r => exact ih (List.cons.inj hr).2
  | quotes hy h ih =>
      cases r with
      | nil => exact absurd (List.cons.inj hr).1 hxm
      | cons c r =>
          cases r with
          | nil => exact absurd (List.cons.inj (List.cons.inj hr).2).1 hxm
          | cons d r => exact ih (List.cons.inj (List.cons.inj hr).2).2
  | pair hy h ih =>
      cases r with
      | nil => exact absurd (List.cons.inj hr).1 hx.1
      | cons c r =>
          cases r with
          | nil =>
              have heq := (List.cons.inj (List.cons.inj hr).2).1
              rw [← heq] at hy
              simp [hx] at hy
          | cons d r => exact ih (List.cons.inj (List.cons.inj hr).2).2
  | escape _ _ h ih =>
      cases r with
      | nil => exact absurd (List.cons.inj hr).1 hx.1
      | cons c r => exact ih (List.cons.inj hr).2

end Inner

/-! ## Content -/

namespace Layout

variable {m x y : Char} {more r before : List Char} {l : Layout} {fuel : Nat} {content : Bool}

/-- The layout after a string. -/
def closed (l : Layout) : Layout := { l with quotes := l.quotes.tail, insideFormat := false }

/-- The end of a literal: its closing quotes and what follows. -/
def closing (m : Char) (more : List Char) : List Char := m :: m :: m :: more

theorem inside_plain (hx : x ≠ m ∧ x ≠ '\\' ∧ x ≠ '\x00') :
    inside l (quoted m true) (fuel + 1) content (between before (x :: r)) =
      inside l (quoted m true) fuel true (between (before ++ [x]) r) := by
  have hrest : (between before (x :: r)).rest = x :: r := rfl
  rw [inside]
  simp [hrest, hx, quoted, advance_between]

theorem inside_quote (hm : m = '"' ∨ m = '\'') (hy : y ≠ m) :
    inside l (quoted m true) (fuel + 1) content (between before (m :: y :: r)) =
      .token .stringContent (between (before ++ [m]) (y :: r)) l := by
  have hrest : (between before (m :: y :: r)).rest = m :: y :: r := rfl
  have hsees : (between (before ++ [m]) (y :: r)).sees m = false := by
    simpa [between, sees] using hy
  have hne : m ≠ '\x00' ∧ m ≠ '\\' := by rcases hm with rfl | rfl <;> decide
  rw [inside]
  simp [hrest, hne, quoted, advance_between, hsees]

theorem inside_quotes (hm : m = '"' ∨ m = '\'') (hy : y ≠ m) :
    inside l (quoted m true) (fuel + 1) content (between before (m :: m :: y :: r)) =
      .token .stringContent (between (before ++ [m, m]) (y :: r)) l := by
  have hrest : (between before (m :: m :: y :: r)).rest = m :: m :: y :: r := rfl
  have hsees : ∀ b : List Char, (between b (y :: r)).sees m = false := by
    simpa [between, sees] using hy
  have hsees' : ∀ b : List Char, (between b (m :: y :: r)).sees m = true := by
    simp [between, sees]
  have hne : m ≠ '\x00' ∧ m ≠ '\\' := by rcases hm with rfl | rfl <;> decide
  rw [inside]
  simp [hrest, hne, quoted, advance_between, hsees, hsees']

theorem inside_backslash :
    inside l (quoted m true) (fuel + 1) content (between before ('\\' :: r)) =
      .content l content (between before ('\\' :: r)) := by
  have hrest : (between before ('\\' :: r)).rest = '\\' :: r := rfl
  rw [inside]
  simp [hrest, quoted]

theorem inside_closing (hm : m = '"' ∨ m = '\'') :
    inside l (quoted m true) (fuel + 1) content (between before (closing m more)) =
      if content then .token .stringContent (between before (closing m more)) l
      else .token .stringEnd (between (before ++ [m, m, m]) more) l.closed := by
  have hrest : (between before (m :: m :: m :: more)).rest = m :: m :: m :: more := rfl
  have hsees : ∀ b t : List Char, (between b (m :: t)).sees m = true := by
    simp [between, sees]
  have hne : m ≠ '\x00' ∧ m ≠ '\\' := by rcases hm with rfl | rfl <;> decide
  rw [closing, inside]
  simp [hrest, hne, quoted, advance_between, hsees, closed]

/-- Content goes on up to a quote or a backslash. -/
theorem inside_content (l : Layout) (before : List Char) (hm : m = '"' ∨ m = '\'')
    (h : Inner m more r) (hfuel : r.length < fuel) :
    ∃ p s, r = p ++ s ∧ Inner m more s ∧
      inside l (quoted m true) fuel true (between before (r ++ closing m more)) =
        .token .stringContent (between (before ++ p) (s ++ closing m more)) l := by
  induction h generalizing before fuel with
  | nil =>
      obtain ⟨n, rfl⟩ : ∃ n, fuel = n + 1 := ⟨fuel - 1, by omega⟩
      refine ⟨[], [], rfl, .nil, ?_⟩
      rw [List.nil_append, inside_closing hm, if_pos rfl, List.append_nil]
  | @plain x r hx h ih =>
      obtain ⟨n, rfl⟩ : ∃ n, fuel = n + 1 := ⟨fuel - 1, by omega⟩
      obtain ⟨p, s, rfl, hs, hinside⟩ := ih (before ++ [x]) (Nat.lt_of_succ_lt_succ hfuel)
      refine ⟨x :: p, s, rfl, hs, ?_⟩
      rw [List.cons_append, inside_plain hx, hinside, List.append_assoc]
      rfl
  | @quote y r hy h _ =>
      obtain ⟨n, rfl⟩ : ∃ n, fuel = n + 1 := ⟨fuel - 1, by omega⟩
      exact ⟨[m], y :: r, rfl, h, inside_quote hm hy⟩
  | @quotes y r hy h _ =>
      obtain ⟨n, rfl⟩ : ∃ n, fuel = n + 1 := ⟨fuel - 1, by omega⟩
      exact ⟨[m, m], y :: r, rfl, h, inside_quotes hm hy⟩
  | pair hx h _ =>
      obtain ⟨n, rfl⟩ : ∃ n, fuel = n + 1 := ⟨fuel - 1, by omega⟩
      refine ⟨[], _, rfl, .pair hx h, ?_⟩
      rw [List.cons_append, inside_backslash, List.append_nil]
      rfl
  | escape hx hname h _ =>
      obtain ⟨n, rfl⟩ : ∃ n, fuel = n + 1 := ⟨fuel - 1, by omega⟩
      refine ⟨[], _, rfl, .escape hx hname h, ?_⟩
      rw [List.cons_append, inside_backslash, List.append_nil]
      rfl

/-- A piece of content is read where there is no backslash. -/
theorem inside_piece (l : Layout) (before : List Char) (hm : m = '"' ∨ m = '\'')
    (h : Inner m more (x :: r)) (hx : x ≠ '\\') (hfuel : (x :: r).length < fuel) :
    ∃ p s, x :: r = p ++ s ∧ p ≠ [] ∧ Inner m more s ∧
      inside l (quoted m true) fuel false (between before (x :: r ++ closing m more)) =
        .token .stringContent (between (before ++ p) (s ++ closing m more)) l := by
  obtain ⟨n, rfl⟩ : ∃ n, fuel = n + 1 := ⟨fuel - 1, by omega⟩
  cases h with
  | plain hplain h =>
      obtain ⟨p, s, rfl, hs, hinside⟩ := inside_content l (before ++ [x]) hm h
        (Nat.lt_of_succ_lt_succ hfuel)
      refine ⟨x :: p, s, rfl, List.cons_ne_nil x p, hs, ?_⟩
      rw [List.cons_append, inside_plain hplain, hinside, List.append_assoc]
      rfl
  | @quote y r hy h => exact ⟨[m], y :: r, rfl, List.cons_ne_nil _ _, h, inside_quote hm hy⟩
  | @quotes y r hy h => exact ⟨[m, m], y :: r, rfl, List.cons_ne_nil _ _, h, inside_quotes hm hy⟩
  | pair => exact absurd rfl hx
  | escape => exact absurd rfl hx

/-- Whether a text may stand in a string of one line as it is. -/
def IsBare (t : List Char) : Prop :=
  ∀ c ∈ t, c ≠ '"' ∧ c ≠ '\\' ∧ c ≠ '\n' ∧ c ≠ '\x00'

/-- The content of a string of one line. -/
theorem inside_bare (before : List Char) {t : List Char} (ht : IsBare t)
    (hcontent : content = true ∨ t ≠ []) (hfuel : t.length < fuel) :
    inside l (quoted '"' false) fuel content (between before (t ++ '"' :: r)) =
      .token .stringContent (between (before ++ t) ('"' :: r)) l := by
  induction t generalizing before fuel content with
  | nil =>
      obtain rfl : content = true := hcontent.resolve_right (fun h => h rfl)
      obtain ⟨n, rfl⟩ : ∃ n, fuel = n + 1 := ⟨fuel - 1, by omega⟩
      have hrest : (between before ('"' :: r)).rest = '"' :: r := rfl
      rw [List.nil_append, inside]
      simp [hrest, quoted]
  | cons c t ih =>
      obtain ⟨n, rfl⟩ : ∃ n, fuel = n + 1 := ⟨fuel - 1, by omega⟩
      obtain ⟨hc, ht⟩ := List.forall_mem_cons.1 ht
      have hrest : (between before (c :: (t ++ '"' :: r))).rest = c :: (t ++ '"' :: r) := rfl
      have hih := ih (before ++ [c]) ht (.inl rfl) (Nat.lt_of_succ_lt_succ hfuel)
      rw [List.cons_append, inside]
      simp only [hrest, advance_between]
      simpa [hc, quoted] using hih

/-- The end of a string of one line. -/
theorem inside_end :
    inside l (quoted '"' false) (fuel + 1) false (between before ('"' :: r)) =
      .token .stringEnd (between (before ++ ['"']) r) l.closed := by
  have hrest : (between before ('"' :: r)).rest = '"' :: r := rfl
  rw [inside]
  simp [hrest, quoted, advance_between, closed]

/-- What is expected inside of a literal: content, a brace or the end. -/
def insideSet : Expected := ⟨0xf0⟩

theorem scan_inside {q : Quote} {qs : List Quote} {c stop : Cursor} {t : LayoutToken} {l' : Layout}
    (hquotes : l.quotes = q :: qs) (hformat : q.format = false)
    (h : inside l q (c.rest.length + 1) false c = .token t stop l') :
    l.scan insideSet c = some ⟨t, c, stop, l'⟩ := by
  have hsets : insideSet.anything = false ∧ insideSet.has .stringContent = true := by decide
  rw [scan, hquotes]
  simp [hsets, hformat, h]

theorem scan_inside_nothing {q : Quote} {qs : List Quote} {c : Cursor}
    (hquotes : l.quotes = q :: qs) (hformat : q.format = false)
    (h : inside l q (c.rest.length + 1) false c = .nothing) : l.scan insideSet c = .none := by
  have hsets : insideSet.anything = false ∧ insideSet.has .stringContent = true := by decide
  rw [scan, hquotes]
  simp [hsets, hformat, h]

end Layout

/-! ## Escapes -/

/-- The class of a character beyond ASCII is one of four. -/
theorem charClass_ascii_or (c : Char) : c.toNat < 128 ∨ charClass c ∈ [1, 2, 32, 74] := by
  by_cases hc : c.toNat < 128
  · exact .inl hc
  · refine .inr ?_
    rw [charClass, if_neg hc]
    split
    · decide
    · split
      · decide
      · split <;> decide

/-- What holds of all ASCII characters and of the classes of the others holds of all characters. -/
theorem forall_charClass {p : Char → Nat → Prop}
    (hascii : ∀ n < 128, p (Char.ofNat n) (charClass (Char.ofNat n)))
    (hothers : ∀ k ∈ [1, 2, 32, 74], ∀ c : Char, 128 ≤ c.toNat → p c k) (c : Char) :
    p c (charClass c) := by
  rcases Nat.lt_or_ge c.toNat 128 with hc | hc
  · have h := hascii c.toNat hc
    rwa [Char.ofNat_toNat] at h
  · exact hothers _ ((charClass_ascii_or c).resolve_left (Nat.not_lt.2 hc)) c hc

theorem ne_of_toNat_le {c d : Char} (hc : 128 ≤ c.toNat) (hd : d.toNat < 128) : c ≠ d := by
  rintro rfl
  exact absurd hd (Nat.not_lt.2 hc)

/-- Whether a character can neither end a literal nor start an escape. -/
def isOrdinary (c : Char) : Bool := c != '\\' && c != '"' && c != '\''

/-- The states of the token automaton after a backslash and at least one more character. -/
def escapeStates : List Nat :=
  [58, 59, 60, 61, 62, 63, 64, 84, 85, 86, 87, 102, 103, 112, 113, 118, 121, 122, 123]

/-- The state of the token automaton before an escape, where nothing is stepped over. -/
def beforeEscape : Nat := 0

/-- The state of the token automaton after a backslash. -/
def afterBackslash : Nat := 28

/-- The state of the token automaton after the escape of a quote or a backslash. -/
def afterPair : Nat := 64

/-- The state of the token automaton after a `\N`, where the name of a character may start. -/
def beforeName : Nat := 65

/-- The states of the token automaton in a `\N{` before the brace that closes it. -/
def nameStates : List Nat := [88, 104]

/-- The token of a backslash and what it escapes. -/
def escapeSequence : Nat := 89

/-- The token of a backslash that escapes nothing. -/
def loneBackslash : Nat := 90

/-- From a state the automaton stops before a character, or goes on over it to one of some states.
-/
def StepsTo (states : List Nat) (state cls : Nat) : Prop :=
  tokenStep state cls = 0 ∨ ∃ next ∈ states, tokenStep state cls = 2 * (next + 1)

instance (states : List Nat) (state cls : Nat) : Decidable (StepsTo states state cls) :=
  inferInstanceAs (Decidable (_ ∨ _))

theorem escapeStates_row : ∀ s ∈ escapeStates,
    tokenRow s % 256 = 0 ∨ tokenRow s % 256 = escapeSequence + 1 := by
  decide

theorem escapeStates_step (c : Char) : ∀ s ∈ escapeStates,
    tokenStep s (charClass c) = 0 ∨
      isOrdinary c = true ∧ StepsTo escapeStates s (charClass c) := by
  refine forall_charClass (p := fun c k => ∀ s ∈ escapeStates,
    tokenStep s k = 0 ∨ isOrdinary c = true ∧ StepsTo escapeStates s k) ?_ ?_ c
  · decide
  · intro k hk c _ s hs
    refine .inl ?_
    revert s k
    decide

theorem nameStates_step (c : Char) (hc : c ≠ '}') : ∀ s ∈ nameStates,
    StepsTo nameStates s (charClass c) := by
  refine forall_charClass (p := fun c k => c ≠ '}' → ∀ s ∈ nameStates, StepsTo nameStates s k)
    ?_ ?_ c hc
  · decide
  · intro k hk c _ _
    revert k
    decide

theorem nameStates_close : ∀ s ∈ nameStates, StepsTo escapeStates s (charClass '}') := by
  decide

theorem nameStates_row : ∀ s ∈ nameStates,
    tokenRow s % 256 = 0 ∧ (tokenRow s >>> 8) % 256 = 0 := by
  decide

/-- After a backslash a quote or another backslash makes an escape; any other character may. -/
theorem afterBackslash_step (c : Char) (hc : c ≠ '\x00') :
    if isOrdinary c = true then
      StepsTo escapeStates afterBackslash (charClass c) ∨
        c = 'N' ∧ tokenStep afterBackslash (charClass c) = 2 * (beforeName + 1)
    else tokenStep afterBackslash (charClass c) = 2 * (afterPair + 1) := by
  refine forall_charClass (p := fun c k => c ≠ '\x00' → if isOrdinary c = true then
      StepsTo escapeStates afterBackslash k ∨
        c = 'N' ∧ tokenStep afterBackslash k = 2 * (beforeName + 1)
    else tokenStep afterBackslash k = 2 * (afterPair + 1)) ?_ ?_ c hc
  · decide
  · intro k hk c hc _
    have hordinary : isOrdinary c = true := by
      simp [isOrdinary, ne_of_toNat_le hc (show '\\'.toNat < 128 by decide),
        ne_of_toNat_le hc (show '"'.toNat < 128 by decide),
        ne_of_toNat_le hc (show '\''.toNat < 128 by decide)]
    rw [if_pos hordinary]
    refine .inl ?_
    revert k
    decide

/-- Nothing makes the escape of a quote or a backslash longer. -/
theorem afterPair_stops (c : Char) : tokenStep afterPair (charClass c) = 0 := by
  refine forall_charClass (p := fun _ k => tokenStep afterPair k = 0) ?_ ?_ c
  · decide
  · intro k hk c _
    revert k
    decide

/-- After a `\N` the automaton goes on over a brace only. -/
theorem beforeName_step (c : Char) :
    tokenStep beforeName (charClass c) = 0 ∨
      c = '{' ∧ ∃ next ∈ nameStates, tokenStep beforeName (charClass c) = 2 * (next + 1) := by
  refine forall_charClass (p := fun c k => tokenStep beforeName k = 0 ∨
    c = '{' ∧ ∃ next ∈ nameStates, tokenStep beforeName k = 2 * (next + 1)) ?_ ?_ c
  · decide
  · intro k hk c _
    refine .inl ?_
    revert k
    decide

section

variable {m c : Char} {more r p whole before : List Char} {state : Nat} {start : Cursor}
  {best : Option (Nat × Cursor)}

/-- The automaton stops before a character. -/
theorem scanFrom_zero (h : tokenStep state (charClass c) = 0) :
    scanFrom state start best (Position.start.after before) (c :: r) =
      ⟨start, completed (tokenRow state % 256) best (between before (c :: r)),
        between before (c :: r)⟩ := by
  rw [scanFrom]
  dsimp only
  rw [tokenStep] at h
  rw [h, if_pos rfl]
  rfl

/-- An escape at the start of some text inside of a literal: what was read of it leaves text that
may stand in the literal. -/
def EscapeFound (m : Char) (more before whole : List Char) (found : Option (Nat × Cursor)) : Prop :=
  ∃ symbol p s, whole = p ++ s ∧ p ≠ [] ∧ Inner m more s ∧
    (symbol = escapeSequence ∨ symbol = loneBackslash) ∧
    found = some (symbol, between (before ++ p) (s ++ Layout.closing m more))

/-- A scan keeps its start and finds an escape. -/
def ScansEscape (m : Char) (more before whole : List Char) (start : Cursor) (found : Scan) : Prop :=
  found.start = start ∧ EscapeFound m more before whole found.found

theorem escapeFound_completed (hs : state ∈ escapeStates) (hwhole : whole = p ++ r) (hp : p ≠ [])
    (hr : Inner m more r) (hbest : EscapeFound m more before whole best) :
    EscapeFound m more before whole
      (completed (tokenRow state % 256) best
        (between (before ++ p) (r ++ Layout.closing m more))) := by
  rcases escapeStates_row state hs with hrow | hrow
  · rw [hrow]
    exact hbest
  · rw [hrow]
    exact ⟨escapeSequence, p, r, hwhole, hp, hr, .inl rfl, rfl⟩

/-- After a backslash and another character the automaton does not go beyond the literal. -/
theorem scansEscape (hm : m = '"' ∨ m = '\'') (hs : state ∈ escapeStates) (hwhole : whole = p ++ r)
    (hp : p ≠ []) (hr : Inner m more r) (hbest : EscapeFound m more before whole best) :
    ScansEscape m more before whole start
      (scanFrom state start best (Position.start.after (before ++ p))
        (r ++ Layout.closing m more)) := by
  induction r generalizing p state best with
  | nil =>
      have hfound := escapeFound_completed hs hwhole hp hr hbest
      have hstop : tokenStep state (charClass m) = 0 := by
        refine (escapeStates_step m state hs).resolve_right fun h => ?_
        rcases hm with rfl | rfl <;> exact absurd h.1 (by decide)
      rw [List.nil_append, Layout.closing, scanFrom_zero hstop]
      exact ⟨rfl, hfound⟩
  | cons c r ih =>
      have hfound := escapeFound_completed hs hwhole hp hr hbest
      rcases escapeStates_step c state hs with hstop | ⟨hordinary, hstop | ⟨next, hnext, hstep⟩⟩
      · rw [List.cons_append, scanFrom_zero hstop]
        exact ⟨rfl, hfound⟩
      · rw [List.cons_append, scanFrom_zero hstop]
        exact ⟨rfl, hfound⟩
      · have hc : c ≠ '\\' ∧ c ≠ '"' ∧ c ≠ '\'' := by simpa [isOrdinary, and_assoc] using hordinary
        rw [List.cons_append, scanFrom_step hstep, List.append_assoc]
        exact ih hnext (by rw [hwhole, List.append_assoc]; rfl) (by simp)
          (hr.of_append (r := []) hm hc) hfound

/-- Without a brace that closes it a `\N{` makes no escape. -/
theorem scanFrom_name (start : Cursor) (best : Option (Nat × Cursor)) (before : List Char)
    (hs : state ∈ nameStates) (hr : '}' ∉ r) :
    ∃ reached, scanFrom state start best (Position.start.after before) r =
      ⟨start, best, reached⟩ := by
  induction r generalizing before state with
  | nil =>
      rw [scanFrom, (nameStates_row state hs).2]
      exact ⟨_, rfl⟩
  | cons c r ih =>
      rw [List.mem_cons, not_or] at hr
      rcases nameStates_step c (Ne.symm hr.1) state hs with hstop | ⟨next, hnext, hstep⟩
      · rw [scanFrom_zero hstop, (nameStates_row state hs).1]
        exact ⟨_, rfl⟩
      · rw [scanFrom_step hstep, (nameStates_row state hs).1]
        exact ih _ hnext hr.2

/-- In a `\N{` the automaton does not go beyond the literal. -/
theorem scansEscape_name (hm : m = '"' ∨ m = '\'') (hs : state ∈ nameStates)
    (hwhole : whole = p ++ r) (hp : p ≠ []) (hr : ∀ u v, r = u ++ '}' :: v → Inner m more v)
    (hclosed : '}' ∈ more → '}' ∈ r) (hbest : EscapeFound m more before whole best) :
    ScansEscape m more before whole start
      (scanFrom state start best (Position.start.after (before ++ p))
        (r ++ Layout.closing m more)) := by
  induction r generalizing p state with
  | nil =>
      have hnever : '}' ∉ Layout.closing m more := by
        have hmore : '}' ∉ more := fun h => by cases hclosed h
        rcases hm with rfl | rfl <;> simpa [Layout.closing] using hmore
      obtain ⟨reached, h⟩ := scanFrom_name start best (before ++ p) hs hnever
      rw [List.nil_append, h]
      exact ⟨rfl, hbest⟩
  | cons c r ih =>
      have hrow := (nameStates_row state hs).1
      by_cases hc : c = '}'
      · subst hc
        rcases nameStates_close state hs with hstop | ⟨next, hnext, hstep⟩
        · rw [List.cons_append, scanFrom_zero hstop, hrow]
          exact ⟨rfl, hbest⟩
        · rw [List.cons_append, scanFrom_step hstep, hrow, List.append_assoc]
          exact scansEscape hm hnext (by rw [hwhole, List.append_assoc]; rfl) (by simp)
            (hr [] r rfl) hbest
      · rcases nameStates_step c hc state hs with hstop | ⟨next, hnext, hstep⟩
        · rw [List.cons_append, scanFrom_zero hstop, hrow]
          exact ⟨rfl, hbest⟩
        · rw [List.cons_append, scanFrom_step hstep, hrow, List.append_assoc]
          refine ih hnext (by rw [hwhole, List.append_assoc]; rfl) (by simp) ?_ ?_
          · exact fun u v h => hr (c :: u) v (by rw [h]; rfl)
          · exact fun h => (List.mem_cons.1 (hclosed h)).resolve_left (Ne.symm hc)

/-- After a `\N` the automaton does not go beyond the literal. -/
theorem scansEscape_beforeName (hm : m = '"' ∨ m = '\'') (hwhole : whole = p ++ r)
    (hr : Inner m more r) (hclosed : ∀ s, r = '{' :: s → '}' ∈ more → '}' ∈ s)
    (hbest : EscapeFound m more before whole best) :
    ScansEscape m more before whole start
      (scanFrom beforeName start best (Position.start.after (before ++ p))
        (r ++ Layout.closing m more)) := by
  have hrow : tokenRow beforeName % 256 = 0 := by decide
  cases r with
  | nil =>
      have hstop : tokenStep beforeName (charClass m) = 0 := by
        refine (beforeName_step m).resolve_right fun h => ?_
        rcases hm with hm | hm <;> exact absurd (hm.symm.trans h.1) (by decide)
      rw [List.nil_append, Layout.closing, scanFrom_zero hstop, hrow]
      exact ⟨rfl, hbest⟩
  | cons c r =>
      rw [List.cons_append]
      rcases beforeName_step c with hstop | ⟨rfl, next, hnext, hstep⟩
      · rw [scanFrom_zero hstop, hrow]
        exact ⟨rfl, hbest⟩
      · rw [scanFrom_step hstep, hrow, List.append_assoc]
        refine scansEscape_name hm hnext (by rw [hwhole, List.append_assoc]; rfl) (by simp) ?_
          (hclosed r rfl) hbest
        intro u v huv
        have hbrace : '{' :: r = ('{' :: u) ++ '}' :: v := by rw [huv]; rfl
        exact Inner.of_append (x := '}') hm (by decide) (hbrace ▸ hr)

/-- After a backslash the automaton reads the escape of a quote or of another backslash. -/
theorem scansEscape_pair {x : Char} (hx : x = '\\' ∨ x = '"' ∨ x = '\'') (hr : Inner m more r) :
    ScansEscape m more before ('\\' :: x :: r) start
      (scanFrom afterBackslash start best (Position.start.after (before ++ ['\\']))
        (x :: r ++ Layout.closing m more)) := by
  have hstep := afterBackslash_step x (by rcases hx with rfl | rfl | rfl <;> decide)
  rw [if_neg (by rcases hx with rfl | rfl | rfl <;> decide)] at hstep
  obtain ⟨c, t, ht⟩ : ∃ c t, r ++ Layout.closing m more = c :: t := by
    cases r <;> exact ⟨_, _, rfl⟩
  -- the escape is complete, and nothing makes it longer
  rw [List.cons_append, scanFrom_step hstep, ht, scanFrom_zero (afterPair_stops c), ← ht,
    List.append_assoc]
  exact ⟨rfl, escapeSequence, ['\\', x], r, rfl, by simp, hr, .inl rfl, rfl⟩

/-- After a backslash and a character that is none of these the automaton does not go beyond the
literal: at worst the backslash is read alone. -/
theorem scansEscape_ordinary {x : Char} (hm : m = '"' ∨ m = '\'')
    (hx : x ≠ '\\' ∧ x ≠ '"' ∧ x ≠ '\'')
    (hclosed : ∀ s, x :: r = 'N' :: '{' :: s → '}' ∈ more → '}' ∈ s) (h : Inner m more (x :: r)) :
    ScansEscape m more before ('\\' :: x :: r) start
      (scanFrom afterBackslash start best (Position.start.after (before ++ ['\\']))
        (x :: r ++ Layout.closing m more)) := by
  have hlone : tokenRow afterBackslash % 256 = loneBackslash + 1 := by decide
  have hr : Inner m more r := h.of_append (r := []) hm hx
  have hplain : x ≠ '\x00' := by
    cases h with
    | plain h => exact h.2.2
    | quote | quotes => rcases hm with rfl | rfl <;> decide
    | pair | escape => decide
  have hbest : EscapeFound m more before ('\\' :: x :: r)
      (completed (tokenRow afterBackslash % 256) best
        (between (before ++ ['\\']) (x :: (r ++ Layout.closing m more)))) := by
    rw [hlone]
    exact ⟨loneBackslash, ['\\'], x :: r, rfl, by simp, h, .inr rfl, rfl⟩
  have hstep := afterBackslash_step x hplain
  rw [if_pos (by simpa [isOrdinary, and_assoc] using hx)] at hstep
  rw [List.cons_append]
  rcases hstep with (hstop | ⟨next, hnext, hstep⟩) | ⟨rfl, hstep⟩
  · rw [scanFrom_zero hstop]
    exact ⟨rfl, hbest⟩
  · rw [scanFrom_step hstep, List.append_assoc]
    exact scansEscape hm hnext rfl (by simp) hr hbest
  · rw [scanFrom_step hstep, List.append_assoc]
    exact scansEscape_beforeName hm rfl hr (fun s hs => hclosed s (by rw [hs])) hbest

/-- An escape is read where there is a backslash. -/
theorem scan_escape (before : List Char) (hm : m = '"' ∨ m = '\'')
    (h : Inner m more ('\\' :: r)) :
    ScansEscape m more before ('\\' :: r) (between before ('\\' :: r ++ Layout.closing m more))
      (scan beforeEscape (between before ('\\' :: r ++ Layout.closing m more))) := by
  have hbegin : tokenStep beforeEscape (charClass '\\') = 2 * (afterBackslash + 1) := by
    decide
  have hopen : ∀ t, (between before ('\\' :: t)).rest = '\\' :: t := fun _ => rfl
  have hpos : ∀ t, (between before t).pos = Position.start.after before := fun _ => rfl
  rw [List.cons_append, scan, hopen, hpos, scanFrom_step hbegin]
  cases h with
  | plain hx => exact absurd rfl hx.2.1
  | quote => rcases hm with hm | hm <;> cases hm
  | quotes => rcases hm with hm | hm <;> cases hm
  | pair hx h => exact scansEscape_pair hx h
  | escape hx hclosed h => exact scansEscape_ordinary hm hx hclosed h

end

end CellScript.Python
