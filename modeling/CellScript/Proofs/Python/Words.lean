import CellScript.Proofs.Python.Placed
import CellScript.Python.Token.Scan
import Mathlib.Data.List.GetD

set_option autoImplicit false

/-! # Words

Identifiers and keywords are words, `Grammar.isWord`. The token automaton ends a word before a line
does, `row_eq_of_scan`. Some phrases that a tree does not show give a keyword the name of an
identifier, `Grammar.renames`; the parser makes them in certain states only, and it comes to these
by taking a word, `Grammar.isWord_of_mem_moves`, never by a phrase, `Grammar.not_afterWord_next`. All
of this is read off the tables. -/

namespace CellScript.Python

open Grammar

namespace Grammar

/-! ## Tables -/

section

variable {α : Type} {shelves : List (List α)} {fallback : α} {width : Nat}

/-- What holds of the entries of a table at their places, and of the fallback, holds of whatever is
looked up. -/
theorem forall_shelved_zipIdx (P : Nat → α → Prop)
    (h : ∀ x ∈ shelves.zipIdx, ∀ y ∈ x.1.zipIdx, P (width * x.2 + y.2) y.1)
    (hfallback : ∀ i, P i fallback) (i : Nat) : P i (shelved shelves width fallback i) := by
  rw [shelved, List.getD_eq_getElem?_getD, List.getD_eq_getElem?_getD]
  cases hshelf : shelves[i / width]? with
  | none => exact hfallback i
  | some shelf =>
      rw [Option.getD_some]
      cases hx : shelf[i % width]? with
      | none => exact hfallback i
      | some x =>
          have hentry := h (shelf, i / width) (List.mk_mem_zipIdx_iff_getElem?.2 hshelf)
            (x, i % width) (List.mk_mem_zipIdx_iff_getElem?.2 hx)
          rwa [Nat.div_add_mod] at hentry

theorem forall_shelved (P : α → Prop) (h : ∀ shelf ∈ shelves, ∀ x ∈ shelf, P x)
    (hfallback : P fallback) (width i : Nat) : P (shelved shelves width fallback i) :=
  forall_shelved_zipIdx (fun _ => P)
    (fun _ hx _ hy => h _ (List.fst_mem_of_mem_zipIdx hx) _ (List.fst_mem_of_mem_zipIdx hy))
    (fun _ => hfallback) i

end

/-! ## Sets of numbers

The operations here and below are named for the sake of the kernel, which then has no instances to
open for each of the many entries of a table. -/

/-- Whether a number is in a set, one bit per number. -/
def hasBit (set i : Nat) : Bool := ((set.shiftRight i).mod 2).beq 1

/-- The set of some numbers. -/
def setOf (numbers : List Nat) : Nat := numbers.foldr (fun i set => Nat.pow 2 i ||| set) 0

theorem hasBit_eq_testBit (set i : Nat) : hasBit set i = set.testBit i := by
  rw [Nat.testBit_eq_decide_div_mod_eq, ← Nat.shiftRight_eq_div_pow]
  exact Bool.eq_iff_iff.2 ((iff_of_eq Nat.beq_eq).trans decide_eq_true_iff.symm)

theorem hasBit_setOf (numbers : List Nat) (i : Nat) :
    hasBit (setOf numbers) i = numbers.contains i := by
  rw [hasBit_eq_testBit]
  induction numbers with
  | nil => exact Nat.zero_testBit i
  | cons n numbers ih =>
      rw [setOf, List.foldr_cons, Nat.testBit_or, ← setOf, ih, List.contains_cons]
      show ((2 ^ n).testBit i || _) = _
      rw [Nat.testBit_two_pow]
      exact congrArg (· || numbers.contains i) (decide_eq_decide.2 eq_comm)

theorem hasBit_setOf_iff {numbers : List Nat} {i : Nat} :
    hasBit (setOf numbers) i = true ↔ i ∈ numbers := by
  rw [hasBit_setOf, List.contains_iff_mem]

/-! ## Words -/

/-- The symbols of words: of the identifier and of the keywords. -/
def words : List Nat := identifier :: keywords.map (·.2)

/-- Whether a symbol is that of a word. -/
def isWord (symbol : Nat) : Bool := words.contains symbol

theorem isWord_of_subset {set symbol : Nat} (hset : set ||| setOf words = setOf words)
    (h : set.testBit symbol = true) : isWord symbol = true := by
  rw [isWord, ← hasBit_setOf, ← hset, hasBit_eq_testBit, Nat.testBit_or, h]
  rfl

/-- No phrase is a word. -/
theorem isWord_of_firstPhrase_le {symbol : Nat} (h : firstPhrase ≤ symbol) :
    isWord symbol = false := by
  have hall : ∀ w ∈ words, w < firstPhrase := by decide
  cases hw : isWord symbol with
  | false => rfl
  | true => exact absurd h (Nat.not_le.2 (hall _ (List.contains_iff_mem.1 hw)))

/-! ## The groups of a row -/

/-- The set of the group `k` of a row. -/
def groupSet (setBits entryBits groups k : Nat) : Nat :=
  (groups.shiftRight ((setBits.add entryBits).mul k)).mod (Nat.pow 2 setBits)

/-- The entry of the group `k` of a row. -/
def groupEntry (setBits entryBits groups k : Nat) : Nat :=
  (groups.shiftRight (((setBits.add entryBits).mul k).add setBits)).mod (Nat.pow 2 entryBits)

theorem exists_of_findGroup {sets : List (List Nat)} {setBits entryBits symbol n groups e : Nat}
    (h : findGroup sets setBits entryBits symbol n groups = some e) :
    ∃ k < n, (shelved sets 16 0 (groupSet setBits entryBits groups k)).testBit symbol = true ∧
      groupEntry setBits entryBits groups k = e := by
  induction n generalizing groups with
  | zero => cases h
  | succ n ih =>
      rw [findGroup] at h
      split at h
      · rename_i hset
        refine ⟨0, Nat.succ_pos n, hset, ?_⟩
        rw [← Option.some.inj h]
        show groups >>> ((setBits + entryBits) * 0 + setBits) % Nat.pow 2 entryBits = _
        rw [Nat.mul_zero, Nat.zero_add]
      · obtain ⟨k, hk, hset, hentry⟩ := ih h
        have hshift : ∀ m, groups >>> (setBits + entryBits) >>> ((setBits + entryBits) * k + m) =
            groups >>> ((setBits + entryBits) * (k + 1) + m) := by
          intro m
          rw [← Nat.shiftRight_add, Nat.mul_succ]
          congr 1
          omega
        refine ⟨k + 1, Nat.succ_lt_succ hk, ?_, ?_⟩
        · rw [← hset]
          congr 2
          exact congrArg (· % Nat.pow 2 setBits) (hshift 0).symm
        · rw [← hentry]
          exact congrArg (· % Nat.pow 2 entryBits) (hshift setBits).symm

/-- The codings of the moves that an entry stands for. -/
def codesOf (code : Nat) : List Nat :=
  bif (code.mod 8).beq 5 then shelved choices 16 [] (code.div 8) else [code]

/-- A move of a state is coded in one of its groups, with the token in the set of that group. -/
theorem exists_of_mem_moves {state token : Nat} {m : Move} (h : m ∈ moves state token) :
    ∃ k < (moveRow state >>> 16) % 256,
      ∃ c ∈ codesOf (groupEntry 12 16 (moveRow state >>> 24) k), m = Move.decode c ∧
        (shelved tokenSets 16 0 (groupSet 12 16 (moveRow state >>> 24) k)).testBit token =
          true := by
  unfold moves at h
  dsimp only at h
  split at h
  · cases h
  · rename_i code hcode
    obtain ⟨k, hk, hset, hentry⟩ := exists_of_findGroup hcode
    refine ⟨k, hk, ?_⟩
    rw [hentry, codesOf]
    cases hfive : (code.mod 8).beq 5 with
    | true =>
        have hmod : code % 8 = 5 := Nat.eq_of_beq_eq_true hfive
        rw [if_pos hmod] at h
        obtain ⟨c, hc, rfl⟩ := List.mem_map.1 h
        exact ⟨c, hc, rfl, hset⟩
    | false =>
        have hmod : code % 8 ≠ 5 := Nat.ne_of_beq_eq_false hfive
        rw [if_neg hmod] at h
        exact ⟨code, List.mem_singleton_self code, List.mem_singleton.1 h, hset⟩

/-! ## Keywords as identifiers -/

/-- Whether a phrase is one that a tree does not show and that gives a part of it the name of an
identifier. -/
def renames (symbol shape : Nat) : Bool :=
  !isVisible symbol && (shapeAt shape).aliases.any (·.2.1 == .identifier)

/-- The set of the states in which the parser makes phrases that give a keyword the name of an
identifier. -/
def afterWordStates : Nat :=
  0x3c3798c30000000000000000000000030060000007836c000000006f780000000060003006600f00000000001800000066c00000360800f1b8c000610000c7e0062000300c000000010000300000000000000000000000000000000000000000000000000000000000000000000000000000000000000000c780000000000000000000000000000000000040206000001900010400003000000010000000000000000000000000000000000000001ffffffffc00000000000000007806000000000000000000

/-- A state in which the parser makes phrases that give a keyword the name of an identifier. -/
def AfterWord (state : Nat) : Prop := hasBit afterWordStates state = true

instance (state : Nat) : Decidable (AfterWord state) := inferInstanceAs (Decidable (_ = true))

theorem not_afterWord_errorState : ¬ AfterWord errorState := by decide

theorem not_afterWord_startState : ¬ AfterWord startState := by decide

/-- What is to be seen of a move of `state` for the tokens of a set, given its coding. Of the 363
reductions of the grammar, with the codings `8 * i + 1`, those of the numbers 3, 4 and 5 rename, and
are for states after a word. Words alone lead to such states. -/
def codeFits (state set c : Nat) : Bool :=
  bif (c.mod 8).beq 1 then
    Nat.blt c 2904 && (!(c.beq 25 || c.beq 33 || c.beq 41) || hasBit afterWordStates state)
  else
    !hasBit afterWordStates (c.div 8) || (Nat.ble 1 (c.mod 8) && (c.mod 8).ble 4) ||
      (Nat.lor (shelved tokenSets 16 0 set) (setOf words)).beq (setOf words)

/-- All that an entry stands for fits. -/
def entryFits (state set entry : Nat) : Bool :=
  bif (entry.mod 8).beq 5 then
    (shelved choices 16 [] (entry.div 8)).all (codeFits state set)
  else codeFits state set entry

/-- All that a row of moves holds fits. -/
def rowFits (state row : Nat) : Bool :=
  (List.range ((row.shiftRight 16).mod 256)).all fun k =>
    entryFits state (groupSet 12 16 (row.shiftRight 24) k) (groupEntry 12 16 (row.shiftRight 24) k)

theorem codeFits_of_entryFits {state set entry c : Nat} (h : entryFits state set entry = true)
    (hc : c ∈ codesOf entry) : codeFits state set c = true := by
  unfold entryFits at h
  unfold codesOf at hc
  cases hfive : (entry.mod 8).beq 5 with
  | true =>
      rw [hfive] at h hc
      exact List.all_eq_true.1 h c hc
  | false =>
      rw [hfive] at h hc
      rw [List.mem_singleton.1 hc]
      exact h

theorem rowFits_moveRow (state : Nat) : rowFits state (moveRow state) = true := by
  have htable : ∀ x ∈ moveRows.zipIdx, ∀ y ∈ x.1.zipIdx,
      rowFits (rowsPerShelf * x.2 + y.2) y.1 = true := by decide +kernel
  exact forall_shelved_zipIdx (fun state row => rowFits state row = true) htable (fun _ => rfl)
    state

/-- The moves of a state are as their codings are seen to be. -/
theorem codeFits_of_mem_moves {state token : Nat} {m : Move} (h : m ∈ moves state token) :
    ∃ set c, m = Move.decode c ∧ codeFits state set c = true ∧
      (shelved tokenSets 16 0 set).testBit token = true := by
  obtain ⟨k, hk, c, hc, hm, hset⟩ := exists_of_mem_moves h
  have hrow := List.all_eq_true.1 (rowFits_moveRow state) k (List.mem_range.2 hk)
  exact ⟨_, c, hm, codeFits_of_entryFits hrow hc, hset⟩

theorem codeFits_reduce {state set c : Nat} (h : codeFits state set c = true) (hc : c % 8 = 1) :
    c < 2904 ∧ (c = 25 ∨ c = 33 ∨ c = 41 → AfterWord state) := by
  have hone : c.mod 8 = 1 := hc
  rw [codeFits, hone] at h
  obtain ⟨hlt, hstate⟩ := Bool.and_eq_true_iff.1 h
  refine ⟨Nat.blt_eq.mp hlt, fun hrenames => ?_⟩
  rcases hrenames with rfl | rfl | rfl <;> exact hstate

theorem codeFits_shift {state set c : Nat} (h : codeFits state set c = true)
    (hc : c % 8 = 0 ∨ 5 ≤ c % 8) (hq : AfterWord (c / 8)) :
    shelved tokenSets 16 0 set ||| setOf words = setOf words := by
  have hone : (c.mod 8).beq 1 = false := by
    cases hbeq : (c.mod 8).beq 1 with
    | false => rfl
    | true =>
        have hmod : c % 8 = 1 := Nat.eq_of_beq_eq_true hbeq
        omega
  have hbetween : (Nat.ble 1 (c.mod 8) && (c.mod 8).ble 4) = false := by
    cases hle : Nat.ble 1 (c.mod 8) && (c.mod 8).ble 4 with
    | false => rfl
    | true =>
        obtain ⟨hlow, hhigh⟩ := Bool.and_eq_true_iff.1 hle
        have hlow' : 1 ≤ c % 8 := Nat.le_of_ble_eq_true hlow
        have hhigh' : c % 8 ≤ 4 := Nat.le_of_ble_eq_true hhigh
        omega
  have hbit : hasBit afterWordStates (c.div 8) = true := hq
  rw [codeFits, hone, hbetween, hbit] at h
  exact Nat.eq_of_beq_eq_true h

/-- What holds of every reduction of the grammar: it makes a phrase, and if it renames, of a single
part. -/
structure Joins (r : Reduction) : Prop where
  phrase : firstPhrase ≤ r.head
  single : renames r.head r.shape = true → r.size = 1

/-- A reduction that renames is made after a word. -/
theorem joins_of_mem_moves {state token : Nat} {r : Reduction} (h : .reduce r ∈ moves state token) :
    Joins r ∧ (renames r.head r.shape = true → AfterWord state) := by
  obtain ⟨set, c, hm, hfits, -⟩ := codeFits_of_mem_moves h
  obtain ⟨hone, rfl⟩ : c % 8 = 1 ∧ r = reduction (c / 8) := by
    unfold Move.decode at hm
    split at hm
    all_goals first
      | exact ⟨‹_›, Move.reduce.inj hm⟩
      | cases hm
  obtain ⟨hlt, hstate⟩ := codeFits_reduce hfits hone
  have htable : ∀ i < 363, firstPhrase ≤ (reduction i).head ∧
      (renames (reduction i).head (reduction i).shape = true →
        (reduction i).size = 1 ∧ (i = 3 ∨ i = 4 ∨ i = 5)) := by decide +kernel
  obtain ⟨hphrase, hrenames⟩ := htable (c / 8) (by omega)
  refine ⟨⟨hphrase, fun h => (hrenames h).1⟩, fun h => hstate ?_⟩
  obtain ⟨-, hnumber⟩ := hrenames h
  omega

/-- A token that leads to a state after a word is a word. -/
theorem isWord_of_mem_moves {state token next : Nat} {m : Move} (h : m ∈ moves state token)
    (hm : m = .shift next ∨ m = .again next) (hnext : AfterWord next) : isWord token = true := by
  obtain ⟨set, c, hcode, hfits, hset⟩ := codeFits_of_mem_moves h
  obtain ⟨hc, rfl⟩ : (c % 8 = 0 ∨ 5 ≤ c % 8) ∧ next = c / 8 := by
    rw [hcode] at hm
    unfold Move.decode at hm
    split at hm <;> rcases hm with hm | hm <;> cases hm
    · exact ⟨.inl ‹_›, rfl⟩
    · rename_i h0 h1 h2 h3 h4
      have hne : c % 8 ≠ 0 ∧ c % 8 ≠ 1 ∧ c % 8 ≠ 2 ∧ c % 8 ≠ 3 ∧ c % 8 ≠ 4 := ⟨h0, h1, h2, h3, h4⟩
      exact ⟨.inr (by omega), rfl⟩
  exact isWord_of_subset (codeFits_shift hfits hc hnext) hset

/-- None of the states that a row of gotos holds is one after a word. -/
def gotoRowFits (row : Nat) : Bool :=
  (List.range (row.mod 256)).all fun k => !hasBit afterWordStates (groupEntry 8 12 (row.shiftRight 8) k)

/-- No phrase leads to a state after a word. -/
theorem not_afterWord_next {symbol : Nat} (state : Nat) (h : firstPhrase ≤ symbol) :
    ¬ AfterWord (next state symbol) := by
  have htable : ∀ shelf ∈ gotoRows, ∀ row ∈ shelf, gotoRowFits row = true := by decide +kernel
  have hrow : gotoRowFits (shelved gotoRows rowsPerShelf 0 state) = true :=
    forall_shelved (fun row => gotoRowFits row = true) htable rfl rowsPerShelf state
  unfold next
  split
  · exact not_afterWord_errorState
  · rw [if_neg (Nat.not_lt.2 h)]
    cases hgoto : goto? state symbol with
    | none => exact not_afterWord_errorState
    | some e =>
        obtain ⟨k, hk, -, rfl⟩ := exists_of_findGroup hgoto
        have hentry := List.all_eq_true.1 hrow k (List.mem_range.2 hk)
        exact Bool.eq_false_iff.1 ((Bool.not_eq_true' _).mp hentry)

/-- What leads to another state, which is one after a word, is a word. -/
theorem isWord_of_next {state symbol : Nat} (h : AfterWord (next state symbol))
    (hne : next state symbol ≠ state) : isWord symbol = true := by
  by_cases hphrase : firstPhrase ≤ symbol
  · exact absurd h (not_afterWord_next state hphrase)
  · unfold next at h hne
    split at h
    · exact absurd h not_afterWord_errorState
    · rename_i herror
      rw [if_neg herror, if_pos (Nat.not_le.1 hphrase)] at hne
      rw [if_pos (Nat.not_le.1 hphrase)] at h
      split at h
      · rename_i hlast
        exact isWord_of_mem_moves (List.mem_of_getLast? hlast) (.inl rfl) h
      · rename_i hlast
        exact isWord_of_mem_moves (List.mem_of_getLast? hlast) (.inr rfl) h
      · rename_i hlast
        rw [hlast] at hne
        exact absurd rfl hne
      · exact absurd h not_afterWord_errorState

end Grammar

/-! ## Words in the token automaton -/

/-- The states of the token automaton after a line end within a token. -/
def brokenStates : List Nat := [62, 64, 66, 104]

/-- The states of the token automaton after the end of a word. -/
def wordStates : List Nat :=
  [11, 31, 41, 81, 101, 111, 117, 120, 169, 170, 171, 172, 173, 174, 176, 177, 178, 179, 180, 181]

/-- The number of classes of characters. -/
def classCount : Nat := 75

theorem charClass_lt (c : Char) : charClass c < classCount := by
  have hascii : ∀ n < 128, (asciiClasses >>> (8 * n)) % 256 < classCount := by decide
  unfold charClass
  dsimp only
  split
  · exact hascii _ ‹_›
  · split
    · decide
    · split
      · decide
      · split <;> decide

/-- What a row of the token automaton says of a class of characters: twice one more than the state
that follows, and one more for blanks before a token. -/
def stepIn (row kind : Nat) : Nat := (row.shiftRight (Nat.add 24 (Nat.mul 12 kind))).mod 4096

/-- A token that may end in a state is no word, unless the state is one after a word. -/
def endFits (state code : Nat) : Bool :=
  code.beq 0 || !hasBit (setOf words) (code.sub 1) || hasBit (setOf wordStates) state

/-- A step on a class of characters leads to one of some states, if it leads anywhere. -/
def stepFits (states : List Nat) (row kind : Nat) : Bool :=
  (stepIn row kind).beq 0 || hasBit (setOf states) (((stepIn row kind).div 2).sub 1)

/-- No blanks are skipped on a class of characters. -/
def skipsNone (row kind : Nat) : Bool := ((stepIn row kind).mod 2).beq 0

/-- What is to be seen of a row of the token automaton: the tokens that end there fit, line ends, of
the class 3, break a token, what is broken stays so, and what goes on after a word is a word. -/
def tokenRowFits (state row : Nat) : Bool :=
  endFits state (row.mod 256) && endFits state ((row.shiftRight 8).mod 256) &&
    (!skipsNone row 3 || stepFits brokenStates row 3) &&
    (!hasBit (setOf brokenStates) state ||
      (List.range classCount).all fun kind => stepFits brokenStates row kind) &&
    (!hasBit (setOf wordStates) state ||
      (List.range classCount).all fun kind => stepFits wordStates row kind && skipsNone row kind)

/-- What a row of the token automaton that fits says. -/
structure TokenRowFits (state row : Nat) : Prop where
  ends : ∀ code, code = row % 256 ∨ code = (row >>> 8) % 256 → code ≠ 0 →
    isWord (code - 1) = true → state ∈ wordStates
  breaks : stepIn row 3 ≠ 0 → stepIn row 3 % 2 = 0 → stepIn row 3 / 2 - 1 ∈ brokenStates
  broken : state ∈ brokenStates → ∀ kind < classCount, stepIn row kind ≠ 0 →
    stepIn row kind / 2 - 1 ∈ brokenStates
  word : state ∈ wordStates → ∀ kind < classCount, stepIn row kind ≠ 0 →
    stepIn row kind / 2 - 1 ∈ wordStates ∧ stepIn row kind % 2 = 0

theorem mem_wordStates_of_endFits {state code : Nat} (h : endFits state code = true) (hne : code ≠ 0)
    (hword : isWord (code - 1) = true) : state ∈ wordStates := by
  have hzero : code.beq 0 = false := Bool.eq_false_iff.2 fun h => hne (Nat.eq_of_beq_eq_true h)
  have hset : hasBit (setOf words) (code.sub 1) = true := by
    rw [hasBit_setOf]
    exact hword
  rw [endFits, hzero, hset] at h
  exact hasBit_setOf_iff.1 h

theorem mem_of_stepFits {states : List Nat} {row kind : Nat} (h : stepFits states row kind = true)
    (hne : stepIn row kind ≠ 0) : stepIn row kind / 2 - 1 ∈ states := by
  have hzero : (stepIn row kind).beq 0 = false := Bool.eq_false_iff.2 fun h => hne (Nat.eq_of_beq_eq_true h)
  rw [stepFits, hzero] at h
  exact hasBit_setOf_iff.1 h

theorem TokenRowFits.of_tokenRowFits {state row : Nat} (h : tokenRowFits state row = true) :
    TokenRowFits state row := by
  unfold tokenRowFits at h
  simp only [Bool.and_eq_true, Bool.or_eq_true, Bool.not_eq_true', List.all_eq_true,
    List.mem_range] at h
  obtain ⟨⟨⟨⟨hend, hend'⟩, hbreaks⟩, hbroken⟩, hword⟩ := h
  refine ⟨fun code hcode => ?_, fun hne heven => ?_, fun hstate kind hkind => ?_,
    fun hstate kind hkind hne => ?_⟩
  · rcases hcode with rfl | rfl
    · exact mem_wordStates_of_endFits hend
    · exact mem_wordStates_of_endFits hend'
  · refine mem_of_stepFits (hbreaks.resolve_left fun hskips => ?_) hne
    exact Nat.ne_of_beq_eq_false hskips heven
  · have hset := hasBit_setOf_iff.2 hstate
    exact mem_of_stepFits (hbroken.resolve_left (by simp [hset]) kind hkind)
  · have hset := hasBit_setOf_iff.2 hstate
    obtain ⟨hstep, hskips⟩ := hword.resolve_left (by simp [hset]) kind hkind
    exact ⟨mem_of_stepFits hstep hne, Nat.eq_of_beq_eq_true hskips⟩

theorem tokenRowFits_tokenRow (state : Nat) : TokenRowFits state (tokenRow state) := by
  have htable : ∀ x ∈ tokenRows.zipIdx, ∀ y ∈ x.1.zipIdx,
      tokenRowFits (16 * x.2 + y.2) y.1 = true := by decide +kernel
  have hstep : ∀ kind, stepIn 0 kind = 0 := by
    intro kind
    show (0 >>> (24 + 12 * kind)) % 4096 = 0
    rw [Nat.zero_shiftRight]
  refine forall_shelved_zipIdx TokenRowFits
    (fun x hx y hy => .of_tokenRowFits (htable x hx y hy)) (fun state => ?_) state
  refine ⟨fun code hcode hne => absurd ?_ hne, fun hne => absurd (hstep 3) hne,
    fun _ kind _ hne => absurd (hstep kind) hne, fun _ kind _ hne => absurd (hstep kind) hne⟩
  rcases hcode with rfl | rfl <;> rfl

variable {state : Nat} {start : Cursor} {best : Option (Nat × Cursor)} {p : Position}
  {rest : List Char}

/-- A word that is complete starts and ends in one row, and no blanks are skipped after it. -/
def KeepsWord (state : Nat) (start : Cursor) (best : Option (Nat × Cursor)) : Prop :=
  ∀ y ∈ best, isWord y.1 = true → state ∈ wordStates ∧ start.pos.row = y.2.pos.row

theorem keepsWord_completed {code : Nat} (rest : List Char)
    (hrow : state ∈ brokenStates ∨ start.pos.row = p.row)
    (hbest : KeepsWord state start best)
    (hcode : code = tokenRow state % 256 ∨ code = (tokenRow state >>> 8) % 256) :
    KeepsWord state start (completed code best ⟨p, rest⟩) := by
  have hapart : ∀ state ∈ wordStates, state ∉ brokenStates := by decide
  unfold completed
  split
  · exact hbest
  · rename_i hne
    intro y hy hw
    obtain rfl := Option.some.inj hy
    have hstate := (tokenRowFits_tokenRow state).ends code hcode hne hw
    exact ⟨hstate, hrow.resolve_left (hapart state hstate)⟩

/-- What was read is in the row where the token started, unless a line end broke the token. -/
theorem row_eq_of_scanFrom (hrow : state ∈ brokenStates ∨ start.pos.row = p.row)
    (hbest : KeepsWord state start best) {symbol : Nat} {stop : Cursor}
    (h : (scanFrom state start best p rest).found = some (symbol, stop))
    (hw : isWord symbol = true) :
    (scanFrom state start best p rest).start.pos.row = stop.pos.row := by
  induction rest generalizing state start best p with
  | nil => exact (keepsWord_completed [] hrow hbest (.inr rfl) _ h hw).2
  | cons c cs ih =>
      have hbest' := keepsWord_completed (c :: cs) hrow hbest (.inl rfl)
      have hfits := tokenRowFits_tokenRow state
      unfold scanFrom at h ⊢
      dsimp only at h ⊢
      split at h
      · rename_i hstep
        rw [if_pos hstep]
        exact (hbest' _ h hw).2
      · rename_i hstep
        rw [if_neg hstep]
        have hkind := charClass_lt c
        change stepIn (tokenRow state) (charClass c) ≠ 0 at hstep
        refine ih ?_ (fun y hy hw => ?_) h
        · change stepIn (tokenRow state) (charClass c) / 2 - 1 ∈ brokenStates ∨ _
          split
          · exact .inr rfl
          · rename_i hodd
            have heven := (Nat.mod_two_eq_zero_or_one _).resolve_right hodd
            by_cases hbroken : state ∈ brokenStates
            · exact .inl (hfits.broken hbroken _ hkind hstep)
            · by_cases hc : c = '\n'
              · subst hc
                exact .inl (hfits.breaks hstep heven)
              · right
                rw [hrow.resolve_left hbroken, Position.next, if_neg hc]
        · obtain ⟨hstate, hsame⟩ := hbest' y hy hw
          obtain ⟨hnext, heven⟩ := hfits.word hstate _ hkind hstep
          have hodd : ¬ stepIn (tokenRow state) (charClass c) % 2 = 1 := by
            rw [heven]
            decide
          exact ⟨hnext, (congrArg (fun c : Cursor => c.pos.row) (if_neg hodd)).trans hsame⟩

/-- **A word starts and ends in one row.** -/
theorem row_eq_of_scan {c : Cursor} {symbol : Nat} {stop : Cursor}
    (h : (scan state c).found = some (symbol, stop)) (hw : isWord symbol = true) :
    (scan state c).start.pos.row = stop.pos.row :=
  row_eq_of_scanFrom (.inr rfl) (fun y hy => absurd hy (Option.not_mem_none y)) h hw

end CellScript.Python
