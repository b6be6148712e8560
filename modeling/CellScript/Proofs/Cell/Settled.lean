import CellScript.Proofs.Cell.Normal
import CellScript.Proofs.Except

set_option autoImplicit false

/-! # Cells that are read are in normal form

What a block of a script gives is `Settled`: its normal form is the cell itself, and joining its
lines and cutting them again gives the same lines. `settled_of_cell` is the claim for a whole block;
code goes by the lines that are kept, prose by the lines between the quotes. -/

namespace CellScript

/-- A line is empty or has something to show. -/
def IsFilled (t : Text) : Prop := t = [] ∨ Text.isBlank t = false

/-- A line with something to show, or an empty one, without a line end in it. -/
structure TidyText (t : Text) : Prop where
  filled : IsFilled t
  noFeed : '\n' ∉ t
  noReturn : '\r' ∉ t

/-- A cell that a script and a notebook can hold as it is. -/
structure Cell.Settled (c : Cell) : Prop where
  normal : c.normal = c
  lines : ∀ t ∈ c.content, '\n' ∉ t ∧ '\r' ∉ t
  last : c.content.getLast? ≠ some []

/-! ## Ends -/

theorem mem_of_mem_dropEmptyEnd {ts : List Text} {t : Text} (h : t ∈ dropEmptyEnd ts) : t ∈ ts :=
  (List.rdropWhile_prefix _ _).subset h

theorem mem_of_mem_dropBlankEnds {ts : List Text} {t : Text} (h : t ∈ dropBlankEnds ts) : t ∈ ts :=
  (List.rdropWhile_prefix _ _).subset ((List.dropWhile_suffix _).subset h)

theorem not_of_head?_dropWhile {α : Type} {p : α → Bool} {l : List α} {x : α}
    (h : (l.dropWhile p).head? = some x) : p x = false := by
  have hx := List.head?_dropWhile_not p l
  rwa [h] at hx

theorem not_of_getLast?_rdropWhile {α : Type} {p : α → Bool} {l : List α} {x : α}
    (h : (l.rdropWhile p).getLast? = some x) : p x = false := by
  rw [List.rdropWhile, List.getLast?_reverse] at h
  exact not_of_head?_dropWhile h

theorem getLast?_dropEmptyEnd (ts : List Text) : (dropEmptyEnd ts).getLast? ≠ some [] := by
  intro h
  cases not_of_getLast?_rdropWhile h

theorem getLast?_dropBlankEnds {ts : List Text} {t : Text}
    (h : (dropBlankEnds ts).getLast? = some t) : Text.isBlank t = false := by
  obtain ⟨us, hus⟩ := List.getLast?_eq_some_iff.1 h
  obtain ⟨front, hfront⟩ := List.dropWhile_suffix (l := ts.rdropWhile Text.isBlank) Text.isBlank
  rw [← dropBlankEnds_eq, hus, ← List.append_assoc] at hfront
  exact not_of_getLast?_rdropWhile (List.getLast?_eq_some_iff.2 ⟨_, hfront.symm⟩)

theorem dropBlankEnds_dropBlankEnds (ts : List Text) :
    dropBlankEnds (dropBlankEnds ts) = dropBlankEnds ts := by
  have hend : (dropBlankEnds ts).rdropWhile Text.isBlank = dropBlankEnds ts := by
    rw [List.rdropWhile_eq_self_iff]
    intro hne hblank
    have hlast := getLast?_dropBlankEnds (List.getLast?_eq_some_getLast hne)
    rw [hblank] at hlast
    cases hlast
  rw [dropBlankEnds_eq (dropBlankEnds ts), hend, dropBlankEnds_eq, List.dropWhile_idempotent]

theorem dropEmptyEnd_dropEmptyEnd (ts : List Text) :
    dropEmptyEnd (dropEmptyEnd ts) = dropEmptyEnd ts :=
  List.rdropWhile_idempotent _ ts

theorem map_tidyLine_eq_self {ts : List Text} (h : ∀ t ∈ ts, TidyText t) :
    ts.map tidyLine = ts := by
  rw [List.map_congr_left (g := id), List.map_id]
  exact fun t ht => tidyLine_eq_self (h t ht).filled (h t ht).noReturn

/-! ## Code -/

theorem unescapeLine_cases (t : Text) :
    unescapeLine t = t ∨
      ∃ c u, (c = '!' ∨ c = '%') ∧ t = '#' :: c :: u ∧ unescapeLine t = c :: u := by
  unfold unescapeLine
  split
  · exact .inr ⟨_, _, .inl rfl, rfl, rfl⟩
  · exact .inr ⟨_, _, .inr rfl, rfl, rfl⟩
  · exact .inl rfl

/-- A line that was kept is kept as it is. -/
theorem keptLine?_of_kept {t u : Text} (h : keptLine? t = some u) : keptLine? u = some u := by
  have hne : Text.trimEnd t ≠ placeholder := by
    intro hp
    rw [keptLine?, if_pos hp] at h
    cases h
  rw [keptLine?, if_neg hne, Option.some.injEq] at h
  -- a line that got back its own form begins like no placeholder
  rcases unescapeLine_cases t with ht | ⟨c, v, hc, -, ht⟩
  · rw [ht] at h
    rw [← h, keptLine?, if_neg hne, ht]
  · rw [ht] at h
    rw [← h]
    rcases hc with rfl | rfl
    · exact keptLine?_of_head (by decide) (by decide) v
    · exact keptLine?_of_head (by decide) (by decide) v

theorem mem_of_kept {t u : Text} (h : keptLine? t = some u) {c : Char} (hc : c ∈ u) : c ∈ t := by
  unfold keptLine? at h
  split at h
  · cases h
  · obtain rfl := Option.some.inj h
    rcases unescapeLine_cases t with hu | ⟨d, v, -, rfl, hu⟩
    · rwa [hu] at hc
    · rw [hu] at hc
      exact List.mem_cons_of_mem _ hc

theorem IsFilled.of_kept {t u : Text} (ht : IsFilled t) (h : keptLine? t = some u) :
    IsFilled u := by
  unfold keptLine? at h
  split at h
  · cases h
  · obtain rfl := Option.some.inj h
    rcases unescapeLine_cases t with hu | ⟨c, v, hc, -, hu⟩
    · rwa [hu]
    · rw [hu]
      refine .inr ?_
      rcases hc with rfl | rfl <;> rfl

theorem TidyText.of_kept {t u : Text} (ht : TidyText t) (h : keptLine? t = some u) :
    TidyText u :=
  ⟨ht.filled.of_kept h, fun hn => ht.noFeed (mem_of_kept h hn),
    fun hr => ht.noReturn (mem_of_kept h hr)⟩

theorem normalCode_eq_self {ts : List Text} (htidy : ∀ t ∈ ts, TidyText t)
    (hkept : ∀ t ∈ ts, keptLine? t = some t) : normalCode (dropEmptyEnd ts) = dropEmptyEnd ts := by
  have hfilter : (dropEmptyEnd ts).filterMap keptLine? = dropEmptyEnd ts := by
    rw [List.filterMap_congr (g := some), List.filterMap_some]
    exact fun t ht => hkept t (mem_of_mem_dropEmptyEnd ht)
  rw [normalCode, map_tidyLine_eq_self fun t ht => htidy t (mem_of_mem_dropEmptyEnd ht), hfilter,
    dropEmptyEnd_dropEmptyEnd]

/-- Dedented lines are filled, with characters of the rows they come from. -/
theorem filled_of_dedents {indent : Nat} {rs us : List Text}
    (h : List.Forall₂ (Dedents indent) rs us) {u : Text} (hu : u ∈ us) :
    IsFilled u ∧ ∃ r ∈ rs, ∀ c ∈ u, c ∈ r := by
  obtain ⟨r, hr, hd⟩ := exists_of_forall₂ h hu
  exact ⟨hd.eq_nil_or, r, hr, fun _ => hd.mem⟩

theorem tidyText_of_dedents {indent : Nat} {rs us : List Text}
    (h : List.Forall₂ (Dedents indent) rs us) (hrs : ∀ r ∈ rs, '\n' ∉ r ∧ '\r' ∉ r) :
    ∀ u ∈ us, TidyText u := by
  intro u hu
  obtain ⟨hfilled, r, hr, hc⟩ := filled_of_dedents h hu
  exact ⟨hfilled, fun hn => (hrs r hr).1 (hc _ hn), fun hret => (hrs r hr).2 (hc _ hret)⟩

/-- Code that is read from lines without line ends is settled. -/
theorem settled_of_codeLines {indent : Nat} {rs : List (Nat × Text)} {ts : List Text}
    (hrs : ∀ r ∈ rs.map Prod.snd, '\n' ∉ r ∧ '\r' ∉ r) (h : codeLines indent rs = .ok ts) :
    Cell.Settled ⟨.executable, dropEmptyEnd ts⟩ := by
  obtain ⟨us, hus, rfl⟩ := codeLines_eq_ok_iff.1 h
  have htidy : ∀ t ∈ us.filterMap keptLine?, TidyText t := by
    intro t ht
    obtain ⟨u, hu, hk⟩ := List.mem_filterMap.1 ht
    exact (tidyText_of_dedents hus hrs u hu).of_kept hk
  have hnormal : normalCode (dropEmptyEnd (us.filterMap keptLine?)) =
      dropEmptyEnd (us.filterMap keptLine?) := by
    refine normalCode_eq_self htidy fun t ht => ?_
    obtain ⟨u, -, hk⟩ := List.mem_filterMap.1 ht
    exact keptLine?_of_kept hk
  refine ⟨congrArg (Cell.mk .executable) hnormal, fun t ht => ?_, getLast?_dropEmptyEnd _⟩
  have ht := htidy t (mem_of_mem_dropEmptyEnd ht)
  exact ⟨ht.noFeed, ht.noReturn⟩

/-! ## Prose -/

/-- Taking the quotes off a literal cuts its first row at the front and its last row at the end. -/
theorem stripQuotes?_eq_some {first : Text} {rest ts : List Text} {decode : Bool}
    (h : stripQuotes? (first :: rest) = some (ts, decode)) :
    ∃ x front u quote, (∀ c ∈ x, c ∈ first) ∧ x :: rest = front ++ [u ++ quote] ∧
      ts = front ++ [u] := by
  obtain ⟨pre, quote, x, front, u, hopens, hrows, rfl, -⟩ := stripQuotes?_eq_some_iff.1 h
  refine ⟨x, front, u, quote, fun c hc => ?_, hrows, rfl⟩
  rw [hopens.text]
  exact List.mem_append_right _ (List.mem_append_right _ hc)

/-- What stands between the quotes of a literal stands in its rows. -/
theorem mem_of_stripQuotes? {first : Text} {rest ts : List Text} {decode : Bool}
    (h : stripQuotes? (first :: rest) = some (ts, decode)) {t : Text} (ht : t ∈ ts) :
    ∃ r ∈ first :: rest, ∀ c ∈ t, c ∈ r := by
  obtain ⟨x, front, u, quote, hx, hrows, rfl⟩ := stripQuotes?_eq_some h
  have hrow : ∀ r ∈ x :: rest, ∃ r' ∈ first :: rest, ∀ c ∈ r, c ∈ r' := by
    intro r hr
    rcases List.mem_cons.1 hr with rfl | hr
    · exact ⟨first, List.mem_cons_self, hx⟩
    · exact ⟨r, List.mem_cons_of_mem _ hr, fun _ => id⟩
  rcases List.mem_append.1 ht with ht | ht
  · exact hrow t (hrows ▸ List.mem_append_left _ ht)
  · obtain ⟨r, hr, hc⟩ := hrow (u ++ quote) (hrows ▸ List.mem_append_right _ List.mem_cons_self)
    rw [List.mem_singleton.1 ht]
    exact ⟨r, hr, fun c hu => hc c (List.mem_append_left _ hu)⟩

/-- Blank lines that are not empty stand only at the ends. -/
def FilledInside (ts : List Text) : Prop :=
  ∃ before inside after, ts = before ++ inside ++ after ∧ (∀ t ∈ before, Text.isBlank t = true) ∧
    (∀ t ∈ after, Text.isBlank t = true) ∧ ∀ t ∈ inside, IsFilled t

theorem filled_or_blank (t : Text) :
    ∃ filled blank, [t] = filled ++ blank ∧ [t] = blank ++ filled ∧
      (∀ u ∈ filled, IsFilled u) ∧ ∀ u ∈ blank, Text.isBlank u = true := by
  cases h : Text.isBlank t with
  | true => exact ⟨[], [t], rfl, rfl, by simp, by simpa using h⟩
  | false => exact ⟨[t], [], rfl, rfl, by simpa using .inr h, by simp⟩

theorem filledInside_singleton (u : Text) : FilledInside [u] := by
  obtain ⟨filled, blank, hu, -, hf, hb⟩ := filled_or_blank u
  exact ⟨[], filled, blank, hu, by simp, hb, hf⟩

theorem filledInside_cons_append {x u : Text} {inside : List Text}
    (h : ∀ t ∈ inside, IsFilled t) : FilledInside (x :: (inside ++ [u])) := by
  obtain ⟨filledX, blankX, -, hx, hfx, hbx⟩ := filled_or_blank x
  obtain ⟨filledU, blankU, hu, -, hfu, hbu⟩ := filled_or_blank u
  refine ⟨blankX, filledX ++ inside ++ filledU, blankU, ?_, hbx, hbu, ?_⟩
  · rw [← List.singleton_append, hx, hu]
    simp only [List.append_assoc]
  · intro t ht
    rcases List.mem_append.1 ht with ht | ht
    · rcases List.mem_append.1 ht with ht | ht
      · exact hfx t ht
      · exact h t ht
    · exact hfu t ht

theorem filledInside_of_stripQuotes? {first : Text} {rest ts : List Text} {decode : Bool}
    (h : stripQuotes? (first :: rest) = some (ts, decode)) (hrest : ∀ t ∈ rest, IsFilled t) :
    FilledInside ts := by
  obtain ⟨x, front, u, quote, -, hrows, rfl⟩ := stripQuotes?_eq_some h
  cases front with
  | nil => exact filledInside_singleton u
  | cons y inside =>
      obtain ⟨-, rfl⟩ := List.cons.inj hrows
      exact filledInside_cons_append fun t ht => hrest t (List.mem_append_left _ ht)

theorem FilledInside.dropBlankEnds {ts : List Text} (h : FilledInside ts) :
    ∀ t ∈ dropBlankEnds ts, IsFilled t := by
  obtain ⟨before, inside, after, rfl, hbefore, hafter, hinside⟩ := h
  intro t ht
  rw [dropBlankEnds_append hbefore hafter] at ht
  exact hinside t (mem_of_mem_dropBlankEnds ht)

theorem FilledInside.map_decodeProse {ts : List Text} (h : FilledInside ts) :
    FilledInside (ts.map decodeProse) := by
  obtain ⟨before, inside, after, rfl, hbefore, hafter, hinside⟩ := h
  refine ⟨before.map decodeProse, inside.map decodeProse, after.map decodeProse, by simp, ?_, ?_,
    ?_⟩
  · simpa using hbefore
  · simpa using hafter
  · intro t ht
    obtain ⟨u, hu, rfl⟩ := List.mem_map.1 ht
    rcases hinside u hu with rfl | hu
    · exact .inl rfl
    · exact .inr (by rwa [isBlank_decodeProse])

theorem normalProse_eq_self {ts : List Text} (h : ∀ t ∈ dropBlankEnds ts, TidyText t) :
    normalProse (dropBlankEnds ts) = dropBlankEnds ts := by
  rw [normalProse, map_tidyLine_eq_self h, dropBlankEnds_dropBlankEnds]

theorem settled_of_filledInside {ts : List Text} (hfilled : FilledInside ts)
    (hends : ∀ t ∈ ts, '\n' ∉ t ∧ '\r' ∉ t) : Cell.Settled ⟨.prose, dropBlankEnds ts⟩ := by
  have htidy : ∀ t ∈ dropBlankEnds ts, TidyText t := by
    intro t ht
    obtain ⟨hn, hret⟩ := hends t (mem_of_mem_dropBlankEnds ht)
    exact ⟨hfilled.dropBlankEnds t ht, hn, hret⟩
  refine ⟨congrArg (Cell.mk .prose) (normalProse_eq_self htidy), ?_, ?_⟩
  · exact fun t ht => hends t (mem_of_mem_dropBlankEnds ht)
  · intro hlast
    cases getLast?_dropBlankEnds hlast

theorem not_mem_decodeProse {t : Text} (h : '\n' ∉ t ∧ '\r' ∉ t) :
    '\n' ∉ decodeProse t ∧ '\r' ∉ decodeProse t :=
  ⟨fun hn => h.1 (mem_of_mem_decodeProse hn), fun hret => h.2 (mem_of_mem_decodeProse hret)⟩

/-- Lines between quotes are settled once their blank ends are gone, decoded or not. -/
theorem settled_of_stripped {ts : List Text} (decode : Bool) (hfilled : FilledInside ts)
    (hends : ∀ t ∈ ts, '\n' ∉ t ∧ '\r' ∉ t) :
    Cell.Settled ⟨.prose, dropBlankEnds (if decode then ts.map decodeProse else ts)⟩ := by
  cases decode with
  | false => exact settled_of_filledInside hfilled hends
  | true =>
      refine settled_of_filledInside hfilled.map_decodeProse fun t ht => ?_
      obtain ⟨u, hu, rfl⟩ := List.mem_map.1 ht
      exact not_mem_decodeProse (hends u hu)

/-- Prose is what is left of lines between quotes without its blank ends. Only the first row is not
dedented, and it ends up at the front. -/
theorem exists_stripped_of_proseLines {header indent line : Nat} {rows content : List Text}
    (h : proseLines header indent line rows = .ok content) :
    ∃ (ts : List Text) (decode : Bool), FilledInside ts ∧ (∀ t ∈ ts, ∃ r ∈ rows, ∀ c ∈ t, c ∈ r) ∧
      content = dropBlankEnds (if decode then ts.map decodeProse else ts) := by
  cases rows with
  | nil => cases h
  | cons first rest =>
      obtain ⟨us, ts, decode, hus, hstrip, rfl⟩ := proseLines_eq_ok_iff.1 h
      refine ⟨ts, decode, ?_, fun t ht => ?_, rfl⟩
      · exact filledInside_of_stripQuotes? hstrip fun t ht => (filled_of_dedents hus ht).1
      · obtain ⟨u, hu, hc⟩ := mem_of_stripQuotes? hstrip ht
        rcases List.mem_cons.1 hu with rfl | hu
        · exact ⟨u, List.mem_cons_self, hc⟩
        · obtain ⟨-, r, hr, hd⟩ := filled_of_dedents hus hu
          exact ⟨r, List.mem_cons_of_mem _ hr, fun c ht => hd c (hc c ht)⟩

/-- Prose that is read from rows without line ends is settled. -/
theorem settled_of_proseLines {header indent line : Nat} {rows content : List Text}
    (hrows : ∀ r ∈ rows, '\n' ∉ r ∧ '\r' ∉ r)
    (h : proseLines header indent line rows = .ok content) : Cell.Settled ⟨.prose, content⟩ := by
  obtain ⟨ts, decode, hfilled, hts, rfl⟩ := exists_stripped_of_proseLines h
  refine settled_of_stripped decode hfilled fun t ht => ?_
  obtain ⟨r, hr, hc⟩ := hts t ht
  exact ⟨fun hn => (hrows r hr).1 (hc _ hn), fun hret => (hrows r hr).2 (hc _ hret)⟩

/-! ## Blocks -/

theorem not_mem_of_mem_rowsOf {source : Text} {s : Span} (h : Text.returnsClosed source = true) :
    ∀ r ∈ (s.rowsOf (Text.physicalLines source)).map Prod.snd, '\n' ∉ r ∧ '\r' ∉ r := by
  have hclosed : Text.returnsClosed (source ++ ['\n']) = true := by
    simpa using Text.returnsClosed_take h source.length
  exact s.forall_rowsOf ⟨by simp, by simp⟩ fun _ => Text.not_mem_of_mem_physicalLines hclosed

/-- What a block of a script gives is settled, if the script has line ends of its own only. -/
theorem settled_of_cell {source : Text} {b : Block} {c : Cell}
    (hsource : Text.returnsClosed source = true)
    (h : b.cell source (Text.physicalLines source) = .ok c) (hk : c.kind ≠ .sandbox) :
    c.Settled := by
  rw [Block.cell] at h
  split at h
  · cases h
  · split at h
    · obtain ⟨ts, hts, rfl⟩ := map_eq_ok.1 h
      exact settled_of_codeLines (not_mem_of_mem_rowsOf hsource) hts
    · obtain ⟨content, hcontent, rfl⟩ := map_eq_ok.1 h
      rw [proseContent] at hcontent
      split at hcontent
      · cases hcontent
      · refine settled_of_proseLines (fun r hr => ?_) hcontent
        exact Text.not_mem_of_mem_physicalLines
          (Text.returnsClosed_take (Text.returnsClosed_drop hsource _) _) hr
    · obtain rfl := Except.ok.inj h
      exact absurd rfl hk

end CellScript
