import CellScript.Proofs.Command.World
import CellScript.Proofs.Files.Tree

set_option autoImplicit false

/-! # Converting one document

A request to convert one document first comes to a text, by nothing but reading, and then puts it
out: `Ends` lists the ways in which this can end. So a failure before that leaves no trace, and a
success writes the one file that was asked for, or the output: `single_conversion`. The document is
not the file that is written, since the names of the two end differently
(`sourceFormat_eq_ok`). -/

namespace CellScript.Command

/-! ## Formats -/

theorem targetFormat_eq_ok {p : Path} {asked target : Option Format}
    (h : targetFormat (some p) asked = .ok target) : ∃ f, Format.ofPath? p = some f ∧ target = f := by
  unfold targetFormat outputFormat at h
  dsimp only at h
  cases hf : Format.ofPath? p with
  | none =>
      rw [hf] at h
      cases h
  | some f =>
      rw [hf] at h
      refine ⟨f, rfl, ?_⟩
      cases asked with
      | none => exact (Except.ok.inj h).symm
      | some t =>
          change (if t = f then _ else _) = _ at h
          split at h
          · next heq => exact heq ▸ (Except.ok.inj h).symm
          · cases h

/-- A file is converted from its own format, and to a file of the other format. -/
theorem sourceFormat_eq_ok {input : Path} {output : Option Path} {asked : Option Format}
    {source : Format} (h : sourceFormat (some input) output asked = .ok source) :
    Format.ofPath? input = some source ∧
      ∀ p, output = some p → ∃ f, Format.ofPath? p = some f ∧ f ≠ source := by
  unfold sourceFormat at h
  obtain ⟨target, htarget, h⟩ := bind_eq_ok.1 h
  cases hinput : Format.ofPath? input with
  | none =>
      simp only [hinput] at h
      cases h
  | some f =>
      simp only [hinput, pure_bind] at h
      cases target with
      | none =>
          obtain rfl := Except.ok.inj h
          refine ⟨rfl, fun p hp => ?_⟩
          subst hp
          obtain ⟨f', -, hf'⟩ := targetFormat_eq_ok htarget
          cases hf'
      | some t =>
          dsimp only at h
          split at h
          · cases h
          · next hne =>
              obtain rfl := Except.ok.inj h
              refine ⟨rfl, fun p hp => ?_⟩
              subst hp
              obtain ⟨f', hf', ht⟩ := targetFormat_eq_ok htarget
              exact ⟨f', hf', fun heq => hne ((Option.some.inj ht).trans heq)⟩

/-! ## Up to the text -/

section

variable {m : Type → Type} [Monad m]

/-- What is done up to the text that a document is converted to. -/
def readDocument (h : Host m) (r : Report) (o : ConvertOptions) (q : ConvertRequest) :
    ExceptT Failure m Text :=
  if q.input = ['-'] then do
    let source ← settle (sourceFormat none q.output q.target)
    let t ← orFail .standardInputUnread h.readInput
    convertText h r o source .standardInputNotConverted t
  else do
    let source ← settle (sourceFormat (some q.input) q.output q.target)
    match q.output with
    | some output => ExceptT.lift (log h r [.converting q.input output])
    | none => pure ()
    convertInput h r o source q.input

/-- What is done with that text. -/
def putOut (h : Host m) (r : Report) (output : Option Path) (t : Text) : ExceptT Failure m Unit :=
  match output with
  | some p => do
    writeFile h p t
    ExceptT.lift (printLine h r p)
  | none => ExceptT.lift (h.print t)

variable [LawfulMonad m] (h : Host m) (r : Report) (o : ConvertOptions) {q : ConvertRequest}

theorem convertStandardInput_eq (hin : q.input = ['-']) :
    convertStandardInput h r o q = readDocument h r o q >>= putOut h r q.output := by
  unfold readDocument convertStandardInput
  rw [if_pos hin]
  simp only [bind_assoc]
  cases q.output <;> rfl

theorem convertFile_eq (hin : q.input ≠ ['-']) :
    convertFile h r o q = readDocument h r o q >>= putOut h r q.output := by
  unfold readDocument convertFile
  rw [if_neg hin]
  cases q.output with
  | none =>
      simp only [bind_assoc]
      rfl
  | some p =>
      simp only [convertTo, bind_assoc]
      rfl

end

section

variable {w : World} {q : ConvertRequest} {o : ConvertOptions}

theorem observes_readDocument (w : World) (r : Report) (o : ConvertOptions) (q : ConvertRequest) :
    Observes (readDocument World.host r o q) w (w.conversionWith q o) := by
  unfold readDocument World.conversionWith
  split
  · refine (observes_settle _ w).bind fun source es _ => ?_
    refine (observes_orFail _ rfl).bind fun t es' _ => ?_
    exact observes_convertText _ r o source _ t
  · refine (observes_settle _ w).bind fun source es _ => ?_
    cases q.output with
    | none => exact observes_convertInput (w.logged es) r o source q.input
    | some p =>
        have hlog : Observes (ExceptT.lift (log World.host r [.converting q.input p]))
            (w.logged es) (.ok ()) := ⟨_, comes_log _ r _⟩
        exact Observes.bind (g := fun _ => w.fileConversion o source q.input) hlog fun _ es' _ =>
          observes_convertInput ((w.logged es).logged es') r o source q.input

/-- A document is read and converted, and the text is put out. -/
theorem comes_convertWith {rep : Report} {r : Except Failure Unit} {w' : World}
    (hsingle : q.input = ['-'] ∨ ∃ c, w.entry? q.input = some (.file c))
    (hc : Comes (readDocument World.host rep o q >>= putOut World.host rep q.output) w r w') :
    Comes (convertWith World.host rep q o) w r w' := by
  unfold convertWith
  split
  · next hin => exact convertStandardInput_eq World.host rep o hin ▸ hc
  · next hin =>
      obtain ⟨c, hfile⟩ := hsingle.resolve_left hin
      have hrun := run_isFile w q.input
      rw [hfile] at hrun
      exact (comes_lift hrun).bind (convertFile_eq World.host rep o hin ▸ hc)

end

/-! ## How it ends -/

/-- How a request to convert one document ends: it is refused before anything is written, its text
is put out, its text is in a file, or the file was not written. -/
inductive Ends (w : World) (q : ConvertRequest) (quiet : Bool) :
    Except Failure Unit → World → Prop where
  | refused (e : Failure) (es : List Event) (h : w.conversion q = .error e) :
    Ends w q quiet (.error e) (w.logged es)
  | printed (t : Text) (es : List Event) (h : w.conversion q = .ok t) (hq : q.output = none) :
    Ends w q quiet (.ok ()) ((w.logged es).printed t)
  | written (t : Text) (p : Path) (es : List Event) (fs : FileSystem)
    (h : w.conversion q = .ok t) (hq : q.output = some p) (hd : w.files.Delivers w.cwd p t fs) :
    Ends w q quiet (.ok ()) (((w.logged es).withFiles fs).printed (resultLine quiet p))
  | unwritten (t : Text) (p : Path) (e : Failure) (es : List Event) (fs : FileSystem)
    (h : w.conversion q = .ok t) (hq : q.output = some p) (he : Unwritten p e)
    (hn : ¬ w.files.Takes w.cwd p) (ha : FileSystem.AddsDirectories w.cwd p w.files fs) :
    Ends w q quiet (.error e) ((w.logged es).withFiles fs)

section

variable {w : World} {q : ConvertRequest} {args : List Text} {a : Arguments}

theorem ends_putOut {t : Text} (rep : Report) (es : List Event) (h : w.conversion q = .ok t) :
    ∃ r w', Comes (putOut World.host rep q.output t) (w.logged es) r w' ∧
      Ends w q rep.quiet r w' := by
  cases hq : q.output with
  | none => exact ⟨_, _, comes_lift rfl, .printed t es h hq⟩
  | some p =>
      obtain ⟨r, fs, hwrite, hwrites⟩ := comes_writeFile (w.logged es) p t
      cases hwrites with
      | done _ hd =>
          exact ⟨_, _, hwrite.bind (comes_lift (run_printLine _ rep p)), .written t p es fs h hq hd⟩
      | failed e _ he hn ha =>
          exact ⟨_, _, hwrite.bind_error, .unwritten t p e es fs h hq he hn ha⟩

/-- Every request to convert one document ends in one of these ways. -/
theorem run_single (hargs : Arguments.parse args = .ok a) (hreq : a.request = .convert q)
    (hsingle : q.input = ['-'] ∨ ∃ c, w.entry? q.input = some (.file c)) :
    ∃ r w', (run World.host args).run w = (exitStatus r, w'.reported (lastWords r)) ∧
      Ends w q a.quiet r w' := by
  cases ho : w.options q with
  | error e =>
      obtain ⟨es, hrun⟩ := run_of_refused hargs hreq ho
      exact ⟨.error e, _, hrun, .refused e es (by rw [World.conversion, ho]; rfl)⟩
  | ok o =>
      obtain ⟨es, hrun⟩ := run_of_settled hargs hreq ho
      have hconv : w.conversion q = (w.logged es).conversionWith q o := by
        rw [World.conversion, ho]
        rfl
      obtain ⟨es', hread⟩ := observes_readDocument (w.logged es) a.report o q
      rw [World.logged_logged, ← hconv] at hread
      cases ht : w.conversion q with
      | error e =>
          rw [ht] at hread
          exact ⟨_, _, hrun _ _ (comes_convertWith hsingle hread.bind_error), .refused e _ ht⟩
      | ok t =>
          rw [ht] at hread
          obtain ⟨r, w', hput, hends⟩ := ends_putOut a.report (es ++ es') ht
          exact ⟨r, w', hrun _ _ (comes_convertWith hsingle (hread.bind hput)), hends⟩

theorem formats_of_conversion {t : Text} {p : Path} (h : w.conversion q = .ok t)
    (hin : q.input ≠ ['-']) (hq : q.output = some p) :
    ∃ f f', Format.ofPath? q.input = some f ∧ Format.ofPath? p = some f' ∧ f' ≠ f := by
  obtain ⟨o, -, h⟩ := bind_eq_ok.1 h
  rw [World.conversionWith, if_neg hin] at h
  obtain ⟨source, hsource, -⟩ := bind_eq_ok.1 h
  obtain ⟨hinput, houtput⟩ := sourceFormat_eq_ok hsource
  obtain ⟨f', hf', hne⟩ := houtput p hq
  exact ⟨source, f', hinput, hf', hne⟩

/-- The document stays as it is, however it ends. -/
theorem Ends.keeps_input {quiet : Bool} {r : Except Failure Unit} {w' : World}
    (h : Ends w q quiet r w') (hin : q.input ≠ ['-']) {c : Content}
    (hc : w.entry? q.input = some (.file c)) : w'.entry? q.input = some (.file c) := by
  cases h with
  | refused e es h => exact hc
  | printed t es h hq => exact hc
  | written t p es fs h hq hd =>
      obtain ⟨f, f', hf, hf', hne⟩ := formats_of_conversion h hin hq
      obtain ⟨names, hr, hget⟩ := FileSystem.entry?_eq_some_iff.1 hc
      refine FileSystem.entry?_eq_some_iff.2 ⟨names, hd.kept.resolve hr, hd.get?_eq hget ?_⟩
      intro hr'
      exact hne ((hasFormat_of_resolve hr' hf').unique (hasFormat_of_resolve hr hf))
  | unwritten t p e es fs h hq he hn ha =>
      obtain ⟨names, hr, hget⟩ := FileSystem.entry?_eq_some_iff.1 hc
      exact FileSystem.entry?_eq_some_iff.2
        ⟨names, ha.keepsDirectories.resolve hr, ha.get?_eq hget⟩

/-- Converting one document: if it fails before anything is written, nothing is changed or put out;
otherwise the text is put out, or it is in the one file that was asked for, unless that could not be
written. The document itself stays as it is. -/
theorem single_conversion {code : Nat} {w' : World} (hargs : Arguments.parse args = .ok a)
    (hreq : a.request = .convert q)
    (hsingle : q.input = ['-'] ∨ ∃ c, w.entry? q.input = some (.file c))
    (hrun : (run World.host args).run w = (code, w')) :
    (∀ e, w.conversion q = .error e →
      code = 1 ∧ w'.files = w.files ∧ w'.output = w.output) ∧
    (∀ t, w.conversion q = .ok t → q.output = none →
      code = 0 ∧ w'.files = w.files ∧ w'.output = w.output ++ t) ∧
    (∀ t p, w.conversion q = .ok t → q.output = some p →
      code = 0 ∧ w.files.Delivers w.cwd p t w'.files ∧
          w'.output = w.output ++ resultLine a.quiet p ∨
        code = 1 ∧ ¬ w.files.Takes w.cwd p ∧
          FileSystem.AddsDirectories w.cwd p w.files w'.files ∧ w'.output = w.output) ∧
    ∀ c, q.input ≠ ['-'] → w.entry? q.input = some (.file c) →
      w'.entry? q.input = some (.file c) := by
  obtain ⟨r, w₁, hrun', hends⟩ := run_single hargs hreq hsingle
  rw [hrun', Prod.mk.injEq] at hrun
  obtain ⟨rfl, rfl⟩ := hrun
  refine ⟨fun e he => ?_, fun t ht hnone => ?_, fun t p ht hsome => ?_,
    fun c hin hc => hends.keeps_input hin hc⟩
  · cases hends with
    | refused e' es h => exact ⟨rfl, rfl, rfl⟩
    | printed t es h hq => cases he.symm.trans h
    | written t p es fs h hq hd => cases he.symm.trans h
    | unwritten t p e' es fs h hq hu hn ha => cases he.symm.trans h
  · cases hends with
    | refused e' es h => cases ht.symm.trans h
    | printed t' es h hq =>
        obtain rfl := Except.ok.inj (ht.symm.trans h)
        exact ⟨rfl, rfl, rfl⟩
    | written t' p es fs h hq hd => cases hnone.symm.trans hq
    | unwritten t' p e' es fs h hq hu hn ha => cases hnone.symm.trans hq
  · cases hends with
    | refused e' es h => cases ht.symm.trans h
    | printed t' es h hq => cases hsome.symm.trans hq
    | written t' p' es fs h hq hd =>
        obtain rfl := Except.ok.inj (ht.symm.trans h)
        obtain rfl := Option.some.inj (hsome.symm.trans hq)
        exact .inl ⟨rfl, hd, rfl⟩
    | unwritten t' p' e' es fs h hq hu hn ha =>
        obtain rfl := Option.some.inj (hsome.symm.trans hq)
        exact .inr ⟨rfl, hn, ha, rfl⟩

end

/-- A notebook of one cell. -/
def greeting : Text :=
  "\x7b\"cells\":[\x7b\"cell_type\":\"markdown\",\"metadata\":\x7b\x7d,\"source\":\"Hello\"\x7d],\"metadata\":\x7b\x7d,\"nbformat\":4,\"nbformat_minor\":5\x7d".toList

/-- The script of that notebook. -/
def greetingScript : Text :=
  "import herzog\n\nwith herzog.Cell(\"markdown\"):\n    \"\"\"\n    Hello\n    \"\"\"\n".toList

/-- A working directory with a notebook. -/
def desk : World := { files := [(["a.ipynb".toList], .file (.text greeting))] }

/-- The request to convert that notebook to a script. -/
def deskRequest : ConvertRequest := { input := "a.ipynb".toList, output := some "a.py".toList }

/-- The arguments for that request. -/
def deskArgs : List Text := ["convert".toList, "a.ipynb".toList, "-o".toList, "a.py".toList]

theorem single_conversion_desk :
    ((run World.host deskArgs).run desk).1 = 0 ∧
      desk.files.Delivers [] "a.py".toList greetingScript
        ((run World.host deskArgs).run desk).2.files ∧
      ((run World.host deskArgs).run desk).2.output = "a.py\n".toList ∧
      World.entry? ((run World.host deskArgs).run desk).2 "a.ipynb".toList =
        some (.file (.text greeting)) := by
  have hargs : Arguments.parse deskArgs = .ok ⟨.convert deskRequest, false, false⟩ := rfl
  have hfile : desk.entry? deskRequest.input = some (.file (.text greeting)) := by decide +kernel
  have hconv : desk.conversion deskRequest = .ok greetingScript := by
    have h : (desk.conversion deskRequest).toOption = some greetingScript := by decide +kernel
    cases ht : desk.conversion deskRequest with
    | error e =>
        rw [ht] at h
        cases h
    | ok t =>
        rw [ht] at h
        exact congrArg Except.ok (Option.some.inj h)
  have htakes : desk.files.Takes desk.cwd "a.py".toList := by
    refine ⟨fun dir hdir => .inl ?_, ["a.py".toList], rfl, by decide⟩
    exact (Option.some.inj (hdir.symm.trans (show _ = some [] from rfl)))
  cases hrun : (run World.host deskArgs).run desk with | mk code w' =>
  obtain ⟨-, -, hwritten, hinput⟩ := single_conversion hargs rfl (.inr ⟨_, hfile⟩) hrun
  have hinput := hinput _ (by decide) hfile
  rcases hwritten _ _ hconv rfl with ⟨hcode, hd, hout⟩ | ⟨-, hn, -⟩
  · exact ⟨hcode, hd, hout, hinput⟩
  · exact absurd htakes hn

end CellScript.Command
