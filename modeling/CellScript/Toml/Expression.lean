import CellScript.Toml.Token

set_option autoImplicit false

/-! # Expressions of TOML

A document is a list of expressions: headers of tables, and keys with values. Their names and
scalars are kept as written, in `Piece`s; a piece that is looked for and missing is an empty one.
`expressions` puts the tokens of a text together and stops at the first that fits nowhere. -/

namespace CellScript.Toml

/-- A name or a scalar as it is written; with the way it is quoted, if it is. -/
structure Piece where
  quote : Option Quote
  text : Text
  start : Nat
deriving DecidableEq, Repr

/-- The stretch of a piece. -/
def Piece.span (p : Piece) : Stretch := ⟨p.start, p.start + p.text.length⟩

/-- A value as it is written. -/
inductive Written where
  | scalar (p : Piece)
  | list (vs : List Written) (span : Stretch)
  | inline (entries : List (List Piece × Written)) (span : Stretch)
deriving Repr

/-- An expression. -/
inductive Expression where
  /-- The header of a table, or of the next table of a list. -/
  | header (isList : Bool) (key : List Piece) (span : Stretch)
  /-- A key with its value. -/
  | entry (key : List Piece) (value : Written)
deriving Repr

/-- Stop with a fault. -/
def failAt {α : Type} (f : Fault) (s : Stretch) : Except Error α := .error ⟨f, s⟩

/-- The place before the next token; `stop` is the end of the text. -/
def placeOf (stop : Nat) : List Token → Stretch
  | [] => ⟨stop, stop⟩
  | t :: _ => t.before

/-- Drop blanks. -/
def skipBlanks (ts : List Token) : List Token := ts.dropWhile fun t => t.kind = .space

/-- Whether a character may stand in a comment. -/
def isCommentChar (c : Char) : Bool := c = '\t' || (0x20 ≤ c.toNat && c.toNat ≠ 0x7f)

/-- Check a token that says nothing. -/
def checkIdle (t : Token) : Except Error Unit :=
  if t.kind = .comment ∧ !t.text.all isCommentChar then failAt .badComment t.span
  else if t.kind = .newline ∧ t.text = ['\r'] then failAt .loneReturn t.after
  else .ok ()

/-- The piece that a token is, if it can be one of a key. -/
def Token.piece? (t : Token) : Option Piece :=
  match t.kind with
  | .quoted q => some ⟨some q, t.text, t.start⟩
  | .atom => some ⟨none, t.text, t.start⟩
  | _ => none

/-- The empty piece at a place. -/
def emptyPiece (s : Stretch) : Piece := ⟨none, [], s.start⟩

/-! ## Keys -/

/-- The parts of a key after its first. The number of parts is bounded by `n`. -/
def keyRest (stop : Nat) : Nat → List Token → List Piece × List Token
  | 0, ts => ([], ts)
  | n + 1, ts =>
    match skipBlanks ts with
    | [] => ([], [])
    | t :: ts =>
      if t.kind ≠ .dot then ([], t :: ts)
      else
        match skipBlanks ts with
        | [] => ([emptyPiece ⟨stop, stop⟩], [])
        | u :: us =>
          match u.piece? with
          | some p =>
            let (ps, rest) := keyRest stop n us
            (p :: ps, rest)
          | none =>
            if u.kind = .dot then
              let (ps, rest) := keyRest stop n (u :: us)
              (emptyPiece u.before :: ps, rest)
            else ([emptyPiece u.before], u :: us)

/-- The parts of a key; its first part may be missing. Whether it is there is the second result. -/
def keyParts (stop : Nat) (ts : List Token) : List Piece × Bool × List Token :=
  match skipBlanks ts with
  | [] => ([emptyPiece ⟨stop, stop⟩], false, [])
  | t :: ts =>
    match t.piece? with
    | some p =>
      let (ps, rest) := keyRest stop (ts.length + 1) ts
      (p :: ps, true, rest)
    | none =>
      let (ps, rest) := keyRest stop (ts.length + 1) (t :: ts)
      (emptyPiece t.before :: ps, t.kind = .dot, rest)

/-! ## Values -/

/-- Whether a text starts like a date: four digits, a dash, and eight characters up to a blank. -/
def looksLikeDate (t : Text) : Bool :=
  t.length = 10 && (t.take 4).all Char.isDigit && t[4]? = some '-' && t[7]? = some '-'

/-- The rest of a scalar that is not quoted: names and dots, and the time after a date. -/
def scalarRest (first : Text) (ts : List Token) : Text × List Token :=
  let more := ts.takeWhile fun t => t.kind = .dot || t.kind = .atom
  let text := first ++ more.flatMap Token.text
  let rest := ts.drop more.length
  match rest with
  | s :: a :: us =>
    if looksLikeDate text ∧ s.text = [' '] ∧ a.kind = .atom ∧ (a.text.head?.any Char.isDigit) then
      let fraction := us.takeWhile fun t => t.kind = .dot || t.kind = .atom
      (text ++ s.text ++ a.text ++ fraction.flatMap Token.text, us.drop fraction.length)
    else (text, rest)
  | _ => (text, rest)

/-- What is read next in an inline table. -/
inductive Want where
  | key
  | comma
deriving DecidableEq, Repr

mutual

/-- Read a value. The first number bounds the steps, `stop` is the end of the text. -/
def written (stop : Nat) : Nat → List Token → Except Error (Written × List Token)
  | 0, ts => failAt .unclosedList (placeOf stop ts)
  | n + 1, ts =>
    match skipBlanks ts with
    | [] => .ok (.scalar (emptyPiece ⟨stop, stop⟩), [])
    | t :: ts =>
      match t.kind with
      | .newline | .comment | .comma | .space => .ok (.scalar (emptyPiece t.before), t :: ts)
      | .equals => failAt .extraEquals t.span
      | .closeBrace => failAt .noInlineOpening t.before
      | .closeBracket => failAt .noListOpening t.before
      | .openBracket => do
        let ((vs, close), ts) ← listRest stop n false ts
        return (.list vs ⟨t.start, close⟩, ts)
      | .openBrace => do
        let ((es, close), ts) ← inlineRest stop n .key ts
        return (.inline es ⟨t.start, close⟩, ts)
      | .quoted q => .ok (.scalar ⟨some q, t.text, t.start⟩, ts)
      | .dot | .atom =>
        let (text, ts) := scalarRest t.text ts
        .ok (.scalar ⟨none, text, t.start⟩, ts)

/-- Read the elements of a list and its bracket, the end of which is the last result; `needsComma`
says that an element was just read. -/
def listRest (stop : Nat) :
    Nat → Bool → List Token → Except Error ((List Written × Nat) × List Token)
  | 0, _, ts => failAt .unclosedList (placeOf stop ts)
  | n + 1, needsComma, ts =>
    match ts with
    | [] => failAt .unclosedList ⟨stop, stop⟩
    | t :: ts =>
      match t.kind with
      | .space | .newline | .comment => do
        checkIdle t
        listRest stop n needsComma ts
      | .comma =>
        if needsComma then listRest stop n false ts else failAt .extraCommaInList t.span
      | .equals => failAt .equalsInList t.span
      | .closeBracket => .ok (([], t.stop), ts)
      | _ =>
        if needsComma then failAt .noCommaInList t.before
        else do
          let (v, ts) ← written stop n (t :: ts)
          let ((vs, close), ts) ← listRest stop n true ts
          return ((v :: vs, close), ts)

/-- Read the entries of an inline table and its brace, the end of which is the last result. -/
def inlineRest (stop : Nat) : Nat → Want → List Token →
    Except Error ((List (List Piece × Written) × Nat) × List Token)
  | 0, _, ts => failAt .unclosedInline (placeOf stop ts)
  | n + 1, want, ts =>
    match ts with
    | [] => failAt .unclosedInline ⟨stop, stop⟩
    | t :: ts =>
      match t.kind with
      | .space | .newline | .comment => do
        checkIdle t
        inlineRest stop n want ts
      | .comma =>
        if want = .comma then inlineRest stop n .key ts else failAt .extraCommaInInline t.before
      | .closeBrace => .ok (([], t.stop), ts)
      | _ =>
        if want = .comma then failAt .noCommaInInline t.before
        else
          let (key, _, rest) := keyParts stop (t :: ts)
          match skipBlanks rest with
          | [] => failAt .unclosedInline ⟨stop, stop⟩
          | u :: us =>
            if u.kind ≠ .equals then failAt .noEqualsInInline u.before
            else do
              let (v, ts) ← written stop n us
              let ((es, close), ts) ← inlineRest stop n .comma ts
              return (((key, v) :: es, close), ts)

end

/-! ## Expressions -/

/-- Require that nothing but a comment follows on a line, and drop its end. -/
def lineEnd (ts : List Token) : Except Error (List Token) :=
  match skipBlanks ts with
  | [] => .ok []
  | t :: ts =>
    match t.kind with
    | .newline => do
      checkIdle t
      return ts
    | .comment => do
      checkIdle t
      return ts
    | _ => failAt .afterValue t.before

/-- Drop the rest of a line. -/
def skipLine (ts : List Token) : List Token := ts.dropWhile fun t => t.kind ≠ .newline

/-- Read what follows the `=` of an entry. -/
def entryValue (stop : Nat) (key : List Piece) (ts : List Token) :
    Except Error (Expression × List Token) := do
  let (v, ts) ← written stop (2 * ts.length + 2) ts
  let ts ← lineEnd ts
  return (.entry key v, ts)

/-- Read an entry. -/
def entryFrom (stop : Nat) (ts : List Token) : Except Error (Expression × List Token) :=
  let (key, _, rest) := keyParts stop ts
  match skipBlanks rest with
  | [] => failAt .keyWithoutValue ⟨stop, stop⟩
  | t :: ts => if t.kind = .equals then entryValue stop key ts else failAt .keyWithoutValue t.before

/-- Read what follows the first bracket of a header. -/
def headerFrom (stop : Nat) (opening : Token) (ts : List Token) :
    Except Error (Expression × List Token) :=
  let isList := ts.head?.any fun t => t.kind = .openBracket
  let (key, valid, rest) := keyParts stop (if isList then ts.drop 1 else ts)
  match skipBlanks rest with
  | [] =>
    if valid then failAt (if isList then .unclosedTableList else .unclosedTable) ⟨stop, stop⟩
    else .ok (.header isList key ⟨opening.start, stop⟩, [])
  | t :: ts =>
    if t.kind = .closeBracket then
      if isList then
        match ts with
        | [] => failAt .halfClosedTableList t.after
        | u :: us =>
          if u.kind = .closeBracket then do
            let rest ← lineEnd us
            return (.header true key ⟨opening.start, u.stop⟩, rest)
          else failAt .halfClosedTableList t.after
      else do
        let rest ← lineEnd ts
        return (.header false key ⟨opening.start, t.stop⟩, rest)
    else if valid then failAt (if isList then .unclosedTableList else .unclosedTable) t.before
    else .ok (.header isList key ⟨opening.start, t.start⟩, skipLine (t :: ts))

/-- Read expressions. The first number bounds the steps, `stop` is the end of the text. -/
def expressionsFrom (stop : Nat) : Nat → List Token → Except Error (List Expression)
  | 0, _ => .ok []
  | _ + 1, [] => .ok []
  | n + 1, t :: ts =>
    match t.kind with
    | .space | .newline | .comment => do
      checkIdle t
      expressionsFrom stop n ts
    | .closeBracket => failAt .noTableOpening t.before
    | .comma | .openBrace | .closeBrace => failAt .noKey t.before
    | .openBracket => do
      let (e, ts) ← headerFrom stop t ts
      let es ← expressionsFrom stop n ts
      return e :: es
    | _ => do
      let (e, ts) ← entryFrom stop (t :: ts)
      let es ← expressionsFrom stop n ts
      return e :: es

/-- The expressions of a text. -/
def expressions (t : Text) : Except Error (List Expression) :=
  let ts := tokens t
  expressionsFrom t.length (ts.length + 1) ts

end CellScript.Toml
