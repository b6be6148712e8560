import CellScript.Text.Table
import CellScript.Toml.Scalar

set_option autoImplicit false

/-! # TOML documents

`Value.ofText` reads a document as one table. A header opens a table that the entries after it go
into; tables on the way to it that are not there yet are made. No table is opened twice, no key set
twice, and a table that an entry made by its key can only be extended that way. -/

namespace CellScript.Toml

/-- How a table came to be. -/
inductive Origin where
  /-- By its header, or as the document. -/
  | header
  /-- On the way to another table. -/
  | implied
  /-- By the key of an entry. -/
  | dotted
  /-- As a value in braces. -/
  | inline
deriving DecidableEq, Repr

/-- A value, with the stretch of text that it was read from. -/
inductive Value where
  | scalar (s : Scalar) (span : Stretch)
  /-- A list of values, or of the tables that headers open. -/
  | list (vs : List Value) (ofTables : Bool) (span : Stretch)
  | table (fs : List (Text × Value)) (origin : Origin) (span : Stretch)
deriving Repr

namespace Value

/-- The stretch of a value. -/
def span : Value → Stretch
  | scalar _ s => s
  | list _ _ s => s
  | table _ _ s => s

/-- What a value is called. -/
def kind : Value → String
  | scalar (.str _) _ => "string"
  | scalar (.int _) _ => "integer"
  | scalar (.float _) _ => "float"
  | scalar (.bool _) _ => "boolean"
  | scalar .date _ => "datetime"
  | list .. => "array"
  | table _ .inline _ => "inline table"
  | table .. => "table"

end Value

/-- A part of a key, with its stretch. -/
structure Key where
  name : Text
  span : Stretch
deriving DecidableEq, Repr

/-- The parts of a key. -/
def keysOf (ps : List Piece) : Except Error (List Key) :=
  ps.mapM fun p => do return ⟨← p.key, p.span⟩

/-- A table that is being filled. -/
structure Open where
  fields : Table Value := []
  origin : Origin := .header
  span : Stretch := ⟨0, 0⟩

/-- The table as a value. -/
def Open.value (o : Open) : Value := .table o.fields o.origin o.span

/-- Change the table at the end of a path. Tables that are missing are made; with `dotted`, by the
key of an entry. -/
def descend (dotted : Bool) (change : Open → Except Error Open) :
    List Key → Open → Except Error Open
  | [], o => change o
  | k :: ks, o =>
    let put (v : Value) : Open := { o with fields := o.fields.insert k.name v }
    match o.fields.get? k.name with
    | none => do
      let child ← descend dotted change ks ⟨[], if dotted then .dotted else .implied, k.span⟩
      return put child.value
    | some (.table fs origin span) =>
      if origin = .inline then failAt (.notExtensible "inline table") k.span
      else if dotted ∧ origin = .header then failAt .duplicateKey k.span
      else do
        let child ← descend dotted change ks ⟨fs, origin, span⟩
        return put child.value
    | some (.list vs ofTables span) =>
      match ofTables, vs.reverse with
      | true, .table fs origin s :: before => do
        let child ← descend dotted change ks ⟨fs, origin, s⟩
        return put (.list (before.reverse ++ [child.value]) true span)
      | _, _ => failAt (.notExtensible "array") k.span
    | some v => failAt (.notExtensible v.kind) k.span

/-- Set a key of a table that has none. -/
def setKey (dotted : Bool) (k : Key) (v : Value) (o : Open) : Except Error Open :=
  if (o.origin == .dotted) != dotted then failAt .duplicateKey k.span
  else if o.fields.contains k.name then failAt .duplicateKey k.span
  else .ok { o with fields := o.fields.insert k.name v }

/-- Add an entry to a table. -/
def addEntry (ks : List Key) (v : Value) (o : Open) : Except Error Open :=
  match ks.reverse with
  | [] => .ok o
  | k :: path =>
    let dotted := !path.isEmpty
    descend dotted (setKey dotted k v) path.reverse o

mutual

/-- The value that is written. -/
def Written.value : Written → Except Error Value
  | .scalar p => do return .scalar (← p.scalar) p.span
  | .list vs span => do return .list (← valuesOf vs) false span
  | .inline es span => do
    let o ← fillFrom es ⟨[], .inline, span⟩
    return .table o.fields .inline span

/-- The values that are written. -/
def valuesOf : List Written → Except Error (List Value)
  | [] => .ok []
  | w :: ws => do
    let v ← w.value
    let vs ← valuesOf ws
    return v :: vs

/-- Add entries to the table that an inline table makes. -/
def fillFrom : List (List Piece × Written) → Open → Except Error Open
  | [], o => .ok o
  | (ps, w) :: es, o => do
    let ks ← keysOf ps
    let v ← w.value
    let o ← addEntry ks v o
    fillFrom es o

end

/-- The header of the table that is being filled. -/
structure Header where
  isList : Bool
  path : List Key
  key : Key

/-- The document as far as it was read: its tables but for the one that is being filled, that one,
and its header, unless it is the document itself. -/
structure Progress where
  root : Open := {}
  current : Open := {}
  header : Option Header := none

namespace Progress

/-- Put the table that was filled where it belongs. -/
def close (p : Progress) : Except Error Open :=
  match p.header with
  | none => .ok p.current
  | some h =>
    descend false (fun o =>
      if !h.isList then .ok { o with fields := o.fields.insert h.key.name p.current.value }
      else
        match o.fields.get? h.key.name with
        | none =>
          let v := Value.list [p.current.value] true p.current.span
          .ok { o with fields := o.fields.insert h.key.name v }
        | some (.list vs true span) =>
          let v := Value.list (vs ++ [p.current.value]) true span
          .ok { o with fields := o.fields.insert h.key.name v }
        | some _ => failAt .duplicateKey h.key.span) h.path p.root

/-- The table that a header opens: one that was only implied is filled further. -/
def opened (root : Open) (h : Header) (span : Stretch) : Except Error Open :=
  if h.isList then .ok ⟨[], .header, span⟩
  else do
    let found ← descend false (fun o =>
      match o.fields.get? h.key.name with
      | none => .ok ⟨[], .header, span⟩
      | some (.table fs .implied _) => .ok ⟨fs, .header, span⟩
      | some _ => failAt .duplicateKey h.key.span) h.path root
    .ok (reach h.path found)
where
  /-- The table at the end of a path, in which it was put to be found. -/
  reach : List Key → Open → Open
    | [], o => o
    | k :: ks, o =>
      match o.fields.get? k.name with
      | some (.table fs origin span) => reach ks ⟨fs, origin, span⟩
      | some (.list vs _ _) =>
        match vs.getLast? with
        | some (.table fs origin span) => reach ks ⟨fs, origin, span⟩
        | _ => o
      | _ => o

/-- Read an expression. -/
def step (p : Progress) : Expression → Except Error Progress
  | .entry ps w => do
    let ks ← keysOf ps
    let v ← w.value
    let current ← addEntry ks v p.current
    return { p with current := current }
  | .header isList ps span => do
    let root ← p.close
    let ks ← keysOf ps
    match ks.reverse with
    | [] => return p
    | k :: path =>
      let h : Header := ⟨isList, path.reverse, k⟩
      let current ← opened root h span
      return ⟨root, current, some h⟩

/-- Read expressions. -/
def steps (p : Progress) : List Expression → Except Error Progress
  | [] => .ok p
  | e :: es => do
    let p ← p.step e
    steps p es

end Progress

/-- Read a document. -/
def Value.ofText (t : Text) : Except Error Value := do
  let es ← expressions t
  let p ← Progress.steps {} es
  let root ← p.close
  return { root with span := ⟨0, t.length⟩ }.value

end CellScript.Toml
