import CellScript.Block.Basic
import CellScript.Text.Line

set_option autoImplicit false

/-! # Guards

The guard of a `with` statement with a single item is looked at as written: parentheses and `as`
names around it are taken off, and a call of `Cell` or `Sandbox` on the namespace is a guard. The
kind of a `Cell` guard is read from the tree of its one argument; nothing is evaluated. -/

namespace CellScript

open Python

/-- A guard: a call that names a kind, or a sandbox. -/
inductive Guard where
  | cell (call : Tree)
  | sandbox
deriving Inhabited

namespace Guard

mutual

/-- What a guard expression is inside parentheses and before `as`. -/
def inner : Tree → Option Tree
  | .node l cs =>
    if l.kind = .asPattern ∨ l.kind = .parenthesizedExpression then innerFirst cs
    else some (.node l cs)

/-- `inner` of the first phrase. -/
def innerFirst : List Tree → Option Tree
  | [] => none
  | t :: ts =>
    if t.label.named && t.kind != .comment then inner t else innerFirst ts

end

/-- The guard that an expression is: a call of `Cell` or `Sandbox` on the namespace. -/
def ofCall? (ns source : Text) (call : Tree) : Option Guard := do
  if call.kind != .call then none
  else
    let function ← call.part? .function
    if function.kind != .attribute then none
    else
      let object ← function.part? .object
      if object.kind != .identifier || object.text source != ns then none
      else
        let name := (← function.part? .attribute).text source
        if name = "Cell".toList then some (.cell call)
        else if name = "Sandbox".toList then some .sandbox
        else none

/-- The guard of a `with` statement. -/
def ofStatement? (ns source : Text) (statement : Tree) : Option Guard := do
  let clause ← statement.children.find? (·.kind == .withClause)
  match clause.phrases.filter (·.kind == .withItem) with
  | [item] => ofCall? ns source (← inner (← item.part? .value))
  | _ => none

end Guard

/-- The text of a plain string literal, without prefix and quotes. -/
def stringLiteral? (source : Text) (t : Tree) : Option Text :=
  if t.kind != .string || t.children.any (·.kind == .interpolation) then none
  else do
    let first ← t.children.find? (·.kind == .stringStart)
    let last ← t.children.reverse.find? (·.kind == .stringEnd)
    if first.stop.offset ≤ last.start.offset then
      some ((source.drop first.stop.offset).take (last.start.offset - first.stop.offset))
    else none

/-- The kind that the arguments of a `Cell` call name; `line` is the line of its block. -/
def CellKind.ofCall (source : Text) (line : Nat) (call : Tree) : Except CellError CellKind := do
  let arg ←
    match ((call.part? .arguments).map Tree.phrases).getD [] with
    | [arg] =>
      if arg.kind = .keywordArgument then
        match (arg.part? .name).map (·.text source), arg.part? .value with
        | some name, some value =>
          if name = "cell_type".toList then .ok value
          else .error (.unknownKind (arg.text source) line)
        | _, _ => .error (.unknownKind (arg.text source) line)
      else .ok arg
    | _ => .error (.malformed .notOneKind line)
  let literal := (stringLiteral? source arg).getD (arg.text source)
  match CellKind.ofLiteral? literal with
  | some kind => .ok kind
  | none => .error (.unknownKind literal line)

end CellScript
