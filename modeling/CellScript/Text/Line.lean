import CellScript.Text.Blank

set_option autoImplicit false

/-! # Lines

`rows` cuts a text at its line feeds, so that there is always one row more than there are line
feeds; `lines` cuts it into the lines that its line ends close, so that a final line end adds none.
`joinWith` puts a separator between texts. -/

namespace CellScript

namespace Text

/-- The rows of a text: what stands between its line feeds. -/
def rows : Text → List Text
  | [] => [[]]
  | c :: cs =>
    if c = '\n' then [] :: rows cs
    else
      match rows cs with
      | [] => [[c]]
      | r :: rs => (c :: r) :: rs

/-- Drop the end of a text, if it is `tail`. -/
def dropSuffix? (tail t : Text) : Option Text :=
  if tail.reverse.isPrefixOf t.reverse then some (t.take (t.length - tail.length)) else none

/-- Drop a carriage return at the end. -/
def dropReturn (t : Text) : Text := (dropSuffix? ['\r'] t).getD t

/-- The rows without the carriage returns at their ends. -/
def physicalLines (t : Text) : List Text := (rows t).map dropReturn

/-- The lines of a text, closed by a line feed with or without a carriage return before it, or by
the end of the text; a carriage return there belongs to the line. -/
def lines (t : Text) : List Text :=
  match (rows t).reverse with
  | [] => []
  | last :: closed =>
    let closed := closed.reverse.map dropReturn
    if last.isEmpty then closed else closed ++ [last]

/-- The texts with a separator between any two. -/
def joinWith (separator : Text) : List Text → Text
  | [] => []
  | [t] => t
  | t :: ts => t ++ separator ++ joinWith separator ts

/-- Whether `part` stands somewhere in a text, and after how many characters first. -/
def find? (part : Text) : Text → Option Nat
  | [] => if part.isEmpty then some 0 else none
  | c :: cs => if part.isPrefixOf (c :: cs) then some 0 else (find? part cs).map (· + 1)

/-- Whether `part` stands somewhere in a text. -/
def contains (part t : Text) : Bool := (find? part t).isSome

end Text

end CellScript
