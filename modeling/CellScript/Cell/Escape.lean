import CellScript.Text.Line

set_option autoImplicit false

/-! # Escapes

Two things of a notebook cannot stand in a script as they are. A line that the notebook runs itself,
`!ls` or `%time`, is written as a comment: `escapeLine` puts a `#` before it and `unescapeLine`
takes the `#` off. A prose line within quotes whose kind it holds itself is written with
backslashes: `encodeProse` and `decodeProse`. -/

namespace CellScript

/-- The statement that stands for an empty cell. -/
def placeholder : Text := "pass".toList

/-- Take the `#` off a line that stands for one the notebook runs itself. -/
def unescapeLine : Text → Text
  | '#' :: '!' :: t => '!' :: t
  | '#' :: '%' :: t => '%' :: t
  | t => t

/-- Put a `#` before a line that the notebook runs itself. -/
def escapeLine : Text → Text
  | '!' :: t => '#' :: '!' :: t
  | '%' :: t => '#' :: '%' :: t
  | t => t

/-- Double every backslash. -/
def doubleBackslashes (t : Text) : Text :=
  t.flatMap fun c => if c = '\\' then ['\\', '\\'] else [c]

/-- Put a backslash before each quote of every three quotes. -/
def breakTripleQuotes : Text → Text
  | '"' :: '"' :: '"' :: t => '\\' :: '"' :: '\\' :: '"' :: '\\' :: '"' :: breakTripleQuotes t
  | c :: t => c :: breakTripleQuotes t
  | [] => []

/-- A prose line as it stands between triple quotes of a decoded literal. -/
def encodeProse (t : Text) : Text := breakTripleQuotes (doubleBackslashes t)

/-- What a prose line in a decoded literal says: a backslash before a backslash or a quote goes;
before anything else it stays. -/
def decodeProse : Text → Text
  | '\\' :: '\\' :: t => '\\' :: decodeProse t
  | '\\' :: '"' :: t => '"' :: decodeProse t
  | '\\' :: c :: t => '\\' :: c :: decodeProse t
  | c :: t => c :: decodeProse t
  | [] => []

end CellScript
