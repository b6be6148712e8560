import CellScript.Json.Numeral
import CellScript.Json.Quoted

set_option autoImplicit false

/-! # Reading JSON

`Value.read` reads a text that holds one value, nested at most 127 levels deep. The readers for the
parts take the text that is left and give it back without the part; they can be put together to read
an object field by field (`nextField`). -/

namespace CellScript.Json

/-- Whether a character may stand between the parts of a value. -/
def isSpace (c : Char) : Bool := c = ' ' || c = '\n' || c = '\t' || c = '\r'

/-- Drop what may stand between parts. -/
def skipSpace (t : Text) : Text := t.dropWhile isSpace

/-! ## Strings -/

/-- The value of four hexadecimal digits at the start of a text. -/
def hexEscape : Text → Result Nat
  | t@(a :: b :: c :: d :: t') =>
    match hexValue? a, hexValue? b, hexValue? c, hexValue? d with
    | some a, some b, some c, some d => .ok (((a * 16 + b) * 16 + c) * 16 + d, t')
    | _, _, _, _ => .error ⟨.badEscape, t, 4⟩
  | t =>
    let bytes := t.foldl (fun n c => n + c.utf8Size) 0
    if bytes < 4 then .error ⟨.endInString, t, bytes⟩ else .error ⟨.badEscape, t, 4⟩

/-- Whether a code unit is the first half of a pair. -/
def isHighSurrogate (n : Nat) : Bool := 0xd800 ≤ n && n ≤ 0xdbff

/-- Whether a code unit is the second half of a pair. -/
def isLowSurrogate (n : Nat) : Bool := 0xdc00 ≤ n && n ≤ 0xdfff

/-- Read the character of an escape after its `\u`. -/
def unicodeEscape (t : Text) : Result Char :=
  match hexEscape t with
  | .error s => .error s
  | .ok (n, t) =>
    if isLowSurrogate n then stopAt .loneSurrogate t
    else if !isHighSurrogate n then .ok (Char.ofNat n, t)
    else
      match t with
      | [] => stopAt .endInString t
      | '\\' :: [] => stopAt .endInString []
      | '\\' :: 'u' :: t =>
        match hexEscape t with
        | .error s => .error s
        | .ok (m, t) =>
          if isLowSurrogate m then
            .ok (Char.ofNat (0x10000 + (n - 0xd800) * 0x400 + (m - 0xdc00)), t)
          else stopAt .loneSurrogate t
      | '\\' :: t => stopPast .brokenPair t
      | t => stopPast .brokenPair t

/-- The character that a letter stands for after a backslash. -/
def letterChar? (c : Char) : Option Char :=
  if c = '"' then some '"'
  else if c = '\\' then some '\\'
  else if c = '/' then some '/'
  else if c = 'b' then some (Char.ofNat 8)
  else if c = 'f' then some (Char.ofNat 12)
  else if c = 'n' then some '\n'
  else if c = 'r' then some '\r'
  else if c = 't' then some '\t'
  else none

/-- Read a string after its opening quote. The number of characters is bounded by `n`. -/
def stringTail : Nat → Text → Result Text
  | 0, t => stopAt .endInString t
  | _ + 1, [] => stopAt .endInString []
  | _ + 1, '"' :: t => .ok ([], t)
  | _ + 1, ['\\'] => stopAt .endInString []
  | n + 1, '\\' :: 'u' :: t =>
    match unicodeEscape t with
    | .error s => .error s
    | .ok (c, t) => (stringTail n t).map fun (s, t) => (c :: s, t)
  | n + 1, '\\' :: e :: t =>
    match letterChar? e with
    | none => stopPast .badEscape (e :: t)
    | some c => (stringTail n t).map fun (s, t) => (c :: s, t)
  | n + 1, c :: t =>
    if c.toNat < 0x20 then stopPast .controlCharacter (c :: t)
    else (stringTail n t).map fun (s, t) => (c :: s, t)

/-- Read a string after its opening quote. -/
def string (t : Text) : Result Text := stringTail (t.length + 1) t

/-! ## Values -/

/-- Read the rest of a word. -/
def word (v : Value) : Text → Text → Result Value
  | [], t => .ok (v, t)
  | _ :: _, [] => stopAt .endInValue []
  | e :: es, c :: t => if c = e then word v es t else stopPast .badWord (c :: t)

/-- Read up to the next element of a list; whether there is one. -/
def nextElement (first : Bool) (t : Text) : Result Bool :=
  match skipSpace t with
  | [] => stopAt .endInList []
  | ']' :: t => .ok (false, t)
  | ',' :: t =>
    if first then .ok (true, ',' :: t)
    else
      match skipSpace t with
      | [] => stopAt .endInValue []
      | ']' :: t => stopPast .trailingComma (']' :: t)
      | t => .ok (true, t)
  | t => if first then .ok (true, t) else stopPast .noCommaInList t

/-- Read the key of a field after its opening quote, and its colon. -/
def key (t : Text) : Result Text :=
  match string t with
  | .error s => .error s
  | .ok (k, t) =>
    match skipSpace t with
    | [] => stopAt .endInObject []
    | ':' :: t => .ok (k, t)
    | t => stopPast .noColon t

/-- Read up to the key of the next field of an object; whether there is one. -/
def nextField (first : Bool) (t : Text) : Result Bool :=
  match skipSpace t with
  | [] => stopAt .endInObject []
  | '}' :: t => .ok (false, t)
  | '"' :: t => if first then .ok (true, t) else stopPast .noCommaInObject ('"' :: t)
  | ',' :: t =>
    if first then stopPast .badKey (',' :: t)
    else
      match skipSpace t with
      | [] => stopAt .endInValue []
      | '"' :: t => .ok (true, t)
      | '}' :: t => stopPast .trailingComma ('}' :: t)
      | t => stopPast .badKey t
  | t => stopPast (if first then .badKey else .noCommaInObject) t

/-- How many levels of nesting are admitted, and one more. -/
def maxDepth : Nat := 128

mutual

/-- Read a value that may have less than `depth` levels. The first number bounds the steps. -/
def value : Nat → Nat → Text → Result Value
  | 0, _, t => stopAt .endInValue t
  | n + 1, depth, t =>
    match skipSpace t with
    | [] => stopAt .endInValue []
    | 'n' :: t => word .null "ull".toList t
    | 't' :: t => word (.bool true) "rue".toList t
    | 'f' :: t => word (.bool false) "alse".toList t
    | '"' :: t => (string t).map fun (s, t) => (.str s, t)
    | '-' :: t => number true t
    | '[' :: t =>
      if depth ≤ 1 then stopPast .tooDeep ('[' :: t)
      else (elements n (depth - 1) true t).map fun (vs, t) => (.arr vs, t)
    | '{' :: t =>
      if depth ≤ 1 then stopPast .tooDeep ('{' :: t)
      else (fields n (depth - 1) true t).map fun (fs, t) => (.obj fs, t)
    | t => if startsWithDigit t then number false t else stopPast .noValue t

/-- Read the elements of a list and its bracket. -/
def elements : Nat → Nat → Bool → Text → Result (List Value)
  | 0, _, _, t => stopAt .endInList t
  | n + 1, depth, first, t =>
    match nextElement first t with
    | .error s => .error s
    | .ok (false, t) => .ok ([], t)
    | .ok (true, t) =>
      match value n depth t with
      | .error s => .error s
      | .ok (v, t) => (elements n depth false t).map fun (vs, t) => (v :: vs, t)

/-- Read the fields of an object and its bracket. -/
def fields : Nat → Nat → Bool → Text → Result (List (Text × Value))
  | 0, _, _, t => stopAt .endInObject t
  | n + 1, depth, first, t =>
    match nextField first t with
    | .error s => .error s
    | .ok (false, t) => .ok ([], t)
    | .ok (true, t) =>
      match key t with
      | .error s => .error s
      | .ok (k, t) =>
        match value n depth t with
        | .error s => .error s
        | .ok (v, t) => (fields n depth false t).map fun (fs, t) => ((k, v) :: fs, t)

end

/-- Steps that suffice to read a text. -/
def steps (t : Text) : Nat := 2 * t.length + 2

/-- Require that nothing but space is left. -/
def finish {α : Type} (a : α) (t : Text) : Except (Stop Fault) α :=
  match skipSpace t with
  | [] => .ok a
  | t => .error ⟨.trailingText, t, 1⟩

/-- Read a text that holds one value. -/
def Value.parse (t : Text) : Except (Stop Fault) Value :=
  match value (steps t) maxDepth t with
  | .error s => .error s
  | .ok (v, t) => finish v t

/-- Read a text that holds one value; a fault with its place. -/
def Value.read (t : Text) : Except (Located Fault) Value :=
  (Value.parse t).mapError (Stop.locate t)

end CellScript.Json
