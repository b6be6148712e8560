import CellScript.Config.Basic
import CellScript.Convert.Format
import CellScript.Number.Width

set_option autoImplicit false

/-! # Arguments

`Arguments.parse` reads the arguments of the program: options, a command, and the options and the
path of that command. Options are written in full after two dashes, or by a letter after one;
letters may stand together, and a value may follow in the same argument or be the next one. What is
not understood is a usage error; a question for help or for the version ends the reading. -/

namespace CellScript.Command

/-- What `convert` is asked to do. -/
structure ConvertRequest where
  input : Path
  output : Option Path := none
  target : Option Format := none
  recursive : Bool := false
  guardModule : Option Text := none
  indent : Option Nat := none
  noImport : Bool := false
  template : Option Path := none
  lineEnding : Option LineEnding := none
  config : Option Path := none
deriving Repr

/-- What `init` is asked to do. -/
structure InitRequest where
  output : Path := Config.fileName
  schema : Bool := false
  force : Bool := false
deriving Repr

/-- What the program is asked to do. -/
inductive Request where
  | convert (r : ConvertRequest)
  | init (r : InitRequest)
deriving Repr

/-- What the arguments ask for, and how much to say about it. -/
structure Arguments where
  request : Request
  verbose : Bool
  quiet : Bool
deriving Repr

/-- Why no command is carried out. -/
inductive Stop where
  /-- The arguments are not understood. -/
  | usage
  /-- Help is asked for. -/
  | help
  /-- The version is asked for. -/
  | version
deriving DecidableEq, Repr

/-! ## Items -/

/-- The kinds of values. -/
inductive ValueKind where
  | path
  | name
  | count
  | format
  | lineEnding
deriving DecidableEq, Repr

/-- An option. -/
inductive Switch where
  | verbose
  | quiet
  | help
  | version
  | output
  | target
  | recursive
  | jobs
  | guardModule
  | indent
  | noImport
  | template
  | lineEnding
  | config
  | schema
  | force
deriving DecidableEq, Repr

namespace Switch

/-- The name of an option. -/
def name : Switch → String
  | verbose => "verbose"
  | quiet => "quiet"
  | help => "help"
  | version => "version"
  | output => "output"
  | target => "to"
  | recursive => "recursive"
  | jobs => "jobs"
  | guardModule => "namespace"
  | indent => "indent"
  | noImport => "no-import"
  | template => "template"
  | lineEnding => "line-ending"
  | config => "config"
  | schema => "schema"
  | force => "force"

/-- The letter of an option, if it has one. -/
def letter? : Switch → Option Char
  | verbose => some 'v'
  | quiet => some 'q'
  | help => some 'h'
  | version => some 'V'
  | output => some 'o'
  | target => some 't'
  | recursive => some 'r'
  | jobs => some 'j'
  | config => some 'c'
  | guardModule | indent | noImport | template | lineEnding | schema | force => none

/-- The kind of value that an option has, if it has one. -/
def valueKind? : Switch → Option ValueKind
  | output | template | config => some .path
  | guardModule => some .name
  | jobs | indent => some .count
  | target => some .format
  | lineEnding => some .lineEnding
  | verbose | quiet | help | version | recursive | noImport | schema | force => none

end Switch

/-- The options before a command. -/
def globalSwitches : List Switch := [.verbose, .quiet, .help, .version]

/-- The options of `convert`. -/
def convertSwitches : List Switch :=
  [.output, .target, .recursive, .jobs, .guardModule, .indent, .noImport, .template, .lineEnding,
    .config, .verbose, .quiet, .help]

/-- The options of `init`. -/
def initSwitches : List Switch := [.output, .schema, .force, .verbose, .quiet, .help]

/-- Something that was read from arguments. -/
inductive Item where
  | switch (s : Switch)
  | value (s : Switch) (t : Text)
  | positional (t : Text)
deriving DecidableEq, Repr

/-- The option of an item. -/
def Item.switch? : Item → Option Switch
  | switch s => some s
  | value s _ => some s
  | positional _ => none

/-- The number that a text is, unless it has more than 64 bits. -/
def count? (t : Text) : Option Nat :=
  let ds := match t with | '+' :: ds => ds | ds => ds
  if ds.isEmpty ∨ !ds.all Char.isDigit then none
  else
    let n := ds.foldl (fun n c => n * 10 + (c.toNat - 0x30)) 0
    if fitsNat 64 n then some n else none

/-- The format with the name of its extension. -/
def format? (t : Text) : Option Format :=
  [Format.script, .notebook].find? fun f => f.extension.toList == t

/-- Whether a text is a value of a kind. -/
def ValueKind.admits (s : ValueKind) (t : Text) : Bool :=
  match s with
  | path => !t.isEmpty
  | name => true
  | count => (count? t).isSome
  | format => (format? t).isSome
  | lineEnding => (LineEnding.ofName? t).isSome

/-- Whether an argument is one for options. -/
def isOptional : Text → Bool
  | ['-'] => false
  | '-' :: _ => true
  | _ => false

/-- Read the value of an option: the text that is attached to it, or the next argument. -/
def valueFor (s : Switch) (kind : ValueKind) (attached : Option Text) (rest : List Text) :
    Except Stop (Item × List Text) :=
  let checked (t : Text) (rest : List Text) : Except Stop (Item × List Text) :=
    if kind.admits t then .ok (.value s t, rest) else .error .usage
  match attached, rest with
  | some t, rest => checked t rest
  | none, [] => .error .usage
  | none, t :: rest => if isOptional t then .error .usage else checked t rest

/-- An option without a value. -/
def plain (s : Switch) : Except Stop Item :=
  if s = .help then .error .help else if s = .version then .error .version else .ok (.switch s)

/-- Read an option that is written in full, after its dashes. -/
def longItem (known : List Switch) (t : Text) (rest : List Text) :
    Except Stop (Item × List Text) :=
  let name := t.takeWhile (· ≠ '=')
  let attached := if name.length < t.length then some (t.drop (name.length + 1)) else none
  match known.find? fun s => s.name.toList == name with
  | none => .error .usage
  | some s =>
    match s.valueKind?, attached with
    | some kind, attached => valueFor s kind attached rest
    | none, none => (plain s).map fun i => (i, rest)
    | none, some _ => .error .usage

/-- Read options that are written by letters, after their dash. -/
def letterItems (known : List Switch) : Text → List Text → Except Stop (List Item × List Text)
  | [], rest => .ok ([], rest)
  | c :: t, rest =>
    match known.find? fun s => s.letter? == some c with
    | none => .error .usage
    | some s =>
      match s.valueKind? with
      | some kind =>
        let attached := match t with
          | [] => none
          | '=' :: v => some v
          | v => some v
        (valueFor s kind attached rest).map fun (i, rest) => ([i], rest)
      | none =>
        match plain s with
        | .error e => .error e
        | .ok i => (letterItems known t rest).map fun (is, rest) => (i :: is, rest)

/-- Read the options of an argument that is one for options. -/
def optionItems (known : List Switch) (t : Text) (rest : List Text) :
    Except Stop (List Item × List Text) :=
  match t with
  | '-' :: '-' :: name => (longItem known name rest).map fun (i, rest) => ([i], rest)
  | _ :: letters => letterItems known letters rest
  | [] => .error .usage

/-- Whether no option of some items is there twice or was there before. -/
def fresh (seen : List Switch) : List Item → Bool
  | [] => true
  | i :: is =>
    match i.switch? with
    | none => fresh seen is
    | some s => !seen.contains s && fresh (s :: seen) is

/-- Read the arguments of a command that takes at most some positional ones. The first number bounds
the steps; `plainOnly` says that dashes have lost their meaning. -/
def itemsOf (known : List Switch) : Nat → Nat → Bool → List Switch → List Text →
    Except Stop (List Item)
  | 0, _, _, _, _ => .ok []
  | _ + 1, _, _, _, [] => .ok []
  | n + 1, room, plainOnly, seen, a :: rest =>
    if !plainOnly && a = ['-', '-'] then itemsOf known n room true seen rest
    else if !plainOnly && isOptional a then
      match optionItems known a rest with
      | .error e => .error e
      | .ok (is, rest) =>
        if fresh seen is then
          (itemsOf known n room plainOnly (is.filterMap Item.switch? ++ seen) rest).map (is ++ ·)
        else .error .usage
    else
      match room with
      | 0 => .error .usage
      | room + 1 =>
        if a.isEmpty then .error .usage
        else (itemsOf known n room plainOnly seen rest).map (.positional a :: ·)

/-! ## Commands -/

/-- The value of an option. -/
def valueOf? (s : Switch) (is : List Item) : Option Text :=
  is.findSome? fun i =>
    match i with
    | .value s' t => if s = s' then some t else none
    | _ => none

/-- Whether an option was given. -/
def given (s : Switch) (is : List Item) : Bool := is.contains (.switch s)

/-- Refuse to be both quiet and verbose. -/
def settled (is : List Item) : Except Stop (List Item) :=
  if given .verbose is && given .quiet is then .error .usage else .ok is

/-- What `convert` is asked to do by some items. -/
def convertRequest (is : List Item) : Except Stop ConvertRequest :=
  let input? := is.findSome? fun i =>
    match i with
    | .positional t => some t
    | _ => none
  match input? with
  | none => .error .usage
  | some input => .ok
    { input
      output := valueOf? .output is
      target := (valueOf? .target is).bind format?
      recursive := given .recursive is
      guardModule := valueOf? .guardModule is
      indent := (valueOf? .indent is).bind count?
      noImport := given .noImport is
      template := valueOf? .template is
      lineEnding := (valueOf? .lineEnding is).bind LineEnding.ofName?
      config := valueOf? .config is }

/-- What `init` is asked to do by some items. -/
def initRequest (is : List Item) : InitRequest :=
  { output := (valueOf? .output is).getD Config.fileName
    schema := given .schema is
    force := given .force is }

/-- Read a command and its arguments, after the options before it. -/
def commandOf (globals : List Item) (name : Text) (rest : List Text) : Except Stop Arguments := do
  let steps := rest.length + 1
  let finish (r : Request) (is : List Item) : Except Stop Arguments := do
    let globals ← settled globals
    return ⟨r, given .verbose (globals ++ is), given .quiet (globals ++ is)⟩
  if name = "convert".toList then
    let is ← settled (← itemsOf convertSwitches steps 1 false [] rest)
    finish (.convert (← convertRequest is)) is
  else if name = "init".toList then
    let is ← settled (← itemsOf initSwitches steps 0 false [] rest)
    finish (.init (initRequest is)) is
  else if name = "help".toList then
    match rest with
    | [] => throw .help
    | [topic] =>
      throw (if ["convert", "init", "help"].any fun c => c.toList == topic then .help else .usage)
    | _ => throw .usage
  else throw .usage

/-- Read the arguments of the program. The number bounds the steps. -/
def parseFrom : Nat → List Item → List Text → Except Stop Arguments
  | 0, _, _ => .error .usage
  | _ + 1, _, [] => .error .usage
  | n + 1, globals, a :: rest =>
    if a = ['-', '-'] then .error .usage
    else if isOptional a then
      match optionItems globalSwitches a rest with
      | .error e => .error e
      | .ok (is, rest) =>
        if fresh (globals.filterMap Item.switch?) is then parseFrom n (globals ++ is) rest
        else .error .usage
    else commandOf globals a rest

/-- Read the arguments of the program. -/
def Arguments.parse (args : List Text) : Except Stop Arguments :=
  parseFrom (args.length + 1) [] args

end CellScript.Command
