import PgJinja.Files.Path
import PgJinja.Text.Digit
import PgJinja.Text.Basic

/-! Command line arguments. A long option may be shortened as long as it stays unambiguous, and its value
follows it or stands after an equals sign. Inputs stand together in one place; after two dashes
everything is an input. -/
namespace PgJinja

structure Arguments where
  inputs : List String := []
  templateDir : Option Path := none
  treeDir : Option Path := none
  noTree : Bool := false
  failFast : Bool := false
  format : String := "text"
  path : Option Path := none
  verbose : Bool := false
  version : Bool := false
  deriving DecidableEq, Repr

inductive Switch where
  | help
  | templateDir
  | treeDir
  | noTree
  | failFast
  | format
  | path
  | verbose
  | version
  deriving DecidableEq, Repr

namespace Switch

def names : List (String × Switch) :=
  [("-h", help), ("--help", help), ("--macro-dir", templateDir), ("--tree-dir", treeDir),
    ("--no-tree", noTree), ("--fail-fast", failFast), ("--format", format), ("--path", path),
    ("--verbose", verbose), ("--version", version)]

def ofName? (name : String) : Option Switch := names.lookup name

def takesValue : Switch → Bool
  | templateDir | treeDir | format | path => true
  | _ => false

def startingWith (start : String) : List Switch :=
  (names.filter fun n => start.toList.isPrefixOf n.1.toList).map (·.2)

end Switch

namespace Arguments

inductive Stop where
  | usage
  | help
  /-- A value was promised and none was there. -/
  | noValue
  deriving DecidableEq, Repr

inductive Token where
  | input (s : String)
  | marker
  | switch (switch : Switch) (value : Option String)
  | unknown
  deriving DecidableEq, Repr

/-- A number below zero is no switch. A newline may follow it. -/
def isNegativeNumber (cs : List Char) : Bool :=
  let isDigit (c : Char) := (Text.digitValue? c).isSome
  match if cs.getLast? == some '\n' then cs.dropLast else cs with
  | '-' :: rest =>
    let whole := rest.takeWhile isDigit
    match rest.dropWhile isDigit with
    | [] => !whole.isEmpty
    | '.' :: fraction => !fraction.isEmpty && fraction.all isDigit
    | _ => false
  | _ => false

def splitEquals (s : String) : String × Option String :=
  match s.toList.dropWhile (· != '=') with
  | _ :: value => (String.ofList (s.toList.takeWhile (· != '=')), some (String.ofList value))
  | [] => (s, none)

def unnamed (s : String) : Token :=
  if isNegativeNumber s.toList || s.toList.contains ' ' then .input s else .unknown

def longToken (s : String) : Except Stop Token :=
  let (name, value) := splitEquals s
  match Switch.ofName? name, Switch.startingWith name with
  | some switch, _ => .ok (.switch switch value)
  | none, [switch] => .ok (.switch switch value)
  | none, [] => .ok (unnamed s)
  | none, _ => .error .usage

/-- The short switch. It may be repeated in one argument, also after an equals sign; other letters are
taken for a value. -/
def shortToken (s : String) : Token :=
  match s.toList with
  | '-' :: 'h' :: rest =>
    let letters := match rest with
      | '=' :: letters => letters
      | _ => rest
    if rest.isEmpty || (!letters.isEmpty && letters.all (· == 'h')) then .switch .help none
    else .switch .help (some (String.ofList letters))
  | _ => unnamed s

def token (s : String) : Except Stop Token :=
  match s.toList with
  | '-' :: '-' :: _ => longToken s
  | '-' :: _ :: _ => .ok (shortToken s)
  | _ => .ok (.input s)

def tokens : List String → Except Stop (List Token)
  | [] => .ok []
  | s :: rest =>
    if s = "--" then .ok (.marker :: rest.map Token.input)
    else do
      let t ← token s
      return t :: (← tokens rest)

structure Reading where
  arguments : Arguments := {}
  inputsRead : Bool := false
  leftOver : Bool := false
  lacking : List Switch := []

def setFlag (a : Arguments) : Switch → Arguments
  | .noTree => { a with noTree := true }
  | .failFast => { a with failFast := true }
  | .verbose => { a with verbose := true }
  | .version => { a with version := true }
  | _ => a

def setValue (a : Arguments) (value : String) : Switch → Arguments
  | .templateDir => { a with templateDir := some (Path.ofText value) }
  | .treeDir => { a with treeDir := some (Path.ofText value) }
  | .format => { a with format := value }
  | .path => { a with path := some (Path.ofText value) }
  | _ => a

def Reading.set (r : Reading) (value : String) (s : Switch) : Reading :=
  if value = "--" then { r with lacking := s :: r.lacking }
  else { r with arguments := setValue r.arguments value s, lacking := r.lacking.filter (· != s) }

/-- Goes through the tokens. `inRun` says that the one before belongs to the inputs too. -/
def consume (inRun : Bool) (r : Reading) : List Token → Except Stop Reading
  | [] => .ok r
  | .input s :: rest =>
    if inRun || !r.inputsRead then
      consume true
        { r with
          arguments := { r.arguments with inputs := r.arguments.inputs ++ [s] }
          inputsRead := true }
        rest
    else consume false { r with leftOver := true } rest
  | .marker :: rest =>
    if inRun || !r.inputsRead then consume true { r with inputsRead := true } rest
    else consume false { r with leftOver := true } rest
  | .unknown :: rest => consume false { r with leftOver := true } rest
  | .switch s (some v) :: rest =>
    if s.takesValue then consume false (r.set v s) rest else .error .usage
  | .switch s none :: rest =>
    if s.takesValue then
      match rest with
      | .input v :: rest => consume false (r.set v s) rest
      | _ => .error .usage
    else if s = .help then .error .help
    else consume false { r with arguments := setFlag r.arguments s } rest

def parse (argv : List String) : Except Stop Arguments := do
  let r ← consume false {} (← tokens argv)
  if r.leftOver then .error .usage
  else if !r.lacking.isEmpty then .error .noValue
  else .ok r.arguments

end Arguments
end PgJinja
