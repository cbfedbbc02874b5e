import PgJinja.Number.Layout
import PgJinja.Terminal.Argument
import PgJinja.Terminal.Printed
import PgJinja.Terminal.Style
import PgJinja.Text.Quoted

/-! Messages with styled parts. A tag in brackets opens a style, and one with a slash closes it again. A
backslash before a tag makes it plain text, and a backslash before it stands for itself. -/
namespace PgJinja.Terminal

structure Tag where
  name : List Char
  argument : Option (List Char)
  deriving DecidableEq, Repr

namespace Tag

def ofText (cs : List Char) : Tag :=
  let name := cs.takeWhile (· != '=')
  match cs.drop name.length with
  | [] => ⟨name, none⟩
  | _ :: argument => ⟨name, some argument⟩

def text (t : Tag) : String :=
  let argument := match t.argument with
    | none => ""
    | some a => "=" ++ String.ofList a
  "[" ++ String.ofList t.name ++ argument ++ "]"

end Tag

inductive Fragment where
  | plain (text : List Char)
  | tag (place : Nat) (t : Tag)
  deriving DecidableEq, Repr

/-- The text of a tag after its opening bracket. It starts with a small letter or one of a few signs and
is closed before another tag opens. -/
def tagText? : List Char → Option (List Char)
  | [] => none
  | c :: cs =>
    if ('a' ≤ c && c ≤ 'z') || c = '#' || c = '/' || c = '@' then
      let body := cs.takeWhile fun c => c != ']' && c != '['
      match cs.drop body.length with
      | ']' :: _ => some (c :: body)
      | _ => none
    else none

def tagAt? (cs : List Char) : Option (Nat × List Char) :=
  let marks := (cs.takeWhile (· == '\\')).length
  match cs.drop marks with
  | '[' :: rest => (tagText? rest).map (marks, ·)
  | _ => none

def bracketed (text : List Char) : List Char := '[' :: (text ++ [']'])

def plain (text : List Char) : List Fragment := if text.isEmpty then [] else [.plain text]

/-- The parts of a tag with backslashes before it. Two of them stand for one. -/
def tagFragments (place marks : Nat) (text : List Char) : List Fragment :=
  plain (List.replicate (marks / 2) '\\')
    ++ (if marks % 2 = 1 then [.plain (bracketed text)]
      else [.tag (place + marks) (Tag.ofText text)])

/-- The parts of a message. `before` is the plain text up to here, last character first, and `skip`
characters belong to a tag. -/
def fragmentsFrom (place skip : Nat) (before : List Char) : List Char → List Fragment
  | [] => plain before.reverse
  | c :: cs =>
    match skip with
    | skip + 1 => fragmentsFrom (place + 1) skip before cs
    | 0 =>
      match tagAt? (c :: cs) with
      | some (marks, text) =>
        plain before.reverse ++ tagFragments place marks text
          ++ fragmentsFrom (place + 1) (marks + text.length + 1) [] cs
      | none => fragmentsFrom (place + 1) 0 (c :: before) cs

def fragments (message : String) : List Fragment := fragmentsFrom 0 0 [] message.toList

def dropMarks : List Char → List Char
  | [] => []
  | [c] => [c]
  | c :: d :: cs =>
    if c = '\\' && d = '[' then d :: dropMarks cs else c :: dropMarks (d :: cs)

def Fragment.shown : Fragment → List Char
  | plain text => replaceSymbols 0 (dropMarks text)
  | tag _ _ => []

def styled (message : String) : String := shown ((fragments message).flatMap Fragment.shown)

inductive MarkupFault where
  | unopened (place : Nat) (t : Tag)
  | nothingOpen (place : Nat)
  | badArgument (argument : List Char) (fault : ArgumentFault)
  | numeral (fault : Text.NumeralFault)
  deriving DecidableEq, Repr

def MarkupFault.message : MarkupFault → String
  | unopened place t =>
    "closing tag \x27" ++ t.text ++ "\x27 at position " ++ natText place
      ++ " doesn\x27t match any open tag"
  | nothingOpen place =>
    "closing tag \x27[/]\x27 at position " ++ natText place ++ " has nothing to close"
  | badArgument argument fault => fault.message argument
  | numeral fault => fault.message

def MarkupFault.isNumeral : MarkupFault → Bool
  | numeral _ => true
  | _ => false

structure OpenStyle where
  start : Nat
  style : String
  argument : Option (List Char)

structure Span where
  start : Nat
  stop : Nat
  style : List Char

namespace OpenStyle

def isAction (o : OpenStyle) : Bool := o.style.toList.head? == some '@'

def fault? (o : OpenStyle) : Option MarkupFault :=
  match o.argument with
  | some argument =>
    if !o.isAction || argument.isEmpty then none
    else (argumentFault? argument).map (.badArgument argument)
  | none => none

def span (o : OpenStyle) (stop : Nat) : Span :=
  let argument := match o.argument with
    | none => []
    | some a => ' ' :: a
  ⟨o.start, stop, o.style.toList ++ argument⟩

end OpenStyle

def takeOpen? (style : String) : List OpenStyle → Option (OpenStyle × List OpenStyle)
  | [] => none
  | o :: rest =>
    if o.style = style then some (o, rest)
    else (takeOpen? style rest).map fun r => (r.1, o :: r.2)

def normalStyle (description : List Char) : Except MarkupFault String :=
  match Style.normal description with
  | .ok style => .ok style
  | .error fault => .error (.numeral fault)

/-- Closes the style that a tag names, or the innermost one if it names none. The answer is the closed
style with those that stay open. -/
def close (place : Nat) (t : Tag) (name : List Char) (opened : List OpenStyle) :
    Except MarkupFault (OpenStyle × List OpenStyle) :=
  if (Text.trim name).isEmpty then
    match opened with
    | [] => .error (.nothingOpen place)
    | o :: opened => .ok (o, opened)
  else do
    match takeOpen? (← normalStyle (Text.trim name)) opened with
    | none => .error (.unopened place t)
    | some found => .ok found

/-- The styled parts of a message, those that are closed last first. `length` characters are shown
before the given fragments, `opened` styles are open, innermost first, and `spans` are closed. -/
def spansFrom (length : Nat) (opened : List OpenStyle) (spans : List Span) :
    List Fragment → Except MarkupFault (List Span)
  | [] => .ok (opened.foldl (fun spans o => o.span length :: spans) spans)
  | .plain text :: rest =>
    let added := (Fragment.plain text).shown.countP fun c => !isDropped c
    spansFrom (length + added) opened spans rest
  | .tag place t :: rest =>
    match t.name with
    | '/' :: name =>
      match close place t name opened with
      | .error fault => .error fault
      | .ok (o, opened) =>
        match o.fault? with
        | some fault => .error fault
        | none =>
          spansFrom length opened (if o.isAction then spans else o.span length :: spans) rest
    | name =>
      match normalStyle name with
      | .error fault => .error fault
      | .ok style => spansFrom length (⟨length, style, t.argument⟩ :: opened) spans rest

def insertSpan (s : Span) : List Span → List Span
  | [] => [s]
  | t :: ts => if s.start ≤ t.start then s :: t :: ts else t :: insertSpan s ts

def Span.fault? (s : Span) : Option MarkupFault :=
  match Style.read s.style with
  | .error (.numeral fault) => some (.numeral fault)
  | _ => none

def Span.covers (s : Span) (text : List Char) : Bool :=
  ((text.drop s.start).take (s.stop - s.start)).any (· != '\n')

/-- What keeps a message from being printed. Its tags are checked before its styles, and those by the
places where they start. Where a text is broken into lines or at tabs, a style of nothing is lost. -/
def markupFault? (message : String) : Option MarkupFault :=
  let parts := fragments message
  match spansFrom 0 [] [] parts with
  | .error fault => some fault
  | .ok spans =>
    let text := (parts.flatMap Fragment.shown).filter fun c => !isDropped c
    let broken := text.any fun c => c = '\n' || c = '\t'
    let kept := spans.filter fun s => !broken || s.covers text
    (kept.foldr insertSpan []).findSome? Span.fault?

def escapeTags : Nat → List Char → List Char
  | _, [] => []
  | skip + 1, _ :: cs => escapeTags skip cs
  | 0, c :: cs =>
    match tagAt? (c :: cs) with
    | some (marks, text) =>
      List.replicate (2 * marks + 1) '\\' ++ bracketed text
        ++ escapeTags (marks + text.length + 1) cs
    | none => c :: escapeTags 0 cs

/-- A text for the middle of a message. A single backslash at its end is doubled, so that it cannot
hide a tag that follows. -/
def escaped (s : String) : String :=
  let cs := escapeTags 0 s.toList
  String.ofList <|
    match cs.reverse with
    | '\\' :: '\\' :: _ => cs
    | '\\' :: _ => cs ++ ['\\']
    | _ => cs

end PgJinja.Terminal
