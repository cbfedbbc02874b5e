import PgJinja.Terminal.Expression.Complaint
import PgJinja.Text.Identifier
import PgJinja.Text.Printable

/-! Tokens of expressions: numbers, quoted texts, names, reserved words and signs. Blanks may stand
between them, and a hash sign ends the text. -/
namespace PgJinja.Terminal.Expression

inductive Number where
  | whole (n : Nat)
  | real
  | imaginary
  /-- A whole number with too many digits. -/
  | long (digits : Nat)
  deriving DecidableEq, Repr

structure Quoted where
  bytes : Bool
  fields : Bool
  body : List Char
  deriving DecidableEq, Repr

inductive Lexeme where
  | number (n : Number)
  | quoted (q : Quoted)
  | name (text : String)
  /-- A reserved word. -/
  | word (text : String)
  | sign (text : String)
  | finish
  deriving DecidableEq, Repr

structure Token where
  lexeme : Lexeme
  depth : Nat
  deriving DecidableEq, Repr

/-- How the tokens of a text end. A text may get stuck, which matters only if it is read so far, or it may
be broken, which makes it unreadable whatever stands before. -/
inductive Ending where
  | done
  | stuck (c : Complaint)
  | broken (c : Complaint)
  deriving DecidableEq, Repr

namespace Token

def isGap (c : Char) : Bool := c = ' ' || c = '\t' || c = '\x0c'

def isQuote (c : Char) : Bool := c = '"' || c = '\x27'

def isNameChar (c : Char) : Bool := c.isAlphanum || c = '_' || 128 ≤ c.toNat

/-! ### Numbers -/

def isHexDigit (c : Char) : Bool := (Text.hexValue? c).isSome

def digitsValue (base : Nat) (cs : List Char) : Nat :=
  cs.foldl (fun n c => n * base + (Text.hexValue? c).getD 0) 0

def startsDigit (cs : List Char) : Bool := (cs.head?.map Char.isDigit).getD false

def startsWord (w : String) (cs : List Char) : Bool :=
  w.toList.isPrefixOf cs && !((cs.drop w.length).head?.map isNameChar).getD false

/-- Whether a number can end before a text. No plain letter or digit follows it, unless it starts a word
that can stand there. -/
def canFollowNumber : List Char → Bool
  | [] => true
  | 'i' :: c :: _ => c = 'f' || c = 'n' || c = 's'
  | c :: cs =>
    ["and", "else", "for", "not", "or"].any (startsWord · (c :: cs)) || !(c.isAlphanum || c = '_')

def closeNumber (form : NumberForm) (n : Number) (cs : List Char) :
    Except Complaint (Number × List Char) :=
  if canFollowNumber cs then .ok (n, cs) else .error (.badNumber form)

def formOf? (c : Char) : Option (NumberForm × Nat × (Char → Bool)) :=
  match c.toLower with
  | 'x' => some (.hexadecimal, 16, isHexDigit)
  | 'o' => some (.octal, 8, fun c => '0' ≤ c && c ≤ '7')
  | 'b' => some (.binary, 2, fun c => c = '0' || c = '1')
  | _ => none

def digitFault (form : NumberForm) (cs : List Char) : Complaint :=
  match cs with
  | c :: _ => if c.isDigit then .badDigit c form else .badNumber form
  | [] => .badNumber form

def skipMark (cs : List Char) : List Char :=
  match cs with
  | '_' :: rest => rest
  | cs => cs

def basedNumber (form : NumberForm) (base : Nat) (ok : Char → Bool) (cs : List Char) :
    Except Complaint (Number × List Char) :=
  match Text.digitRun ok (skipMark cs) with
  | ([], rest) => .error (digitFault form rest)
  | (digits, rest) =>
    if rest.head? == some '_' || startsDigit rest then .error (digitFault form (skipMark rest))
    else closeNumber form (.whole (digitsValue base digits)) rest

def decimalDigits (cs : List Char) : Except Complaint (List Char × List Char) :=
  match Text.digitRun Char.isDigit cs with
  | (digits, '_' :: _) => if digits.isEmpty then .ok ([], cs) else .error (.badNumber .decimal)
  | r => .ok r

def wholeNumber (digits : List Char) : Except Complaint Number :=
  if digits.head? == some '0' then
    if digits.all (· == '0') then .ok (.whole 0) else .error .leadingZeros
  else if maxDigits < digits.length then .ok (.long digits.length)
  else .ok (.whole (digitsValue 10 digits))

def closeDecimal (n : Except Complaint Number) (cs : List Char) :
    Except Complaint (Number × List Char) :=
  match cs with
  | 'j' :: rest | 'J' :: rest => closeNumber .imaginary .imaginary rest
  | cs => do closeNumber .decimal (← n) cs

def withExponent (n : Except Complaint Number) (cs : List Char) :
    Except Complaint (Number × List Char) :=
  match cs with
  | c :: rest =>
    if c.toLower = 'e' then
      let digits := (Text.splitSign rest).2
      if startsDigit digits then do
        let (_, rest) ← decimalDigits digits
        closeDecimal (.ok .real) rest
      else if digits.length < rest.length then .error (.badNumber .decimal)
      else closeNumber .decimal .real cs
    else closeDecimal n cs
  | [] => closeDecimal n cs

def decimalNumber (cs : List Char) : Except Complaint (Number × List Char) := do
  let (digits, rest) ← decimalDigits cs
  match rest with
  | '.' :: rest =>
    let (_, rest) ← decimalDigits rest
    withExponent (.ok .real) rest
  | rest => withExponent (wholeNumber digits) rest

def number (cs : List Char) : Except Complaint (Number × List Char) :=
  match cs with
  | '0' :: c :: rest =>
    match formOf? c with
    | some (form, base, ok) => basedNumber form base ok rest
    | none => decimalNumber cs
  | cs => decimalNumber cs

/-! ### Quoted texts -/

/-- Splits a text after its opening quote. A backslash takes the next character with it, and only three
quotes together close a text that three quotes opened. -/
def splitQuoted? (closing : List Char) : List Char → Option (List Char × List Char)
  | [] => none
  | '\\' :: c :: cs => (splitQuoted? closing cs).map fun r => ('\\' :: c :: r.1, r.2)
  | c :: cs =>
    if closing.isPrefixOf (c :: cs) then some ([], (c :: cs).drop closing.length)
    else (splitQuoted? closing cs).map fun r => (c :: r.1, r.2)

def quoteKind? (letters : List Char) : Option (Bool × Bool) :=
  match String.ofList (letters.map Char.toLower) with
  | "" | "u" | "r" => some (false, false)
  | "f" | "fr" | "rf" => some (false, true)
  | "b" | "br" | "rb" => some (true, false)
  | _ => none

def quoted (bytes fields : Bool) (cs : List Char) : Except Complaint (Lexeme × List Char) :=
  let closing := match cs with
    | a :: b :: c :: _ => if a = b && b = c then [a, b, c] else [a]
    | cs => cs.take 1
  match splitQuoted? closing (cs.drop closing.length) with
  | some (body, rest) => .ok (.quoted ⟨bytes, fields, body⟩, rest)
  | none => .error (.openQuote (closing.length = 3))

/-! ### Words and signs -/

def reserved : List String :=
  ["False", "None", "True", "and", "as", "assert", "async", "await", "break", "class", "continue", "def",
   "del", "elif", "else", "except", "finally", "for", "from", "global", "if", "import", "in", "is",
   "lambda", "nonlocal", "not", "or", "pass", "raise", "return", "try", "while", "with", "yield"]

def strange (c : Char) : Complaint :=
  if Text.isPrintable c then .badCharacter c else .hiddenCharacter c

def nameFault? : List Char → Option Complaint
  | [] => none
  | c :: rest =>
    if Text.startsName c then (rest.find? (!Text.inName ·)).map strange else some (strange c)

def word (cs : List Char) : Except Complaint Lexeme :=
  match nameFault? cs with
  | some c => .error c
  | none =>
    let text := String.ofList cs
    .ok (if reserved.contains text then .word text else .name text)

def longSigns : List String :=
  ["**=", "...", "//=", "<<=", ">>=", "!=", "%=", "&=", "**", "*=", "+=", "-=", "->", "//", "/=", ":=", "<<",
   "<=", "<>", "==", ">=", ">>", "@=", "^=", "|="]

def sign (c : Char) (rest : List Char) : Except Complaint (Lexeme × List Char) :=
  match longSigns.find? fun s => s.toList.isPrefixOf (c :: rest) with
  | some s => .ok (.sign s, (c :: rest).drop s.length)
  | none => if Text.isPrintable c then .ok (.sign c.toString, rest) else .error (.hiddenCharacter c)

def next (c : Char) (rest : List Char) : Except Complaint (Lexeme × List Char) :=
  let cs := c :: rest
  if c.isDigit || (c = '.' && startsDigit rest) then
    (number cs).map fun r => (.number r.1, r.2)
  else
    let name := cs.takeWhile isNameChar
    let after := cs.drop name.length
    if (after.head?.map isQuote).getD false && (quoteKind? name).isSome then
      let (bytes, fields) := (quoteKind? name).getD (false, false)
      quoted bytes fields after
    else if name.isEmpty then sign c rest
    else (word name).map (·, after)

/-! ### Brackets -/

def maxDepth : Nat := 200

def closes (opener closer : Char) : Bool :=
  (opener = '(' && closer = ')') || (opener = '[' && closer = ']')
    || (opener = '\x7b' && closer = '\x7d')

def brackets (opened : List Char) (c : Char) : Except Complaint (List Char) :=
  if c = '(' || c = '[' || c = '\x7b' then
    if maxDepth ≤ opened.length then .error .tooDeep else .ok (c :: opened)
  else if c = ')' || c = ']' || c = '\x7d' then
    match opened with
    | [] => .error (.closing c)
    | o :: opened => if closes o c then .ok opened else .error (.mismatch c o)
  else .ok opened

def bracketsAfter (opened : List Char) : Lexeme → Except Complaint (List Char)
  | .sign text =>
    match text.toList with
    | [c] => brackets opened c
    | _ => .ok opened
  | _ => .ok opened

def finish (opened : List Char) : List Token × Ending :=
  match opened with
  | [] => ([⟨.finish, 0⟩], .done)
  | c :: _ => ([], .stuck (.neverClosed c))

def readFrom : Nat → List Char → List Char → List Token × Ending
  | 0, opened, _ => finish opened
  | fuel + 1, opened, cs =>
    match cs.dropWhile isGap with
    | [] | '#' :: _ => finish opened
    | '\\' :: _ => ([], .stuck .loneBackslash)
    | c :: rest =>
      let step := do
        let (l, rest) ← next c rest
        let opened ← bracketsAfter opened l
        .ok (l, opened, rest)
      match step with
      | .error fault => ([], .broken fault)
      | .ok (l, opened, rest) =>
        let (tokens, ending) := readFrom fuel opened rest
        (⟨l, opened.length⟩ :: tokens, ending)

def readAll (cs : List Char) : List Token × Ending := readFrom (cs.length + 1) [] cs

end Token
end PgJinja.Terminal.Expression
