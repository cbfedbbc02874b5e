import PgJinja.Config.Toml.Value
import PgJinja.Text.Digit
import PgJinja.Text.Numeral

/-! Words of a configuration file: blanks, comments, strings, keys, numbers, dates and times. Each reader
gives what it read and the rest of the text. -/
namespace PgJinja.Toml

abbrev Reader (α : Type) := List Char → Option (α × List Char)

def isBlank (c : Char) : Bool := c = ' ' || c = '\t'

def skipBlanks (cs : List Char) : List Char := cs.dropWhile isBlank

def skipBlankLines (cs : List Char) : List Char := cs.dropWhile fun c => isBlank c || c = '\n'

def isIllegal (c : Char) : Bool := (c.toNat < 32 || c.toNat = 127) && c != '\t'

def isIllegalInLines (c : Char) : Bool := isIllegal c && c != '\n'

def skipComment (cs : List Char) : Option (List Char) :=
  match cs with
  | '#' :: rest =>
    if (rest.takeWhile (· != '\n')).any isIllegal then none else some (rest.dropWhile (· != '\n'))
  | _ => some cs

def skipFiller : Nat → List Char → Option (List Char)
  | 0, cs => some cs
  | fuel + 1, cs =>
    let cs := skipBlankLines cs
    match cs with
    | '#' :: _ => do skipFiller fuel (← skipComment cs)
    | _ => some cs

def isBareKey (c : Char) : Bool := c.isAlphanum || c = '-' || c = '_'

def hexChar (count : Nat) : Reader Char := fun cs => do
  let digits := cs.take count
  if digits.length != count then none
  else
    let values ← digits.mapM Text.hexValue?
    let n := values.foldl (fun n d => n * 16 + d) 0
    if n.isValidChar then some (Char.ofNat n, cs.drop count) else none

/-- An escape after its backslash. A backslash at the end of a line joins it with the next text. -/
def escape (multiline : Bool) : Reader (List Char) := fun cs =>
  match cs with
  | 'u' :: rest => (hexChar 4 rest).map fun (c, rest) => ([c], rest)
  | 'U' :: rest => (hexChar 8 rest).map fun (c, rest) => ([c], rest)
  | 'b' :: rest => some ([Char.ofNat 8], rest)
  | 't' :: rest => some (['\t'], rest)
  | 'n' :: rest => some (['\n'], rest)
  | 'f' :: rest => some ([Char.ofNat 12], rest)
  | 'r' :: rest => some (['\r'], rest)
  | '"' :: rest => some (['"'], rest)
  | '\\' :: rest => some (['\\'], rest)
  | '\n' :: rest => if multiline then some ([], skipBlankLines rest) else none
  | c :: rest =>
    if multiline && isBlank c then
      match skipBlanks rest with
      | '\n' :: rest => some ([], skipBlankLines rest)
      | [] => some ([], [])
      | _ => none
    else none
  | [] => none

def basicChars (multiline : Bool) : Nat → Reader (List Char)
  | 0, _ => none
  | fuel + 1, cs =>
    match cs with
    | [] => none
    | '"' :: rest =>
      if multiline then
        match rest with
        | '"' :: '"' :: rest => some ([], rest)
        | _ => (basicChars multiline fuel rest).map fun (s, rest) => ('"' :: s, rest)
      else some ([], rest)
    | '\\' :: rest => do
      let (c, rest) ← escape multiline rest
      let (s, rest) ← basicChars multiline fuel rest
      return (c ++ s, rest)
    | c :: rest =>
      if (if multiline then isIllegalInLines c else isIllegal c) then none
      else (basicChars multiline fuel rest).map fun (s, rest) => (c :: s, rest)

def literalChars : Reader (List Char) := fun cs =>
  let s := cs.takeWhile (· != '\x27')
  match cs.dropWhile (· != '\x27') with
  | _ :: rest => if s.any isIllegal then none else some (s, rest)
  | [] => none

def literalLines : Reader (List Char)
  | [] => none
  | '\x27' :: '\x27' :: '\x27' :: rest => some ([], rest)
  | c :: rest =>
    if isIllegalInLines c then none else (literalLines rest).map fun (s, rest) => (c :: s, rest)

/-- Up to two quotes right after the end of a string of several lines belong to it. -/
def extraQuotes (quote : Char) (s cs : List Char) : List Char × List Char :=
  match cs with
  | a :: b :: rest =>
    if a = quote then if b = quote then (s ++ [a, b], rest) else (s ++ [a], b :: rest) else (s, cs)
  | [a] => if a = quote then (s ++ [a], []) else (s, cs)
  | [] => (s, cs)

def dropNewline (cs : List Char) : List Char :=
  match cs with
  | '\n' :: rest => rest
  | _ => cs

def string : Reader String := fun cs =>
  let found := match cs with
    | '"' :: '"' :: '"' :: rest =>
      (basicChars true (rest.length + 1) (dropNewline rest)).map fun (s, rest) => extraQuotes '"' s rest
    | '"' :: rest => basicChars false (rest.length + 1) rest
    | '\x27' :: '\x27' :: '\x27' :: rest =>
      (literalLines (dropNewline rest)).map fun (s, rest) => extraQuotes '\x27' s rest
    | '\x27' :: rest => literalChars rest
    | _ => none
  found.map fun (s, rest) => (String.ofList s, rest)

def keyPart : Reader String := fun cs =>
  match cs with
  | '"' :: rest => (basicChars false (rest.length + 1) rest).map fun (s, rest) => (String.ofList s, rest)
  | '\x27' :: rest => (literalChars rest).map fun (s, rest) => (String.ofList s, rest)
  | _ =>
    let s := cs.takeWhile isBareKey
    if s.isEmpty then none else some (String.ofList s, cs.dropWhile isBareKey)

def key : Nat → Reader Key
  | 0, _ => none
  | fuel + 1, cs => do
    let (part, rest) ← keyPart cs
    match skipBlanks rest with
    | '.' :: rest =>
      let (parts, rest) ← key fuel (skipBlanks rest)
      return (part :: parts, rest)
    | rest => return ([part], rest)

def digitsValue (base : Nat) (ds : List Char) : Nat :=
  ds.foldl (fun n c => n * base + (Text.hexValue? c).getD 0) 0

def isHexDigit (c : Char) : Bool := (Text.hexValue? c).isSome

def basedInteger : Reader Value := fun cs =>
  let based (base : Nat) (ok : Char → Bool) (rest : List Char) : Option (Value × List Char) :=
    let (ds, rest) := Text.digitRun ok rest
    if ds.isEmpty then none else some (.int (digitsValue base ds), rest)
  match cs with
  | '0' :: 'x' :: rest => based 16 isHexDigit rest
  | '0' :: 'b' :: rest => based 2 (fun c => c = '0' || c = '1') rest
  | '0' :: 'o' :: rest => based 8 (fun c => '0' ≤ c && c ≤ '7') rest
  | _ => none

def wholeDigits (cs : List Char) : List Char × List Char :=
  match cs with
  | '0' :: rest => (['0'], rest)
  | _ => Text.digitRun Char.isDigit cs

def fractionDigits (cs : List Char) : List Char × List Char :=
  match cs with
  | '.' :: rest =>
    let (ds, more) := Text.digitRun Char.isDigit rest
    if ds.isEmpty then ([], cs) else (ds, more)
  | _ => ([], cs)

def exponentPart (cs : List Char) : Option Int × List Char :=
  match cs with
  | e :: rest =>
    if e = 'e' || e = 'E' then
      let (negative, rest) := Text.splitSign rest
      let (ds, more) := Text.digitRun Char.isDigit rest
      let n : Int := digitsValue 10 ds
      if ds.isEmpty then (none, cs) else (some (if negative then -n else n), more)
    else (none, cs)
  | [] => (none, [])

def decimal : Reader Value := fun cs =>
  let (negative, rest) := Text.splitSign cs
  let (whole, rest) := wholeDigits rest
  if whole.isEmpty then none
  else
    let (fraction, rest) := fractionDigits rest
    let (exponent, rest) := exponentPart rest
    if fraction.isEmpty && exponent.isNone then
      let n : Int := digitsValue 10 whole
      some (.int (if negative then -n else n), rest)
    else
      let scale := exponent.getD 0 - fraction.length
      some (.float (Binary64.ofDecimal negative (digitsValue 10 (whole ++ fraction)) scale), rest)

def longInteger? (cs : List Char) : Option Nat :=
  let (whole, rest) := wholeDigits (Text.splitSign cs).2
  if maxDigits < whole.length && (fractionDigits rest).1.isEmpty && (exponentPart rest).1.isNone
  then some whole.length
  else none

def notFinite : Reader Value := fun cs =>
  let (negative, rest) := Text.splitSign cs
  match rest with
  | 'i' :: 'n' :: 'f' :: rest => some (.float (Binary64.infinity negative), rest)
  | 'n' :: 'a' :: 'n' :: rest => some (.float (Binary64.notANumber negative), rest)
  | _ => none

def fixed (count low high : Nat) : Reader Nat := fun cs =>
  let ds := cs.take count
  let n := digitsValue 10 ds
  if ds.length = count && ds.all Char.isDigit && low ≤ n && n ≤ high then some (n, cs.drop count)
  else none

def expect (c : Char) (cs : List Char) : Option (List Char) :=
  match cs with
  | d :: rest => if c = d then some rest else none
  | [] => none

def timeOfDay (cs : List Char) : Option (List Char) := do
  let (_, cs) ← fixed 2 0 23 cs
  let (_, cs) ← fixed 2 0 59 (← expect ':' cs)
  let (_, cs) ← fixed 2 0 59 (← expect ':' cs)
  match cs with
  | '.' :: rest =>
    if (rest.takeWhile Char.isDigit).isEmpty then some cs else some (rest.dropWhile Char.isDigit)
  | _ => some cs

def offset (cs : List Char) : List Char :=
  match cs with
  | c :: rest =>
    if c = 'Z' || c = 'z' then rest
    else if c = '+' || c = '-' then
      let found := do
        let (_, rest) ← fixed 2 0 23 rest
        let (_, rest) ← fixed 2 0 59 (← expect ':' rest)
        some rest
      found.getD cs
    else cs
  | [] => cs

def isLeap (year : Nat) : Bool := year % 4 == 0 && (year % 100 != 0 || year % 400 == 0)

def daysOf (year month : Nat) : Nat :=
  if month = 2 then if isLeap year then 29 else 28
  else if month = 4 || month = 6 || month = 9 || month = 11 then 30
  else 31

def calendarDay : Reader (Nat × Nat × Nat) := fun cs => do
  let (year, cs) ← fixed 4 0 9999 cs
  let (month, cs) ← fixed 2 1 12 (← expect '-' cs)
  let (day, cs) ← fixed 2 1 31 (← expect '-' cs)
  return ((year, month, day), cs)

def timeAfterDate (cs : List Char) : Value × List Char :=
  match cs with
  | c :: rest =>
    if c = 'T' || c = 't' || c = ' ' then
      match timeOfDay rest with
      | some rest => (.datetime, offset rest)
      | none => (.date, cs)
    else (.date, cs)
  | [] => (.date, cs)

/-- A date, a time or both. Something of the form of a date that the calendar does not have makes the
text invalid. -/
def moment (cs : List Char) : Option (Option (Value × List Char)) :=
  match calendarDay cs with
  | some ((year, month, day), rest) =>
    if 1 ≤ year && day ≤ daysOf year month then some (some (timeAfterDate rest)) else none
  | none => some ((timeOfDay cs).map fun rest => (.time, rest))

end PgJinja.Toml
