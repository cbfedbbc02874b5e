import PgJinja.Json.Value
import PgJinja.Text.Digit

/-! Reading JSON texts. Fields keep the order in which their names first appear, and the last value of
a repeated name counts. -/
namespace PgJinja.Json

def isSpace (c : Char) : Bool := c = ' ' || c = '\n' || c = '\t' || c = '\r'

def skipSpace (cs : List Char) : List Char := cs.dropWhile isSpace

def readUnit? : List Char → Option (Nat × List Char)
  | a :: b :: c :: d :: rest => do
    let a ← Text.hexValue? a
    let b ← Text.hexValue? b
    let c ← Text.hexValue? c
    let d ← Text.hexValue? d
    return (((a * 16 + b) * 16 + c) * 16 + d, rest)
  | _ => none

/-- The character of an escape after its backslash; two surrogates make one character. -/
def readEscape? : List Char → Option (Char × List Char)
  | 'u' :: cs => do
    let (high, rest) ← readUnit? cs
    if 0xD800 ≤ high ∧ high < 0xDC00 then
      match rest with
      | '\\' :: 'u' :: more =>
        let (low, rest) ← readUnit? more
        if 0xDC00 ≤ low ∧ low < 0xE000 then
          some (Char.ofNat (0x10000 + (high - 0xD800) * 0x400 + (low - 0xDC00)), rest)
        else none
      | _ => none
    else if 0xDC00 ≤ high ∧ high < 0xE000 then none
    else some (Char.ofNat high, rest)
  | c :: cs =>
    if c = '"' || c = '\\' || c = '/' then some (c, cs)
    else if c = 'n' then some ('\n', cs)
    else if c = 'r' then some ('\r', cs)
    else if c = 't' then some ('\t', cs)
    else if c = 'b' then some (Char.ofNat 8, cs)
    else if c = 'f' then some (Char.ofNat 12, cs)
    else none
  | [] => none

def readChars? : Nat → List Char → Option (List Char × List Char)
  | 0, _ => none
  | _ + 1, [] => none
  | fuel + 1, c :: cs =>
    if c = '"' then some ([], cs)
    else if c = '\\' then do
      let (c, rest) ← readEscape? cs
      let (text, rest) ← readChars? fuel rest
      return (c :: text, rest)
    else if c.toNat < 0x20 then none
    else do
      let (text, rest) ← readChars? fuel cs
      return (c :: text, rest)

def readString? (cs : List Char) : Option (String × List Char) :=
  match cs with
  | '"' :: rest => (readChars? (rest.length + 1) rest).map fun (s, rest) => (String.ofList s, rest)
  | _ => none

def digitsValue (ds : List Char) : Nat := ds.foldl (fun n c => n * 10 + (c.toNat - 48)) 0

def spanDigits (cs : List Char) : List Char × List Char :=
  (cs.takeWhile Char.isDigit, cs.dropWhile Char.isDigit)

def readFraction? : List Char → Option (List Char × List Char)
  | '.' :: cs =>
    let (ds, rest) := spanDigits cs
    if ds.isEmpty then none else some (ds, rest)
  | cs => some ([], cs)

def readExponent? (cs : List Char) : Option (Option Int × List Char) :=
  match cs with
  | e :: rest =>
    if e = 'e' || e = 'E' then
      let (negative, rest) := Text.splitSign rest
      let (ds, rest) := spanDigits rest
      let n : Int := digitsValue ds
      if ds.isEmpty then none else some (some (if negative then -n else n), rest)
    else some (none, cs)
  | [] => some (none, [])

def readMagnitude? (negative : Bool) (cs : List Char) : Option (Json × List Char) := do
  let (whole, rest) := spanDigits cs
  if whole.isEmpty || (whole.head? = some '0' && whole.length != 1) then none
  else
    let (fraction, rest) ← readFraction? rest
    let (exponent, rest) ← readExponent? rest
    if fraction.isEmpty && exponent.isNone then
      let n : Int := digitsValue whole
      return (int (if negative then -n else n), rest)
    else
      let scale := exponent.getD 0 - fraction.length
      return (float (Binary64.ofDecimal negative (digitsValue (whole ++ fraction)) scale), rest)

def dropWord? : List Char → List Char → Option (List Char)
  | [], cs => some cs
  | w :: ws, c :: cs => if w = c then dropWord? ws cs else none
  | _ :: _, [] => none

def readNumber? (cs : List Char) : Option (Json × List Char) :=
  match cs with
  | 'N' :: _ => (dropWord? "NaN".toList cs).map (float (Binary64.notANumber false), ·)
  | 'I' :: _ => (dropWord? "Infinity".toList cs).map (float (Binary64.infinity false), ·)
  | '-' :: 'I' :: rest => (dropWord? "nfinity".toList rest).map (float (Binary64.infinity true), ·)
  | '-' :: rest => readMagnitude? true rest
  | _ => readMagnitude? false cs

mutual
def readValue? : Nat → List Char → Option (Json × List Char)
  | 0, _ => none
  | fuel + 1, cs =>
    match cs with
    | 'n' :: _ => (dropWord? "null".toList cs).map (null, ·)
    | 't' :: _ => (dropWord? "true".toList cs).map (bool true, ·)
    | 'f' :: _ => (dropWord? "false".toList cs).map (bool false, ·)
    | '"' :: _ => (readString? cs).map fun (s, rest) => (str s, rest)
    | '[' :: rest =>
      match skipSpace rest with
      | ']' :: rest => some (arr [], rest)
      | rest => (readItems? fuel rest).map fun (vs, rest) => (arr vs, rest)
    | '\x7b' :: rest =>
      match skipSpace rest with
      | '\x7d' :: rest => some (obj [], rest)
      | rest => (readMembers? fuel rest).map fun (fs, rest) => (obj (Assoc.merge [] fs), rest)
    | _ => readNumber? cs
def readItems? : Nat → List Char → Option (List Json × List Char)
  | 0, _ => none
  | fuel + 1, cs => do
    let (v, rest) ← readValue? fuel cs
    match skipSpace rest with
    | ',' :: rest =>
      let (vs, rest) ← readItems? fuel (skipSpace rest)
      return (v :: vs, rest)
    | ']' :: rest => some ([v], rest)
    | _ => none
def readMembers? : Nat → List Char → Option (List (String × Json) × List Char)
  | 0, _ => none
  | fuel + 1, cs => do
    let (key, rest) ← readString? cs
    match skipSpace rest with
    | ':' :: rest =>
      let (v, rest) ← readValue? fuel (skipSpace rest)
      match skipSpace rest with
      | ',' :: rest =>
        let (fs, rest) ← readMembers? fuel (skipSpace rest)
        return ((key, v) :: fs, rest)
      | '\x7d' :: rest => some ([(key, v)], rest)
      | _ => none
    | _ => none
end

def read? (text : String) : Option Json := do
  let cs := text.toList
  let (v, rest) ← readValue? (cs.length + 1) (skipSpace cs)
  if (skipSpace rest).isEmpty then some v else none

end PgJinja.Json
