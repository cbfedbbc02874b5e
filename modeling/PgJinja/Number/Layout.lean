import PgJinja.Number.Shortest

/-! Texts of numbers: integers in decimal, floating-point numbers with the fewest digits that read
back. -/
namespace PgJinja

def natText (n : Nat) : String := String.ofList (Nat.toDigits 10 n)

def intText : Int → String
  | .ofNat n => natText n
  | .negSucc n => "-" ++ natText (n + 1)

def maxDigits : Nat := 4300

/-- Only short integers are ever written; `intText` lays out any of them. -/
def isShort (n : Int) : Bool := (Nat.toDigits 10 n.natAbs).length ≤ maxDigits

structure Layout where
  /-- Points in this range are written without an exponent. -/
  least : Int
  greatest : Int
  mark : String
  exponentWidth : Nat
  infinity : String
  notANumber : String

/-- Values from 0.0001 up to 10^16 are positional and always show a fractional part; others have a
signed exponent of at least two digits. -/
def Layout.standard : Layout := ⟨-3, 16, "e", 2, "inf", "nan"⟩

def Layout.document : Layout := { Layout.standard with infinity := "Infinity", notANumber := "NaN" }

def zeroPad (width : Nat) (s : String) : String :=
  String.ofList (List.replicate (width - s.length) '0') ++ s

def Layout.positional (d : Decimal) : List Char :=
  if d.point ≤ 0 then '0' :: '.' :: (List.replicate (-d.point).toNat '0' ++ d.digits)
  else
    let k := d.point.toNat
    let whole := d.digits.take k ++ List.replicate (k - d.digits.length) '0'
    let rest := d.digits.drop k
    whole ++ '.' :: (if rest.isEmpty then ['0'] else rest)

def Layout.scientific (l : Layout) (d : Decimal) : List Char :=
  let e := d.point - 1
  let lead := match d.digits with
    | [] => ['0']
    | [c] => [c]
    | c :: cs => c :: '.' :: cs
  let sign := if e < 0 then '-' else '+'
  lead ++ l.mark.toList ++ sign :: (zeroPad l.exponentWidth (natText e.natAbs)).toList

def Layout.text (l : Layout) (x : Binary64) : String :=
  let sign := if x.negative then "-" else ""
  if x.isFinite then
    if x.isZero then sign ++ "0.0"
    else
      let d := x.shortest
      let body :=
        if l.least ≤ d.point && d.point ≤ l.greatest then Layout.positional d else l.scientific d
      sign ++ String.ofList body
  else if x.fraction = 0 then sign ++ l.infinity
  else l.notANumber

end PgJinja
