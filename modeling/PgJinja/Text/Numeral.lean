import PgJinja.Number.Layout
import PgJinja.Text.Basic
import PgJinja.Text.Digit
import PgJinja.Text.Quoted

/-! Whole numbers written as text: blanks around, one sign, digits of any script, and single
underscores between digits. -/
namespace PgJinja.Text

/-- The separators among the control characters do not count as blanks around a number. -/
def isNumeralBlank (c : Char) : Bool := isBlank c && !(0x1C ≤ c.toNat && c.toNat ≤ 0x1F)

def spanDigits? (after : Bool) : List Char → Option (List Nat × List Char)
  | [] => if after then some ([], []) else none
  | c :: cs =>
    if c = '_' then if after then spanDigits? false cs else none
    else
      match digitValue? c with
      | some d => (spanDigits? true cs).map fun r => (d :: r.1, r.2)
      | none => if after then some ([], c :: cs) else none

inductive NumeralFault where
  | bad (text : List Char)
  | long (digits : Nat)
  deriving DecidableEq, Repr

def NumeralFault.message : NumeralFault → String
  | bad text =>
    "invalid literal for int() with base 10: " ++ String.ofList ((quotedChars text).take 200)
  | long digits =>
    "Exceeds the limit (" ++ natText maxDigits ++ " digits) for integer string conversion: value has "
      ++ natText digits ++ " digits; use sys.set_int_max_str_digits() to increase the limit"

def digitsValue (digits : List Nat) : Nat := digits.foldl (fun n d => n * 10 + d) 0

/-- The number that a text stands for. The digits are counted before what follows them is looked at. -/
def numeral (text : List Char) : Except NumeralFault Int :=
  let (negative, digits) := splitSign (text.dropWhile isNumeralBlank)
  match spanDigits? false digits with
  | none => .error (.bad text)
  | some (digits, rest) =>
    if maxDigits < digits.length then .error (.long digits.length)
    else if !rest.all isNumeralBlank then .error (.bad text)
    else .ok (if negative then -(digitsValue digits : Int) else digitsValue digits)

end PgJinja.Text
