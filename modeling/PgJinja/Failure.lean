import PgJinja.Diagnostic.Code
import PgJinja.Line
import PgJinja.Text.Numeral
import PgJinja.Text.Quoted

/-! What can stop the work on a source. A refusal is an expected outcome: it names the source and the
line and becomes a diagnostic. A misfit is a value of a shape that the reader or the compiler has no use
for. A limit is a bound of the host: of the digits of a number, or of the length of a line. -/
namespace PgJinja

/-- What a raw node is filed under: a name, or a place in a list. -/
inductive Key where
  | name (s : String)
  | place (index : Line)
  deriving DecidableEq, Repr

instance : Coe String Key := ⟨.name⟩

def Key.text : Key → String
  | name s => s
  | place index => index.text

inductive Part where
  | any
  | tree
  | node
  deriving DecidableEq, Repr

inductive Cause where
  | general (message : String)
  | source (message : String)
  | missing (part : Part) (kind : Key) (field : String)
  deriving DecidableEq, Repr

namespace Cause

def code : Cause → Code
  | general _ => .noFunction
  | source _ => .badSource
  | missing .. => .missingField

def message : Cause → String
  | general m => m
  | source m => m
  | missing _ kind field => Code.missingField.message [("field", field), ("kind", kind.text)]

end Cause

structure Refusal where
  cause : Cause
  file : Option String := none
  line : Option Line := none
  deriving DecidableEq, Repr

/-- The last index that a list or a text can have. -/
def maxIndex : Nat := Nat.pow 2 63 - 1

inductive Misfit where
  /-- Fields were asked of a value that is no object. -/
  | noFields (found : Shape)
  | noItems (found : Shape)
  | noMembers (found : Shape)
  /-- A value was indexed by a key of a shape that it does not take. -/
  | noKeys (found key : Shape)
  | noLength (found : Shape)
  | absentKey (key : String)
  | absentItem
  /-- A list was indexed by a place that it does not have. -/
  | absentPlace (index : Int)
  | emptyNode
  | noNumber (found : Shape)
  | numeral (fault : Text.NumeralFault)
  | infiniteNumber
  | undefinedNumber
  /-- The parser refused a source without saying why. -/
  | noErrorText
  | notAStatement (found : Shape)
  /-- A branch has no text to search. -/
  | noText
  | negativeIndent (indent : Int)
  deriving DecidableEq, Repr

namespace Misfit

def wideIndex : String := "cannot fit 'int' into an index-sized integer"

def message : Misfit → String
  | noFields found => "'" ++ found.name ++ "' object has no attribute 'get'"
  | noItems found => "'" ++ found.name ++ "' object is not iterable"
  | noMembers found => "argument of type '" ++ found.name ++ "' is not iterable"
  | noKeys .text key => "string indices must be integers, not '" ++ key.name ++ "'"
  | noKeys .list key => "list indices must be integers or slices, not " ++ key.name
  | noKeys found _ => "'" ++ found.name ++ "' object is not subscriptable"
  | noLength found => "object of type '" ++ found.name ++ "' has no len()"
  | absentKey key => Text.quoted key
  | absentItem => "0"
  | absentPlace index =>
    if -(maxIndex : Int) - 1 ≤ index ∧ index ≤ maxIndex then "list index out of range" else wideIndex
  | emptyNode => ""
  | noNumber found =>
    "int() argument must be a string, a bytes-like object or a real number, not '" ++ found.name ++ "'"
  | numeral fault => fault.message
  | infiniteNumber => "cannot convert float infinity to integer"
  | undefinedNumber => "cannot convert float NaN to integer"
  | noErrorText => "tuple index out of range"
  | notAStatement found => "not a statement node: " ++ found.name
  | noText => "expected string or bytes-like object, got 'NoneType'"
  | negativeIndent indent => "indent must be non-negative, got " ++ intText indent

end Misfit

/-- A bound of the host that the work can go beyond. -/
inductive Limit where
  /-- An integer has more digits than are written. -/
  | digits
  /-- A line would start with more spaces than there is room for. -/
  | columns (width : Nat)
  deriving DecidableEq, Repr

def Limit.message : Limit → String
  | digits =>
    "Exceeds the limit (" ++ natText maxDigits ++ " digits) for integer string conversion; "
      ++ "use sys.set_int_max_str_digits() to increase the limit"
  | columns width => if maxIndex < width then Misfit.wideIndex else ""

inductive Failure where
  | refused (refusal : Refusal)
  | misfit (misfit : Misfit)
  | exceeded (limit : Limit)
  deriving DecidableEq, Repr

def Failure.message : Failure → String
  | .refused r => r.cause.message
  | .misfit m => m.message
  | .exceeded limit => limit.message

end PgJinja
