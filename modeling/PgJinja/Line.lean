import PgJinja.Json.Value

/-! Line numbers of a source. A tree gives a line as an integer; a truth value in its place counts as
0 or 1 and keeps its own spelling. -/
namespace PgJinja

inductive Line where
  | number (n : Int)
  | truth (b : Bool)
  deriving DecidableEq, Repr, Inhabited

namespace Line

def value : Line → Int
  | number n => n
  | truth b => if b then 1 else 0

def text : Line → String
  | number n => intText n
  | truth true => "True"
  | truth false => "False"

def toJson : Line → Json
  | number n => .int n
  | truth b => .bool b

def ofJson? : Json → Option Line
  | .int n => some (.number n)
  | .bool b => some (.truth b)
  | _ => none

def orFirst (line : Option Line) : Line := line.getD (.number 1)

end Line
end PgJinja
