import PgJinja.Terminal.Expression.Grammar

/-! Reading expressions. A text that does not fit the grammar is read once more to find out why. A broken text
is always called so, whatever else is wrong with it. -/
namespace PgJinja.Terminal.Expression

open Reader

namespace Ending

def fault : Ending → Complaint
  | done => .invalid
  | stuck c | broken c => c

/-- What to say about a text that cannot be read. `c` is the reason for it if the text is not broken, and also
if it could not be read to its end. -/
def verdict (c : Complaint) : Ending → Complaint
  | broken fault => if c = .overflow then c else fault
  | done | stuck _ => c

end Ending

def readWith (reader : Reader Tree) (inPlace : Complaint → Complaint)
    (fieldFault? : List Char → Option Complaint) (cs : List Char) : Except Complaint Tree :=
  let (tokens, ending) := Token.readAll cs
  let input (explains : Bool) : Input :=
    ⟨tokens.toArray, 0, ending.fault, explains, inPlace, fieldFault?⟩
  let blank : Memory := (tokens.map fun _ => []).toArray
  match reader (input false) 0 blank with
  | .read t _ _ => .ok t
  | .complaint c => .error (ending.verdict c)
  | .unfit _ =>
    match reader (input true) 0 blank with
    | .complaint c => .error (ending.verdict c)
    | _ => .error (ending.verdict (inPlace .invalid))

/-- What is wrong with the expression of a field, which is read as if it stood in parentheses. A field stands
in a longer text, so the text is at most so many fields deep as it is long. -/
def fieldFault? : Nat → List Char → Option Complaint
  | 0, _ => none
  | depth + 1, e =>
    match readWith (nested (starExpressions Grammar.rule)) .inField (Field.fault? (fieldFault? depth))
        ('(' :: e ++ [')']) with
    | .ok _ => none
    | .error c => some c

def read (cs : List Char) : Except Complaint Tree :=
  readWith Grammar.whole id (Field.fault? (fieldFault? cs.length)) cs

end PgJinja.Terminal.Expression
