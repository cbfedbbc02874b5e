import PgJinja.Terminal.Expression.Value
import PgJinja.Text.Basic
import PgJinja.Text.Word

/-! Arguments of tags that name an action: a name, a call of it with plain values, or plain values
alone. -/
namespace PgJinja.Terminal

/-- The values in an argument. A name stands for a call without any. -/
def argumentValues (argument : List Char) : List Char :=
  let argument := Text.trim argument
  match argument.dropWhile fun c => Text.isWord c || c = '.' with
  | [] => ['(', ')']
  | '(' :: rest =>
    if rest.getLast? == some ')' && rest.all (· != '\n') then '(' :: rest else argument
  | _ => argument

inductive ArgumentFault where
  | text (c : Expression.Complaint)
  | deep
  | value (fault : Expression.ValueFault)
  deriving DecidableEq, Repr

def argumentFault? (argument : List Char) : Option ArgumentFault :=
  match Expression.read (argumentValues argument) with
  | .error .overflow => some .deep
  | .error c => some (.text c)
  | .ok t =>
    match t.changing? with
    | .error fault => some (.value fault)
    | .ok _ => none

namespace ArgumentFault

def message (argument : List Char) (fault : ArgumentFault) : String :=
  let quoted (cs : List Char) := String.ofList (Text.quotedChars cs)
  match fault with
  | text c =>
    "error parsing " ++ quoted (argumentValues argument) ++ " in " ++ quoted argument ++ "; " ++ c.message
  | deep => "error parsing " ++ quoted argument ++ "; "
  | value fault => "error parsing " ++ quoted argument ++ "; " ++ fault.message

end ArgumentFault
end PgJinja.Terminal
