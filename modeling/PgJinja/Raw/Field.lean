import PgJinja.Failure
import PgJinja.Json.Display
import PgJinja.Statement
import PgJinja.Text.Basic
import PgJinja.Text.Numeral

/-! Fields of a raw node. Every node of the parser's tree is an object whose first field is its kind,
with the payload under it; expressions are wrapped once more. A list is taken for a node as well: its first
item says where in the list the payload stands. -/
namespace PgJinja.Raw

abbrev Fields := List (String × Json)

abbrev Reading := Except Failure

def functionKey : String := "PLpgSQL_function"
def expressionKey : String := "PLpgSQL_expr"
def variableKey : String := "PLpgSQL_var"
def rowKey : String := "PLpgSQL_row"
def recordKey : String := "PLpgSQL_rec"
def whenKey : String := "PLpgSQL_case_when"
def elsifKey : String := "PLpgSQL_if_elsif"

def misfit (m : Misfit) : Reading α := .error (.misfit m)

def textOf (v : Json) : Reading String :=
  if v.isShort then .ok v.display else .error (.exceeded .digits)

def textOrEmpty (v : Json) : Reading String := if v.given then textOf v else .ok ""

/-- The item of a list at a place; a negative one counts from the end. -/
def itemAt? (vs : List Json) (index : Int) : Option Json :=
  if 0 ≤ index then vs[index.toNat]?
  else if -index ≤ vs.length then vs[vs.length - index.natAbs]?
  else none

def node : Json → Reading (Key × Json)
  | .obj ((kind, payload) :: _) => .ok (kind, payload)
  | .obj [] | .arr [] => misfit .emptyNode
  | .arr (v :: vs) =>
    match Line.ofJson? v with
    | none => misfit (.noKeys .list v.shape)
    | some place =>
      match itemAt? (v :: vs) place.value with
      | some payload => .ok (.place place, payload)
      | none => misfit (.absentPlace place.value)
  | .str s => misfit (if s = "" then .emptyNode else .noKeys .text .text)
  | v => misfit (.noItems v.shape)

def payloadFields (v : Json) : Reading Fields :=
  match v with
  | .obj fields => .ok fields
  | v => if v.given then misfit (.noFields v.shape) else .ok []

def objectFields : Json → Reading Fields
  | .obj fields => .ok fields
  | v => misfit (.noFields v.shape)

def line (fields : Fields) : Option Line := Line.ofJson? (Json.field fields "lineno")

def missing (file : Option String) (kind : Key) (field : String) (line : Option Line) : Reading α :=
  .error (.refused ⟨.missing .tree kind field, file, line⟩)

def needed (file : Option String) (fields : Fields) (field : String) (kind : Key) : Reading Json :=
  match Json.field fields field with
  | .null => missing file kind field (line fields)
  | v => .ok v

def wrappedQuery (fields : Fields) : Reading Json :=
  match fields.lookup expressionKey with
  | none => .ok .null
  | some v => (objectFields v).map fun inner => Json.field inner "query"

def expression (file : Option String) (fields : Fields) (field kind : String) : Reading String := do
  let found ← match ← needed file fields field kind with
    | .obj expr => wrappedQuery expr
    | _ => pure .null
  match found with
  | .null => missing file kind (field ++ ".query") (line fields)
  | v => textOf v

def expression? (fields : Fields) (field : String) : Reading (Option String) := do
  match Json.field fields field with
  | .obj expr =>
    let query ← wrappedQuery expr
    if query.given then some <$> textOf query else return none
  | _ => return none

def integer : Json → Reading Int
  | .int n => .ok n
  | .bool b => .ok (if b then 1 else 0)
  | .float x =>
    if x.isFinite then .ok x.truncate
    else misfit (if x.fraction = 0 then .infiniteNumber else .undefinedNumber)
  | .str s =>
    match Text.numeral s.toList with
    | .ok n => .ok n
    | .error fault => misfit (.numeral fault)
  | v => misfit (.noNumber v.shape)

/-- The level of a raised message. Without a level of its own it follows the severity of the server's
log: 21 and above is an error, 19 and above a warning. -/
def levelOf (fields : Fields) : Reading Int :=
  match Json.field fields "errlevel" with
  | .null => do
    let severity := Json.field fields "elog_level"
    let n ← if severity.given then integer severity else pure 0
    return if 21 ≤ n then Statement.errorLevel else if 19 ≤ n then Statement.warningLevel else 0
  | v => integer v

end PgJinja.Raw
