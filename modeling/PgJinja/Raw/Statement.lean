import PgJinja.Raw.Field

/-! Reading statements from the parser's tree. A kind without a reading of its own is kept as an unknown
statement; a kind that lacks a field it requires is refused. -/
namespace PgJinja.Raw

/-- How the arms of a statement are stored: the field that lists them, the wrapper of each, and the
field of its text. -/
structure ArmForm where
  list : String
  wrapper : String
  test : String

def elsifForm : ArmForm := ⟨"elsif_list", elsifKey, "cond"⟩
def whenForm : ArmForm := ⟨"case_when_list", whenKey, "expr"⟩

structure Nested where
  body : String → Reading (List Statement)
  arms : ArmForm → Reading (List Branch)

def Nested.none : Nested := ⟨fun _ => .ok [], fun _ => .ok []⟩

def rowNames (file : Option String) : List Json → Reading (List String)
  | [] => .ok []
  | v :: vs => do
    let name ← textOf (← needed file (← objectFields v) "name" rowKey)
    return name :: (← rowNames file vs)

def items : Json → Reading (List Json)
  | .arr vs => .ok vs
  | .obj fields => .ok (fields.map fun f => .str f.1)
  | .str s => .ok (s.toList.map fun c => .str (String.singleton c))
  | v => misfit (.noItems v.shape)

def fieldItems (fields : Fields) (field : String) : Reading (List Json) :=
  match fields.lookup field with
  | none => .ok []
  | some v => items v

def intoNames (file : Option String) (fields : Fields) : Reading (List String) := do
  let (kind, payload) ← node (← needed file fields "target" Kind.execute.tag)
  if kind = rowKey then
    rowNames file (← fieldItems (← payloadFields payload) "fields")
  else if kind = variableKey || kind = recordKey then
    let name ← textOf (← needed file (← payloadFields payload) "refname" kind)
    return [Text.strip name]
  else
    missing file Kind.execute.tag ("target." ++ rowKey) (line fields)

def ofKind (file : Option String) (fields : Fields) (nested : Nested) (kind : Kind) : Reading Statement :=
  let here := line fields
  let text (field : String) : Reading String := expression file fields field kind.tag
  match kind with
  | .raise => do
    let message ← textOrEmpty (Json.field fields "message")
    return .raise message (← levelOf fields) here
  | .forQuery => do
    let query ← text "query"
    return .forQuery (Text.strip query) (← nested.body "body") here
  | .ret => do return .ret ((← expression? fields "expr").map Text.strip) here
  | .retNext => .ok (.retNext here)
  | .block => do return .block (← nested.body "body") here
  | .execute => do
    let query ← text "sqlstmt"
    let into ← if (Json.field fields "into").given then some <$> intoNames file fields else pure none
    return .execute (Text.strip query) (into.map (·.map .named)) here
  | .dynamic => do return .dynamic (Text.strip (← text "query")) here
  | .assign => do return .assign (Text.strip (← text "expr")) here
  | .choose => do
    let arms ← nested.arms elsifForm
    let test ← text "cond"
    let body ← nested.body "then_body"
    let otherwise ← match Json.field fields "else_body" with
      | .null => pure none
      | _ => some <$> nested.body "else_body"
    return .choose test body arms otherwise here
  | .select => do
    let arms ← nested.arms whenForm
    let subject ← text "t_expr"
    let otherwise ← nested.body "else_stmts"
    return .select (Text.strip subject) arms (Json.field fields "have_else").given otherwise here

def ofFields (file : Option String) (tag : String) (fields : Fields) (nested : Nested) :
    Reading Statement :=
  match Kind.ofTag? tag with
  | some kind => ofKind file fields nested kind
  | none => .ok (.unknown (some tag) (line fields))

mutual
def statement (file : Option String) : Json → Reading Statement
  | .obj ((tag, payload) :: _) => payloadStatement file tag payload
  | v => do
    let (kind, payload) ← node v
    return .unknown (some kind) (line (← payloadFields payload))
def payloadStatement (file : Option String) (tag : String) : Json → Reading Statement
  | .obj fields =>
    ofFields file tag fields
      ⟨fun field => bodyField file field fields, fun form => armsField file form fields⟩
  | v => if v.given then misfit (.noFields v.shape) else ofFields file tag [] .none
def bodyField (file : Option String) (field : String) : Fields → Reading (List Statement)
  | [] => .ok []
  | (k, v) :: rest => if k = field then statements file v else bodyField file field rest
def statements (file : Option String) : Json → Reading (List Statement)
  | .arr vs => statementList file vs
  | .obj [] => .ok []
  | .obj ((k, _) :: _) => misfit (if k = "" then .emptyNode else .noKeys .text .text)
  | .str s => if s = "" then .ok [] else misfit (.noKeys .text .text)
  | v => misfit (.noItems v.shape)
def statementList (file : Option String) : List Json → Reading (List Statement)
  | [] => .ok []
  | v :: vs => do
    let s ← statement file v
    return s :: (← statementList file vs)
def armsField (file : Option String) (form : ArmForm) : Fields → Reading (List Branch)
  | [] => .ok []
  | (k, v) :: rest => if k = form.list then arms file form v else armsField file form rest
def arms (file : Option String) (form : ArmForm) : Json → Reading (List Branch)
  | .arr vs => armList file form vs
  | .obj [] => .ok []
  | .obj (_ :: _) => misfit (.noKeys .text .text)
  | .str s => if s = "" then .ok [] else misfit (.noKeys .text .text)
  | v => misfit (.noItems v.shape)
def armList (file : Option String) (form : ArmForm) : List Json → Reading (List Branch)
  | [] => .ok []
  | v :: vs => do
    let b ← arm file form v
    return b :: (← armList file form vs)
def arm (file : Option String) (form : ArmForm) : Json → Reading Branch
  | .obj fields => wrappedArm file form fields
  | v => misfit (.noKeys v.shape .text)
def wrappedArm (file : Option String) (form : ArmForm) : Fields → Reading Branch
  | [] => misfit (.absentKey form.wrapper)
  | (k, v) :: rest => if k = form.wrapper then payloadArm file form v else wrappedArm file form rest
def payloadArm (file : Option String) (form : ArmForm) : Json → Reading Branch
  | .obj fields => do
    let test ← expression file fields form.test form.wrapper
    return .mk test (← bodyField file "stmts" fields) (line fields)
  | v => misfit (.noFields v.shape)
end

end PgJinja.Raw
