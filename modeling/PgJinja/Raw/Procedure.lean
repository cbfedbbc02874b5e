import PgJinja.Raw.Statement
import PgJinja.Text.Basic

/-! Reading a procedure: its declared variables and the statements of its outermost block. -/
namespace PgJinja.Raw

def declared (file : Option String) (v : Json) : Reading Variable := do
  let fields ← objectFields v
  let name ← textOf (← needed file fields "refname" variableKey)
  let initial ← expression? fields "default_val"
  return ⟨Text.strip name, initial.map Text.strip⟩

def datum (file : Option String) : Json → Reading (Option Variable)
  | .obj fields =>
    match fields.lookup variableKey with
    | none => .ok none
    | some v => (declared file v).map some
  | .str s => if Text.contains s variableKey then misfit (.noKeys .text .text) else .ok none
  | .arr vs =>
    if vs.any (fun | .str s => s == variableKey | _ => false) then misfit (.noKeys .list .text)
    else .ok none
  | v => misfit (.noMembers v.shape)

def data (file : Option String) : List Json → Reading (List Variable)
  | [] => .ok []
  | v :: vs => do
    let found ← datum file v
    let rest ← data file vs
    return match found with
      | some x => x :: rest
      | none => rest

def procedure (file : Option String) (name : String) (raw : Json) : Reading Procedure := do
  let (kind, payload) ← node raw
  let fields ← payloadFields payload
  if kind ≠ .name functionKey then missing file kind functionKey (line fields)
  else
    let locals ← data file (← fieldItems fields "datums")
    let (kind, block) ← node (← needed file fields "action" functionKey)
    if kind ≠ .name Kind.block.tag then missing file functionKey Kind.block.tag none
    else
      let fields ← payloadFields block
      let body ← bodyField file "body" fields
      return ⟨name, locals, body, line fields⟩

end PgJinja.Raw
