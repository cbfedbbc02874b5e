import PgJinja.Jinja.Output

/-! Templates of whole procedures: a header, the initial values of the variables, an empty line, the body
and a footer. -/
namespace PgJinja.Jinja

def bodyIndent : Nat := 2

def emptyValue : String := "''"

def variableTag (v : Variable) : String := tag ("set " ++ v.name ++ " = " ++ v.initial.getD emptyValue)

def header (name : String) : String := tag ("macro " ++ name ++ "()")

def footer : String := tag "endmacro"

def opening (room : Nat) (name : String) (locals : List Variable) : Except Failure Listing := do
  let first ← Listing.emit room {} (header name) 0
  let declared ← locals.foldlM (fun l v => Listing.emit room l (variableTag v) bodyIndent) first
  return declared.emitBlank

def template (room : Nat) (name : String) (locals : List Variable) (body : List Statement) (ids : Ids)
    (file : String) : Output × Except Failure String :=
  match opening room name locals with
  | .error failure => ({ ids := ids }, .error failure)
  | .ok listing =>
    match compileAll room body bodyIndent ids file with
    | (out, none) => (out, ((listing.extend out.listing.lines).emit room footer 0).map Listing.code)
    | (out, some failure) => (out, .error failure)

end PgJinja.Jinja
