import PgJinja.Jinja.Template
import PgJinja.Raw.Procedure
import PgJinja.Source

/-! From a source, or its tree, to a template. Only the first function of a tree is compiled, because the
template is named after the source. -/
namespace PgJinja

structure Compilation where
  name : String
  text : String
  procedure : Procedure
  diagnostics : List Diagnostic
  dump : Option String := none

/-- What a compilation leaves behind, also when it fails: the sequence of names and every diagnostic
that was raised on the way. -/
structure Outcome where
  ids : Jinja.Ids
  raised : List Diagnostic
  result : Except Failure Compilation

def severalFunctions (file : String) (count : Nat) : Diagnostic where
  severity := .warning
  message := Code.severalFunctions.message [("count", natText count)]
  file := file
  line := .number 1
  code := some .severalFunctions
  help := some "split the functions into one file each"

def firstEntry (tree : Json) : Except Misfit (Nat × Except Misfit Json) :=
  match tree with
  | .arr vs => .ok (vs.length, match vs with | v :: _ => .ok v | [] => .error .absentItem)
  | .str s =>
    .ok (s.length, match s.toList with
      | c :: _ => .ok (.str (String.singleton c))
      | [] => .error .absentItem)
  | .obj fields => .ok (fields.length, .error .absentItem)
  | v => .error (.noLength v.shape)

def sourceName (name : String) (file : Option String) : String :=
  match file with
  | some f => if f = "" then name else f
  | none => name

def compileEntry (room : Nat) (entry : Json) (name file : String) (ids : Jinja.Ids) (raised : List Diagnostic) :
    Outcome :=
  match Raw.procedure (some file) name entry with
  | .error failure => ⟨ids, raised, .error failure⟩
  | .ok procedure =>
    let (out, text) := Jinja.template room procedure.name procedure.locals procedure.body ids file
    let raised := raised ++ out.diagnostics
    ⟨out.ids, raised, text.map fun text => ⟨name, text, procedure, raised, none⟩⟩

def compileTree (room : Nat) (tree : Json) (name : String) (file : Option String) (ids : Jinja.Ids) : Outcome :=
  let shown := sourceName name file
  if !tree.given then
    ⟨ids, [], .error (.refused ⟨.general (Code.noFunction.message [("name", shown)]), file, none⟩)⟩
  else
    match firstEntry tree with
    | .error m => ⟨ids, [], .error (.misfit m)⟩
    | .ok (count, entry) =>
      let raised := if 1 < count then [severalFunctions shown count] else []
      match entry with
      | .error m => ⟨ids, raised, .error (.misfit m)⟩
      | .ok entry => compileEntry room entry name shown ids raised

/-- Adds the text of the tree to a compilation. It comes last, so the numbers are taken also if there is no such
text. -/
def Compilation.withDump (c : Compilation) (tree : Json) : Except Failure Compilation :=
  match treeText tree with
  | .ok text => .ok { c with dump := some text }
  | .error limit => .error (.exceeded limit)

def compileSource (room : Nat) (source : String) (answer : ParserAnswer) (name : String) (file : Option String)
    (ids : Jinja.Ids) (withDump : Bool) : Outcome :=
  match answer.entries source file with
  | .error failure => ⟨ids, [], .error failure⟩
  | .ok entries =>
    let outcome := compileTree room (.arr entries) name file ids
    if withDump then
      { outcome with result := outcome.result.bind fun c => c.withDump (.arr entries) }
    else outcome

end PgJinja
