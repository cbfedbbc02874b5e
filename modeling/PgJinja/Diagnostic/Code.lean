/-! Diagnostic codes and their messages. Codes that start with `E` stop the work on a source, those
that start with `W` report a statement that lost something. -/
namespace PgJinja

inductive Code where
  | missingField
  | badSource
  | noFunction
  | badAssignment
  | badArm
  | unknownStatement
  | severalFunctions
  deriving DecidableEq, Repr

inductive Chunk where
  | text (s : String)
  | slot (name : String)
  deriving DecidableEq, Repr

def Chunk.raw : Chunk → String
  | .text s => s
  | .slot name => "\x7b" ++ name ++ "\x7d"

def Chunk.fill? (values : List (String × String)) : Chunk → Option String
  | .text s => some s
  | .slot name => values.lookup name

namespace Code

def all : List Code :=
  [missingField, badSource, noFunction, badAssignment, badArm, unknownStatement, severalFunctions]

def text : Code → String
  | missingField => "E0001"
  | badSource => "E0002"
  | noFunction => "E0003"
  | badAssignment => "W0001"
  | badArm => "W0002"
  | unknownStatement => "W0003"
  | severalFunctions => "W0004"

def ofText? (s : String) : Option Code := all.find? (·.text == s)

def unknownMessage (spelled : String) : String := spelled ++ " is not a valid ErrorCode"

def template : Code → List Chunk
  | missingField => [.text "missing required field '", .slot "field", .text "' in ", .slot "kind"]
  | badSource => [.text "invalid PL/pgSQL: ", .slot "message"]
  | noFunction => [.text "no function found in ", .slot "name"]
  | badAssignment =>
    [.text "assignment '", .slot "expr", .text "' is not of the form 'name := value'"]
  | badArm => [.text "CASE arm '", .slot "expr", .text "' has no IN (...) value list"]
  | unknownStatement => [.text "unsupported statement type '", .slot "kind", .text "'"]
  | severalFunctions => [.slot "count", .text " functions defined, only the first is translated"]

def templateText (c : Code) : String := String.join (c.template.map Chunk.raw)

/-- The message with its slots filled. If a value is missing, none is filled. -/
def message (c : Code) (values : List (String × String)) : String :=
  match c.template.mapM (Chunk.fill? values) with
  | some texts => String.join texts
  | none => c.templateText

end Code
end PgJinja
