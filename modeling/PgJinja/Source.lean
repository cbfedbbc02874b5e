import PgJinja.Json.Writer
import PgJinja.Raw.Statement

/-! Sources and what the parser of the procedural language answers for them. -/
namespace PgJinja

inductive ParserAnswer where
  | tree (value : Json)
  | refused (arguments : List Json)

/-- The line of a location: one more than the newlines before it. Locations count characters from
one. -/
def lineAt (source : String) (location : Json) : Option Line :=
  match Line.ofJson? location with
  | some place =>
    if 0 < place.value then
      some (.number (((source.toList.take (place.value - 1).toNat).count '\n' : Int) + 1))
    else none
  | none => none

def ParserAnswer.entries (source : String) (file : Option String) :
    ParserAnswer → Except Failure (List Json)
  | .tree value => Raw.items value
  | .refused [] => .error (.misfit .noErrorText)
  | .refused (message :: rest) => do
    let message ← Raw.textOf message
    .error (.refused ⟨.source message, file, lineAt source (rest.head?.getD .null)⟩)

def treeText (tree : Json) : Except Limit String := tree.write .unicode

end PgJinja
