import PgJinja.Text.Pattern
import PgJinja.Text.Word

/-! What is looked for in the text of an expression: an assignment of the form `name := value`, or the list of
values of an `IN (...)` test. -/
namespace PgJinja.Jinja

open Text

/-- Word characters, blanks, the sign `:=`, blanks, and the rest of the line. -/
def assignmentPattern : Pattern :=
  [⟨isWord, .some, true⟩, .blanks, .only ':', .only '=', .blanks, ⟨(· != '\n'), .some, true⟩]

structure Assignment where
  name : String
  value : String
  deriving DecidableEq, Repr

def Assignment.find? (s : String) : Option Assignment :=
  match assignmentPattern.search s.toList with
  | some [name, value] => some ⟨String.ofList name, String.ofList value⟩
  | _ => none

/-- The word `IN`, blanks, and a parenthesised list; the list ends at the first closing parenthesis. -/
def inListPattern : Pattern :=
  [.only 'I', .only 'N', .blanks, .only '(', .blanks, ⟨(· != ')'), .some, true⟩, .blanks, .only ')']

def inListValues? (s : String) : Option String :=
  match inListPattern.search s.toList with
  | some [values] => some (String.ofList values)
  | _ => none

end PgJinja.Jinja
