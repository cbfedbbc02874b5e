import PgJinja.Json.Value
import PgJinja.Text.Quoted

/-! The text of a value where a name or a message is expected: a string stands for itself, and other
values are spelled out with their strings quoted. -/
namespace PgJinja.Json

mutual
def spelling : Json → String
  | null => "None"
  | bool true => "True"
  | bool false => "False"
  | int n => intText n
  | float x => Layout.standard.text x
  | str s => Text.quoted s
  | arr [] => "[]"
  | arr (v :: vs) => "[" ++ spelling v ++ spellItems vs ++ "]"
  | obj [] => "\x7b\x7d"
  | obj ((k, v) :: fs) => "\x7b" ++ Text.quoted k ++ ": " ++ spelling v ++ spellFields fs ++ "\x7d"
def spellItems : List Json → String
  | [] => ""
  | v :: vs => ", " ++ spelling v ++ spellItems vs
def spellFields : List (String × Json) → String
  | [] => ""
  | (k, v) :: fs => ", " ++ Text.quoted k ++ ": " ++ spelling v ++ spellFields fs
end

/-- The text of a value, however long its integers are. -/
def display : Json → String
  | str s => s
  | v => spelling v

end PgJinja.Json
