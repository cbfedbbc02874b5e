import PgJinja.Failure
import PgJinja.Text.Basic

/-! Pieces of a Jinja template, and a growing list of lines. -/
namespace PgJinja.Jinja

def tag (code : String) : String := "\x7b% " ++ code ++ " %\x7d"

def printed (code : String) : String := "\x7b\x7b " ++ code ++ " \x7d\x7d"

def escapeQuotes (s : String) : String :=
  String.ofList (s.toList.flatMap fun c => if c = '"' then ['\\', '"'] else [c])

def literal (s : String) : String := "\"" ++ escapeQuotes s ++ "\""

def commentLine (text : String) : String := "-- " ++ text

def indented (indent : Nat) (code : String) : String := Text.copies indent ' ' ++ code

/-- The spaces before a line. Less than none is refused, and so is more than an index can count or than the
memory of the host has room for. -/
def placed (room : Nat) (indent : Int) : Except Failure Nat :=
  if indent < 0 then
    .error (if isShort indent then .misfit (.negativeIndent indent) else .exceeded .digits)
  else if min room maxIndex < indent.toNat then .error (.exceeded (.columns indent.toNat))
  else .ok indent.toNat

structure Listing where
  lines : List String := []
  deriving DecidableEq, Repr

namespace Listing

def extend (l : Listing) (lines : List String) : Listing := ⟨l.lines ++ lines⟩

def emitAll (room : Nat) (l : Listing) (lines : List String) (indent : Int) : Except Failure Listing :=
  (placed room indent).map fun spaces => l.extend (lines.map (indented spaces))

def emit (room : Nat) (l : Listing) (code : String) (indent : Int) : Except Failure Listing :=
  l.emitAll room [code] indent

def emitComment (room : Nat) (l : Listing) (text : String) (indent : Int) : Except Failure Listing :=
  l.emit room (commentLine text) indent

def emitBlank (l : Listing) : Listing := l.extend [""]

def code (l : Listing) : String := Text.unlines l.lines

end Listing
end PgJinja.Jinja
