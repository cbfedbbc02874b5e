import PgJinja.Failure

/-! Diagnostics: located messages about a source. Lines count from one, columns from zero. -/
namespace PgJinja

inductive Severity where
  | error
  | warning
  deriving DecidableEq, Repr

def Severity.text : Severity → String
  | .error => "error"
  | .warning => "warning"

def Severity.ofText? (s : String) : Option Severity :=
  if s = "error" then some .error else if s = "warning" then some .warning else none

structure Diagnostic where
  severity : Severity
  message : String
  file : String
  line : Line
  column : Int := 0
  code : Option Code := none
  help : Option String := none
  deriving DecidableEq, Repr

namespace Diagnostic

def location (d : Diagnostic) : Json :=
  .obj [("file", .str d.file), ("line", d.line.toJson), ("column", .int d.column)]

def toJson (d : Diagnostic) : Json :=
  .obj ([("severity", .str d.severity.text), ("message", .str d.message), ("location", d.location)]
    ++ (d.code.map fun c => ("code", Json.str c.text)).toList
    ++ (d.help.map fun h => ("help", Json.str h)).toList)

end Diagnostic

/-- The line of a refusal, where a line that counts as zero is no line. -/
def Refusal.shownLine (r : Refusal) : Line :=
  match r.line with
  | some line => if line.value = 0 then .number 1 else line
  | none => .number 1

def Refusal.shownFile (r : Refusal) (fallback : String) : String :=
  match r.file with
  | some file => if file = "" then fallback else file
  | none => fallback

def Refusal.toDiagnostic (r : Refusal) (fallback : String) : Diagnostic where
  severity := .error
  message := r.cause.message
  file := r.shownFile fallback
  line := r.shownLine
  code := some r.cause.code

end PgJinja
