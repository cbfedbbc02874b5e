import PgJinja.Diagnostic.Basic
import PgJinja.Json.Writer
import PgJinja.Text.Basic

/-! Reports of diagnostics: as text, each with the source line it points at, or as one JSON document. -/
namespace PgJinja

/-- Underlines the first word of a line. A line knows no column, so its first word stands for the
statement. -/
def underline (line : List Char) : List Char :=
  let stripped := Text.trimLeft line
  let indent := line.take (line.length - stripped.length)
  let word := if stripped.isEmpty then [] else (Text.splitOnce stripped).headD []
  indent ++ List.replicate (max 1 word.length) '^'

abbrev Sources := List (String × List String)

namespace Sources

def add (sources : Sources) (file source : String) : Sources :=
  Assoc.set file (Text.lines source) sources

def line? (sources : Sources) (d : Diagnostic) : Option String := do
  let lines ← sources.lookup d.file
  let n := d.line.value
  if 1 ≤ n then lines[(n - 1).toNat]? else none

end Sources

namespace Diagnostic

def gutterWidth : Nat := 5

def gutter : String := Text.copies gutterWidth ' ' ++ "|"

def label (d : Diagnostic) : String :=
  d.severity.text ++ (match d.code with | some c => "[" ++ c.text ++ "]" | none => "")

def context (d : Diagnostic) (source : String) : List String :=
  [Text.padLeft (gutterWidth - 1) (intText d.line.value) ++ " | " ++ source,
    gutter ++ " " ++ String.ofList (underline source.toList),
    gutter]

def helpLines (d : Diagnostic) : List String :=
  match d.help with
  | some help => if help = "" then [] else [Text.copies gutterWidth ' ' ++ "= help: " ++ help]
  | none => []

def reportLines (sources : Sources) (d : Diagnostic) : List String :=
  [d.label ++ ": " ++ d.message,
    "  --> " ++ d.file ++ ":" ++ d.line.text ++ ":" ++ intText (d.column + 1),
    gutter]
  ++ (match sources.line? d with | some source => d.context source | none => [])
  ++ d.helpLines

/-- One diagnostic as text, however long its numbers are. -/
def report (sources : Sources) (d : Diagnostic) : String :=
  Text.unlines (d.reportLines sources) ++ "\n"

def isShort (d : Diagnostic) : Bool := PgJinja.isShort d.line.value && PgJinja.isShort (d.column + 1)

def format (sources : Sources) (d : Diagnostic) : Except Limit String :=
  if d.isShort then .ok (d.report sources) else .error .digits

end Diagnostic

namespace Report

def plural (count : Nat) (noun : String) : String :=
  natText count ++ " " ++ noun ++ (if count = 1 then "" else "s")

def errorCount (ds : List Diagnostic) : Nat := ds.countP (·.severity == .error)

def warningCount (ds : List Diagnostic) : Nat := ds.countP (·.severity == .warning)

def files (ds : List Diagnostic) : List String := (ds.map (·.file)).eraseDups

def summary (ds : List Diagnostic) : String :=
  let part (count : Nat) (noun : String) := if count = 0 then [] else [plural count noun]
  let parts := part (errorCount ds) "error" ++ part (warningCount ds) "warning"
  let place := match files ds with
    | [file] => file
    | files => natText files.length ++ " files"
  "Found " ++ Text.join " and " parts ++ " in " ++ place ++ "\n"

def text (sources : Sources) (withSummary : Bool) (ds : List Diagnostic) : String :=
  if ds.isEmpty then ""
  else
    Text.unlines
      (ds.map (Diagnostic.report sources) ++ (if withSummary then [summary ds] else []))

def format (sources : Sources) (withSummary : Bool) (ds : List Diagnostic) : Except Limit String :=
  if ds.all Diagnostic.isShort then .ok (text sources withSummary ds) else .error .digits

def listOf (severity : Severity) (ds : List Diagnostic) : List Json :=
  (ds.filter (·.severity == severity)).map Diagnostic.toJson

def document (ds : List Diagnostic) (files : List String) (stats : List (String × Int)) : Json :=
  .obj ([("version", .str "1.0"),
      ("files", .arr (files.map Json.str)),
      ("valid", .bool (listOf .error ds).isEmpty),
      ("errors", .arr (listOf .error ds)),
      ("warnings", .arr (listOf .warning ds))]
    ++ (if stats.isEmpty then []
      else [("stats", .obj (stats.map fun (name, n) => (name, .int n)))]))

def json (ds : List Diagnostic) (files : List String) (stats : List (String × Int)) : Except Limit String :=
  (document ds files stats).write .ascii

end Report
end PgJinja
