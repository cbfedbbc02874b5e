import PgJinja.Cli.Crash
import PgJinja.Cli.Log
import PgJinja.Compilation
import PgJinja.Diagnostic.Report

/-! Compiling many files. All files of a run share one sequence of names; a file that fails does not
stop the others, unless asked to. -/
namespace PgJinja

abbrev Parser := String → ParserAnswer

structure Tools where
  parser : Parser
  console : Console
  /-- The spaces that a line can start with. -/
  room : Nat

structure BatchResult where
  files : List Path := []
  compiled : Int := 0
  failed : Int := 0
  fileErrors : Int := 0
  diagnostics : List Diagnostic := []

namespace BatchResult

/-- Files that could not be read or written weigh more than failed compilations. -/
def exitCode (r : BatchResult) : Int :=
  if r.fileErrors ≠ 0 then 2 else if r.failed ≠ 0 then 1 else 0

def warningCount (r : BatchResult) : Nat := Report.warningCount r.diagnostics

def document (r : BatchResult) : Json :=
  Report.document r.diagnostics (r.files.map Path.text)
    [("translated", r.compiled), ("failed", r.failed), ("file_errors", r.fileErrors)]

/-- The printed report of a run, however long its numbers are. -/
def report (console : Console) (r : BatchResult) (sources : Sources) (json : Bool) : String :=
  if json then r.document.layout .ascii ++ "\n"
  else
    let warnings :=
      if r.warningCount = 0 then "" else ", " ++ natText r.warningCount ++ " warnings"
    let summary :=
      intText r.compiled ++ " of " ++ natText r.files.length ++ " files translated" ++ warnings
    (if r.diagnostics.isEmpty then ""
      else console.printed (Report.text sources true r.diagnostics))
      ++ console.printed summary

def isShort (r : BatchResult) (json : Bool) : Bool :=
  if json then r.document.isShort else r.diagnostics.all Diagnostic.isShort && PgJinja.isShort r.compiled

def print (console : Console) (r : BatchResult) (sources : Sources) (json : Bool) : Except Limit String :=
  if r.isShort json then .ok (r.report console sources json) else .error .digits

end BatchResult

structure Batch where
  disk : Disk
  ids : Jinja.Ids := {}
  sources : Sources := []
  progress : String := ""
  log : List LogRecord := []
  result : BatchResult := {}

namespace Batch

def say (console : Console) (b : Batch) (message : String) : Batch :=
  { b with progress := b.progress ++ console.styled message }

def note (b : Batch) (level : LogLevel) (message : String) : Batch :=
  { b with log := b.log ++ [⟨LogRecord.batchLogger, level, message⟩] }

/-- Counts a file that could not be read or written and says why. The text of the error goes into the
message as it is, so what looks like a tag in it is taken for one. -/
def fileError (console : Console) (b : Batch) (action file error : String) : Batch × Except Crash Bool :=
  let b := b.note .error ("Cannot " ++ action ++ " " ++ file)
  let message :=
    "[red]error:[/red] cannot " ++ action ++ " " ++ console.escaped file ++ ": " ++ error
  match console.fault? message with
  | some fault => (b, .error (.message fault))
  | none =>
    let b := { b with result := { b.result with fileErrors := b.result.fileErrors + 1 } }
    (b.say console message, .ok false)

def unreadable (console : Console) (b : Batch) (file : String) (fault : ReadFault) : Batch × Except Crash Bool :=
  match fault with
  | .file ⟨.nullByte, _⟩ => (b, .error .nullByte)
  | _ => b.fileError console "read" file fault.message

def unwritable (console : Console) (b : Batch) (file : String) (fault : FileFault) : Batch × Except Crash Bool :=
  if fault.error = .nullByte then (b, .error .nullByte)
  else b.fileError console "write output for" file fault.message

def refused (b : Batch) (file : String) (r : Refusal) : Batch :=
  let b := b.note .warning ("Translation of " ++ file ++ " failed: " ++ r.cause.message)
  { b with
    result :=
      { b.result with
        failed := b.result.failed + 1
        diagnostics := b.result.diagnostics ++ [r.toDiagnostic file] } }

def failed (b : Batch) (file : String) : Failure → Batch × Except Crash Bool
  | .refused r => (b.refused file r, .ok false)
  | .misfit m => (b, .error (.misfit m))
  | .exceeded limit => (b, .error (.exceeded limit))

inductive TreeFault where
  | file (fault : FileFault)
  | exceeded (limit : Limit)
  deriving DecidableEq, Repr

def saveTree (console : Console) (b : Batch) (settings : Settings) (name : String) (tree : Json) :
    Batch × Option TreeFault :=
  match settings.treeDir with
  | none => (b, none)
  | some dir =>
    match treeText tree with
    | .error limit => (b, some (.exceeded limit))
    | .ok text =>
      match b.disk.write (dir.child (name ++ ".tree")) text with
      | (disk, some fault) => ({ b with disk := disk }, some (.file fault))
      | (disk, none) =>
        ({ b with disk := disk }.say console ("Saved AST tree: " ++ console.escaped name ++ ".tree"), none)

def saveTemplate (console : Console) (b : Batch) (settings : Settings) (file : String) (t : Compilation) :
    Batch × Except Crash Bool :=
  match b.disk.write (settings.templateDir.child (t.name ++ ".sql")) t.text with
  | (disk, some fault) => { b with disk := disk }.unwritable console file fault
  | (disk, none) =>
    let result :=
      { b.result with
        compiled := b.result.compiled + 1
        diagnostics := b.result.diagnostics ++ t.diagnostics }
    let b := { b with disk := disk, result := result }
    (b.say console ("Generated dbt macro: " ++ console.escaped t.name ++ ".sql"), .ok true)

def compileEntries (tools : Tools) (b : Batch) (settings : Settings) (file name : String) (tree : Json) :
    Batch × Except Crash Bool :=
  match b.saveTree tools.console settings name tree with
  | (b, some (.file fault)) => b.unwritable tools.console file fault
  | (b, some (.exceeded limit)) => (b, .error (.exceeded limit))
  | (b, none) =>
    let outcome := compileTree tools.room tree name (some file) b.ids
    let b := { b with ids := outcome.ids, log := b.log ++ outcome.raised.filterMap LogRecord.ofDiagnostic? }
    match outcome.result with
    | .error failure => b.failed file failure
    | .ok t => b.saveTemplate tools.console settings file t

def compileFile (settings : Settings) (tools : Tools) (b : Batch) (path : Path) :
    Batch × Except Crash Bool :=
  let file := path.text
  let b := { b with result := { b.result with files := b.result.files ++ [path] } }
  match b.disk.readText path with
  | .error fault => b.unreadable tools.console file fault
  | .ok source =>
    let b := { b with sources := b.sources.add file source }
    match (tools.parser source).entries source (some file) with
    | .error failure => b.failed file failure
    | .ok entries => b.compileEntries tools settings file path.stem (.arr entries)

def compileFiles (settings : Settings) (tools : Tools) (failFast : Bool) :
    List Path → Batch → Batch × Option Crash
  | [], b => (b, none)
  | path :: rest, b =>
    match b.compileFile settings tools path with
    | (b, .error crash) => (b, some crash)
    | (b, .ok ok) =>
      if !ok && failFast then (b.note .info ("Stopping after failure in " ++ path.text), none)
      else compileFiles settings tools failFast rest b

end Batch
end PgJinja
