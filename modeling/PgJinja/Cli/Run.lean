import PgJinja.Cli.Batch
import PgJinja.Files.Discovery

/-! A whole run of the command line program. -/
namespace PgJinja

def currentVersion : String := "0.1.0"

def unknownVersion : String := "unknown"

def versionLine (version : String) : String :=
  if version = unknownVersion then "plpgsql-dbt (version unknown)\n"
  else "plpgsql-dbt " ++ version ++ "\n"

structure Session where
  exit : Except Crash Int
  stdout : String := ""
  stderr : String := ""
  log : List LogRecord := []
  disk : Disk

def logPath : Path := ⟨.relative, ["plpgsql_dbt.log"]⟩

namespace Session

def fileErrorCode : Int := 2

/-- Where progress goes: to the report in text mode, apart from it in JSON mode. -/
def withProgress (s : Session) (json : Bool) (progress : String) : Session :=
  if json then { s with stderr := s.stderr ++ progress } else { s with stdout := s.stdout ++ progress }

def withLog (s : Session) (records : List LogRecord) : Session := { s with log := s.log ++ records }

def crash (s : Session) (c : Crash) : Session :=
  let record (message : String) : LogRecord := ⟨LogRecord.mainLogger, .error, message⟩
  if c.isBadValue then { s with exit := .ok fileErrorCode }.withLog [record c.text]
  else { s with exit := .error c }.withLog [record ("Critical error during translation: " ++ c.text)]

def batch (s : Session) (settings : Settings) (tools : Tools) (failFast json : Bool) : Session :=
  match settings.inputs.findSome? s.disk.lookupFault? with
  | some fault => s.crash (.file fault)
  | none =>
    let missing := settings.inputs.filter fun p => !s.disk.exists? p
    if !missing.isEmpty then
      let lines := missing.map fun p =>
        tools.console.styled ("[red]error:[/red] not found: " ++ tools.console.escaped p.text)
      { s with exit := .ok fileErrorCode }.withProgress json (String.join lines)
    else
      match s.disk.findFiles settings.inputs (PathGlob.ofText "*.sql") ignoredNames with
      | .error fault => s.crash (.search fault)
      | .ok [] => { s with exit := .ok 0 }.withProgress json (tools.console.printed "No .sql files found")
      | .ok paths =>
        let start : Batch := { disk := s.disk }
        let start := start.note .info ("Translating " ++ natText paths.length ++ " files")
        let (b, crash) := Batch.compileFiles settings tools failFast paths start
        let s := ({ s with disk := b.disk }.withLog b.log).withProgress json b.progress
        match crash with
        | some c => s.crash c
        | none =>
          match b.result.print tools.console b.sources json with
          | .ok report => { s with exit := .ok b.result.exitCode, stdout := s.stdout ++ report }
          | .error limit => s.crash (.exceeded limit)

def work (s : Session) (home : Path) (tools : Tools) (a : Arguments) : Session :=
  match a.jsonOutput with
  | .error fault => s.crash (.config fault)
  | .ok json =>
    match Settings.load ⟨s.disk, home⟩ a with
    | .error fault => s.crash (.config fault)
    | .ok settings => s.batch settings tools a.failFast json

def saveLog (s : Session) : Session :=
  match s.disk.writeFile logPath (LogRecord.fileText s.log) with
  | .ok disk => { s with disk := disk }
  | .error _ => s

/-- Runs with parsed arguments. The log is emptied before anything else is read. -/
def run (host : Host) (tools : Tools) (a : Arguments) : Session :=
  if a.version then { exit := .ok 0, stdout := versionLine currentVersion, disk := host.disk }
  else
    match host.disk.writeFile logPath "" with
    | .error fault => { exit := .error (.file fault), disk := host.disk }
    | .ok disk =>
      let notice : List LogRecord :=
        if a.verbose then [⟨"root", .info, "Debug logging enabled."⟩] else []
      let start : Session := { exit := .ok 0, log := notice, disk := disk }
      (start.work host.home tools a).saveLog

def ofCommandLine (host : Host) (tools : Tools) (usage : String) (argv : List String) : Session :=
  match Arguments.parse argv with
  | .ok a => run host tools a
  | .error .usage => { exit := .ok fileErrorCode, stderr := usage, disk := host.disk }
  | .error .help => { exit := .ok 0, stdout := usage, disk := host.disk }
  | .error .noValue => { exit := .error .noValue, disk := host.disk }

end Session
end PgJinja
