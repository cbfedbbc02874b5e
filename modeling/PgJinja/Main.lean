import PgJinja.Cli.Snapshot

/-! The command line. The arguments come from the command line and the snapshot of the outside from the
standard input; changed files are written where the run put them, the log among them. -/
namespace PgJinja

def usageText : String :=
  "usage: plpgsql-dbt [--macro-dir DIR] [--tree-dir DIR] [--no-tree] [--fail-fast] [--format FORMAT]\n"
    ++ "                   [--path DIR] [--verbose] [--version] [inputs ...]\n"

def locationText (loc : Location) : String := (Path.mk .root loc).text

def writeChanges (before after : Disk) : IO Unit := do
  for (loc, text) in before.changes after do
    IO.FS.createDirAll (locationText loc.dropLast)
    IO.FS.writeFile (locationText loc) text

def runCommandLine (argv : List String) : IO UInt32 := do
  let input ← (← IO.getStdin).readToEnd
  match Json.read? input with
  | none =>
    IO.eprintln "the snapshot on the standard input is no JSON value"
    return 2
  | some value =>
    let snapshot := Snapshot.ofJson value
    let session := Session.ofCommandLine snapshot.host snapshot.parser.tools usageText argv
    writeChanges snapshot.host.disk session.disk
    IO.print session.stdout
    IO.eprint session.stderr
    IO.eprint (LogRecord.consoleText session.log)
    match session.exit with
    | .ok code => return code.toNat.toUInt32
    | .error crash =>
      IO.eprintln crash.text
      return 1

end PgJinja

def main (argv : List String) : IO UInt32 := PgJinja.runCommandLine argv
