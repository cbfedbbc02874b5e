import PgJinja.Cli.Arguments
import PgJinja.Config.Toml.Document
import PgJinja.Files.Disk

/-! Where a run reads and writes. Arguments come before the configuration file of the working directory,
that one before the one of the home directory, and all before the defaults. -/
namespace PgJinja

inductive ConfigFault where
  | badDirectory (given : Option Path) (resolved : Path)
  | badFormat (format : String)
  | notText (fault : Text.Utf8.Fault)
  | longNumber (digits : Nat)
  | tooDeep
  | file (fault : FileFault)
  | nullByte
  | notAPath (kind : String)
  deriving DecidableEq, Repr

namespace ConfigFault

def message : ConfigFault → String
  | badDirectory given resolved =>
    "Specified path '" ++ (given.map Path.text).getD "None" ++ "' resolved to '" ++ resolved.text
      ++ "' which is not a valid directory."
  | badFormat format => "Unknown output format '" ++ format ++ "', expected one of: text, json"
  | notText fault => fault.message
  | longNumber digits => (Text.NumeralFault.long digits).message
  | tooDeep => "maximum recursion depth exceeded"
  | file fault => fault.message
  | nullByte => PathError.nullByte.text
  | notAPath kind => "expected str, bytes or os.PathLike object, not " ++ kind

end ConfigFault

structure Host where
  disk : Disk
  home : Path

def Disk.currentPath (d : Disk) : Path := ⟨.root, d.current⟩

namespace Arguments

def workingDir (a : Arguments) (d : Disk) : Except ConfigFault Path :=
  let given := a.path.getD ⟨.relative, []⟩
  if !given.isAbsolute && given.hasNull then .error .nullByte
  else
    let dir := if given.isAbsolute then given else (d.currentPath.under given).resolve
    match d.lookupFault? dir with
    | some fault => .error (.file fault)
    | none => if d.isDirectory dir then .ok dir else .error (.badDirectory a.path dir)

def jsonOutput (a : Arguments) : Except ConfigFault Bool :=
  if a.format = "text" || a.format = "json" then .ok (a.format == "json")
  else .error (.badFormat a.format)

end Arguments

structure Settings where
  inputs : List Path
  templateDir : Path
  treeDir : Option Path
  deriving DecidableEq, Repr

namespace Settings

def folderName : String := ".plpgsql_dbt"
def fileName : String := "config.toml"

/-- The table of a configuration file. One that is missing, cannot be read or is not valid counts as
empty, but its bytes must be a text, its numbers may not be too long, and its values may not stand inside
each other too deep. -/
def readFile (d : Disk) (dir : Path) : Except ConfigFault Toml.Table :=
  let p := (dir.child folderName).child fileName
  match d.lookupFault? p with
  | some fault => .error (.file fault)
  | none =>
    match d.readRaw p with
    | .ok s =>
      match Toml.read s with
      | .ok table => .ok table
      | .error .invalid => .ok []
      | .error (.longNumber digits) => .error (.longNumber digits)
      | .error .tooDeep => .error .tooDeep
    | .error (.file _) => .ok []
    | .error (.decoding fault) => .error (.notText fault)

def readFiles (host : Host) (working : Path) : Except ConfigFault Toml.Table := do
  let everywhere ← readFile host.disk host.home
  let here ← readFile host.disk working
  return Assoc.merge everywhere here

def pathOf (working : Path) : Toml.Value → Except ConfigFault Path
  | .str s => .ok (working.under (Path.ofText s))
  | v => .error (.notAPath v.kindName)

def choose (working : Path) (given : Option Path) (file : Toml.Table) (key default : String) :
    Except ConfigFault Path :=
  match given with
  | some p => .ok (working.under p)
  | none => pathOf working ((file.lookup key).getD (.str default))

def resolve (a : Arguments) (working : Path) (file : Toml.Table) : Except ConfigFault Settings := do
  let writeTree := !a.noTree && ((file.lookup "write_tree").map Toml.Value.given).getD true
  let treeDir ←
    if writeTree then some <$> choose working a.treeDir file "tree_dir" "tree" else pure none
  let inputs ←
    if a.inputs.isEmpty then List.singleton <$> choose working none file "sql_dir" "plpgsql"
    else pure (a.inputs.map fun s => working.under (Path.ofText s))
  let templateDir ← choose working a.templateDir file "macro_dir" "macros"
  return ⟨inputs, templateDir, treeDir⟩

def load (host : Host) (a : Arguments) : Except ConfigFault Settings := do
  let working ← a.workingDir host.disk
  resolve a working (← readFiles host working)

end Settings
end PgJinja
