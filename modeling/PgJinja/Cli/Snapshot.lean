import PgJinja.Cli.Run
import PgJinja.Json.Reader
import PgJinja.Terminal.Markup

/-! What a run sees of the outside, as one JSON value: the files, the current and the home directory, and
the answers of the parser by source text. -/
namespace PgJinja

def Entry.ofJson : Json → Entry
  | .null => .directory
  | .str s => .file (.text s)
  | v => .file (Content.ofBytes (Text.hexBytes (v.get "hex").display.toList))

def ParserAnswer.ofJson (v : Json) : ParserAnswer :=
  match v with
  | .obj fields =>
    match fields.lookup "error_args" with
    | some arguments => .refused arguments.elements
    | none => .tree (Json.field fields "tree")
  | _ => .tree .null

/-- A table of answers by source text. A text that is not in it has no functions. -/
def Parser.ofJson (v : Json) : Parser := fun source =>
  match v.members.lookup source with
  | some answer => .ofJson answer
  | none => .tree (.arr [])

def Disk.ofJson (below current : Location) (files : Json) : Disk :=
  files.members.foldl
    (fun d (name, v) => d.add (below ++ Path.components name.toList) (.ofJson v))
    ({ current := current : Disk }.add current .directory)

def Disk.changes (before after : Disk) : List (Location × String) :=
  after.entries.filterMap fun (loc, e) =>
    match e with
    | .file (.text s) => if before.entry? loc = some e then none else some (loc, s)
    | _ => none

def Terminal.console : Console where
  printed := Terminal.printed
  styled := Terminal.styled
  escaped := Terminal.escaped
  fault? message := (Terminal.markupFault? message).map fun fault => ⟨fault.message, fault.isNumeral⟩

/-- The spaces that a line can start with on an ordinary machine. -/
def ordinaryRoom : Nat := Nat.pow 2 40

def Parser.tools (parser : Parser) : Tools := ⟨parser, Terminal.console, ordinaryRoom⟩

structure Snapshot where
  host : Host
  parser : Parser

def Snapshot.ofJson (v : Json) : Snapshot where
  host := {
    disk := Disk.ofJson [] (Path.components (v.get "current").display.toList) (v.get "files")
    home := Path.ofText (v.get "home").display }
  parser := Parser.ofJson (v.get "parses")

end PgJinja
