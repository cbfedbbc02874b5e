import PgJinja.Files.Disk
import PgJinja.Files.PathGlob

/-! Finding files. A path to a file stands for itself, a directory for what lies below it. -/
namespace PgJinja

def ignoredNames : List String :=
  ["__pycache__", "node_modules", "target", "dbt_packages", "macros", "tree"]

def visible (ignored : List String) (part : String) : Bool :=
  part.toList.head? != some '.' && !ignored.contains part

inductive SearchFault where
  | glob (fault : GlobFault)
  | file (fault : FileFault)
  deriving DecidableEq, Repr

def SearchFault.message : SearchFault → String
  | .glob fault => fault.message
  | .file fault => fault.message

namespace Disk

def filesBelow (d : Disk) (loc : Location) : List (List String) :=
  d.entries.filterMap fun (place, e) =>
    match e with
    | .file _ =>
      if loc.isPrefixOf place && loc.length < place.length then some (place.drop loc.length) else none
    | .directory => none

def search (d : Disk) (g : PathGlob) (ignored : List String) (base : Path) : List Path :=
  match d.locate base, d.stat base with
  | .ok _, .ok (.file _) => if g.fitsEnd base then [base] else []
  | .ok loc, .ok .directory =>
    (d.filesBelow loc).filterMap fun below =>
      if g.fitsBelow below && below.all (visible ignored) then
        some (base.below below)
      else none
  | _, _ => []

def find (d : Disk) (bases : List Path) (g : PathGlob) (ignored : List String) : List Path :=
  Path.sorted (bases.flatMap (d.search g ignored))

def directoriesFrom (d : Disk) (loc : Location) : List Location :=
  loc :: d.entries.filterMap fun (place, e) =>
    match e with
    | .directory => if loc.isPrefixOf place && loc.length < place.length then some place else none
    | .file _ => none

def enter (d : Disk) (part : String) (p : Path) : List Path :=
  match d.locate p with
  | .ok loc =>
    let fits (place : Location) : Bool :=
      part = "**" || place.length = loc.length + 1 && place.getLast?.any (Glob.ofText part).fits
    if part = ".." then [p.below [part]]
    else ((d.directoriesFrom loc).filter fits).map fun place => p.below (place.drop loc.length)
  | .error _ => []

/-- The paths that are asked for to see what a component of a pattern leads to. Names with stars and the like are
only compared with those that are there. -/
def asked (d : Disk) (part : String) (p : Path) : List Path :=
  if part = "**" then d.enter part p
  else if PathGlob.isPlain part then [p.below [part]]
  else [p]

def patternFault? (d : Disk) (dirs : List Path) : List String → Option FileFault
  | [] => none
  | part :: parts =>
    ((dirs.flatMap (d.asked part)).findSome? d.lookupFault?).or
      (patternFault? d (dirs.flatMap (d.enter part)) parts)

/-- What keeps one from searching a path with a pattern. A path that is not there does not ask for the
pattern. -/
def searchFault? (d : Disk) (g : PathGlob) (base : Path) : Option SearchFault :=
  match d.stat base with
  | .ok (.file _) => g.fileFault?.map .glob
  | .ok .directory =>
    (g.directoryFault?.map .glob).or ((d.patternFault? [base] ("**" :: g.parts)).map .file)
  | .error .tooLong => some (.file ⟨.tooLong, base⟩)
  | .error _ => none

/-- Finds the matching files, unless something keeps one from searching a path, or from asking for a file that
was found. -/
def findFiles (d : Disk) (bases : List Path) (g : PathGlob) (ignored : List String) :
    Except SearchFault (List Path) :=
  let found := d.find bases g ignored
  match (bases.findSome? (d.searchFault? g)).or ((found.findSome? d.lookupFault?).map .file) with
  | some fault => .error fault
  | none => .ok found

end Disk
end PgJinja
