import PgJinja.Files.Path
import PgJinja.Json.Value
import PgJinja.Text.Quoted
import PgJinja.Text.Utf8

/-! A file system without links, in which every directory can be read and searched: what stands at each location, and a
current directory. -/
namespace PgJinja

inductive Content where
  | text (s : String)
  | bytes (data : List UInt8) (fault : Text.Utf8.Fault)
  deriving DecidableEq, Repr

def Content.ofBytes (data : List UInt8) : Content :=
  match Text.Utf8.decode data with
  | .ok s => .text s
  | .error fault => .bytes data fault

inductive Entry where
  | file (content : Content)
  | directory
  deriving DecidableEq, Repr

abbrev Location := List String

inductive PathError where
  | notFound
  | alreadyExists
  | notDirectory
  | isDirectory
  | tooLong
  /-- The path has a null character, so nothing can stand there. -/
  | nullByte
  deriving DecidableEq, Repr

def PathError.text : PathError → String
  | .notFound => "[Errno 2] No such file or directory"
  | .alreadyExists => "[Errno 17] File exists"
  | .notDirectory => "[Errno 20] Not a directory"
  | .isDirectory => "[Errno 21] Is a directory"
  | .tooLong => "[Errno 36] File name too long"
  | .nullByte => "embedded null byte"

structure FileFault where
  error : PathError
  path : Path
  deriving DecidableEq, Repr

def FileFault.message (f : FileFault) : String :=
  if f.error = .nullByte then f.error.text else f.error.text ++ ": " ++ Text.quoted f.path.text

inductive ReadFault where
  | file (fault : FileFault)
  | decoding (fault : Text.Utf8.Fault)
  deriving DecidableEq, Repr

def ReadFault.message : ReadFault → String
  | .file f => f.message
  | .decoding f => f.message

structure Disk where
  entries : List (Location × Entry) := []
  current : Location := []
  deriving Repr

namespace Disk

def entry? (d : Disk) (loc : Location) : Option Entry :=
  if loc = [] then some .directory else d.entries.lookup loc

def set (d : Disk) (loc : Location) (e : Entry) : Disk :=
  { d with entries := Assoc.set loc e d.entries }

def add (d : Disk) (loc : Location) (e : Entry) : Disk :=
  let above := (List.range loc.length).map fun n => loc.take n
  let d := above.foldl (fun d l => if (d.entry? l).isNone then d.set l .directory else d) d
  if loc = [] then d else d.set loc e

def maxName : Nat := 255

def maxPath : Nat := 4095

/-- Follows components from a location. Only the last one need not exist. -/
def walk (d : Disk) (here : Location) : List String → Except PathError Location
  | [] => .ok here
  | part :: rest =>
    match d.entry? here with
    | none => .error .notFound
    | some (.file _) => .error .notDirectory
    | some .directory =>
      if part = ".." then walk d here.dropLast rest
      else if maxName < part.utf8ByteSize then .error .tooLong
      else walk d (here ++ [part]) rest

def locate (d : Disk) (p : Path) : Except PathError Location :=
  if p.hasNull then .error .nullByte
  else if maxPath < p.text.utf8ByteSize then .error .tooLong
  else d.walk (if p.isAbsolute then [] else d.current) p.parts

def stat (d : Disk) (p : Path) : Except PathError Entry := do
  match d.entry? (← d.locate p) with
  | some e => .ok e
  | none => .error .notFound

def exists? (d : Disk) (p : Path) : Bool := (d.stat p).isOk

def lookupFault? (d : Disk) (p : Path) : Option FileFault :=
  match d.stat p with
  | .error .tooLong => some ⟨.tooLong, p⟩
  | _ => none

def isFile (d : Disk) (p : Path) : Bool :=
  match d.stat p with
  | .ok (.file _) => true
  | _ => false

def isDirectory (d : Disk) (p : Path) : Bool :=
  match d.stat p with
  | .ok .directory => true
  | _ => false

def readRaw (d : Disk) (p : Path) : Except ReadFault String :=
  match d.stat p with
  | .ok (.file (.text s)) => .ok s
  | .ok (.file (.bytes _ fault)) => .error (.decoding fault)
  | .ok .directory => .error (.file ⟨.isDirectory, p⟩)
  | .error e => .error (.file ⟨e, p⟩)

def readText (d : Disk) (p : Path) : Except ReadFault String :=
  (d.readRaw p).map fun s => String.ofList (Text.newlines s.toList)

def makeDirectory (d : Disk) (p : Path) : Except PathError Disk := do
  let loc ← d.locate p
  match d.entry? loc with
  | some _ => .error .alreadyExists
  | none => .ok (d.set loc .directory)

def ensureDirectory (d : Disk) (p : Path) : Except FileFault Disk :=
  match d.makeDirectory p with
  | .ok d => .ok d
  | .error e => if e ≠ .notFound && d.isDirectory p then .ok d else .error ⟨e, p⟩

/-- Makes a directory and those above it, given the components from the last to the first. What was
made before a failure stays. -/
def ensureAbove (d : Disk) (anchor : Anchor) : List String → Disk × Option FileFault
  | [] =>
    match d.ensureDirectory ⟨anchor, []⟩ with
    | .ok d => (d, none)
    | .error f => (d, some f)
  | part :: above =>
    let p : Path := ⟨anchor, (part :: above).reverse⟩
    match d.ensureDirectory p with
    | .ok d => (d, none)
    | .error f =>
      if f.error = .notFound then
        match ensureAbove d anchor above with
        | (d, some f) => (d, some f)
        | (d, none) =>
          match d.ensureDirectory p with
          | .ok d => (d, none)
          | .error f => (d, some f)
      else (d, some f)

def ensureDirectories (d : Disk) (p : Path) : Disk × Option FileFault :=
  d.ensureAbove p.anchor p.parts.reverse

def writeFile (d : Disk) (p : Path) (s : String) : Except FileFault Disk :=
  match d.locate p with
  | .error e => .error ⟨e, p⟩
  | .ok loc =>
    match d.entry? loc with
    | some .directory => .error ⟨.isDirectory, p⟩
    | _ => .ok (d.set loc (.file (.text s)))

def write (d : Disk) (p : Path) (s : String) : Disk × Option FileFault :=
  match d.ensureDirectories p.parent with
  | (d, some f) => (d, some f)
  | (d, none) =>
    match d.writeFile p s with
    | .ok d => (d, none)
    | .error f => (d, some f)

end Disk
end PgJinja
