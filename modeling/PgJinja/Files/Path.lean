import PgJinja.Text.Basic

/-! Paths as lists of components. Empty components and single dots vanish, double dots stay. -/
namespace PgJinja

inductive Anchor where
  | relative
  | root
  /-- Two slashes, and not more, at the start of a path are a root of their own. -/
  | doubleRoot
  deriving DecidableEq, Repr

structure Path where
  anchor : Anchor := .relative
  parts : List String
  deriving DecidableEq, Repr

namespace Path

def components (cs : List Char) : List String :=
  ((Text.splitAtChar '/' cs).map String.ofList).filter fun part => part != "" && part != "."

def ofText (s : String) : Path :=
  let anchor := match s.toList with
    | '/' :: '/' :: '/' :: _ => Anchor.root
    | '/' :: '/' :: _ => .doubleRoot
    | '/' :: _ => .root
    | _ => .relative
  ⟨anchor, components s.toList⟩

def text (p : Path) : String :=
  let body := Text.join "/" p.parts
  match p.anchor with
  | .relative => if p.parts.isEmpty then "." else body
  | .root => "/" ++ body
  | .doubleRoot => "//" ++ body

def hasNull (p : Path) : Bool := p.parts.any fun part => part.toList.contains (Char.ofNat 0)

def isAbsolute (p : Path) : Bool := p.anchor != .relative

def under (base p : Path) : Path :=
  if p.isAbsolute then p else ⟨base.anchor, base.parts ++ p.parts⟩

def child (p : Path) (name : String) : Path := p.under (ofText name)

def below (p : Path) (parts : List String) : Path := ⟨p.anchor, p.parts ++ parts⟩

def parent (p : Path) : Path := ⟨p.anchor, p.parts.dropLast⟩

def name (p : Path) : String := p.parts.getLast?.getD ""

/-- A name without its last suffix. A dot at either end starts no suffix. -/
def stemChars (cs : List Char) : List Char :=
  let suffix := cs.reverse.takeWhile (· != '.')
  let rest := cs.reverse.dropWhile (· != '.')
  if suffix.isEmpty || rest.length ≤ 1 then cs else (rest.drop 1).reverse

def stem (p : Path) : String := String.ofList (stemChars p.name.toList)

def resolveParts (parts : List String) : List String :=
  parts.foldl (fun acc part => if part = ".." then acc.dropLast else acc ++ [part]) []

def resolve (p : Path) : Path := ⟨p.anchor, resolveParts p.parts⟩

/-- Paths are ordered by their components, the root being the first of them. -/
def key (p : Path) : List String :=
  match p.anchor with
  | .relative => p.parts
  | .root => "/" :: p.parts
  | .doubleRoot => "//" :: p.parts

def insertSorted (p : Path) : List Path → List Path
  | [] => [p]
  | q :: qs =>
    if p = q then q :: qs
    else if p.key < q.key then p :: q :: qs
    else q :: insertSorted p qs

def sorted (ps : List Path) : List Path := ps.foldr insertSorted []

end Path
end PgJinja
