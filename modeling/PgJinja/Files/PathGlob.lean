import PgJinja.Files.Glob
import PgJinja.Files.Path

/-! Patterns for paths: one pattern per component. Two stars as a whole component stand for any number
of directories. -/
namespace PgJinja

structure PathGlob where
  anchor : Anchor
  parts : List String
  /-- After a slash at the end only directories fit. -/
  openEnd : Bool
  deriving DecidableEq, Repr

inductive GlobFault where
  | empty
  | absolute
  | mixedStars
  deriving DecidableEq, Repr

def GlobFault.message : GlobFault → String
  | empty => "empty pattern"
  | absolute => "Non-relative patterns are unsupported"
  | mixedStars => "Invalid pattern: \x27**\x27 can only be an entire path component"

namespace PathGlob

def ofText (s : String) : PathGlob :=
  let p := Path.ofText s
  ⟨p.anchor, p.parts, s.toList.getLast? == some '/'⟩

def toPath (g : PathGlob) : Path := ⟨g.anchor, g.parts⟩

def fitsEach (parts components : List String) : Bool :=
  parts.length == components.length
    && (parts.zip components).all fun (part, c) => (Glob.ofText part).fits c

/-- Whether a path ends in components that fit. An absolute pattern speaks of the whole path. -/
def fitsEnd (g : PathGlob) (p : Path) : Bool :=
  if g.anchor = .relative then
    g.parts.length ≤ p.key.length && fitsEach g.parts (p.key.drop (p.key.length - g.parts.length))
  else g.anchor == p.anchor && fitsEach g.parts p.parts

def fitsFile : List String → List String → Bool
  | [], components => components.isEmpty
  | part :: parts, components =>
    if part = "**" then !parts.isEmpty && Glob.someEnd (fitsFile parts) components
    else
      match components with
      | [] => false
      | c :: components => (Glob.ofText part).fits c && fitsFile parts components

def isPlain (part : String) : Bool := part.toList.all fun c => c != '*' && c != '?' && c != '['

def fitsBelow (g : PathGlob) (components : List String) : Bool :=
  !g.openEnd && fitsFile ("**" :: g.parts) components

def fileFault? (g : PathGlob) : Option GlobFault :=
  if g.toPath.key.isEmpty then some .empty else none

/-- Below a directory the pattern must be relative, and two stars stand alone. -/
def directoryFault? (g : PathGlob) : Option GlobFault :=
  if g.anchor ≠ .relative then some .absolute
  else if g.parts.any fun part => part != "**" && Text.contains part "**" then some .mixedStars
  else none

end PathGlob
end PgJinja
