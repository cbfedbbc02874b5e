/-! File name patterns: a star stands for any characters, a question mark for one, and brackets for one
of a set. -/
namespace PgJinja

inductive GlobToken where
  | star
  | any
  | lit (c : Char)
  | set (negated : Bool) (ranges : List (Char × Char))
  deriving DecidableEq, Repr

abbrev Glob := List GlobToken

namespace Glob

inductive Member where
  | char (c : Char)
  | hyphen
  deriving DecidableEq, Repr

/-- Splits at the hyphens that make ranges. Each part has a least number of characters, and a hyphen
among those, or at the very end, is a plain character. -/
def splitRanges : Nat → Nat → List Char → List (List Char)
  | 0, _, cs => [cs]
  | fuel + 1, least, cs =>
    let rest := cs.drop least
    let part := cs.take least ++ rest.takeWhile (· != '-')
    match rest.dropWhile (· != '-') with
    | [] => [part]
    | [_] => [part ++ ['-']]
    | _ :: more => part :: splitRanges fuel 2 more

def dropEmpty (part : List Char) : List (List Char) → List (List Char)
  | [] => [part]
  | next :: parts =>
    match part.getLast?, next with
    | some low, high :: above =>
      if high < low then (part.dropLast ++ above) :: parts else part :: next :: parts
    | _, _ => part :: next :: parts

def joinRanges : List (List Char) → List Member
  | [] => []
  | [part] => part.map .char
  | part :: parts => part.map .char ++ .hyphen :: joinRanges parts

def ranges : List Member → List (Char × Char)
  | .char low :: .hyphen :: .char high :: rest => (low, high) :: ranges rest
  | .char c :: rest => (c, c) :: ranges rest
  | .hyphen :: rest => ('-', '-') :: ranges rest
  | [] => []

/-- The set of the text between brackets. An exclamation mark that stands first, once the empty ranges
are gone, asks for all other characters. -/
def setOf (cs : List Char) : GlobToken :=
  let parts := splitRanges cs.length (if cs.head? = some '!' then 2 else 1) cs
  match joinRanges (parts.foldr dropEmpty []) with
  | [.char '!'] => .any
  | .char '!' :: members => .set true (ranges members)
  | members => .set false (ranges members)

/-- What stands in a bracket and after it. A closing bracket right at the start, also after an
exclamation mark, is a member. -/
def bracket? (cs : List Char) : Option (List Char × List Char) :=
  let (lead, cs) := match cs with
    | '!' :: ']' :: cs => (['!', ']'], cs)
    | '!' :: cs => (['!'], cs)
    | ']' :: cs => ([']'], cs)
    | cs => ([], cs)
  match cs.dropWhile (· != ']') with
  | _ :: rest => some (lead ++ cs.takeWhile (· != ']'), rest)
  | [] => none

def tokens : Nat → List Char → Glob
  | 0, _ => []
  | _, [] => []
  | fuel + 1, c :: cs =>
    if c = '*' then .star :: tokens fuel cs
    else if c = '?' then .any :: tokens fuel cs
    else if c = '[' then
      match bracket? cs with
      | some (inside, rest) => setOf inside :: tokens fuel rest
      | none => .lit c :: tokens fuel cs
    else .lit c :: tokens fuel cs

def ofText (s : String) : Glob := tokens s.length s.toList

def someEnd (test : List α → Bool) : List α → Bool
  | [] => test []
  | c :: cs => test (c :: cs) || someEnd test cs

def matchesChars : Glob → List Char → Bool
  | [], cs => cs.isEmpty
  | .star :: ts, cs => someEnd (matchesChars ts) cs
  | .any :: ts, cs =>
    match cs with
    | _ :: cs => matchesChars ts cs
    | [] => false
  | .lit t :: ts, cs =>
    match cs with
    | c :: cs => t == c && matchesChars ts cs
    | [] => false
  | .set negated ranges :: ts, cs =>
    match cs with
    | c :: cs => (ranges.any fun r => r.1 ≤ c && c ≤ r.2) != negated && matchesChars ts cs
    | [] => false

def fits (g : Glob) (name : String) : Bool := matchesChars g name.toList

end Glob
end PgJinja
