import PgJinja.Text.Basic

/-! Patterns are sequences of character classes, each taken once, at least once, or any number of
times. A pattern is searched from left to right; every repetition takes as many characters as it can
and gives them back one by one when the rest does not fit. -/
namespace PgJinja.Text

inductive Count where
  | one
  | some
  | any
  deriving DecidableEq, Repr

/-- A class of characters, how often it is taken, and whether what it took is part of the answer. -/
structure Piece where
  accepts : Char → Bool
  count : Count := .one
  kept : Bool := false

def Piece.only (c : Char) : Piece where
  accepts := (· == c)

def Piece.blanks : Piece where
  accepts := isBlank
  count := .any

abbrev Pattern := List Piece

/-- Takes accepted characters, as many as possible, such that `rest` succeeds on what follows. -/
def takeRun (accepts : Char → Bool) (rest : List Char → Option α) :
    List Char → Option (List Char × α)
  | [] => (rest []).map ([], ·)
  | c :: cs =>
    match if accepts c then takeRun accepts rest cs else none with
    | some (run, a) => some (c :: run, a)
    | none => (rest (c :: cs)).map ([], ·)

def Piece.take (p : Piece) (rest : List Char → Option α) (cs : List Char) :
    Option (List Char × α) :=
  match p.count, cs with
  | .any, cs => takeRun p.accepts rest cs
  | _, [] => none
  | .one, c :: cs => if p.accepts c then (rest cs).map ([c], ·) else none
  | .some, c :: cs =>
    if p.accepts c then (takeRun p.accepts rest cs).map fun r => (c :: r.1, r.2) else none

def Pattern.matchStart : Pattern → List Char → Option (List (List Char))
  | [], _ => some []
  | p :: ps, cs =>
    (p.take (Pattern.matchStart ps) cs).map fun r => if p.kept then r.1 :: r.2 else r.2

def Pattern.search (p : Pattern) : List Char → Option (List (List Char))
  | [] => p.matchStart []
  | c :: cs =>
    match p.matchStart (c :: cs) with
    | some runs => some runs
    | none => Pattern.search p cs

end PgJinja.Text
