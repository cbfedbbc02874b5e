import PgJinja.Terminal.Column
import PgJinja.Terminal.Symbol
import PgJinja.Text.Basic

/-! How a text reaches the terminal: the names of symbols give way to the symbols, some control
characters are dropped, and a tab moves on to the next multiple of eight columns. -/
namespace PgJinja.Terminal

def isDropped (c : Char) : Bool := [7, 8, 11, 12, 13].contains c.toNat

def tabWidth : Nat := 8

/-- The parts of a line between tabs, each moved to its tab stop. A tab takes one column at least. -/
def alignParts (column : Nat) : List (List Char) → List Char
  | [] => []
  | [part] => part
  | part :: parts =>
    let reached := column + columns (part ++ [' '])
    let padding := (tabWidth - reached % tabWidth) % tabWidth
    part ++ List.replicate (1 + padding) ' ' ++ alignParts (reached + padding) parts

def expandTabs (line : List Char) : List Char := alignParts 0 (Text.splitAtChar '\t' line)

def shown (cs : List Char) : String :=
  let lines := Text.splitAtChar '\n' (cs.filter fun c => !isDropped c)
  Text.unlines (lines.map fun line => String.ofList (expandTabs line)) ++ "\n"

def printed (s : String) : String := shown (replaceSymbols 0 s.toList)

end PgJinja.Terminal
