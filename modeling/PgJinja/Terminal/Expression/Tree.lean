import PgJinja.Terminal.Expression.Token

/-! Expressions as trees. Of most kinds only the name matters. -/
namespace PgJinja.Terminal.Expression

/-- The arguments of a call: how many have no name, how many have one, and whether a table of further ones
is among them. -/
structure Arguments where
  positional : Nat := 0
  named : Nat := 0
  unpacking : Bool := false
  deriving DecidableEq, Repr

inductive Tree where
  | name (text : String)
  | number (n : Number)
  /-- A quoted text without fields, or a row of bytes. -/
  | text
  | truth (value : Bool)
  | none
  | dots
  | tuple (items : List Tree)
  | set (items : List Tree)
  | dict (entries : List Tree)
  /-- An entry of a table. -/
  | entry (key value : Tree)
  /-- A table inside of a table. -/
  | unpacked (value : Tree)
  | starred (value : Tree)
  /-- A plus or minus sign and its operand. -/
  | signed (operand : Tree)
  /-- A sum or a difference. -/
  | sum (left right : Tree)
  /-- A comparison, with its first operand. `membership` says that it is a test for a member first. -/
  | comparison (membership : Bool) (left : Tree)
  | call (callee : Tree) (arguments : Arguments)
  | other (kind : Kind)
  deriving Repr

namespace Tree

def kind : Tree → Kind
  | name _ => .name
  | number _ | text => .literal
  | truth value => .truth value
  | none => .none
  | dots => .ellipsis
  | tuple _ => .tuple
  | set _ => .setDisplay
  | dict _ | entry _ _ | unpacked _ => .dictDisplay
  | starred _ => .starred
  | signed _ | sum _ _ => .operation
  | comparison _ _ => .comparison
  | call _ _ => .call
  | other kind => kind

/-! ### Names -/

def letterForms : List (Nat × Char) :=
  [(0x17F, 's'), (0x2B3, 'r'), (0x2E2, 's'), (0x2E3, 'x'), (0x1D49, 'e'), (0x1D56, 'p'), (0x1D57, 't'),
   (0x1D62, 'i'), (0x1D63, 'r'), (0x1D9C, 'c'), (0x2071, 'i'), (0x207F, 'n'), (0x2091, 'e'), (0x2093, 'x'),
   (0x2099, 'n'), (0x209A, 'p'), (0x209B, 's'), (0x209C, 't'), (0x212F, 'e'), (0x2139, 'i'), (0x2147, 'e'),
   (0x2148, 'i'), (0x2170, 'i'), (0x2179, 'x'), (0x217D, 'c')]

def letterAt (index : Nat) : Char := Char.ofNat (if index < 26 then 65 + index else 71 + index)

def plainLetter (c : Char) : Char :=
  let n := c.toNat
  if 0x1D400 ≤ n && n ≤ 0x1D6A3 then letterAt ((n - 0x1D400) % 52)
  else if 0xFF41 ≤ n && n ≤ 0xFF5A then Char.ofNat (n - 0xFEE0)
  else (letterForms.lookup n).getD c

def isName (text : String) : Tree → Bool
  | name t => t.toList.map plainLetter == text.toList
  | _ => false

def command? (t : Tree) : Option String := ["print", "exec"].find? (t.isName ·)

/-! ### Targets -/

mutual

def badTarget? : Tree → Option Kind
  | name _ | other .member => Option.none
  | tuple items => badTargets? items
  | starred value => badTarget? value
  | comparison true left => badTarget? left
  | comparison false _ => Option.none
  | t => some t.kind

def badTargets? : List Tree → Option Kind
  | [] => Option.none
  | t :: ts => (badTarget? t).or (badTargets? ts)

end

end Tree
end PgJinja.Terminal.Expression
