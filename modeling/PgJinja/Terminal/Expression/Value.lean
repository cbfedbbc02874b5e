import PgJinja.Terminal.Expression.Read

/-! Values of expressions that are made of plain values only: numbers, quoted texts, a few words, and
groups of plain values. Members of sets and keys of tables are values that never change. -/
namespace PgJinja.Terminal.Expression

inductive Changing where
  | set
  | dict
  deriving DecidableEq, Repr

def Changing.text : Changing → String
  | set => "set"
  | dict => "dict"

inductive ValueFault where
  | unhashable (group : Changing)
  /-- A whole number is too large to be added to an imaginary one. -/
  | large
  /-- A table is unpacked into another. -/
  | unpacked
  /-- The expression is more than plain values. -/
  | notPlain
  deriving DecidableEq, Repr

def ValueFault.message : ValueFault → String
  | unhashable group => "unhashable type: \x27" ++ group.text ++ "\x27"
  | large => "int too large to convert to float"
  | unpacked => "malformed node or string: None"
  | notPlain => "malformed node or string on line 1"

namespace Tree

/-- Whole numbers from here on are too large to be added to an imaginary number. -/
def wholeBound : Nat := Nat.pow 2 1024 - Nat.pow 2 970

def signedNumber? : Tree → Option Number
  | number n | signed (number n) => some n
  | _ => Option.none

def checkSum (left right : Tree) : Except ValueFault Unit :=
  match left.signedNumber?, right with
  | some (.whole n), number .imaginary => if n < wholeBound then .ok () else .error .large
  | some .real, number .imaginary => .ok ()
  | _, _ => .error .notPlain

mutual

/-- Checks that an expression has a value. The answer is what in the value can change. -/
def changing? : Tree → Except ValueFault (Option Changing)
  | number _ | text | truth _ | none | dots => .ok Option.none
  | tuple items => firstChanging? items
  | set items => do
    checkMembers items
    return some .set
  | dict entries => do
    checkEntries entries
    return some .dict
  | signed (number _) => .ok Option.none
  | sum left right => do
    checkSum left right
    return Option.none
  | call callee arguments =>
    if callee.isName "set" && arguments = {} then .ok (some .set) else .error .notPlain
  | _ => .error .notPlain

def firstChanging? : List Tree → Except ValueFault (Option Changing)
  | [] => .ok Option.none
  | t :: ts => do
    let first ← changing? t
    return first.or (← firstChanging? ts)

def checkMembers : List Tree → Except ValueFault Unit
  | [] => .ok ()
  | t :: ts => do
    match ← changing? t with
    | some group => .error (.unhashable group)
    | Option.none => checkMembers ts

def checkEntries : List Tree → Except ValueFault Unit
  | [] => .ok ()
  | entry key value :: ts => do
    let group ← changing? key
    let _ ← changing? value
    match group with
    | some group => .error (.unhashable group)
    | Option.none => checkEntries ts
  | _ :: _ => .error .unpacked

end

end Tree
end PgJinja.Terminal.Expression
