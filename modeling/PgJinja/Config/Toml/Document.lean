import PgJinja.Config.Toml.Lexeme

/-! Whole configuration files. A key is defined once, and a table that was written in one piece is not
extended later. -/
namespace PgJinja.Toml

/-- Keys of tables that may not be opened again, and of values that may not be changed at all. -/
structure Flags where
  opened : List Key := []
  frozen : List Key := []
  /-- Tables made by dotted keys; they count as opened from the next header on. -/
  pending : List Key := []

namespace Flags

def isOpened (f : Flags) (k : Key) : Bool := f.opened.contains k

def isFrozen (f : Flags) (k : Key) : Bool := f.frozen.any fun g => g.isPrefixOf k

def settle (f : Flags) : Flags := { f with opened := f.pending ++ f.opened, pending := [] }

def forget (f : Flags) (k : Key) : Flags :=
  { f with
    opened := f.opened.filter fun g => !k.isPrefixOf g
    frozen := f.frozen.filter fun g => !k.isPrefixOf g }

end Flags

/-- Why a file gives no table: it is not valid, a number in it is too long to be read, or its values
stand inside each other too deep. -/
inductive Fault where
  | invalid
  | longNumber (digits : Nat)
  | tooDeep
  deriving DecidableEq, Repr

abbrev Checked (α : Type) := List Char → Except Fault (α × List Char)

def orInvalid : Option α → Except Fault α
  | some a => .ok a
  | none => .error .invalid

def plainValue : Checked Value := fun cs => do
  match ← orInvalid (moment cs) with
  | some found => .ok found
  | none =>
    match longInteger? cs with
    | some digits => .error (.longNumber digits)
    | none => orInvalid (basedInteger cs <|> decimal cs <|> notFinite cs)

/-- The room for values inside each other. An array takes two parts of it, a table on one line three. -/
def maxRoom : Nat := 982

mutual
def value : Nat → Nat → Checked Value
  | 0, _, _ => .error .invalid
  | fuel + 1, room, cs =>
    match cs with
    | '"' :: _ => (orInvalid (string cs)).map fun (s, rest) => (.str s, rest)
    | '\x27' :: _ => (orInvalid (string cs)).map fun (s, rest) => (.str s, rest)
    | 't' :: 'r' :: 'u' :: 'e' :: rest => .ok (.bool true, rest)
    | 'f' :: 'a' :: 'l' :: 's' :: 'e' :: rest => .ok (.bool false, rest)
    | '[' :: rest =>
      if room < 2 then .error .tooDeep
      else do
        match ← orInvalid (skipFiller rest.length rest) with
        | ']' :: rest => .ok (.arr [], rest)
        | rest => (items fuel (room - 2) rest).map fun (vs, rest) => (.arr vs, rest)
    | '\x7b' :: rest =>
      if room < 3 then .error .tooDeep
      else
        match skipBlanks rest with
        | '\x7d' :: rest => .ok (.table [], rest)
        | rest => (inlineFields fuel (room - 3) [] {} rest).map fun (t, rest) => (.table t, rest)
    | _ => plainValue cs
def items : Nat → Nat → Checked (List Value)
  | 0, _, _ => .error .invalid
  | fuel + 1, room, cs => do
    let (v, rest) ← value fuel room cs
    match ← orInvalid (skipFiller rest.length rest) with
    | ']' :: rest => .ok ([v], rest)
    | ',' :: rest =>
      match ← orInvalid (skipFiller rest.length rest) with
      | ']' :: rest => .ok ([v], rest)
      | rest =>
        let (vs, rest) ← items fuel room rest
        return (v :: vs, rest)
    | _ => .error .invalid
def pair : Nat → Nat → Checked (Key × Value)
  | 0, _, _ => .error .invalid
  | fuel + 1, room, cs => do
    let (k, rest) ← orInvalid (key (cs.length + 1) cs)
    let rest ← orInvalid (expect '=' rest)
    let (v, rest) ← value fuel room (skipBlanks rest)
    return ((k, v), rest)
def inlineFields : Nat → Nat → Table → Flags → Checked Table
  | 0, _, _, _, _ => .error .invalid
  | fuel + 1, room, t, flags, cs => do
    let ((k, v), rest) ← pair fuel room cs
    if flags.isFrozen k then .error .invalid
    else
      let t ← orInvalid (update false (addNew (k.getLast?.getD "") v) k.dropLast t)
      match skipBlanks rest with
      | '\x7d' :: rest => .ok (t, rest)
      | ',' :: rest =>
        let flags := if v.isCollection then { flags with frozen := k :: flags.frozen } else flags
        inlineFields fuel room t flags (skipBlanks rest)
      | _ => .error .invalid
end

structure Reading where
  table : Table := []
  flags : Flags := {}
  header : Key := []

namespace Reading

def openTable (r : Reading) (k : Key) : Option Reading := do
  if r.flags.isOpened k || r.flags.isFrozen k then none
  else
    let t ← update true some k r.table
    return ⟨t, { r.flags with opened := k :: r.flags.opened }, k⟩

def openItem (r : Reading) (k : Key) : Option Reading := do
  if r.flags.isFrozen k then none
  else
    let flags := r.flags.forget k
    let t ← update true (appendTable (k.getLast?.getD "")) k.dropLast r.table
    return ⟨t, { flags with opened := k :: flags.opened }, k⟩

def passed (k : Key) : List Key := ((List.range k.length).drop 1).map fun n => k.take n

def define (r : Reading) (k : Key) (v : Value) : Option Reading := do
  let through := (passed k).map fun p => r.header ++ p
  let above := r.header ++ k.dropLast
  if through.any r.flags.isOpened || r.flags.isFrozen above then none
  else
    let flags := { r.flags with pending := through ++ r.flags.pending }
    let t ← update true (addNew (k.getLast?.getD "") v) above r.table
    let flags := if v.isCollection then { flags with frozen := (r.header ++ k) :: flags.frozen } else flags
    return { r with table := t, flags := flags }

end Reading

def header (r : Reading) (cs : List Char) : Option (Reading × List Char) := do
  let r := { r with flags := r.flags.settle }
  match cs with
  | '[' :: '[' :: rest =>
    let (k, rest) ← key (rest.length + 1) (skipBlanks rest)
    let r ← r.openItem k
    return (r, ← expect ']' (← expect ']' rest))
  | '[' :: rest =>
    let (k, rest) ← key (rest.length + 1) (skipBlanks rest)
    let r ← r.openTable k
    return (r, ← expect ']' rest)
  | _ => none

def statement (r : Reading) : Checked Reading := fun cs =>
  match cs with
  | '[' :: _ => (orInvalid (header r cs)).map fun (r, rest) => (r, skipBlanks rest)
  | '#' :: _ => .ok (r, cs)
  | _ => do
    let ((k, v), rest) ← pair (2 * cs.length + 2) maxRoom cs
    let r ← orInvalid (r.define k v)
    return (r, skipBlanks rest)

def document : Nat → Reading → List Char → Except Fault Table
  | 0, _, _ => .error .invalid
  | fuel + 1, r, cs =>
    match skipBlanks cs with
    | [] => .ok r.table
    | '\n' :: rest => document fuel r rest
    | cs => do
      let (r, rest) ← statement r cs
      match ← orInvalid (skipComment rest) with
      | [] => .ok r.table
      | '\n' :: rest => document fuel r rest
      | _ => .error .invalid

def dropReturns : List Char → List Char
  | [] => []
  | '\r' :: '\n' :: cs => '\n' :: dropReturns cs
  | c :: cs => c :: dropReturns cs

def read (s : String) : Except Fault Table :=
  let cs := dropReturns s.toList
  document (cs.length + 1) {} cs

end PgJinja.Toml
