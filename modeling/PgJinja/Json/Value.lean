import PgJinja.Number.Layout

/-! Lists of pairs as finite maps, and JSON values. The fields of an object keep their order, and integers are kept
apart from numbers with a fraction or an exponent. -/
namespace PgJinja

namespace Assoc

variable {κ α : Type} [BEq κ]

def set (key : κ) (value : α) : List (κ × α) → List (κ × α)
  | [] => [(key, value)]
  | (k, v) :: rest => if k == key then (k, value) :: rest else (k, v) :: set key value rest

def merge (first second : List (κ × α)) : List (κ × α) :=
  second.foldl (fun acc p => set p.1 p.2 acc) first

end Assoc

inductive Json where
  | null
  | bool (b : Bool)
  | int (n : Int)
  | float (x : Binary64)
  | str (s : String)
  | arr (items : List Json)
  | obj (fields : List (String × Json))
  deriving Inhabited, Repr

inductive Shape where
  | null
  | bool
  | int
  | float
  | text
  | list
  | object
  deriving DecidableEq, Repr

namespace Shape

def name : Shape → String
  | null => "NoneType"
  | bool => "bool"
  | int => "int"
  | float => "float"
  | text => "str"
  | list => "list"
  | object => "dict"

end Shape

namespace Json

def shape : Json → Shape
  | null => .null
  | bool _ => .bool
  | int _ => .int
  | float _ => .float
  | str _ => .text
  | arr _ => .list
  | obj _ => .object

/-- Null, false, zero and everything empty do not count as given. -/
def given : Json → Bool
  | null => false
  | bool b => b
  | int n => n != 0
  | float x => !x.isZero
  | str s => s != ""
  | arr items => !items.isEmpty
  | obj fields => !fields.isEmpty

def field (fields : List (String × Json)) (key : String) : Json := (fields.lookup key).getD null

def get (v : Json) (key : String) : Json :=
  match v with
  | obj fields => field fields key
  | _ => null

def members : Json → List (String × Json)
  | obj fields => fields
  | _ => []

def elements : Json → List Json
  | arr items => items
  | _ => []

mutual
def isShort : Json → Bool
  | int n => PgJinja.isShort n
  | arr vs => shortItems vs
  | obj fs => shortFields fs
  | _ => true
def shortItems : List Json → Bool
  | [] => true
  | v :: vs => isShort v && shortItems vs
def shortFields : List (String × Json) → Bool
  | [] => true
  | (_, v) :: fs => isShort v && shortFields fs
end

end Json
end PgJinja
