import PgJinja.Json.Value
import PgJinja.Number.Binary64

/-! Values of a configuration file. Of dates and times only their kind matters. -/
namespace PgJinja.Toml

inductive Value where
  | str (s : String)
  | int (n : Int)
  | float (x : Binary64)
  | bool (b : Bool)
  | date
  | time
  | datetime
  | arr (items : List Value)
  | table (fields : List (String × Value))
  deriving Inhabited, Repr

abbrev Table := List (String × Value)

abbrev Key := List String

namespace Value

def given : Value → Bool
  | str s => s != ""
  | int n => n != 0
  | float x => !x.isZero
  | bool b => b
  | arr items => !items.isEmpty
  | table fields => !fields.isEmpty
  | date | time | datetime => true

def isCollection : Value → Bool
  | arr _ | table _ => true
  | _ => false

def kindName : Value → String
  | str _ => "str"
  | int _ => "int"
  | float _ => "float"
  | bool _ => "bool"
  | date => "date"
  | time => "time"
  | datetime => "datetime"
  | arr _ => "list"
  | table _ => "dict"

end Value

/-- Changes the table behind a key, which is made if it is not there. Behind a list of tables stands
its last one, unless lists are closed. -/
def update (openLists : Bool) (change : Table → Option Table) : Key → Table → Option Table
  | [], t => change t
  | k :: ks, t =>
    match t.lookup k with
    | none => (update openLists change ks []).map fun inner => Assoc.set k (.table inner) t
    | some (.table inner) =>
      (update openLists change ks inner).map fun inner => Assoc.set k (.table inner) t
    | some (.arr items) =>
      match openLists, items.getLast? with
      | true, some (.table inner) =>
        (update openLists change ks inner).map fun inner =>
          Assoc.set k (.arr (items.dropLast ++ [.table inner])) t
      | _, _ => none
    | some _ => none

def addNew (key : String) (v : Value) (t : Table) : Option Table :=
  match t.lookup key with
  | some _ => none
  | none => some (Assoc.set key v t)

def appendTable (key : String) (t : Table) : Option Table :=
  match t.lookup key with
  | none => some (Assoc.set key (.arr [.table []]) t)
  | some (.arr items) => some (Assoc.set key (.arr (items ++ [.table []])) t)
  | some _ => none

end PgJinja.Toml
