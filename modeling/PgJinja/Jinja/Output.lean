import PgJinja.Jinja.Step

/-! Carrying out steps. Whatever was written, numbered or reported before a failure stays. Anonymous executions have
names such as `exec_1` and `dyn_2`, and all names of a run draw from one sequence of numbers. -/
namespace PgJinja.Jinja

structure Ids where
  value : Int := 0
  deriving DecidableEq, Repr

namespace Ids

def name (series : String) (n : Int) : String := series ++ "_" ++ intText n

/-- The next name. Its number is taken also if it is too long to be written. -/
def next (ids : Ids) (series : String) : Except Limit String × Ids :=
  let n := ids.value + 1
  (if isShort n then .ok (name series n) else .error .digits, ⟨n⟩)

def reset (_ : Ids) : Ids := ⟨0⟩

end Ids

structure Output where
  listing : Listing := {}
  ids : Ids := {}
  diagnostics : List Diagnostic := []

def Fault.failure (file : String) : Fault → Failure
  | .missing kind field line => .refused ⟨.missing .node kind field, some file, line⟩
  | .misfit m => .misfit m

def warning (file : String) (code : Code) (message help : String) (line : Option Line) :
    Diagnostic where
  severity := .warning
  message := message
  file := file
  line := Line.orFirst line
  code := some code
  help := some help

namespace Output

def receive (out : Output) : Except Failure Listing → Output × Option Failure
  | .ok listing => ({ out with listing := listing }, none)
  | .error failure => (out, some failure)

def callLines (name sql : String) : List String :=
  [tag ("call statement('" ++ name ++ "')"), sql ++ ";", tag "endcall"]

def step (room : Nat) (file : String) (indent : Int) (out : Output) : Step → Output × Option Failure
  | .emit depth code => out.receive (out.listing.emit room code (indent + depth))
  | .comment depth text => out.receive (out.listing.emitComment room text (indent + depth))
  | .call depth series sql =>
    match out.ids.next series.text with
    | (.ok name, ids) =>
      { out with ids := ids }.receive (out.listing.emitAll room (callLines name sql) (indent + depth))
    | (.error limit, ids) => ({ out with ids := ids }, some (.exceeded limit))
  | .warn code message help line =>
    ({ out with diagnostics := out.diagnostics ++ [warning file code message help line] }, none)
  | .stop fault => (out, some (fault.failure file))

def run (room : Nat) (file : String) (indent : Int) : List Step → Output → Output × Option Failure
  | [], out => (out, none)
  | s :: rest, out =>
    match out.step room file indent s with
    | (out, none) => run room file indent rest out
    | (out, some failure) => (out, some failure)

def compile (room : Nat) (file : String) (out : Output) (indent : Int) (s : Statement) :
    Output × Option Failure :=
  run room file indent (s.steps 0) out

end Output

def unnamedSource : String := "<tree>"

def compileAll (room : Nat) (statements : List Statement) (indent : Int) (ids : Ids) (file : String) :
    Output × Option Failure :=
  Output.run room file indent (Statement.listSteps 0 statements) { ids := ids }

end PgJinja.Jinja
