import PgJinja.Diagnostic.Basic
import PgJinja.Jinja.Expression
import PgJinja.Jinja.Listing
import PgJinja.Statement

/-! What compiling a statement does, step by step. Lines have a depth, which counts from the indentation
of the whole. The steps of a statement depend neither on that indentation, nor on the source name, nor
on the number of the next anonymous execution; `Jinja.Output` carries them out. -/
namespace PgJinja

namespace Jinja

/-- Anonymous executions of static and of dynamic text share one sequence of numbers. -/
inductive Series where
  | exec
  | dyn
  deriving DecidableEq, Repr

def Series.text : Series → String
  | .exec => "exec"
  | .dyn => "dyn"

inductive Fault where
  | missing (kind field : String) (line : Option Line)
  | misfit (m : Misfit)
  deriving DecidableEq, Repr

inductive Step where
  | emit (depth : Nat) (code : String)
  | comment (depth : Nat) (text : String)
  /-- Takes the next number and writes a call block around the text. -/
  | call (depth : Nat) (series : Series) (sql : String)
  | warn (code : Code) (message help : String) (line : Option Line)
  | stop (fault : Fault)
  deriving DecidableEq, Repr

def deeper : Nat := 2

def bindings (depth : Nat) (column : Nat) : List Target → List Step
  | [] => []
  | .named name :: targets =>
    .emit depth (tag ("set " ++ name ++ " = results.columns[" ++ natText column ++ "].values()[0]"))
      :: bindings depth (column + 1) targets
  | .broken m :: _ => [.stop (.misfit m)]

def required (s : Statement) (field : String) (text : Option String) (steps : String → List Step) :
    List Step :=
  match text with
  | some t => steps t
  | none => [.stop (.missing s.tag field s.line)]

def raiseCode (level : Int) (message : String) : String :=
  if Statement.errorLevel ≤ level then
    printed ("exceptions.raise_compiler_error(" ++ literal message ++ ")")
  else if Statement.warningLevel ≤ level then printed ("exceptions.warn(" ++ literal message ++ ")")
  else printed ("log(" ++ literal message ++ ", info=true)")

def returnCode : Option String → String
  | none => tag "do return()"
  | some expr => if expr = "" then tag "do return()" else tag ("do return(" ++ Text.strip expr ++ ")")

def executeSteps (depth : Nat) (sql : String) : Option (List Target) → List Step
  | none => [.call depth .exec sql]
  | some targets =>
    .emit depth (tag ("set results = run_query(" ++ literal sql ++ ")"))
      :: .emit depth (tag "if execute")
      :: (bindings (depth + deeper) 0 targets ++ [.emit depth (tag "endif")])

def dynamicSteps (depth : Nat) (sql : String) : List Step :=
  if Text.contains sql "TRUNCATE TABLE" then [.emit depth (printed "truncate_table(to_table)")]
  else if Text.contains sql "INSERT INTO" then
    [.emit depth (printed "insert_table_from_trace(to_table)")]
  else [.call depth .dyn sql]

def assignSteps (depth : Nat) (expr : String) (line : Option Line) : List Step :=
  match Assignment.find? expr with
  | some a => [.emit depth (tag ("set " ++ a.name ++ " = " ++ a.value))]
  | none =>
    [.warn .badAssignment (Code.badAssignment.message [("expr", expr)])
      "the statement was dropped from the generated macro" line]

def unknownSteps (depth : Nat) (kind : String) (line : Option Line) : List Step :=
  [.warn .unknownStatement (Code.unknownStatement.message [("kind", kind)])
      "a comment was emitted in place of the statement" line,
    .comment depth ("unsupported stmt type: " ++ kind)]

/-- The test of a case arm. Without a list of values the whole text stands in for it. -/
def armSteps (depth : Nat) (keyword subject : String) (line : Option Line) : Option String → List Step
  | none => [.stop (.misfit .noText)]
  | some expr =>
    let test (values : String) : Step :=
      .emit depth (tag (keyword ++ " " ++ subject ++ " in (" ++ values ++ ")"))
    match inListValues? expr with
    | some values => [test values]
    | none =>
      [.warn .badArm (Code.badArm.message [("expr", expr)])
          "the whole expression is used as the value list" line,
        test expr]

end Jinja

open Jinja

mutual
def Statement.steps (depth : Nat) : Statement → List Step
  | s@(.raise message level _) =>
    required s "message" message fun m => [.emit depth (raiseCode level m)]
  | s@(.forQuery query body _) =>
    required s "query" query fun q =>
      .emit depth (tag ("set records = run_query(" ++ literal (Text.strip q) ++ ")"))
        :: .emit depth (tag "if execute")
        :: .emit (depth + deeper) (tag "for rec in records.rows()")
        :: (Statement.listSteps (depth + deeper + deeper) body
          ++ [.emit (depth + deeper) (tag "endfor"), .emit depth (tag "endif")])
  | .ret expr _ => [.emit depth (returnCode expr)]
  | .retNext _ => [.emit depth (tag "do return_next()")]
  | .block body _ => Statement.listSteps depth body
  | s@(.execute query into _) =>
    required s "query" query fun q => executeSteps depth (Text.strip q) into
  | s@(.dynamic query _) => required s "query" query fun q => dynamicSteps depth (Text.strip q)
  | s@(.assign expr line) =>
    required s "expr" expr fun e => assignSteps depth (Text.strip e) line
  | s@(.choose test body arms otherwise _) =>
    required s "cond" test fun t =>
      .emit depth (tag ("if " ++ t))
        :: (Statement.listSteps (depth + deeper) body ++ Branch.elifSteps depth arms
          ++ Statement.elseSteps depth otherwise ++ [.emit depth (tag "endif")])
  | s@(.select subject arms hasElse otherwise _) =>
    required s "subject" subject fun t =>
      match arms with
      | [] => if hasElse then Statement.listSteps depth otherwise else []
      | _ :: _ =>
        Branch.whenSteps depth "if" (Text.strip t) arms
          ++ (if hasElse then
              .emit depth (tag "else") :: Statement.listSteps (depth + deeper) otherwise
            else [])
          ++ [.emit depth (tag "endif")]
  | .unknown kind line => unknownSteps depth (Statement.kindText kind) line
  | .broken m => [.stop (.misfit m)]
def Statement.listSteps (depth : Nat) : List Statement → List Step
  | [] => []
  | s :: rest => Statement.steps depth s ++ Statement.listSteps depth rest
def Statement.elseSteps (depth : Nat) : Option (List Statement) → List Step
  | none => []
  | some [] => []
  | some (s :: rest) =>
    .emit depth (tag "else")
      :: (Statement.steps (depth + deeper) s ++ Statement.listSteps (depth + deeper) rest)
def Branch.elifSteps (depth : Nat) : List Branch → List Step
  | [] => []
  | .mk test body _ :: rest =>
    .emit depth (tag ("elif " ++ test.getD "None"))
      :: (Statement.listSteps (depth + deeper) body ++ Branch.elifSteps depth rest)
def Branch.whenSteps (depth : Nat) (keyword subject : String) : List Branch → List Step
  | [] => []
  | .mk test body line :: rest =>
    armSteps depth keyword subject line test ++ Statement.listSteps (depth + deeper) body
      ++ Branch.whenSteps depth "elif" subject rest
end

end PgJinja
