import PgJinja.Failure
import PgJinja.Line

/-! Statements of a stored procedure. A text may be missing, and something that is no statement may
stand where one should: the compiler says so when it meets them. -/
namespace PgJinja

inductive Kind where
  | raise
  | forQuery
  | ret
  | retNext
  | block
  | execute
  | dynamic
  | assign
  | choose
  | select
  deriving DecidableEq, Repr

namespace Kind

def all : List Kind :=
  [raise, forQuery, ret, retNext, block, execute, dynamic, assign, choose, select]

def tag : Kind → String
  | raise => "PLpgSQL_stmt_raise"
  | forQuery => "PLpgSQL_stmt_fors"
  | ret => "PLpgSQL_stmt_return"
  | retNext => "PLpgSQL_stmt_return_next"
  | block => "PLpgSQL_stmt_block"
  | execute => "PLpgSQL_stmt_execsql"
  | dynamic => "PLpgSQL_stmt_dynexecute"
  | assign => "PLpgSQL_stmt_assign"
  | choose => "PLpgSQL_stmt_if"
  | select => "PLpgSQL_stmt_case"

def ofTag? (s : String) : Option Kind := all.find? (·.tag == s)

end Kind

/-- What the column of a query is read into: a variable, or something that is none. -/
inductive Target where
  | named (name : String)
  | broken (misfit : Misfit)
  deriving DecidableEq, Repr

mutual
inductive Statement where
  | raise (message : Option String) (level : Int) (line : Option Line)
  | forQuery (query : Option String) (body : List Statement) (line : Option Line)
  | ret (expr : Option String) (line : Option Line)
  | retNext (line : Option Line)
  | block (body : List Statement) (line : Option Line)
  | execute (query : Option String) (into : Option (List Target)) (line : Option Line)
  | dynamic (query : Option String) (line : Option Line)
  | assign (expr : Option String) (line : Option Line)
  | choose (test : Option String) (body : List Statement) (arms : List Branch)
      (otherwise : Option (List Statement)) (line : Option Line)
  | select (subject : Option String) (arms : List Branch) (hasElse : Bool)
      (otherwise : List Statement) (line : Option Line)
  | unknown (kind : Option Key) (line : Option Line)
  /-- Something that cannot be compiled, and what is wrong with it. -/
  | broken (misfit : Misfit)
inductive Branch where
  | mk (test : Option String) (body : List Statement) (line : Option Line)
end

instance : Inhabited Statement := ⟨.retNext none⟩

instance : Inhabited Branch := ⟨.mk none [] none⟩

namespace Statement

def errorLevel : Int := 16

def warningLevel : Int := 10

def kindText (kind : Option Key) : String := (kind.map Key.text).getD "None"

def tag : Statement → String
  | raise .. => Kind.raise.tag
  | forQuery .. => Kind.forQuery.tag
  | ret .. => Kind.ret.tag
  | retNext .. => Kind.retNext.tag
  | block .. => Kind.block.tag
  | execute .. => Kind.execute.tag
  | dynamic .. => Kind.dynamic.tag
  | assign .. => Kind.assign.tag
  | choose .. => Kind.choose.tag
  | select .. => Kind.select.tag
  | unknown kind _ => kindText kind
  | broken _ => ""

def line : Statement → Option Line
  | raise _ _ line | forQuery _ _ line | ret _ line | retNext line | block _ line
  | execute _ _ line | dynamic _ line | assign _ line | choose _ _ _ _ line
  | select _ _ _ _ line | unknown _ line => line
  | broken _ => none

end Statement

structure Variable where
  name : String
  initial : Option String := none
  deriving DecidableEq, Repr

structure Procedure where
  name : String
  locals : List Variable
  body : List Statement
  line : Option Line

end PgJinja
