import PgJinja.Terminal.Expression.Reader

/-! The loops of comprehensions, the targets of these loops, and the arguments of calls. -/
namespace PgJinja.Terminal.Expression

open Reader

variable (rules : Rule → Reader Tree)

def assignment : Reader Tree := nested do
  let _ ← name
  sign ":="
  let _ ← rules .expression
  return .other .named

def unnamed : Reader Tree := do
  let t ← rules .expression
  notAhead (sign ":=")
  return t

def assignmentOrUnnamed : Reader Tree := nested (assignment rules <|> unnamed rules)

def starredExpression : Reader Tree := nested do
  sign "*"
  (do return .starred (← rules .expression)) <|> complain .bareStar

def row (item : Reader Tree) : Reader Tree := nested do
  let t ← item
  let ts ← many (nested do sign ","; item)
  let comma ← (sign ",").maybe
  return if ts.isEmpty && comma.isNone then t else .tuple (t :: ts)

def starExpressions : Reader Tree := row (rules .starExpression)

namespace Loop

def badTarget : Reader Unit := nested do
  let _ ← (word "async").maybe
  word "for"
  match (← starExpressions rules).badTarget? with
  | some kind => complain (.assignmentTo kind)
  | none => unfit

/-- A loop with its conditions. Once its source is announced, it is not read in any other way. -/
def clause : Reader Unit := nested do
  let head := do
    word "for"
    let _ ← row (rules .starTarget)
    word "in"
  let announced ← ((do word "async"; head) <|> head).maybe
  if announced.isNone then explaining (badTarget rules)
  else
    let _ ← rules .disjunction
    let _ ← many <| nested do
      word "if"
      let _ ← rules .disjunction

def clauses : Reader Unit := nested do
  let _ ← (clause rules).atLeastOnce

end Loop

namespace Target

def goesOn : Reader Unit := nested (sign "(" <|> sign "[" <|> sign ".")

def group : Reader Unit := nested do
  let _ ← rules .starTarget
  let more ← many (nested do sign ","; rules .starTarget)
  if more.isEmpty then sign ","
  else
    let _ ← (sign ",").maybe

def atom : Reader Tree := nested <|
  (do return .name (← name))
    <|> (do
      sign "("
      let t ← rules .target
      sign ")"
      return t)
    <|> do
      sign "("
      let _ ← (group rules).maybe
      sign ")"
      return .tuple []

def starred : Reader Tree :=
  (do
    sign "*"
    nested do
      notAhead (sign "*")
      rules .starTarget)
    <|> rules .target

def plain : Reader Tree :=
  (do
    let _ ← rules .targetHead
    sign "."
    let _ ← name
    notAhead goesOn
    return .other .member)
    <|> atom rules

end Target

namespace Call

inductive Extra where
  | named
  | row
  | table
  deriving DecidableEq, Repr

def withExtras (positional : Nat) (extras : List Extra) : Arguments :=
  ⟨positional + extras.count .row, extras.count .named + extras.count .table, extras.contains .table⟩

def constantWord : Reader Kind := nested <|
  (do word "True"; return .truth true) <|> (do word "False"; return .truth false)
    <|> do word "None"; return .none

def badNamed : Reader Extra := nested <|
  (do
    let kind ← constantWord
    sign "="
    complain (.assignmentTo kind))
    <|> (do
      let _ ← name
      sign "="
      let _ ← rules .expression
      Loop.clauses rules
      complain .assignment)
    <|> do
      notAhead <| nested do
        let _ ← name
        sign "="
      let _ ← rules .expression
      sign "="
      complain .argumentAssignment

def named : Reader Extra := do
  let _ ← name
  sign "="
  let _ ← rules .expression
  return .named

def namedOrRow : Reader Extra := nested <|
  explaining (badNamed rules) <|> named rules <|> do
    let _ ← starredExpression rules
    return .row

def namedOrTable : Reader Extra := nested <|
  explaining (badNamed rules) <|> named rules <|> do
    sign "**"
    let _ ← rules .expression
    return .table

def extras : Reader (List Extra) := nested <|
  (do
    let rows ← separated (namedOrRow rules)
    sign ","
    let tables ← separated (namedOrTable rules)
    return rows ++ tables)
    <|> separated (namedOrRow rules)
    <|> separated (namedOrTable rules)

def positionals : Reader (List Tree) :=
  separated <| nested <|
    starredExpression rules <|> do
      let t ← assignmentOrUnnamed rules
      notAhead (sign "=")
      return t

def list : Reader Arguments := nested <|
  (do
    let ts ← positionals rules
    let more ← maybe (nested do sign ","; extras rules)
    return withExtras ts.length (more.getD []))
    <|> do return withExtras 0 (← extras rules)

def generator : Reader Unit := do
  let _ ← rules .expression
  Loop.clauses rules

def withNamed : Reader (List Extra) := nested <|
  (nested do let _ ← positionals rules; sign ","; extras rules) <|> extras rules

def badList : Reader Tree := nested <|
  (do
    let _ ← withNamed rules
    sign ","
    let _ ← separated <| nested do
      let _ ← starredExpression rules
      notAhead (sign "=")
    complain .starredAfter)
    <|> (do
      generator rules
      sign ","
      let _ ← maybe (nested ((do let _ ← list rules) <|> generator rules))
      complain .bareGenerator)
    <|> (do
      let _ ← name
      sign "="
      generator rules
      complain .assignment)
    <|> do
      let several ← maybe do
        let a ← list rules
        Loop.clauses rules
        return a.positional
      match several with
      | some n => if 1 < n then complain .bareGenerator else unfit
      | none =>
        (do
          let _ ← list rules
          sign ","
          generator rules
          complain .bareGenerator)
          <|> do
            let a ← list rules
            sign ","
            let _ ← list rules
            complain (.positionalAfter a.unpacking)

def arguments : Reader Tree :=
  (do
    let a ← list rules
    let _ ← (sign ",").maybe
    ahead (sign ")")
    return .call .none a)
    <|> explaining (badList rules)

end Call
end PgJinja.Terminal.Expression
