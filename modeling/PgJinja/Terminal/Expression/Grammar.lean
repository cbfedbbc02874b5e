import PgJinja.Terminal.Expression.Call
import PgJinja.Terminal.Expression.Field
import PgJinja.Terminal.Expression.Lambda

/-! The grammar of expressions. A rule is a reader that may use all rules, and its alternatives are tried in
order. Some alternatives never fit: they look for mistakes and complain about them. -/
namespace PgJinja.Terminal.Expression.Grammar

open Reader

variable (rules : Rule → Reader Tree)

/-! ### Whole expressions -/

def conditional : Reader Tree := do
  let _ ← rules .disjunction
  word "if"
  let _ ← rules .disjunction
  word "else"
  let _ ← rules .expression
  return .other .conditional

def plainExpression : Reader Tree :=
  conditional rules <|> rules .disjunction <|> Lambda.function rules

def isSoftWord (text : String) : Bool :=
  ["_", "case", "match"].any fun w => text.toList.isPrefixOf w.toList

def sideBySide : Reader Unit := nested do
  if isSoftWord (← name) then return ()
  else
    let _ ← quoted

def badExpression : Reader Tree := nested do
  let pair ← maybe do
    notAhead sideBySide
    let t ← rules .disjunction
    let _ ← nested (quietly (plainExpression rules))
    return t
  match pair with
  | some t => if t.command?.isSome || (← bracketDepth) = 0 then unfit else complain .missingComma
  | none =>
    let _ ← rules .disjunction
    word "if"
    let _ ← rules .disjunction
    notAhead (nested (word "else" <|> sign ":"))
    complain .missingElse

def badCommand : Reader Tree := nested do
  let text ← name
  notAhead (sign "(")
  let _ ← starExpressions rules
  match (Tree.name text).command? with
  | some command => complain (.missingParentheses command)
  | none => unfit

def expression : Reader Tree :=
  explaining (badExpression rules) <|> explaining (badCommand rules) <|> plainExpression rules

def starExpression : Reader Tree :=
  (do
    sign "*"
    return .starred (← rules .bitOr))
    <|> rules .expression

def yielded : Reader Tree := nested do
  word "yield"
  (do
    word "from"
    let _ ← rules .expression)
    <|> do let _ ← (starExpressions rules).maybe
  return .other .yielded

def namedExpression : Reader Tree := nested <|
  assignment rules <|> explaining (rules .misnamed) <|> unnamed rules

def starNamed : Reader Tree := nested <|
  (do
    sign "*"
    return .starred (← rules .bitOr))
    <|> namedExpression rules

def starNamedList : Reader (List Tree) := nested do
  let ts ← separated (starNamed rules)
  let _ ← (sign ",").maybe
  return ts

/-! ### Groups -/

def tuple : Reader Tree := nested do
  sign "("
  let ts ← maybe <| nested do
    let t ← starNamed rules
    sign ","
    return t :: ((← (starNamedList rules).maybe).getD [])
  sign ")"
  return .tuple (ts.getD [])

def badGroup : Reader Tree := nested do
  sign "("
  (do
    let _ ← starredExpression rules
    sign ")"
    complain .starred)
    <|> do
      sign "**"
      let _ ← rules .expression
      sign ")"
      complain .doubleStarred

def group : Reader Tree := nested <|
  (do
    sign "("
    let t ← nested (yielded rules <|> namedExpression rules)
    sign ")"
    return t)
    <|> explaining (badGroup rules)

def badComprehension : Reader Tree := nested <|
  (do
    nested (sign "[" <|> sign "(" <|> sign "\x7b")
    let _ ← starredExpression rules
    Loop.clauses rules
    complain .starredClause)
    <|> do
      nested (sign "[" <|> sign "\x7b")
      let _ ← starNamed rules
      sign ","
      (do
        let _ ← starNamedList rules
        Loop.clauses rules)
        <|> Loop.clauses rules
      complain .bareTarget

def generator : Reader Tree := nested <|
  (do
    sign "("
    let _ ← assignmentOrUnnamed rules
    Loop.clauses rules
    sign ")"
    return .other .generator)
    <|> explaining (badComprehension rules)

def set : Reader Tree := nested do
  sign "\x7b"
  let ts ← starNamedList rules
  sign "\x7d"
  return .set ts

def setComprehension : Reader Tree := nested <|
  (do
    sign "\x7b"
    let _ ← namedExpression rules
    Loop.clauses rules
    sign "\x7d"
    return .other .setComprehension)
    <|> explaining (badComprehension rules)

def entry : Reader Tree := nested do
  let key ← rules .expression
  sign ":"
  return .entry key (← rules .expression)

def unpackedOrEntry : Reader Tree := nested <|
  (do
    sign "**"
    return .unpacked (← rules .bitOr))
    <|> entry rules

def badValue : Reader Unit := do
  let _ ← rules .expression
  sign ":"
  (do
    sign "*"
    let _ ← rules .bitOr
    complain .starredValue)
    <|> do
      ahead (nested (sign "\x7d" <|> sign ","))
      complain .missingValue

def badEntry : Reader Unit := nested <|
  (do
    let _ ← rules .expression
    notAhead (sign ":")
    complain .missingColon)
    <|> badValue rules

def badEntries : Reader Unit := nested <|
  (do
    let _ ← separated (unpackedOrEntry rules)
    sign ","
    badEntry rules)
    <|> badValue rules

/-- A table. Mistakes in its entries are always looked for. -/
def dict : Reader Tree := nested <|
  (do
    sign "\x7b"
    let ts ← maybe <| nested do
      let ts ← separated (unpackedOrEntry rules)
      let _ ← (sign ",").maybe
      return ts
    sign "\x7d"
    return .dict (ts.getD []))
    <|> do
      sign "\x7b"
      badEntries rules
      unfit

def badDictComprehension : Reader Tree := nested do
  sign "\x7b"
  sign "**"
  let _ ← rules .bitOr
  Loop.clauses rules
  sign "\x7d"
  complain .doubleStarredClause

def dictComprehension : Reader Tree := nested <|
  (do
    sign "\x7b"
    let _ ← entry rules
    Loop.clauses rules
    sign "\x7d"
    return .other .dictComprehension)
    <|> explaining (badDictComprehension rules)

/-! ### Operands -/

def numberAtom : Reader Tree := do
  match ← number with
  | .long digits => complain (.longNumber digits)
  | n => return .number n

/-- Quoted texts side by side are one, but texts and bytes do not mix. -/
def texts : Reader Tree := do
  let qs ← quoted.atLeastOnce
  qs.forM fun q => do
    if q.bytes && q.body.any (128 ≤ ·.toNat) then complain .bytesNotAscii
    else if some q.bytes != qs.head?.map Quoted.bytes then complain .mixedBytes
    else if q.fields then checkFields q.body
  return if qs.any Quoted.fields then .other .template else .text

def atom : Reader Tree := nested <|
  (do return .name (← name))
    <|> (do word "True"; return .truth true)
    <|> (do word "False"; return .truth false)
    <|> (do word "None"; return .none)
    <|> (do ahead quoted; rules .texts)
    <|> numberAtom
    <|> (do ahead (sign "("); nested (tuple rules <|> group rules <|> generator rules))
    <|> (do
      ahead (sign "\x7b")
      nested (dict rules <|> set rules <|> dictComprehension rules <|> setComprehension rules))
    <|> (do sign "..."; return .dots)

def suffix (t : Tree) : Reader Tree :=
  (do
    sign "."
    let _ ← name
    return .other .member)
    <|> (do
      let _ ← generator rules
      return .call t { positional := 1 })
    <|> do
      sign "("
      let a ← (rules .arguments).maybe
      sign ")"
      return match a with
        | some (.call _ a) => .call t a
        | _ => .call t {}

def grow (step : Tree → Reader Tree) : Nat → Tree → Reader Tree
  | 0, t => return t
  | fuel + 1, t =>
    (do grow step fuel (← step t)) <|> return t

def growing (step : Tree → Reader Tree) (t : Tree) : Reader Tree := fun input place memory =>
  grow step (input.tokens.size + 1) t input place memory

def primary : Reader Tree := do
  growing (suffix rules) (← atom rules)

def targetHead : Reader Tree := do
  let t ← atom rules
  ahead Target.goesOn
  growing (fun t => do
    let t ← suffix rules t
    ahead Target.goesOn
    return t) t

def awaited : Reader Tree :=
  (do
    word "await"
    let _ ← rules .primary
    return .other .awaited)
    <|> rules .primary

/-! ### Operations -/

def power : Reader Tree := nested do
  let t ← rules .awaited
  (do
    sign "**"
    let _ ← rules .factor
    return .other .operation)
    <|> return t

def factor : Reader Tree :=
  (do
    sign "+" <|> sign "-"
    return .signed (← rules .factor))
    <|> (do
      sign "~"
      let _ ← rules .factor
      return .other .operation)
    <|> power rules

def firstOf (rs : List (Reader Unit)) : Reader Unit := rs.foldr (fun r other => r <|> other) unfit

def operation (operand : Rule) (operators : List String) : Reader Tree := do
  growing (fun _ => do
    firstOf (operators.map sign)
    let _ ← rules operand
    return .other .operation) (← rules operand)

def sum : Reader Tree := do
  growing (fun left => do
    sign "+" <|> sign "-"
    return .sum left (← rules .term)) (← rules .term)

def comparand : Reader Bool := nested <|
  (do
    firstOf <| signs.map fun s => nested do
      s
      let _ ← rules .bitOr
    return false)
    <|> (do
      nested do
        word "in"
        let _ ← rules .bitOr
      return true)
    <|> do
      firstOf <| words.map fun w => nested do
        w
        let _ ← rules .bitOr
      return false
where
  signs : List (Reader Unit) :=
    [sign "==", nested (sign "!="), sign "<=", sign "<", sign ">=", sign ">",
     do word "not"; word "in"]
  words : List (Reader Unit) := [do word "is"; word "not", word "is"]

def comparison : Reader Tree := nested do
  let left ← rules .bitOr
  let signs ← (comparand rules).many
  return match signs with
    | [] => left
    | membership :: _ => .comparison membership left

def inversion : Reader Tree :=
  (do
    word "not"
    let _ ← rules .inversion
    return .other .operation)
    <|> comparison rules

def joined (operand : Rule) (w : String) : Reader Tree := do
  let t ← rules operand
  let ts ← many (nested do word w; rules operand)
  return if ts.isEmpty then t else .other .operation

def misnamed : Reader Tree :=
  (do
    let t ← rules .expression
    sign ":="
    let _ ← rules .expression
    complain (.namedTarget t.kind))
    <|> (do
      let _ ← name
      sign "="
      let _ ← rules .bitOr
      notAhead (nested (sign "=" <|> sign ":="))
      complain .assignment)
    <|> do
      notAhead (nested ((do let _ ← tuple rules <|> generator rules)
        <|> word "True" <|> word "None" <|> word "False"))
      let t ← rules .bitOr
      sign "="
      let _ ← rules .bitOr
      notAhead (nested (sign "=" <|> sign ":="))
      complain (.assignmentHere t.kind)

/-! ### All rules -/

def body : Rule → Reader Tree
  | .arguments => Call.arguments rules
  | .awaited => awaited rules
  | .bitAnd => operation rules .shift ["&"]
  | .bitOr => operation rules .bitXor ["|"]
  | .bitXor => operation rules .bitAnd ["^"]
  | .conjunction => joined rules .inversion "and"
  | .disjunction => joined rules .conjunction "or"
  | .expression => expression rules
  | .factor => factor rules
  | .inversion => inversion rules
  | .misnamed => misnamed rules
  | .primary => primary rules
  | .shift => operation rules .sum ["<<", ">>"]
  | .starExpression => starExpression rules
  | .starTarget => Target.starred rules
  | .sum => sum rules
  | .target => Target.plain rules
  | .targetHead => targetHead rules
  | .term => operation rules .factor ["*", "/", "//", "%", "@"]
  | .texts => texts

/-- Rules that start with themselves. They stand one level deeper. -/
def startsItself : Rule → Bool
  | .bitAnd | .bitOr | .bitXor | .primary | .shift | .sum | .targetHead | .term => true
  | _ => false

def upTo : Nat → Rule → Reader Tree
  | 0, _ => unfit
  | fuel + 1, rule =>
    let r := body (upTo fuel) rule
    remembering rule (if startsItself rule then nested r else r)

/-- A rule takes a token before it is used again, and there are twenty of them. -/
def rule (r : Rule) : Reader Tree := fun input place memory =>
  upTo (20 * (input.tokens.size + 1)) r input place memory

def whole : Reader Tree := nested do
  let t ← row (rule .expression)
  finish
  return t

end PgJinja.Terminal.Expression.Grammar
