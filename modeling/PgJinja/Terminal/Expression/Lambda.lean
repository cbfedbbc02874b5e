import PgJinja.Terminal.Expression.Reader

/-! Anonymous functions: their parameters with defaults, a slash after those that are given by place only, and
stars before those that take what is left. -/
namespace PgJinja.Terminal.Expression.Lambda

open Reader

variable (rules : Rule → Reader Tree)

def wrong (fault : ParameterFault) : Reader Unit := complain (.parameter fault)

def parameter : Reader Unit := nested do
  let _ ← name

def badDefault : Reader Unit := nested do
  sign "="
  ahead (nested (sign ")" <|> sign ","))
  wrong .noDefault

def default : Reader Unit := nested <|
  (do
    sign "="
    let _ ← rules .expression)
    <|> explaining badDefault

def stop : Reader Unit := sign "," <|> ahead (sign ":")

def plain : Reader Unit := nested do
  parameter
  stop

def withDefault : Reader Unit := nested do
  parameter
  default rules
  stop

def maybeDefault : Reader Unit := nested do
  parameter
  let _ ← (default rules).maybe
  stop

def slash : Reader Unit := do
  sign "/"
  stop

def plainSlash : Reader Unit := nested do
  let _ ← plain.atLeastOnce
  slash

def defaultSlash : Reader Unit := nested do
  let _ ← plain.many
  let _ ← (withDefault rules).atLeastOnce
  slash

def anySlash : Reader Unit := nested (plainSlash <|> defaultSlash rules)

def plainOrComma : Reader Unit := nested (plain <|> sign ",")

def badDoubleStar : Reader Unit := nested do
  sign "**"
  parameter
  (do
    sign "="
    wrong .doubleStarDefault)
    <|> do
      sign ","
      parameter <|> nested (sign "*" <|> sign "**" <|> sign "/")
      wrong .afterDoubleStar

def doubleStar : Reader Unit := nested <|
  explaining badDoubleStar <|> do
    sign "**"
    plain

def badStar : Reader Unit := nested do
  sign "*"
  (do
    nested <| sign ":" <|> do
      sign ","
      nested (sign ":" <|> sign "**")
    wrong .bareStar)
    <|> (do
      parameter
      sign "="
      wrong .starDefault)
    <|> do
      plainOrComma
      let _ ← (maybeDefault rules).many
      sign "*"
      plainOrComma
      wrong .starTwice

def star : Reader Unit := nested <|
  explaining (badStar rules)
    <|> (do
      sign "*"
      plain
      let _ ← (maybeDefault rules).many
      let _ ← doubleStar.maybe)
    <|> (do
      sign "*"
      sign ","
      let _ ← (maybeDefault rules).atLeastOnce
      let _ ← doubleStar.maybe)
    <|> doubleStar

def defaults : Reader Unit := nested <|
  defaultSlash rules <|> do let _ ← (withDefault rules).atLeastOnce

def badParameters : Reader Unit := nested <|
  (do
    let _ ← plain.many
    defaults rules
    plain
    wrong .order)
    <|> (do
      let _ ← plain.many
      sign "("
      let _ ← separated parameter
      let _ ← (sign ",").maybe
      sign ")"
      wrong .inParentheses)
    <|> (do
      sign "/"
      sign ","
      wrong .slashFirst)
    <|> (do
      anySlash rules
      let _ ← (maybeDefault rules).many
      sign "/"
      wrong .slashTwice)
    <|> (do
      let _ ← (anySlash rules).maybe
      let _ ← (maybeDefault rules).many
      sign "*"
      plainOrComma
      let _ ← (maybeDefault rules).many
      sign "/"
      wrong .afterStar)
    <|> do
      let _ ← (maybeDefault rules).atLeastOnce
      sign "/"
      sign "*"
      wrong .noComma

def goodParameters : Reader Unit := nested <|
  (do
    plainSlash
    let _ ← plain.many
    let _ ← (withDefault rules).many
    let _ ← (star rules).maybe)
    <|> (do
      defaultSlash rules
      let _ ← (withDefault rules).many
      let _ ← (star rules).maybe)
    <|> (do
      let _ ← plain.atLeastOnce
      let _ ← (withDefault rules).many
      let _ ← (star rules).maybe)
    <|> (do
      let _ ← (withDefault rules).atLeastOnce
      let _ ← (star rules).maybe)
    <|> star rules

def parameters : Reader Unit := nested <|
  explaining (badParameters rules) <|> goodParameters rules

def function : Reader Tree := nested do
  word "lambda"
  let _ ← (parameters rules).maybe
  sign ":"
  let _ ← rules .expression
  return .other .lambda

end PgJinja.Terminal.Expression.Lambda
