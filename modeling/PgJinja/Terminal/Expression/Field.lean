import PgJinja.Terminal.Expression.Token

/-! Fields of quoted texts: expressions in braces. A colon after an expression starts a description of how to
show it, which may have fields of its own. Doubled braces stand for themselves. -/
namespace PgJinja.Terminal.Expression.Field

/-- Splits a text where the expression at its start ends. `opened` brackets are open, innermost first,
`quote` is what closes a quoted text, and `skip` characters are already known. -/
def split (opened quote : List Char) (skip : Nat) :
    List Char → Except FieldFault (List Char × List Char)
  | [] =>
    if !quote.isEmpty then .error .openQuote
    else
      match opened with
      | [] => .error .openBrace
      | c :: _ => .error (.closing c)
  | c :: cs =>
    let go (opened quote : List Char) (skip : Nat) :=
      (split opened quote skip cs).map fun r => (c :: r.1, r.2)
    match skip with
    | skip + 1 => go opened quote skip
    | 0 =>
      if c = '\\' then .error .backslash
      else if !quote.isEmpty then
        if quote.isPrefixOf (c :: cs) then go opened [] (quote.length - 1) else go opened quote 0
      else if Token.isQuote c then
        if [c, c].isPrefixOf cs then go opened [c, c, c] 2 else go opened [c] 0
      else if c = '(' || c = '[' || c = '\x7b' then
        if Token.maxDepth ≤ opened.length then .error .tooManyBrackets else go (c :: opened) [] 0
      else if c = '#' then .error .comment
      else if opened.isEmpty && "!:\x7d=<>".toList.contains c then
        if "!=<>".toList.contains c && cs.head? == some '=' then go [] [] 1
        else if c = '<' || c = '>' then go [] [] 0
        else .ok ([], c :: cs)
      else if c = ')' || c = ']' || c = '\x7d' then
        match opened with
        | [] => .error (.closing c)
        | o :: opened => if Token.closes o c then go opened [] 0 else .error (.mismatch c o)
      else go opened [] 0

def afterPlain (nested : Bool) : List Char → Except FieldFault (List Char)
  | [] => .ok []
  | [c] =>
    if c = '\x7d' && !nested then .error .singleBrace
    else .ok (if c = '\x7b' || c = '\x7d' then [c] else [])
  | c :: d :: cs =>
    if c = '\x7b' || c = '\x7d' then
      if nested then .ok (c :: d :: cs)
      else if c = d then afterPlain nested cs
      else if c = '\x7d' then .error .singleBrace
      else .ok (c :: d :: cs)
    else afterPlain nested (d :: cs)

def checkExpression (inner? : List Char → Option Complaint) (e rest : List Char) :
    Except Complaint Unit :=
  if e.all fun c => c = ' ' || c = '\t' || c = '\n' || c = '\x0c' then
    match rest with
    | '!' :: _ => .error (.field (.emptyBefore '!'))
    | ':' :: _ => .error (.field (.emptyBefore ':'))
    | '=' :: _ => .error (.field (.emptyBefore '='))
    | _ => .error (.field .empty)
  else
    match inner? e with
    | some c => .error c
    | none => .ok ()

def afterConversion : List Char → Except FieldFault (List Char)
  | '!' :: c :: rest => if c = 's' || c = 'r' || c = 'a' then .ok rest else .error .badConversion
  | ['!'] => .error .openBrace
  | cs => .ok cs

def afterEquals : List Char → List Char
  | '=' :: rest => rest.dropWhile Char.isWhitespace
  | cs => cs

def lift {α : Type} : Except FieldFault α → Except Complaint α
  | .ok a => .ok a
  | .error fault => .error (.field fault)

/-- Checks the fields of a text up to its end or the brace that closes it. `level` says how many fields the
text stands in. Each field takes a character at least. -/
def check (inner? : List Char → Option Complaint) :
    Nat → Nat → List Char → Except Complaint (List Char)
  | 0, _, cs => .ok cs
  | fuel + 1, level, cs => do
    match ← lift (afterPlain (level != 0) cs) with
    | '\x7b' :: cs =>
      if 2 ≤ level then .error (.field .tooDeep)
      else
        let (e, rest) ← lift (split [] [] 0 cs)
        checkExpression inner? e rest
        let rest ← lift (afterConversion (afterEquals rest))
        let rest ← match rest with
          | ':' :: description =>
            if description.isEmpty then .ok [] else check inner? fuel (level + 1) description
          | rest => .ok rest
        match rest with
        | '\x7d' :: rest => check inner? fuel level rest
        | _ => .error (.field .openBrace)
    | rest => .ok rest

def fault? (inner? : List Char → Option Complaint) (body : List Char) : Option Complaint :=
  match check inner? (body.length + 1) 0 body with
  | .ok _ => none
  | .error c => some c

end PgJinja.Terminal.Expression.Field
