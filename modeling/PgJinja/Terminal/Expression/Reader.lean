import PgJinja.Terminal.Expression.Tree

/-! Readers of tokens. A reader gives a value and goes on, or it does not fit and another one is tried at the
same place, or it complains and reading ends. What the main rules gave is kept for every place, whether
complaints were looked for at that time or not. Readers of rules, of groups in rules and of repetitions
stand in each other only so deep. -/
namespace PgJinja.Terminal.Expression

inductive Rule where
  | arguments
  | awaited
  | bitAnd
  | bitOr
  | bitXor
  | conjunction
  | disjunction
  | expression
  | factor
  | inversion
  | misnamed
  | primary
  | shift
  | starExpression
  | starTarget
  | sum
  | target
  | targetHead
  | term
  | texts
  deriving DecidableEq, Repr

abbrev Found := Option (Tree × Nat)

abbrev Memory := Array (List (Rule × Found))

structure Input where
  tokens : Array Token
  /-- How deep a reader stands in others. -/
  level : Nat := 0
  /-- What to say about a text where its tokens end. -/
  fault : Complaint
  /-- Whether to look for the cause if the text does not fit. -/
  explains : Bool
  /-- Says where the text stands when complaining about it. -/
  inPlace : Complaint → Complaint
  /-- What is wrong with a quoted text that has fields. -/
  fieldFault? : List Char → Option Complaint

inductive Outcome (α : Type) where
  | read (value : α) (place : Nat) (memory : Memory)
  | unfit (memory : Memory)
  | complaint (c : Complaint)

def Reader (α : Type) : Type := Input → Nat → Memory → Outcome α

namespace Reader

variable {α : Type}

instance : Monad Reader where
  pure a := fun _ place memory => .read a place memory
  bind r next := fun input place memory =>
    match r input place memory with
    | .read a place memory => next a input place memory
    | .unfit memory => .unfit memory
    | .complaint c => .complaint c

def unfit : Reader α := fun _ _ memory => .unfit memory

def complain (c : Complaint) : Reader α := fun input _ _ => .complaint (input.inPlace c)

def maxLevel : Nat := 6000

def nested (r : Reader α) : Reader α := fun input place memory =>
  if maxLevel ≤ input.level then .complaint .overflow
  else r { input with level := input.level + 1 } place memory

def orElse (r : Reader α) (other : Unit → Reader α) : Reader α := fun input place memory =>
  match r input place memory with
  | .unfit memory => other () input place memory
  | outcome => outcome

instance : OrElse (Reader α) := ⟨orElse⟩

def maybe (r : Reader α) : Reader (Option α) :=
  (do return some (← r)) <|> pure none

def fits (r : Reader α) : Reader Bool := fun input place memory =>
  match r input place memory with
  | .read _ _ memory => .read true place memory
  | .unfit memory => .read false place memory
  | .complaint c => .complaint c

def ahead (r : Reader α) : Reader Unit := do
  if ← r.fits then return () else unfit

def notAhead (r : Reader α) : Reader Unit := do
  if ← r.fits then unfit else return ()

def manyUpTo : Nat → Reader α → Reader (List α)
  | 0, _ => pure []
  | fuel + 1, r =>
    (do
      let a ← r
      return a :: (← manyUpTo fuel r))
      <|> pure []

/-- Reads as often as possible. The reader has to take a token at least. -/
def many (r : Reader α) : Reader (List α) := nested fun input place memory =>
  manyUpTo (input.tokens.size + 1) r input place memory

def atLeastOnce (r : Reader α) : Reader (List α) := do
  match ← r.many with
  | [] => unfit
  | as => return as

/-! ### Tokens -/

def token (meaning : Lexeme → Option α) : Reader α := fun input place memory =>
  match input.tokens[place]? with
  | some t =>
    match meaning t.lexeme with
    | some a => .read a (place + 1) memory
    | none => .unfit memory
  | none => complain input.fault input place memory

def sign (s : String) : Reader Unit := token fun l => if l = .sign s then some () else none

def word (w : String) : Reader Unit := token fun l => if l = .word w then some () else none

def name : Reader String := token fun
  | .name text => some text
  | _ => none

def number : Reader Number := token fun
  | .number n => some n
  | _ => none

def quoted : Reader Quoted := token fun
  | .quoted q => some q
  | _ => none

def finish : Reader Unit := token fun l => if l = .finish then some () else none

def separated (r : Reader α) : Reader (List α) := nested do
  let a ← r
  return a :: (← many do sign ","; r)

def bracketDepth : Reader Nat := fun input place memory =>
  .read ((input.tokens[place - 1]?.map Token.depth).getD 0) place memory

/-! ### Complaints -/

def explaining (r : Reader α) : Reader α := fun input place memory =>
  if input.explains then r input place memory else .unfit memory

def quietly (r : Reader α) : Reader α := fun input place memory =>
  r { input with explains := false } place memory

/-- Checks a quoted text with fields. A complaint about the expression of a field has said where that
stands. -/
def checkFields (body : List Char) : Reader Unit := fun input place memory =>
  match input.fieldFault? body with
  | some (.field fault) => complain (.field fault) input place memory
  | some c => .complaint c
  | none => .read () place memory

/-! ### Memory -/

def known? (rule : Rule) (place : Nat) (memory : Memory) : Option Found :=
  (memory[place]?.getD []).lookup rule

def remember (rule : Rule) (place : Nat) (found : Found) (memory : Memory) : Memory :=
  memory.modify place ((rule, found) :: ·)

def remembering (rule : Rule) (r : Reader Tree) : Reader Tree := nested fun input place memory =>
  if input.tokens.size ≤ place then complain input.fault input place memory
  else
    match known? rule place memory with
    | some (some (t, after)) => .read t after memory
    | some none => .unfit memory
    | none =>
      match r input place memory with
      | .read t after memory => .read t after (remember rule place (some (t, after)) memory)
      | .unfit memory => .unfit (remember rule place none memory)
      | .complaint c => .complaint c

end Reader
end PgJinja.Terminal.Expression
