import PgJinja.Statement

/-! Trees of statements. An induction with one case for each kind of statement, tests of every statement
in a tree, and what makes a statement well formed. -/
namespace PgJinja

def Target.isNamed : Target → Bool
  | named _ => true
  | broken _ => false

namespace Branch

def test : Branch → Option String
  | mk test _ _ => test

def body : Branch → List Statement
  | mk _ body _ => body

def line : Branch → Option Line
  | mk _ _ line => line

end Branch

namespace Statement

/-- To prove something of a statement, assume it of the statements directly in it. -/
@[elab_as_elim, induction_eliminator]
theorem induct {motive : Statement → Prop}
    (raise : ∀ message level line, motive (.raise message level line))
    (forQuery : ∀ query body line, (∀ s ∈ body, motive s) → motive (.forQuery query body line))
    (ret : ∀ expr line, motive (.ret expr line))
    (retNext : ∀ line, motive (.retNext line))
    (block : ∀ body line, (∀ s ∈ body, motive s) → motive (.block body line))
    (execute : ∀ query into line, motive (.execute query into line))
    (dynamic : ∀ query line, motive (.dynamic query line))
    (assign : ∀ expr line, motive (.assign expr line))
    (choose : ∀ test body arms otherwise line, (∀ s ∈ body, motive s) →
      (∀ b ∈ arms, ∀ s ∈ b.body, motive s) → (∀ s ∈ otherwise.getD [], motive s) →
      motive (.choose test body arms otherwise line))
    (select : ∀ subject arms hasElse otherwise line, (∀ b ∈ arms, ∀ s ∈ b.body, motive s) →
      (∀ s ∈ otherwise, motive s) → motive (.select subject arms hasElse otherwise line))
    (unknown : ∀ kind line, motive (.unknown kind line))
    (broken : ∀ misfit, motive (.broken misfit)) (s : Statement) : motive s := by
  -- The recursor goes through branches, lists and options too; of these it is shown for all that they hold.
  refine @Statement.rec motive (fun b => ∀ s ∈ b.body, motive s) (fun ss => ∀ s ∈ ss, motive s)
    (fun bs => ∀ b ∈ bs, ∀ s ∈ b.body, motive s) (fun o => ∀ s ∈ o.getD [], motive s)
    raise forQuery ret retNext block execute dynamic assign choose select unknown broken
    ?_ ?_ ?_ ?_ ?_ ?_ ?_ s
  · exact fun _ _ _ inner => inner
  · simp
  · exact fun _ _ head tail => List.forall_mem_cons.mpr ⟨head, tail⟩
  · simp
  · exact fun _ _ head tail => List.forall_mem_cons.mpr ⟨head, tail⟩
  · simp
  · exact fun _ inner => inner

end Statement

mutual
def Statement.all (p : Statement → Bool) : Statement → Bool
  | s@(.forQuery _ body _) => p s && Statement.listAll p body
  | s@(.block body _) => p s && Statement.listAll p body
  | s@(.choose _ body arms otherwise _) =>
    p s && Statement.listAll p body && Branch.listAll p arms && Statement.optionAll p otherwise
  | s@(.select _ arms _ otherwise _) => p s && Branch.listAll p arms && Statement.listAll p otherwise
  | s => p s
def Statement.listAll (p : Statement → Bool) : List Statement → Bool
  | [] => true
  | s :: rest => Statement.all p s && Statement.listAll p rest
def Statement.optionAll (p : Statement → Bool) : Option (List Statement) → Bool
  | none => true
  | some body => Statement.listAll p body
def Branch.listAll (p : Statement → Bool) : List Branch → Bool
  | [] => true
  | .mk _ body _ :: rest => Statement.listAll p body && Branch.listAll p rest
end

namespace Statement

variable {p : Statement → Bool}

theorem listAll_iff (statements : List Statement) :
    listAll p statements = true ↔ ∀ s ∈ statements, s.all p = true := by
  induction statements with
  | nil => simp [listAll]
  | cons s rest ih => simp [listAll, ih]

theorem optionAll_iff (otherwise : Option (List Statement)) :
    optionAll p otherwise = true ↔ ∀ s ∈ otherwise.getD [], s.all p = true := by
  cases otherwise with
  | none => simp [optionAll]
  | some body => simp [optionAll, listAll_iff]

theorem branchAll_iff (arms : List Branch) :
    Branch.listAll p arms = true ↔ ∀ b ∈ arms, ∀ s ∈ b.body, s.all p = true := by
  induction arms with
  | nil => simp [Branch.listAll]
  | cons b rest ih =>
    cases b with
    | mk test body line => simp [Branch.listAll, Branch.body, listAll_iff, ih]

/-- Whether every text is there that the compiler needs. The test of an `elif` and the kind of an
unknown statement are not among them. -/
def wellFormed : Statement → Bool
  | raise message _ _ => message.isSome
  | forQuery query _ _ => query.isSome
  | execute query into _ => query.isSome && (into.getD []).all Target.isNamed
  | dynamic query _ => query.isSome
  | assign expr _ => expr.isSome
  | choose test _ _ _ _ => test.isSome
  | select subject arms _ _ _ => subject.isSome && arms.all (·.test.isSome)
  | broken _ => false
  | _ => true

end Statement

end PgJinja
