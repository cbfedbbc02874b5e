import Mathlib.Data.List.Forall2
import PgJinja.Proofs.Executions

/-! Two compilations side by side. The statements are the same up to their lines in the source; the
indentation, the start of the numbers and the name of the source are different. Each of these shows in one
part of the output only. -/
namespace PgJinja

def Diagnostic.unlocated (d : Diagnostic) : Diagnostic := { d with file := "", line := .number 1 }

def Failure.unlocated : Failure → Failure
  | .refused r => .refused { r with file := none, line := none }
  | .misfit m => .misfit m
  | .exceeded limit => .exceeded limit

mutual
def Statement.unlocated : Statement → Statement
  | .raise message level _ => .raise message level none
  | .forQuery query body _ => .forQuery query (Statement.unlocatedAll body) none
  | .ret expr _ => .ret expr none
  | .retNext _ => .retNext none
  | .block body _ => .block (Statement.unlocatedAll body) none
  | .execute query into _ => .execute query into none
  | .dynamic query _ => .dynamic query none
  | .assign expr _ => .assign expr none
  | .choose test body arms otherwise _ =>
    .choose test (Statement.unlocatedAll body) (Branch.unlocatedAll arms)
      (Statement.unlocatedElse otherwise) none
  | .select subject arms hasElse otherwise _ =>
    .select subject (Branch.unlocatedAll arms) hasElse (Statement.unlocatedAll otherwise) none
  | .unknown kind _ => .unknown kind none
  | .broken m => .broken m
def Statement.unlocatedAll : List Statement → List Statement
  | [] => []
  | s :: rest => Statement.unlocated s :: Statement.unlocatedAll rest
def Statement.unlocatedElse : Option (List Statement) → Option (List Statement)
  | none => none
  | some body => some (Statement.unlocatedAll body)
def Branch.unlocatedAll : List Branch → List Branch
  | [] => []
  | .mk test body _ :: rest => .mk test (Statement.unlocatedAll body) none :: Branch.unlocatedAll rest
end

namespace Jinja

def Fault.unlocated : Fault → Fault
  | .missing kind field _ => .missing kind field none
  | .misfit m => .misfit m

def Step.unlocated : Step → Step
  | .warn code message help _ => .warn code message help none
  | .stop fault => .stop fault.unlocated
  | s => s

@[simp] theorem Step.unlocated_emit (depth : Nat) (code : String) :
    (Step.emit depth code).unlocated = .emit depth code := rfl

@[simp] theorem Step.unlocated_comment (depth : Nat) (text : String) :
    (Step.comment depth text).unlocated = .comment depth text := rfl

@[simp] theorem Step.unlocated_call (depth : Nat) (series : Series) (sql : String) :
    (Step.call depth series sql).unlocated = .call depth series sql := rfl

end Jinja

open Jinja

namespace Statement

theorem unlocated_bindings (depth column : Nat) (targets : List Target) :
    (bindings depth column targets).map Step.unlocated = bindings depth column targets := by
  induction targets generalizing column with
  | nil => rfl
  | cons target rest ih =>
    cases target with
    | named name => simp [bindings, ih]
    | broken m => rfl

theorem unlocated_armSteps (depth : Nat) (keyword subject : String) (line : Option Line)
    (test : Option String) :
    (armSteps depth keyword subject line test).map Step.unlocated =
      armSteps depth keyword subject none test := by
  cases test with
  | none => rfl
  | some expr =>
    cases found : inListValues? expr with
    | none => simp [armSteps, found, Step.unlocated]
    | some values => simp [armSteps, found]

theorem unlocated_listSteps (depth : Nat) (statements : List Statement)
    (each : ∀ s ∈ statements, ∀ depth, (s.steps depth).map Step.unlocated = s.unlocated.steps depth) :
    (listSteps depth statements).map Step.unlocated = listSteps depth (unlocatedAll statements) := by
  induction statements with
  | nil => rfl
  | cons s rest ih =>
    obtain ⟨first, others⟩ := List.forall_mem_cons.mp each
    rw [listSteps, List.map_append, first, ih others, unlocatedAll, listSteps]

theorem unlocated_elseSteps (depth : Nat) (otherwise : Option (List Statement))
    (each : ∀ s ∈ otherwise.getD [], ∀ depth,
      (s.steps depth).map Step.unlocated = s.unlocated.steps depth) :
    (elseSteps depth otherwise).map Step.unlocated = elseSteps depth (unlocatedElse otherwise) := by
  match otherwise with
  | none => rfl
  | some [] => rfl
  | some (s :: rest) =>
    obtain ⟨first, others⟩ := List.forall_mem_cons.mp each
    simp [elseSteps, unlocatedElse, unlocatedAll, first, unlocated_listSteps _ rest others]

theorem unlocated_elifSteps (depth : Nat) (arms : List Branch)
    (each : ∀ b ∈ arms, ∀ s ∈ b.body, ∀ depth,
      (s.steps depth).map Step.unlocated = s.unlocated.steps depth) :
    (Branch.elifSteps depth arms).map Step.unlocated =
      Branch.elifSteps depth (Branch.unlocatedAll arms) := by
  induction arms with
  | nil => rfl
  | cons b rest ih =>
    obtain ⟨first, others⟩ := List.forall_mem_cons.mp each
    cases b with
    | mk test body line =>
      have inner := unlocated_listSteps (depth + deeper) body first
      simp [Branch.elifSteps, Branch.unlocatedAll, inner, ih others]

theorem unlocated_whenSteps (depth : Nat) (keyword subject : String) (arms : List Branch)
    (each : ∀ b ∈ arms, ∀ s ∈ b.body, ∀ depth,
      (s.steps depth).map Step.unlocated = s.unlocated.steps depth) :
    (Branch.whenSteps depth keyword subject arms).map Step.unlocated =
      Branch.whenSteps depth keyword subject (Branch.unlocatedAll arms) := by
  induction arms generalizing keyword with
  | nil => rfl
  | cons b rest ih =>
    obtain ⟨first, others⟩ := List.forall_mem_cons.mp each
    cases b with
    | mk test body line =>
      have inner := unlocated_listSteps (depth + deeper) body first
      simp [Branch.whenSteps, Branch.unlocatedAll, inner, unlocated_armSteps, ih "elif" others]

theorem unlocated_steps (s : Statement) (depth : Nat) :
    (s.steps depth).map Step.unlocated = s.unlocated.steps depth := by
  induction s generalizing depth with
  | raise message level line =>
    cases message with
    | none => rfl
    | some m => rfl
  | forQuery query body line inner =>
    cases query with
    | none => rfl
    | some q =>
      have nested := unlocated_listSteps (depth + deeper + deeper) body inner
      simp [steps, unlocated, required, nested]
  | ret expr line => rfl
  | retNext line => rfl
  | block body line inner =>
    rw [steps, unlocated, steps]
    exact unlocated_listSteps depth body inner
  | execute query into line =>
    cases query with
    | none => rfl
    | some q =>
      cases into with
      | none => rfl
      | some targets => simp [steps, unlocated, required, executeSteps, unlocated_bindings]
  | dynamic query line =>
    cases query with
    | none => rfl
    | some q =>
      simp only [steps, unlocated, required, dynamicSteps]
      split
      · rfl
      · split <;> rfl
  | assign expr line =>
    cases expr with
    | none => rfl
    | some e =>
      simp only [steps, unlocated, required, assignSteps]
      split <;> rfl
  | choose test body arms otherwise line inBody inArms inElse =>
    cases test with
    | none => rfl
    | some t =>
      have first := unlocated_listSteps (depth + deeper) body inBody
      have further := unlocated_elifSteps depth arms inArms
      have last := unlocated_elseSteps depth otherwise inElse
      simp [steps, unlocated, required, first, further, last]
  | select subject arms hasElse otherwise line inArms inElse =>
    have last (depth : Nat) := unlocated_listSteps depth otherwise inElse
    cases subject with
    | none => rfl
    | some t =>
      cases arms with
      | nil =>
        cases hasElse with
        | false => rfl
        | true => simpa [steps, unlocated, required, Branch.unlocatedAll] using last depth
      | cons b rest =>
        have tests := unlocated_whenSteps depth "if" (Text.strip t) (b :: rest) inArms
        cases b with
        | mk test body line =>
          rw [Branch.unlocatedAll] at tests
          cases hasElse with
          | false => simp [steps, unlocated, required, Branch.unlocatedAll, tests]
          | true => simp [steps, unlocated, required, Branch.unlocatedAll, tests, last]
  | unknown kind line => rfl
  | broken misfit => rfl

end Statement

namespace Jinja

theorem written_unlocated (indent n : Int) (steps : List Step) :
    written indent n (steps.map Step.unlocated) = written indent n steps := by
  induction steps generalizing n with
  | nil => rfl
  | cons s rest ih => cases s <;> simp [written, Step.unlocated, Step.lines, Step.taken, ih]

theorem taken_unlocated (steps : List Step) : taken (steps.map Step.unlocated) = taken steps := by
  induction steps with
  | nil => rfl
  | cons s rest ih => cases s <;> simp [taken, Step.unlocated, Step.taken, ih]

theorem warnings_unlocated (file other : String) (steps : List Step) :
    (steps.flatMap (Step.warnings file)).map Diagnostic.unlocated =
      ((steps.map Step.unlocated).flatMap (Step.warnings other)).map Diagnostic.unlocated := by
  induction steps with
  | nil => rfl
  | cons s rest ih =>
    have here : (s.warnings file).map Diagnostic.unlocated =
        (s.unlocated.warnings other).map Diagnostic.unlocated := by
      cases s <;> rfl
    simp only [List.flatMap_cons, List.map_cons, List.map_append, here, ih]

theorem fault?_unlocated (steps : List Step) :
    fault? (steps.map Step.unlocated) = (fault? steps).map Fault.unlocated := by
  induction steps with
  | nil => rfl
  | cons s rest ih =>
    cases s with
    | stop fault => rfl
    | _ => exact ih

theorem takeWhile_unlocated (steps : List Step) :
    (steps.takeWhile Step.proceeds).map Step.unlocated =
      (steps.map Step.unlocated).takeWhile Step.proceeds := by
  have same : Step.proceeds ∘ Step.unlocated = Step.proceeds := by
    funext s
    cases s <;> rfl
  rw [List.takeWhile_map, same]

theorem failure_unlocated (file other : String) (fault : Fault) :
    (fault.failure file).unlocated = (fault.unlocated.failure other).unlocated := by
  cases fault <;> rfl

def callLine (series : Series) (n : Int) : String :=
  tag ("call statement('" ++ Ids.name series.text n ++ "')")

/-- The same text in two runs, where the numbers of the first are ahead. -/
inductive SameText (ahead : Int) : String → String → Prop where
  | same (text : String) : SameText ahead text text
  | call (spaces : Nat) (series : Series) (n : Int) :
      SameText ahead (indented spaces (callLine series (n + ahead))) (indented spaces (callLine series n))

def SameLine (i j : Nat) (ahead : Int) (first second : String) : Prop :=
  ∃ text other, first = indented i text ∧ second = indented j other ∧ SameText ahead text other

def SameCall (ahead : Int) (first second : String × String) : Prop :=
  first.2 = second.2 ∧
    ∃ (series : Series) (n : Int),
      first.1 = Ids.name series.text (n + ahead) ∧ second.1 = Ids.name series.text n

theorem indented_deeper {indent : Int} (nonneg : 0 ≤ indent) (depth : Nat) (code : String) :
    indented (indent + depth).toNat code = indented indent.toNat (indented depth code) := by
  have sum : (indent + depth).toNat = indent.toNat + depth := by omega
  rw [sum, indented, indented, indented, Text.copies, Text.copies, Text.copies, List.replicate_add,
    String.ofList_append, String.append_assoc]

section Shifted

variable {i j : Int} (left : 0 ≤ i) (right : 0 ≤ j)
include left right

theorem sameLine_emit (ahead : Int) (depth : Nat) (code : String) :
    SameLine i.toNat j.toNat ahead (indented (i + depth).toNat code) (indented (j + depth).toNat code) :=
  ⟨_, _, indented_deeper left depth code, indented_deeper right depth code, .same _⟩

theorem sameLine_call (ahead : Int) (depth : Nat) (series : Series) (n : Int) :
    SameLine i.toNat j.toNat ahead (indented (i + depth).toNat (callLine series (n + ahead)))
      (indented (j + depth).toNat (callLine series n)) :=
  ⟨_, _, indented_deeper left depth _, indented_deeper right depth _, .call depth series n⟩

theorem step_shifted (ahead n : Int) (s : Step) :
    List.Forall₂ (SameLine i.toNat j.toNat ahead) (s.lines i (n + ahead)) (s.lines j n) := by
  cases s with
  | emit depth code => exact .cons (sameLine_emit left right ahead depth code) .nil
  | comment depth text => exact .cons (sameLine_emit left right ahead depth (commentLine text)) .nil
  | call depth series sql =>
    have next : n + ahead + 1 = n + 1 + ahead := by omega
    rw [Step.lines, Step.lines, next]
    exact .cons (sameLine_call left right ahead depth series (n + 1))
      (.cons (sameLine_emit left right ahead depth _) (.cons (sameLine_emit left right ahead depth _) .nil))
  | warn code message help line => exact .nil
  | stop fault => exact .nil

theorem written_shifted (ahead n : Int) (steps : List Step) :
    List.Forall₂ (SameLine i.toNat j.toNat ahead) (written i (n + ahead) steps) (written j n steps) := by
  induction steps generalizing n with
  | nil => exact .nil
  | cons s rest ih =>
    have next : n + ahead + s.taken = n + s.taken + ahead := by omega
    rw [written, written, next]
    exact List.rel_append (step_shifted left right ahead n s) (ih (n + s.taken))

end Shifted

theorem numbered_shifted (ahead n : Int) (executions : List Execution) :
    List.Forall₂ (SameCall ahead) (numbered (n + ahead) executions) (numbered n executions) := by
  induction executions generalizing n with
  | nil => exact .nil
  | cons e rest ih =>
    have next : n + ahead + 1 = n + 1 + ahead := by omega
    rw [numbered_cons, numbered_cons, next]
    exact .cons ⟨rfl, e.series, n + 1, rfl, rfl⟩ (ih (n + 1))

theorem drawn_unlocated (steps : List Step) : drawn (steps.map Step.unlocated) = drawn steps := by
  induction steps with
  | nil => rfl
  | cons s rest ih => cases s <;> simp [Step.unlocated, ih]

/-- Two runs that end in the same way. Each of their lines, call blocks and diagnostics has its counterpart in
the other run, and the numbers of the first run stay ahead by the same amount. -/
structure Parallel (i j ahead : Int) (first second : Output × Option Failure) : Prop where
  ending : first.2.map Failure.unlocated = second.2.map Failure.unlocated
  lines : List.Forall₂ (SameLine i.toNat j.toNat ahead) first.1.listing.lines second.1.listing.lines
  calls : List.Forall₂ (SameCall ahead) (calls first.1.listing.lines) (calls second.1.listing.lines)
  numbers : first.1.ids.value = second.1.ids.value + ahead
  diagnostics :
    first.1.diagnostics.map Diagnostic.unlocated = second.1.diagnostics.map Diagnostic.unlocated

theorem run_unlocated {room : Nat} {indent : Int} {file : String} {steps : List Step} {ids : Ids}
    (quiet : ∀ s ∈ steps, s.Quiet)
    (reached : Output.run room file indent steps { ids := ids } =
      (Output.after file indent { ids := ids } (steps.takeWhile Step.proceeds),
        (fault? steps).map (Fault.failure file))) :
    let bare := steps.map Step.unlocated
    let done := bare.takeWhile Step.proceeds
    let result := Output.run room file indent steps { ids := ids }
    result.2.map Failure.unlocated = (fault? bare).map (fun fault => (fault.failure "").unlocated) ∧
      result.1.listing.lines = written indent ids.value done ∧
      calls result.1.listing.lines = numbered ids.value (drawn done) ∧
      result.1.ids.value = ids.value + taken done ∧
      result.1.diagnostics.map Diagnostic.unlocated =
        (done.flatMap (Step.warnings "")).map Diagnostic.unlocated := by
  intro bare done result
  have closed : result = _ := reached
  have same : done = (steps.takeWhile Step.proceeds).map Step.unlocated :=
    (takeWhile_unlocated steps).symm
  have lines : result.1.listing.lines = written indent ids.value (steps.takeWhile Step.proceeds) := by
    simp [closed, Output.after, Listing.extend]
  refine ⟨?_, ?_, ?_, ?_, ?_⟩
  · have faults : fault? bare = (fault? steps).map Fault.unlocated := fault?_unlocated steps
    rw [closed, faults, Option.map_map, Option.map_map]
    exact congrArg (Option.map · (fault? steps)) (funext fun fault => failure_unlocated file "" fault)
  · rw [lines, same, written_unlocated]
  · have kept : ∀ s ∈ steps.takeWhile Step.proceeds, s.Quiet :=
      fun s member => quiet s (List.takeWhile_subset _ member)
    have read := calls_written indent ids.value _ kept []
    rw [lines, same, drawn_unlocated]
    simpa [calls] using read
  · rw [closed, same, taken_unlocated]
    rfl
  · rw [closed, same, ← warnings_unlocated file ""]
    simp [Output.after]

/-- Statements that differ in nothing but their lines in the source, compiled at two indentations, from two
starts of the numbers and for two sources. Unless one of the compilations goes beyond a limit, both end in the same way,
and what they write differs in indentation and numbers only. -/
theorem compileAll_parallel (room : Nat) (first second : List Statement)
    (same : Statement.unlocatedAll first = Statement.unlocatedAll second) (i j : Int)
    (left : 0 ≤ i) (right : 0 ≤ j) (a b : Ids) (f g : String) :
    Parallel i j (a.value - b.value) (compileAll room first i a f) (compileAll room second j b g) ∨
      CompileExceeds room first i a f ∨ CompileExceeds room second j b g := by
  -- Without the lines of the source, both runs have the same steps; each run is described by these.
  have steps : (Statement.listSteps 0 first).map Step.unlocated =
      (Statement.listSteps 0 second).map Step.unlocated := by
    rw [Statement.unlocated_listSteps 0 first fun s _ => s.unlocated_steps,
      Statement.unlocated_listSteps 0 second fun s _ => s.unlocated_steps, same]
  rcases Output.run_reaches room left f (Statement.listSteps 0 first) { ids := a } with reached | exceeded
  · rcases Output.run_reaches room right g (Statement.listSteps 0 second) { ids := b } with reached' | exceeded
    · left
      generalize gap : a.value - b.value = ahead
      have start : a.value = b.value + ahead := by omega
      obtain ⟨ending, lines, calls, numbers, diagnostics⟩ := run_unlocated (listSteps_quiet 0 first) reached
      obtain ⟨ending', lines', calls', numbers', diagnostics'⟩ := run_unlocated (listSteps_quiet 0 second) reached'
      rw [steps] at ending lines calls numbers diagnostics
      constructor
      · exact ending.trans ending'.symm
      · rw [compileAll, compileAll, lines, lines', start]
        exact written_shifted left right ahead b.value _
      · rw [compileAll, compileAll, calls, calls', start]
        exact numbered_shifted ahead b.value _
      · rw [compileAll, compileAll, numbers, numbers']
        omega
      · exact diagnostics.trans diagnostics'.symm
    · exact .inr (.inr exceeded)
  · exact .inr (.inl exceeded)

theorem compileAll_parallel_refused :
    let statements (line : Int) : List Statement :=
      [.choose (some "a") [.dynamic (some "v") none, .assign (some "x") (some (.number line))] [] none none,
        .block [.execute (some " delete from t ") none (some (.number line))] none,
        .raise none 0 (some (.number line))]
    Statement.unlocatedAll (statements 3) = Statement.unlocatedAll (statements 8) ∧
      Parallel 0 4 (-6) (compileAll 80 (statements 3) 0 ⟨1⟩ "f.sql") (compileAll 80 (statements 8) 4 ⟨7⟩ "g.sql") := by
  intro statements
  have same : Statement.unlocatedAll (statements 3) = Statement.unlocatedAll (statements 8) := rfl
  rcases compileAll_parallel 80 _ _ same 0 4 (by decide) (by decide) ⟨1⟩ ⟨7⟩ "f.sql" "g.sql" with
    parallel | ⟨limit, ended, -⟩ | ⟨limit, ended, -⟩
  · exact ⟨same, parallel⟩
  · cases ended
  · cases ended

/-- An indentation that no line can have ends a compilation before it comes to what is missing. -/
theorem compileAll_wide_not_parallel :
    ¬ ∃ room : Nat, ∀ first second : List Statement, Statement.unlocatedAll first = Statement.unlocatedAll second →
      ∀ i j : Int, 0 ≤ i → 0 ≤ j → ∀ (a b : Ids) (f g : String),
        Parallel i j (a.value - b.value) (compileAll room first i a f) (compileAll room second j b g) := by
  rintro ⟨room, law⟩
  let statements : List Statement := [.retNext none, .raise none 0 none]
  have parallel := law statements statements rfl 0 9223372036854775808 (by decide) (by decide) ⟨0⟩ ⟨0⟩
    unnamedSource unnamedSource
  have missing : (compileAll room statements 0 ⟨0⟩ unnamedSource).2 =
      some (.refused ⟨.missing .node Kind.raise.tag "message", some unnamedSource, none⟩) := by
    have fits : placed room 0 = .ok 0 := by simp [placed]
    simp [compileAll, statements, Statement.listSteps, Statement.steps, required, Output.run, Output.step, Listing.emit,
      Listing.emitAll, fits, Except.map, Output.receive, Fault.failure, Statement.tag, Statement.line]
  have wide : (compileAll room statements 9223372036854775808 ⟨0⟩ unnamedSource).2 =
      some (.exceeded (.columns 9223372036854775808)) :=
    congrArg Prod.snd (Output.run_wide (by decide) 0 _ _ _)
  have ending := parallel.ending
  rw [missing, wide] at ending
  cases ending

end Jinja
end PgJinja
