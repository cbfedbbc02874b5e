import PgJinja.Proofs.Executions

/-! The places of a tree that the compiler comes to, and what happens at each of them: something is lost, a name is
drawn, or the work ends. The steps of a statement follow its places. -/
namespace PgJinja

open Jinja

inductive Position where
  | statement (s : Statement)
  | arm (b : Branch)

mutual
/-- The places that the compiler comes to, in order. The alternative of a case counts only where the case has
one. -/
def Statement.positions : Statement → List Position
  | s@(.forQuery _ body _) | s@(.block body _) => .statement s :: Statement.listPositions body
  | s@(.choose _ body arms otherwise _) =>
    .statement s :: (Statement.listPositions body ++ Branch.bodyPositions arms ++ Statement.elsePositions otherwise)
  | s@(.select _ arms hasElse otherwise _) =>
    .statement s :: (Branch.armPositions arms ++ (if hasElse then Statement.listPositions otherwise else []))
  | s => [.statement s]
def Statement.listPositions : List Statement → List Position
  | [] => []
  | s :: rest => Statement.positions s ++ Statement.listPositions rest
def Statement.elsePositions : Option (List Statement) → List Position
  | none => []
  | some body => Statement.listPositions body
def Branch.bodyPositions : List Branch → List Position
  | [] => []
  | .mk _ body _ :: rest => Statement.listPositions body ++ Branch.bodyPositions rest
def Branch.armPositions : List Branch → List Position
  | [] => []
  | .mk test body line :: rest =>
    .arm (.mk test body line) :: (Statement.listPositions body ++ Branch.armPositions rest)
end

inductive Finding where
  | assignment (expr : String) (line : Option Line)
  | arm (expr : String) (line : Option Line)
  | kind (name : String) (line : Option Line)
  | functions (count : Nat)
  deriving DecidableEq, Repr

namespace Finding

def code : Finding → Code
  | assignment .. => .badAssignment
  | arm .. => .badArm
  | kind .. => .unknownStatement
  | functions _ => .severalFunctions

def line : Finding → Option Line
  | assignment _ line | arm _ line | kind _ line => line
  | functions _ => none

def subject : Finding → String
  | assignment expr _ | arm expr _ => expr
  | kind name _ => name
  | functions count => natText count

def frame : Finding → String × String
  | assignment .. => ("assignment '", "' is not of the form 'name := value'")
  | arm .. => ("CASE arm '", "' has no IN (...) value list")
  | kind .. => ("unsupported statement type '", "'")
  | functions _ => ("", " functions defined, only the first is translated")

def message (f : Finding) : String := f.frame.1 ++ f.subject ++ f.frame.2

def help : Finding → String
  | assignment .. => "the statement was dropped from the generated macro"
  | arm .. => "the whole expression is used as the value list"
  | kind .. => "a comment was emitted in place of the statement"
  | functions _ => "split the functions into one file each"

def diagnostic (file : String) (f : Finding) : Diagnostic where
  severity := .warning
  message := f.message
  file := file
  line := f.line.getD (.number 1)
  code := some f.code
  help := some f.help

theorem subject_in_message (f : Finding) : f.subject.toList <:+: f.message.toList :=
  ⟨f.frame.1.toList, f.frame.2.toList, by simp [message]⟩

end Finding

def Position.finding? : Position → Option Finding
  | statement (.assign (some expr) line) =>
    if (Assignment.find? (Text.strip expr)).isNone then some (.assignment (Text.strip expr) line) else none
  | statement (.unknown kind line) => some (.kind ((kind.map Key.text).getD "None") line)
  | arm (.mk (some expr) _ line) => if (inListValues? expr).isNone then some (.arm expr line) else none
  | _ => none

def findings (positions : List Position) : List Finding := positions.filterMap Position.finding?

def reported (file : String) (positions : List Position) : List Diagnostic :=
  (findings positions).map (Finding.diagnostic file)

theorem reported_append (file : String) (first second : List Position) :
    reported file (first ++ second) = reported file first ++ reported file second := by
  rw [reported, findings, List.filterMap_append, List.map_append]
  rfl

theorem reported_cons (file : String) (p : Position) (rest : List Position) :
    reported file (p :: rest) = reported file [p] ++ reported file rest :=
  reported_append file [p] rest

def Position.execution? : Position → Option Execution
  | statement (.execute (some query) none _) => some ⟨.exec, Text.strip query⟩
  | statement (.dynamic (some query) _) =>
    if Text.contains query "TRUNCATE TABLE" || Text.contains query "INSERT INTO" then none
    else some ⟨.dyn, Text.strip query⟩
  | _ => none

def absence (file : String) (kind : Kind) (field : String) (line : Option Line) (text : Option String) :
    Option Failure :=
  if text.isNone then some (.refused ⟨.missing .node kind.tag field, some file, line⟩) else none

def Target.misfit? : Target → Option Misfit
  | named _ => none
  | broken m => some m

def Position.offence? (file : String) : Position → Option Failure
  | statement (.raise message _ line) => absence file .raise "message" line message
  | statement (.forQuery query _ line) => absence file .forQuery "query" line query
  | statement (.execute query into line) =>
    (absence file .execute "query" line query).or (((into.getD []).findSome? Target.misfit?).map .misfit)
  | statement (.dynamic query line) => absence file .dynamic "query" line query
  | statement (.assign expr line) => absence file .assign "expr" line expr
  | statement (.choose test _ _ _ line) => absence file .choose "cond" line test
  | statement (.select subject _ _ _ line) => absence file .select "subject" line subject
  | statement (.broken m) => some (.misfit m)
  | arm (.mk none _ _) => some (.misfit .noText)
  | _ => none

structure Course where
  raised : List Diagnostic := []
  drawn : List Execution := []
  ending : Option Failure := none

namespace Course

def andThen (first second : Course) : Course :=
  match first.ending with
  | some _ => first
  | none => ⟨first.raised ++ second.raised, first.drawn ++ second.drawn, second.ending⟩

def of (each : α → Course) : List α → Course
  | [] => {}
  | a :: rest => (each a).andThen (of each rest)

theorem empty_andThen (c : Course) : andThen {} c = c := rfl

theorem andThen_assoc (a b c : Course) : (a.andThen b).andThen c = a.andThen (b.andThen c) := by
  unfold andThen
  cases ending : a.ending with
  | some failure => simp [ending]
  | none =>
    cases later : b.ending with
    | some failure => simp [later]
    | none => simp

theorem of_append (each : α → Course) (first second : List α) :
    of each (first ++ second) = (of each first).andThen (of each second) := by
  induction first with
  | nil => rfl
  | cons a rest ih => rw [List.cons_append, of, of, ih, andThen_assoc]

end Course

def Jinja.Step.course (file : String) : Step → Course
  | .emit .. | .comment .. => {}
  | .call _ series sql => { drawn := [⟨series, sql⟩] }
  | .warn code message help line => { raised := [warning file code message help line] }
  | .stop fault => { ending := some (fault.failure file) }

def Position.course (file : String) (p : Position) : Course :=
  match p.offence? file with
  | some failure => { ending := some failure }
  | none => { raised := reported file [p], drawn := p.execution?.toList }

theorem Position.course_offence {file : String} {p : Position} {failure : Failure}
    (offence : p.offence? file = some failure) : p.course file = { ending := some failure } := by
  rw [course.eq_def, offence]

theorem Position.course_fine {file : String} {p : Position} (fine : p.offence? file = none) :
    p.course file = { raised := reported file [p], drawn := p.execution?.toList } := by
  rw [course.eq_def, fine]

/-- Steps that do at each place what belongs there. -/
def Follows (file : String) (steps : List Step) (places : List Position) : Prop :=
  Course.of (Step.course file) steps = Course.of (Position.course file) places

namespace Follows

variable {file : String} {steps more : List Step} {places others : List Position} {p : Position}

theorem append (first : Follows file steps places) (second : Follows file more others) :
    Follows file (steps ++ more) (places ++ others) := by
  unfold Follows at *
  rw [Course.of_append, Course.of_append, first, second]

theorem emit {depth : Nat} {code : String} (rest : Follows file steps places) :
    Follows file (.emit depth code :: steps) places :=
  rest

theorem nil : Follows file [] [] := rfl

theorem closed (rest : Follows file steps places) (ends : Follows file more []) :
    Follows file (steps ++ more) places := by
  have joined := rest.append ends
  rwa [List.append_nil] at joined

theorem passed (quiet : p.course file = {}) (rest : Follows file steps places) :
    Follows file steps (p :: places) := by
  unfold Follows at *
  rw [Course.of, quiet, Course.empty_andThen, rest]

theorem refused {fault : Fault} (offence : p.offence? file = some (fault.failure file)) :
    Follows file [.stop fault] (p :: places) := by
  have ends := p.course_offence offence
  unfold Follows
  simp only [Course.of, ends]
  rfl

end Follows

theorem course_steps (file : String) (steps : List Step) :
    Course.of (Step.course file) steps =
      ⟨(steps.takeWhile Step.proceeds).flatMap (Step.warnings file), drawn (steps.takeWhile Step.proceeds),
        (fault? steps).map (Fault.failure file)⟩ := by
  induction steps with
  | nil => rfl
  | cons s rest ih =>
    rw [Course.of, ih]
    cases s <;> rfl

section Places

variable {file : String} {places : List Position}

theorem course_fine (fine : ∀ p ∈ places, p.offence? file = none) :
    Course.of (Position.course file) places =
      ⟨reported file places, places.filterMap Position.execution?, none⟩ := by
  induction places with
  | nil => rfl
  | cons p rest ih =>
    obtain ⟨here, others⟩ := List.forall_mem_cons.mp fine
    have drawn : (p :: rest).filterMap Position.execution? =
        p.execution?.toList ++ rest.filterMap Position.execution? := by
      cases found : p.execution? <;> simp [found]
    rw [Course.of, Position.course_fine here, ih others, reported_cons file p rest, drawn]
    rfl

theorem course_first {before after : List Position} {p : Position} {failure : Failure}
    (fine : ∀ q ∈ before, q.offence? file = none) (offence : p.offence? file = some failure) :
    Course.of (Position.course file) (before ++ p :: after) =
      ⟨reported file before, before.filterMap Position.execution?, some failure⟩ := by
  rw [Course.of_append, course_fine fine, Course.of, Position.course_offence offence]
  simp [Course.andThen]

theorem course_ending : (Course.of (Position.course file) places).ending = places.findSome? (·.offence? file) := by
  induction places with
  | nil => rfl
  | cons p rest ih =>
    cases offence : p.offence? file with
    | none =>
      rw [Course.of, Position.course_fine offence, List.findSome?_cons, offence]
      exact ih
    | some failure =>
      rw [Course.of, Position.course_offence offence, List.findSome?_cons, offence]
      rfl

theorem Follows.proceeding {steps : List Step} (follows : Follows file steps places)
    (proceeds : ∀ t ∈ steps, t.proceeds = true) :
    steps.flatMap (Step.warnings file) = reported file places ∧
      drawn steps = places.filterMap Position.execution? := by
  have whole : steps.takeWhile Step.proceeds = steps := List.takeWhile_eq_self_iff.mpr proceeds
  unfold Follows at follows
  rw [course_steps, whole, fault?_eq_none proceeds] at follows
  have fine : ∀ p ∈ places, p.offence? file = none := by
    rw [← List.findSome?_eq_none_iff, ← course_ending, ← follows]
    rfl
  rw [course_fine fine] at follows
  injection follows with warnings executions
  exact ⟨warnings, executions⟩

end Places

theorem bindings_follow (file : String) (depth column : Nat) (targets : List Target) (more : List Step)
    (emitted : Follows file more []) :
    Course.of (Step.course file) (bindings depth column targets ++ more) =
      { ending := (targets.findSome? Target.misfit?).map .misfit } := by
  induction targets generalizing column with
  | nil => exact emitted
  | cons target rest ih =>
    cases target with
    | named name =>
      rw [bindings, List.cons_append, List.findSome?_cons]
      exact ih (column + 1)
    | broken m => rfl

theorem executeSteps_follow (file : String) (depth : Nat) (query : String) (into : Option (List Target))
    (line : Option Line) :
    Follows file (executeSteps depth (Text.strip query) into) [.statement (.execute (some query) into line)] := by
  cases into with
  | none => rfl
  | some targets =>
    have bound := bindings_follow file (depth + deeper) 0 targets [.emit depth (tag "endif")] rfl
    have offence : (Position.statement (.execute (some query) (some targets) line)).offence? file =
        (targets.findSome? Target.misfit?).map .misfit := rfl
    refine .emit (.emit ?_)
    unfold Follows
    rw [bound]
    cases wrong : targets.findSome? Target.misfit? with
    | none =>
      rw [wrong] at offence
      rw [Course.of, Position.course_fine offence]
      rfl
    | some m =>
      rw [wrong] at offence
      rw [Course.of, Position.course_offence offence]
      rfl

theorem dynamicSteps_follow (file : String) (depth : Nat) (query : String) (line : Option Line) :
    Follows file (dynamicSteps depth (Text.strip query)) [.statement (.dynamic (some query) line)] := by
  unfold Follows
  rw [Course.of, Position.course_fine rfl]
  simp only [dynamicSteps, Position.execution?, Text.contains_truncate, Text.contains_insert]
  cases Text.contains query "TRUNCATE TABLE" with
  | true => rfl
  | false => cases Text.contains query "INSERT INTO" <;> rfl

theorem assignSteps_follow (file : String) (depth : Nat) (expr : String) (line : Option Line) :
    Follows file (assignSteps depth (Text.strip expr) line) [.statement (.assign (some expr) line)] := by
  unfold Follows
  rw [Course.of, Position.course_fine rfl]
  cases found : Assignment.find? (Text.strip expr) with
  | none =>
    simp only [assignSteps, found, reported, findings, Position.finding?, List.filterMap_cons]
    rfl
  | some a =>
    simp only [assignSteps, found, reported, findings, Position.finding?, List.filterMap_cons]
    rfl

theorem armSteps_follow (file : String) (depth : Nat) (keyword subject : String) (b : Branch) :
    Follows file (armSteps depth keyword subject b.line b.test) [.arm b] := by
  cases b with
  | mk test body line =>
    cases test with
    | none => exact .refused rfl
    | some expr =>
      unfold Follows
      rw [Course.of, Position.course_fine rfl]
      cases found : inListValues? expr with
      | none =>
        simp only [armSteps, Branch.test, Branch.line, found, reported, findings, Position.finding?,
          List.filterMap_cons]
        rfl
      | some values =>
        simp only [armSteps, Branch.test, found, reported, findings, Position.finding?, List.filterMap_cons]
        rfl

namespace Statement

variable {file : String}

theorem listSteps_follow (depth : Nat) (statements : List Statement)
    (each : ∀ s ∈ statements, ∀ depth, Follows file (s.steps depth) s.positions) :
    Follows file (listSteps depth statements) (listPositions statements) := by
  induction statements with
  | nil => rfl
  | cons s rest ih =>
    obtain ⟨first, others⟩ := List.forall_mem_cons.mp each
    rw [listSteps, listPositions]
    exact (first depth).append (ih others)

theorem elseSteps_follow (depth : Nat) (otherwise : Option (List Statement))
    (each : ∀ s ∈ otherwise.getD [], ∀ depth, Follows file (s.steps depth) s.positions) :
    Follows file (elseSteps depth otherwise) (elsePositions otherwise) := by
  cases otherwise with
  | none => rfl
  | some body =>
    have inner := listSteps_follow (depth + deeper) body each
    cases body with
    | nil => rfl
    | cons s rest =>
      rw [listSteps] at inner
      rw [elseSteps, elsePositions]
      exact inner.emit

theorem elifSteps_follow (depth : Nat) (arms : List Branch)
    (each : ∀ b ∈ arms, ∀ s ∈ b.body, ∀ depth, Follows file (s.steps depth) s.positions) :
    Follows file (Branch.elifSteps depth arms) (Branch.bodyPositions arms) := by
  induction arms with
  | nil => rfl
  | cons b rest ih =>
    obtain ⟨first, others⟩ := List.forall_mem_cons.mp each
    cases b with
    | mk test body line =>
      have inner := listSteps_follow (depth + deeper) body first
      rw [Branch.elifSteps, Branch.bodyPositions]
      exact (inner.append (ih others)).emit

theorem whenSteps_follow (depth : Nat) (keyword subject : String) (arms : List Branch)
    (each : ∀ b ∈ arms, ∀ s ∈ b.body, ∀ depth, Follows file (s.steps depth) s.positions) :
    Follows file (Branch.whenSteps depth keyword subject arms) (Branch.armPositions arms) := by
  induction arms generalizing keyword with
  | nil => rfl
  | cons b rest ih =>
    obtain ⟨first, others⟩ := List.forall_mem_cons.mp each
    have test := armSteps_follow file depth keyword subject b
    cases b with
    | mk expr body line =>
      have inner := listSteps_follow (depth + deeper) body first
      rw [Branch.whenSteps, Branch.armPositions, List.append_assoc]
      exact test.append (inner.append (ih "elif" others))

/-- Whatever is wrong with a statement, its steps go through its places in order and stop at the first offence. -/
theorem steps_follow (s : Statement) (depth : Nat) : Follows file (s.steps depth) s.positions := by
  induction s generalizing depth with
  | raise message level line =>
    cases message with
    | none => exact .refused rfl
    | some m => rfl
  | forQuery query body line inner =>
    cases query with
    | none => exact .refused rfl
    | some q =>
      have nested := listSteps_follow (depth + deeper + deeper) body inner
      rw [steps, required, positions]
      exact (nested.closed Follows.nil.emit.emit).emit.emit.emit.passed rfl
  | ret expr line => rfl
  | retNext line => rfl
  | block body line inner =>
    have nested := listSteps_follow depth body inner
    rw [steps, positions]
    exact nested.passed rfl
  | execute query into line =>
    cases query with
    | none => exact .refused rfl
    | some q =>
      rw [steps, required]
      exact executeSteps_follow file depth q into line
  | dynamic query line =>
    cases query with
    | none => exact .refused rfl
    | some q =>
      rw [steps, required]
      exact dynamicSteps_follow file depth q line
  | assign expr line =>
    cases expr with
    | none => exact .refused rfl
    | some e =>
      rw [steps, required]
      exact assignSteps_follow file depth e line
  | choose test body arms otherwise line inBody inArms inElse =>
    cases test with
    | none => exact .refused rfl
    | some t =>
      have first := listSteps_follow (depth + deeper) body inBody
      have further := elifSteps_follow depth arms inArms
      have last := elseSteps_follow depth otherwise inElse
      rw [steps, required, positions]
      exact (((first.append further).append last).closed Follows.nil.emit).emit.passed rfl
  | select subject arms hasElse otherwise line inArms inElse =>
    have last (depth : Nat) := listSteps_follow depth otherwise inElse
    cases subject with
    | none => exact .refused rfl
    | some t =>
      have tests := whenSteps_follow depth "if" (Text.strip t) arms inArms
      -- Without arms there is no tag to close, and the alternative stands at the depth of the case itself.
      cases arms with
      | nil =>
        cases hasElse with
        | false => rfl
        | true =>
          rw [steps, required, positions]
          exact (last depth).passed rfl
      | cons b rest =>
        cases hasElse with
        | false =>
          rw [steps, required, positions]
          exact ((tests.append .nil).closed Follows.nil.emit).passed rfl
        | true =>
          rw [steps, required, positions]
          exact ((tests.append (last (depth + deeper)).emit).closed Follows.nil.emit).passed rfl
  | unknown kind line => rfl
  | broken misfit => exact .refused rfl

theorem statements_follow (file : String) (depth : Nat) (statements : List Statement) :
    Follows file (listSteps depth statements) (listPositions statements) :=
  listSteps_follow depth statements fun s _ => s.steps_follow

end Statement

end PgJinja
