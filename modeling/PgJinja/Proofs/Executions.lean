import PgJinja.Proofs.Lines
import PgJinja.Proofs.Numbers
import PgJinja.Proofs.Run

/-! Anonymous executions, given directly on the tree, and the call blocks that are read off the lines of a
template. The blocks are the executions in order, named one number after another. -/
namespace PgJinja

namespace Jinja

theorem Ids.name_inj {first second : Series} {m n : Int}
    (same : Ids.name first.text m = Ids.name second.text n) : m = n := by
  have listed := congrArg String.toList same
  cases first with
  | exec =>
    cases second with
    | exec => exact intText_inj (by simpa [Ids.name, Series.text, ← String.toList_inj] using listed)
    | dyn => simp [Ids.name, Series.text] at listed
  | dyn =>
    cases second with
    | exec => simp [Ids.name, Series.text] at listed
    | dyn => exact intText_inj (by simpa [Ids.name, Series.text, ← String.toList_inj] using listed)

structure Execution where
  series : Series
  sql : String
  deriving DecidableEq, Repr

def numbered (n : Int) (executions : List Execution) : List (String × String) :=
  executions.mapIdx fun k e => (Ids.name e.series.text (n + k + 1), e.sql ++ ";")

theorem numbered_cons (n : Int) (e : Execution) (rest : List Execution) :
    numbered n (e :: rest) = (Ids.name e.series.text (n + 1), e.sql ++ ";") :: numbered (n + 1) rest := by
  have shift (k : Nat) : n + (k + 1 : Nat) + 1 = n + 1 + k + 1 := by omega
  simp [numbered, List.mapIdx_cons, ← shift]

/-- The names and texts of the call blocks among some lines. The text of a block stands at the indentation of
its first line. -/
def calls : List String → List (String × String)
  | opening :: body :: closing :: rest =>
    match callName? (unindented opening) with
    | some name => (name, String.ofList (body.toList.drop (indentation opening))) :: calls rest
    | none => calls (body :: closing :: rest)
  | _ => []

theorem calls_cons {line : String} (other : callName? (unindented line) = none) (rest : List String) :
    calls (line :: rest) = calls rest := by
  match rest with
  | [] => rfl
  | [_] => rfl
  | _ :: _ :: _ => simp [calls, other]

theorem calls_block (spaces : Nat) (name sql : String) (rest : List String) :
    calls ((Output.callLines name sql).map (indented spaces) ++ rest) = (name, sql ++ ";") :: calls rest := by
  have flush := flush_tag ("call statement('" ++ name ++ "')")
  have body : (indented spaces (sql ++ ";")).toList.drop spaces = (sql ++ ";").toList := by
    simp [indented, Text.copies]
  simp only [Output.callLines, List.map_cons, List.map_nil, List.cons_append, List.nil_append, calls,
    unindented_indented flush, indentation_indented flush, callName?_tag, body, String.ofList_toList]

structure Uncalled (code : String) : Prop where
  flush : Flush code
  other : callName? code = none

theorem callName?_eq_none {text : String}
    (start : "\x7b% call ".toList.isPrefixOf text.toList = false) : callName? text = none := by
  cases found : text.toList.dropPrefix? "\x7b% call statement('".toList with
  | none => rw [callName?, between?, found, Option.bind_none, Option.map_none]
  | some rest =>
    obtain ⟨opening, split, same⟩ := List.dropPrefix?_eq_some_iff.mp found
    rw [split, eq_of_beq same] at start
    simp at start

theorem Plain.uncalled {code : String} (plain : Plain code) : Uncalled code := by
  refine ⟨plain.flush, callName?_eq_none ?_⟩
  cases start : "\x7b% call ".toList.isPrefixOf code.toList with
  | false => rfl
  | true =>
    obtain ⟨rest, split⟩ := List.isPrefixOf_iff_prefix.mp start
    have opens : Lexeme.of code = .opens .call := by simp [Lexeme.of, Lexeme.table, ← split]
    rw [plain.lexeme] at opens
    cases opens

theorem uncalled_tag {code : String} {c : Char} (start : code.toList.head? = some c)
    (other : 'c' ≠ c) : Uncalled (tag code) := by
  refine ⟨flush_tag code, callName?_eq_none ?_⟩
  simp only [tag, String.toList_append]
  generalize code.toList = text at start
  cases text with
  | nil => cases start
  | cons d rest =>
    cases start
    simp [List.isPrefixOf, other]

namespace Step

/-- A step that opens a call block only if it draws a name. -/
def Quiet : Step → Prop
  | emit _ code => Uncalled code
  | _ => True

def execution? : Step → Option Execution
  | call _ series sql => some ⟨series, sql⟩
  | _ => none

end Step

def drawn (steps : List Step) : List Execution := steps.filterMap Step.execution?

theorem drawn_append (first second : List Step) : drawn (first ++ second) = drawn first ++ drawn second :=
  List.filterMap_append

@[simp] theorem drawn_nil : drawn [] = [] := rfl

@[simp] theorem drawn_emit (depth : Nat) (code : String) (rest : List Step) :
    drawn (.emit depth code :: rest) = drawn rest := rfl

@[simp] theorem drawn_comment (depth : Nat) (text : String) (rest : List Step) :
    drawn (.comment depth text :: rest) = drawn rest := rfl

@[simp] theorem drawn_call (depth : Nat) (series : Series) (sql : String) (rest : List Step) :
    drawn (.call depth series sql :: rest) = ⟨series, sql⟩ :: drawn rest := rfl

@[simp] theorem drawn_warn (code : Code) (message help : String) (line : Option Line) (rest : List Step) :
    drawn (.warn code message help line :: rest) = drawn rest := rfl

@[simp] theorem drawn_stop (fault : Fault) (rest : List Step) : drawn (.stop fault :: rest) = drawn rest := rfl

theorem taken_eq_length (steps : List Step) : taken steps = (drawn steps).length := by
  induction steps with
  | nil => rfl
  | cons s rest ih =>
    cases s with
    | call depth series sql => simp [taken, Step.taken, ih, Nat.add_comm]
    | _ => simpa [taken, Step.taken] using ih

theorem calls_written (indent n : Int) (steps : List Step) (quiet : ∀ s ∈ steps, s.Quiet)
    (rest : List String) :
    calls (written indent n steps ++ rest) = numbered n (drawn steps) ++ calls rest := by
  induction steps generalizing n with
  | nil => rfl
  | cons s steps ih =>
    obtain ⟨here, others⟩ := List.forall_mem_cons.mp quiet
    have skipped {code : String} (uncalled : Uncalled code) (spaces : Nat) (lines : List String) :
        calls (indented spaces code :: lines) = calls lines := by
      apply calls_cons
      rw [unindented_indented uncalled.flush, uncalled.other]
    cases s with
    | emit depth code => simpa [written, Step.lines, Step.taken, skipped here] using ih n others
    | comment depth text =>
      simpa [written, Step.lines, Step.taken, skipped (plain_comment text).uncalled] using ih n others
    | call depth series sql =>
      -- The three lines of a block are read at once, so the induction goes on behind them.
      rw [drawn_call, numbered_cons, written, Step.lines, List.append_assoc, calls_block, ih _ others]
      rfl
    | warn code message help line => simpa [written, Step.lines, Step.taken] using ih n others
    | stop fault => simpa [written, Step.lines, Step.taken] using ih n others

theorem quiet_tag {code : String} {c : Char} (start : code.toList.head? = some c) (other : 'c' ≠ c)
    (depth : Nat) : (Step.emit depth (tag code)).Quiet :=
  uncalled_tag start other

theorem bindings_quiet (depth column : Nat) (targets : List Target) :
    ∀ t ∈ bindings depth column targets, t.Quiet := by
  induction targets generalizing column with
  | nil => simp [bindings]
  | cons target rest ih =>
    cases target with
    | named name =>
      rw [bindings, List.forall_mem_cons]
      exact ⟨quiet_tag (c := 's') (by simp) (by decide) depth, ih (column + 1)⟩
    | broken m => simp [bindings, Step.Quiet]

theorem armSteps_quiet (depth : Nat) {keyword : String} (known : keyword ∈ ["if", "elif"])
    (subject : String) (line : Option Line) (test : Option String) :
    ∀ t ∈ armSteps depth keyword subject line test, t.Quiet := by
  have quiet (values : String) :
      (Step.emit depth (tag (keyword ++ " " ++ subject ++ " in (" ++ values ++ ")"))).Quiet := by
    simp only [List.mem_cons, List.not_mem_nil, or_false] at known
    rcases known with rfl | rfl
    · exact quiet_tag (c := 'i') (by simp) (by decide) depth
    · exact quiet_tag (c := 'e') (by simp) (by decide) depth
  cases test with
  | none => simp [armSteps, Step.Quiet]
  | some expr =>
    rw [armSteps]
    split
    · simpa using quiet _
    · simpa [Step.Quiet] using quiet _

theorem quiet_plain {code : String} (plain : Plain code) (depth : Nat) : (Step.emit depth code).Quiet :=
  plain.uncalled

theorem quiet_endif (depth : Nat) : (Step.emit depth (tag "endif")).Quiet :=
  quiet_tag (c := 'e') (by simp) (by decide) depth

theorem quiet_else (depth : Nat) : (Step.emit depth (tag "else")).Quiet :=
  quiet_tag (c := 'e') (by simp) (by decide) depth

theorem quiet_if (test : String) (depth : Nat) : (Step.emit depth (tag ("if " ++ test))).Quiet :=
  quiet_tag (c := 'i') (by simp) (by decide) depth

/-- Whatever is wrong with a statement, its steps open no call block without drawing a name. -/
theorem steps_quiet (s : Statement) (depth : Nat) : ∀ t ∈ s.steps depth, t.Quiet := by
  induction s generalizing depth with
  | raise message level line =>
    refine Statement.required_forall _ _ message trivial fun m _ => ?_
    simpa using quiet_plain (plain_raise level m) depth
  | forQuery query body line inner =>
    refine Statement.required_forall _ _ query trivial fun q _ => ?_
    have nested := Statement.listSteps_forall (depth + deeper + deeper) body inner
    simp only [List.forall_mem_cons, List.forall_mem_append]
    refine ⟨quiet_tag (c := 's') (by simp) (by decide) depth, quiet_if "execute" depth,
      quiet_tag (c := 'f') (by simp) (by decide) (depth + deeper), nested,
      quiet_tag (c := 'e') (by simp) (by decide) (depth + deeper), quiet_endif depth, ?_⟩
    simp
  | ret expr line => simpa [Statement.steps] using quiet_plain (plain_return expr) depth
  | retNext line => simpa [Statement.steps] using quiet_tag (c := 'd') (by simp) (by decide) depth
  | block body line inner =>
    rw [Statement.steps]
    exact Statement.listSteps_forall depth body inner
  | execute query into line =>
    refine Statement.required_forall _ _ query trivial fun q _ => ?_
    cases into with
    | none => simp [executeSteps, Step.Quiet]
    | some targets =>
      simp only [executeSteps, List.forall_mem_cons, List.forall_mem_append]
      refine ⟨quiet_tag (c := 's') (by simp) (by decide) depth, quiet_if "execute" depth,
        bindings_quiet (depth + deeper) 0 targets, quiet_endif depth, ?_⟩
      simp
  | dynamic query line =>
    refine Statement.required_forall _ _ query trivial fun q _ => ?_
    rw [dynamicSteps]
    split
    · simpa using quiet_plain (plain_printed _) depth
    · split
      · simpa using quiet_plain (plain_printed _) depth
      · simp [Step.Quiet]
  | assign expr line =>
    refine Statement.required_forall _ _ expr trivial fun e _ => ?_
    rw [assignSteps]
    split
    · simpa using quiet_tag (c := 's') (by simp) (by decide) depth
    · simp [Step.Quiet]
  | choose test body arms otherwise line inBody inArms inElse =>
    refine Statement.required_forall _ _ test trivial fun t _ => ?_
    simp only [List.forall_mem_cons, List.forall_mem_append]
    refine ⟨quiet_if t depth, ⟨⟨?_, ?_⟩, ?_⟩, quiet_endif depth, by simp⟩
    · exact Statement.listSteps_forall (depth + deeper) body inBody
    · exact Statement.elifSteps_forall depth arms
        (fun _ => quiet_tag (c := 'e') (by simp) (by decide) depth) inArms
    · exact Statement.elseSteps_forall depth otherwise (quiet_else depth) inElse
  | select subject arms hasElse otherwise line inArms inElse =>
    refine Statement.required_forall _ _ subject trivial fun t _ => ?_
    have last (depth : Nat) := Statement.listSteps_forall depth otherwise inElse
    cases arms with
    | nil =>
      cases hasElse with
      | false => simp
      | true => exact last depth
    | cons b rest =>
      have tests := Statement.whenSteps_forall depth "if" (by simp) (Text.strip t) (b :: rest)
        (fun b _ _ known => armSteps_quiet depth known (Text.strip t) b.line b.test) inArms
      simp only [List.forall_mem_append]
      refine ⟨⟨tests, ?_⟩, by simpa using quiet_endif depth⟩
      cases hasElse with
      | false => simp
      | true => exact List.forall_mem_cons.mpr ⟨quiet_else depth, last (depth + deeper)⟩
  | unknown kind line =>
    simp [Statement.steps, unknownSteps, Step.Quiet]
  | broken misfit => simp [Statement.steps, Step.Quiet]

theorem listSteps_quiet (depth : Nat) (statements : List Statement) :
    ∀ t ∈ Statement.listSteps depth statements, t.Quiet :=
  Statement.listSteps_forall depth statements fun s _ => steps_quiet s

end Jinja

open Jinja

mutual
/-- The anonymous executions of a statement. A query that is read into variables is not one of them, and
neither is a dynamic text that truncates or fills a table. -/
def Statement.executions : Statement → List Execution
  | .execute query none _ => [⟨.exec, Text.strip (query.getD "")⟩]
  | .dynamic query _ =>
    let text := query.getD ""
    if Text.contains text "TRUNCATE TABLE" || Text.contains text "INSERT INTO" then []
    else [⟨.dyn, Text.strip text⟩]
  | .forQuery _ body _ | .block body _ => Statement.listExecutions body
  | .choose _ body arms otherwise _ =>
    Statement.listExecutions body ++ Branch.listExecutions arms ++ Statement.elseExecutions otherwise
  | .select _ arms hasElse otherwise _ =>
    Branch.listExecutions arms ++ (if hasElse then Statement.listExecutions otherwise else [])
  | _ => []
def Statement.listExecutions : List Statement → List Execution
  | [] => []
  | s :: rest => Statement.executions s ++ Statement.listExecutions rest
def Statement.elseExecutions : Option (List Statement) → List Execution
  | none => []
  | some body => Statement.listExecutions body
def Branch.listExecutions : List Branch → List Execution
  | [] => []
  | .mk _ body _ :: rest => Statement.listExecutions body ++ Branch.listExecutions rest
end

namespace Jinja

theorem drawn_listSteps (depth : Nat) (statements : List Statement)
    (each : ∀ s ∈ statements, ∀ depth, drawn (s.steps depth) = s.executions) :
    drawn (Statement.listSteps depth statements) = Statement.listExecutions statements := by
  induction statements with
  | nil => rfl
  | cons s rest ih =>
    obtain ⟨first, others⟩ := List.forall_mem_cons.mp each
    rw [Statement.listSteps, drawn_append, first, ih others, Statement.listExecutions]

theorem drawn_elseSteps (depth : Nat) (otherwise : Option (List Statement))
    (each : ∀ s ∈ otherwise.getD [], ∀ depth, drawn (s.steps depth) = s.executions) :
    drawn (Statement.elseSteps depth otherwise) = Statement.elseExecutions otherwise := by
  match otherwise with
  | none => rfl
  | some [] => rfl
  | some (s :: rest) =>
    have body := drawn_listSteps (depth + deeper) (s :: rest) each
    rw [Statement.listSteps] at body
    simpa [Statement.elseSteps, Statement.elseExecutions] using body

theorem drawn_elifSteps (depth : Nat) (arms : List Branch)
    (each : ∀ b ∈ arms, ∀ s ∈ b.body, ∀ depth, drawn (s.steps depth) = s.executions) :
    drawn (Branch.elifSteps depth arms) = Branch.listExecutions arms := by
  induction arms with
  | nil => rfl
  | cons b rest ih =>
    obtain ⟨first, others⟩ := List.forall_mem_cons.mp each
    cases b with
    | mk test body line =>
      rw [Branch.elifSteps, drawn_emit, drawn_append, drawn_listSteps _ body first, ih others,
        Branch.listExecutions]

theorem drawn_armSteps (depth : Nat) (keyword subject : String) (line : Option Line)
    (test : Option String) : drawn (armSteps depth keyword subject line test) = [] := by
  cases test with
  | none => rfl
  | some expr =>
    rw [armSteps]
    split <;> rfl

theorem drawn_whenSteps (depth : Nat) (keyword subject : String) (arms : List Branch)
    (each : ∀ b ∈ arms, ∀ s ∈ b.body, ∀ depth, drawn (s.steps depth) = s.executions) :
    drawn (Branch.whenSteps depth keyword subject arms) = Branch.listExecutions arms := by
  induction arms generalizing keyword with
  | nil => rfl
  | cons b rest ih =>
    obtain ⟨first, others⟩ := List.forall_mem_cons.mp each
    cases b with
    | mk test body line =>
      rw [Branch.whenSteps, drawn_append, drawn_append, drawn_armSteps, drawn_listSteps _ body first,
        ih "elif" others, Branch.listExecutions, List.nil_append]

theorem drawn_bindings (depth column : Nat) (targets : List Target) :
    drawn (bindings depth column targets) = [] := by
  induction targets generalizing column with
  | nil => rfl
  | cons target rest ih =>
    cases target with
    | named name => simpa [bindings] using ih (column + 1)
    | broken m => rfl

theorem drawn_steps (s : Statement) (sound : s.all Statement.wellFormed = true) (depth : Nat) :
    drawn (s.steps depth) = s.executions := by
  induction s generalizing depth with
  | raise message level line =>
    cases message with
    | none => cases sound
    | some m => rfl
  | forQuery query body line inner =>
    simp only [Statement.all, Bool.and_eq_true, Statement.listAll_iff] at sound
    cases query with
    | none => cases sound.1
    | some q =>
      have nested := drawn_listSteps (depth + deeper + deeper) body
        (fun s member depth => inner s member (sound.2 s member) depth)
      simp [Statement.steps, required, Statement.executions, drawn_append, nested]
  | ret expr line => rfl
  | retNext line => rfl
  | block body line inner =>
    simp only [Statement.all, Bool.and_eq_true, Statement.listAll_iff] at sound
    rw [Statement.steps, Statement.executions]
    exact drawn_listSteps depth body (fun s member depth => inner s member (sound.2 s member) depth)
  | execute query into line =>
    cases query with
    | none => cases sound
    | some q =>
      cases into with
      | none => rfl
      | some targets =>
        simp [Statement.steps, required, executeSteps, Statement.executions, drawn_append, drawn_bindings]
  | dynamic query line =>
    cases query with
    | none => cases sound
    | some q =>
      simp only [Statement.steps, required, dynamicSteps, Statement.executions, Option.getD_some,
        Text.contains_truncate, Text.contains_insert]
      cases Text.contains q "TRUNCATE TABLE" with
      | true => rfl
      | false => cases Text.contains q "INSERT INTO" <;> rfl
  | assign expr line =>
    cases expr with
    | none => cases sound
    | some e =>
      simp only [Statement.steps, required, assignSteps]
      split <;> rfl
  | choose test body arms otherwise line inBody inArms inElse =>
    simp only [Statement.all, Bool.and_eq_true, Statement.listAll_iff, Statement.branchAll_iff,
      Statement.optionAll_iff] at sound
    obtain ⟨⟨⟨here, soundBody⟩, soundArms⟩, soundElse⟩ := sound
    cases test with
    | none => cases here
    | some t =>
      have first := drawn_listSteps (depth + deeper) body
        (fun s member depth => inBody s member (soundBody s member) depth)
      have further := drawn_elifSteps depth arms
        (fun b member s inside depth => inArms b member s inside (soundArms b member s inside) depth)
      have last := drawn_elseSteps depth otherwise
        (fun s member depth => inElse s member (soundElse s member) depth)
      simp [Statement.steps, required, Statement.executions, drawn_append, first, further, last]
  | select subject arms hasElse otherwise line inArms inElse =>
    simp only [Statement.all, Bool.and_eq_true, Statement.listAll_iff, Statement.branchAll_iff] at sound
    obtain ⟨⟨here, soundArms⟩, soundElse⟩ := sound
    have last (depth : Nat) := drawn_listSteps depth otherwise
      (fun s member depth => inElse s member (soundElse s member) depth)
    cases subject with
    | none => cases here
    | some t =>
      cases arms with
      | nil =>
        cases hasElse with
        | false => rfl
        | true => simpa [Statement.steps, required, Statement.executions, Branch.listExecutions] using last depth
      | cons b rest =>
        have tests := drawn_whenSteps depth "if" (Text.strip t) (b :: rest)
          (fun b member s inside depth => inArms b member s inside (soundArms b member s inside) depth)
        cases hasElse with
        | false => simp [Statement.steps, required, Statement.executions, drawn_append, tests]
        | true => simp [Statement.steps, required, Statement.executions, drawn_append, tests, last]
  | unknown kind line => rfl
  | broken misfit => cases sound

theorem drawn_sound (body : List Statement) (sound : Statement.listAll Statement.wellFormed body = true) :
    drawn (Statement.listSteps 0 body) = Statement.listExecutions body := by
  rw [Statement.listAll_iff] at sound
  exact drawn_listSteps 0 body (fun s member => drawn_steps s (sound s member))

theorem after_numbered (body : List Statement) (sound : Statement.listAll Statement.wellFormed body = true)
    (file : String) (indent : Int) (ids : Ids) :
    let out := Output.after file indent { ids := ids } (Statement.listSteps 0 body)
    out.ids.value = ids.value + (Statement.listExecutions body).length ∧
      calls out.listing.lines = numbered ids.value (Statement.listExecutions body) := by
  have read := calls_written indent ids.value _ (listSteps_quiet 0 body) []
  rw [drawn_sound body sound] at read
  refine ⟨by simp [Output.after, taken_eq_length, drawn_sound body sound], ?_⟩
  simpa [Output.after, Listing.extend, calls] using read

end Jinja
end PgJinja
