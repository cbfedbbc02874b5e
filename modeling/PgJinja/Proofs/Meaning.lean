import PgJinja.Proofs.Lines
import PgJinja.Proofs.Run

/-! What statements do, given directly on the tree, and the shape of the steps that do it. -/
namespace PgJinja

namespace Jinja

/-- A line that takes effect, or a call block with the series of its name and its text. -/
inductive Event where
  | line (text : String)
  | call (series text : String)
  deriving DecidableEq, Repr

/-- Which conditions hold, and how many rows a query line yields. -/
structure World where
  holds : String → Bool
  rows : String → Nat

def World.first (w : World) (cases : List (String × List Event)) : Option (List Event) :=
  (cases.find? fun c => w.holds c.1).map (·.2)

theorem World.first_cons (w : World) (test : String) (events : List Event)
    (cases : List (String × List Event)) :
    w.first ((test, events) :: cases) = (if w.holds test then some events else none).or (w.first cases) := by
  cases holds : w.holds test with
  | false => simp [World.first, holds]
  | true => simp [World.first, holds]

def isQueryLine (text : String) : Bool := "\x7b% set records = ".toList.isPrefixOf text.toList

end Jinja

open Jinja

def Target.text : Target → String
  | named name => name
  | broken _ => ""

def armTest (subject : String) (expr : Option String) : String :=
  subject ++ " in (" ++ (inListValues? (expr.getD "")).getD (expr.getD "") ++ ")"

mutual
/-- What a statement does. -/
def Statement.events (w : World) : Statement → List Event
  | .raise message level _ => [.line (raiseCode level (message.getD ""))]
  | .forQuery query body _ =>
    let line := tag ("set records = run_query(" ++ literal (Text.strip (query.getD "")) ++ ")")
    .line line :: (List.replicate (w.rows line) (Statement.listEvents w body)).flatten
  | .ret expr _ => [.line (returnCode expr)]
  | .retNext _ => [.line (tag "do return_next()")]
  | .block body _ => Statement.listEvents w body
  | .execute query none _ => [.call "exec" (Text.strip (query.getD "") ++ ";")]
  | .execute query (some targets) _ =>
    .line (tag ("set results = run_query(" ++ literal (Text.strip (query.getD "")) ++ ")"))
      :: targets.mapIdx fun column target =>
        .line (tag ("set " ++ target.text ++ " = results.columns[" ++ natText column ++ "].values()[0]"))
  | .dynamic query _ =>
    let text := query.getD ""
    if Text.contains text "TRUNCATE TABLE" then [.line (printed "truncate_table(to_table)")]
    else if Text.contains text "INSERT INTO" then [.line (printed "insert_table_from_trace(to_table)")]
    else [.call "dyn" (Text.strip text ++ ";")]
  | .assign expr _ =>
    match Assignment.find? (Text.strip (expr.getD "")) with
    | some a => [.line (tag ("set " ++ a.name ++ " = " ++ a.value))]
    | none => []
  | .choose test body arms otherwise _ =>
    (w.first ((test.getD "", Statement.listEvents w body)
      :: Branch.cases w (·.getD "None") arms)).getD (Statement.elseEvents w otherwise)
  | .select subject arms hasElse otherwise _ =>
    (w.first (Branch.cases w (armTest (Text.strip (subject.getD ""))) arms)).getD
      (if hasElse then Statement.listEvents w otherwise else [])
  | .unknown kind _ => [.line (commentLine ("unsupported stmt type: " ++ Statement.kindText kind))]
  | .broken _ => []
def Statement.listEvents (w : World) : List Statement → List Event
  | [] => []
  | s :: rest => Statement.events w s ++ Statement.listEvents w rest
def Statement.elseEvents (w : World) : Option (List Statement) → List Event
  | none => []
  | some body => Statement.listEvents w body
def Branch.cases (w : World) (condition : Option String → String) : List Branch → List (String × List Event)
  | [] => []
  | .mk test body _ :: rest =>
    (condition test, Statement.listEvents w body) :: Branch.cases w condition rest
end

namespace Jinja

/-! Steps that are put together properly, with what they do. `Tail` is what follows the first branch of a
conditional: the further cases, and what is done otherwise. -/

mutual
inductive Script (w : World) : Nat → List Step → List Event → Prop where
  | nil (depth : Nat) : Script w depth [] []
  | append {depth : Nat} {first second : List Step} {events others : List Event} :
      Script w depth first events → Script w depth second others →
        Script w depth (first ++ second) (events ++ others)
  | plain (depth : Nat) {code : String} : Plain code → Script w depth [.emit depth code] [.line code]
  | comment (depth : Nat) (text : String) : Script w depth [.comment depth text] [.line (commentLine text)]
  | warn (depth : Nat) (code : Code) (message help : String) (line : Option Line) :
      Script w depth [.warn code message help line] []
  | call (depth : Nat) (series : Series) {sql : String} :
      Plain (sql ++ ";") → Script w depth [.call depth series sql] [.call series.text (sql ++ ";")]
  | choice {depth : Nat} {body rest : List Step} {events otherwise : List Event}
      {cases : List (String × List Event)} (test : String) :
      Script w (depth + deeper) body events → Tail w depth rest cases otherwise →
        Script w depth (.emit depth (tag ("if " ++ test)) :: (body ++ rest))
          ((w.first ((test, events) :: cases)).getD otherwise)
  | loop {depth : Nat} {query : String} {body : List Step} {events : List Event} :
      Plain query → isQueryLine query = true → Script w (depth + deeper + deeper) body events →
        Script w depth (.emit depth query :: .emit depth (tag "if execute")
            :: .emit (depth + deeper) (tag "for rec in records.rows()")
            :: (body ++ [.emit (depth + deeper) (tag "endfor"), .emit depth (tag "endif")]))
          (.line query :: (w.first [("execute", (List.replicate (w.rows query) events).flatten)]).getD [])
inductive Tail (w : World) : Nat → List Step → List (String × List Event) → List Event → Prop where
  | close (depth : Nat) : Tail w depth [.emit depth (tag "endif")] [] []
  | otherwise {depth : Nat} {body : List Step} {events : List Event} :
      Script w (depth + deeper) body events →
        Tail w depth (.emit depth (tag "else") :: (body ++ [.emit depth (tag "endif")])) [] events
  | elif {depth : Nat} {body rest : List Step} {events otherwise : List Event}
      {cases : List (String × List Event)} (test : String) :
      Script w (depth + deeper) body events → Tail w depth rest cases otherwise →
        Tail w depth (.emit depth (tag ("elif " ++ test)) :: (body ++ rest)) ((test, events) :: cases)
          otherwise
  | warned {depth : Nat} {rest : List Step} {otherwise : List Event} {cases : List (String × List Event)}
      (code : Code) (message help : String) (line : Option Line) :
      Tail w depth rest cases otherwise →
        Tail w depth (.warn code message help line :: rest) cases otherwise
end

variable {w : World}

/-- As long as no step stops, the steps of a statement form a script that does what the statement does. -/
def Scripted (w : World) (s : Statement) : Prop :=
  ∀ depth, (∀ t ∈ s.steps depth, t.proceeds = true) → Script w depth (s.steps depth) (s.events w)

theorem listSteps_script (depth : Nat) (statements : List Statement)
    (each : ∀ s ∈ statements, Scripted w s)
    (proceeds : ∀ t ∈ Statement.listSteps depth statements, t.proceeds = true) :
    Script w depth (Statement.listSteps depth statements) (Statement.listEvents w statements) := by
  induction statements with
  | nil => exact .nil depth
  | cons s rest ih =>
    obtain ⟨first, others⟩ := List.forall_mem_cons.mp each
    rw [Statement.listSteps, List.forall_mem_append] at proceeds
    exact .append (first depth proceeds.1) (ih others proceeds.2)

theorem elseSteps_tail (depth : Nat) (otherwise : Option (List Statement))
    (each : ∀ s ∈ otherwise.getD [], Scripted w s)
    (proceeds : ∀ t ∈ Statement.elseSteps depth otherwise, t.proceeds = true) :
    Tail w depth (Statement.elseSteps depth otherwise ++ [.emit depth (tag "endif")]) []
      (Statement.elseEvents w otherwise) := by
  match otherwise with
  | none => exact .close depth
  | some [] => exact .close depth
  | some (s :: rest) =>
    rw [Statement.elseSteps, List.forall_mem_cons] at proceeds
    have inner : ∀ t ∈ Statement.listSteps (depth + deeper) (s :: rest), t.proceeds = true := by
      rw [Statement.listSteps]
      exact proceeds.2
    have body := listSteps_script (depth + deeper) (s :: rest) each inner
    rw [Statement.listSteps] at body
    exact .otherwise body

theorem elifSteps_tail (depth : Nat) (arms : List Branch)
    (each : ∀ b ∈ arms, ∀ s ∈ b.body, Scripted w s)
    (proceeds : ∀ t ∈ Branch.elifSteps depth arms, t.proceeds = true)
    {rest : List Step} {otherwise : List Event} (tail : Tail w depth rest [] otherwise) :
    Tail w depth (Branch.elifSteps depth arms ++ rest) (Branch.cases w (·.getD "None") arms) otherwise := by
  induction arms with
  | nil => exact tail
  | cons b arms ih =>
    obtain ⟨first, others⟩ := List.forall_mem_cons.mp each
    cases b with
    | mk test body line =>
      rw [Branch.elifSteps, List.forall_mem_cons, List.forall_mem_append] at proceeds
      have inner := listSteps_script (depth + deeper) body first proceeds.2.1
      rw [Branch.elifSteps, List.cons_append, List.append_assoc]
      exact .elif (test.getD "None") inner (ih others proceeds.2.2)

theorem armSteps_cases (depth : Nat) (keyword subject expr : String) (line : Option Line) :
    (∃ code message help, armSteps depth keyword subject line (some expr) =
      [.warn code message help line, .emit depth (tag (keyword ++ " " ++ armTest subject (some expr)))]) ∨
    armSteps depth keyword subject line (some expr) =
      [.emit depth (tag (keyword ++ " " ++ armTest subject (some expr)))] := by
  cases found : inListValues? expr with
  | none =>
    refine .inl ⟨.badArm, Code.badArm.message [("expr", expr)],
      "the whole expression is used as the value list", ?_⟩
    simp [armSteps, armTest, found, String.append_assoc]
  | some values => exact .inr (by simp [armSteps, armTest, found, String.append_assoc])

theorem whenSteps_tail (depth : Nat) (subject : String) (arms : List Branch)
    (each : ∀ b ∈ arms, ∀ s ∈ b.body, Scripted w s)
    (proceeds : ∀ t ∈ Branch.whenSteps depth "elif" subject arms, t.proceeds = true)
    {rest : List Step} {otherwise : List Event} (tail : Tail w depth rest [] otherwise) :
    Tail w depth (Branch.whenSteps depth "elif" subject arms ++ rest)
      (Branch.cases w (armTest subject) arms) otherwise := by
  induction arms with
  | nil => exact tail
  | cons b arms ih =>
    obtain ⟨first, others⟩ := List.forall_mem_cons.mp each
    match b with
    -- Without a test the steps would stop.
    | .mk none body line => simp [Branch.whenSteps, armSteps, Step.proceeds] at proceeds
    | .mk (some expr) body line =>
      rw [Branch.whenSteps, List.forall_mem_append, List.forall_mem_append] at proceeds
      have inner := listSteps_script (depth + deeper) body first proceeds.1.2
      have here := Tail.elif (armTest subject (some expr)) inner (ih others proceeds.2)
      rw [Branch.whenSteps, List.append_assoc, List.append_assoc]
      rcases armSteps_cases depth "elif" subject expr line with ⟨code, message, help, shape⟩ | shape
      · rw [shape]
        exact .warned code message help line here
      · rw [shape]
        exact here

theorem whenSteps_script (depth : Nat) (subject : String) (head : Branch) (arms : List Branch)
    (each : ∀ b ∈ head :: arms, ∀ s ∈ b.body, Scripted w s)
    (proceeds : ∀ t ∈ Branch.whenSteps depth "if" subject (head :: arms), t.proceeds = true)
    {rest : List Step} {otherwise : List Event} (tail : Tail w depth rest [] otherwise) :
    Script w depth (Branch.whenSteps depth "if" subject (head :: arms) ++ rest)
      ((w.first (Branch.cases w (armTest subject) (head :: arms))).getD otherwise) := by
  obtain ⟨first, others⟩ := List.forall_mem_cons.mp each
  match head with
  | .mk none body line => simp [Branch.whenSteps, armSteps, Step.proceeds] at proceeds
  | .mk (some expr) body line =>
    rw [Branch.whenSteps, List.forall_mem_append, List.forall_mem_append] at proceeds
    have inner := listSteps_script (depth + deeper) body first proceeds.1.2
    have here := Script.choice (armTest subject (some expr)) inner
      (whenSteps_tail depth subject arms others proceeds.2 tail)
    rw [Branch.whenSteps, List.append_assoc, List.append_assoc]
    rcases armSteps_cases depth "if" subject expr line with ⟨code, message, help, shape⟩ | shape
    · rw [shape]
      exact .append (.warn depth code message help line) here
    · rw [shape]
      exact here

theorem bindings_script (depth column : Nat) (targets : List Target)
    (proceeds : ∀ t ∈ bindings depth column targets, t.proceeds = true) :
    Script w depth (bindings depth column targets) (targets.mapIdx fun k target =>
      .line (tag ("set " ++ target.text ++ " = results.columns[" ++ natText (column + k) ++
        "].values()[0]"))) := by
  induction targets generalizing column with
  | nil => exact .nil depth
  | cons target rest ih =>
    cases target with
    | named name =>
      rw [bindings, List.forall_mem_cons] at proceeds
      have plain : Plain (tag ("set " ++ name ++ " = results.columns[" ++ natText column ++
          "].values()[0]")) := plain_tag (c := 's') (by simp) (by decide)
      have head := Script.plain (w := w) depth plain
      have tail := ih (column + 1) proceeds.2
      simpa [List.mapIdx_cons, Target.text, bindings, Nat.add_assoc, Nat.add_comm 1]
        using Script.append head tail
    | broken m => simp [bindings, Step.proceeds] at proceeds

theorem forQuery_scripted (executes : w.holds "execute" = true) (query : Option String) (body : List Statement)
    (line : Option Line) (inner : ∀ s ∈ body, Scripted w s) : Scripted w (.forQuery query body line) := by
  intro depth proceeds
  cases query with
  | none => simp [Statement.steps, required, Step.proceeds] at proceeds
  | some q =>
    simp only [Statement.steps, required, List.forall_mem_cons, List.forall_mem_append] at proceeds
    have nested := listSteps_script (depth + deeper + deeper) body inner proceeds.2.2.2.1
    have line : Plain (tag ("set records = run_query(" ++ literal (Text.strip q) ++ ")")) :=
      plain_tag (c := 's') (by simp) (by decide)
    have whole := Script.loop line (by simp [isQueryLine, tag]) nested
    simpa [Statement.steps, required, Statement.events, World.first, executes] using whole

theorem into_script (executes : w.holds "execute" = true) (depth : Nat) (sql : String) (targets : List Target)
    (proceeds : ∀ t ∈ executeSteps depth sql (some targets), t.proceeds = true) :
    Script w depth (executeSteps depth sql (some targets))
      (.line (tag ("set results = run_query(" ++ literal sql ++ ")")) :: targets.mapIdx fun column target =>
        .line (tag ("set " ++ target.text ++ " = results.columns[" ++ natText column ++ "].values()[0]"))) := by
  simp only [executeSteps, List.forall_mem_cons, List.forall_mem_append] at proceeds
  have plain : Plain (tag ("set results = run_query(" ++ literal sql ++ ")")) :=
    plain_tag (c := 's') (by simp) (by decide)
  have nested := bindings_script (w := w) (depth + deeper) 0 targets proceeds.2.2.1
  have guarded := Script.choice "execute" nested (.close depth)
  simpa [executeSteps, World.first, executes] using Script.append (.plain depth plain) guarded

theorem execute_scripted (executes : w.holds "execute" = true) (query : Option String)
    (into : Option (List Target)) (line : Option Line)
    (untagged : (Statement.execute query into line).untagged = true) : Scripted w (.execute query into line) := by
  intro depth proceeds
  cases query with
  | none => simp [Statement.steps, required, Step.proceeds] at proceeds
  | some q =>
    cases into with
    | none =>
      simp only [Statement.untagged, Bool.not_eq_true'] at untagged
      exact .call depth .exec (plain_query q untagged)
    | some targets => exact into_script executes depth (Text.strip q) targets proceeds

theorem dynamic_scripted (query : Option String) (line : Option Line)
    (untagged : (Statement.dynamic query line).untagged = true) : Scripted w (.dynamic query line) := by
  intro depth proceeds
  cases query with
  | none => simp [Statement.steps, required, Step.proceeds] at proceeds
  | some q =>
    simp only [Statement.untagged, Bool.not_eq_true'] at untagged
    simp only [Statement.steps, required, dynamicSteps, Statement.events, Option.getD_some,
      Text.contains_truncate, Text.contains_insert]
    split
    · exact .plain depth (plain_printed _)
    · split
      · exact .plain depth (plain_printed _)
      · exact .call depth .dyn (plain_query q untagged)

theorem choose_scripted (test : Option String) (body : List Statement) (arms : List Branch)
    (otherwise : Option (List Statement)) (line : Option Line) (inBody : ∀ s ∈ body, Scripted w s)
    (inArms : ∀ b ∈ arms, ∀ s ∈ b.body, Scripted w s) (inElse : ∀ s ∈ otherwise.getD [], Scripted w s) :
    Scripted w (.choose test body arms otherwise line) := by
  intro depth proceeds
  cases test with
  | none => simp [Statement.steps, required, Step.proceeds] at proceeds
  | some t =>
    simp only [Statement.steps, required, List.forall_mem_cons, List.forall_mem_append] at proceeds ⊢
    obtain ⟨-, ⟨⟨goBody, goArms⟩, goElse⟩, -⟩ := proceeds
    have nested := listSteps_script (depth + deeper) body inBody goBody
    have tests := elifSteps_tail depth arms inArms goArms (elseSteps_tail depth otherwise inElse goElse)
    have whole := Script.choice t nested tests
    simpa only [Statement.events, Option.getD_some, List.append_assoc] using whole

theorem selectElse_tail (depth : Nat) (hasElse : Bool) (otherwise : List Statement)
    (inner : ∀ s ∈ otherwise, Scripted w s)
    (proceeds : ∀ t ∈ (if hasElse then .emit depth (tag "else") :: Statement.listSteps (depth + deeper) otherwise
      else []), t.proceeds = true) :
    Tail w depth ((if hasElse then .emit depth (tag "else") :: Statement.listSteps (depth + deeper) otherwise
      else []) ++ [.emit depth (tag "endif")]) [] (if hasElse then Statement.listEvents w otherwise else []) := by
  cases hasElse with
  | false => exact .close depth
  | true =>
    simp only [if_true, List.forall_mem_cons] at proceeds ⊢
    exact .otherwise (listSteps_script (depth + deeper) otherwise inner proceeds.2)

theorem select_scripted (subject : Option String) (arms : List Branch) (hasElse : Bool)
    (otherwise : List Statement) (line : Option Line) (inArms : ∀ b ∈ arms, ∀ s ∈ b.body, Scripted w s)
    (inElse : ∀ s ∈ otherwise, Scripted w s) : Scripted w (.select subject arms hasElse otherwise line) := by
  intro depth proceeds
  cases subject with
  | none => simp [Statement.steps, required, Step.proceeds] at proceeds
  | some t =>
    cases arms with
    | nil =>
      cases hasElse with
      | false =>
        simpa [Statement.steps, required, Statement.events, Branch.cases, World.first] using .nil depth
      | true =>
        simp only [Statement.steps, required, if_true] at proceeds ⊢
        simpa [Statement.events, Branch.cases, World.first] using listSteps_script depth otherwise inElse proceeds
    | cons head arms =>
      simp only [Statement.steps, required, List.forall_mem_append] at proceeds ⊢
      obtain ⟨⟨goArms, goElse⟩, -⟩ := proceeds
      rw [List.append_assoc]
      exact whenSteps_script depth (Text.strip t) head arms inArms goArms
        (selectElse_tail depth hasElse otherwise inElse goElse)

theorem steps_scripted (executes : w.holds "execute" = true) (s : Statement)
    (untagged : s.all Statement.untagged = true) : Scripted w s := by
  induction s with
  | raise message level line =>
    intro depth proceeds
    cases message with
    | none => simp [Statement.steps, required, Step.proceeds] at proceeds
    | some m => exact .plain depth (plain_raise level m)
  | forQuery query body line inner =>
    simp only [Statement.all, Bool.and_eq_true, Statement.listAll_iff] at untagged
    exact forQuery_scripted executes query body line (fun s member => inner s member (untagged.2 s member))
  | ret expr line =>
    intro depth proceeds
    exact .plain depth (plain_return expr)
  | retNext line =>
    intro depth proceeds
    exact .plain depth (plain_tag (c := 'd') (by simp) (by decide))
  | block body line inner =>
    intro depth proceeds
    simp only [Statement.all, Bool.and_eq_true, Statement.listAll_iff] at untagged
    exact listSteps_script depth body (fun s member => inner s member (untagged.2 s member)) proceeds
  | execute query into line => exact execute_scripted executes query into line untagged
  | dynamic query line => exact dynamic_scripted query line untagged
  | assign expr line =>
    intro depth proceeds
    cases expr with
    | none => simp [Statement.steps, required, Step.proceeds] at proceeds
    | some e =>
      simp only [Statement.steps, required, assignSteps, Statement.events, Option.getD_some]
      cases Assignment.find? (Text.strip e) with
      | none => exact .warn depth _ _ _ line
      | some a => exact .plain depth (plain_tag (c := 's') (by simp) (by decide))
  | choose test body arms otherwise line inBody inArms inElse =>
    simp only [Statement.all, Bool.and_eq_true, Statement.listAll_iff, Statement.branchAll_iff,
      Statement.optionAll_iff] at untagged
    obtain ⟨⟨⟨-, cleanBody⟩, cleanArms⟩, cleanElse⟩ := untagged
    exact choose_scripted test body arms otherwise line (fun s member => inBody s member (cleanBody s member))
      (fun b member s inside => inArms b member s inside (cleanArms b member s inside))
      (fun s member => inElse s member (cleanElse s member))
  | select subject arms hasElse otherwise line inArms inElse =>
    simp only [Statement.all, Bool.and_eq_true, Statement.listAll_iff, Statement.branchAll_iff] at untagged
    obtain ⟨⟨-, cleanArms⟩, cleanElse⟩ := untagged
    exact select_scripted subject arms hasElse otherwise line
      (fun b member s inside => inArms b member s inside (cleanArms b member s inside))
      (fun s member => inElse s member (cleanElse s member))
  | unknown kind line =>
    intro depth proceeds
    exact .append (.warn depth _ _ _ line) (.comment depth _)
  | broken misfit =>
    intro depth proceeds
    simp [Statement.steps, Step.proceeds] at proceeds

end Jinja
end PgJinja
