import PgJinja.Proofs.Run
import PgJinja.Proofs.Text

/-! Normal forms. Blocks only group statements, an alternative may never be taken, and blanks at the ends of
a text do not count: statements that differ in nothing else compile to the same template. -/
namespace PgJinja

open Jinja

def returned : Option String → Option String
  | none => none
  | some expr => if Text.strip expr = "" then none else some (Text.strip expr)

mutual
def Statement.normalize : Statement → List Statement
  | .forQuery query body line => [.forQuery (query.map Text.strip) (Statement.normalizeAll body) line]
  | .ret expr line => [.ret (returned expr) line]
  | .block body _ => Statement.normalizeAll body
  | .execute query into line => [.execute (query.map Text.strip) into line]
  | .dynamic query line => [.dynamic (query.map Text.strip) line]
  | .assign expr line => [.assign (expr.map Text.strip) line]
  | .choose test body arms otherwise line =>
    [.choose test (Statement.normalizeAll body) (Branch.normalizeAll arms)
      (Statement.normalizeElse otherwise) line]
  | .select subject arms hasElse otherwise line =>
    let alternative := if hasElse then Statement.normalizeAll otherwise else []
    match arms with
    | [] => alternative
    | _ :: _ => [.select (subject.map Text.strip) (Branch.normalizeAll arms) hasElse alternative line]
  | s => [s]
def Statement.normalizeAll : List Statement → List Statement
  | [] => []
  | s :: rest => Statement.normalize s ++ Statement.normalizeAll rest
/-- An alternative that has statements is kept, as an empty block if nothing is left of them. -/
def Statement.normalizeElse : Option (List Statement) → Option (List Statement)
  | none => none
  | some [] => none
  | some (s :: rest) =>
    match Statement.normalize s ++ Statement.normalizeAll rest with
    | [] => some [.block [] none]
    | body => some body
def Branch.normalizeAll : List Branch → List Branch
  | [] => []
  | .mk test body line :: rest =>
    .mk test (Statement.normalizeAll body) line :: Branch.normalizeAll rest
end

namespace Statement

def isBlock : Statement → Bool
  | block .. => true
  | _ => false

def flat (statements : List Statement) : Bool := statements.all (!·.isBlock)

def bare (text : Option String) : Bool := text.all fun t => Text.strip t == t

/-- Whether a statement is in normal form, apart from the statements in it. A block is left only where it is
empty and the whole alternative of a conditional. -/
def normal : Statement → Bool
  | forQuery query body _ => bare query && flat body
  | ret expr _ => bare expr && expr != some ""
  | block body _ => body.isEmpty
  | execute query _ _ | dynamic query _ => bare query
  | assign expr _ => bare expr
  | choose _ body arms otherwise _ =>
    flat body && arms.all (flat ·.body) && otherwise.all fun alternative =>
      alternative matches [block [] _] || !alternative.isEmpty && flat alternative
  | select subject arms hasElse otherwise _ =>
    bare subject && !arms.isEmpty && arms.all (flat ·.body) && flat otherwise &&
      (hasElse || otherwise.isEmpty)
  | _ => true

theorem bare_strip (text : Option String) : bare (text.map Text.strip) = true := by
  cases text with
  | none => rfl
  | some t => simp [bare, Text.strip_strip]

theorem bare_returned (expr : Option String) :
    (bare (returned expr) && returned expr != some "") = true := by
  cases expr with
  | none => rfl
  | some e =>
    by_cases empty : Text.strip e = ""
    · simp [returned, empty, bare]
    · simp [returned, empty, bare, Text.strip_strip]

structure Tidy (s : Statement) : Prop where
  free : s.isBlock = false
  deep : s.all normal = true

theorem flat_of_tidy {statements : List Statement} (tidy : ∀ s ∈ statements, s.Tidy) :
    flat statements = true := by
  rw [flat, List.all_eq_true]
  intro s member
  simp [(tidy s member).free]

theorem listAll_of_tidy {statements : List Statement} (tidy : ∀ s ∈ statements, s.Tidy) :
    listAll normal statements = true := by
  rw [listAll_iff]
  exact fun s member => (tidy s member).deep

theorem branches_of_tidy {arms : List Branch} (tidy : ∀ b ∈ arms, ∀ s ∈ b.body, s.Tidy) :
    arms.all (flat ·.body) = true ∧ Branch.listAll normal arms = true := by
  rw [List.all_eq_true, branchAll_iff]
  exact ⟨fun b member => flat_of_tidy (tidy b member), fun b member s inside => (tidy b member s inside).deep⟩

theorem normalizeAll_tidy (statements : List Statement)
    (each : ∀ s ∈ statements, ∀ t ∈ s.normalize, t.Tidy) : ∀ t ∈ normalizeAll statements, t.Tidy := by
  induction statements with
  | nil => simp [normalizeAll]
  | cons s rest ih =>
    obtain ⟨first, others⟩ := List.forall_mem_cons.mp each
    rw [normalizeAll, List.forall_mem_append]
    exact ⟨first, ih others⟩

theorem branches_tidy (arms : List Branch)
    (each : ∀ b ∈ arms, ∀ s ∈ b.body, ∀ t ∈ s.normalize, t.Tidy) :
    ∀ b ∈ Branch.normalizeAll arms, ∀ t ∈ b.body, t.Tidy := by
  induction arms with
  | nil => simp [Branch.normalizeAll]
  | cons b rest ih =>
    obtain ⟨first, others⟩ := List.forall_mem_cons.mp each
    cases b with
    | mk test body line =>
      rw [Branch.normalizeAll, List.forall_mem_cons]
      exact ⟨normalizeAll_tidy body first, ih others⟩

theorem normalizeElse_cases (body : List Statement) :
    body = [] ∧ normalizeElse (some body) = none ∨
      body ≠ [] ∧ normalizeAll body = [] ∧ normalizeElse (some body) = some [.block [] none] ∨
      normalizeAll body ≠ [] ∧ normalizeElse (some body) = some (normalizeAll body) := by
  cases body with
  | nil => exact .inl ⟨rfl, rfl⟩
  | cons s rest =>
    right
    rw [normalizeElse, normalizeAll]
    cases normalize s ++ normalizeAll rest with
    | nil => exact .inl ⟨by simp, rfl, rfl⟩
    | cons t others => exact .inr ⟨by simp, rfl⟩

theorem normalize_tidy (s : Statement) : ∀ t ∈ s.normalize, t.Tidy := by
  induction s with
  | raise message level line => simpa [normalize] using ⟨rfl, rfl⟩
  | forQuery query body line inner =>
    have tidy := normalizeAll_tidy body inner
    simp only [normalize, List.forall_mem_singleton]
    refine ⟨rfl, ?_⟩
    simp [all, normal, bare_strip, flat_of_tidy tidy, listAll_of_tidy tidy]
  | ret expr line =>
    simp only [normalize, List.forall_mem_singleton]
    exact ⟨rfl, bare_returned expr⟩
  | retNext line => simpa [normalize] using ⟨rfl, rfl⟩
  | block body line inner =>
    rw [normalize]
    exact normalizeAll_tidy body inner
  | execute query into line =>
    simp only [normalize, List.forall_mem_singleton]
    exact ⟨rfl, bare_strip query⟩
  | dynamic query line =>
    simp only [normalize, List.forall_mem_singleton]
    exact ⟨rfl, bare_strip query⟩
  | assign expr line =>
    simp only [normalize, List.forall_mem_singleton]
    exact ⟨rfl, bare_strip expr⟩
  | choose test body arms otherwise line inBody inArms inElse =>
    have tidyBody := normalizeAll_tidy body inBody
    obtain ⟨flatArms, deepArms⟩ := branches_of_tidy (branches_tidy arms inArms)
    simp only [normalize, List.forall_mem_singleton]
    refine ⟨rfl, ?_⟩
    simp only [all, normal, flat_of_tidy tidyBody, listAll_of_tidy tidyBody, flatArms, deepArms,
      Bool.true_and, Bool.and_true, Bool.and_eq_true]
    cases otherwise with
    | none => exact ⟨rfl, rfl⟩
    | some alternative =>
      have tidyElse := normalizeAll_tidy alternative inElse
      rcases normalizeElse_cases alternative with ⟨-, gone⟩ | ⟨-, -, kept⟩ | ⟨left, kept⟩
      · simp [gone, optionAll]
      · simp [kept, optionAll, listAll, all, normal]
      · simp [kept, optionAll, left, flat_of_tidy tidyElse, listAll_of_tidy tidyElse]
  | select subject arms hasElse otherwise line inArms inElse =>
    have tidyElse : ∀ t ∈ (if hasElse then normalizeAll otherwise else []), t.Tidy := by
      cases hasElse with
      | false => simp
      | true => exact normalizeAll_tidy otherwise inElse
    have last : (hasElse || (if hasElse then normalizeAll otherwise else []).isEmpty) = true := by
      cases hasElse <;> rfl
    cases arms with
    | nil => simpa only [normalize] using tidyElse
    | cons b rest =>
      obtain ⟨flatArms, deepArms⟩ := branches_of_tidy (branches_tidy (b :: rest) inArms)
      have some : (Branch.normalizeAll (b :: rest)).isEmpty = false := by
        cases b with
        | mk test body line => rfl
      simp only [normalize, List.forall_mem_singleton]
      refine ⟨rfl, ?_⟩
      simp [all, normal, bare_strip, some, flatArms, deepArms, flat_of_tidy tidyElse,
        listAll_of_tidy tidyElse, last]
  | unknown kind line => simpa [normalize] using ⟨rfl, rfl⟩
  | broken misfit => simpa [normalize] using ⟨rfl, rfl⟩

theorem listSteps_append (depth : Nat) (first second : List Statement) :
    listSteps depth (first ++ second) = listSteps depth first ++ listSteps depth second := by
  induction first with
  | nil => rfl
  | cons s rest ih => simp [listSteps, ih]

theorem elseSteps_some (depth : Nat) {body : List Statement} (occupied : body ≠ []) :
    elseSteps depth (some body) = .emit depth (Jinja.tag "else") :: listSteps (depth + deeper) body := by
  cases body with
  | nil => contradiction
  | cons s rest => rw [elseSteps, listSteps]

theorem listSteps_normalizeAll (depth : Nat) (statements : List Statement)
    (each : ∀ s ∈ statements, ∀ depth, listSteps depth s.normalize = s.steps depth) :
    listSteps depth (normalizeAll statements) = listSteps depth statements := by
  induction statements with
  | nil => rfl
  | cons s rest ih =>
    obtain ⟨first, others⟩ := List.forall_mem_cons.mp each
    rw [normalizeAll, listSteps_append, first, ih others, listSteps]

theorem elseSteps_normalizeElse (depth : Nat) (otherwise : Option (List Statement))
    (each : ∀ s ∈ otherwise.getD [], ∀ depth, listSteps depth s.normalize = s.steps depth) :
    elseSteps depth (normalizeElse otherwise) = elseSteps depth otherwise := by
  cases otherwise with
  | none => rfl
  | some body =>
    have same := listSteps_normalizeAll (depth + deeper) body each
    rcases normalizeElse_cases body with ⟨empty, gone⟩ | ⟨occupied, nothing, kept⟩ | ⟨left, kept⟩
    · rw [gone, empty, elseSteps, elseSteps]
    · rw [kept, elseSteps_some depth occupied, ← same, nothing]
      rfl
    · have occupied : body ≠ [] := by
        rintro rfl
        exact left rfl
      rw [kept, elseSteps_some depth left, elseSteps_some depth occupied, same]

theorem elifSteps_normalizeAll (depth : Nat) (arms : List Branch)
    (each : ∀ b ∈ arms, ∀ s ∈ b.body, ∀ depth, listSteps depth s.normalize = s.steps depth) :
    Branch.elifSteps depth (Branch.normalizeAll arms) = Branch.elifSteps depth arms := by
  induction arms with
  | nil => rfl
  | cons b rest ih =>
    obtain ⟨first, others⟩ := List.forall_mem_cons.mp each
    cases b with
    | mk test body line =>
      rw [Branch.normalizeAll, Branch.elifSteps, Branch.elifSteps,
        listSteps_normalizeAll (depth + deeper) body first, ih others]

theorem whenSteps_normalizeAll (depth : Nat) (keyword subject : String) (arms : List Branch)
    (each : ∀ b ∈ arms, ∀ s ∈ b.body, ∀ depth, listSteps depth s.normalize = s.steps depth) :
    Branch.whenSteps depth keyword subject (Branch.normalizeAll arms) =
      Branch.whenSteps depth keyword subject arms := by
  induction arms generalizing keyword with
  | nil => rfl
  | cons b rest ih =>
    obtain ⟨first, others⟩ := List.forall_mem_cons.mp each
    cases b with
    | mk test body line =>
      rw [Branch.normalizeAll, Branch.whenSteps, Branch.whenSteps,
        listSteps_normalizeAll (depth + deeper) body first, ih "elif" others]

theorem returnCode_returned (expr : Option String) : returnCode (returned expr) = returnCode expr := by
  cases expr with
  | none => rfl
  | some e =>
    by_cases empty : Text.strip e = ""
    · simp [returned, returnCode, empty]
    · have given : e ≠ "" := by
        rintro rfl
        exact empty rfl
      simp [returned, returnCode, empty, given, Text.strip_strip]

theorem listSteps_normalize (s : Statement) (sound : s.all wellFormed = true) (depth : Nat) :
    listSteps depth s.normalize = s.steps depth := by
  induction s generalizing depth with
  | raise message level line => simp [normalize, listSteps]
  | forQuery query body line inner =>
    simp only [all, Bool.and_eq_true, listAll_iff] at sound
    cases query with
    | none => cases sound.1
    | some q =>
      have nested := listSteps_normalizeAll (depth + deeper + deeper) body
        (fun s member depth => inner s member (sound.2 s member) depth)
      simp [normalize, listSteps, steps, required, Text.strip_strip, nested]
  | ret expr line => simp [normalize, listSteps, steps, returnCode_returned]
  | retNext line => simp [normalize, listSteps]
  | block body line inner =>
    simp only [all, Bool.and_eq_true, listAll_iff] at sound
    rw [normalize, steps]
    exact listSteps_normalizeAll depth body (fun s member depth => inner s member (sound.2 s member) depth)
  | execute query into line =>
    cases query with
    | none => cases sound
    | some q => simp [normalize, listSteps, steps, required, Text.strip_strip]
  | dynamic query line =>
    cases query with
    | none => cases sound
    | some q => simp [normalize, listSteps, steps, required, Text.strip_strip]
  | assign expr line =>
    cases expr with
    | none => cases sound
    | some e => simp [normalize, listSteps, steps, required, Text.strip_strip]
  | choose test body arms otherwise line inBody inArms inElse =>
    simp only [all, Bool.and_eq_true, listAll_iff, branchAll_iff, optionAll_iff] at sound
    obtain ⟨⟨⟨here, soundBody⟩, soundArms⟩, soundElse⟩ := sound
    cases test with
    | none => cases here
    | some t =>
      have first := listSteps_normalizeAll (depth + deeper) body
        (fun s member depth => inBody s member (soundBody s member) depth)
      have further := elifSteps_normalizeAll depth arms
        (fun b member s inside depth => inArms b member s inside (soundArms b member s inside) depth)
      have last := elseSteps_normalizeElse depth otherwise
        (fun s member depth => inElse s member (soundElse s member) depth)
      simp [normalize, listSteps, steps, required, first, further, last]
  | select subject arms hasElse otherwise line inArms inElse =>
    simp only [all, wellFormed, Bool.and_eq_true, listAll_iff, branchAll_iff] at sound
    obtain ⟨⟨⟨here, -⟩, soundArms⟩, soundElse⟩ := sound
    have last (depth : Nat) := listSteps_normalizeAll depth otherwise
      (fun s member depth => inElse s member (soundElse s member) depth)
    cases subject with
    | none => cases here
    | some t =>
      cases arms with
      | nil =>
        -- Without a test there is no branch, so the alternative stands at the depth of the case itself.
        cases hasElse with
        | false => rfl
        | true => simpa [normalize, steps, required] using last depth
      | cons b rest =>
        have tests := whenSteps_normalizeAll depth "if" (Text.strip t) (b :: rest)
          (fun b member s inside depth => inArms b member s inside (soundArms b member s inside) depth)
        cases b with
        | mk test body line =>
          rw [Branch.normalizeAll] at tests
          cases hasElse with
          | false =>
            simp [normalize, Branch.normalizeAll, listSteps, steps, required, Text.strip_strip, tests]
          | true =>
            simp [normalize, Branch.normalizeAll, listSteps, steps, required, Text.strip_strip, tests,
              last (depth + deeper)]
  | unknown kind line => simp [normalize, listSteps]
  | broken misfit => cases sound

end Statement

namespace Jinja

/-- Statements and their normal form compile to the same lines, numbers and warnings, at every indentation.
Well-formed statements can be compiled unless they go beyond a limit. -/
theorem compileAll_normalizeAll (room : Nat) (statements : List Statement)
    (sound : Statement.listAll Statement.wellFormed statements = true) (indent : Int)
    (nonneg : 0 ≤ indent) (ids : Ids) (file : String) :
    (∀ s ∈ Statement.normalizeAll statements, s.Tidy) ∧
      compileAll room (Statement.normalizeAll statements) indent ids file =
        compileAll room statements indent ids file ∧
      ((compileAll room statements indent ids file).2 = none ∨
        Output.Exceeded room indent ids.value (Statement.listSteps 0 statements)
          (compileAll room statements indent ids file)) := by
  have proceeds := Statement.listSteps_proceed_of_sound statements sound 0
  rw [Statement.listAll_iff] at sound
  refine ⟨Statement.normalizeAll_tidy statements fun s _ => s.normalize_tidy, ?_, ?_⟩
  · have same := Statement.listSteps_normalizeAll 0 statements
      (fun s member => Statement.listSteps_normalize s (sound s member))
    rw [compileAll, compileAll, same]
  · refine (Output.run_nonneg room nonneg file (Statement.listSteps 0 statements) { ids := ids } proceeds).imp ?_ id
    intro carried
    rw [compileAll, carried]

theorem compileAll_normalizeAll_alternatives :
    let statements : List Statement :=
      [.block [.ret (some "  ") none] (some (.number 3)),
        .choose (some "a") [.block [.assign (some " x := 1 ") none] none] [.mk (some "b") [] none]
          (some [.select (some "y") [] false [.retNext none] none]) none,
        .select (some " z ") [.mk (some "z") [.execute (some " q ") none none] (some (.number 7))] false
          [.retNext none] none]
    let reduced : List Statement :=
      [.ret none none,
        .choose (some "a") [.assign (some "x := 1") none] [.mk (some "b") [] none] (some [.block [] none]) none,
        .select (some "z") [.mk (some "z") [.execute (some "q") none none] (some (.number 7))] false [] none]
    Statement.listAll Statement.wellFormed statements = true ∧
      Statement.normalizeAll statements = reduced ∧
      compileAll 80 reduced 4 ⟨2⟩ "f.sql" = compileAll 80 statements 4 ⟨2⟩ "f.sql" ∧
      (compileAll 80 statements 4 ⟨2⟩ "f.sql").2 = none := by
  intro statements reduced
  have sound : Statement.listAll Statement.wellFormed statements = true := by decide
  have normal : Statement.normalizeAll statements = reduced := by rfl
  obtain ⟨-, same, carried | ⟨limit, ended, -⟩⟩ :=
    compileAll_normalizeAll 80 statements sound 4 (by decide) ⟨2⟩ "f.sql"
  · rw [normal] at same
    exact ⟨sound, normal, same, carried⟩
  · have carried : (compileAll 80 statements 4 ⟨2⟩ "f.sql").2 = none := by decide +kernel
    cases carried.symm.trans ended

end Jinja
end PgJinja
