import PgJinja.Compilation
import PgJinja.Proofs.Positions
import PgJinja.Proofs.Reading
import PgJinja.Proofs.Templates

/-! What is reported about a tree: a warning belongs to each place that is translated with a loss. -/
namespace PgJinja

open Jinja

/-- What is lost in a tree with a number of functions, of which the first has this body. -/
def treeFindings (count : Nat) (body : List Statement) : List Finding :=
  (if 1 < count then [.functions count] else []) ++ findings (Statement.listPositions body)

theorem severalFunctions_eq (file : String) (count : Nat) :
    severalFunctions file count = (Finding.functions count).diagnostic file :=
  rfl

theorem compileAll_warnings {room : Nat} {body : List Statement} {ids : Ids} {file : String} {out : Output}
    (carried : compileAll room body 2 ids file = (out, none)) :
    out.diagnostics = reported file (Statement.listPositions body) := by
  have follows := Statement.statements_follow file 0 body
  rw [Output.run_ok carried, ← (follows.proceeding (Output.run_proceeds carried)).1]
  rfl

section

variable {room : Nat} {entry tree : Json} {name : String} {ids : Ids} {c : Compilation}

theorem compileEntry_reports {file : String} {earlier : List Diagnostic}
    (made : (compileEntry room entry name file ids earlier).result = .ok c) :
    Raw.procedure (some file) name entry = .ok c.procedure ∧
      ∃ left text, ∀ raised, compileEntry room entry name file ids raised =
        ⟨left, raised ++ reported file (Statement.listPositions c.procedure.body), .ok ⟨name, text, c.procedure,
          raised ++ reported file (Statement.listPositions c.procedure.body), none⟩⟩ := by
  cases read : Raw.procedure (some file) name entry with
  | error failure =>
    rw [compileEntry, read] at made
    cases made
  | ok procedure =>
    simp only [compileEntry, read] at made ⊢
    cases assembled : template room procedure.name procedure.locals procedure.body ids file with
    | mk out text =>
      rw [assembled] at made
      cases text with
      | error failure => cases made
      | ok text =>
        cases made
        rw [← compileAll_warnings (template_ok assembled).1]
        exact ⟨rfl, out.ids, text, fun raised => rfl⟩

theorem compileTree_entries (room : Nat) (entry : Json) (others : List Json) (name : String) (file : Option String)
    (ids : Ids) :
    compileTree room (.arr (entry :: others)) name file ids =
      compileEntry room entry name (sourceName name file) ids
        (if 1 < others.length + 1 then [severalFunctions (sourceName name file) (others.length + 1)] else []) :=
  rfl

theorem firstEntry_ok {count : Nat} (first : firstEntry tree = .ok (count, .ok entry)) :
    (∃ others, tree = .arr (entry :: others)) ∨ ∃ s, entry = .str s := by
  cases tree with
  | arr items =>
    cases items with
    | nil => cases first
    | cons v others =>
      cases first
      exact .inl ⟨others, rfl⟩
  | str s =>
    simp only [firstEntry] at first
    split at first
    · cases first
      exact .inr ⟨_, rfl⟩
    · cases first
  | _ => cases first

theorem compileTree_ok {file : Option String} (made : (compileTree room tree name file ids).result = .ok c) :
    ∃ entry others, tree = .arr (entry :: others) := by
  simp only [compileTree] at made
  split at made
  · cases made
  · split at made
    · cases made
    · rename_i count entry first
      cases entry with
      | error m => cases made
      | ok entry =>
        obtain ⟨read, -⟩ := compileEntry_reports made
        -- A text has a first entry as well, but no function is read from a character.
        rcases firstEntry_ok first with listed | ⟨s, rfl⟩
        · exact ⟨entry, listed⟩
        · cases read

end

/-- A compilation that succeeds reports that there are several functions, if there are, and then exactly what is
lost at the places of the body, from left to right. The message names the lost text. The entries after the first one
show in the report on their number only. -/
theorem compileTree_warnings {room : Nat} {tree : Json} {name : String} {file : Option String} {ids : Ids}
    {c : Compilation} (made : (compileTree room tree name file ids).result = .ok c) :
    ∃ entry others, tree = .arr (entry :: others) ∧
      Raw.procedure (some (sourceName name file)) name entry = .ok c.procedure ∧
      c.diagnostics =
        (treeFindings (others.length + 1) c.procedure.body).map (Finding.diagnostic (sourceName name file)) ∧
      (∀ f : Finding, f.subject.toList <:+: (f.diagnostic (sourceName name file)).message.toList) ∧
      ∀ more : List Json,
        let raised :=
          (treeFindings (more.length + 1) c.procedure.body).map (Finding.diagnostic (sourceName name file))
        compileTree room (.arr (entry :: more)) name file ids =
          ⟨(compileTree room tree name file ids).ids, raised, .ok { c with diagnostics := raised }⟩ := by
  obtain ⟨entry, others, rfl⟩ := compileTree_ok made
  obtain ⟨read, left, text, reports⟩ := compileEntry_reports made
  have shown (more : List Json) :
      (if 1 < more.length + 1 then [severalFunctions (sourceName name file) (more.length + 1)] else []) ++
          reported (sourceName name file) (Statement.listPositions c.procedure.body) =
        (treeFindings (more.length + 1) c.procedure.body).map (Finding.diagnostic (sourceName name file)) := by
    rw [treeFindings, List.map_append, severalFunctions_eq]
    split <;> rfl
  have outcome (more : List Json) := (compileTree_entries room entry more name file ids).trans (reports _)
  simp only [shown] at outcome
  rw [outcome] at made
  refine ⟨entry, others, rfl, read, ?_, Finding.subject_in_message, ?_⟩
  · exact (congrArg Compilation.diagnostics (Except.ok.inj made)).symm
  · intro more
    rw [outcome, outcome, ← Except.ok.inj made]

theorem compileTree_warnings_case :
    let wrapped (query : String) : Json := .obj [(Raw.expressionKey, .obj [("query", .str query)])]
    let assign : Json := .obj [(Kind.assign.tag, .obj [("lineno", .int 6), ("expr", wrapped " total ")])]
    let tree : Json := .arr [.obj [(Raw.functionKey, .obj [("action", .obj [(Kind.block.tag, .obj [("body", .arr [
      .obj [(Kind.choose.tag, .obj [("cond", wrapped "a"),
        ("else_body", .arr [.obj [("PLpgSQL_stmt_perform", .null)], .arr [.int 0]])])],
      .obj [(Kind.select.tag, .obj [("t_expr", wrapped "x"),
        ("case_when_list", .arr [.obj [(Raw.whenKey, .obj [("lineno", .int 5), ("expr", wrapped "x = 1"),
          ("stmts", .arr [assign])])]]),
        ("else_stmts", .arr [assign])])]])])])])], .null]
    ∃ c, (compileTree 80 tree "m" (some "f.sql") ⟨0⟩).result = .ok c ∧
      c.diagnostics = [Finding.functions 2, .kind "PLpgSQL_stmt_perform" none, .kind "0" none,
        .arm "x = 1" (some (.number 5)), .assignment "total" (some (.number 6))].map (Finding.diagnostic "f.sql") := by
  intro wrapped assign tree
  obtain ⟨c, made, same⟩ : ∃ c, (compileTree 80 tree "m" (some "f.sql") ⟨0⟩).result = .ok c ∧
      treeFindings 2 c.procedure.body = [.functions 2, .kind "PLpgSQL_stmt_perform" none, .kind "0" none,
        .arm "x = 1" (some (.number 5)), .assignment "total" (some (.number 6))] := ⟨_, rfl, rfl⟩
  obtain ⟨entry, others, split, -, reports, -⟩ := compileTree_warnings made
  have rest : [Json.null] = others := (List.cons.inj (Json.arr.inj split)).2
  subst rest
  rw [← same]
  exact ⟨c, made, reports⟩

end PgJinja
