import PgJinja.Proofs.Positions

/-! Where a compilation ends. It goes through the places of the statements in order, and the first offence among them
is its failure; what was reported and numbered before stays. -/
namespace PgJinja

open Jinja

/-- A result that fails if there is an offence at one of the places, and then with the first one: the warnings are
those of the places before it, and so are the numbers that were taken. -/
structure EndsAtFirst (file : String) (start : Ids) (places : List Position) (result : Output × Option Failure) :
    Prop where
  fails : result.2.isSome = true ↔ ∃ p ∈ places, (p.offence? file).isSome = true
  first : ∀ (before : List Position) (p : Position) (after : List Position) (failure : Failure),
    places = before ++ p :: after → (∀ q ∈ before, q.offence? file = none) → p.offence? file = some failure →
      result.2 = some failure ∧
        result.1.diagnostics = (findings before).map (Finding.diagnostic file) ∧
        result.1.ids.value = start.value + (before.filterMap Position.execution?).length

namespace Jinja

theorem run_follows {file : String} {steps : List Step} {places : List Position} (follows : Follows file steps places)
    (room : Nat) {indent : Int} (nonneg : 0 ≤ indent) (start : Ids) :
    EndsAtFirst file start places (Output.run room file indent steps { ids := start }) ∨
      Output.Exceeded room indent start.value (steps.takeWhile Step.proceeds)
        (Output.run room file indent steps { ids := start }) := by
  unfold Follows at follows
  rw [course_steps] at follows
  rcases Output.run_reaches room nonneg file steps { ids := start } with carried | exceeded
  · left
    rw [carried]
    constructor
    · have ending : (fault? steps).map (Fault.failure file) = places.findSome? (·.offence? file) :=
        (congrArg Course.ending follows).trans course_ending
      simp only [ending, List.isSome_findSome?, List.any_eq_true]
    · intro before p after failure split fine offence
      rw [split, course_first fine offence] at follows
      injection follows with raised executions ending
      refine ⟨ending, raised, ?_⟩
      rw [Output.after, taken_eq_length, executions]
  · exact .inr exceeded

/-- Whatever the statements are, and wherever the numbers start: a compilation fails exactly if it comes to an offence,
and the first one is its failure. Only a limit can end it before: of the width of a line, or of the digits of a
number. -/
theorem compileAll_first_offence (room : Nat) (statements : List Statement) {indent : Int} (nonneg : 0 ≤ indent)
    (start : Ids) (file : String) :
    EndsAtFirst file start (Statement.listPositions statements) (compileAll room statements indent start file) ∨
      CompileExceeds room statements indent start file :=
  run_follows (Statement.statements_follow file 0 statements) room nonneg start

theorem compileAll_first_offence_branch :
    let dropped : Statement := .assign (some " total ") (some (.number 3))
    let drawn : Statement := .execute (some "delete from t ") none none
    let missing : Statement := .raise none 0 (some (.number 7))
    let choice : Statement :=
      .choose (some "a") [drawn] [.mk none [missing, drawn] none] (some [.broken (.notAStatement .null)]) none
    let result := compileAll 80 [dropped, choice] 2 ⟨4⟩ "f.sql"
    (0 : Int) ≤ 2 ∧ EndsAtFirst "f.sql" ⟨4⟩ (Statement.listPositions [dropped, choice]) result ∧
      result.2 = some (.refused ⟨.missing .node "PLpgSQL_stmt_raise" "message", some "f.sql", some (.number 7)⟩) ∧
      result.1.diagnostics = [(Finding.assignment "total" (some (.number 3))).diagnostic "f.sql"] ∧
      result.1.ids.value = 5 := by
  intro dropped drawn missing choice result
  have nonneg : (0 : Int) ≤ 2 := by decide
  have law : EndsAtFirst "f.sql" ⟨4⟩ (Statement.listPositions [dropped, choice]) result := by
    rcases compileAll_first_offence 80 [dropped, choice] nonneg ⟨4⟩ "f.sql" with law | ⟨limit, ended, -⟩
    · exact law
    · cases ended
  have before : ∀ q ∈ [Position.statement dropped, .statement choice, .statement drawn], q.offence? "f.sql" = none := by
    intro q member
    simp only [List.mem_cons, List.not_mem_nil, or_false] at member
    rcases member with rfl | rfl | rfl <;> rfl
  obtain ⟨failure, raised, counted⟩ := law.first _ (.statement missing) _ _ rfl before rfl
  exact ⟨nonneg, law, failure, raised.trans rfl, counted⟩

/-- At an indentation that no line can have, the first line ends the compilation before the missing message does. -/
theorem compileAll_first_offence_wide :
    ¬ ∃ room : Nat, ∀ (statements : List Statement) (indent : Int), 0 ≤ indent → ∀ (start : Ids) (file : String),
      EndsAtFirst file start (Statement.listPositions statements) (compileAll room statements indent start file) := by
  rintro ⟨room, law⟩
  let statements : List Statement := [.retNext none, .raise none 0 none]
  have ends := law statements 9223372036854775808 (by decide) ⟨0⟩ unnamedSource
  have before : ∀ q ∈ [Position.statement (.retNext none)], q.offence? unnamedSource = none := by
    intro q member
    cases List.mem_singleton.mp member
    rfl
  obtain ⟨missing, -⟩ := ends.first _ (.statement (.raise none 0 none)) _ _ rfl before rfl
  have wide : (compileAll room statements 9223372036854775808 ⟨0⟩ unnamedSource).2 =
      some (.exceeded (.columns 9223372036854775808)) :=
    congrArg Prod.snd (Output.run_wide (by decide) 0 _ _ _)
  rw [wide] at missing
  cases missing

end Jinja
end PgJinja
