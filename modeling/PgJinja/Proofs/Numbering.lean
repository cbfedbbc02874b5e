import Mathlib.Data.List.Forall2
import PgJinja.Compilation
import PgJinja.Proofs.Reading
import PgJinja.Proofs.Templates
import PgJinja.Proofs.Visits

/-! Compilations one after another. All of them draw from one sequence of numbers, in which none is left out
or used twice, also where some of the compilations fail. -/
namespace PgJinja

open Jinja

inductive Input where
  | tree (tree : Json)
  | source (text : String) (answer : ParserAnswer) (withDump : Bool)

structure Job where
  input : Input
  name : String
  file : Option String

def Job.run (room : Nat) (job : Job) (ids : Ids) : Outcome :=
  match job.input with
  | .tree tree => compileTree room tree job.name job.file ids
  | .source text answer withDump => compileSource room text answer job.name job.file ids withDump

structure Turn where
  job : Job
  start : Ids

namespace Turn

def outcome (room : Nat) (t : Turn) : Outcome := t.job.run room t.start

def executions (room : Nat) (t : Turn) : List Execution :=
  match (t.outcome room).result with
  | .ok c => Statement.listExecutions c.procedure.body
  | .error _ => []

/-- A job that succeeds takes a number for each anonymous execution of its procedure, and the call blocks in the body of
its text are these executions, named from the first of the numbers on. One that fails has no text and leaves the numbers
as they were, unless it goes beyond a limit. -/
def Settled (room : Nat) (t : Turn) (body : List String) : Prop :=
  match (t.outcome room).result with
  | .ok c =>
    let executions := Statement.listExecutions c.procedure.body
    (t.outcome room).ids.value = t.start.value + executions.length ∧
      c.text = Text.unlines (("\x7b% macro " ++ c.procedure.name ++ "() %\x7d") ::
        (c.procedure.locals.map
            (fun v => "  \x7b% set " ++ v.name ++ " = " ++ v.initial.getD "''" ++ " %\x7d") ++
          "" :: (body ++ ["\x7b% endmacro %\x7d"]))) ∧
      calls body = numbered t.start.value executions
  | .error (.exceeded _) => t.start.value ≤ (t.outcome room).ids.value ∧ body = []
  | .error _ => (t.outcome room).ids = t.start ∧ body = []

end Turn

/-- What a compilation can do: it fails and leaves the numbers alone, it goes beyond a limit, or it gives the template
of a procedure that is well formed in every part. -/
inductive Settles (room : Nat) (ids : Ids) (file : String) : Outcome → Prop where
  | failed (raised : List Diagnostic) (failure : Failure) : Settles room ids file ⟨ids, raised, .error failure⟩
  | exceeded (later : Ids) (raised : List Diagnostic) (limit : Limit) (forward : ids.value ≤ later.value) :
      Settles room ids file ⟨later, raised, .error (.exceeded limit)⟩
  | made (raised : List Diagnostic) (c : Compilation)
      (sound : Statement.listAll Statement.wellFormed c.procedure.body = true)
      (out : Output) (carried : compileAll room c.procedure.body 2 ids file = (out, none))
      (text : c.text = Text.unlines (header c.procedure.name ::
        (variableLines c.procedure.locals ++ "" :: (out.listing.lines ++ [footer])))) :
      Settles room ids file ⟨out.ids, raised, .ok c⟩

namespace Settles

variable {room : Nat} {ids : Ids} {file : String}

theorem forward {outcome : Outcome} (settles : Settles room ids file outcome) : ids.value ≤ outcome.ids.value := by
  cases settles with
  | failed raised failure => exact Int.le_refl _
  | exceeded later raised limit forward => exact forward
  | made raised c sound out carried text =>
    rw [Output.run_ok carried]
    exact Int.le_add_of_nonneg_right (Int.natCast_nonneg _)

end Settles

theorem template_forward (room : Nat) (name : String) (locals : List Variable) (body : List Statement) (ids : Ids)
    (file : String) : ids.value ≤ (template room name locals body ids file).1.ids.value := by
  have inside : ids.value ≤ (compileAll room body bodyIndent ids file).1.ids.value := by
    obtain ⟨lines, lost, advances, -⟩ : ∃ lines lost, Advances { ids := ids } _ lines lost ∧ _ :=
      Output.run_advances (Statement.listSteps 0 body) (listSteps_quiet 0 body)
    exact advances.le
  rw [template]
  split
  · exact Int.le_refl _
  · split <;> rename_i compiled <;> rw [compiled] at inside <;> exact inside

theorem compileEntry_settles (room : Nat) (entry : Json) (name file : String) (ids : Ids) (raised : List Diagnostic) :
    Settles room ids file (compileEntry room entry name file ids raised) := by
  unfold compileEntry
  split
  · exact .failed raised _
  · rename_i procedure read
    have sound := Raw.procedure_sound read
    have forward := template_forward room procedure.name procedure.locals procedure.body ids file
    rcases template_cases sound with ⟨out, text, made⟩ | ⟨limit, failed, -⟩
    · obtain ⟨carried, written⟩ := template_ok made
      rw [made]
      exact .made _ ⟨name, text, procedure, _, none⟩ sound out carried written
    · simp only [failed]
      exact .exceeded _ _ limit forward

theorem compileTree_settles (room : Nat) (tree : Json) (name : String) (file : Option String) (ids : Ids) :
    Settles room ids (sourceName name file) (compileTree room tree name file ids) := by
  simp only [compileTree]
  split
  · exact .failed [] _
  · split
    · exact .failed [] _
    · split
      · exact .failed _ _
      · exact compileEntry_settles room _ name _ ids _

theorem compileSource_settles (room : Nat) (source : String) (answer : ParserAnswer) (name : String)
    (file : Option String) (ids : Ids) (withDump : Bool) :
    Settles room ids (sourceName name file) (compileSource room source answer name file ids withDump) := by
  unfold compileSource
  split
  · exact .failed [] _
  · rename_i entries _
    have settles := compileTree_settles room (.arr entries) name file ids
    cases withDump with
    | false => exact settles
    | true =>
      simp only [if_true]
      have forward := settles.forward
      generalize compileTree room (.arr entries) name file ids = outcome at settles forward
      cases settles with
      | failed raised failure => exact .failed raised failure
      | exceeded later raised limit _ => exact .exceeded later raised limit forward
      | made raised c sound out carried text =>
        simp only [Except.bind, Compilation.withDump]
        split
        · rename_i dump _
          exact .made raised { c with dump := some dump } sound out carried text
        · exact .exceeded out.ids raised _ forward

theorem Job.run_settles (room : Nat) (job : Job) (ids : Ids) :
    Settles room ids (sourceName job.name job.file) (job.run room ids) := by
  unfold Job.run
  split
  · exact compileTree_settles room _ job.name job.file ids
  · exact compileSource_settles room _ _ job.name job.file ids _

namespace Turn

variable {room : Nat}

theorem settled (room : Nat) (t : Turn) : ∃ body, t.Settled room body := by
  have settles : Settles room t.start _ (t.outcome room) := t.job.run_settles room t.start
  unfold Settled
  generalize t.outcome room = outcome at settles
  cases settles with
  | failed raised failure =>
    refine ⟨[], ?_⟩
    cases failure with
    | exceeded limit => exact ⟨Int.le_refl _, rfl⟩
    | _ => exact ⟨rfl, rfl⟩
  | exceeded later raised limit forward => exact ⟨[], forward, rfl⟩
  | made raised c sound out carried text =>
    obtain rfl := Output.run_ok carried
    obtain ⟨count, named⟩ := after_numbered c.procedure.body sound (sourceName t.job.name t.job.file) 2 t.start
    rw [header_text, variableLines_text] at text
    exact ⟨_, count, text, named⟩

def Within (room : Nat) (t : Turn) : Prop := ∀ limit, (t.outcome room).result ≠ .error (.exceeded limit)

theorem Settled.counted {t : Turn} {body : List String} (settled : t.Settled room body) :
    calls body = numbered t.start.value (t.executions room) ∧
      t.start.value + (t.executions room).length ≤ (t.outcome room).ids.value ∧
      (t.Within room → (t.outcome room).ids.value = t.start.value + (t.executions room).length) := by
  unfold Settled at settled
  unfold executions Within
  generalize t.outcome room = outcome at settled
  match outcome with
  | ⟨ids, raised, .ok c⟩ =>
    obtain ⟨count, -, named⟩ := settled
    exact ⟨named, Int.le_of_eq count.symm, fun _ => count⟩
  | ⟨ids, raised, .error (.exceeded limit)⟩ =>
    obtain ⟨forward, rfl⟩ := settled
    exact ⟨rfl, by simpa using forward, fun within => absurd rfl (within limit)⟩
  | ⟨ids, raised, .error (.refused r)⟩ | ⟨ids, raised, .error (.misfit m)⟩ =>
    obtain ⟨rfl, rfl⟩ := settled
    exact ⟨rfl, by simp, by simp⟩

end Turn

section

variable {room : Nat} {start : Ids} {jobs : List Job} {bodies : List (List String)}

end

end PgJinja
