import Mathlib.Data.List.TakeWhile
import PgJinja.Jinja.Output
import PgJinja.Proofs.Tree

/-! What carrying out steps leaves behind. As long as no step stops and none goes beyond a limit, the lines, the
numbers and the warnings are those of the steps one after another. -/
namespace PgJinja

namespace Jinja

namespace Step

def taken : Step → Nat
  | call .. => 1
  | _ => 0

def lines (indent n : Int) : Step → List String
  | emit depth code => [indented (indent + depth).toNat code]
  | comment depth text => [indented (indent + depth).toNat (commentLine text)]
  | call depth series sql =>
    (Output.callLines (Ids.name series.text (n + 1)) sql).map (indented (indent + depth).toNat)
  | _ => []

def warnings (file : String) : Step → List Diagnostic
  | warn code message help line => [warning file code message help line]
  | _ => []

def proceeds : Step → Bool
  | stop _ => false
  | _ => true

def depth? : Step → Option Nat
  | emit depth _ | comment depth _ | call depth _ _ => some depth
  | _ => none

end Step

def taken : List Step → Nat
  | [] => 0
  | s :: rest => s.taken + taken rest

def written (indent n : Int) : List Step → List String
  | [] => []
  | s :: rest => s.lines indent n ++ written indent (n + s.taken) rest

theorem written_append (indent n : Int) (first second : List Step) :
    written indent n (first ++ second) =
      written indent n first ++ written indent (n + taken first) second := by
  induction first generalizing n with
  | nil => simp [written, taken]
  | cons s rest ih => simp [written, taken, ih, Int.add_assoc]

def fault? : List Step → Option Fault
  | [] => none
  | .stop fault :: _ => some fault
  | _ :: rest => fault? rest

theorem fault?_cons {s : Step} (proceeds : s.proceeds = true) (rest : List Step) :
    fault? (s :: rest) = fault? rest := by
  cases s with
  | stop fault => cases proceeds
  | _ => rfl

theorem fault?_eq_none {steps : List Step} (proceeds : ∀ s ∈ steps, s.proceeds = true) : fault? steps = none := by
  induction steps with
  | nil => rfl
  | cons s rest ih =>
    obtain ⟨first, others⟩ := List.forall_mem_cons.mp proceeds
    rw [fault?_cons first, ih others]

end Jinja

open Jinja

/-- Steps go beyond a limit: a number that they take after `start` is too long, or one of their lines is too wide. -/
def Limit.Hit (room : Nat) (indent start : Int) (steps : List Step) : Limit → Prop
  | .digits => ∃ n, start < n ∧ n ≤ start + taken steps ∧ isShort n = false
  | .columns width => min room maxIndex < width ∧ ∃ s ∈ steps, ∃ depth ∈ s.depth?, (width : Int) = indent + depth

namespace Limit.Hit

variable {room : Nat} {indent start : Int} {s : Step} {rest : List Step} {limit : Limit}

theorem first (hit : limit.Hit room indent start [s]) : limit.Hit room indent start (s :: rest) := by
  cases limit with
  | digits =>
    obtain ⟨n, above, below, long⟩ := hit
    refine ⟨n, above, ?_, long⟩
    simp only [taken] at below ⊢
    omega
  | columns width =>
    obtain ⟨wide, step, member, depth⟩ := hit
    rw [List.mem_singleton.mp member] at depth
    exact ⟨wide, s, List.mem_cons_self, depth⟩

theorem later (hit : limit.Hit room indent (start + s.taken) rest) : limit.Hit room indent start (s :: rest) := by
  cases limit with
  | digits =>
    obtain ⟨n, above, below, long⟩ := hit
    refine ⟨n, by omega, ?_, long⟩
    simp only [taken]
    omega
  | columns width =>
    obtain ⟨wide, step, member, depth⟩ := hit
    exact ⟨wide, step, List.mem_cons_of_mem s member, depth⟩

end Limit.Hit

namespace Jinja

theorem placed_ok {room : Nat} {indent : Int} {spaces : Nat} (fits : placed room indent = .ok spaces) :
    spaces = indent.toNat := by
  unfold placed at fits
  split at fits
  · cases fits
  · split at fits
    · cases fits
    · exact (Except.ok.inj fits).symm

theorem placed_nonneg (room : Nat) {indent : Int} (nonneg : 0 ≤ indent) :
    placed room indent = .ok indent.toNat ∨
      min room maxIndex < indent.toNat ∧ placed room indent = .error (.exceeded (.columns indent.toNat)) := by
  unfold placed
  rw [if_neg (by omega)]
  by_cases wide : min room maxIndex < indent.toNat
  · exact .inr ⟨wide, if_pos wide⟩
  · exact .inl (if_neg wide)

theorem placed_wide {room : Nat} {indent : Int} (wide : (maxIndex : Int) < indent) :
    placed room indent = .error (.exceeded (.columns indent.toNat)) := by
  unfold placed
  rw [if_neg (by omega), if_pos (by omega)]

namespace Output

def after (file : String) (indent : Int) (out : Output) (steps : List Step) : Output where
  listing := out.listing.extend (written indent out.ids.value steps)
  ids := ⟨out.ids.value + taken steps⟩
  diagnostics := out.diagnostics ++ steps.flatMap (Step.warnings file)

@[simp] theorem after_nil (file : String) (indent : Int) (out : Output) :
    out.after file indent [] = out := by
  simp [after, written, taken, Listing.extend]

theorem after_cons (file : String) (indent : Int) (out : Output) (s : Step) (rest : List Step) :
    out.after file indent (s :: rest) = (out.after file indent [s]).after file indent rest := by
  simp [after, written, taken, Listing.extend, Int.add_assoc]

section

variable {room : Nat} {file : String} {indent : Int} {steps : List Step} {out result : Output} {s : Step}

theorem receive_ok {listing : Listing} {lines : List String}
    (carried : out.receive (listing.emitAll room lines indent) = (result, none)) :
    result = { out with listing := listing.extend (lines.map (indented indent.toNat)) } := by
  unfold Listing.emitAll at carried
  cases fits : placed room indent with
  | error failure => simp [fits, Except.map, receive] at carried
  | ok spaces =>
    rw [fits, placed_ok fits] at carried
    cases carried
    rfl

theorem receive_nonneg (room : Nat) (nonneg : 0 ≤ indent) (listing : Listing) (lines : List String) (out : Output) :
    (out.receive (listing.emitAll room lines indent)).2 = none ∨
      min room maxIndex < indent.toNat ∧
        (out.receive (listing.emitAll room lines indent)).2 = some (.exceeded (.columns indent.toNat)) := by
  unfold Listing.emitAll
  rcases placed_nonneg room nonneg with fits | ⟨wide, refused⟩
  · left
    rw [fits]
    rfl
  · right
    rw [refused]
    exact ⟨wide, rfl⟩

theorem step_ok (carried : out.step room file indent s = (result, none)) : result = out.after file indent [s] := by
  cases s with
  | emit depth code =>
    rw [receive_ok carried]
    simp [after, written, taken, Step.lines, Step.taken, Step.warnings]
  | comment depth text =>
    rw [receive_ok carried]
    simp [after, written, taken, Step.lines, Step.taken, Step.warnings]
  | call depth series sql =>
    simp only [step, Ids.next] at carried
    cases short : isShort (out.ids.value + 1) with
    | false => simp [short] at carried
    | true =>
      simp only [short, if_true] at carried
      rw [receive_ok carried]
      simp [after, written, taken, Step.lines, Step.taken, Step.warnings]
  | warn code message help line =>
    cases carried
    simp [after, written, taken, Step.lines, Step.taken, Step.warnings, Listing.extend]
  | stop fault => cases carried

theorem run_wide (wide : (maxIndex : Int) < indent) (depth : Nat) (code : String) (rest : List Step) (out : Output) :
    run room file indent (.emit depth code :: rest) out =
      (out, some (.exceeded (.columns (indent + depth).toNat))) := by
  have refused : placed room (indent + depth) = .error (.exceeded (.columns (indent + depth).toNat)) :=
    placed_wide (by omega)
  simp [run, step, Listing.emit, Listing.emitAll, refused, Except.map, receive]

theorem receive_failed {result : Except Failure Listing} (failed : (out.receive result).2.isSome = true) :
    (out.receive result).1 = out := by
  cases result with
  | ok listing => cases failed
  | error failure => rfl

/-- A step that fails writes nothing, but the number that it wanted to use is gone. -/
theorem step_failed (failed : (out.step room file indent s).2.isSome = true) :
    (out.step room file indent s).1 = { out with ids := ⟨out.ids.value + s.taken⟩ } := by
  cases s with
  | emit depth code => simp [step, receive_failed failed, Step.taken]
  | comment depth text => simp [step, receive_failed failed, Step.taken]
  | call depth series sql =>
    simp only [step, Ids.next] at failed ⊢
    cases short : isShort (out.ids.value + 1) with
    | false => simp [Step.taken]
    | true =>
      simp only [short, if_true] at failed ⊢
      simp [receive_failed failed, Step.taken]
  | warn code message help line => cases failed
  | stop fault => simp [step, Step.taken]

theorem step_nonneg (room : Nat) (file : String) (out : Output) (nonneg : 0 ≤ indent) (proceeds : s.proceeds = true) :
    (out.step room file indent s).2 = none ∨
      ∃ limit, (out.step room file indent s).2 = some (.exceeded limit) ∧
        limit.Hit room indent out.ids.value [s] := by
  -- All lines of a step stand at one depth.
  have lines (depth : Nat) (here : depth ∈ s.depth?) (listing : Listing) (lines : List String) (now : Output) :
      (now.receive (listing.emitAll room lines (indent + depth))).2 = none ∨
        ∃ limit, (now.receive (listing.emitAll room lines (indent + depth))).2 = some (.exceeded limit) ∧
          limit.Hit room indent out.ids.value [s] := by
    have nonneg : 0 ≤ indent + depth := by omega
    rcases receive_nonneg room nonneg listing lines now with placed | ⟨wide, refused⟩
    · exact .inl placed
    · exact .inr ⟨_, refused, wide, s, List.mem_cons_self, depth, here, Int.toNat_of_nonneg nonneg⟩
  cases s with
  | emit depth code => exact lines depth rfl _ _ _
  | comment depth text => exact lines depth rfl _ _ _
  | call depth series sql =>
    cases short : isShort (out.ids.value + 1) with
    | false =>
      refine .inr ⟨.digits, by simp [step, Ids.next, short], out.ids.value + 1, by omega, ?_, short⟩
      simp [taken, Step.taken]
    | true => simpa [step, Ids.next, short] using lines depth rfl out.listing _ { out with ids := ⟨out.ids.value + 1⟩ }
  | warn code message help line => exact .inl rfl
  | stop fault => cases proceeds

theorem run_ok (carried : run room file indent steps out = (result, none)) : result = out.after file indent steps := by
  induction steps generalizing out with
  | nil =>
    simp only [run, Prod.mk.injEq, and_true] at carried
    simp [carried]
  | cons s rest ih =>
    rw [run] at carried
    split at carried
    · rename_i middle first
      rw [after_cons, ← step_ok first]
      exact ih carried
    · simp at carried

theorem run_grows (room : Nat) (file : String) (indent : Int) (steps : List Step) (out : Output) :
    ∃ more, (run room file indent steps out).1.listing.lines = out.listing.lines ++ more := by
  induction steps generalizing out with
  | nil => exact ⟨[], by simp [run]⟩
  | cons s rest ih =>
    rw [run]
    split
    · rename_i next carried
      obtain ⟨more, lines⟩ := ih next
      rw [lines, step_ok carried]
      exact ⟨_, List.append_assoc ..⟩
    · rename_i next failure stopped
      have failed : (out.step room file indent s).2.isSome = true := by simp [stopped]
      have unchanged := step_failed failed
      rw [stopped] at unchanged
      exact ⟨[], by rw [unchanged, List.append_nil]⟩

theorem run_proceeds (carried : run room file indent steps out = (result, none)) :
    ∀ s ∈ steps, s.proceeds = true := by
  induction steps generalizing out with
  | nil => simp
  | cons s rest ih =>
    rw [run] at carried
    split at carried
    · rename_i middle first
      have here : s.proceeds = true := by
        cases s with
        | stop fault => cases first
        | _ => rfl
      exact List.forall_mem_cons.mpr ⟨here, ih carried⟩
    · simp at carried

end

/-- A run that ends because it goes beyond a limit. -/
def Exceeded (room : Nat) (indent start : Int) (steps : List Step) (result : Output × Option Failure) : Prop :=
  ∃ limit, result.2 = some (.exceeded limit) ∧ limit.Hit room indent start steps

theorem run_reaches (room : Nat) {indent : Int} (nonneg : 0 ≤ indent) (file : String) (steps : List Step)
    (out : Output) :
    run room file indent steps out =
        (out.after file indent (steps.takeWhile Step.proceeds), (fault? steps).map (Fault.failure file)) ∨
      Exceeded room indent out.ids.value (steps.takeWhile Step.proceeds) (run room file indent steps out) := by
  induction steps generalizing out with
  | nil => simp [run, fault?]
  | cons s rest ih =>
    by_cases proceeds : s.proceeds = true
    · rw [run, List.takeWhile_cons_of_pos proceeds, fault?_cons proceeds]
      split
      · rename_i next carried
        rw [step_ok carried, after_cons file indent out s (rest.takeWhile Step.proceeds)]
        rcases ih (out.after file indent [s]) with reached | ⟨limit, failed, hit⟩
        · exact .inl reached
        · refine .inr ⟨limit, failed, Limit.Hit.later ?_⟩
          simpa [after, taken] using hit
      · rename_i next failure failed
        rcases step_nonneg room file out nonneg proceeds with carried | ⟨limit, refused, hit⟩
        · rw [failed] at carried
          cases carried
        · rw [failed] at refused
          exact .inr ⟨limit, refused, hit.first⟩
    · cases s with
      | stop fault => simp [run, step, fault?, Step.proceeds]
      | _ => exact absurd rfl proceeds

theorem run_nonneg (room : Nat) {indent : Int} (nonneg : 0 ≤ indent) (file : String) (steps : List Step)
    (out : Output) (proceeds : ∀ s ∈ steps, s.proceeds = true) :
    run room file indent steps out = (out.after file indent steps, none) ∨
      Exceeded room indent out.ids.value steps (run room file indent steps out) := by
  have reaches := run_reaches room nonneg file steps out
  rwa [List.takeWhile_eq_self_iff.mpr proceeds, fault?_eq_none proceeds] at reaches

end Output

/-- A compilation that ends because it goes beyond a limit before it comes to what is wrong. -/
def CompileExceeds (room : Nat) (statements : List Statement) (indent : Int) (ids : Ids) (file : String) : Prop :=
  Output.Exceeded room indent ids.value ((Statement.listSteps 0 statements).takeWhile Step.proceeds)
    (compileAll room statements indent ids file)

theorem bindings_proceed (depth column : Nat) (targets : List Target)
    (named : targets.all Target.isNamed = true) :
    ∀ t ∈ bindings depth column targets, t.proceeds = true := by
  induction targets generalizing column with
  | nil => simp [bindings]
  | cons target rest ih =>
    rw [List.all_cons, Bool.and_eq_true] at named
    cases target with
    | named name =>
      rw [bindings, List.forall_mem_cons]
      exact ⟨rfl, ih (column + 1) named.2⟩
    | broken m => cases named.1

theorem armSteps_proceed (depth : Nat) (keyword subject : String) (line : Option Line)
    {test : Option String} (tested : test.isSome = true) :
    ∀ t ∈ armSteps depth keyword subject line test, t.proceeds = true := by
  cases test with
  | none => cases tested
  | some expr =>
    rw [armSteps]
    split <;> simp [Step.proceeds]

end Jinja

open Jinja

namespace Statement

/-! What holds of every step of every statement in a list, or in the branches of a statement, holds of every
step of the whole. -/
section Steps

variable {P : Step → Prop}

theorem required_forall (s : Statement) (field : String) (text : Option String)
    {steps : String → List Step} (refused : P (.stop (.missing s.tag field s.line)))
    (given : ∀ t ∈ text, ∀ step ∈ steps t, P step) : ∀ step ∈ required s field text steps, P step := by
  cases text with
  | none => simpa [required] using refused
  | some t => exact given t rfl

theorem listSteps_forall (depth : Nat) (statements : List Statement)
    (each : ∀ s ∈ statements, ∀ depth, ∀ t ∈ s.steps depth, P t) :
    ∀ t ∈ listSteps depth statements, P t := by
  induction statements with
  | nil => simp [listSteps]
  | cons s rest ih =>
    obtain ⟨first, others⟩ := List.forall_mem_cons.mp each
    rw [listSteps, List.forall_mem_append]
    exact ⟨first depth, ih others⟩

theorem elseSteps_forall (depth : Nat) (otherwise : Option (List Statement))
    (keyword : P (.emit depth (Jinja.tag "else")))
    (each : ∀ s ∈ otherwise.getD [], ∀ depth, ∀ t ∈ s.steps depth, P t) :
    ∀ t ∈ elseSteps depth otherwise, P t := by
  match otherwise with
  | none => simp [elseSteps]
  | some [] => simp [elseSteps]
  | some (s :: rest) =>
    have body := listSteps_forall (depth + deeper) (s :: rest) each
    rw [listSteps] at body
    rw [elseSteps, List.forall_mem_cons]
    exact ⟨keyword, body⟩

theorem elifSteps_forall (depth : Nat) (arms : List Branch)
    (tests : ∀ test, P (.emit depth (Jinja.tag ("elif " ++ test))))
    (each : ∀ b ∈ arms, ∀ s ∈ b.body, ∀ depth, ∀ t ∈ s.steps depth, P t) :
    ∀ t ∈ Branch.elifSteps depth arms, P t := by
  induction arms with
  | nil => simp [Branch.elifSteps]
  | cons b rest ih =>
    cases b with
    | mk test body line =>
      obtain ⟨first, others⟩ := List.forall_mem_cons.mp each
      rw [Branch.elifSteps, List.forall_mem_cons, List.forall_mem_append]
      exact ⟨tests _, listSteps_forall (depth + deeper) body first, ih others⟩

theorem whenSteps_forall (depth : Nat) (keyword : String) (known : keyword ∈ ["if", "elif"])
    (subject : String) (arms : List Branch)
    (tests : ∀ b ∈ arms, ∀ keyword ∈ ["if", "elif"],
      ∀ t ∈ armSteps depth keyword subject b.line b.test, P t)
    (each : ∀ b ∈ arms, ∀ s ∈ b.body, ∀ depth, ∀ t ∈ s.steps depth, P t) :
    ∀ t ∈ Branch.whenSteps depth keyword subject arms, P t := by
  induction arms generalizing keyword with
  | nil => simp [Branch.whenSteps]
  | cons b rest ih =>
    obtain ⟨test, others⟩ := List.forall_mem_cons.mp tests
    obtain ⟨first, inner⟩ := List.forall_mem_cons.mp each
    cases b with
    | mk expr body line =>
      rw [Branch.whenSteps, List.forall_mem_append, List.forall_mem_append]
      exact ⟨⟨test keyword known, listSteps_forall (depth + deeper) body first⟩,
        ih "elif" (by simp) others inner⟩

end Steps

theorem steps_proceed (s : Statement) (sound : s.all wellFormed = true) (depth : Nat) :
    ∀ t ∈ s.steps depth, t.proceeds = true := by
  induction s generalizing depth with
  | raise message level line =>
    cases message with
    | none => cases sound
    | some m => simp [steps, required, Step.proceeds]
  | forQuery query body line inner =>
    simp only [all, Bool.and_eq_true, listAll_iff] at sound
    cases query with
    | none => cases sound.1
    | some q =>
      have nested := listSteps_forall (depth + deeper + deeper) body
        (fun s member depth => inner s member (sound.2 s member) depth)
      simp only [steps, required, List.forall_mem_cons, List.forall_mem_append]
      exact ⟨rfl, rfl, rfl, nested, by simp [Step.proceeds]⟩
  | ret expr line => simp [steps, Step.proceeds]
  | retNext line => simp [steps, Step.proceeds]
  | block body line inner =>
    simp only [all, Bool.and_eq_true, listAll_iff] at sound
    rw [steps]
    exact listSteps_forall depth body (fun s member depth => inner s member (sound.2 s member) depth)
  | execute query into line =>
    simp only [all, wellFormed, Bool.and_eq_true] at sound
    match query, into with
    | none, _ => cases sound.1
    | some q, none => simp [steps, required, executeSteps, Step.proceeds]
    | some q, some targets =>
      have nested := bindings_proceed (depth + deeper) 0 targets sound.2
      simp only [steps, required, executeSteps, List.forall_mem_cons, List.forall_mem_append]
      exact ⟨rfl, rfl, nested, by simp [Step.proceeds]⟩
  | dynamic query line =>
    cases query with
    | none => cases sound
    | some q =>
      simp only [steps, required, dynamicSteps]
      split
      · simp [Step.proceeds]
      · split <;> simp [Step.proceeds]
  | assign expr line =>
    cases expr with
    | none => cases sound
    | some e =>
      simp only [steps, required, assignSteps]
      split <;> simp [Step.proceeds]
  | choose test body arms otherwise line inBody inArms inElse =>
    simp only [all, Bool.and_eq_true, listAll_iff, branchAll_iff, optionAll_iff] at sound
    obtain ⟨⟨⟨here, soundBody⟩, soundArms⟩, soundElse⟩ := sound
    cases test with
    | none => cases here
    | some t =>
      simp only [steps, required, List.forall_mem_cons, List.forall_mem_append]
      refine ⟨rfl, ⟨⟨?_, ?_⟩, ?_⟩, by simp [Step.proceeds]⟩
      · exact listSteps_forall (depth + deeper) body
          (fun s member depth => inBody s member (soundBody s member) depth)
      · exact elifSteps_forall depth arms (fun _ => rfl)
          (fun b member s inside depth => inArms b member s inside (soundArms b member s inside) depth)
      · exact elseSteps_forall depth otherwise rfl
          (fun s member depth => inElse s member (soundElse s member) depth)
  | select subject arms hasElse otherwise line inArms inElse =>
    simp only [all, wellFormed, Bool.and_eq_true, listAll_iff, branchAll_iff] at sound
    obtain ⟨⟨⟨here, tested⟩, soundArms⟩, soundElse⟩ := sound
    have nested (depth : Nat) := listSteps_forall depth otherwise
      (fun s member depth => inElse s member (soundElse s member) depth)
    cases subject with
    | none => cases here
    | some t =>
      cases arms with
      | nil =>
        cases hasElse with
        | false => simp [steps, required]
        | true => simpa [steps, required] using nested depth
      | cons b rest =>
        have tests := whenSteps_forall depth "if" (by simp) (Text.strip t) (b :: rest)
          (fun b member _ _ => armSteps_proceed depth _ _ _ (List.all_eq_true.mp tested b member))
          (fun b member s inside depth => inArms b member s inside (soundArms b member s inside) depth)
        simp only [steps, required, List.forall_mem_append]
        refine ⟨⟨tests, ?_⟩, by simp [Step.proceeds]⟩
        cases hasElse with
        | false => simp
        | true => simpa [Step.proceeds] using nested (depth + deeper)
  | unknown kind line => simp [steps, unknownSteps, Step.proceeds]
  | broken misfit => cases sound

theorem listSteps_proceed_of_sound (statements : List Statement)
    (sound : listAll wellFormed statements = true) (depth : Nat) :
    ∀ t ∈ listSteps depth statements, t.proceeds = true := by
  rw [listAll_iff] at sound
  exact listSteps_forall depth statements (fun s member => steps_proceed s (sound s member))

end Statement

namespace Jinja

theorem compileAll_nonneg (room : Nat) (body : List Statement)
    (sound : Statement.listAll Statement.wellFormed body = true) {indent : Int} (nonneg : 0 ≤ indent) (ids : Ids)
    (file : String) :
    compileAll room body indent ids file =
        (Output.after file indent { ids := ids } (Statement.listSteps 0 body), none) ∨
      Output.Exceeded room indent ids.value (Statement.listSteps 0 body) (compileAll room body indent ids file) :=
  Output.run_nonneg room nonneg file _ _ (Statement.listSteps_proceed_of_sound body sound 0)

end Jinja

end PgJinja
