import PgJinja.Jinja.Template
import PgJinja.Proofs.Lines
import PgJinja.Proofs.Numbers
import PgJinja.Proofs.Run

/-! Templates of well-formed statements. There is one unless a limit is hit, and its text is made of the header, the
lines of the variables, an empty line, the lines of the body and the footer. -/
namespace PgJinja

open Jinja

theorem Limit.Hit.append {room : Nat} {indent start : Int} {first second : List Step} {limit : Limit}
    (hit : limit.Hit room indent (start + taken first) second) : limit.Hit room indent start (first ++ second) := by
  induction first generalizing start with
  | nil => simpa [taken] using hit
  | cons s rest ih =>
    apply Limit.Hit.later
    apply ih
    simpa [taken, Int.add_assoc] using hit

namespace Jinja

theorem emit_zero (room : Nat) (l : Listing) (code : String) : l.emit room code 0 = .ok (l.extend [code]) := by
  simp [Listing.emit, Listing.emitAll, placed, Except.map, indented_zero]

def declarations (locals : List Variable) : List Step := locals.map fun v => .emit 0 (variableTag v)

theorem taken_declarations (locals : List Variable) : taken (declarations locals) = 0 := by
  induction locals with
  | nil => rfl
  | cons v rest ih => simpa [declarations, taken, Step.taken] using ih

def variableLines (locals : List Variable) : List String := locals.map fun v => indented 2 (variableTag v)

theorem header_text (name : String) : header name = "\x7b% macro " ++ name ++ "() %\x7d" := by
  simp [header, tag, ← String.toList_inj]

theorem variableLines_text (locals : List Variable) :
    variableLines locals =
      locals.map fun v => "  \x7b% set " ++ v.name ++ " = " ++ v.initial.getD "''" ++ " %\x7d" := by
  simp [variableLines, variableTag, emptyValue, tag, indented, Text.copies, ← String.toList_inj]

theorem declared_cases (room : Nat) (locals : List Variable) (l : Listing) :
    locals.foldlM (fun l v => Listing.emit room l (variableTag v) bodyIndent) l =
        .ok (l.extend (variableLines locals)) ∨
      locals.foldlM (fun l v => Listing.emit room l (variableTag v) bodyIndent) l = .error (.exceeded (.columns 2)) ∧
        ∀ start, Limit.Hit room 2 start (declarations locals) (.columns 2) := by
  have nonneg : (0 : Int) ≤ bodyIndent := by decide
  -- All variables stand at one depth: either each of them fits, or the first one does not.
  rcases placed_nonneg room nonneg with fits | ⟨wide, refused⟩
  · left
    induction locals generalizing l with
    | nil => simp [variableLines, Listing.extend, pure, Except.pure]
    | cons v rest ih =>
      have first : Listing.emit room l (variableTag v) bodyIndent = .ok (l.extend [indented 2 (variableTag v)]) := by
        rw [Listing.emit, Listing.emitAll, fits]
        rfl
      rw [List.foldlM_cons, first]
      exact (ih _).trans (by simp [variableLines, Listing.extend])
  · cases locals with
    | nil => exact .inl (by simp [variableLines, Listing.extend, pure, Except.pure])
    | cons v rest =>
      have first : Listing.emit room l (variableTag v) bodyIndent = .error (.exceeded (.columns 2)) := by
        rw [Listing.emit, Listing.emitAll, refused]
        rfl
      refine .inr ⟨by rw [List.foldlM_cons, first]; rfl, ?_⟩
      intro start
      exact ⟨wide, _, List.mem_cons_self, 0, rfl, rfl⟩

theorem opening_cases (room : Nat) (name : String) (locals : List Variable) :
    opening room name locals = .ok ⟨header name :: (variableLines locals ++ [""])⟩ ∨
      opening room name locals = .error (.exceeded (.columns 2)) ∧
        ∀ start, Limit.Hit room 2 start (declarations locals) (.columns 2) := by
  rw [opening, emit_zero]
  rcases declared_cases room locals (Listing.extend {} [header name]) with declared | ⟨refused, hit⟩
  · left
    simp only [bind, Except.bind, declared]
    rfl
  · right
    simp only [bind, Except.bind, refused]
    exact ⟨trivial, hit⟩

section

variable {room : Nat} {name : String} {locals : List Variable} {body : List Statement} {ids : Ids} {file : String}

theorem template_carried (name : String) (locals : List Variable) {out : Output}
    (carried : compileAll room body 2 ids file = (out, none)) :
    template room name locals body ids file =
        (out, .ok (Text.unlines
          (header name :: (variableLines locals ++ "" :: (out.listing.lines ++ [footer]))))) ∨
      template room name locals body ids file = ({ ids := ids }, .error (.exceeded (.columns 2))) ∧
        ∀ start, Limit.Hit room 2 start (declarations locals) (.columns 2) := by
  have inside : compileAll room body bodyIndent ids file = (out, none) := carried
  rw [template]
  rcases opening_cases room name locals with opened | ⟨refused, hit⟩
  · left
    simp only [opened, inside, emit_zero, Except.map, Listing.code, Listing.extend]
    simp
  · right
    simp only [refused]
    exact ⟨trivial, hit⟩

theorem template_ok {out : Output} {text : String}
    (made : template room name locals body ids file = (out, .ok text)) :
    compileAll room body 2 ids file = (out, none) ∧
      text = Text.unlines (header name :: (variableLines locals ++ "" :: (out.listing.lines ++ [footer]))) := by
  cases compiled : compileAll room body 2 ids file with
  | mk now failure =>
    cases failure with
    | none =>
      rcases template_carried name locals compiled with same | ⟨refused, -⟩
      · rw [made] at same
        cases same
        exact ⟨rfl, rfl⟩
      · rw [made] at refused
        cases refused
    | some failure =>
      have inside : compileAll room body bodyIndent ids file = (now, some failure) := compiled
      rw [template] at made
      split at made
      · cases made
      · rw [inside] at made
        cases made

/-- Well-formed statements have a template, unless a limit is hit. -/
theorem template_cases (sound : Statement.listAll Statement.wellFormed body = true) :
    (∃ out text, template room name locals body ids file = (out, .ok text)) ∨
      ∃ limit, (template room name locals body ids file).2 = .error (.exceeded limit) ∧
        limit.Hit room 2 ids.value (declarations locals ++ Statement.listSteps 0 body) := by
  have nonneg : (0 : Int) ≤ 2 := by decide
  rcases compileAll_nonneg room body sound nonneg ids file with
    carried | ⟨limit, failed, hit⟩
  · rcases template_carried name locals carried with made | ⟨refused, hit⟩
    · exact .inl ⟨_, _, made⟩
    · refine .inr ⟨_, by rw [refused], ?_⟩
      obtain ⟨wide, s, member, depth⟩ := hit ids.value
      exact ⟨wide, s, List.mem_append_left _ member, depth⟩
  · right
    rw [template]
    rcases opening_cases room name locals with opened | ⟨refused, hits⟩
    · refine ⟨limit, ?_, Limit.Hit.append (by simpa [taken_declarations] using hit)⟩
      have pair : compileAll room body bodyIndent ids file =
          ((compileAll room body 2 ids file).1, some (.exceeded limit)) := Prod.ext rfl failed
      simp only [opened, pair]
    · obtain ⟨wide, s, member, depth⟩ := hits ids.value
      exact ⟨.columns 2, by rw [refused], wide, s, List.mem_append_left _ member, depth⟩

theorem template_long (room : Nat) (name query file : String) :
    template room name [] [.execute (some query) none none] ⟨firstLong - 1⟩ file =
      ({ ids := ⟨firstLong⟩ }, .error (.exceeded .digits)) := by
  have last : (firstLong : Int) - 1 + 1 = firstLong := Int.sub_add_cancel ..
  simp [template, opening, emit_zero, compileAll, Statement.listSteps, Statement.steps, required, executeSteps,
    Output.run, Output.step, Ids.next, last, firstLong_long, bind, Except.bind, pure, Except.pure]

end

end Jinja
end PgJinja
