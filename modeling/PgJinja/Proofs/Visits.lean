import PgJinja.Proofs.Executions

/-! Statements compiled one after another into one output, each at an indentation of its own. One that fails leaves
behind what it has written and numbered, and the next one goes on from there. -/
namespace PgJinja.Jinja

structure Visit where
  statement : Statement
  indent : Int

def Output.visit (room : Nat) (file : String) (out : Output) (v : Visit) : Output :=
  (out.compile room file v.indent v.statement).1

def Output.visitAll (room : Nat) (file : String) (out : Output) (visits : List Visit) : Output :=
  visits.foldl (Output.visit room file) out

def Output.VisitExceeds (room : Nat) (file : String) (out : Output) (visits : List Visit) : Prop :=
  ∃ before v after, visits = before ++ v :: after ∧
    let now := out.visitAll room file before
    Output.Exceeded room v.indent now.ids.value (v.statement.steps 0) (now.compile room file v.indent v.statement)

def callNames (lines : List String) : List String := lines.filterMap fun line => callName? (unindented line)

theorem callNames_append (first second : List String) :
    callNames (first ++ second) = callNames first ++ callNames second :=
  List.filterMap_append

theorem callName?_last {text : String} {name : String} (found : callName? text = some name) :
    text.toList.getLast? = some '\x7d' := by
  obtain ⟨middle, parts, -⟩ := Option.map_eq_some_iff.mp found
  obtain ⟨rest, opened, closed⟩ := Option.bind_eq_some_iff.mp parts
  obtain ⟨opening, split, -⟩ := List.dropPrefix?_eq_some_iff.mp opened
  obtain ⟨closing, ends, same⟩ := List.dropSuffix?_eq_some_iff.mp closed
  rw [split, ends, eq_of_beq same]
  simp

theorem callName?_text (spaces : Nat) (sql : String) :
    callName? (unindented (indented spaces (sql ++ ";"))) = none := by
  have last : (unindented (indented spaces (sql ++ ";"))).toList.getLast? = some ';' := by
    have split : (indented spaces (sql ++ ";")).toList = (Text.copies spaces ' ' ++ sql).toList ++ [';'] := by
      simp [indented]
    rw [unindented, String.toList_ofList, split, List.dropWhile_append]
    split <;> simp
  cases found : callName? (unindented (indented spaces (sql ++ ";"))) with
  | none => rfl
  | some name =>
    rw [callName?_last found] at last
    cases last

theorem callNames_block (spaces : Nat) (name sql : String) :
    callNames ((Output.callLines name sql).map (indented spaces)) = [name] := by
  have opening : callName? (unindented (indented spaces (tag ("call statement('" ++ name ++ "')")))) = some name := by
    rw [unindented_indented (flush_tag _), callName?_tag]
  have closing : callName? (unindented (indented spaces (tag "endcall"))) = none := by
    have uncalled : Uncalled (tag "endcall") := uncalled_tag (c := 'e') (by simp) (by decide)
    rw [unindented_indented uncalled.flush, uncalled.other]
  simp [callNames, Output.callLines, opening, closing, callName?_text]

/-- Names of numbers that increase, above one bound and up to another. -/
def Ascending (low high : Int) (names : List String) : Prop :=
  ∃ ids : List (Series × Int), names = ids.map (fun id => Ids.name id.1.text id.2) ∧
    (ids.map (·.2)).Pairwise (· < ·) ∧ ∀ id ∈ ids, low < id.2 ∧ id.2 ≤ high

namespace Ascending

variable {low middle high : Int} {names more : List String}

theorem nil (low high : Int) : Ascending low high [] :=
  ⟨[], rfl, by simp, by simp⟩

theorem single (series : Series) (n : Int) : Ascending n (n + 1) [Ids.name series.text (n + 1)] := by
  refine ⟨[(series, n + 1)], rfl, by simp, ?_⟩
  intro id member
  cases List.mem_singleton.mp member
  omega

theorem append (first : Ascending low middle names) (second : Ascending middle high more) (below : low ≤ middle)
    (above : middle ≤ high) : Ascending low high (names ++ more) := by
  obtain ⟨ids, rfl, increasing, bounds⟩ := first
  obtain ⟨others, rfl, increasing', bounds'⟩ := second
  refine ⟨ids ++ others, by simp, ?_, ?_⟩
  · rw [List.map_append, List.pairwise_append]
    refine ⟨increasing, increasing', ?_⟩
    intro m inFirst n inSecond
    obtain ⟨id, member, rfl⟩ := List.mem_map.mp inFirst
    obtain ⟨other, member', rfl⟩ := List.mem_map.mp inSecond
    have upper := (bounds id member).2
    have lower := (bounds' other member').1
    omega
  · intro id member
    rcases List.mem_append.mp member with member | member
    · have within := bounds id member
      omega
    · have within := bounds' id member
      omega

theorem nodup (ascending : Ascending low high names) : names.Nodup := by
  obtain ⟨ids, rfl, increasing, -⟩ := ascending
  rw [List.pairwise_map] at increasing
  rw [List.Nodup, List.pairwise_map]
  refine increasing.imp ?_
  intro id other less same
  have number := Ids.name_inj same
  omega

theorem not_mem (ascending : Ascending low high names) (series : Series) {n : Int} (used : n ≤ low) :
    Ids.name series.text n ∉ names := by
  obtain ⟨ids, rfl, -, bounds⟩ := ascending
  intro member
  obtain ⟨id, drawn, same⟩ := List.mem_map.mp member
  have number := Ids.name_inj same
  have above := (bounds id drawn).1
  omega

end Ascending

/-- What can happen to an output: it has more lines, whose names go on from the last number, and some numbers are taken
for lines that are not written. -/
structure Advances (out later : Output) (lines : List String) (lost : Nat) : Prop where
  grown : later.listing.lines = out.listing.lines ++ lines
  names : Ascending out.ids.value later.ids.value (callNames lines)
  numbers : later.ids.value = out.ids.value + (callNames lines).length + lost

namespace Advances

variable {out later last : Output} {lines more : List String} {lost further : Nat}

theorem le (advances : Advances out later lines lost) : out.ids.value ≤ later.ids.value := by
  have numbers := advances.numbers
  omega

theorem refl (out : Output) : Advances out out [] 0 :=
  ⟨by simp, .nil _ _, by simp [callNames]⟩

theorem trans (first : Advances out later lines lost) (second : Advances later last more further) :
    Advances out last (lines ++ more) (lost + further) := by
  constructor
  · rw [second.grown, first.grown, List.append_assoc]
  · rw [callNames_append]
    exact first.names.append second.names first.le second.le
  · have numbers := first.numbers
    have numbers' := second.numbers
    rw [callNames_append, List.length_append]
    omega

end Advances

theorem callNames_single {code : String} (uncalled : Uncalled code) (spaces : Nat) :
    callNames [indented spaces code] = [] := by
  simp [callNames, unindented_indented uncalled.flush, uncalled.other]

theorem Step.lines_names {s : Step} (quiet : s.Quiet) (indent n : Int) :
    Ascending n (n + s.taken) (callNames (s.lines indent n)) ∧ (callNames (s.lines indent n)).length = s.taken := by
  cases s with
  | emit depth code =>
    simp only [lines, callNames_single quiet]
    exact ⟨.nil _ _, rfl⟩
  | comment depth text =>
    simp only [lines, callNames_single (plain_comment text).uncalled]
    exact ⟨.nil _ _, rfl⟩
  | call depth series sql =>
    simp only [lines, callNames_block]
    exact ⟨.single series n, rfl⟩
  | warn code message help line => exact ⟨.nil _ _, rfl⟩
  | stop fault => exact ⟨.nil _ _, rfl⟩

namespace Output

variable {room : Nat} {file : String} {indent : Int} {out : Output}

theorem after_advances {s : Step} (quiet : s.Quiet) :
    Advances out (out.after file indent [s]) (s.lines indent out.ids.value) 0 := by
  obtain ⟨names, count⟩ := s.lines_names quiet indent out.ids.value
  have next : (out.after file indent [s]).ids.value = out.ids.value + s.taken := by simp [after, taken]
  constructor
  · simp [after, Listing.extend, written]
  · rwa [next]
  · rw [next, count]
    omega

theorem failed_advances {s : Step} (failed : (out.step room file indent s).2.isSome = true) :
    Advances out (out.step room file indent s).1 [] s.taken := by
  rw [step_failed failed]
  exact ⟨by simp, .nil _ _, by simp [callNames]⟩

theorem step_failed_exceeds (nonneg : 0 ≤ indent) {s : Step}
    (failed : (out.step room file indent s).2.isSome = true) :
    s.taken = 0 ∨ Exceeded room indent out.ids.value [s] (out.step room file indent s) := by
  by_cases proceeds : s.proceeds = true
  · rcases step_nonneg room file out nonneg proceeds with carried | exceeded
    · rw [carried] at failed
      cases failed
    · exact .inr exceeded
  · cases s with
    | stop fault => exact .inl rfl
    | _ => exact absurd rfl proceeds

theorem run_advances (steps : List Step) (quiet : ∀ s ∈ steps, s.Quiet) :
    ∃ lines lost, Advances out (run room file indent steps out).1 lines lost ∧
      (0 ≤ indent → lost = 0 ∨ Exceeded room indent out.ids.value steps (run room file indent steps out)) := by
  induction steps generalizing out with
  | nil => exact ⟨[], 0, .refl out, fun _ => .inl rfl⟩
  | cons s rest ih =>
    obtain ⟨here, others⟩ := List.forall_mem_cons.mp quiet
    rw [run]
    split
    · rename_i next carried
      rw [step_ok carried]
      have first : Advances out (out.after file indent [s]) _ 0 := after_advances here
      obtain ⟨lines, lost, later, fits⟩ := @ih (out.after file indent [s]) others
      refine ⟨_, 0 + lost, first.trans later, ?_⟩
      intro nonneg
      rcases fits nonneg with rfl | ⟨limit, ended, hit⟩
      · exact .inl rfl
      · refine .inr ⟨limit, ended, Limit.Hit.later ?_⟩
        simpa [after, taken] using hit
    · -- The run ends here, and what was taken for this step is lost.
      rename_i next failure stopped
      have failed : (out.step room file indent s).2.isSome = true := by simp [stopped]
      have lost := failed_advances failed
      have exceeds := fun nonneg => step_failed_exceeds nonneg failed
      rw [stopped] at lost exceeds
      refine ⟨[], s.taken, lost, ?_⟩
      intro nonneg
      rcases exceeds nonneg with none | ⟨limit, ended, hit⟩
      · exact .inl none
      · exact .inr ⟨limit, ended, hit.first⟩

theorem visitAll_advances (visits : List Visit) :
    ∃ lines lost, Advances out (out.visitAll room file visits) lines lost ∧
      ((∀ v ∈ visits, 0 ≤ v.indent) → lost = 0 ∨ out.VisitExceeds room file visits) := by
  induction visits generalizing out with
  | nil => exact ⟨[], 0, .refl out, fun _ => .inl rfl⟩
  | cons v rest ih =>
    obtain ⟨lines, lost, first, fits⟩ : ∃ lines lost, Advances out (out.visit room file v) lines lost ∧
        (0 ≤ v.indent → lost = 0 ∨ Exceeded room v.indent out.ids.value (v.statement.steps 0)
          (out.compile room file v.indent v.statement)) :=
      run_advances (v.statement.steps 0) (steps_quiet v.statement 0)
    obtain ⟨more, further, later, others⟩ := @ih (out.visit room file v)
    refine ⟨lines ++ more, lost + further, first.trans later, ?_⟩
    intro all
    obtain ⟨nonneg, tail⟩ := List.forall_mem_cons.mp all
    rcases fits nonneg with rfl | exceeded
    · rcases others tail with rfl | ⟨before, v', after, rfl, exceeded⟩
      · exact .inl rfl
      · exact .inr ⟨v :: before, v', after, rfl, exceeded⟩
    · exact .inr ⟨[], v, rest, rfl, exceeded⟩

end Output

/-- After any visits, also where some fail or stand at an indentation that no line can have: the names in the call lines
carry increasing numbers, above the start and up to the last number that was taken, and no name occurs twice. Further
visits never lower the last number, and no name of a number up to it is written again. Where no indentation is negative,
a number was taken for each call line and for nothing else, unless a visit ended because it went beyond a limit. -/
theorem visitAll_numbers (room : Nat) (file : String) (start : Ids) (visits later : List Visit) :
    let out := Output.visitAll room file { ids := start } visits
    let last := Output.visitAll room file { ids := start } (visits ++ later)
    let names := callNames out.listing.lines
    (Ascending start.value out.ids.value names ∧ names.Nodup) ∧
      out.ids.value ≤ last.ids.value ∧
      (∃ lines, last.listing.lines = out.listing.lines ++ lines ∧
        ∀ (series : Series) (n : Int), n ≤ out.ids.value → Ids.name series.text n ∉ callNames lines) ∧
      ((∀ v ∈ visits, 0 ≤ v.indent) → out.ids.value = start.value + names.length ∨
        Output.VisitExceeds room file { ids := start } visits) := by
  intro out last names
  obtain ⟨lines, lost, first, fits⟩ : ∃ lines lost, Advances { ids := start } out lines lost ∧ _ :=
    Output.visitAll_advances visits
  obtain ⟨more, further, second, -⟩ : ∃ lines lost, Advances out (out.visitAll room file later) lines lost ∧ _ :=
    Output.visitAll_advances later
  have final : last = out.visitAll room file later := List.foldl_append
  have written : out.listing.lines = lines := first.grown
  have ascending : Ascending start.value out.ids.value names := by
    rw [← written] at first
    exact first.names
  refine ⟨⟨ascending, ascending.nodup⟩, ?_, ⟨more, ?_, ?_⟩, ?_⟩
  · rw [final]
    exact second.le
  · rw [final]
    exact second.grown
  · intro series n used
    exact second.names.not_mem series used
  · intro all
    refine (fits all).imp ?_ id
    rintro rfl
    have numbers := first.numbers
    rw [← written] at numbers
    simpa using numbers

theorem visitAll_numbers_failed :
    let execution : Statement := .execute (some "delete from t") none none
    let failing : Statement := .block [.dynamic (some "v") none, .raise none 0 none, execution] none
    let visits : List Visit := [⟨execution, 0⟩, ⟨failing, 2⟩]
    let out := Output.visitAll 80 "f.sql" { ids := ⟨4⟩ } visits
    let last := Output.visitAll 80 "f.sql" { ids := ⟨4⟩ } (visits ++ [⟨execution, -1⟩, ⟨execution, 0⟩])
    (∀ v ∈ visits, 0 ≤ v.indent) ∧ callNames out.listing.lines = ["exec_5", "dyn_6"] ∧ out.ids.value = 6 ∧
      (callNames last.listing.lines = ["exec_5", "dyn_6", "exec_8"] ∧ out.ids.value ≤ last.ids.value) ∧
      ∃ lines, last.listing.lines = out.listing.lines ++ lines ∧ "dyn_6" ∉ callNames lines := by
  intro execution failing visits out last
  have nonneg : ∀ v ∈ visits, 0 ≤ v.indent := by
    intro v member
    simp only [visits, List.mem_cons, List.not_mem_nil, or_false] at member
    rcases member with rfl | rfl <;> decide
  have names : callNames out.listing.lines = ["exec_5", "dyn_6"] := by decide +kernel
  obtain ⟨-, grows, ⟨lines, written, fresh⟩, counted⟩ :=
    visitAll_numbers 80 "f.sql" ⟨4⟩ visits [⟨execution, -1⟩, ⟨execution, 0⟩]
  have refused : (Output.compile 80 "f.sql" (Output.visitAll 80 "f.sql" { ids := ⟨4⟩ } [⟨execution, 0⟩]) 2 failing).2 =
      some (.refused ⟨.missing .node Kind.raise.tag "message", some "f.sql", none⟩) := by decide +kernel
  have number : out.ids.value = 6 := by
    rcases counted nonneg with counted | ⟨before, v, after, parts, limit, ended, -⟩
    · exact counted.trans (by rw [names]; rfl)
    · match before with
      | [] =>
        obtain ⟨rfl, -⟩ : ⟨execution, 0⟩ = v ∧ [⟨failing, 2⟩] = after := by simpa [visits] using parts
        cases ended
      | [first] =>
        obtain ⟨rfl, rfl, -⟩ : ⟨execution, 0⟩ = first ∧ ⟨failing, 2⟩ = v ∧ [] = after := by
          simpa [visits] using parts
        cases refused.symm.trans ended
      | _ :: _ :: _ => simp [visits] at parts
  exact ⟨nonneg, names, number, ⟨by decide +kernel, grows⟩, lines, written, fresh .dyn 6 (Int.le_of_eq number.symm)⟩

/-- At an indentation that no line can have a number is taken, but there is no call line for it. -/
theorem visitAll_numbers_wide :
    ¬ ∃ room : Nat, ∀ (file : String) (start : Ids) (visits : List Visit), (∀ v ∈ visits, 0 ≤ v.indent) →
      (Output.visitAll room file { ids := start } visits).ids.value =
        start.value + (callNames (Output.visitAll room file { ids := start } visits).listing.lines).length := by
  rintro ⟨room, law⟩
  let wide : List Visit := [⟨.execute (some "DELETE FROM t") none none, 9223372036854775808⟩]
  have nonneg : ∀ v ∈ wide, 0 ≤ v.indent := by
    intro v member
    cases List.mem_singleton.mp member
    decide
  have refused : placed room 9223372036854775808 = .error (.exceeded (.columns 9223372036854775808)) :=
    placed_wide (by decide)
  have ended : Output.visitAll room "f.sql" { ids := ⟨0⟩ } wide = { ids := ⟨1⟩ } := by
    have short : isShort 1 = true := by decide
    simp [Output.visitAll, Output.visit, Output.compile, wide, Statement.steps, required, executeSteps, Output.run,
      Output.step, Ids.next, short, Listing.emitAll, refused, Except.map, Output.receive]
  have counted := law "f.sql" ⟨0⟩ wide nonneg
  rw [ended] at counted
  cases counted

end PgJinja.Jinja
