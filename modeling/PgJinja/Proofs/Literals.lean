import Mathlib.Data.List.DropRight
import PgJinja.Proofs.Run

/-! Double-quoted strings in the lines of a template. A backslash protects the character after it, and the
string ends at the first quote that is not protected. Texts are quoted with their quotes protected and
nothing else, so a backslash of the text itself decides where the string ends. -/
namespace PgJinja

namespace Jinja

def afterQuote (guarded : Bool) : List Char → Option (List Char)
  | [] => none
  | c :: rest =>
    if guarded then afterQuote false rest
    else if c = '"' then some rest
    else afterQuote (c == '\\') rest

def afterString : List Char → Option (List Char)
  | '"' :: body => afterQuote false body
  | _ => none

/-- Whether the backslashes at the end of a text protect the character after it. -/
def guards (before : List Char) : Bool := (before.rtakeWhile (· == '\\')).length % 2 == 1

def Closable (t : String) : Prop :=
  ∀ before after, t.toList = before ++ after → after.head? ∈ [none, some '"'] → guards before = false

theorem guards_concat (before : List Char) (c : Char) :
    guards (before ++ [c]) = (c == '\\' && !guards before) := by
  unfold guards
  rw [List.rtakeWhile_concat]
  cases c == '\\' with
  | false => rfl
  | true =>
    rw [if_pos rfl, List.length_append, List.length_singleton, Bool.true_and]
    rcases Nat.mod_two_eq_zero_or_one (before.rtakeWhile (· == '\\')).length with even | odd
    · simp [even, Nat.add_mod]
    · simp [odd, Nat.add_mod]

theorem afterQuote_shorter {guarded : Bool} {cs rest : List Char} (found : afterQuote guarded cs = some rest) :
    rest.length < cs.length := by
  induction cs generalizing guarded with
  | nil => cases found
  | cons c cs ih =>
    rw [afterQuote] at found
    split at found
    · exact Nat.lt_succ_of_lt (ih found)
    · split at found
      · cases found
        exact Nat.lt_succ_self _
      · exact Nat.lt_succ_of_lt (ih found)

theorem afterQuote_ne_self (guarded : Bool) (cs : List Char) : afterQuote guarded cs ≠ some cs := by
  intro found
  exact Nat.lt_irrefl _ (afterQuote_shorter found)

def escaped (c : Char) : List Char := if c = '"' then ['\\', '"'] else [c]

theorem toList_literal (t : String) : (literal t).toList = '"' :: (t.toList.flatMap escaped ++ ['"']) := by
  have each : escaped = fun c => if c = '"' then ['\\', '"'] else [c] := rfl
  simp [literal, escapeQuotes, each]

/-- Whether the scan is protected at a character of the text depends on the text before it only. -/
theorem afterQuote_escaped (done : List Char) (c : Char) {tail next : List Char}
    (behind : next.length < tail.length) :
    afterQuote (guards done) (escaped c ++ tail) = some next ↔
      (c = '"' → guards done = false) ∧ afterQuote (guards (done ++ [c])) tail = some next := by
  have early : tail ≠ next := by
    rintro rfl
    exact Nat.lt_irrefl _ behind
  rw [guards_concat]
  by_cases quote : c = '"'
  · subst quote
    cases guards done with
    | false => simp [escaped, afterQuote]
    | true => simpa [escaped, afterQuote] using early
  · cases guards done with
    | false => simp [escaped, afterQuote, quote]
    | true => simp [escaped, afterQuote, quote]

theorem afterQuote_text (done cs next : List Char) :
    afterQuote (guards done) (cs.flatMap escaped ++ '"' :: next) = some next ↔
      ∀ before after, cs = before ++ after → after.head? ∈ [none, some '"'] →
        guards (done ++ before) = false := by
  -- On the text that is left: what is done decides whether the next character is protected.
  induction cs generalizing done with
  | nil =>
    have closing : afterQuote (guards done) ('"' :: next) = some next ↔ guards done = false := by
      cases guards done with
      | false => simp [afterQuote]
      | true => simpa [afterQuote] using afterQuote_ne_self false next
    rw [List.flatMap_nil, List.nil_append, closing]
    constructor
    · intro closed before after split _
      rw [(List.append_eq_nil_iff.mp split.symm).1, List.append_nil]
      exact closed
    · intro each
      simpa using each [] [] rfl (by simp)
  | cons c cs ih =>
    rw [List.flatMap_cons, List.append_assoc, afterQuote_escaped done c (by simp; omega), ih]
    constructor
    · rintro ⟨here, later⟩ before after split stops
      cases before with
      | nil =>
        rw [List.nil_append] at split
        rw [← split] at stops
        simpa using here (by simpa using stops)
      | cons d before =>
        obtain ⟨rfl, inner⟩ := List.cons.inj split
        simpa using later before after inner stops
    · intro each
      refine ⟨?_, ?_⟩
      · rintro rfl
        simpa using each [] ('"' :: cs) rfl (by simp)
      · intro before after split stops
        simpa using each (c :: before) after (by rw [split, List.cons_append]) stops

theorem afterString_literal (t : String) (next : List Char) :
    afterString ((literal t).toList ++ next) = some next ↔ Closable t := by
  have scan := afterQuote_text [] t.toList next
  rw [toList_literal, List.cons_append, List.append_assoc]
  exact scan

end Jinja

open Jinja

def Statement.quoted? : Statement → Option String
  | .raise message _ _ => message
  | .forQuery query _ _ => query.map Text.strip
  | .execute query (some _) _ => query.map Text.strip
  | _ => none

namespace Jinja

theorem raiseCode_quotes (level : Int) (message : String) :
    ∃ opening closing, raiseCode level message = opening ++ literal message ++ closing ∧
      '"' ∉ opening.toList := by
  unfold raiseCode printed
  split
  · refine ⟨"\x7b\x7b " ++ "exceptions.raise_compiler_error(", ")" ++ " \x7d\x7d", ?_, by simp⟩
    simp only [String.append_assoc]
  · split
    · refine ⟨"\x7b\x7b " ++ "exceptions.warn(", ")" ++ " \x7d\x7d", ?_, by simp⟩
      simp only [String.append_assoc]
    · refine ⟨"\x7b\x7b " ++ "log(", ", info=true)" ++ " \x7d\x7d", ?_, by simp⟩
      simp only [String.append_assoc]

theorem tag_quotes (code : String) (plain : '"' ∉ code.toList) (t : String) :
    ∃ opening closing, tag (code ++ literal t ++ ")") = opening ++ literal t ++ closing ∧
      '"' ∉ opening.toList := by
  refine ⟨"\x7b% " ++ code, ")" ++ " %\x7d", ?_, by simpa using plain⟩
  simp only [tag, String.append_assoc]

theorem steps_quotes {s : Statement} {t : String} (quotes : s.quoted? = some t) (depth : Nat) :
    ∃ opening closing rest, s.steps depth = .emit depth (opening ++ literal t ++ closing) :: rest ∧
      '"' ∉ opening.toList := by
  cases s with
  | raise message level line =>
    have given : message = some t := quotes
    obtain ⟨opening, closing, code, plain⟩ := raiseCode_quotes level t
    refine ⟨opening, closing, [], ?_, plain⟩
    rw [given, Statement.steps, required, code]
  | forQuery query body line =>
    obtain ⟨q, rfl, rfl⟩ := Option.map_eq_some_iff.mp quotes
    obtain ⟨opening, closing, code, plain⟩ := tag_quotes "set records = run_query(" (by decide) (Text.strip q)
    rw [Statement.steps, required, code]
    exact ⟨opening, closing, _, rfl, plain⟩
  | execute query into line =>
    cases into with
    | none => cases quotes
    | some targets =>
      obtain ⟨q, rfl, rfl⟩ := Option.map_eq_some_iff.mp quotes
      obtain ⟨opening, closing, code, plain⟩ := tag_quotes "set results = run_query(" (by decide) (Text.strip q)
      rw [Statement.steps, required, executeSteps, code]
      exact ⟨opening, closing, _, rfl, plain⟩
  | _ => cases quotes

theorem compile_emit {s : Statement} {code : String} {rest : List Step} (start : s.steps 0 = .emit 0 code :: rest)
    {room : Nat} {indent : Int} {spaces : Nat} (fits : placed room indent = .ok spaces) (file : String) (out : Output) :
    ∃ more, (out.compile room file indent s).1.listing.lines =
      out.listing.lines ++ indented spaces code :: more := by
  have first : out.step room file indent (.emit 0 code) =
      ({ out with listing := out.listing.extend [indented spaces code] }, none) := by
    simp [Output.step, Listing.emit, Listing.emitAll, fits, Except.map, Output.receive]
  obtain ⟨more, lines⟩ := Output.run_grows room file indent rest
    { out with listing := out.listing.extend [indented spaces code] }
  rw [Output.compile, start, Output.run, first]
  exact ⟨more, by simpa [Listing.extend] using lines⟩

/-- A statement that quotes a text starts with a line in which the text is quoted. What is quoted there is one
string, whatever stands after it, exactly if backslashes protect neither a quote of the text nor its end. -/
theorem compile_string_closed_iff {s : Statement} {t : String} (quotes : s.quoted? = some t) {room : Nat} {indent : Int}
    {spaces : Nat} (fits : placed room indent = .ok spaces) (file : String) (out : Output) :
    ∃ opening closing more,
      (out.compile room file indent s).1.listing.lines =
        out.listing.lines ++ indented spaces (opening ++ literal t ++ closing) :: more ∧
      '"' ∉ opening.toList ∧
      ∀ next, afterString ((literal t).toList ++ next) = some next ↔ Closable t := by
  obtain ⟨opening, closing, rest, start, plain⟩ := steps_quotes quotes 0
  obtain ⟨more, lines⟩ := compile_emit start fits file out
  exact ⟨opening, closing, more, lines, plain, afterString_literal t⟩

theorem compile_string_closed_iff_pair :
    let query := " select \"a\\\\\" "
    let t := "select \"a\\\\\""
    let loop : Statement := .forQuery (some query) [.retNext none] none
    loop.quoted? = some t ∧ placed 80 2 = .ok 2 ∧ Closable t ∧
      ∃ opening closing more,
        (Output.compile 80 "f.sql" {} 2 loop).1.listing.lines =
          indented 2 (opening ++ literal t ++ closing) :: more ∧
        afterString ((literal t).toList ++ closing.toList) = some closing.toList := by
  intro query t loop
  have quotes : loop.quoted? = some t := by decide
  have fits : placed 80 2 = .ok 2 := by rfl
  obtain ⟨opening, closing, more, lines, -, closed⟩ := compile_string_closed_iff quotes fits "f.sql" {}
  have closable : Closable t := (closed []).mp (by decide)
  exact ⟨quotes, fits, closable, opening, closing, more, lines, (closed closing.toList).mpr closable⟩

/-- A message that ends in a backslash leaves its string open, and one in which a backslash stands before a quote
closes it there. -/
theorem compile_string_unclosed :
    (Output.compile 80 "f.sql" {} 0 (.raise (some "C:\\") 0 none)).1.listing.lines =
        ["\x7b\x7b log(\"C:\\\", info=true) \x7d\x7d"] ∧
      (Statement.raise (some "C:\\") 0 none).quoted? = some "C:\\" ∧
      afterString (literal "C:\\").toList = none ∧
      (Statement.raise (some "a\\\"b") 0 none).quoted? = some "a\\\"b" ∧
      afterString (literal "a\\\"b").toList = some "b\"".toList := by
  refine ⟨by rfl, by rfl, by decide, by rfl, by decide⟩

end Jinja
end PgJinja
