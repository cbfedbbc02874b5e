import Mathlib.Data.List.Infix
import PgJinja.Proofs.Matching
import PgJinja.Proofs.Run

/-! Assignments that are found in a text. The search takes the first name before a sign and the rest of a line
after it; the text around them is dropped without a warning. -/
namespace PgJinja

namespace Text

theorem inRanges_apart {first second : List (Nat × Nat)}
    (apart : (first.all fun r => second.all fun q => r.2 < q.1 || q.2 < r.1) = true) {c : Char}
    (inside : inRanges first c = true) : inRanges second c = false := by
  obtain ⟨r, member, within⟩ := List.any_eq_true.mp inside
  rw [inRanges, List.any_eq_false]
  intro q other
  have disjoint := List.all_eq_true.mp (List.all_eq_true.mp apart r member) q other
  simp only [Bool.and_eq_true, Bool.or_eq_true, decide_eq_true_eq] at within disjoint ⊢
  omega

theorem isWord_of_blank {c : Char} (blank : isBlank c = true) : isWord c = false := by
  have ranges : inRanges wordRanges c = false := inRanges_apart (by decide +kernel) blank
  have other : c ≠ '_' := by
    rintro rfl
    revert blank
    decide
  simp [isWord, ranges, other]

theorem isWord_colon : isWord ':' = false := by decide +kernel

end Text

namespace Jinja

open Text

namespace Assignment

structure Proper (a : Assignment) : Prop where
  named : a.name.toList ≠ []
  word : ∀ c ∈ a.name.toList, isWord c = true
  valued : a.value.toList ≠ []
  line : ∀ c ∈ a.value.toList, c ≠ '\n'

def Covers (a : Assignment) (text : List Char) : Prop :=
  ∃ left right, (∀ c ∈ left, isBlank c = true) ∧ (∀ c ∈ right, isBlank c = true) ∧
    text = a.name.toList ++ (left ++ ':' :: '=' :: (right ++ a.value.toList))

end Assignment

def restOfLine : Piece := ⟨(· != '\n'), .some, true⟩

theorem takes_line {run : List Char} : restOfLine.Takes run ↔ run ≠ [] ∧ ∀ c ∈ run, c ≠ '\n' := by
  simp only [restOfLine, Piece.takes_some, bne_iff_ne]

namespace Assignment

theorem Covers.accepts {a : Assignment} {text : List Char} (covers : a.Covers text) (proper : a.Proper)
    (after : List Char) : assignmentPattern.Accepts (text ++ after) := by
  obtain ⟨left, right, leftBlank, rightBlank, rfl⟩ := covers
  have value : Pattern.Accepts [.blanks, restOfLine] (right ++ (a.value.toList ++ after)) :=
    ⟨right, a.value.toList ++ after, rfl, Piece.takes_blanks.mpr rightBlank, a.value.toList, after, rfl,
      takes_line.mpr ⟨proper.valued, proper.line⟩, trivial⟩
  have sign : Pattern.Accepts [.only ':', .only '=', .blanks, restOfLine]
      (':' :: '=' :: (right ++ (a.value.toList ++ after))) :=
    Pattern.accepts_only.mpr ⟨_, rfl, Pattern.accepts_only.mpr ⟨_, rfl, value⟩⟩
  exact ⟨a.name.toList, left ++ ':' :: '=' :: (right ++ (a.value.toList ++ after)), by simp,
    Piece.takes_some.mpr ⟨proper.named, proper.word⟩, left, _, rfl, Piece.takes_blanks.mpr leftBlank, sign⟩

/-- An assignment at the start of a text, as the search takes it: its value reaches to the end of the line, and the
blanks before the value reach as far as a value can follow. -/
structure Starts (a : Assignment) (text left right after : List Char) : Prop where
  proper : a.Proper
  leftBlank : ∀ c ∈ left, isBlank c = true
  rightBlank : ∀ c ∈ right, isBlank c = true
  split : text = a.name.toList ++ (left ++ ':' :: '=' :: (right ++ (a.value.toList ++ after)))
  line : ∀ c ∈ after.head?, c = '\n'
  longest : ∀ longer tail, right ++ (a.value.toList ++ after) = longer ++ tail →
    (∀ c ∈ longer, isBlank c = true) → (∃ c ∈ tail.head?, c ≠ '\n') → longer.length ≤ right.length

theorem starts_of_greedy {text : List Char} {kept : List (List Char)}
    (greedy : assignmentPattern.Greedy text kept) :
    ∃ a left right after, kept = [a.name.toList, a.value.toList] ∧ Starts a text left right after := by
  obtain ⟨name, rest, others, split, named, greedy, rfl, -⟩ := greedy
  obtain ⟨left, rest, others, rfl, leftBlank, greedy, rfl, -⟩ := greedy
  obtain ⟨rest, rfl, signed⟩ := Pattern.greedy_only.mp greedy
  obtain ⟨rest, rfl, spaced⟩ := Pattern.greedy_only.mp signed
  obtain ⟨right, rest, others, rfl, rightBlank, last, rfl, longest⟩ := spaced
  obtain ⟨value, after, others, rfl, valued, rfl, rfl, whole⟩ := last
  obtain ⟨given, word⟩ := Piece.takes_some.mp named
  obtain ⟨given', line⟩ := takes_line.mp valued
  refine ⟨⟨String.ofList name, String.ofList value⟩, left, right, after, by simp,
    ⟨⟨by simpa using given, by simpa using word, by simpa using given', by simpa using line⟩,
      Piece.takes_blanks.mp leftBlank, Piece.takes_blanks.mp rightBlank, by simpa using split, ?_, ?_⟩⟩
  · intro c next
    by_contra other
    obtain ⟨tail, rfl⟩ := List.head?_eq_some_iff.mp next
    have longer : restOfLine.Takes (value ++ [c]) :=
      takes_line.mpr ⟨by simp, List.forall_mem_append.mpr ⟨line, by simpa using other⟩⟩
    have bound := whole (value ++ [c]) tail (by simp) longer trivial
    rw [List.length_append, List.length_singleton] at bound
    omega
  · intro longer tail parts blank follows
    obtain ⟨c, next, other⟩ := follows
    obtain ⟨tail, rfl⟩ := List.head?_eq_some_iff.mp next
    have fits : Pattern.Accepts [restOfLine] (c :: tail) :=
      ⟨[c], tail, rfl, takes_line.mpr ⟨by simp, by simpa using other⟩, trivial⟩
    exact longest longer (c :: tail) (by simpa using parts) (Piece.takes_blanks.mpr blank) fits

theorem find?_some {s : String} {a : Assignment} (found : find? s = some a) :
    ∃ before rest left right after, s.toList = before ++ rest ∧ Starts a rest left right after ∧
      ∀ earlier later, before = earlier ++ later → later ≠ [] → ¬ assignmentPattern.Accepts (later ++ rest) := by
  unfold find? at found
  split at found
  · rename_i name value searched
    cases found
    obtain ⟨before, rest, split, greedy, first⟩ := Pattern.search_eq_some_iff.mp searched
    obtain ⟨a, left, right, after, kept, starts⟩ := starts_of_greedy greedy
    cases kept
    rw [String.ofList_toList, String.ofList_toList]
    exact ⟨before, rest, left, right, after, split, starts, first⟩
  · cases found

namespace Starts

variable {a : Assignment} {text left right after : List Char}

theorem covers (starts : a.Starts text left right after) :
    ∃ middle, text = middle ++ after ∧ a.Covers middle :=
  ⟨a.name.toList ++ (left ++ ':' :: '=' :: (right ++ a.value.toList)), by simp [starts.split],
    left, right, starts.leftBlank, starts.rightBlank, rfl⟩

theorem stop_word (blank : ∀ c ∈ left, isBlank c = true) (rest : List Char) :
    ∀ c ∈ (left ++ ':' :: rest).head?, isWord c = false := by
  intro c first
  cases left with
  | nil =>
    cases first
    exact isWord_colon
  | cons d left =>
    cases first
    exact isWord_of_blank (blank c List.mem_cons_self)

/-- An earlier word character would be part of the name. -/
theorem accepts_cons (starts : a.Starts text left right after) {c : Char} (word : isWord c = true) :
    assignmentPattern.Accepts (c :: text) := by
  let longer : Assignment := ⟨String.ofList (c :: a.name.toList), a.value⟩
  have proper : longer.Proper := by
    refine ⟨by simp [longer], ?_, starts.proper.valued, starts.proper.line⟩
    rw [String.toList_ofList, List.forall_mem_cons]
    exact ⟨word, starts.proper.word⟩
  obtain ⟨middle, rfl, left, right, leftBlank, rightBlank, rfl⟩ := starts.covers
  have covers : longer.Covers (c :: (a.name.toList ++ (left ++ ':' :: '=' :: (right ++ a.value.toList)))) :=
    ⟨left, right, leftBlank, rightBlank, by simp [longer]⟩
  exact covers.accepts proper after

theorem start_of_word (starts : a.Starts text left right after) {before : List Char}
    (first : ∀ earlier later, before = earlier ++ later → later ≠ [] → ¬ assignmentPattern.Accepts (later ++ text)) :
    ∀ c ∈ before.getLast?, isWord c = false := by
  intro c last
  by_contra word
  obtain ⟨earlier, rfl⟩ := List.getLast?_eq_some_iff.mp last
  exact first earlier [c] rfl (by simp) (starts.accepts_cons (by simpa using word))

theorem after_eq_nil (starts : a.Starts text left right after) {b : Assignment} (proper : b.Proper)
    (covers : b.Covers text) : after = [] := by
  obtain ⟨left', right', leftBlank', rightBlank', split'⟩ := covers
  have colon (rest : List Char) : ∀ c ∈ (':' :: rest).head?, isBlank c = false := by
    intro c first
    cases first
    decide
  obtain ⟨-, signs⟩ := run_unique (starts.split.symm.trans split') starts.proper.word proper.word
    (stop_word starts.leftBlank _) (stop_word leftBlank' _)
  obtain ⟨-, values⟩ := run_unique signs starts.leftBlank leftBlank' (colon _) (colon _)
  have same : right ++ (a.value.toList ++ after) = right' ++ b.value.toList := by simpa using values
  have follows : ∃ c ∈ b.value.toList.head?, c ≠ '\n' := by
    obtain ⟨c, rest, given⟩ := List.exists_cons_of_ne_nil proper.valued
    exact ⟨c, by simp [given], proper.line c (by simp [given])⟩
  have bound := starts.longest right' b.value.toList same rightBlank' follows
  obtain ⟨more, rfl⟩ := List.prefix_of_prefix_length_le ⟨_, same.symm⟩ (List.prefix_append right _) bound
  rw [List.append_assoc] at same
  have value := List.append_cancel_left same
  -- Something left over would start with a newline, and that newline would be part of the other value.
  cases after with
  | nil => rfl
  | cons c after =>
    have newline := starts.line c rfl
    exact absurd newline (proper.line c (by simp [← value]))

end Starts

def Form (text : List Char) : Prop := ∃ a : Assignment, a.Proper ∧ a.Covers text

theorem find?_covers_iff {s : String} {a : Assignment} (found : find? s = some a) :
    a.Covers s.toList ↔ Form s.toList := by
  obtain ⟨before, rest, left, right, after, split, starts, first⟩ := find?_some found
  constructor
  · intro covers
    exact ⟨a, starts.proper, covers⟩
  · rintro ⟨b, proper, covers⟩
    have nothing : before = [] := by
      by_contra visible
      have accepts := covers.accepts proper []
      rw [List.append_nil, split] at accepts
      exact first [] before rfl visible accepts
    rw [nothing, List.nil_append] at split
    rw [split] at covers ⊢
    obtain ⟨middle, rfl, whole⟩ := starts.covers
    rw [starts.after_eq_nil proper covers, List.append_nil]
    exact whole

/-- What is dropped ends before the name and starts with the line after the value. -/
theorem find?_around {s : String} {a : Assignment} (found : find? s = some a) :
    a.Proper ∧ ∃ before middle after, s.toList = before ++ (middle ++ after) ∧ a.Covers middle ∧
      (∀ c ∈ before.getLast?, isWord c = false) ∧ ∀ c ∈ after.head?, c = '\n' := by
  obtain ⟨before, rest, left, right, after, split, starts, first⟩ := find?_some found
  obtain ⟨middle, parts, covers⟩ := starts.covers
  exact ⟨starts.proper, before, middle, after, by rw [split, parts], covers, starts.start_of_word first, starts.line⟩

end Assignment

theorem compile_assign_line {expr : Option String} {line : Option Line} {room : Nat} {file : String} {indent : Int}
    {out : Output} {code : String}
    (emitted : (out.compile room file indent (.assign expr line)).1.listing.lines = out.listing.lines ++ [code]) :
    (out.compile room file indent (.assign expr line)).1.diagnostics = out.diagnostics ∧
      ∃ e a spaces, expr = some e ∧ Assignment.find? (strip e) = some a ∧
        code = indented spaces (tag ("set " ++ a.name ++ " = " ++ a.value)) := by
  cases expr with
  | none => simp [Output.compile, Statement.steps, required, Output.run, Output.step] at emitted
  | some e =>
    cases found : Assignment.find? (strip e) with
    | none =>
      simp [Output.compile, Statement.steps, required, assignSteps, found, Output.run, Output.step] at emitted
    | some a =>
      simp only [Output.compile, Statement.steps, required, assignSteps, found, Output.run, Output.step] at emitted ⊢
      unfold Listing.emit Listing.emitAll at emitted ⊢
      cases fits : placed room (indent + (0 : Nat)) with
      | error failure =>
        simp only [fits, Except.map, Output.receive] at emitted
        simp at emitted
      | ok spaces =>
        simp only [fits, Except.map, Output.receive, Listing.extend, List.map_cons, List.map_nil] at emitted ⊢
        refine ⟨trivial, e, a, spaces, rfl, found, ?_⟩
        simpa using emitted.symm

/-- An assignment that is written as a line is found in the stripped text without a warning. The text before the
name and the lines after the value are dropped, so nothing is lost exactly if the whole text is an assignment. -/
theorem compile_assign_kept_iff (expr : Option String) (line : Option Line) (room : Nat) (file : String)
    (indent : Int) (out : Output) {code : String}
    (emitted : (out.compile room file indent (.assign expr line)).1.listing.lines = out.listing.lines ++ [code]) :
    (out.compile room file indent (.assign expr line)).1.diagnostics = out.diagnostics ∧
      ∃ e spaces, ∃ a : Assignment, expr = some e ∧
        code = indented spaces (tag ("set " ++ a.name ++ " = " ++ a.value)) ∧ a.Proper ∧
        (∃ before middle after, (strip e).toList = before ++ (middle ++ after) ∧ a.Covers middle ∧
          (∀ c ∈ before.getLast?, isWord c = false) ∧ ∀ c ∈ after.head?, c = '\n') ∧
        (a.Covers (strip e).toList ↔ Assignment.Form (strip e).toList) := by
  obtain ⟨quiet, e, a, spaces, given, found, line⟩ := compile_assign_line emitted
  obtain ⟨proper, around⟩ := Assignment.find?_around found
  exact ⟨quiet, e, spaces, a, given, line, proper, around, Assignment.find?_covers_iff found⟩

theorem compile_assign_kept_iff_break :
    (Output.compile 80 "f.sql" {} 2 (.assign (some " x :=\n 1 ") none)).1.listing.lines =
        ["  \x7b% set x = 1 %\x7d"] ∧
      Assignment.Form (strip " x :=\n 1 ").toList ∧
      ∃ spaces, ∃ a : Assignment,
        "  \x7b% set x = 1 %\x7d" = indented spaces (tag ("set " ++ a.name ++ " = " ++ a.value)) ∧
        a.Covers (strip " x :=\n 1 ").toList := by
  have emitted : (Output.compile 80 "f.sql" {} 2 (.assign (some " x :=\n 1 ") none)).1.listing.lines =
      [] ++ ["  \x7b% set x = 1 %\x7d"] := by decide +kernel
  have whole : Assignment.Form (strip " x :=\n 1 ").toList := by
    have proper : (⟨"x", "1"⟩ : Assignment).Proper :=
      ⟨by decide, List.all_eq_true.mp (by decide), by decide, by simp⟩
    have left : ∀ c ∈ [' '], isBlank c = true := List.all_eq_true.mp (by decide)
    have right : ∀ c ∈ ['\n', ' '], isBlank c = true := List.all_eq_true.mp (by decide)
    exact ⟨_, proper, [' '], ['\n', ' '], left, right, by decide⟩
  obtain ⟨-, e, spaces, a, given, line, -, -, kept⟩ := compile_assign_kept_iff _ none 80 "f.sql" 2 {} emitted
  cases given
  exact ⟨emitted, whole, spaces, a, line, kept.mpr whole⟩

/-- The second line of a value is dropped, and so is the record that a field belongs to. -/
theorem compile_assign_dropped :
    (Output.compile 80 "f.sql" {} 0 (.assign (some "x := 1\n+ 2") none)).1.listing.lines =
        ["\x7b% set x = 1 %\x7d"] ∧
      (Output.compile 80 "f.sql" {} 0 (.assign (some "x := 1\n+ 2") none)).1.diagnostics = [] ∧
      ¬ (⟨"x", "1"⟩ : Assignment).Covers (strip "x := 1\n+ 2").toList ∧
      (Output.compile 80 "f.sql" {} 0 (.assign (some "r.x := 1") none)).1.listing.lines =
        ["\x7b% set x = 1 %\x7d"] ∧
      (Output.compile 80 "f.sql" {} 0 (.assign (some "r.x := 1") none)).1.diagnostics = [] ∧
      ¬ (⟨"x", "1"⟩ : Assignment).Covers (strip "r.x := 1").toList := by
  have flush : strip "x := 1\n+ 2" = "x := 1\n+ 2" ∧ strip "r.x := 1" = "r.x := 1" := by decide
  rw [flush.1, flush.2]
  refine ⟨by decide +kernel, by decide +kernel, ?_, by decide +kernel, by decide +kernel, ?_⟩
  · rintro ⟨left, right, -, -, split⟩
    have last := congrArg (fun text => text.reverse.head?) split
    simp at last
  · rintro ⟨left, right, -, -, split⟩
    have first := congrArg List.head? split
    simp at first

end Jinja
end PgJinja
