import Mathlib.Data.List.Infix
import PgJinja.Proofs.Matching
import PgJinja.Proofs.Run
import PgJinja.Proofs.Text

/-! Lists of values in the arms of a case. A list ends at the first closing parenthesis, also where that one
belongs to a call in the list. -/
namespace PgJinja

namespace Jinja

open Text

/-- Parentheses that close only what is open, and leave nothing open. -/
structure Paired (cs : List Char) : Prop where
  opened : ∀ before ∈ cs.inits, before.count ')' ≤ before.count '('
  closed : cs.count '(' = cs.count ')'

def beforeClosing (v : String) : String := String.ofList (v.toList.takeWhile (· != ')'))

theorem closing_split (cs : List Char) : ∃ rest, cs ++ [')'] = cs.takeWhile (· != ')') ++ ')' :: rest := by
  induction cs with
  | nil => exact ⟨[], rfl⟩
  | cons c cs ih =>
    by_cases closing : c = ')'
    · subst closing
      exact ⟨cs ++ [')'], by simp⟩
    · obtain ⟨rest, split⟩ := ih
      refine ⟨rest, ?_⟩
      rw [List.takeWhile_cons_of_pos (by simpa using closing), List.cons_append, split, List.cons_append]

def listed : Piece := ⟨(· != ')'), .some, true⟩

theorem stops_blanks {c : Char} (visible : isBlank c = false) (rest : List Char) :
    ∀ d ∈ (c :: rest).head?, Piece.blanks.accepts d = false := by
  intro d first
  cases first
  exact visible

/-- What is taken from the parentheses: their contents without the blanks at the start, or the last one of blanks
alone. -/
def listValues (inner : List Char) : List Char :=
  if inner.all isBlank then inner.getLast?.toList else trimLeft inner

theorem listValues_flush {inner : List Char} (flush : ∀ c ∈ inner.head?, isBlank c = false) :
    listValues inner = inner := by
  cases inner with
  | nil => rfl
  | cons c rest => simp [listValues, trimLeft, flush c rfl]

theorem takes_listed {run : List Char} : listed.Takes run ↔ run ≠ [] ∧ ')' ∉ run := by
  rw [listed, Piece.takes_some]
  refine and_congr_right fun _ => ?_
  constructor
  · intro each member
    simpa using each ')' member
  · intro absent c member
    rw [bne_iff_ne]
    rintro rfl
    exact absent member

theorem listed_greedy {run : List Char} (given : run ≠ []) (inside : ')' ∉ run) (after : List Char) :
    Pattern.Greedy [listed, .blanks, .only ')'] (run ++ ')' :: after) [run] := by
  have none : Piece.blanks.Takes [] := Piece.takes_blanks.mpr (by simp)
  have closing : Pattern.Greedy [.only ')'] (')' :: after) [] := Pattern.greedy_only.mpr ⟨after, rfl, rfl⟩
  have trailing := closing.stops none (stops_blanks (by decide) after)
  exact trailing.stops (takes_listed.mpr ⟨given, inside⟩) (by simp [listed])

theorem inner_greedy {inner : List Char} (given : inner ≠ []) (inside : ')' ∉ inner) (after : List Char) :
    Pattern.Greedy [.blanks, listed, .blanks, .only ')'] (inner ++ ')' :: after) [listValues inner] := by
  by_cases blank : inner.all isBlank = true
  · obtain ⟨lead, last, rfl⟩ := (List.eq_nil_or_concat' inner).resolve_left given
    have values : listValues (lead ++ [last]) = [last] := by rw [listValues, if_pos blank]; simp
    rw [List.all_eq_true] at blank
    have kept := listed_greedy (List.cons_ne_nil last []) (fun member => inside (List.mem_append_right _ member)) after
    rw [values, List.append_assoc]
    refine ⟨lead, _, _, rfl, Piece.takes_blanks.mpr (List.forall_mem_append.mp blank).1, kept, rfl, ?_⟩
    intro longer tail split takes fits
    by_contra more
    rw [← List.append_assoc] at split
    have bound := run_length_le split takes.accepted (stops_blanks (by decide) after)
    rw [List.length_append, List.length_singleton] at bound
    -- All blanks would be taken, and nothing would be left before the parenthesis.
    obtain ⟨rfl, rfl⟩ := List.append_inj split (by rw [List.length_append, List.length_singleton]; omega)
    obtain ⟨run, rest, parts, listed, -⟩ := fits
    obtain ⟨nonempty, absent⟩ := takes_listed.mp listed
    obtain ⟨c, run, rfl⟩ := List.exists_cons_of_ne_nil nonempty
    cases parts
    exact absent List.mem_cons_self
  · have split : inner.takeWhile isBlank ++ trimLeft inner = inner := List.takeWhile_append_dropWhile
    have visible : trimLeft inner ≠ [] := by
      intro nothing
      exact blank (List.all_eq_true.mpr (List.dropWhile_eq_nil_iff.mp nothing))
    have head : ∀ c ∈ (trimLeft inner ++ ')' :: after).head?, isBlank c = false := by
      obtain ⟨c, rest, shown⟩ := List.exists_cons_of_ne_nil visible
      rw [shown]
      exact stops_blanks (trimLeft_head shown) (rest ++ ')' :: after)
    have absent : ')' ∉ trimLeft inner := fun member => inside (List.dropWhile_subset _ member)
    have lead : Piece.blanks.Takes (inner.takeWhile isBlank) :=
      Piece.takes_blanks.mpr fun c => List.mem_takeWhile_imp
    have leading := (listed_greedy visible absent after).stops lead head
    rw [← List.append_assoc, split] at leading
    rwa [listValues, if_neg blank]

theorem inListPattern_greedy {blanks inner : List Char} (blank : ∀ c ∈ blanks, isBlank c = true)
    (given : inner ≠ []) (inside : ')' ∉ inner) (after : List Char) :
    inListPattern.Greedy ('I' :: 'N' :: (blanks ++ '(' :: (inner ++ ')' :: after))) [listValues inner] := by
  have opening : Pattern.Greedy [.only '(', .blanks, listed, .blanks, .only ')'] ('(' :: (inner ++ ')' :: after))
      [listValues inner] := Pattern.greedy_only.mpr ⟨_, rfl, inner_greedy given inside after⟩
  have word := opening.stops (Piece.takes_blanks.mpr blank) (stops_blanks (by decide) _)
  exact Pattern.greedy_only.mpr ⟨_, rfl, Pattern.greedy_only.mpr ⟨_, rfl, word⟩⟩

theorem inListPattern_start {cs : List Char} (fits : inListPattern.Accepts cs) :
    ∃ rest, cs = 'I' :: 'N' :: rest := by
  obtain ⟨tail, rfl, second⟩ := Pattern.accepts_only.mp fits
  obtain ⟨rest, rfl, -⟩ := Pattern.accepts_only.mp second
  exact ⟨rest, rfl⟩

theorem inListPattern_subject {subject earlier later rest : List Char} (plain : ¬ ['I', 'N'] <:+: subject)
    (split : subject ++ [' '] = earlier ++ later) (visible : later ≠ []) :
    ¬ inListPattern.Accepts (later ++ rest) := by
  intro fits
  obtain ⟨tail, start⟩ := inListPattern_start fits
  rcases List.eq_nil_or_concat' later with rfl | ⟨inside, c, rfl⟩
  · exact visible rfl
  · rw [← List.append_assoc] at split
    obtain ⟨rfl, same⟩ := List.append_inj' split rfl
    cases same
    cases inside with
    | nil => simp at start
    | cons c inside =>
      cases inside with
      | nil => simp at start
      | cons d inside =>
        simp only [List.cons_append, List.cons.injEq] at start
        obtain ⟨rfl, rfl, -⟩ := start
        exact plain ⟨earlier, inside, by simp⟩

theorem inListValues?_cut {s v : String} (plain : contains s "IN" = false)
    (given : v.toList.takeWhile (· != ')') ≠ []) (flush : ∀ c ∈ v.toList.head?, isBlank c = false) :
    inListValues? (s ++ " IN (" ++ v ++ ")") = some (beforeClosing v) := by
  have absent : ¬ ['I', 'N'] <:+: s.toList := by
    intro within
    have holds : contains s "IN" = true := (occurs_iff ['I', 'N'] s.toList).mpr within
    rw [plain] at holds
    cases holds
  obtain ⟨after, closed⟩ := closing_split v.toList
  have inside : ')' ∉ v.toList.takeWhile (· != ')') := by
    intro member
    simpa using List.mem_takeWhile_imp member
  have start : ∀ c ∈ (v.toList.takeWhile (· != ')')).head?, isBlank c = false := by
    intro c first
    rw [List.head?_takeWhile] at first
    exact flush c (Option.mem_filter_iff.mp first).1
  have space : ∀ c ∈ [' '], isBlank c = true := List.all_eq_true.mp (by decide)
  have greedy := inListPattern_greedy space given inside after
  rw [listValues_flush start] at greedy
  have found : inListPattern.search (s ++ " IN (" ++ v ++ ")").toList = some [v.toList.takeWhile (· != ')')] := by
    refine Pattern.search_eq_some_iff.mpr ⟨s.toList ++ [' '], _, by simp [← closed], greedy, ?_⟩
    intro earlier later split visible
    exact inListPattern_subject absent split visible
  rw [inListValues?, found]
  rfl

theorem Paired.start {c : Char} {cs : List Char} (paired : Paired (c :: cs)) : c ≠ ')' := by
  rintro rfl
  have bound := paired.opened [')'] (List.mem_inits _ _ |>.mpr ⟨cs, rfl⟩)
  revert bound
  decide

theorem Paired.takeWhile_ne_nil {cs : List Char} (paired : Paired cs) (given : cs ≠ []) :
    cs.takeWhile (· != ')') ≠ [] := by
  obtain ⟨c, rest, rfl⟩ := List.exists_cons_of_ne_nil given
  simp [paired.start]

theorem beforeClosing_eq_iff {v : String} (paired : Paired v.toList) :
    beforeClosing v = v ↔ '(' ∉ v.toList := by
  have whole : beforeClosing v = v ↔ ')' ∉ v.toList := by
    rw [beforeClosing, ← String.toList_inj, String.toList_ofList, List.takeWhile_eq_self_iff]
    constructor
    · intro each member
      simpa using each ')' member
    · intro absent c member
      rw [bne_iff_ne]
      rintro rfl
      exact absent member
  rw [whole, ← List.count_eq_zero, ← List.count_eq_zero, paired.closed]

theorem whenSteps_append (depth : Nat) (keyword subject : String) (arms : List Branch) (test : Option String)
    (body : List Statement) (line : Option Line) (rest : List Branch) :
    Branch.whenSteps depth keyword subject (arms ++ .mk test body line :: rest) =
      Branch.whenSteps depth keyword subject arms ++
        (armSteps depth (if arms.isEmpty then keyword else "elif") subject line test ++
          (Statement.listSteps (depth + deeper) body ++ Branch.whenSteps depth "elif" subject rest)) := by
  induction arms generalizing keyword with
  | nil => simp [Branch.whenSteps]
  | cons b arms ih =>
    cases b with
    | mk test' body' line' => simp [Branch.whenSteps, ih]

theorem steps_select {arms : List Branch} (tested : arms ≠ []) (subject : String) (hasElse : Bool)
    (otherwise : List Statement) (line : Option Line) (depth : Nat) :
    ∃ later, (Statement.select (some subject) arms hasElse otherwise line).steps depth =
      Branch.whenSteps depth "if" (strip subject) arms ++ later := by
  obtain ⟨b, rest, rfl⟩ := List.exists_cons_of_ne_nil tested
  rw [Statement.steps, required, List.append_assoc]
  exact ⟨_, rfl⟩

/-- Of a list of values with paired parentheses, what stands before the first closing one is found and written in
the test of the arm, without a warning. This is the whole list exactly if it has no parentheses. -/
theorem select_values_whole_iff (s v : String) (plain : contains s "IN" = false) (given : v ≠ "")
    (flush : ∀ c ∈ v.toList.head?, isBlank c = false) (paired : Paired v.toList) :
    inListValues? (s ++ " IN (" ++ v ++ ")") = some (beforeClosing v) ∧
      (inListValues? (s ++ " IN (" ++ v ++ ")") = some v ↔ '(' ∉ v.toList) ∧
      ∀ (subject : String) (arms : List Branch) (body : List Statement) (line : Option Line) (rest : List Branch)
        (hasElse : Bool) (otherwise : List Statement) (here : Option Line) (depth : Nat),
        ∃ later,
          (Statement.select (some subject) (arms ++ .mk (some (s ++ " IN (" ++ v ++ ")")) body line :: rest)
              hasElse otherwise here).steps depth =
            Branch.whenSteps depth "if" (strip subject) arms ++
              .emit depth (tag ((if arms.isEmpty then "if" else "elif") ++ " " ++ strip subject ++ " in (" ++
                beforeClosing v ++ ")")) :: later := by
  have visible : v.toList ≠ [] := by simpa using given
  have found := inListValues?_cut plain (paired.takeWhile_ne_nil visible) flush
  refine ⟨found, ?_, ?_⟩
  · rw [found, Option.some_inj]
    exact beforeClosing_eq_iff paired
  · intro subject arms body line rest hasElse otherwise here depth
    have tested : arms ++ .mk (some (s ++ " IN (" ++ v ++ ")")) body line :: rest ≠ [] := by simp
    obtain ⟨later, steps⟩ := steps_select tested subject hasElse otherwise here depth
    rw [steps, whenSteps_append, armSteps, found, List.append_assoc]
    exact ⟨_, rfl⟩

theorem select_values_whole_iff_second :
    let v := "'A', 'B' "
    contains "x" "IN" = false ∧ v ≠ "" ∧ (∀ c ∈ v.toList.head?, isBlank c = false) ∧ Paired v.toList ∧
      inListValues? "x IN ('A', 'B' )" = some v ∧
      ∃ later, (Statement.select (some " x ") [.mk (some "x IN (1)") [] none, .mk (some "x IN ('A', 'B' )") [] none]
          false [] none).steps 0 =
        Branch.whenSteps 0 "if" "x" [.mk (some "x IN (1)") [] none] ++
          .emit 0 "\x7b% elif x in ('A', 'B' ) %\x7d" :: later := by
  intro v
  have plain : contains "x" "IN" = false := by decide
  have flush : ∀ c ∈ "'A', 'B' ".toList.head?, isBlank c = false := by
    intro c first
    cases first
    decide
  have paired : Paired v.toList := ⟨by decide, by decide⟩
  have text : "x" ++ " IN (" ++ v ++ ")" = "x IN ('A', 'B' )" := by decide
  have line : tag ("elif" ++ " " ++ "x" ++ " in (" ++ beforeClosing v ++ ")") =
      "\x7b% elif x in ('A', 'B' ) %\x7d" := by decide
  obtain ⟨-, whole, written⟩ := select_values_whole_iff "x" v plain (by decide) flush paired
  obtain ⟨later, steps⟩ := written " x " [.mk (some "x IN (1)") [] none] [] none [] false [] none 0
  rw [text] at whole steps
  refine ⟨plain, by decide, flush, paired, whole.mpr (by decide), later, steps.trans ?_⟩
  rw [← line]
  rfl

/-- A list that calls a function is cut inside the call. -/
theorem select_values_cut :
    let v := "f(1), 2"
    contains "x" "IN" = false ∧ v ≠ "" ∧ (∀ c ∈ v.toList.head?, isBlank c = false) ∧ Paired v.toList ∧
      inListValues? ("x" ++ " IN (" ++ v ++ ")") ≠ some v ∧
      (compileAll 80 [.select (some "x") [.mk (some "x IN (f(1), 2)") [] none] false [] none] 0 ⟨0⟩
        "f.sql").1.listing.lines = ["\x7b% if x in (f(1) %\x7d", "\x7b% endif %\x7d"] := by
  refine ⟨by decide, by decide, ?_, ⟨by decide, by decide⟩, by decide, by decide⟩
  intro c first
  cases first
  decide

end Jinja
end PgJinja
