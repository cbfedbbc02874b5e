import Mathlib.Algebra.Group.Nat.Defs
import PgJinja.Proofs.SourceLines

/-! Where the carets stand: under the first word of the quoted line, as long as its number fits into the gutter. -/
namespace PgJinja

theorem Text.idxOf?_split {c : Char} {before : List Char} (absent : c ∉ before) (after : List Char) :
    (before ++ c :: after).idxOf? c = some before.length := by
  have missing : before.findIdx? (· == c) = none := by
    rw [List.findIdx?_eq_none_iff]
    intro b member
    apply beq_eq_false_iff_ne.mpr
    rintro rfl
    exact absent member
  rw [List.idxOf?, List.findIdx?_append, missing]
  simp [List.findIdx?_cons]

theorem Text.padLeft_length (width : Nat) (s : String) : (padLeft width s).length = max width s.length := by
  simp only [padLeft, copies, String.length_append, String.length_ofList, List.length_replicate]
  omega

theorem intText_length_le {n : Int} (positive : 0 < n) {k : Nat} (some_digit : 0 < k) :
    (intText n).length ≤ k ↔ n < (10 ^ k : Nat) := by
  obtain ⟨m, rfl⟩ := Int.eq_ofNat_of_zero_le (Int.le_of_lt positive)
  have digits : (intText m).length = (Nat.toDigits 10 m).length := by
    rw [← String.length_toList]
    exact congrArg _ String.toList_ofList
  rw [digits, Nat.length_toDigits_le_iff (by decide) some_digit]
  omega

namespace Diagnostic

variable {sources : Sources} {d : Diagnostic} {source : String}

/-- The first caret of the lower line stands in the column of the first visible character of the text that the
upper line ends with, or just past its end when all of it is blank. -/
def CaretBelow (quoted upper lower : String) : Prop :=
  ∃ front, upper = front ++ quoted ∧
    lower.toList.idxOf? '^' = some (front.length + quoted.toList.findIdx fun c => !Text.isBlank c)

def BarBelow (upper lower : String) : Prop :=
  ∃ column, upper.toList.idxOf? '|' = some column ∧ lower.toList.idxOf? '|' = some column

def numberWidth (d : Diagnostic) : Nat := max (gutterWidth - 1) (intText d.line.value).length

theorem quotation_bar (d : Diagnostic) (quoted : String) :
    (d.quotation quoted).toList.idxOf? '|' = some (d.numberWidth + 1) := by
  have number := not_mem_intText (c := '|') (by decide) (by decide) d.line.value
  have absent : '|' ∉ (Text.padLeft (gutterWidth - 1) (intText d.line.value)).toList ++ [' '] := by
    simp [Text.padLeft, Text.copies, number]
  have split : (d.quotation quoted).toList =
      ((Text.padLeft (gutterWidth - 1) (intText d.line.value)).toList ++ [' ']) ++ '|' :: ' ' :: quoted.toList := by
    simp [quotation]
  rw [split, Text.idxOf?_split absent, List.length_append, String.length_toList, Text.padLeft_length]
  rfl

theorem marking_bar (quoted : String) : (marking quoted).toList.idxOf? '|' = some gutterWidth := by
  have split : (marking quoted).toList =
      List.replicate gutterWidth ' ' ++ '|' :: ' ' :: underline quoted.toList := by
    simp [marking, gutter, Text.copies]
  rw [split, Text.idxOf?_split (by decide), List.length_replicate]

theorem visible_column (quoted : List Char) :
    (quoted.findIdx fun c => !Text.isBlank c) = (quoted.takeWhile Text.isBlank).length := by
  rw [List.takeWhile_eq_take_findIdx_not, List.length_take]
  have bound : (quoted.findIdx fun c => !Text.isBlank c) ≤ quoted.length := List.findIdx_le_length
  omega

theorem marking_caret (quoted : String) :
    (marking quoted).toList.idxOf? '^' =
      some (gutterWidth + 2 + quoted.toList.findIdx fun c => !Text.isBlank c) := by
  have indent : '^' ∉ quoted.toList.takeWhile Text.isBlank := by
    intro member
    have blank : Text.isBlank '^' = true := List.all_eq_true.mp List.all_takeWhile '^' member
    revert blank
    decide
  -- There is at least one caret.
  obtain ⟨more, carets⟩ : ∃ more,
      underline quoted.toList = quoted.toList.takeWhile Text.isBlank ++ '^' :: List.replicate more '^' := by
    refine ⟨max 1 (firstWord quoted.toList).length - 1, ?_⟩
    rw [underline_eq, ← List.replicate_succ]
    congr 2
    omega
  have split : (marking quoted).toList = (gutter.toList ++ ' ' :: quoted.toList.takeWhile Text.isBlank) ++
      '^' :: List.replicate more '^' := by
    simp [marking, carets]
  have absent : '^' ∉ gutter.toList ++ ' ' :: quoted.toList.takeWhile Text.isBlank := by
    simp [gutter, Text.copies, indent]
  rw [split, Text.idxOf?_split absent, visible_column]
  simp [gutter, Text.copies]
  omega

/-- The quoted line is shifted by the columns that its number takes beyond four. -/
theorem caretBelow_iff (d : Diagnostic) (quoted : String) :
    CaretBelow quoted (d.quotation quoted) (marking quoted) ↔ d.numberWidth = gutterWidth - 1 := by
  have front : (Text.padLeft (gutterWidth - 1) (intText d.line.value) ++ " | ").length = d.numberWidth + 3 := by
    rw [String.length_append, Text.padLeft_length]
    rfl
  rw [CaretBelow, marking_caret]
  constructor
  · rintro ⟨other, upper, column⟩
    have same : other = Text.padLeft (gutterWidth - 1) (intText d.line.value) ++ " | " := by
      apply String.toList_inj.mp
      have texts := congrArg String.toList upper
      rw [quotation, String.toList_append, String.toList_append (s := other)] at texts
      exact (List.append_cancel_right texts).symm
    rw [same, front] at column
    simp only [Option.some.injEq, gutterWidth] at column ⊢
    omega
  · intro narrow
    refine ⟨_, rfl, ?_⟩
    rw [front, narrow]
    rfl

theorem barBelow_iff (d : Diagnostic) (quoted : String) :
    BarBelow (d.quotation quoted) (marking quoted) ↔ d.numberWidth = gutterWidth - 1 := by
  rw [BarBelow, quotation_bar, marking_bar]
  constructor
  · rintro ⟨column, upper, lower⟩
    simp only [Option.some.injEq, gutterWidth] at upper lower ⊢
    omega
  · intro narrow
    exact ⟨_, by rw [narrow]; rfl, rfl⟩

theorem numberWidth_eq_iff {d : Diagnostic} (positive : 0 < d.line.value) :
    d.numberWidth = gutterWidth - 1 ↔ d.line.value < 10000 := by
  have digits := intText_length_le positive (k := 4) (by decide)
  simp only [numberWidth, gutterWidth]
  omega

/-- A diagnostic at a line of a known source is printed with that line and the carets right below it, as long as its
numbers can be written at all. The first caret stands under the first visible character, and the bars under each other,
exactly if the number of the line has at most four digits. -/
theorem report_aligned_iff (sources : Sources) (d : Diagnostic) (source : String)
    (known : sources.Knows d.file source)
    (number : 1 ≤ d.line.value ∧ d.line.value ≤ (Text.lines source).length) :
    (d.isShort = true → d.format sources = .ok (d.report sources)) ∧
      ∃ quoted, (Text.lines source)[(d.line.value - 1).toNat]? = some quoted ∧
        Text.Prints (d.report sources) (d.quotation quoted) (marking quoted) ∧
        (CaretBelow quoted (d.quotation quoted) (marking quoted) ↔ d.line.value < 10000) ∧
        (BarBelow (d.quotation quoted) (marking quoted) ↔ d.line.value < 10000) := by
  obtain ⟨quoted, member, nth, shown⟩ := known.line number
  have narrow : d.numberWidth = gutterWidth - 1 ↔ d.line.value < 10000 := numberWidth_eq_iff (by omega)
  exact ⟨format_short sources, quoted, nth, report_prints member shown, (caretBelow_iff d quoted).trans narrow,
    (barBelow_iff d quoted).trans narrow⟩

end Diagnostic

namespace Sample

def noted (line : Int) : Diagnostic := { severity := .warning, message := "m", file := "f.sql", line := .number line }

def tall (n : Nat) : String := String.ofList (List.replicate n '\n' ++ ['x'])

theorem tall_lines (n : Nat) : Text.lines (tall n) = List.replicate n "" ++ ["x"] := by
  have split : Text.splitAtChar '\n' (List.replicate n '\n' ++ ['x']) = List.replicate n [] ++ [['x']] := by
    induction n with
    | zero => rfl
    | succ n ih =>
      rw [List.replicate_succ, List.cons_append, Text.splitAtChar, if_pos rfl, ih]
      rfl
  rw [Text.lines, tall, String.toList_ofList, split, List.map_append, List.map_replicate]
  rfl

theorem tall_last (n : Nat) : (Text.lines (tall n))[n]? = some "x" := by
  rw [tall_lines, List.getElem?_append_right (by simp)]
  simp

end Sample

namespace Diagnostic

theorem report_aligned_iff_blank :
    (Sources.add [] "f.sql" "a\n \t\n").Knows (Sample.noted 2).file "a\n \t\n" ∧
      (1 ≤ (Sample.noted 2).line.value ∧ (Sample.noted 2).line.value ≤ (Text.lines "a\n \t\n").length) ∧
      Text.Prints ((Sample.noted 2).report (Sources.add [] "f.sql" "a\n \t\n")) "   2 |  \t" "     |  \t^" ∧
      CaretBelow " \t" "   2 |  \t" "     |  \t^" ∧ BarBelow "   2 |  \t" "     |  \t^" := by
  have known := Sources.add_knows [] "f.sql" "a\n \t\n"
  have number : 1 ≤ (Sample.noted 2).line.value ∧
      (Sample.noted 2).line.value ≤ (Text.lines "a\n \t\n").length := by decide
  obtain ⟨-, quoted, nth, printed, caret, bar⟩ := report_aligned_iff _ (Sample.noted 2) _ known number
  obtain rfl : " \t" = quoted := by
    cases nth
    rfl
  have upper : (Sample.noted 2).quotation " \t" = "   2 |  \t" := by rfl
  have lower : marking " \t" = "     |  \t^" := by rfl
  rw [upper, lower] at printed caret bar
  exact ⟨known, number, printed, caret.mpr (by decide), bar.mpr (by decide)⟩

/-- At line 10000 the carets and the bar below the source line stand one column too far left. -/
theorem report_misaligned :
    (Sources.add [] "f.sql" (Sample.tall 9999)).Knows (Sample.noted 10000).file (Sample.tall 9999) ∧
      (1 ≤ (Sample.noted 10000).line.value ∧
        (Sample.noted 10000).line.value ≤ (Text.lines (Sample.tall 9999)).length) ∧
      (Text.lines (Sample.tall 9999))[9999]? = some "x" ∧
      Text.Prints ((Sample.noted 10000).report (Sources.add [] "f.sql" (Sample.tall 9999))) "10000 | x" "     | ^" ∧
      ¬ CaretBelow "x" "10000 | x" "     | ^" ∧ ¬ BarBelow "10000 | x" "     | ^" := by
  have known := Sources.add_knows [] "f.sql" (Sample.tall 9999)
  have last := Sample.tall_last 9999
  have number : 1 ≤ (Sample.noted 10000).line.value ∧
      (Sample.noted 10000).line.value ≤ (Text.lines (Sample.tall 9999)).length := by
    rw [Sample.tall_lines, List.length_append, List.length_replicate]
    decide
  obtain ⟨quoted, member, nth, shown⟩ := Sources.Knows.line (d := Sample.noted 10000) known number
  obtain rfl : "x" = quoted := Option.some.inj (last.symm.trans nth)
  have printed := report_prints member shown
  have caret := caretBelow_iff (Sample.noted 10000) "x"
  have bar := barBelow_iff (Sample.noted 10000) "x"
  have upper : (Sample.noted 10000).quotation "x" = "10000 | x" := by rfl
  have lower : marking "x" = "     | ^" := by rfl
  rw [upper, lower] at printed caret bar
  have wide : ¬ (Sample.noted 10000).numberWidth = gutterWidth - 1 := by
    rw [numberWidth_eq_iff (by decide)]
    decide
  exact ⟨known, number, last, printed, fun below => wide (caret.mp below), fun below => wide (bar.mp below)⟩

end Diagnostic
end PgJinja
