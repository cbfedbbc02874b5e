import PgJinja.Diagnostic.Report
import PgJinja.Proofs.Text

/-! What stands below a quoted line: its indent as it is, and then carets, as many as its first word is long. -/
namespace PgJinja

namespace Text

def spaceSeparators : List Nat :=
  [0x20, 0xA0, 0x1680] ++ List.range' 0x2000 11 ++ [0x202F, 0x205F, 0x3000]

def paragraphSeparators : List Nat := [0xA, 0xD, 0x1C, 0x1D, 0x1E, 0x85, 0x2029]

def segmentSeparators : List Nat := [0x9, 0xB, 0x1F]

def neutralSpaces : List Nat :=
  [0xC, 0x20, 0x1680] ++ List.range' 0x2000 11 ++ [0x2028, 0x205F, 0x3000]

/-- Whitespace by its properties in Unicode, said without the table of blanks. -/
def Whitespace (c : Char) : Prop :=
  c.toNat ∈ spaceSeparators ∨ c.toNat ∈ paragraphSeparators ∨ c.toNat ∈ segmentSeparators ∨
    c.toNat ∈ neutralSpaces

instance : DecidablePred Whitespace := fun _ => inferInstanceAs (Decidable (_ ∨ _))

theorem isBlank_iff (c : Char) : isBlank c = true ↔ Whitespace c := by
  simp only [isBlank, inRanges, blankRanges, Whitespace, spaceSeparators, paragraphSeparators, segmentSeparators,
    neutralSpaces, List.any_cons, List.any_nil, Bool.or_eq_true, Bool.and_eq_true, decide_eq_true_eq,
    List.mem_append, List.mem_cons, List.mem_range'_1, List.not_mem_nil, Bool.false_eq_true, or_false]
  omega

theorem not_isBlank_iff (c : Char) : (!isBlank c) = true ↔ ¬ Whitespace c := by
  rw [Bool.not_eq_true', ← isBlank_iff, Bool.not_eq_true]

def LeadingRun (fits : Char → Prop) (text : List Char) (n : Nat) : Prop :=
  n ≤ text.length ∧ (∀ c ∈ text.take n, fits c) ∧ ∀ c ∈ text[n]?, ¬ fits c

section LeadingRun

variable {fits : Char → Prop} {c : Char} {text : List Char} {n : Nat}

theorem leadingRun_nil : LeadingRun fits [] n ↔ n = 0 := by
  simp [LeadingRun]

theorem leadingRun_zero : LeadingRun fits (c :: text) 0 ↔ ¬ fits c := by
  simp [LeadingRun]

theorem leadingRun_succ : LeadingRun fits (c :: text) (n + 1) ↔ fits c ∧ LeadingRun fits text n := by
  simp only [LeadingRun, List.length_cons, Nat.add_le_add_iff_right, List.take_succ_cons, List.forall_mem_cons,
    List.getElem?_cons_succ]
  constructor
  · rintro ⟨within, ⟨first, run⟩, stops⟩
    exact ⟨first, within, run, stops⟩
  · rintro ⟨first, within, run, stops⟩
    exact ⟨within, ⟨first, run⟩, stops⟩

theorem leadingRun_iff {accepts : Char → Bool} (same : ∀ c, accepts c = true ↔ fits c) :
    LeadingRun fits text n ↔ n = (text.takeWhile accepts).length := by
  induction text generalizing n with
  | nil => exact leadingRun_nil
  | cons c text ih =>
    -- A character that fits makes the run longer by one, and any other ends it.
    by_cases fit : accepts c = true
    · rw [List.takeWhile_cons_of_pos fit, List.length_cons]
      cases n with
      | zero => simp [leadingRun_zero, (same c).mp fit]
      | succ n => simp [leadingRun_succ, (same c).mp fit, ih]
    · have unfit : ¬ fits c := fun fits => fit ((same c).mpr fits)
      rw [List.takeWhile_cons_of_neg fit]
      cases n with
      | zero => simp [leadingRun_zero, unfit]
      | succ n => simp [leadingRun_succ, unfit]

end LeadingRun

theorem take_indent (line : List Char) : line.take (line.takeWhile isBlank).length = line.takeWhile isBlank :=
  (List.prefix_iff_eq_take.mp (List.takeWhile_prefix _)).symm

theorem drop_indent (line : List Char) : line.drop (line.takeWhile isBlank).length = trimLeft line := by
  have split : line.takeWhile isBlank ++ trimLeft line = line := List.takeWhile_append_dropWhile
  calc line.drop (line.takeWhile isBlank).length
      = (line.takeWhile isBlank ++ trimLeft line).drop (line.takeWhile isBlank).length := by rw [split]
    _ = trimLeft line := List.drop_left

theorem indent_length (line : List Char) :
    line.length - (trimLeft line).length = (line.takeWhile isBlank).length := by
  have split : line.takeWhile isBlank ++ trimLeft line = line := List.takeWhile_append_dropWhile
  have lengths := congrArg List.length split
  rw [List.length_append] at lengths
  omega

theorem trimLeft_trimLeft (line : List Char) : trimLeft (trimLeft line) = trimLeft line :=
  List.dropWhile_idempotent _ line

theorem trimLeft_cases (line : List Char) :
    ((∀ c ∈ line, Whitespace c) ∧ trimLeft line = []) ∨
      ∃ c ∈ line, ¬ Whitespace c ∧ ∃ rest, trimLeft line = c :: rest := by
  cases left : trimLeft line with
  | nil =>
    have blank := List.dropWhile_eq_nil_iff.mp left
    exact .inl ⟨fun c member => (isBlank_iff c).mp (blank c member), rfl⟩
  | cons c rest =>
    have member : c ∈ line := by
      apply List.dropWhile_subset isBlank
      rw [show line.dropWhile isBlank = c :: rest from left]
      exact List.mem_cons_self
    have visible : ¬ Whitespace c := by
      rw [← isBlank_iff, trimLeft_head left]
      exact Bool.false_ne_true
    exact .inr ⟨c, member, visible, rest, rfl⟩

end Text

/-- The marks below a line, as a report wants them: the indent is copied, whatever blanks it is made of, and
then there are only carets, one for each character of the first word, or a single one if there is no word. -/
structure Underlined (line : List Char) (indent carets : Nat) (marks : List Char) : Prop where
  copied : marks = line.take indent ++ List.replicate carets '^'
  blanks : Text.LeadingRun Text.Whitespace line indent
  word (visible : ∃ c ∈ line, ¬ Text.Whitespace c) :
    1 ≤ carets ∧ Text.LeadingRun (fun c => ¬ Text.Whitespace c) (line.drop indent) carets
  single (blank : ∀ c ∈ line, Text.Whitespace c) : carets = 1

def firstWord (line : List Char) : List Char := (Text.trimLeft line).takeWhile fun c => !Text.isBlank c

variable {line marks : List Char} {indent carets : Nat}

theorem splitOnce_head (visible : Text.trimLeft line ≠ []) :
    (Text.splitOnce (Text.trimLeft line)).headD [] = firstWord line := by
  have shown : (Text.trimLeft line).isEmpty = false := by simpa using visible
  simp only [Text.splitOnce, Text.trimLeft_trimLeft, shown, Bool.false_eq_true, if_false]
  split <;> rfl

/-- The marks in one step: the indent is what is stripped in front, and the word is what stands before the first
blank. -/
theorem underline_eq (line : List Char) :
    underline line = line.takeWhile Text.isBlank ++ List.replicate (max 1 (firstWord line).length) '^' := by
  simp only [underline, Text.indent_length, Text.take_indent]
  cases left : Text.trimLeft line with
  | nil => simp [firstWord, left]
  | cons c rest =>
    have visible : Text.trimLeft line ≠ [] := by simp [left]
    rw [← left, splitOnce_head visible]
    simp [left]

theorem firstWord_blank (blank : ∀ c ∈ line, Text.Whitespace c) : (firstWord line).length = 0 := by
  rcases Text.trimLeft_cases line with ⟨-, none_left⟩ | ⟨c, member, shown, -⟩
  · rw [firstWord, none_left]
    rfl
  · exact absurd (blank c member) shown

theorem firstWord_visible (visible : ∃ c ∈ line, ¬ Text.Whitespace c) : 1 ≤ (firstWord line).length := by
  rcases Text.trimLeft_cases line with ⟨blank, -⟩ | ⟨c, -, shown, rest, left⟩
  · obtain ⟨c, member, shown⟩ := visible
    exact absurd (blank c member) shown
  · rw [firstWord, left, List.takeWhile_cons, if_pos ((Text.not_isBlank_iff c).mpr shown), List.length_cons]
    omega

theorem underlined_iff : Underlined line indent carets marks ↔
    indent = (line.takeWhile Text.isBlank).length ∧ carets = max 1 (firstWord line).length ∧
      marks = underline line := by
  constructor
  · intro rules
    obtain rfl := (Text.leadingRun_iff Text.isBlank_iff).mp rules.blanks
    have count : carets = max 1 (firstWord line).length := by
      -- The rule for words says nothing of a blank line, the rule for a single caret nothing of any other.
      by_cases blank : ∀ c ∈ line, Text.Whitespace c
      · rw [rules.single blank, firstWord_blank blank]
        rfl
      · have visible : ∃ c ∈ line, ¬ Text.Whitespace c := by simpa using blank
        obtain ⟨positive, run⟩ := rules.word visible
        rw [Text.drop_indent, Text.leadingRun_iff Text.not_isBlank_iff] at run
        rw [firstWord, ← run]
        omega
    refine ⟨rfl, count, ?_⟩
    rw [rules.copied, count, Text.take_indent, underline_eq]
  · rintro ⟨rfl, rfl, rfl⟩
    refine ⟨?_, (Text.leadingRun_iff Text.isBlank_iff).mpr rfl, ?_, ?_⟩
    · rw [Text.take_indent, underline_eq]
    · intro visible
      have positive := firstWord_visible visible
      refine ⟨by omega, ?_⟩
      rw [Text.drop_indent, Text.leadingRun_iff Text.not_isBlank_iff, Nat.max_eq_right positive]
      rfl
    · intro blank
      rw [firstWord_blank blank]
      rfl

namespace Underlined

theorem length_eq (rules : Underlined line indent carets marks) : marks.length = indent + carets := by
  rw [rules.copied, List.length_append, List.length_take, List.length_replicate, Nat.min_eq_left rules.blanks.1]

theorem length_le (rules : Underlined line indent carets marks) (visible : ∃ c ∈ line, ¬ Text.Whitespace c) :
    marks.length ≤ line.length := by
  have within := (rules.word visible).2.1
  have inside := rules.blanks.1
  rw [List.length_drop] at within
  rw [rules.length_eq]
  omega

theorem length_blank (rules : Underlined line indent carets marks) (blank : ∀ c ∈ line, Text.Whitespace c) :
    marks.length = line.length + 1 := by
  -- A run that ended before the line would be followed by a visible character.
  have whole : indent = line.length := by
    obtain ⟨inside, -, stops⟩ := rules.blanks
    apply Nat.le_antisymm inside
    apply Nat.le_of_not_lt
    intro short
    exact stops _ (List.getElem?_eq_getElem short) (blank _ (List.getElem_mem short))
  rw [rules.length_eq, rules.single blank, whole]

end Underlined

/-- A line is underlined as the rules say, and in no other way that they allow. The marks are never longer than a
line that has a word, and longer by one than a blank line. -/
theorem underline_first_word (line : List Char) :
    (∃ indent carets, Underlined line indent carets (underline line)) ∧
      (∀ indent carets marks, Underlined line indent carets marks → marks = underline line) ∧
      ((∃ c ∈ line, ¬ Text.Whitespace c) → (underline line).length ≤ line.length) ∧
      ((∀ c ∈ line, Text.Whitespace c) → (underline line).length = line.length + 1) := by
  have rules := underlined_iff.mpr ⟨rfl, rfl, @rfl _ (underline line)⟩
  refine ⟨⟨_, _, rules⟩, ?_, rules.length_le, rules.length_blank⟩
  intro indent carets marks other
  exact (underlined_iff.mp other).2.2

theorem underline_first_word_wide :
    Underlined "\t\u2003IF\u00A0x".toList 2 2 "\t\u2003^^".toList ∧
      underline "\t\u2003IF\u00A0x".toList = "\t\u2003^^".toList ∧
      (∃ c ∈ "\t\u2003IF\u00A0x".toList, ¬ Text.Whitespace c) ∧
      (underline "\t\u2003IF\u00A0x".toList).length ≤ "\t\u2003IF\u00A0x".toList.length ∧
      (∀ c ∈ "\u3000\u2028".toList, Text.Whitespace c) ∧
      (underline "\u3000\u2028".toList).length = "\u3000\u2028".toList.length + 1 := by
  have visible : ∃ c ∈ "\t\u2003IF\u00A0x".toList, ¬ Text.Whitespace c := ⟨'I', by decide, by decide⟩
  have blank : ∀ c ∈ "\u3000\u2028".toList, Text.Whitespace c := by
    intro c member
    exact (Text.isBlank_iff c).mp (List.all_eq_true.mp (by decide) c member)
  have rules : Underlined "\t\u2003IF\u00A0x".toList 2 2 "\t\u2003^^".toList := by
    refine ⟨by rfl, (Text.leadingRun_iff Text.isBlank_iff).mpr (by rfl), ?_, ?_⟩
    · intro _
      exact ⟨by decide, (Text.leadingRun_iff Text.not_isBlank_iff).mpr (by rfl)⟩
    · intro blank
      exact absurd (blank 'I' (by decide)) (by decide)
  obtain ⟨-, only, short, -⟩ := underline_first_word "\t\u2003IF\u00A0x".toList
  obtain ⟨-, -, -, longer⟩ := underline_first_word "\u3000\u2028".toList
  exact ⟨rules, (only 2 2 _ rules).symm, visible, short visible, blank, longer blank⟩

end PgJinja
