import PgJinja.Diagnostic.Report
import PgJinja.Proofs.Storage
import PgJinja.Proofs.Underlining
import PgJinja.Source

/-! The lines of a source. A refusal of the parser names the line into which its location falls, and a report
that has the source shows that line. -/
namespace PgJinja

namespace Text

def closed (ls : List String) : List Char := ls.flatMap fun l => l.toList ++ ['\n']

theorem splitAtChar_ne_nil (cut : Char) (cs : List Char) : splitAtChar cut cs ≠ [] := by
  cases cs with
  | nil => simp [splitAtChar]
  | cons c cs =>
    rw [splitAtChar]
    split
    · simp
    · split <;> simp

theorem splitAtChar_other {cut c : Char} (other : c ≠ cut) (cs : List Char) :
    ∃ piece rest, splitAtChar cut cs = piece :: rest ∧ splitAtChar cut (c :: cs) = (c :: piece) :: rest := by
  obtain ⟨piece, rest, split⟩ := List.exists_cons_of_ne_nil (splitAtChar_ne_nil cut cs)
  exact ⟨piece, rest, split, by rw [splitAtChar, if_neg other, split]⟩

theorem splitAtChar_length (cut : Char) (cs : List Char) : (splitAtChar cut cs).length = cs.count cut + 1 := by
  induction cs with
  | nil => rfl
  | cons c cs ih =>
    by_cases here : c = cut
    · rw [splitAtChar, if_pos here, here, List.length_cons, ih, List.count_cons_self]
    · obtain ⟨piece, rest, split, longer⟩ := splitAtChar_other here cs
      rw [split, List.length_cons] at ih
      rw [longer, List.length_cons, ih, List.count_cons_of_ne here]

theorem splitAtChar_starts {cut : Char} {cs piece : List Char} {before after : List (List Char)}
    (split : splitAtChar cut cs = before ++ piece :: after) :
    (before.flatMap (· ++ [cut])) ++ piece <+: cs := by
  induction cs generalizing before piece with
  | nil =>
    cases before with
    | nil => simp_all [splitAtChar]
    | cons b before => simp [splitAtChar] at split
  | cons c cs ih =>
    by_cases here : c = cut
    · rw [splitAtChar, if_pos here] at split
      cases before with
      | nil =>
        obtain ⟨rfl, -⟩ := List.cons.inj split
        simp
      | cons b before =>
        obtain ⟨rfl, later⟩ := List.cons.inj split
        simpa [here] using ih later
    · obtain ⟨first, rest, whole, longer⟩ := splitAtChar_other here cs
      rw [longer] at split
      -- The first character goes to the first piece, be it the piece itself or one before it.
      cases before with
      | nil =>
        obtain ⟨rfl, rfl⟩ := List.cons.inj split
        have starts : [].flatMap (· ++ [cut]) ++ first <+: cs := ih whole
        simpa using starts
      | cons b before =>
        obtain ⟨rfl, rfl⟩ := List.cons.inj split
        have starts : (first :: before).flatMap (· ++ [cut]) ++ piece <+: cs := ih whole
        simpa using starts

/-- An offset falls into the piece that follows as many others as there are cuts before the offset. -/
theorem splitAtChar_offset {cut : Char} {cs : List Char} {n : Nat} (within : n ≤ cs.length) :
    ∃ before piece after, splitAtChar cut cs = before ++ piece :: after ∧
      before.length = (cs.take n).count cut ∧ (before.flatMap (· ++ [cut])).length ≤ n ∧
      n ≤ (before.flatMap (· ++ [cut])).length + piece.length := by
  induction cs generalizing n with
  | nil =>
    obtain rfl : n = 0 := by simpa using within
    exact ⟨[], [], [], rfl, rfl, by simp, by simp⟩
  | cons c cs ih =>
    cases n with
    | zero =>
      obtain ⟨piece, after, split⟩ := List.exists_cons_of_ne_nil (splitAtChar_ne_nil cut (c :: cs))
      exact ⟨[], piece, after, split, rfl, by simp, by simp⟩
    | succ n =>
      obtain ⟨before, piece, after, split, count, lower, upper⟩ := ih (Nat.le_of_succ_le_succ within)
      by_cases here : c = cut
      · refine ⟨[] :: before, piece, after, ?_, ?_, ?_, ?_⟩
        · rw [splitAtChar, if_pos here, split, List.cons_append]
        · rw [List.take_succ_cons, here, List.count_cons_self, List.length_cons, count]
        · simp only [List.flatMap_cons, List.nil_append, List.length_append, List.length_cons, List.length_nil]
          omega
        · simp only [List.flatMap_cons, List.nil_append, List.length_append, List.length_cons, List.length_nil]
          omega
      · obtain ⟨first, rest, whole, longer⟩ := splitAtChar_other here cs
        rw [List.take_succ_cons, List.count_cons_of_ne here]
        rw [split] at whole
        cases before with
        | nil =>
          obtain ⟨rfl, rfl⟩ := List.cons.inj whole
          refine ⟨[], c :: piece, after, longer, count, by simp, ?_⟩
          simp only [List.flatMap_nil, List.length_nil, List.length_cons] at upper ⊢
          omega
        | cons b before =>
          obtain ⟨rfl, rfl⟩ := List.cons.inj whole
          refine ⟨(c :: b) :: before, piece, after, longer, count, ?_, ?_⟩
          · simp only [List.flatMap_cons, List.length_append, List.length_cons, List.length_nil] at lower ⊢
            omega
          · simp only [List.flatMap_cons, List.length_append, List.length_cons, List.length_nil] at upper ⊢
            omega

theorem lines_length (source : String) : (lines source).length = source.toList.count '\n' + 1 := by
  rw [lines, List.length_map, splitAtChar_length]

theorem line_unbroken {source line : String} (member : line ∈ lines source) : '\n' ∉ line.toList := by
  obtain ⟨piece, cut, rfl⟩ := List.mem_map.mp member
  rw [String.toList_ofList]
  exact splitAtChar_cut cut

/-- An offset of a source falls into a line, counted from one: it is not before the start of the line, which
follows the earlier lines and their newlines, and not after the newline that ends it. -/
def FallsInto (source : String) (offset number : Nat) : Prop :=
  ∃ before line after, lines source = before ++ line :: after ∧ number = before.length + 1 ∧
    closed before ++ line.toList <+: source.toList ∧
    (closed before).length ≤ offset ∧ offset ≤ (closed before).length + line.length

theorem fallsInto_count {source : String} {offset : Nat} (within : offset ≤ source.length) :
    FallsInto source offset ((source.toList.take offset).count '\n' + 1) := by
  rw [← String.length_toList] at within
  obtain ⟨before, piece, after, split, count, lower, upper⟩ :=
    @splitAtChar_offset '\n' source.toList offset within
  have closing : closed (before.map String.ofList) = before.flatMap (· ++ ['\n']) := by
    simp [closed, List.flatMap_map]
  refine ⟨before.map String.ofList, String.ofList piece, after.map String.ofList, ?_, ?_, ?_, ?_, ?_⟩
  · rw [lines, split, List.map_append, List.map_cons]
  · rw [List.length_map, count]
  · rw [closing, String.toList_ofList]
    exact splitAtChar_starts split
  · rw [closing]
    exact lower
  · rw [closing, String.length_ofList]
    exact upper

theorem join_closed {ls : List String} (filled : ls ≠ []) : (unlines ls ++ "\n").toList = closed ls := by
  induction ls with
  | nil => contradiction
  | cons l rest ih =>
    cases rest with
    | nil => simp [unlines, join, closed]
    | cons next rest =>
      have step : unlines (l :: next :: rest) ++ "\n" = l ++ "\n" ++ (unlines (next :: rest) ++ "\n") := by
        simp [unlines, join, String.append_assoc]
      rw [step, String.toList_append, ih (by simp), String.toList_append]
      rfl

def Prints (text upper lower : String) : Prop :=
  ∃ before after, text.toList = closed (before ++ upper :: lower :: after) ∧
    '\n' ∉ upper.toList ∧ '\n' ∉ lower.toList

end Text

theorem intText_char {n : Int} {c : Char} (member : c ∈ (intText n).toList) : c = '-' ∨ c.isDigit = true := by
  have digits (m : Nat) (member : c ∈ (natText m).toList) : c.isDigit = true := by
    rw [natText, String.toList_ofList] at member
    exact Nat.isDigit_of_mem_toDigits (by decide) (by decide) member
  cases n with
  | ofNat m => exact .inr (digits m member)
  | negSucc m =>
    rw [intText, String.toList_append, List.mem_append] at member
    rcases member with minus | member
    · exact .inl (List.mem_singleton.mp minus)
    · exact .inr (digits (m + 1) member)

theorem not_mem_intText {c : Char} (minus : c ≠ '-') (digit : c.isDigit = false) (n : Int) :
    c ∉ (intText n).toList := by
  intro member
  rcases intText_char member with rfl | digit'
  · contradiction
  · rw [digit] at digit'
    contradiction

namespace Sources

def Knows (sources : Sources) (file source : String) : Prop := sources.lookup file = some (Text.lines source)

theorem add_knows (sources : Sources) (file source : String) : (sources.add file source).Knows file source := by
  rw [Knows, add, Assoc.lookup_set, if_pos (beq_self_eq_true file)]

theorem Knows.line {sources : Sources} {d : Diagnostic} {source : String} (known : sources.Knows d.file source)
    (number : 1 ≤ d.line.value ∧ d.line.value ≤ (Text.lines source).length) :
    ∃ quoted ∈ Text.lines source,
      (Text.lines source)[(d.line.value - 1).toNat]? = some quoted ∧ sources.line? d = some quoted := by
  have inside : (d.line.value - 1).toNat < (Text.lines source).length := by omega
  have quoted := List.getElem?_eq_getElem inside
  refine ⟨_, List.getElem_mem inside, quoted, ?_⟩
  unfold Knows at known
  simp only [line?, known, Option.bind_eq_bind, Option.bind_some, if_pos number.1, quoted]

end Sources

namespace Diagnostic

variable {sources : Sources} {d : Diagnostic} {source : String}

theorem format_short (sources : Sources) (short : d.isShort = true) :
    d.format sources = .ok (d.report sources) := if_pos short

theorem report_toList (sources : Sources) (d : Diagnostic) :
    (d.report sources).toList = Text.closed (d.reportLines sources) :=
  Text.join_closed (by simp [reportLines])

def quotation (d : Diagnostic) (source : String) : String :=
  Text.padLeft (gutterWidth - 1) (intText d.line.value) ++ " | " ++ source

def marking (source : String) : String := gutter ++ " " ++ String.ofList (underline source.toList)

theorem quotation_unbroken (d : Diagnostic) (unbroken : '\n' ∉ source.toList) :
    '\n' ∉ (d.quotation source).toList := by
  have number := not_mem_intText (c := '\n') (by decide) (by decide) d.line.value
  simp [quotation, Text.padLeft, Text.copies, number, unbroken]

theorem marking_unbroken (unbroken : '\n' ∉ source.toList) : '\n' ∉ (marking source).toList := by
  have indent : '\n' ∉ source.toList.takeWhile Text.isBlank := fun member =>
    unbroken (List.takeWhile_subset _ member)
  simp [marking, gutter, Text.copies, underline_eq, indent]

theorem report_prints {line : String} (member : line ∈ Text.lines source) (shown : sources.line? d = some line) :
    Text.Prints (d.report sources) (d.quotation line) (marking line) := by
  have unbroken := Text.line_unbroken member
  refine ⟨[d.label ++ ": " ++ d.message,
    "  --> " ++ d.file ++ ":" ++ d.line.text ++ ":" ++ intText (d.column + 1), gutter], gutter :: d.helpLines, ?_,
    d.quotation_unbroken unbroken, marking_unbroken unbroken⟩
  rw [report_toList, reportLines, shown]
  rfl

end Diagnostic

namespace ParserAnswer

def diagnostic? (answer : ParserAnswer) (source file fallback : String) : Option Diagnostic :=
  match answer.entries source (some file) with
  | .error (.refused r) => some (r.toDiagnostic fallback)
  | _ => none

def location? (rest : List Json) : Option Line := rest.head?.bind Line.ofJson?

def offset (rest : List Json) : Nat :=
  match location? rest with
  | some place => (place.value - 1).toNat
  | none => 0

variable {source file : String}

theorem shownLine_refused (source : String) (cause : Cause) (file : Option String) (rest : List Json) :
    (Refusal.mk cause file (lineAt source (rest.head?.getD .null))).shownLine =
      .number ((source.toList.take (offset rest)).count '\n' + 1 : Nat) := by
  have located : Line.ofJson? (rest.head?.getD .null) = location? rest := by
    cases rest <;> rfl
  unfold Refusal.shownLine lineAt offset
  rw [located]
  cases location? rest with
  | none => rfl
  | some place =>
    simp only
    split
    · rename_i line shown
      split at shown
      · cases shown
        have positive :
            ¬ (Line.number (((source.toList.take (place.value - 1).toNat).count '\n' : Int) + 1)).value = 0 := by
          simp only [Line.value]
          omega
        rw [if_neg positive]
        simp
      · cases shown
    · rename_i none
      split at none
      · cases none
      · rename_i early
        have start : (place.value - 1).toNat = 0 := by omega
        rw [start]
        rfl

theorem diagnostic?_refused (source file fallback : String) {message : Json} (written : message.isShort = true)
    (rest : List Json) :
    (refused (message :: rest)).diagnostic? source file fallback =
      some (Refusal.toDiagnostic ⟨.source message.display, some file, lineAt source (rest.head?.getD .null)⟩
        fallback) := by
  simp [diagnostic?, entries, Raw.textOf, written, bind, Except.bind]

theorem diagnostic?_some {message : Json} {fallback : String} {rest : List Json} {d : Diagnostic} (named : file ≠ "")
    (raised : (refused (message :: rest)).diagnostic? source file fallback = some d) :
    d.file = file ∧ d.line.value = (source.toList.take (offset rest)).count '\n' + 1 := by
  cases written : message.isShort with
  | false => simp [diagnostic?, entries, Raw.textOf, written, bind, Except.bind] at raised
  | true =>
    rw [diagnostic?_refused source file fallback written] at raised
    cases raised
    refine ⟨by simp [Refusal.toDiagnostic, Refusal.shownFile, named], ?_⟩
    simp only [Refusal.toDiagnostic, shownLine_refused, Line.value]
    omega

/-- What the line of a diagnostic has to do with the location of the error. -/
structure Points (source : String) (rest : List Json) (d : Diagnostic) : Prop where
  known : 1 ≤ d.line.value ∧ d.line.value ≤ (Text.lines source).length
  inside {place : Line} (located : location? rest = some place) (first : 1 ≤ place.value)
    (last : place.value ≤ source.length + 1) :
    Text.FallsInto source (place.value - 1).toNat d.line.value.toNat
  beyond {place : Line} (located : location? rest = some place) (past : source.length + 1 < place.value) :
    d.line.value = (Text.lines source).length

theorem points_of_count {rest : List Json} {d : Diagnostic}
    (line : d.line.value = (source.toList.take (offset rest)).count '\n' + 1) : Points source rest d := by
  have total := Text.lines_length source
  have fewer := (List.take_sublist (offset rest) source.toList).count_le '\n'
  refine ⟨by omega, ?_, ?_⟩
  · intro place located first last
    have before : offset rest = (place.value - 1).toNat := by rw [offset, located]
    rw [← before, line]
    apply Text.fallsInto_count
    omega
  · intro place located past
    have all : source.toList.take (offset rest) = source.toList := by
      apply List.take_of_length_le
      rw [offset, located, String.length_toList]
      simp only
      omega
    rw [line, all]
    omega

/-- A source that the parser refuses, with a message that can be written, is reported at one of its lines, so the line
is shown wherever the source is known; it is the line of the location, or the last one when the location is past the
end, and a later location never gives an earlier line. -/
theorem refused_points (source file fallback : String) (named : file ≠ "") (message : Json)
    (written : message.isShort = true) (rest : List Json) :
    ∃ d, (refused (message :: rest)).diagnostic? source file fallback = some d ∧ d.file = file ∧
      Points source rest d ∧
      (∀ sources : Sources, sources.Knows file source →
        (d.isShort = true → d.format sources = .ok (d.report sources)) ∧
          ∃ quoted, (Text.lines source)[(d.line.value - 1).toNat]? = some quoted ∧
            Text.Prints (d.report sources) (d.quotation quoted) (Diagnostic.marking quoted)) ∧
      ∀ (other : Json) (later : List Json) (d' : Diagnostic) (place place' : Line),
        (refused (other :: later)).diagnostic? source file fallback = some d' →
        location? rest = some place → location? later = some place' → 0 < place.value →
        place.value ≤ place'.value → d.line.value ≤ d'.line.value := by
  have raised := diagnostic?_refused source file fallback written rest
  obtain ⟨here, line⟩ := diagnostic?_some named raised
  have points := points_of_count line
  refine ⟨_, raised, here, points, ?_, ?_⟩
  · intro sources known
    rw [← here] at known
    obtain ⟨quoted, member, nth, shown⟩ := known.line points.known
    exact ⟨Diagnostic.format_short sources, quoted, nth, Diagnostic.report_prints member shown⟩
  · intro other later d' place place' raised' located located' positive order
    obtain ⟨-, line'⟩ := diagnostic?_some named raised'
    have offsets : offset rest ≤ offset later := by
      simp only [offset, located, located']
      omega
    have fewer : (source.toList.take (offset rest)).count '\n' ≤ (source.toList.take (offset later)).count '\n' :=
      (List.take_sublist_take_left offsets).count_le '\n'
    omega

theorem refused_points_end :
    "f.sql" ≠ "" ∧ (Json.str "m").isShort = true ∧
      ∃ d, (refused [.str "m", .int 5]).diagnostic? "a\nb\n" "f.sql" "-" = some d ∧
        d.line = .number 3 ∧ Points "a\nb\n" [.int 5] d ∧ Text.FallsInto "a\nb\n" 4 3 ∧
        Text.Prints (d.report (Sources.add [] "f.sql" "a\nb\n")) "   3 | " "     | ^" := by
  obtain ⟨d, raised, -, points, shows, -⟩ := refused_points "a\nb\n" "f.sql" "-" (by decide) (.str "m") rfl [.int 5]
  have line : d.line = .number 3 := by
    cases raised
    rfl
  obtain ⟨-, quoted, nth, printed⟩ := shows _ (Sources.add_knows [] "f.sql" "a\nb\n")
  have falls := points.inside rfl (by decide) (by decide)
  rw [line] at nth falls
  obtain rfl : "" = quoted := by
    cases nth
    rfl
  refine ⟨by decide, rfl, d, raised, line, points, falls, ?_⟩
  rw [Diagnostic.quotation, line] at printed
  exact printed

end ParserAnswer
end PgJinja
