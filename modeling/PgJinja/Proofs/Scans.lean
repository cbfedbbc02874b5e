import Mathlib.Data.List.DropRight
import PgJinja.Proofs.Assignments
import PgJinja.Proofs.ValueLists

/-! The searches for assignments and for lists of values, as direct scans. A scan looks at the places of a text from
left to right and reads off what stands around the first one that fits; nothing is given back. -/
namespace PgJinja

namespace Text

theorem not_blank_of_word {c : Char} (word : isWord c = true) : isBlank c = false := by
  cases blank : isBlank c with
  | false => rfl
  | true =>
    rw [isWord_of_blank blank] at word
    cases word

theorem reverse_stops {accepts : Char → Bool} {text : List Char} (last : ∀ c ∈ text.getLast?, accepts c = false) :
    ∀ c ∈ text.reverse.head?, accepts c = false := by
  rwa [List.head?_reverse]

theorem trimRight_append {text blanks : List Char} (blank : ∀ c ∈ blanks, isBlank c = true)
    (visible : ∀ c ∈ text.getLast?, isBlank c = false) : trimRight (text ++ blanks) = text := by
  have tail : ∀ c ∈ blanks.reverse, isBlank c = true := by simpa using blank
  rw [trimRight, trimLeft, List.reverse_append, dropWhile_run tail (reverse_stops visible), List.reverse_reverse]

theorem rtakeWhile_run {accepts : Char → Bool} {before run : List Char} (accepted : ∀ c ∈ run, accepts c = true)
    (stops : ∀ c ∈ before.getLast?, accepts c = false) : (before ++ run).rtakeWhile accepts = run := by
  have tail : ∀ c ∈ run.reverse, accepts c = true := by simpa using accepted
  rw [List.rtakeWhile, List.reverse_append, takeWhile_run tail (reverse_stops stops), List.reverse_reverse]

theorem split_trimRight (text : List Char) :
    ∃ blanks, text = trimRight text ++ blanks ∧ ∀ c ∈ blanks, isBlank c = true :=
  ⟨text.rtakeWhile isBlank, List.rdropWhile_append_rtakeWhile.symm, fun _ => List.mem_rtakeWhile_imp⟩

end Text

namespace Jinja

open Text

/-- A place of the sign at which an assignment can be read: the last visible character before it belongs to a word, and
what follows is not made of line ends only. -/
structure SignAt (t : List Char) (i : Nat) : Prop where
  sign : [':', '='] <+: t.drop i
  named : ∃ c ∈ (trimRight (t.take i)).getLast?, isWord c = true
  valued : ∃ c ∈ t.drop (i + 2), c ≠ '\n'

instance (t : List Char) (i : Nat) : Decidable (SignAt t i) :=
  decidable_of_iff (([':', '='].isPrefixOf (t.drop i) && (trimRight (t.take i)).getLast?.any isWord &&
      (t.drop (i + 2)).any (· != '\n')) = true) <| by
    simp only [Bool.and_eq_true, List.isPrefixOf_iff_prefix, Option.any_eq_true, List.any_eq_true, bne_iff_ne]
    exact ⟨fun ⟨⟨sign, named⟩, valued⟩ => ⟨sign, named, valued⟩,
      fun place => ⟨⟨place.sign, place.named⟩, place.valued⟩⟩

def nameBefore (t : List Char) (i : Nat) : List Char := (trimRight (t.take i)).rtakeWhile isWord

/-- What stands after the sign at a place, from the first visible character to the end of the line. Where nothing is
visible, it is the last character that does not end a line. -/
def valueAfter (t : List Char) (i : Nat) : List Char :=
  match trimLeft (t.drop (i + 2)) with
  | [] => (t.filter (· != '\n')).getLast?.toList
  | visible => visible.takeWhile (· != '\n')

theorem SignAt.split {t : List Char} {i : Nat} (place : SignAt t i) :
    ∃ before c blanks after, t = before ++ c :: (blanks ++ ':' :: '=' :: after) ∧
      before.length + 1 + blanks.length = i ∧ isWord c = true ∧ (∀ d ∈ blanks, isBlank d = true) ∧
      ∃ d ∈ after, d ≠ '\n' := by
  obtain ⟨after, signed⟩ := place.sign
  obtain ⟨c, last, word⟩ := place.named
  obtain ⟨before, named⟩ := List.getLast?_eq_some_iff.mp last
  obtain ⟨blanks, parts, blank⟩ := split_trimRight (t.take i)
  have valued : ∃ d ∈ after, d ≠ '\n' := by
    have rest : t.drop (i + 2) = after := by rw [← List.drop_drop, ← signed]; rfl
    rw [← rest]
    exact place.valued
  have inside : i ≤ t.length := by
    by_contra beyond
    rw [List.drop_eq_nil_of_le (by omega)] at signed
    cases signed
  have whole : t = before ++ c :: (blanks ++ ':' :: '=' :: after) := by
    calc t = t.take i ++ t.drop i := (List.take_append_drop i t).symm
      _ = before ++ c :: (blanks ++ ':' :: '=' :: after) := by rw [parts, named, ← signed]; simp
  refine ⟨before, c, blanks, after, whole, ?_, word, blank, valued⟩
  have length := congrArg List.length parts
  rw [named, List.length_take_of_le inside] at length
  simp only [List.length_append, List.length_singleton] at length
  omega

theorem exists_value {after : List Char} (valued : ∃ d ∈ after, d ≠ '\n') :
    ∃ right d tail, after = right ++ d :: tail ∧ (∀ c ∈ right, isBlank c = true) ∧ d ≠ '\n' := by
  induction after with
  | nil => simp at valued
  | cons c rest ih =>
    by_cases newline : c = '\n'
    · subst newline
      have later : ∃ d ∈ rest, d ≠ '\n' := by simpa using valued
      obtain ⟨right, d, tail, rfl, blank, other⟩ := ih later
      exact ⟨'\n' :: right, d, tail, rfl, List.forall_mem_cons.mpr ⟨by decide, blank⟩, other⟩
    · exact ⟨[], c, rest, rfl, by simp, newline⟩

theorem assignmentPattern_accepts {c : Char} {blanks after : List Char} (word : isWord c = true)
    (blank : ∀ d ∈ blanks, isBlank d = true) (valued : ∃ d ∈ after, d ≠ '\n') :
    assignmentPattern.Accepts (c :: (blanks ++ ':' :: '=' :: after)) := by
  obtain ⟨right, d, tail, rfl, blank', other⟩ := exists_value valued
  have covers : (⟨String.ofList [c], String.ofList [d]⟩ : Assignment).Covers
      ([c] ++ (blanks ++ ':' :: '=' :: (right ++ [d]))) :=
    ⟨blanks, right, blank, blank', by simp⟩
  have accepts := covers.accepts ⟨by simp, by simpa using word, by simp, by simpa using other⟩ tail
  simpa using accepts

namespace Assignment.Starts

variable {a : Assignment} {text left right after : List Char}

theorem value_blank (starts : a.Starts text left right after)
    (blank : ∀ c ∈ right ++ (a.value.toList ++ after), isBlank c = true) :
    ∃ c, c ≠ '\n' ∧ a.value.toList = [c] ∧ ∀ d ∈ after, d = '\n' := by
  obtain ⟨c, more, value⟩ := List.exists_cons_of_ne_nil starts.proper.valued
  have rest : right ++ (a.value.toList ++ after) = (right ++ [c]) ++ (more ++ after) := by simp [value]
  have ends : ∀ d ∈ more ++ after, d = '\n' := by
    intro d member
    by_contra other
    obtain ⟨first, second, split⟩ := List.append_of_mem member
    have parts : right ++ (a.value.toList ++ after) = (right ++ c :: first) ++ d :: second := by
      rw [rest, split]
      simp
    rw [parts] at blank
    have bound := starts.longest (right ++ c :: first) (d :: second) parts
      (List.forall_mem_append.mp blank).1 ⟨d, rfl, other⟩
    rw [List.length_append, List.length_cons] at bound
    omega
  obtain ⟨endsMore, endsAfter⟩ := List.forall_mem_append.mp ends
  have line := starts.proper.line
  rw [value] at line
  have single : more = [] := by
    cases more with
    | nil => rfl
    | cons d more => exact absurd (endsMore d (by simp)) (line d (by simp))
  rw [single] at value
  exact ⟨c, line c (by simp), value, endsAfter⟩

theorem value_visible (starts : a.Starts text left right after) {d : Char} {visible : List Char}
    (shown : trimLeft (right ++ (a.value.toList ++ after)) = d :: visible) :
    a.value.toList ++ after = d :: visible := by
  have split : right ++ (a.value.toList ++ after) =
      (right ++ (a.value.toList ++ after)).takeWhile isBlank ++ d :: visible := by
    rw [← shown]
    exact (List.takeWhile_append_dropWhile).symm
  have blank : ∀ c ∈ (right ++ (a.value.toList ++ after)).takeWhile isBlank, isBlank c = true :=
    fun c => List.mem_takeWhile_imp
  have plain : isBlank d = false := trimLeft_head shown
  have other : d ≠ '\n' := by
    rintro rfl
    revert plain
    decide
  generalize (right ++ (a.value.toList ++ after)).takeWhile isBlank = blanks at split blank
  have upper := starts.longest blanks (d :: visible) split blank ⟨d, rfl, other⟩
  have stops : ∀ c ∈ (d :: visible).head?, isBlank c = false := by
    intro c first
    cases first
    exact plain
  have lower := run_length_le split.symm starts.rightBlank stops
  exact (List.append_inj split (Nat.le_antisymm lower upper)).2

theorem value_eq (starts : a.Starts text left right after) (front : List Char) :
    valueAfter (front ++ ':' :: '=' :: (right ++ (a.value.toList ++ after))) front.length = a.value.toList := by
  have rest : (front ++ ':' :: '=' :: (right ++ (a.value.toList ++ after))).drop (front.length + 2) =
      right ++ (a.value.toList ++ after) := by simp
  rw [valueAfter, rest]
  cases shown : trimLeft (right ++ (a.value.toList ++ after)) with
  | nil =>
    obtain ⟨c, other, value, ends⟩ := starts.value_blank (List.dropWhile_eq_nil_iff.mp shown)
    have none : after.filter (· != '\n') = [] := by simpa using ends
    have last : (front ++ ':' :: '=' :: (right ++ (a.value.toList ++ after))).filter (· != '\n') =
        (front ++ ':' :: '=' :: right).filter (· != '\n') ++ [c] := by simp [value, other, none]
    simp only [last, List.getLast?_concat, Option.toList_some]
    exact value.symm
  | cons d visible =>
    have line : ∀ c ∈ a.value.toList, (c != '\n') = true := by simpa using starts.proper.line
    have stops : ∀ c ∈ after.head?, (c != '\n') = false := by simpa using starts.line
    have written := takeWhile_run line stops
    rwa [starts.value_visible shown] at written

theorem name_eq (starts : a.Starts text left right after) {before : List Char}
    (apart : ∀ c ∈ before.getLast?, isWord c = false) (rest : List Char) :
    let front := before ++ (a.name.toList ++ left)
    (∃ c ∈ (trimRight front).getLast?, isWord c = true) ∧
      nameBefore (front ++ ':' :: '=' :: rest) front.length = a.name.toList := by
  intro front
  obtain ⟨letters, c, name⟩ := (List.eq_nil_or_concat' a.name.toList).resolve_left starts.proper.named
  have word := starts.proper.word c (by simp [name])
  have last : (before ++ a.name.toList).getLast? = some c := by simp [name]
  have kept : trimRight front = before ++ a.name.toList := by
    rw [show front = before ++ a.name.toList ++ left by simp [front]]
    refine trimRight_append starts.leftBlank ?_
    intro d final
    rw [last] at final
    cases final
    exact not_blank_of_word word
  refine ⟨⟨c, ?_, word⟩, ?_⟩
  · rw [kept, last]
    rfl
  · rw [nameBefore, List.take_left, kept]
    exact rtakeWhile_run starts.proper.word apart

/-- No sign stands between the start of an assignment and its own sign. -/
theorem no_sign (starts : a.Starts text left right after) : ':' ∉ a.name.toList ++ left := by
  intro member
  rcases List.mem_append.mp member with inName | inLeft
  · have word := starts.proper.word ':' inName
    rw [isWord_colon] at word
    cases word
  · have blank := starts.leftBlank ':' inLeft
    revert blank
    decide

end Assignment.Starts

namespace Assignment

theorem find?_none_iff {s : String} :
    find? s = none ↔ ∀ i, ¬ assignmentPattern.Accepts (s.toList.drop i) := by
  rw [← Pattern.search_eq_none_iff]
  unfold find?
  cases searched : assignmentPattern.search s.toList with
  | none => simp
  | some kept =>
    obtain ⟨before, rest, split, greedy, -⟩ := Pattern.search_eq_some_iff.mp searched
    obtain ⟨a, left, right, after, rfl, -⟩ := starts_of_greedy greedy
    simp

theorem find?_place {s : String} {a : Assignment} (found : find? s = some a) :
    ∃ i, SignAt s.toList i ∧ (∀ j < i, ¬ SignAt s.toList j) ∧
      a = ⟨String.ofList (nameBefore s.toList i), String.ofList (valueAfter s.toList i)⟩ := by
  obtain ⟨before, text, left, right, after, split, starts, first⟩ := find?_some found
  obtain ⟨named, name⟩ := starts.name_eq (starts.start_of_word first) (right ++ (a.value.toList ++ after))
  have value := starts.value_eq (before ++ (a.name.toList ++ left))
  have whole : s.toList =
      (before ++ (a.name.toList ++ left)) ++ ':' :: '=' :: (right ++ (a.value.toList ++ after)) := by
    rw [split, starts.split]
    simp
  generalize shown : before ++ (a.name.toList ++ left) = front at named name value whole
  refine ⟨front.length, ⟨?_, ?_, ?_⟩, ?_, ?_⟩
  · rw [whole, List.drop_left]
    exact ⟨_, rfl⟩
  · rwa [whole, List.take_left]
  · obtain ⟨c, rest, given⟩ := List.exists_cons_of_ne_nil starts.proper.valued
    refine ⟨c, ?_, starts.proper.line c (by simp [given])⟩
    simp [whole, given]
  · intro j earlier place
    obtain ⟨before', c, blanks, after', split', count, word, blank, valued⟩ := place.split
    have accepts := assignmentPattern_accepts word blank valued
    by_cases ahead : before'.length < before.length
    · -- The word of the other place starts before the assignment, where nothing fits.
      obtain ⟨more, rfl⟩ := List.prefix_of_prefix_length_le ⟨_, split'.symm⟩ ⟨_, split.symm⟩ (Nat.le_of_lt ahead)
      rw [split', List.append_assoc] at split
      rw [List.append_cancel_left split] at accepts
      refine first before' more rfl ?_ accepts
      rintro rfl
      simp at ahead
    · -- The other place is inside of the assignment, before its own sign.
      obtain ⟨tail, signed⟩ := place.sign
      have colon : s.toList[j]? = some ':' := by rw [← List.head?_drop, ← signed]; rfl
      rw [whole, List.getElem?_append_left earlier, ← shown, List.getElem?_append_right (by omega)] at colon
      exact starts.no_sign (List.mem_of_getElem? colon)
  · rw [whole, name, value, String.ofList_toList, String.ofList_toList]

theorem find?_ne_none {s : String} {i : Nat} (place : SignAt s.toList i) : find? s ≠ none := by
  obtain ⟨before, c, blanks, after, split, -, word, blank, valued⟩ := place.split
  intro failed
  apply find?_none_iff.mp failed before.length
  rw [split, List.drop_left]
  exact assignmentPattern_accepts word blank valued

end Assignment

/-- Searching for an assignment is a direct scan for its sign: the first place is taken at which a word stands before
the sign and something else than line ends after it. The name is the word, and the value is the rest of a line. Blanks,
word characters and the colon are apart. -/
theorem assignment_scan (s : String) :
    (Assignment.find? s = none ↔ ∀ i, ¬ SignAt s.toList i) ∧
      (∀ i, SignAt s.toList i → (∀ j < i, ¬ SignAt s.toList j) →
        Assignment.find? s = some ⟨String.ofList (nameBefore s.toList i), String.ofList (valueAfter s.toList i)⟩) ∧
      (∀ c, isBlank c = true → isWord c = false) ∧ isBlank ':' = false ∧ isWord ':' = false := by
  refine ⟨⟨?_, ?_⟩, ?_, fun c => isWord_of_blank, by decide, isWord_colon⟩
  · intro failed i place
    exact Assignment.find?_ne_none place failed
  · intro nowhere
    cases found : Assignment.find? s with
    | none => rfl
    | some a =>
      obtain ⟨i, place, -⟩ := Assignment.find?_place found
      exact absurd place (nowhere i)
  · intro i place least
    obtain ⟨a, found⟩ := Option.ne_none_iff_exists'.mp (Assignment.find?_ne_none place)
    obtain ⟨j, other, least', same⟩ := Assignment.find?_place found
    have equal : i = j := by
      rcases Nat.lt_trichotomy i j with less | equal | less
      · exact absurd place (least' i less)
      · exact equal
      · exact absurd other (least j less)
    rw [found, same, equal]

theorem assignment_scan_second :
    let text := ":= a, b.x  :=\n y z\nw"
    SignAt text.toList 11 ∧ (∀ j < 11, ¬ SignAt text.toList j) ∧ Assignment.find? text = some ⟨"x", "y z"⟩ := by
  intro text
  have place : SignAt text.toList 11 := by decide +kernel
  have least : ∀ j < 11, ¬ SignAt text.toList j := by decide +kernel
  have read : (⟨String.ofList (nameBefore text.toList 11), String.ofList (valueAfter text.toList 11)⟩ : Assignment) =
      ⟨"x", "y z"⟩ := by decide +kernel
  exact ⟨place, least, ((assignment_scan text).2.1 11 place least).trans (congrArg some read)⟩

structure ListAt (t : List Char) (i : Nat) (inner : List Char) : Prop where
  given : inner ≠ []
  inside : ')' ∉ inner
  word : ∃ blanks after, (∀ c ∈ blanks, isBlank c = true) ∧
    t.drop i = 'I' :: 'N' :: (blanks ++ '(' :: (inner ++ ')' :: after))

theorem ListAt.greedy {t inner : List Char} {i : Nat} (place : ListAt t i inner) :
    inListPattern.Greedy (t.drop i) [listValues inner] := by
  obtain ⟨blanks, after, blank, text⟩ := place.word
  rw [text]
  exact inListPattern_greedy blank place.given place.inside after

theorem closing_not_blank {gap : List Char} (blank : ∀ c ∈ gap, isBlank c = true) : ')' ∉ gap := by
  intro member
  have closing := blank ')' member
  revert closing
  decide

theorem inListPattern_accepts_iff {t : List Char} {i : Nat} :
    inListPattern.Accepts (t.drop i) ↔ ∃ inner, ListAt t i inner := by
  constructor
  · intro fits
    obtain ⟨tail, word, second⟩ := Pattern.accepts_only.mp fits
    obtain ⟨tail, rfl, blanks, rest, rfl, blank, opened⟩ := Pattern.accepts_only.mp second
    -- The blanks around the values are part of the contents.
    obtain ⟨tail, rfl, lead, rest, rfl, leading, run, rest, rfl, kept, trail, rest, rfl, trailing, closed⟩ :=
      Pattern.accepts_only.mp opened
    obtain ⟨after, rfl, -⟩ := Pattern.accepts_only.mp closed
    rw [Piece.takes_blanks] at blank leading trailing
    obtain ⟨given, absent⟩ := takes_listed.mp kept
    have inside : ')' ∉ lead ++ (run ++ trail) := by
      simp [absent, closing_not_blank leading, closing_not_blank trailing]
    exact ⟨lead ++ (run ++ trail), by simp [given], inside, blanks, after, blank, by simp [word]⟩
  · rintro ⟨inner, place⟩
    exact place.greedy.accepts

theorem inListValues?_none_iff {s : String} :
    inListValues? s = none ↔ ∀ i inner, ¬ ListAt s.toList i inner := by
  have nowhere : inListPattern.search s.toList = none ↔ ∀ i inner, ¬ ListAt s.toList i inner := by
    simp only [Pattern.search_eq_none_iff, inListPattern_accepts_iff, not_exists]
  rw [← nowhere]
  unfold inListValues?
  cases searched : inListPattern.search s.toList with
  | none => simp
  | some kept =>
    obtain ⟨before, rest, -, greedy, -⟩ := Pattern.search_eq_some_iff.mp searched
    obtain ⟨inner, place⟩ := (@inListPattern_accepts_iff rest 0).mp greedy.accepts
    rw [greedy.unique place.greedy]
    simp

/-- Searching for a list of values is a direct scan for the word: the first place is taken at which parentheses follow
the word and hold something before the first closing one. -/
theorem inList_scan (s : String) :
    (inListValues? s = none ↔ ∀ i inner, ¬ ListAt s.toList i inner) ∧
      ∀ i inner, ListAt s.toList i inner → (∀ j < i, ∀ other, ¬ ListAt s.toList j other) →
        inListValues? s = some (String.ofList (listValues inner)) := by
  refine ⟨inListValues?_none_iff, ?_⟩
  intro i inner place least
  have found : inListPattern.search s.toList = some [listValues inner] := by
    apply Pattern.search_least place.greedy
    intro j earlier fits
    obtain ⟨other, before⟩ := inListPattern_accepts_iff.mp fits
    exact least j earlier other before
  rw [inListValues?, found]

theorem inList_scan_third :
    let text := "x IN () MIN x IN\n( \n'a', (b ) )"
    ListAt text.toList 14 " \n'a', (b ".toList ∧ (∀ j < 14, ∀ other, ¬ ListAt text.toList j other) ∧
      inListValues? text = some "'a', (b " := by
  intro text
  have place : ListAt text.toList 14 " \n'a', (b ".toList := by
    refine ⟨by decide, by decide, ['\n'], " )".toList, List.all_eq_true.mp (by decide), by decide⟩
  have failed : ∀ j < 14, inListPattern.matchStart (text.toList.drop j) = none := by decide +kernel
  have least : ∀ j < 14, ∀ other, ¬ ListAt text.toList j other := by
    intro j earlier other before
    exact Pattern.matchStart_none (failed j earlier) (inListPattern_accepts_iff.mpr ⟨other, before⟩)
  exact ⟨place, least, (inList_scan text).2 14 _ place least⟩

end Jinja
end PgJinja
