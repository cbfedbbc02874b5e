import Mathlib.Data.List.DropRight
import Mathlib.Data.List.Infix
import PgJinja.Text.Basic

/-! Texts without the blanks at their ends: how they start, and what still occurs in them. -/
namespace PgJinja.Text

theorem trimLeft_head {text rest : List Char} {c : Char} (left : trimLeft text = c :: rest) : isBlank c = false := by
  have head := List.head?_dropWhile_not isBlank text
  rw [show text.dropWhile isBlank = c :: rest from left] at head
  simpa using head

theorem strip_head (s : String) {c : Char} (blank : isBlank c = true) :
    (strip s).toList.head? ≠ some c := by
  intro first
  have kept : (trim s.toList).head? = some c := by simpa [strip] using first
  obtain ⟨rest, split⟩ : trim s.toList <+: trimLeft s.toList := List.rdropWhile_prefix _ _
  have start : (trimLeft s.toList).head? = some c := by
    rw [← split, List.head?_append, kept]
    rfl
  obtain ⟨after, left⟩ := List.head?_eq_some_iff.mp start
  rw [trimLeft_head left] at blank
  contradiction

theorem strip_strip (s : String) : strip (strip s) = strip s := by
  have flush : trimLeft (trim s.toList) = trim s.toList := by
    have visible (c : Char) (blank : isBlank c = true) := strip_head s blank
    simp only [strip, String.toList_ofList] at visible
    cases kept : trim s.toList with
    | nil => rfl
    | cons c rest =>
      rw [kept] at visible
      have first : isBlank c = false := by
        cases blank : isBlank c with
        | false => rfl
        | true => exact absurd rfl (visible c blank)
      simp [trimLeft, first]
  have back : trimRight (trim s.toList) = trim s.toList := List.rdropWhile_idempotent _ _
  rw [strip, strip, String.toList_ofList, trim, flush, back]

theorem occurs_iff (needle text : List Char) : occurs needle text = true ↔ needle <:+: text := by
  induction text with
  | nil => simp [occurs]
  | cons c cs ih => simp [occurs, ih, List.infix_cons_iff]

theorem infix_trimLeft {needle : List Char} {c : Char} (start : needle.head? = some c)
    (visible : isBlank c = false) (text : List Char) :
    needle <:+: trimLeft text ↔ needle <:+: text := by
  induction text with
  | nil => rfl
  | cons d rest ih =>
    rw [trimLeft, List.dropWhile_cons]
    split
    · rename_i blank
      rw [show rest.dropWhile isBlank = trimLeft rest from rfl, ih, List.infix_cons_iff]
      constructor
      · exact .inr
      · rintro (⟨tail, split⟩ | inside)
        · have same : d = c := by
            cases needle with
            | nil => cases start
            | cons e es => simp_all
          simp_all
        · exact inside
    · rfl

theorem infix_trim {needle : List Char} {c d : Char} (start : needle.head? = some c)
    (finish : needle.getLast? = some d) (first : isBlank c = false) (last : isBlank d = false)
    (text : List Char) : needle <:+: trim text ↔ needle <:+: text := by
  have back : needle.reverse.head? = some d := by simpa using finish
  rw [trim, trimRight, ← List.reverse_infix, List.reverse_reverse, infix_trimLeft back last,
    List.reverse_infix, infix_trimLeft start first]

theorem contains_strip {needle : String} {c d : Char} (start : needle.toList.head? = some c)
    (finish : needle.toList.getLast? = some d) (first : isBlank c = false) (last : isBlank d = false)
    (s : String) : contains (strip s) needle = contains s needle := by
  rw [Bool.eq_iff_iff, contains, contains, occurs_iff, occurs_iff, strip, String.toList_ofList]
  exact infix_trim start finish first last s.toList

theorem contains_truncate (q : String) :
    contains (strip q) "TRUNCATE TABLE" = contains q "TRUNCATE TABLE" :=
  contains_strip (c := 'T') (d := 'E') (by decide) (by decide) (by decide) (by decide) q

theorem contains_insert (q : String) :
    contains (strip q) "INSERT INTO" = contains q "INSERT INTO" :=
  contains_strip (c := 'I') (d := 'O') (by decide) (by decide) (by decide) (by decide) q

end PgJinja.Text
