import PgJinja.Jinja.Template
import PgJinja.Proofs.Text
import PgJinja.Proofs.Tree

/-! How a line of a template is read: its indentation, the block that it opens, continues or closes, and
the argument of its tag. -/
namespace PgJinja

namespace Jinja

def indentation (line : String) : Nat := (line.toList.takeWhile (· == ' ')).length

/-- A line without its leading spaces. -/
def unindented (line : String) : String := String.ofList (line.toList.dropWhile (· == ' '))

inductive Block where
  | template
  | choice
  | loop
  | call
  deriving DecidableEq, Repr

inductive Lexeme where
  | opens (block : Block)
  | closes (block : Block)
  | elif
  | otherwise
  | plain
  deriving DecidableEq, Repr

namespace Lexeme

def table : List (String × Lexeme) :=
  [("\x7b% macro ", opens .template), ("\x7b% if ", opens .choice), ("\x7b% for ", opens .loop),
   ("\x7b% call ", opens .call), ("\x7b% endmacro %\x7d", closes .template),
   ("\x7b% endif %\x7d", closes .choice), ("\x7b% endfor %\x7d", closes .loop),
   ("\x7b% endcall %\x7d", closes .call), ("\x7b% elif", elif), ("\x7b% else %\x7d", otherwise)]

def of (text : String) : Lexeme :=
  ((table.find? fun entry => entry.1.toList.isPrefixOf text.toList).map (·.2)).getD plain

theorem of_plain {text : String}
    (unlisted : ∀ entry ∈ table, entry.1.toList.isPrefixOf text.toList = false) : of text = plain := by
  have none : (table.find? fun entry => entry.1.toList.isPrefixOf text.toList) = none := by
    rw [List.find?_eq_none]
    intro entry member
    simp [unlisted entry member]
  simp [of, none]

theorem of_untagged {text : String} (untagged : "\x7b%".toList.isPrefixOf text.toList = false) :
    of text = plain := by
  apply of_plain
  intro entry member
  have tags : ∀ entry ∈ table, "\x7b%".toList.isPrefixOf entry.1.toList = true := by decide
  rw [Bool.eq_false_iff] at untagged ⊢
  intro start
  apply untagged
  have mark := List.isPrefixOf_iff_prefix.mp (tags entry member)
  exact List.isPrefixOf_iff_prefix.mpr (mark.trans (List.isPrefixOf_iff_prefix.mp start))

end Lexeme

def between? (opening closing text : String) : Option String :=
  ((text.toList.dropPrefix? opening.toList).bind (·.dropSuffix? closing.toList)).map String.ofList

def argument? (keyword text : String) : Option String :=
  between? ("\x7b% " ++ keyword ++ " ") " %\x7d" text

def callName? (text : String) : Option String :=
  between? "\x7b% call statement('" "') %\x7d" text

theorem between?_append (opening middle closing : String) :
    between? opening closing (opening ++ middle ++ closing) = some middle := by
  have start : (opening.toList ++ (middle.toList ++ closing.toList)).dropPrefix? opening.toList =
      some (middle.toList ++ closing.toList) := List.dropPrefix?_append_of_beq _ (by simp)
  have finish : (middle.toList ++ closing.toList).dropSuffix? closing.toList = some middle.toList :=
    List.dropSuffix?_eq_some_iff.mpr ⟨closing.toList, rfl, by simp⟩
  simp [between?, start, finish]

theorem argument?_tag (keyword argument : String) :
    argument? keyword (tag (keyword ++ " " ++ argument)) = some argument := by
  have shape : tag (keyword ++ " " ++ argument) = "\x7b% " ++ keyword ++ " " ++ argument ++ " %\x7d" := by
    simp [tag, String.append_assoc]
  rw [shape]
  exact between?_append _ _ _

theorem callName?_tag (name : String) :
    callName? (tag ("call statement('" ++ name ++ "')")) = some name := by
  have shape : tag ("call statement('" ++ name ++ "')") =
      "\x7b% call statement('" ++ name ++ "') %\x7d" := by
    simp [tag, ← String.toList_inj]
  rw [shape]
  exact between?_append _ _ _

def Flush (text : String) : Prop := text.toList.head? ≠ some ' '

theorem indented_zero (code : String) : indented 0 code = code := by
  simp [indented, Text.copies]

theorem takeWhile_indented {code : String} (flush : Flush code) (spaces : Nat) :
    (indented spaces code).toList.takeWhile (· == ' ') = List.replicate spaces ' ' ∧
      (indented spaces code).toList.dropWhile (· == ' ') = code.toList := by
  have start : code.toList.takeWhile (· == ' ') = [] ∧
      code.toList.dropWhile (· == ' ') = code.toList := by
    unfold Flush at flush
    generalize code.toList = text at flush ⊢
    cases text with
    | nil => simp
    | cons c cs => simp_all
  induction spaces with
  | zero => simpa [indented, Text.copies] using start
  | succ n ih => simp_all [indented, Text.copies, List.replicate_succ]

theorem indentation_indented {code : String} (flush : Flush code) (spaces : Nat) :
    indentation (indented spaces code) = spaces := by
  simp [indentation, (takeWhile_indented flush spaces).1]

theorem unindented_indented {code : String} (flush : Flush code) (spaces : Nat) :
    unindented (indented spaces code) = code := by
  simp [unindented, (takeWhile_indented flush spaces).2]

/-- A text that stands for itself: it is not indented, and it neither opens nor closes a block. -/
structure Plain (text : String) : Prop where
  flush : Flush text
  lexeme : Lexeme.of text = .plain

theorem flush_tag (code : String) : Flush (tag code) := by
  simp [Flush, tag]

theorem plain_tag {code : String} {c : Char} (start : code.toList.head? = some c)
    (other : ['m', 'i', 'f', 'c', 'e'].all (· != c) = true) : Plain (tag code) := by
  refine ⟨flush_tag code, Lexeme.of_plain ?_⟩
  simp only [tag, String.toList_append]
  generalize code.toList = text at start
  cases text with
  | nil => cases start
  | cons d rest =>
    cases start
    simp only [List.all_cons, Bool.and_eq_true, bne_iff_ne] at other
    simp [Lexeme.table, List.isPrefixOf, other]

theorem plain_printed (code : String) : Plain (printed code) :=
  ⟨by simp [Flush, printed], Lexeme.of_untagged (by simp [printed, List.isPrefixOf])⟩

theorem plain_comment (text : String) : Plain (commentLine text) :=
  ⟨by simp [Flush, commentLine], Lexeme.of_untagged (by simp [commentLine, List.isPrefixOf])⟩

theorem plain_raise (level : Int) (message : String) : Plain (raiseCode level message) := by
  unfold raiseCode
  split
  · exact plain_printed _
  · split
    · exact plain_printed _
    · exact plain_printed _

theorem plain_return (expr : Option String) : Plain (returnCode expr) := by
  have bare : Plain (tag "do return()") := plain_tag (c := 'd') (by simp) (by decide)
  cases expr with
  | none => exact bare
  | some e =>
    rw [returnCode]
    split
    · exact bare
    · exact plain_tag (c := 'd') (by simp) (by decide)

theorem plain_query (query : String)
    (untagged : "\x7b%".toList.isPrefixOf (Text.strip query).toList = false) :
    Plain (Text.strip query ++ ";") := by
  have visible := Text.strip_head query (c := ' ') (by decide)
  suffices shape : Flush (Text.strip query ++ ";") ∧
      "\x7b%".toList.isPrefixOf (Text.strip query ++ ";").toList = false from
    ⟨shape.1, Lexeme.of_untagged shape.2⟩
  simp only [Flush, String.toList_append]
  generalize (Text.strip query).toList = text at visible untagged
  match text with
  | [] => simp [List.isPrefixOf]
  | [c] => simp_all [List.isPrefixOf]
  | c :: d :: rest => exact ⟨by simpa using visible, by simpa [List.isPrefixOf] using untagged⟩

end Jinja

/-- No query that stands in a call block looks like a tag. -/
def Statement.untagged : Statement → Bool
  | .execute (some query) none _ | .dynamic (some query) _ =>
    !"\x7b%".toList.isPrefixOf (Text.strip query).toList
  | _ => true

end PgJinja
