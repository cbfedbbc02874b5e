import PgJinja.Proofs.Meaning
import PgJinja.Proofs.Templates

/-! Nesting and indentation of templates. The lines are read with a stack of open blocks; every line of a
compiled template fits the blocks that are open where it stands. -/
namespace PgJinja.Jinja

structure OpenBlock where
  block : Block
  indent : Nat
  final : Bool := false
  deriving DecidableEq, Repr

namespace OpenBlock

def extends? (top : OpenBlock) (spaces : Nat) : Bool :=
  top.block = .choice && top.indent = spaces && !top.final

/-- What a line at some indentation does to the open blocks, innermost first. What continues or closes a
block has the indentation of that block. -/
def place (spaces : Nat) : Lexeme → List OpenBlock → Option (List OpenBlock)
  | .plain, stack => some stack
  | .opens block, stack => some (⟨block, spaces, false⟩ :: stack)
  | .closes block, top :: rest => if top.block = block && top.indent = spaces then some rest else none
  | .elif, top :: rest => if top.extends? spaces then some (top :: rest) else none
  | .otherwise, top :: rest =>
    if top.extends? spaces then some ({ top with final := true } :: rest) else none
  | _, [] => none

/-- Reads a line. It is blank, or indented at least as much as the blocks that it stands in. -/
def read (stack : List OpenBlock) (line : String) : Option (List OpenBlock) :=
  if unindented line = "" || stack.all (·.indent ≤ indentation line) then
    place (indentation line) (Lexeme.of (unindented line)) stack
  else none

theorem read_indented {code : String} (flush : Flush code) {spaces : Nat} {stack : List OpenBlock}
    (inside : ∀ b ∈ stack, b.indent ≤ spaces) :
    read stack (indented spaces code) = place spaces (Lexeme.of code) stack := by
  have deep : stack.all (·.indent ≤ spaces) = true := by simpa using inside
  rw [read, unindented_indented flush, indentation_indented flush, deep]
  simp

end OpenBlock

/-- Lines that are nested in open blocks. After the last line, and only then, no block is open. -/
def Nested : List OpenBlock → List String → Prop
  | stack, [] => stack = []
  | stack, line :: rest =>
    ∃ next, OpenBlock.read stack line = some next ∧ (next = [] → rest = []) ∧ Nested next rest

theorem nested_emit {code : String} (flush : Flush code) (indent n : Int) (depth : Nat)
    {steps : List Step} {stack : List OpenBlock} {rest : List String}
    (inside : ∀ b ∈ stack, b.indent ≤ (indent + depth).toNat) (next : List OpenBlock)
    (placed : OpenBlock.place (indent + depth).toNat (Lexeme.of code) stack = some next)
    (remains : next ≠ []) (tail : Nested next (written indent n steps ++ rest)) :
    Nested stack (written indent n (.emit depth code :: steps) ++ rest) := by
  refine ⟨next, ?_, fun empty => absurd empty remains, ?_⟩
  · rw [OpenBlock.read_indented flush inside, placed]
  · simpa [Step.taken] using tail

/-- Steps whose lines leave the open blocks as they are, if those are indented at most as much. -/
def Balanced (depth : Nat) (steps : List Step) : Prop :=
  ∀ (indent n : Int) (stack : List OpenBlock) (rest : List String), stack ≠ [] →
    (∀ b ∈ stack, b.indent ≤ (indent + depth).toNat) → Nested stack rest →
    Nested stack (written indent n steps ++ rest)

def Closing (depth : Nat) (steps : List Step) : Prop :=
  ∀ (indent n : Int) (stack : List OpenBlock) (rest : List String), stack ≠ [] →
    (∀ b ∈ stack, b.indent ≤ (indent + depth).toNat) → Nested stack rest →
    Nested (⟨.choice, (indent + depth).toNat, false⟩ :: stack) (written indent n steps ++ rest)

theorem inside_push {stack : List OpenBlock} {spaces : Nat} (inside : ∀ b ∈ stack, b.indent ≤ spaces)
    (block : Block) (final : Bool) : ∀ b ∈ ⟨block, spaces, final⟩ :: stack, b.indent ≤ spaces :=
  List.forall_mem_cons.mpr ⟨Nat.le_refl spaces, inside⟩

theorem inside_deeper {stack : List OpenBlock} {indent : Int} {depth : Nat}
    (inside : ∀ b ∈ stack, b.indent ≤ (indent + depth).toNat) :
    ∀ b ∈ stack, b.indent ≤ (indent + (depth + deeper : Nat)).toNat := by
  intro b member
  have bound := inside b member
  omega

variable {depth : Nat} {first second body steps : List Step}

theorem balanced_nil (depth : Nat) : Balanced depth [] := by
  intro indent n stack rest occupied inside after
  exact after

theorem Balanced.append (left : Balanced depth first) (right : Balanced depth second) :
    Balanced depth (first ++ second) := by
  intro indent n stack rest occupied inside after
  rw [written_append, List.append_assoc]
  exact left indent n stack _ occupied inside (right indent _ stack rest occupied inside after)

theorem balanced_plain {code : String} (plain : Plain code) (depth : Nat) :
    Balanced depth [.emit depth code] := by
  intro indent n stack rest occupied inside after
  refine nested_emit plain.flush indent n depth inside stack ?_ occupied (by simpa [written] using after)
  rw [plain.lexeme, OpenBlock.place]

theorem balanced_comment (depth : Nat) (text : String) : Balanced depth [.comment depth text] :=
  balanced_plain (plain_comment text) depth

theorem balanced_warn (depth : Nat) (code : Code) (message help : String) (line : Option Line) :
    Balanced depth [.warn code message help line] := by
  intro indent n stack rest occupied inside after
  exact after

theorem balanced_call {sql : String} (plain : Plain (sql ++ ";")) (depth : Nat) (series : Series) :
    Balanced depth [.call depth series sql] := by
  intro indent n stack rest occupied inside after
  have inner := inside_push inside .call false
  have opening : Lexeme.of (tag ("call statement('" ++ Ids.name series.text (n + 1) ++ "')")) =
      .opens .call := by
    simp [Lexeme.of, Lexeme.table, tag]
  have close : Lexeme.of (tag "endcall") = .closes .call := by decide
  refine ⟨⟨.call, (indent + depth).toNat, false⟩ :: stack, ?_, by simp,
    ⟨.call, (indent + depth).toNat, false⟩ :: stack, ?_, by simp, stack, ?_,
    fun empty => absurd empty occupied, after⟩
  · rw [OpenBlock.read_indented (flush_tag _) inside, opening, OpenBlock.place]
  · rw [OpenBlock.read_indented plain.flush inner, plain.lexeme, OpenBlock.place]
  · rw [OpenBlock.read_indented (flush_tag _) inner, close]
    simp [OpenBlock.place]

theorem closing_end (depth : Nat) : Closing depth [.emit depth (tag "endif")] := by
  intro indent n stack rest occupied inside after
  have close : Lexeme.of (tag "endif") = .closes .choice := by decide
  refine nested_emit (flush_tag _) indent n depth (inside_push inside .choice false) stack ?_ occupied
    (by simpa [written] using after)
  simp [close, OpenBlock.place]

theorem closing_else (inner : Balanced (depth + deeper) body) :
    Closing depth (.emit depth (tag "else") :: (body ++ [.emit depth (tag "endif")])) := by
  intro indent n stack rest occupied inside after
  have lexeme : Lexeme.of (tag "else") = .otherwise := by decide
  have close : Lexeme.of (tag "endif") = .closes .choice := by decide
  have within := inside_push inside .choice true
  refine nested_emit (flush_tag _) indent n depth (inside_push inside .choice false)
    (⟨.choice, (indent + depth).toNat, true⟩ :: stack) ?_ (by simp) ?_
  · simp [lexeme, OpenBlock.place, OpenBlock.extends?]
  · rw [written_append, List.append_assoc]
    apply inner indent n _ _ (by simp) (inside_deeper within)
    refine nested_emit (flush_tag _) indent _ depth within stack ?_ occupied (by simpa [written] using after)
    simp [close, OpenBlock.place]

theorem closing_elif (test : String) (inner : Balanced (depth + deeper) body)
    (tail : Closing depth steps) :
    Closing depth (.emit depth (tag ("elif " ++ test)) :: (body ++ steps)) := by
  intro indent n stack rest occupied inside after
  have lexeme : Lexeme.of (tag ("elif " ++ test)) = .elif := by simp [Lexeme.of, Lexeme.table, tag]
  have within := inside_push inside .choice false
  refine nested_emit (flush_tag _) indent n depth within
    (⟨.choice, (indent + depth).toNat, false⟩ :: stack) ?_ (by simp) ?_
  · simp [lexeme, OpenBlock.place, OpenBlock.extends?]
  · rw [written_append, List.append_assoc]
    apply inner indent n _ _ (by simp) (inside_deeper within)
    exact tail indent _ stack rest occupied inside after

theorem Closing.warned (tail : Closing depth steps) (code : Code) (message help : String)
    (line : Option Line) : Closing depth (.warn code message help line :: steps) := by
  intro indent n stack rest occupied inside after
  simpa [written, Step.lines, Step.taken] using tail indent n stack rest occupied inside after

theorem balanced_choice (test : String) (inner : Balanced (depth + deeper) body)
    (tail : Closing depth steps) :
    Balanced depth (.emit depth (tag ("if " ++ test)) :: (body ++ steps)) := by
  intro indent n stack rest occupied inside after
  have lexeme : Lexeme.of (tag ("if " ++ test)) = .opens .choice := by
    simp [Lexeme.of, Lexeme.table, tag]
  refine nested_emit (flush_tag _) indent n depth inside
    (⟨.choice, (indent + depth).toNat, false⟩ :: stack) ?_ (by simp) ?_
  · rw [lexeme, OpenBlock.place]
  · rw [written_append, List.append_assoc]
    apply inner indent n _ _ (by simp) (inside_deeper (inside_push inside .choice false))
    exact tail indent _ stack rest occupied inside after

theorem balanced_for (inner : Balanced (depth + deeper) body) :
    Balanced depth (.emit depth (tag "for rec in records.rows()")
      :: (body ++ [.emit depth (tag "endfor")])) := by
  intro indent n stack rest occupied inside after
  have lexeme : Lexeme.of (tag "for rec in records.rows()") = .opens .loop := by decide
  have close : Lexeme.of (tag "endfor") = .closes .loop := by decide
  have within := inside_push inside .loop false
  refine nested_emit (flush_tag _) indent n depth inside
    (⟨.loop, (indent + depth).toNat, false⟩ :: stack) ?_ (by simp) ?_
  · rw [lexeme, OpenBlock.place]
  · rw [written_append, List.append_assoc]
    apply inner indent n _ _ (by simp) (inside_deeper within)
    refine nested_emit (flush_tag _) indent _ depth within stack ?_ occupied (by simpa [written] using after)
    simp [close, OpenBlock.place]

mutual
theorem Script.balanced {w : World} {depth : Nat} {steps : List Step} {events : List Event} :
    Script w depth steps events → Balanced depth steps
  | .nil depth => balanced_nil depth
  | .append left right => left.balanced.append right.balanced
  | .plain depth plain => balanced_plain plain depth
  | .comment depth text => balanced_comment depth text
  | .warn depth code message help line => balanced_warn depth code message help line
  | .call depth series plain => balanced_call plain depth series
  | .choice test inner tail => balanced_choice test inner.balanced tail.closing
  | .loop plain _ inner => by
    have guarded := balanced_choice "execute" (balanced_for inner.balanced) (closing_end _)
    simpa using (balanced_plain plain _).append guarded
theorem Tail.closing {w : World} {depth : Nat} {steps : List Step} {cases : List (String × List Event)}
    {otherwise : List Event} : Tail w depth steps cases otherwise → Closing depth steps
  | .close depth => closing_end depth
  | .otherwise inner => closing_else inner.balanced
  | .elif test inner tail => closing_elif test inner.balanced tail.closing
  | .warned code message help line tail => tail.closing.warned code message help line
end

def templateBlock : OpenBlock := ⟨.template, 0, false⟩

theorem read_plain {code : String} (plain : Plain code) {spaces : Nat} {stack : List OpenBlock}
    (inside : ∀ b ∈ stack, b.indent ≤ spaces) :
    OpenBlock.read stack (indented spaces code) = some stack := by
  rw [OpenBlock.read_indented plain.flush inside, plain.lexeme, OpenBlock.place]

theorem nested_locals (locals : List Variable) {rest : List String}
    (tail : Nested [templateBlock] rest) :
    Nested [templateBlock] (variableLines locals ++ rest) := by
  induction locals with
  | nil => exact tail
  | cons v locals ih =>
    have plain : Plain (variableTag v) := plain_tag (c := 's') (by simp) (by decide)
    exact ⟨[templateBlock], read_plain plain (by simp [templateBlock]), by simp, ih⟩

theorem nested_template (name : String) (locals : List Variable) (lines : List String)
    (body : Nested [templateBlock] (lines ++ [footer])) :
    Nested [] (header name :: (variableLines locals ++ "" :: (lines ++ [footer]))) := by
  have opening : OpenBlock.read [] (header name) = some [templateBlock] := by
    have lexeme : Lexeme.of (header name) = .opens .template := by
      simp [header, Lexeme.of, Lexeme.table, tag]
    have flush : Flush (header name) := flush_tag _
    have free : ∀ b ∈ ([] : List OpenBlock), b.indent ≤ 0 := by simp
    rw [← indented_zero (header name), OpenBlock.read_indented flush free, lexeme, OpenBlock.place,
      templateBlock]
  have blank : OpenBlock.read [templateBlock] "" = some [templateBlock] := by decide
  refine ⟨[templateBlock], opening, by simp, nested_locals locals ?_⟩
  exact ⟨[templateBlock], blank, by simp, body⟩

theorem nested_compiled {room : Nat} {body : List Statement} {ids : Ids} {file : String} {out : Output}
    (untagged : Statement.listAll Statement.untagged body = true)
    (carried : compileAll room body 2 ids file = (out, none)) :
    Nested [templateBlock] (out.listing.lines ++ [footer]) := by
  rw [Statement.listAll_iff] at untagged
  -- any world in which the guards hold gives the shape of the steps
  have script := listSteps_script (w := ⟨fun _ => true, fun _ => 0⟩) 0 body
    (fun s member => steps_scripted rfl s (untagged s member)) (Output.run_proceeds carried)
  have close : OpenBlock.read [templateBlock] footer = some [] := by decide
  have lines : out.listing.lines = written 2 ids.value (Statement.listSteps 0 body) := by
    rw [Output.run_ok carried]
    simp [Output.after, Listing.extend]
  rw [lines]
  exact script.balanced 2 ids.value [templateBlock] [footer] (by simp) (by simp [templateBlock])
    ⟨[], close, fun _ => rfl, rfl⟩

/-- Every template is properly nested and indented. Its lines are a header, a line for each variable, an empty line,
the lines of the compiled body and a footer; reading them with a stack of open blocks succeeds, and only after the last
line no block is open. -/
theorem template_nested (room : Nat) (name : String) (locals : List Variable) (body : List Statement) (ids : Ids)
    (file : String) (out : Output) (text : String)
    (untagged : Statement.listAll Statement.untagged body = true)
    (assembled : template room name locals body ids file = (out, .ok text)) :
    let lines := ("\x7b% macro " ++ name ++ "() %\x7d") ::
      (locals.map (fun v => "  \x7b% set " ++ v.name ++ " = " ++ v.initial.getD "''" ++ " %\x7d") ++
        "" :: (out.listing.lines ++ ["\x7b% endmacro %\x7d"]))
    compileAll room body 2 ids file = (out, none) ∧ text = Text.unlines lines ∧ Nested [] lines := by
  obtain ⟨carried, rfl⟩ := template_ok assembled
  have nested := nested_template name locals _ (nested_compiled untagged carried)
  rw [header_text, variableLines_text] at nested ⊢
  exact ⟨carried, rfl, nested⟩

theorem template_nested_loop :
    let body : List Statement :=
      [.forQuery (some "q") [.choose (some "a") [.execute (some "s") none none] []
        (some [.select (some "x") [] true [.retNext none] none]) none] none]
    let inner :=
      ["  \x7b% set records = run_query(\"q\") %\x7d",
        "  \x7b% if execute %\x7d",
        "    \x7b% for rec in records.rows() %\x7d",
        "      \x7b% if a %\x7d",
        "        \x7b% call statement('exec_1') %\x7d",
        "        s;",
        "        \x7b% endcall %\x7d",
        "      \x7b% else %\x7d",
        "        \x7b% do return_next() %\x7d",
        "      \x7b% endif %\x7d",
        "    \x7b% endfor %\x7d",
        "  \x7b% endif %\x7d"]
    let lines :=
      ["\x7b% macro m() %\x7d",
        "  \x7b% set v = '' %\x7d",
        "  \x7b% set k = 1 %\x7d",
        "",
        "  \x7b% set records = run_query(\"q\") %\x7d",
        "  \x7b% if execute %\x7d",
        "    \x7b% for rec in records.rows() %\x7d",
        "      \x7b% if a %\x7d",
        "        \x7b% call statement('exec_1') %\x7d",
        "        s;",
        "        \x7b% endcall %\x7d",
        "      \x7b% else %\x7d",
        "        \x7b% do return_next() %\x7d",
        "      \x7b% endif %\x7d",
        "    \x7b% endfor %\x7d",
        "  \x7b% endif %\x7d",
        "\x7b% endmacro %\x7d"]
    Statement.listAll Statement.untagged body = true ∧
      template 80 "m" [⟨"v", none⟩, ⟨"k", some "1"⟩] body ⟨0⟩ "f.sql" =
        (⟨⟨inner⟩, ⟨1⟩, []⟩, .ok (Text.unlines lines)) ∧
      Nested [] lines := by
  intro body inner lines
  have untagged : Statement.listAll Statement.untagged body = true := by decide
  have assembled : template 80 "m" [⟨"v", none⟩, ⟨"k", some "1"⟩] body ⟨0⟩ "f.sql" =
      (⟨⟨inner⟩, ⟨1⟩, []⟩, .ok (Text.unlines lines)) := by rfl
  exact ⟨untagged, assembled, (template_nested 80 "m" _ body ⟨0⟩ "f.sql" _ _ untagged assembled).2.2⟩

end PgJinja.Jinja
