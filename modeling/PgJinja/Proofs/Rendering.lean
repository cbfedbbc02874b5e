import PgJinja.Proofs.Meaning

/-! What the lines of a template do when it is rendered. The lines are read one by one, with the open
blocks on a stack; a block that is closed contributes what it does. The rules below say what steps do, for
each way in which steps are put together. -/
namespace PgJinja.Jinja

/-- An open block. A conditional knows the line just before it, what the first of its earlier branches
that holds does, whether the present branch holds, and whether it is the last one. -/
inductive Frame where
  | choice (before : Option String) (chosen : Option (List Event)) (live last : Bool)
  | loop (rows : Nat)
  | call (series : String) (text : Option String)

/-- What was done so far in the innermost open block, the line just read if it is a plain one, and the open
blocks with what was done before each. -/
structure Reading where
  events : List Event := []
  before : Option String := none
  outer : List (Frame × List Event) := []

def settled (chosen : Option (List Event)) (live : Bool) (events : List Event) : Option (List Event) :=
  chosen.or (if live then some events else none)

namespace Reading

/-- Reads a line without its leading spaces. A call block holds one plain line and nothing else; a loop
stands under a guard and takes its rows from the line before the guard. -/
def readText (w : World) (r : Reading) (text : String) : Option Reading :=
  match Lexeme.of text, r.outer with
  | .plain, (.call series none, done) :: outer =>
    some { r with outer := (.call series (some text), done) :: outer }
  | .closes .call, (.call series (some body), done) :: outer =>
    some ⟨done ++ [.call series body], none, outer⟩
  | _, (.call .., _) :: _ => none
  | .plain, outer => some ⟨r.events ++ [.line text], some text, outer⟩
  | .opens .call, outer =>
    (callName? text).map fun name =>
      ⟨[], none, (.call (String.ofList (name.toList.takeWhile (· != '_'))) none, r.events) :: outer⟩
  | .opens .choice, outer =>
    (argument? "if" text).map fun test =>
      ⟨[], none, (.choice r.before none (w.holds test) false, r.events) :: outer⟩
  | .elif, (.choice before chosen live false, done) :: outer =>
    (argument? "elif" text).map fun test =>
      ⟨[], none, (.choice before (settled chosen live r.events) (w.holds test) false, done) :: outer⟩
  | .otherwise, (.choice before chosen live false, done) :: outer =>
    some ⟨[], none, (.choice before (settled chosen live r.events) true true, done) :: outer⟩
  | .closes .choice, (.choice _ chosen live _, done) :: outer =>
    some ⟨done ++ (settled chosen live r.events).getD [], none, outer⟩
  | .opens .loop, (.choice (some query) chosen live last, done) :: outer =>
    if isQueryLine query then
      some ⟨[], none, (.loop (w.rows query), r.events) :: (.choice (some query) chosen live last, done) :: outer⟩
    else none
  | .closes .loop, (.loop rows, done) :: outer =>
    some ⟨done ++ (List.replicate rows r.events).flatten, none, outer⟩
  | _, _ => none

def read (w : World) (r : Reading) (line : String) : Option Reading := r.readText w (unindented line)

def inCall (r : Reading) : Bool :=
  match r.outer with
  | (.call .., _) :: _ => true
  | _ => false

variable {w : World} {r : Reading}

theorem read_indented {code : String} (flush : Flush code) (spaces : Nat) :
    r.read w (indented spaces code) = r.readText w code := by
  rw [read, unindented_indented flush]

theorem readText_plain {text : String} (plain : Lexeme.of text = .plain) (free : r.inCall = false) :
    r.readText w text = some ⟨r.events ++ [.line text], some text, r.outer⟩ := by
  obtain ⟨events, before, outer⟩ := r
  cases outer with
  | nil => simp [readText, plain]
  | cons entry outer =>
    obtain ⟨frame, done⟩ := entry
    cases frame with
    | choice => simp [readText, plain]
    | loop => simp [readText, plain]
    | call => cases free

theorem readText_if (test : String) (free : r.inCall = false) :
    r.readText w (tag ("if " ++ test)) =
      some ⟨[], none, (.choice r.before none (w.holds test) false, r.events) :: r.outer⟩ := by
  have lexeme : Lexeme.of (tag ("if " ++ test)) = .opens .choice := by
    simp [Lexeme.of, Lexeme.table, tag]
  have argument : argument? "if" (tag ("if " ++ test)) = some test := argument?_tag "if" test
  obtain ⟨events, before, outer⟩ := r
  cases outer with
  | nil => simp [readText, lexeme, argument]
  | cons entry outer =>
    obtain ⟨frame, done⟩ := entry
    cases frame with
    | choice => simp [readText, lexeme, argument]
    | loop => simp [readText, lexeme, argument]
    | call => cases free

theorem readText_elif (test : String) (events : List Event) (last before : Option String)
    (chosen : Option (List Event)) (live : Bool) (done : List Event) (outer : List (Frame × List Event)) :
    (⟨events, last, (.choice before chosen live false, done) :: outer⟩ : Reading).readText w
        (tag ("elif " ++ test)) =
      some ⟨[], none, (.choice before (settled chosen live events) (w.holds test) false, done) :: outer⟩ := by
  have lexeme : Lexeme.of (tag ("elif " ++ test)) = .elif := by
    simp [Lexeme.of, Lexeme.table, tag]
  have argument : argument? "elif" (tag ("elif " ++ test)) = some test := argument?_tag "elif" test
  simp [readText, lexeme, argument]

theorem readText_call (series : Series) (n : Int) (free : r.inCall = false) :
    r.readText w (tag ("call statement('" ++ Ids.name series.text n ++ "')")) =
      some ⟨[], none, (.call series.text none, r.events) :: r.outer⟩ := by
  have lexeme : Lexeme.of (tag ("call statement('" ++ Ids.name series.text n ++ "')")) =
      .opens .call := by
    simp [Lexeme.of, Lexeme.table, tag]
  have start : String.ofList ((Ids.name series.text n).toList.takeWhile (· != '_')) = series.text := by
    cases series <;> simp [Ids.name, Series.text]
  have name := callName?_tag (Ids.name series.text n)
  obtain ⟨events, before, outer⟩ := r
  cases outer with
  | nil => simp [readText, lexeme, name, start]
  | cons entry outer =>
    obtain ⟨frame, done⟩ := entry
    cases frame with
    | choice => simp [readText, lexeme, name, start]
    | loop => simp [readText, lexeme, name, start]
    | call => cases free

end Reading

def meaning (w : World) (lines : List String) : Option (List Event) :=
  match lines.foldlM (Reading.read w) {} with
  | some r => if r.outer.isEmpty then some r.events else none
  | none => none

/-- What steps do in a block that is not a call, at any indentation and with any numbers. -/
def Means (w : World) (steps : List Step) (events : List Event) : Prop :=
  ∀ (indent n : Int) (r : Reading), r.inCall = false →
    ∃ before, (written indent n steps).foldlM (Reading.read w) r =
      some ⟨r.events ++ events, before, r.outer⟩

def Continues (w : World) (steps : List Step) (cases : List (String × List Event))
    (otherwise : List Event) : Prop :=
  ∀ (indent n : Int) (events : List Event) (last before : Option String) (chosen : Option (List Event))
    (live : Bool) (done : List Event) (outer : List (Frame × List Event)),
    (written indent n steps).foldlM (Reading.read w)
        ⟨events, last, (.choice before chosen live false, done) :: outer⟩ =
      some ⟨done ++ ((settled chosen live events).or (w.first cases)).getD otherwise, none, outer⟩

variable {w : World} {first second body rest : List Step} {events others : List Event}
  {cases : List (String × List Event)} {otherwise : List Event}

theorem means_nil : Means w [] [] := by
  intro indent n r free
  exact ⟨r.before, by simp [written]⟩

theorem Means.append (left : Means w first events) (right : Means w second others) :
    Means w (first ++ second) (events ++ others) := by
  intro indent n r free
  obtain ⟨middle, readFirst⟩ := left indent n r free
  obtain ⟨before, readSecond⟩ := right indent (n + taken first) ⟨r.events ++ events, middle, r.outer⟩ free
  refine ⟨before, ?_⟩
  rw [written_append, List.foldlM_append, readFirst]
  simpa [List.append_assoc] using readSecond

theorem foldlM_emit {code : String} (flush : Flush code) (indent n : Int) (depth : Nat) (r : Reading) :
    (written indent n (.emit depth code :: rest)).foldlM (Reading.read w) r =
      (r.readText w code).bind ((written indent n rest).foldlM (Reading.read w)) := by
  simp [written, Step.lines, Step.taken, Reading.read_indented flush]

theorem means_plain {code : String} (plain : Plain code) (depth : Nat) :
    Means w [.emit depth code] [.line code] := by
  intro indent n r free
  refine ⟨some code, ?_⟩
  rw [foldlM_emit plain.flush, Reading.readText_plain plain.lexeme free]
  simp [written]

theorem means_comment (depth : Nat) (text : String) :
    Means w [.comment depth text] [.line (commentLine text)] :=
  means_plain (plain_comment text) depth

theorem means_warn (code : Code) (message help : String) (line : Option Line) :
    Means w [.warn code message help line] [] := by
  intro indent n r free
  exact ⟨r.before, by simp [written, Step.lines]⟩

theorem means_call {sql : String} (plain : Plain (sql ++ ";")) (depth : Nat) (series : Series) :
    Means w [.call depth series sql] [.call series.text (sql ++ ";")] := by
  intro indent n r free
  refine ⟨none, ?_⟩
  have opening := Reading.readText_call (w := w) series (n + 1) free
  have close : Lexeme.of (tag "endcall") = .closes .call := by decide
  have body : (⟨[], none, (.call series.text none, r.events) :: r.outer⟩ : Reading).readText w
      (sql ++ ";") = some ⟨[], none, (.call series.text (some (sql ++ ";")), r.events) :: r.outer⟩ := by
    simp [Reading.readText, plain.lexeme]
  have closing : (⟨[], none, (.call series.text (some (sql ++ ";")), r.events) :: r.outer⟩ : Reading).readText w
      (tag "endcall") = some ⟨r.events ++ [.call series.text (sql ++ ";")], none, r.outer⟩ := by
    simp [Reading.readText, close]
  simp [written, Step.lines, Output.callLines, Reading.read_indented plain.flush,
    Reading.read_indented (flush_tag _), opening, body, closing]

theorem continues_end (depth : Nat) : Continues w [.emit depth (tag "endif")] [] [] := by
  intro indent n events last before chosen live done outer
  have close : Lexeme.of (tag "endif") = .closes .choice := by decide
  rw [foldlM_emit (flush_tag _)]
  simp [Reading.readText, close, World.first, written]

theorem continues_else (inner : Means w body events) (depth : Nat) :
    Continues w (.emit depth (tag "else") :: (body ++ [.emit depth (tag "endif")])) [] events := by
  intro indent n earlier last before chosen live done outer
  have lexeme : Lexeme.of (tag "else") = .otherwise := by decide
  have close : Lexeme.of (tag "endif") = .closes .choice := by decide
  obtain ⟨middle, readBody⟩ := inner indent n
    ⟨[], none, (.choice before (settled chosen live earlier) true true, done) :: outer⟩ rfl
  rw [foldlM_emit (flush_tag _)]
  simp only [Reading.readText, lexeme, Option.bind_some]
  rw [written_append, List.foldlM_append, readBody, Option.bind_eq_bind, Option.bind_some,
    foldlM_emit (flush_tag _)]
  cases settled chosen live earlier with
  | none => simp [Reading.readText, close, settled, World.first, written]
  | some taken => simp [Reading.readText, close, settled, World.first, written]

theorem continues_elif (test : String) (inner : Means w body events)
    (tail : Continues w rest cases otherwise) (depth : Nat) :
    Continues w (.emit depth (tag ("elif " ++ test)) :: (body ++ rest)) ((test, events) :: cases)
      otherwise := by
  intro indent n earlier last before chosen live done outer
  obtain ⟨middle, readBody⟩ := inner indent n
    ⟨[], none, (.choice before (settled chosen live earlier) (w.holds test) false, done) :: outer⟩ rfl
  rw [foldlM_emit (flush_tag _), Reading.readText_elif, Option.bind_some, written_append,
    List.foldlM_append, readBody, Option.bind_eq_bind, Option.bind_some, tail, World.first_cons,
    ← Option.or_assoc]
  rfl

theorem Continues.warned (tail : Continues w rest cases otherwise) (code : Code) (message help : String)
    (line : Option Line) : Continues w (.warn code message help line :: rest) cases otherwise := by
  intro indent n events last before chosen live done outer
  simpa [written, Step.lines, Step.taken] using tail indent n events last before chosen live done outer

theorem means_if (test : String) (inner : Means w body events)
    (tail : Continues w rest cases otherwise) (depth : Nat) :
    Means w (.emit depth (tag ("if " ++ test)) :: (body ++ rest))
      ((w.first ((test, events) :: cases)).getD otherwise) := by
  intro indent n r free
  refine ⟨none, ?_⟩
  obtain ⟨middle, readBody⟩ := inner indent n
    ⟨[], none, (.choice r.before none (w.holds test) false, r.events) :: r.outer⟩ rfl
  rw [foldlM_emit (flush_tag _), Reading.readText_if test free, Option.bind_some, written_append,
    List.foldlM_append, readBody, Option.bind_eq_bind, Option.bind_some, tail, World.first_cons]
  rfl

theorem means_loop {query : String} (plain : Plain query) (records : isQueryLine query = true)
    (inner : Means w body events) (depth : Nat) :
    Means w (.emit depth query :: .emit depth (tag "if execute")
        :: .emit (depth + deeper) (tag "for rec in records.rows()")
        :: (body ++ [.emit (depth + deeper) (tag "endfor"), .emit depth (tag "endif")]))
      (.line query :: (w.first [("execute", (List.replicate (w.rows query) events).flatten)]).getD []) := by
  intro indent n r free
  refine ⟨none, ?_⟩
  have loop : Lexeme.of (tag "for rec in records.rows()") = .opens .loop := by decide
  have closeLoop : Lexeme.of (tag "endfor") = .closes .loop := by decide
  have close : Lexeme.of (tag "endif") = .closes .choice := by decide
  -- The guard keeps the query line, and the loop below it takes its rows from there.
  have guard : (⟨r.events ++ [.line query], some query, r.outer⟩ : Reading).readText w (tag "if execute") =
      some ⟨[], none, (.choice (some query) none (w.holds "execute") false, r.events ++ [.line query])
        :: r.outer⟩ := Reading.readText_if "execute" free
  obtain ⟨middle, readBody⟩ := inner indent n
    ⟨[], none, (.loop (w.rows query), [])
      :: (.choice (some query) none (w.holds "execute") false, r.events ++ [.line query]) :: r.outer⟩ rfl
  rw [foldlM_emit plain.flush, Reading.readText_plain plain.lexeme free, Option.bind_some,
    foldlM_emit (flush_tag _), guard, Option.bind_some, foldlM_emit (flush_tag _)]
  simp only [Reading.readText, loop, records, if_true, Option.bind_some]
  rw [written_append, List.foldlM_append, readBody, Option.bind_eq_bind, Option.bind_some,
    foldlM_emit (flush_tag _)]
  simp only [Reading.readText, closeLoop, Option.bind_some]
  rw [foldlM_emit (flush_tag _), World.first_cons]
  simp [Reading.readText, close, settled, written, World.first]

mutual
theorem Script.means {depth : Nat} {steps : List Step} {events : List Event} :
    Script w depth steps events → Means w steps events
  | .nil _ => means_nil
  | .append left right => left.means.append right.means
  | .plain depth plain => means_plain plain depth
  | .comment depth text => means_comment depth text
  | .warn _ code message help line => means_warn code message help line
  | .call depth series plain => means_call plain depth series
  | .choice test inner tail => means_if test inner.means tail.continues _
  | .loop plain records inner => means_loop plain records inner.means _
theorem Tail.continues {depth : Nat} {steps : List Step} {cases : List (String × List Event)}
    {otherwise : List Event} : Tail w depth steps cases otherwise → Continues w steps cases otherwise
  | .close depth => continues_end depth
  | .otherwise inner => continues_else inner.means _
  | .elif test inner tail => continues_elif test inner.means tail.continues _
  | .warned code message help line tail => tail.continues.warned code message help line
end

/-- Rendering the compiled lines does what the statements do, at every indentation, with every start of the
numbers and in every world in which the guards hold. Compiling well-formed statements fails only where a limit is
hit. -/
theorem compileAll_meaning (w : World) (executes : w.holds "execute" = true)
    (statements : List Statement)
    (sound : Statement.listAll Statement.wellFormed statements = true)
    (untagged : Statement.listAll Statement.untagged statements = true)
    (room : Nat) (indent : Int) (nonneg : 0 ≤ indent) (ids : Ids) (file : String) :
    match compileAll room statements indent ids file with
    | (out, none) => meaning w out.listing.lines = some (Statement.listEvents w statements)
    | (_, some failure) => ∃ limit, failure = .exceeded limit ∧
        limit.Hit room indent ids.value (Statement.listSteps 0 statements) := by
  have proceeds := Statement.listSteps_proceed_of_sound statements sound 0
  rw [Statement.listAll_iff] at untagged
  have script := listSteps_script 0 statements
    (fun s member => steps_scripted executes s (untagged s member)) proceeds
  rcases compileAll_nonneg room statements sound nonneg ids file with carried | ⟨limit, failed, hit⟩
  · obtain ⟨before, reads⟩ := script.means indent ids.value {} rfl
    rw [carried]
    simp [meaning, Output.after, Listing.extend, reads]
  · have pair : compileAll room statements indent ids file =
        ((compileAll room statements indent ids file).1, some (.exceeded limit)) := Prod.ext rfl failed
    rw [pair]
    exact ⟨limit, rfl, hit⟩

theorem compileAll_meaning_loop :
    let w : World := ⟨fun test => test == "execute" || test == "b", fun _ => 2⟩
    let statements : List Statement :=
      [.forQuery (some " select 1 ") [
          .choose (some "a") [.retNext none] [.mk (some "b") [.execute (some "delete from t") none none] none]
            (some [.ret none none]) none,
          .select (some "x") [.mk (some "x IN (1)") [.retNext none] none] true
            [.execute (some "select c") (some [.named "v"]) none] none] none,
        .dynamic (some "TRUNCATE TABLE t") none]
    let lines :=
      ["  \x7b% set records = run_query(\"select 1\") %\x7d",
        "  \x7b% if execute %\x7d",
        "    \x7b% for rec in records.rows() %\x7d",
        "      \x7b% if a %\x7d",
        "        \x7b% do return_next() %\x7d",
        "      \x7b% elif b %\x7d",
        "        \x7b% call statement('exec_0') %\x7d",
        "        delete from t;",
        "        \x7b% endcall %\x7d",
        "      \x7b% else %\x7d",
        "        \x7b% do return() %\x7d",
        "      \x7b% endif %\x7d",
        "      \x7b% if x in (1) %\x7d",
        "        \x7b% do return_next() %\x7d",
        "      \x7b% else %\x7d",
        "        \x7b% set results = run_query(\"select c\") %\x7d",
        "        \x7b% if execute %\x7d",
        "          \x7b% set v = results.columns[0].values()[0] %\x7d",
        "        \x7b% endif %\x7d",
        "      \x7b% endif %\x7d",
        "    \x7b% endfor %\x7d",
        "  \x7b% endif %\x7d",
        "  \x7b\x7b truncate_table(to_table) \x7d\x7d"]
    let row : List Event :=
      [.call "exec" "delete from t;", .line "\x7b% set results = run_query(\"select c\") %\x7d",
        .line "\x7b% set v = results.columns[0].values()[0] %\x7d"]
    w.holds "execute" = true ∧ Statement.listAll Statement.wellFormed statements = true ∧
      Statement.listAll Statement.untagged statements = true ∧
      compileAll 80 statements 2 ⟨-1⟩ "f.sql" = (⟨⟨lines⟩, ⟨0⟩, []⟩, none) ∧
      meaning w lines = some (.line "\x7b% set records = run_query(\"select 1\") %\x7d"
        :: (row ++ row ++ [.line "\x7b\x7b truncate_table(to_table) \x7d\x7d"])) := by
  intro w statements lines row
  have executes : w.holds "execute" = true := by decide
  have sound : Statement.listAll Statement.wellFormed statements = true := by decide
  have untagged : Statement.listAll Statement.untagged statements = true := by decide
  have compiled : compileAll 80 statements 2 ⟨-1⟩ "f.sql" = (⟨⟨lines⟩, ⟨0⟩, []⟩, none) := by rfl
  have law := compileAll_meaning w executes statements sound untagged 80 2 (by decide) ⟨-1⟩ "f.sql"
  rw [compiled] at law
  exact ⟨executes, sound, untagged, compiled, law.trans (by rfl)⟩

end PgJinja.Jinja
