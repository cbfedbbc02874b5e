import PgJinja.Proofs.Calls

/-! Runs over many files, call by call. Each call that can read and write agrees with compiling its source
alone. -/
namespace PgJinja

def Batch.calls (settings : Settings) (tools : Tools) (failFast : Bool) : List Path → Batch → List Call
  | [], _ => []
  | path :: rest, b =>
    let c : Call := ⟨b, path⟩
    c :: match c.answer settings tools with
      | .error _ => []
      | .ok ok => if !ok && failFast then [] else Batch.calls settings tools failFast rest (c.after settings tools)

/-- A run over paths, from its first state, call by call to what it ends with. -/
inductive Runs (settings : Settings) (tools : Tools) (failFast : Bool) :
    List Path → Batch → List Call → Batch × Option Crash → Prop where
  | done (b : Batch) : Runs settings tools failFast [] b [] (b, none)
  | crashed {c : Call} {crash : Crash} (rest : List Path) (answer : c.answer settings tools = .error crash) :
      Runs settings tools failFast (c.path :: rest) c.before [c] (c.after settings tools, some crash)
  | stopped {c : Call} (rest : List Path) (message : String) (answer : c.answer settings tools = .ok false)
      (fast : failFast = true) :
      Runs settings tools failFast (c.path :: rest) c.before [c]
        ((c.after settings tools).note .info message, none)
  | next {c : Call} {ok : Bool} {rest : List Path} {run : List Call} {ending : Batch × Option Crash}
      (answer : c.answer settings tools = .ok ok) (goes : ok = true ∨ failFast = false)
      (later : Runs settings tools failFast rest (c.after settings tools) run ending) :
      Runs settings tools failFast (c.path :: rest) c.before (c :: run) ending

theorem compileFiles_runs (settings : Settings) (tools : Tools) (failFast : Bool) (paths : List Path) (b : Batch) :
    Runs settings tools failFast paths b (Batch.calls settings tools failFast paths b)
      (Batch.compileFiles settings tools failFast paths b) := by
  induction paths generalizing b with
  | nil => exact .done b
  | cons path rest ih =>
    let c : Call := ⟨b, path⟩
    have step : b.compileFile settings tools path = (c.after settings tools, c.answer settings tools) := rfl
    rw [Batch.calls, Batch.compileFiles, step]
    cases answer : c.answer settings tools with
    | error crash => exact .crashed (c := c) rest answer
    | ok ok =>
      simp only [c]
      split
      · rename_i halt
        obtain ⟨failed, fast⟩ : ok = false ∧ failFast = true := by simpa using halt
        subst failed
        exact .stopped (c := c) rest _ answer fast
      · rename_i halt
        have goes : ok = true ∨ failFast = false := by
          cases ok <;> cases failFast <;> simp_all
        exact .next (c := c) answer goes (ih _)

/-- A call whose source was read agrees with compiling that source alone. -/
structure Call.Agrees (settings : Settings) (tools : Tools) (c : Call) (source : String) : Prop where
  compiled (t : Compilation) (made : (c.outcome tools source).result = .ok t) :
    (c.after settings tools).disk.readRaw (settings.templatePath c.path.stem) = .ok t.text ∧
      (c.after settings tools).result.diagnostics = c.before.result.diagnostics ++ t.diagnostics ∧
      (c.after settings tools).ids = (c.outcome tools source).ids
  refused (e : Refusal) (failed : (c.outcome tools source).result = .error (.refused e)) :
    (∀ loc part, loc.getLast? = some part → ".sql".toList <:+ part.toList →
      (c.after settings tools).disk.content? loc = c.before.disk.content? loc) ∧
      (c.after settings tools).result.diagnostics =
        c.before.result.diagnostics ++ [e.toDiagnostic c.path.text] ∧
      (c.after settings tools).ids = c.before.ids
  tree (entries : List Json) (parsed : c.entries tools source = .ok entries) (p : Path)
    (kept : settings.treePath? c.path.stem = some p) :
    ∃ text, treeText (.arr entries) = .ok text ∧ (c.after settings tools).disk.readRaw p = .ok text
  elsewhere (loc : Location)
    (changed : (c.after settings tools).disk.content? loc ≠ c.before.disk.content? loc) :
    (c.after settings tools).disk.locate (settings.templatePath c.path.stem) = .ok loc ∨
      ∃ p, settings.treePath? c.path.stem = some p ∧ (c.after settings tools).disk.locate p = .ok loc

namespace Call

variable {settings : Settings} {tools : Tools} {c : Call} {source : String}

section

variable (read : c.before.disk.readText c.path = .ok source) (fits : c.treeFits settings tools source = true)
  (written : (c.before.disk.writeAll (c.writes settings tools source)).2 = none)

include read fits written

theorem compiled_state {t : Compilation}
    (made : (c.outcome tools source).result = .ok t) :
    (c.after settings tools).result.diagnostics = c.before.result.diagnostics ++ t.diagnostics ∧
      (c.after settings tools).ids = (c.outcome tools source).ids := by
  have closes := after_read settings tools read fits
  generalize c.answer settings tools = answer at closes
  cases closes with
  | unwritten failed lost => simp [failed] at written
  | stopped written result other => simp [made] at result
  | refused written result ids counts => simp [made] at result
  | compiled written result ids counts =>
    rw [made] at result
    cases result
    rw [counts]
    exact ⟨rfl, ids⟩

theorem refused_state {e : Refusal}
    (failed : (c.outcome tools source).result = .error (.refused e)) :
    (c.after settings tools).result.diagnostics =
        c.before.result.diagnostics ++ [e.toDiagnostic c.path.text] ∧
      (c.after settings tools).ids = c.before.ids := by
  have same : (c.outcome tools source).ids = c.before.ids := by
    have settles := compileSource_settles tools.room source (tools.parser source) c.path.stem (some c.path.text)
      c.before.ids false
    change Settles _ _ _ (c.outcome tools source) at settles
    generalize c.outcome tools source = outcome at settles failed
    cases settles with
    | failed raised failure => rfl
    | exceeded later raised limit forward => cases failed
    | made raised t sound out carried text => cases failed
  have closes := after_read settings tools read fits
  generalize c.answer settings tools = answer at closes
  cases closes with
  | unwritten failed lost => simp [failed] at written
  | stopped written result other =>
    rw [failed] at result
    exact absurd (Except.error.inj result).symm (other e)
  | compiled written result ids counts => simp [failed] at result
  | refused written result ids counts =>
    rw [failed] at result
    cases result
    rw [counts]
    exact ⟨rfl, ids.trans same⟩

theorem agrees : c.Agrees settings tools source := by
  have verdict := verdict_read read fits written
  refine ⟨?_, ?_, ?_, ?_⟩
  · intro t made
    have held := after_holds read fits written (template_mem_writes made)
    exact ⟨held.readRaw, compiled_state read fits written made⟩
  · intro e failed
    refine ⟨?_, refused_state read fits written failed⟩
    intro loc part last ends
    by_contra changed
    -- What a refused source may leave is its tree, which has another ending than a template.
    rcases after_changed changed with ⟨p, kept, located⟩ | ⟨t, compiled, -⟩
    · exact Settings.tree_not_sql kept located last ends
    · rw [verdict, failed] at compiled
      cases compiled
  · intro entries parsed p kept
    have held := after_holds read fits written (tree_mem_writes parsed kept)
    have short : (Json.arr entries).isShort = true := by
      obtain ⟨dir, asked, -⟩ := Option.map_eq_some_iff.mp kept
      simpa [treeFits, parsed, Batch.treeFits, asked] using fits
    exact ⟨_, by simp [treeText, Json.write, short], held.readRaw⟩
  · intro loc changed
    rcases after_changed changed with tree | ⟨t, -, located⟩
    · exact .inr tree
    · exact .inl located

end

end Call

/-- In a run over any files, each call that reads its source and can write its outputs agrees with compiling the
source alone, with the numbers as they stand before the call. A tree that is to be written but holds an integer that is
too long ends the run, and nothing is written. -/
theorem compileFiles_agrees (settings : Settings) (tools : Tools) (failFast : Bool) (paths : List Path)
    (start : Batch) :
    Runs settings tools failFast paths start (Batch.calls settings tools failFast paths start)
        (Batch.compileFiles settings tools failFast paths start) ∧
      ∀ c ∈ Batch.calls settings tools failFast paths start, ∀ source,
        c.before.disk.readText c.path = .ok source →
        (c.treeFits settings tools source = true →
          (c.before.disk.writeAll (c.writes settings tools source)).2 = none → c.Agrees settings tools source) ∧
        (c.treeFits settings tools source = false →
          (c.after settings tools).disk = c.before.disk ∧ (c.after settings tools).ids = c.before.ids ∧
            c.answer settings tools = .error (.exceeded .digits)) := by
  refine ⟨compileFiles_runs settings tools failFast paths start, ?_⟩
  intro c _ source read
  exact ⟨fun fits written => Call.agrees read fits written, fun long => Call.after_long settings tools read long⟩

namespace Sample

def tree (body : List Json) : Json :=
  .arr [.obj [(Raw.functionKey, .obj [("action", .obj [(Kind.block.tag, .obj [("body", .arr body)])])])]]

def parser : Parser := fun source =>
  if source = "refused" then .refused [.str "syntax error", .int 1]
  else if source = "empty" then .tree (tree [])
  else .tree (tree [.obj [(Kind.execute.tag, .obj [("sqlstmt", .obj [(Raw.expressionKey, .obj
    [("query", .str source)])])])]])

def console : Console where
  printed text := text ++ "\n"
  styled text := text ++ "\n"
  escaped text := text
  fault? _ := none

def tools : Tools := ⟨parser, console, 80⟩

def settings : Settings := ⟨[⟨.root, ["in"]⟩], ⟨.root, ["out"]⟩, some ⟨.root, ["tree"]⟩⟩

def start (sources : List (String × String)) : Batch where
  disk.entries := (["in"], .directory) ::
    sources.map (fun (name, source) => (["in", name], .file (.text source)))

def inside (name : String) : Path := ⟨.root, ["in", name]⟩

def mixed : Batch := start [("a.sql", "refused"), ("b.sql", "empty")]

def second : Call := ⟨(Call.mk mixed (inside "a.sql")).after settings tools, inside "b.sql"⟩

theorem second_called : second ∈ Batch.calls settings tools false [inside "a.sql", inside "b.sql"] mixed :=
  List.mem_of_getElem? (i := 1) rfl

/-- The same tools with a parser whose tree holds an integer that is too long, where nothing reads it. -/
def longTools : Tools where
  parser _ := .tree (.arr [.obj [(Raw.functionKey, .obj [("action", .obj [(Kind.block.tag, .obj [])]),
    ("oid", .int firstLong)])]])
  console := console
  room := 80

end Sample

theorem compileFiles_agrees_second :
    Sample.second.before.disk.readText Sample.second.path = .ok "empty" ∧
      Sample.second.treeFits Sample.settings Sample.tools "empty" = true ∧
      (Sample.second.before.disk.writeAll (Sample.second.writes Sample.settings Sample.tools "empty")).2 = none ∧
      Sample.second.Agrees Sample.settings Sample.tools "empty" ∧
      (Sample.second.after Sample.settings Sample.tools).disk.readRaw ⟨.root, ["out", "b.sql"]⟩ =
        .ok "\x7b% macro b() %\x7d\n\n\x7b% endmacro %\x7d" := by
  obtain ⟨-, agree⟩ := compileFiles_agrees Sample.settings Sample.tools false
    [Sample.inside "a.sql", Sample.inside "b.sql"] Sample.mixed
  have read : Sample.second.before.disk.readText Sample.second.path = .ok "empty" := by rfl
  have fits : Sample.second.treeFits Sample.settings Sample.tools "empty" = true := by rfl
  have written : (Sample.second.before.disk.writeAll
      (Sample.second.writes Sample.settings Sample.tools "empty")).2 = none := by rfl
  exact ⟨read, fits, written, (agree Sample.second Sample.second_called "empty" read).1 fits written, by rfl⟩

/-- The source alone is compiled, but in a run that also writes trees nothing comes of it. -/
theorem compileFiles_tree_long :
    let c : Call := ⟨Sample.start [("a.sql", "select 1")], Sample.inside "a.sql"⟩
    c ∈ Batch.calls Sample.settings Sample.longTools false [Sample.inside "a.sql"] c.before ∧
      c.before.disk.readText c.path = .ok "select 1" ∧
      (∃ t, (c.outcome Sample.longTools "select 1").result = .ok t) ∧
      (c.after Sample.settings Sample.longTools).disk = c.before.disk ∧
      c.answer Sample.settings Sample.longTools = .error (.exceeded .digits) := by
  intro c
  have read : c.before.disk.readText c.path = .ok "select 1" := by rfl
  have long : c.treeFits Sample.settings Sample.longTools "select 1" = false := by
    simp [Call.treeFits, Call.entries, Sample.longTools, ParserAnswer.entries, Raw.items, Batch.treeFits,
      Sample.settings, Json.isShort, Json.shortItems, Json.shortFields, firstLong_long]
  obtain ⟨disk, -, answer⟩ := Call.after_long Sample.settings Sample.longTools read long
  exact ⟨List.mem_cons_self, read, ⟨_, rfl⟩, disk, answer⟩

end PgJinja
