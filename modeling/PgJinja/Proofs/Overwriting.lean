import PgJinja.Files.Discovery
import PgJinja.Proofs.Batches

/-! What stays of the templates of a run. Sources with the same stem share one output, and the last of them that
is compiled has it. -/
namespace PgJinja

def Call.templateFor (settings : Settings) (tools : Tools) (name : String) (c : Call) : Option Compilation :=
  if c.path.stem = name then
    match c.verdict settings tools with
    | .compiled t => some t
    | _ => none
  else none

def templatesFor (settings : Settings) (tools : Tools) (name : String) (run : List Call) : List Compilation :=
  run.filterMap (Call.templateFor settings tools name)

/-- The text of the last template that calls make under a name, or the given one if they make none. -/
def lastText (settings : Settings) (tools : Tools) (name : String) (run : List Call) (s : String) : String :=
  ((templatesFor settings tools name run).getLast?.map Compilation.text).getD s

section

variable {settings : Settings} {tools : Tools} {failFast : Bool}

theorem Settings.templatePath_inj {d : Disk} {name other : String} {loc : Location}
    (single : '/' ∉ name.toList) (whole : '/' ∉ other.toList)
    (reached : d.locate (settings.templatePath name) = .ok loc)
    (template : d.locate (settings.templatePath other) = .ok loc) : name = other := by
  obtain ⟨part, last, -, named⟩ := Path.child_located Path.sql_suffix reached
  obtain ⟨part', last', -, named'⟩ := Path.child_located Path.sql_suffix template
  rw [last] at last'
  cases last'
  have same : name ++ ".sql" = other ++ ".sql" := (named single).symm.trans (named' whole)
  have texts := congrArg String.toList same
  rw [String.toList_append, String.toList_append] at texts
  exact String.toList_inj.mp (List.append_cancel_right texts)

theorem lastText_cons (name : String) (c : Call) (run : List Call) (s : String) :
    lastText settings tools name (c :: run) s =
      lastText settings tools name run (lastText settings tools name [c] s) := by
  unfold lastText templatesFor
  rw [List.filterMap_cons, List.filterMap_cons]
  cases c.templateFor settings tools name with
  | none => rfl
  | some t =>
    rw [List.getLast?_cons]
    cases (run.filterMap (Call.templateFor settings tools name)).getLast? <;> rfl

namespace Call

variable {c : Call} {name : String}

theorem templateFor_stem {t : Compilation} (compiled : c.verdict settings tools = .compiled t) :
    c.templateFor settings tools c.path.stem = some t := by
  rw [templateFor, if_pos rfl, compiled]

theorem after_compiled {t : Compilation} (compiled : c.verdict settings tools = .compiled t) :
    (c.after settings tools).disk.Holds (settings.templatePath c.path.stem) t.text := by
  obtain ⟨source, read, fits, written, made⟩ := verdict_compiled compiled
  exact after_holds read fits written (template_mem_writes made)

theorem after_template {s : String} (single : '/' ∉ name.toList) (proper : c.path.Proper)
    (held : c.before.disk.Holds (settings.templatePath name) s) :
    (c.after settings tools).disk.Holds (settings.templatePath name)
      (lastText settings tools name [c] s) := by
  unfold lastText templatesFor
  rw [List.filterMap_cons, List.filterMap_nil]
  cases made : c.templateFor settings tools name with
  | some t =>
    unfold templateFor at made
    split at made
    · rename_i stem
      subst stem
      split at made
      · rename_i compiled
        cases made
        exact after_compiled compiled
      · cases made
    · cases made
  | none =>
    refine held.kept after_grows ?_
    intro loc located
    by_contra changed
    -- What changed there is a tree, which is elsewhere, or a template, which then has the same name.
    rcases after_changed changed with ⟨p, kept, tree⟩ | ⟨t, compiled, template⟩
    · exact Settings.outputs_apart kept _ loc tree located
    · have stem := Settings.templatePath_inj single proper.stem located template
      subst stem
      rw [templateFor_stem compiled] at made
      cases made

end Call

variable {paths : List Path} {start : Batch} {run : List Call} {ending : Batch × Option Crash}

theorem Runs.template_held {name s : String} (ran : Runs settings tools failFast paths start run ending)
    (proper : ∀ p ∈ paths, p.Proper) (single : '/' ∉ name.toList)
    (held : start.disk.Holds (settings.templatePath name) s) :
    ending.1.disk.Holds (settings.templatePath name) (lastText settings tools name run s) := by
  induction ran generalizing s with
  | done b => exact held
  | @crashed c crash rest answer => exact Call.after_template single (proper c.path List.mem_cons_self) held
  | @stopped c rest message answer fast => exact Call.after_template single (proper c.path List.mem_cons_self) held
  | @next c ok rest run ending answer goes later ih =>
    obtain ⟨here, others⟩ := List.forall_mem_cons.mp proper
    rw [lastText_cons]
    exact ih others (Call.after_template single here held)

theorem Runs.after_call {earlier later : List Call} {c : Call}
    (ran : Runs settings tools failFast paths start (earlier ++ c :: later) ending) :
    ∃ rest, (c.path :: rest) <:+ paths ∧
      ((later = [] ∧ ending.1.disk = (c.after settings tools).disk) ∨
        Runs settings tools failFast rest (c.after settings tools) later ending) := by
  induction earlier generalizing paths start with
  | nil =>
    cases ran with
    | crashed rest answer => exact ⟨rest, List.suffix_refl _, .inl ⟨rfl, rfl⟩⟩
    | stopped rest message answer fast => exact ⟨rest, List.suffix_refl _, .inl ⟨rfl, rfl⟩⟩
    | next answer goes next => exact ⟨_, List.suffix_refl _, .inr next⟩
  | cons first earlier ih =>
    rw [List.cons_append] at ran
    generalize tail : earlier ++ c :: later = more at ran
    cases ran with
    | crashed rest answer => simp at tail
    | stopped rest message answer fast => simp at tail
    | next answer goes next =>
      rw [← tail] at next
      obtain ⟨rest, suffix, follows⟩ := ih next
      exact ⟨rest, suffix.trans (List.suffix_cons _ _), follows⟩

theorem Runs.template_left {earlier later : List Call} {c : Call} {t : Compilation}
    (ran : Runs settings tools failFast paths start (earlier ++ c :: later) ending)
    (proper : ∀ p ∈ paths, p.Proper) (compiled : c.verdict settings tools = .compiled t) :
    ending.1.disk.Holds (settings.templatePath c.path.stem)
      (lastText settings tools c.path.stem later t.text) := by
  obtain ⟨rest, suffix, follows⟩ := ran.after_call
  obtain ⟨here, others⟩ := List.forall_mem_cons.mp fun p member => proper p (suffix.subset member)
  have held := Call.after_compiled compiled
  rcases follows with ⟨rfl, disk⟩ | next
  · rw [disk]
    exact held
  · exact next.template_held others here.stem held

end

/-- When a run returns, the output of a source that was compiled holds the last template that was made under its
stem: its own one, if no later source of the same stem was compiled. -/
theorem compileFiles_last_template (settings : Settings) (tools : Tools) (failFast : Bool) {paths : List Path}
    (proper : ∀ p ∈ paths, p.Proper) {start b : Batch}
    (returns : Batch.compileFiles settings tools failFast paths start = (b, none))
    {earlier later : List Call} {c : Call}
    (split : Batch.calls settings tools failFast paths start = earlier ++ c :: later) {t : Compilation}
    (compiled : c.verdict settings tools = .compiled t) :
    b.disk.readRaw (settings.templatePath c.path.stem) =
        .ok (lastText settings tools c.path.stem later t.text) ∧
      ((∀ other ∈ later, other.path.stem ≠ c.path.stem) →
        b.disk.readRaw (settings.templatePath c.path.stem) = .ok t.text) := by
  have ran := compileFiles_runs settings tools failFast paths start
  rw [returns, split] at ran
  have held := (ran.template_left proper compiled).readRaw
  refine ⟨held, ?_⟩
  intro distinct
  have none : templatesFor settings tools c.path.stem later = [] := by
    refine List.filterMap_eq_nil_iff.mpr ?_
    intro other member
    rw [Call.templateFor, if_neg (distinct other member)]
  rw [held, lastText, none]
  rfl

namespace Sample

def shop : Batch where
  disk.entries := [(["work"], .directory), (["work", "plpgsql"], .directory),
    (["work", "plpgsql", "sales"], .directory), (["work", "plpgsql", "sales", "load.sql"], .file (.text "A")),
    (["work", "plpgsql", "stock"], .directory), (["work", "plpgsql", "stock", "load.sql"], .file (.text "B"))]

def shopTree (query : String) : Json :=
  .arr [.obj [(Raw.functionKey, .obj [("action", .obj [(Kind.block.tag, .obj [("body", .arr
    [.obj [(Kind.execute.tag, .obj [("lineno", .int 2), ("sqlstmt", .obj [(Raw.expressionKey, .obj
      [("query", .str query)])])])]]), ("lineno", .int 1)])])])]]

def shopTools : Tools where
  parser source := .tree (shopTree (if source = "A" then "DELETE FROM sales" else "DELETE FROM stock"))
  console := console
  room := 80

def shopSettings : Settings := ⟨[⟨.root, ["work", "plpgsql"]⟩], ⟨.root, ["work", "macros"]⟩, none⟩

def found : List Path := shop.disk.find shopSettings.inputs (PathGlob.ofText "*.sql") ignoredNames

def sales : Call := ⟨shop, ⟨.root, ["work", "plpgsql", "sales", "load.sql"]⟩⟩

def stock : Call := ⟨sales.after shopSettings shopTools, ⟨.root, ["work", "plpgsql", "stock", "load.sql"]⟩⟩

def merged : Batch := (Batch.compileFiles shopSettings shopTools false found shop).1

theorem found_eq :
    found = ["/work/plpgsql/sales/load.sql", "/work/plpgsql/stock/load.sql"].map Path.ofText := by rfl

theorem found_proper : ∀ p ∈ found, p.Proper := by
  intro p member
  rw [found_eq] at member
  obtain ⟨s, -, rfl⟩ := List.mem_map.mp member
  exact Path.ofText_proper s

theorem found_calls : Batch.calls shopSettings shopTools false found shop = [sales, stock] := by rfl

theorem found_returns : Batch.compileFiles shopSettings shopTools false found shop = (merged, none) := by rfl

theorem sales_compiled : ∃ t, sales.verdict shopSettings shopTools = .compiled t ∧
    t.text = Text.unlines ["\x7b% macro load() %\x7d", "", "  \x7b% call statement('exec_1') %\x7d",
      "  DELETE FROM sales;", "  \x7b% endcall %\x7d", "\x7b% endmacro %\x7d"] :=
  ⟨_, rfl, rfl⟩

end Sample

theorem compileFiles_last_template_twins :
    ∃ t, Sample.sales.verdict Sample.shopSettings Sample.shopTools = .compiled t ∧
      Sample.merged.disk.readRaw (Sample.shopSettings.templatePath "load") =
        .ok (lastText Sample.shopSettings Sample.shopTools "load" [Sample.stock] t.text) := by
  obtain ⟨t, compiled, -⟩ := Sample.sales_compiled
  have split : Batch.calls Sample.shopSettings Sample.shopTools false Sample.found Sample.shop =
      [] ++ Sample.sales :: [Sample.stock] := Sample.found_calls
  obtain ⟨held, -⟩ := compileFiles_last_template Sample.shopSettings Sample.shopTools false Sample.found_proper
    Sample.found_returns split compiled
  exact ⟨t, compiled, held⟩

/-- A run over two files that were found, both counted as compiled, in which the template of one is lost. -/
theorem compileFiles_template_lost :
    Sample.found = ["/work/plpgsql/sales/load.sql", "/work/plpgsql/stock/load.sql"].map Path.ofText ∧
      Sample.found.Nodup ∧
      Batch.compileFiles Sample.shopSettings Sample.shopTools false Sample.found Sample.shop = (Sample.merged, none) ∧
      Sample.merged.result.compiled = 2 ∧
      ∃ c ∈ Batch.calls Sample.shopSettings Sample.shopTools false Sample.found Sample.shop, ∃ t,
        c.verdict Sample.shopSettings Sample.shopTools = .compiled t ∧
        Sample.merged.disk.readRaw (Sample.shopSettings.templatePath c.path.stem) ≠ .ok t.text := by
  have held : Sample.merged.disk.readRaw (Sample.shopSettings.templatePath "load") = .ok (Text.unlines
      ["\x7b% macro load() %\x7d", "", "  \x7b% call statement('exec_2') %\x7d", "  DELETE FROM stock;",
        "  \x7b% endcall %\x7d", "\x7b% endmacro %\x7d"]) := by rfl
  obtain ⟨t, compiled, text⟩ := Sample.sales_compiled
  refine ⟨Sample.found_eq, by decide, Sample.found_returns, by rfl, Sample.sales, ?_, t, compiled, ?_⟩
  · rw [Sample.found_calls]
    exact List.mem_cons_self
  · change Sample.merged.disk.readRaw (Sample.shopSettings.templatePath "load") ≠ .ok t.text
    rw [held, text]
    decide

end PgJinja
