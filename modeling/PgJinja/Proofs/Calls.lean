import PgJinja.Cli.Batch
import PgJinja.Proofs.Numbering
import PgJinja.Proofs.Storage

/-! One call for one file. What it comes to is said once, by what compiling the source alone comes to and by
whether the texts can be written. -/
namespace PgJinja

def Settings.templatePath (settings : Settings) (name : String) : Path :=
  settings.templateDir.child (name ++ ".sql")

def Settings.treePath? (settings : Settings) (name : String) : Option Path :=
  settings.treeDir.map fun dir => dir.child (name ++ ".tree")

theorem Path.sql_suffix : Path.Suffix ".sql" := ⟨by decide, by decide⟩

theorem Path.tree_suffix : Path.Suffix ".tree" := ⟨by decide, by decide⟩

theorem Settings.tree_not_sql {settings : Settings} {name part : String} {p : Path} {d : Disk} {loc : Location}
    (tree : settings.treePath? name = some p) (reached : d.locate p = .ok loc) (last : loc.getLast? = some part) :
    ¬ ".sql".toList <:+ part.toList := by
  intro sql
  obtain ⟨dir, -, rfl⟩ := Option.map_eq_some_iff.mp tree
  obtain ⟨part', last', ends, -⟩ := Path.child_located Path.tree_suffix reached
  rw [last] at last'
  cases last'
  have both := List.suffix_of_suffix_length_le sql ends (by decide)
  exact absurd both (by decide)

theorem Settings.outputs_apart {settings : Settings} {name other : String} {p : Path}
    (tree : settings.treePath? name = some p) : Disk.Apart p (settings.templatePath other) := by
  intro d loc reached template
  obtain ⟨part, last, ends, -⟩ := Path.child_located Path.sql_suffix template
  exact Settings.tree_not_sql tree reached last ends

theorem warnings_severity {file : String} {steps : List Jinja.Step} {d : Diagnostic}
    (member : d ∈ steps.flatMap (Jinja.Step.warnings file)) : d.severity = .warning := by
  obtain ⟨step, -, raised⟩ := List.mem_flatMap.mp member
  cases step with
  | warn code message help line =>
    rw [List.mem_singleton.mp raised]
    rfl
  | emit depth code => cases raised
  | comment depth text => cases raised
  | call depth series sql => cases raised
  | stop fault => cases raised

theorem compileEntry_made {room : Nat} {entry : Json} {name file : String} {ids : Jinja.Ids} {raised : List Diagnostic}
    (warnings : ∀ d ∈ raised, d.severity = .warning) {t : Compilation}
    (made : (compileEntry room entry name file ids raised).result = .ok t) :
    t.name = name ∧ ∀ d ∈ t.diagnostics, d.severity = .warning := by
  unfold compileEntry at made
  split at made
  · cases made
  · rename_i procedure read
    cases assembled : Jinja.template room procedure.name procedure.locals procedure.body ids file with
    | mk out text =>
      rw [assembled] at made
      cases text with
      | error failure => cases made
      | ok text =>
        cases made
        refine ⟨rfl, ?_⟩
        intro d member
        rcases List.mem_append.mp member with before | here
        · exact warnings d before
        · rw [Jinja.Output.run_ok (Jinja.template_ok assembled).1] at here
          exact warnings_severity here

theorem compileTree_made {room : Nat} {tree : Json} {name : String} {file : Option String} {ids : Jinja.Ids}
    {t : Compilation} (made : (compileTree room tree name file ids).result = .ok t) :
    t.name = name ∧ ∀ d ∈ t.diagnostics, d.severity = .warning := by
  simp only [compileTree] at made
  split at made
  · cases made
  · split at made
    · cases made
    · split at made
      · cases made
      · refine compileEntry_made ?_ made
        intro d member
        split at member
        · rw [List.mem_singleton.mp member]
          rfl
        · cases member

namespace Batch

variable {b : Batch} {settings : Settings}

inductive Lost (r : BatchResult) : BatchResult → Except Crash Bool → Prop where
  | counted : Lost r { r with fileErrors := r.fileErrors + 1 } (.ok false)
  | crashed (left : BatchResult) (crash : Crash) : Lost r left (.error crash)

theorem Lost.answered {r r' : BatchResult} {ok : Bool} (lost : Lost r r' (.ok ok)) :
    ok = false ∧ r' = { r with fileErrors := r.fileErrors + 1 } := by
  cases lost
  exact ⟨rfl, rfl⟩

theorem fileError_lost (console : Console) (action file error : String) :
    (b.fileError console action file error).1.disk = b.disk ∧
      Lost b.result (b.fileError console action file error).1.result (b.fileError console action file error).2 := by
  simp only [fileError]
  split
  · exact ⟨rfl, .crashed _ _⟩
  · exact ⟨rfl, .counted⟩

theorem unreadable_lost (console : Console) (file : String) (fault : ReadFault) :
    (b.unreadable console file fault).1.disk = b.disk ∧
      Lost b.result (b.unreadable console file fault).1.result (b.unreadable console file fault).2 := by
  unfold unreadable
  split
  · exact ⟨rfl, .crashed _ _⟩
  · exact fileError_lost console _ _ _

theorem unwritable_lost (console : Console) (file : String) (fault : FileFault) :
    (b.unwritable console file fault).1.disk = b.disk ∧
      Lost b.result (b.unwritable console file fault).1.result (b.unwritable console file fault).2 := by
  unfold unwritable
  split
  · exact ⟨rfl, .crashed _ _⟩
  · exact fileError_lost console _ _ _

/-- How the work on a source ends that has been read, when the given texts are to be written and compiling it
alone comes to the given outcome. -/
inductive Closes (disk : Disk) (r : BatchResult) (file : String) (writes : List (Path × String))
    (outcome : Outcome) (b : Batch) : Except Crash Bool → Prop where
  | unwritten {answer : Except Crash Bool} {fault : FileFault}
      (failed : disk.writeAll writes = (b.disk, some fault)) (lost : Lost r b.result answer) :
      Closes disk r file writes outcome b answer
  | stopped {failure : Failure} {crash : Crash} (written : disk.writeAll writes = (b.disk, none))
      (result : outcome.result = .error failure) (other : ∀ e, failure ≠ .refused e) :
      Closes disk r file writes outcome b (.error crash)
  | refused {e : Refusal} (written : disk.writeAll writes = (b.disk, none))
      (result : outcome.result = .error (.refused e)) (ids : b.ids = outcome.ids)
      (counted : b.result =
        { r with failed := r.failed + 1, diagnostics := r.diagnostics ++ [e.toDiagnostic file] }) :
      Closes disk r file writes outcome b (.ok false)
  | compiled {t : Compilation} (written : disk.writeAll writes = (b.disk, none))
      (result : outcome.result = .ok t) (ids : b.ids = outcome.ids)
      (counted : b.result =
        { r with compiled := r.compiled + 1, diagnostics := r.diagnostics ++ t.diagnostics }) :
      Closes disk r file writes outcome b (.ok true)

theorem failed_closes {disk : Disk} {file : String} {writes : List (Path × String)} {outcome : Outcome}
    {failure : Failure} (written : disk.writeAll writes = (b.disk, none))
    (result : outcome.result = .error failure) (ids : b.ids = outcome.ids) :
    Closes disk b.result file writes outcome (b.failed file failure).1 (b.failed file failure).2 := by
  cases failure with
  | refused e => exact .refused written result ids rfl
  | misfit m => exact .stopped written result nofun
  | exceeded limit => exact .stopped written result nofun

def treeWrites (settings : Settings) (name : String) (tree : Json) : List (Path × String) :=
  (settings.treePath? name).toList.map fun p => (p, tree.layout .unicode)

def templateWrites (settings : Settings) (name : String) (result : Except Failure Compilation) :
    List (Path × String) :=
  result.toOption.toList.map fun t => (settings.templatePath name, t.text)

theorem treeWrites_path {name : String} {tree : Json} {w : Path × String}
    (member : w ∈ treeWrites settings name tree) : settings.treePath? name = some w.1 := by
  obtain ⟨p, kept, rfl⟩ := List.mem_map.mp member
  exact Option.mem_toList.mp kept

theorem templateWrites_path {name : String} {result : Except Failure Compilation} {w : Path × String}
    (member : w ∈ templateWrites settings name result) :
    ∃ t, result = .ok t ∧ w.1 = settings.templatePath name := by
  cases result with
  | error failure => cases member
  | ok t =>
    rw [List.mem_singleton.mp member]
    exact ⟨t, rfl, rfl⟩

/-- The tree can be written as a text, or it is not asked for. -/
def treeFits (settings : Settings) (tree : Json) : Bool := settings.treeDir.isNone || tree.isShort

theorem saveTree_long (console : Console) (b : Batch) {settings : Settings} (name : String) {tree : Json}
    (long : treeFits settings tree = false) :
    b.saveTree console settings name tree = (b, some (.exceeded .digits)) := by
  obtain ⟨asked, long⟩ : settings.treeDir.isNone = false ∧ tree.isShort = false := by
    simpa [treeFits, Bool.or_eq_false_iff] using long
  unfold saveTree
  cases found : settings.treeDir with
  | none => simp [found] at asked
  | some dir => simp [treeText, Json.write, long]

theorem saveTree_fits (console : Console) (b : Batch) {settings : Settings} (name : String) {tree : Json}
    (fits : treeFits settings tree = true) :
    ∃ kept : Batch, b.saveTree console settings name tree =
        (kept, (b.disk.writeAll (treeWrites settings name tree)).2.map .file) ∧
      kept.disk = (b.disk.writeAll (treeWrites settings name tree)).1 ∧ kept.ids = b.ids ∧
      kept.result = b.result := by
  unfold saveTree treeWrites Settings.treePath?
  cases asked : settings.treeDir with
  | none => exact ⟨b, rfl, rfl, rfl, rfl⟩
  | some dir =>
    have short : tree.isShort = true := by simpa [treeFits, asked] using fits
    simp only [treeText, Json.write, short, if_true, Option.map_some, Option.toList_some, List.map_cons, List.map_nil,
      Disk.writeAll]
    cases b.disk.write (dir.child (name ++ ".tree")) (tree.layout .unicode) with
    | mk disk fault => cases fault <;> exact ⟨_, rfl, rfl, rfl, rfl⟩

theorem saveTemplate_closes (console : Console) (settings : Settings) (file : String) {disk : Disk}
    {first : List (Path × String)} {outcome : Outcome} {t : Compilation}
    (kept : disk.writeAll first = (b.disk, none)) (result : outcome.result = .ok t) (ids : b.ids = outcome.ids) :
    Closes disk b.result file (first ++ templateWrites settings t.name (.ok t)) outcome
      (b.saveTemplate console settings file t).1 (b.saveTemplate console settings file t).2 := by
  have written : disk.writeAll (first ++ templateWrites settings t.name (.ok t)) =
      b.disk.write (settings.templateDir.child (t.name ++ ".sql")) t.text := by
    rw [Disk.writeAll_append, kept]
    exact Disk.writeAll_single _ _
  unfold saveTemplate
  cases step : b.disk.write (settings.templateDir.child (t.name ++ ".sql")) t.text with
  | mk after fault =>
    rw [step] at written
    cases fault with
    | none => exact .compiled written result ids rfl
    | some fault =>
      obtain ⟨same, lost⟩ := unwritable_lost (b := { b with disk := after }) console file fault
      have failed : disk.writeAll (first ++ templateWrites settings t.name (.ok t)) =
          (({ b with disk := after }.unwritable console file fault).1.disk, some fault) := by
        rw [written, same]
      exact .unwritten failed lost

theorem compileEntries_closes (tools : Tools) (b : Batch) {settings : Settings} (file name : String) {tree : Json}
    (fits : treeFits settings tree = true) :
    Closes b.disk b.result file
      (treeWrites settings name tree
        ++ templateWrites settings name (compileTree tools.room tree name (some file) b.ids).result)
      (compileTree tools.room tree name (some file) b.ids) (b.compileEntries tools settings file name tree).1
      (b.compileEntries tools settings file name tree).2 := by
  obtain ⟨kept, saved, disk, ids, result⟩ := b.saveTree_fits tools.console name fits
  have first : b.disk.writeAll (treeWrites settings name tree) =
      (kept.disk, (b.disk.writeAll (treeWrites settings name tree)).2) := by
    rw [disk]
  unfold compileEntries
  rw [saved, ← result, ← ids]
  cases stop : (b.disk.writeAll (treeWrites settings name tree)).2 with
  | some fault =>
    rw [stop] at first
    obtain ⟨same, lost⟩ := unwritable_lost (b := kept) tools.console file fault
    have failed : b.disk.writeAll (treeWrites settings name tree
        ++ templateWrites settings name (compileTree tools.room tree name (some file) kept.ids).result) =
          ((kept.unwritable tools.console file fault).1.disk, some fault) := by
      rw [Disk.writeAll_append, first, same]
    exact .unwritten failed lost
  | none =>
    rw [stop] at first
    simp only [Option.map_none]
    have named (t : Compilation) (made : (compileTree tools.room tree name (some file) kept.ids).result = .ok t) :
        t.name = name := (compileTree_made made).1
    generalize compileTree tools.room tree name (some file) kept.ids = outcome at named ⊢
    -- Of the state after compiling, only the disk, the numbers and the result matter from here on.
    obtain ⟨settled, same, disk, ids, counts⟩ :
        ∃ settled : Batch, settled =
            { kept with
              ids := outcome.ids, log := kept.log ++ outcome.raised.filterMap LogRecord.ofDiagnostic? } ∧
          settled.disk = kept.disk ∧ settled.ids = outcome.ids ∧ settled.result = kept.result :=
      ⟨_, rfl, rfl, rfl, rfl⟩
    rw [← same, ← counts]
    rw [← disk] at first
    cases made : outcome.result with
    | error failure =>
      refine failed_closes ?_ made ids
      rw [Disk.writeAll_append, first]
      rfl
    | ok t =>
      have closes := saveTemplate_closes tools.console settings file first made ids
      rw [named t made] at closes
      exact closes

end Batch

/-- What comes of a file. -/
inductive Verdict where
  | compiled (t : Compilation)
  | refused (e : Refusal)
  /-- The file could not be read, or an output could not be written. -/
  | lost
  /-- The tree is none, or the work goes beyond a limit, which ends the run. -/
  | stopped (failure : Failure)

namespace Verdict

def ofResult : Except Failure Compilation → Verdict
  | .ok t => .compiled t
  | .error (.refused e) => .refused e
  | .error failure => .stopped failure

def isCompiled : Verdict → Bool
  | .compiled _ => true
  | _ => false

end Verdict

def BatchResult.add (r : BatchResult) (path : Path) (v : Verdict) : BatchResult :=
  let r := { r with files := r.files ++ [path] }
  match v with
  | .compiled t => { r with compiled := r.compiled + 1, diagnostics := r.diagnostics ++ t.diagnostics }
  | .refused e =>
    { r with failed := r.failed + 1, diagnostics := r.diagnostics ++ [e.toDiagnostic path.text] }
  | .lost => { r with fileErrors := r.fileErrors + 1 }
  | .stopped _ => r

structure Call where
  before : Batch
  path : Path

namespace Call

variable (settings : Settings) (tools : Tools) (c : Call)

def after : Batch := (c.before.compileFile settings tools c.path).1

def answer : Except Crash Bool := (c.before.compileFile settings tools c.path).2

def entries (source : String) : Except Failure (List Json) :=
  (tools.parser source).entries source (some c.path.text)

def outcome (source : String) : Outcome :=
  compileSource tools.room source (tools.parser source) c.path.stem (some c.path.text) c.before.ids false

def treeWrites (source : String) : List (Path × String) :=
  match c.entries tools source with
  | .ok entries => Batch.treeWrites settings c.path.stem (.arr entries)
  | .error _ => []

def writes (source : String) : List (Path × String) :=
  c.treeWrites settings tools source
  ++ Batch.templateWrites settings c.path.stem (c.outcome tools source).result

/-- The tree of the source can be written as a text, or it is not asked for. -/
def treeFits (source : String) : Bool :=
  match c.entries tools source with
  | .ok entries => Batch.treeFits settings (.arr entries)
  | .error _ => true

def verdict : Verdict :=
  match c.before.disk.readText c.path with
  | .error _ => .lost
  | .ok source =>
    if c.treeFits settings tools source then
      match (c.before.disk.writeAll (c.writes settings tools source)).2 with
      | some _ => .lost
      | none => .ofResult (c.outcome tools source).result
    else .stopped (.exceeded .digits)

def listed : BatchResult := { c.before.result with files := c.before.result.files ++ [c.path] }

variable {c}

theorem after_unread {fault : ReadFault} (unread : c.before.disk.readText c.path = .error fault) :
    (c.after settings tools).disk = c.before.disk ∧
      Batch.Lost c.listed (c.after settings tools).result (c.answer settings tools) := by
  unfold after answer Batch.compileFile
  simp only [unread]
  exact Batch.unreadable_lost (b := { c.before with result := c.listed }) tools.console c.path.text fault

theorem after_long {source : String} (read : c.before.disk.readText c.path = .ok source)
    (long : c.treeFits settings tools source = false) :
    (c.after settings tools).disk = c.before.disk ∧ (c.after settings tools).ids = c.before.ids ∧
      c.answer settings tools = .error (.exceeded .digits) := by
  unfold treeFits entries at long
  unfold after answer Batch.compileFile
  simp only [read]
  cases parsed : (tools.parser source).entries source (some c.path.text) with
  | error failure => simp [parsed] at long
  | ok entries =>
    simp only [parsed] at long
    simp only [Batch.compileEntries, Batch.saveTree_long _ _ _ long]
    exact ⟨trivial, trivial, trivial⟩

theorem after_read {source : String} (read : c.before.disk.readText c.path = .ok source)
    (fits : c.treeFits settings tools source = true) :
    Batch.Closes c.before.disk c.listed c.path.text (c.writes settings tools source) (c.outcome tools source)
      (c.after settings tools) (c.answer settings tools) := by
  let opened : Batch :=
    { c.before with sources := c.before.sources.add c.path.text source, result := c.listed }
  unfold treeFits entries at fits
  unfold after answer writes treeWrites outcome Batch.compileFile compileSource entries
  simp only [read, Bool.false_eq_true, if_false]
  cases parsed : (tools.parser source).entries source (some c.path.text) with
  | error failure => exact Batch.failed_closes (b := opened) rfl rfl rfl
  | ok entries =>
    simp only [parsed] at fits
    exact Batch.compileEntries_closes tools opened c.path.text c.path.stem fits

variable {settings tools}

theorem verdict_unread {fault : ReadFault} (unread : c.before.disk.readText c.path = .error fault) :
    c.verdict settings tools = .lost := by
  rw [verdict, unread]

theorem verdict_read {source : String} (read : c.before.disk.readText c.path = .ok source)
    (fits : c.treeFits settings tools source = true)
    (written : (c.before.disk.writeAll (c.writes settings tools source)).2 = none) :
    c.verdict settings tools = .ofResult (c.outcome tools source).result := by
  simp only [verdict, read, fits, if_true, written]

theorem verdict_unwritten {source : String} {fault : FileFault}
    (read : c.before.disk.readText c.path = .ok source) (fits : c.treeFits settings tools source = true)
    (failed : (c.before.disk.writeAll (c.writes settings tools source)).2 = some fault) :
    c.verdict settings tools = .lost := by
  simp only [verdict, read, fits, if_true, failed]

theorem verdict_compiled {t : Compilation} (compiled : c.verdict settings tools = .compiled t) :
    ∃ source, c.before.disk.readText c.path = .ok source ∧ c.treeFits settings tools source = true ∧
      (c.before.disk.writeAll (c.writes settings tools source)).2 = none ∧
      (c.outcome tools source).result = .ok t := by
  unfold verdict at compiled
  split at compiled
  · cases compiled
  · rename_i source read
    split at compiled
    · rename_i fits
      split at compiled
      · cases compiled
      · rename_i written
        refine ⟨source, read, fits, written, ?_⟩
        unfold Verdict.ofResult at compiled
        split at compiled
        · rename_i made
          cases compiled
          exact made
        · cases compiled
        · cases compiled
    · cases compiled

theorem compiled_warnings {t : Compilation} (compiled : c.verdict settings tools = .compiled t) :
    ∀ d ∈ t.diagnostics, d.severity = .warning := by
  obtain ⟨source, -, -, -, made⟩ := verdict_compiled compiled
  unfold outcome compileSource at made
  split at made
  · cases made
  · exact (compileTree_made made).2

theorem counted {ok : Bool} (answered : c.answer settings tools = .ok ok) :
    (c.after settings tools).result = c.before.result.add c.path (c.verdict settings tools) ∧
      (c.verdict settings tools).isCompiled = ok ∧ ∀ failure, c.verdict settings tools ≠ .stopped failure := by
  cases read : c.before.disk.readText c.path with
  | error fault =>
    obtain ⟨-, lost⟩ := after_unread settings tools read
    rw [answered] at lost
    rw [verdict_unread read]
    obtain ⟨rfl, counts⟩ := lost.answered
    exact ⟨counts, rfl, fun _ => nofun⟩
  | ok source =>
    cases fits : c.treeFits settings tools source with
    | false =>
      obtain ⟨-, -, crashed⟩ := after_long settings tools read fits
      rw [answered] at crashed
      cases crashed
    | true =>
      have closes := after_read settings tools read fits
      rw [answered] at closes
      cases closes with
      | unwritten failed lost =>
        rw [verdict_unwritten read fits (congrArg Prod.snd failed)]
        obtain ⟨rfl, counts⟩ := lost.answered
        exact ⟨counts, rfl, fun _ => nofun⟩
      | refused written result ids counts =>
        rw [verdict_read read fits (congrArg Prod.snd written), result]
        exact ⟨counts, rfl, fun _ => nofun⟩
      | compiled written result ids counts =>
        rw [verdict_read read fits (congrArg Prod.snd written), result]
        exact ⟨counts, rfl, fun _ => nofun⟩

theorem after_disk {source : String} (read : c.before.disk.readText c.path = .ok source)
    (fits : c.treeFits settings tools source = true) :
    (c.after settings tools).disk = (c.before.disk.writeAll (c.writes settings tools source)).1 := by
  have closes := after_read settings tools read fits
  generalize c.answer settings tools = answer at closes
  cases closes with
  | unwritten failed lost => rw [failed]
  | stopped written result other => rw [written]
  | refused written result ids counts => rw [written]
  | compiled written result ids counts => rw [written]

theorem treeWrites_path {source : String} {w : Path × String}
    (member : w ∈ c.treeWrites settings tools source) : settings.treePath? c.path.stem = some w.1 := by
  unfold treeWrites at member
  split at member
  · exact Batch.treeWrites_path member
  · cases member

theorem template_mem_writes {source : String} {t : Compilation} (made : (c.outcome tools source).result = .ok t) :
    (settings.templatePath c.path.stem, t.text) ∈ c.writes settings tools source := by
  refine List.mem_append_right _ ?_
  rw [made]
  exact List.mem_singleton_self _

theorem tree_mem_writes {source : String} {entries : List Json} (parsed : c.entries tools source = .ok entries)
    {p : Path} (kept : settings.treePath? c.path.stem = some p) :
    (p, (Json.arr entries).layout .unicode) ∈ c.writes settings tools source := by
  refine List.mem_append_left _ ?_
  rw [treeWrites, parsed]
  exact List.mem_map.mpr ⟨p, Option.mem_toList.mpr kept, rfl⟩

theorem writes_apart (source : String) :
    (c.writes settings tools source).Pairwise fun v w => Disk.Apart v.1 w.1 := by
  refine List.pairwise_append.mpr ⟨?_, ?_, ?_⟩
  · unfold treeWrites Batch.treeWrites
    split
    · cases settings.treePath? c.path.stem with
      | none => exact .nil
      | some p => exact List.pairwise_singleton _ _
    · exact .nil
  · unfold Batch.templateWrites
    cases (c.outcome tools source).result with
    | error failure => exact .nil
    | ok t => exact List.pairwise_singleton _ _
  · intro v tree w template
    obtain ⟨t, -, path⟩ := Batch.templateWrites_path template
    rw [path]
    exact Settings.outputs_apart (treeWrites_path tree)

/-- Only the template, which comes last, can be the text that could not be written after another. -/
theorem mem_dropLast_writes {source : String} {w : Path × String}
    (member : w ∈ (c.writes settings tools source).dropLast) : w ∈ c.treeWrites settings tools source := by
  unfold writes Batch.templateWrites at member
  cases made : (c.outcome tools source).result with
  | error failure =>
    simp only [made, Except.toOption, Option.toList_none, List.map_nil, List.append_nil] at member
    exact List.mem_of_mem_dropLast member
  | ok t =>
    simpa [made, Except.toOption] using member

theorem after_grows : Disk.Grows c.before.disk (c.after settings tools).disk := by
  cases read : c.before.disk.readText c.path with
  | error fault =>
    rw [(after_unread settings tools read).1]
    exact .refl _
  | ok source =>
    cases fits : c.treeFits settings tools source with
    | false =>
      rw [(after_long settings tools read fits).1]
      exact .refl _
    | true =>
      rw [after_disk read fits]
      exact Disk.writeAll_grows _

theorem after_changed {loc : Location}
    (changed : (c.after settings tools).disk.content? loc ≠ c.before.disk.content? loc) :
    (∃ p, settings.treePath? c.path.stem = some p ∧ (c.after settings tools).disk.locate p = .ok loc) ∨
      ∃ t, c.verdict settings tools = .compiled t ∧
        (c.after settings tools).disk.locate (settings.templatePath c.path.stem) = .ok loc := by
  cases read : c.before.disk.readText c.path with
  | error fault =>
    rw [(after_unread settings tools read).1] at changed
    contradiction
  | ok source =>
    have fits : c.treeFits settings tools source = true := by
      cases fits : c.treeFits settings tools source with
      | true => rfl
      | false =>
        rw [(after_long settings tools read fits).1] at changed
        contradiction
    have disk : (c.after settings tools).disk = _ := after_disk read fits
    rw [disk] at changed ⊢
    cases stop : (c.before.disk.writeAll (c.writes settings tools source)).2 with
    | some fault =>
      -- The text that failed is the last one or the tree, so at most the tree was written.
      obtain ⟨w, member, located⟩ : ∃ w ∈ (c.writes settings tools source).dropLast,
          (c.before.disk.writeAll (c.writes settings tools source)).1.locate w.1 = .ok loc := by
        by_contra none
        exact changed (Disk.writeAll_failed stop fun w member located => none ⟨w, member, located⟩)
      exact .inl ⟨w.1, treeWrites_path (mem_dropLast_writes member), located⟩
    | none =>
      obtain ⟨w, member, located⟩ : ∃ w ∈ c.writes settings tools source,
          (c.before.disk.writeAll (c.writes settings tools source)).1.locate w.1 = .ok loc := by
        by_contra none
        exact changed (Disk.writeAll_elsewhere stop fun w member located => none ⟨w, member, located⟩)
      rcases List.mem_append.mp member with tree | template
      · exact .inl ⟨w.1, treeWrites_path tree, located⟩
      · obtain ⟨t, made, path⟩ := Batch.templateWrites_path template
        rw [path] at located
        refine .inr ⟨t, ?_, located⟩
        rw [verdict_read read fits stop, made]
        rfl

theorem after_holds {source : String} (read : c.before.disk.readText c.path = .ok source)
    (fits : c.treeFits settings tools source = true)
    (written : (c.before.disk.writeAll (c.writes settings tools source)).2 = none) {p : Path} {s : String}
    (member : (p, s) ∈ c.writes settings tools source) : (c.after settings tools).disk.Holds p s := by
  rw [after_disk read fits]
  exact Disk.writeAll_holds (writes_apart source) written (p, s) member

end Call

end PgJinja
