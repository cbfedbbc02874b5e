import PgJinja.Proofs.Batches
import PgJinja.Proofs.Documents

/-! What the result of a run says about its calls: every file is counted once, by what came of it. -/
namespace PgJinja

namespace Verdict

def isRefused : Verdict → Bool
  | .refused _ => true
  | _ => false

def isLost : Verdict → Bool
  | .lost => true
  | _ => false

def diagnostics (file : String) : Verdict → List Diagnostic
  | .compiled t => t.diagnostics
  | .refused e => [e.toDiagnostic file]
  | _ => []

end Verdict

namespace BatchResult

def addAll (r : BatchResult) (vs : List (Path × Verdict)) : BatchResult :=
  vs.foldl (fun r v => r.add v.1 v.2) r

theorem addAll_eq (r : BatchResult) (vs : List (Path × Verdict)) :
    r.addAll vs =
      { files := r.files ++ vs.map (·.1)
        compiled := r.compiled + vs.countP (·.2.isCompiled)
        failed := r.failed + vs.countP (·.2.isRefused)
        fileErrors := r.fileErrors + vs.countP (·.2.isLost)
        diagnostics := r.diagnostics ++ vs.flatMap fun v => v.2.diagnostics v.1.text } := by
  induction vs generalizing r with
  | nil => simp [addAll]
  | cons v rest ih =>
    obtain ⟨path, verdict⟩ := v
    rw [addAll, List.foldl_cons, ← addAll, ih]
    cases verdict <;>
      simp [add, Verdict.isCompiled, Verdict.isRefused, Verdict.isLost, Verdict.diagnostics] <;> omega

end BatchResult

namespace Call

variable (settings : Settings) (tools : Tools) (c : Call)

def translated : Bool := (c.verdict settings tools).isCompiled

def entry : Path × Verdict := (c.path, c.verdict settings tools)

end Call

section

variable {settings : Settings} {tools : Tools} {failFast : Bool} {paths : List Path} {start : Batch}
  {run : List Call} {ending : Batch × Option Crash}

theorem Runs.counted (ran : Runs settings tools failFast paths start run ending) (returned : ending.2 = none) :
    ending.1.result = start.result.addAll (run.map (Call.entry settings tools)) ∧
      ∀ c ∈ run, ∀ failure, c.verdict settings tools ≠ .stopped failure := by
  induction ran with
  | done b => exact ⟨rfl, List.forall_mem_nil _⟩
  | crashed rest answer => cases returned
  | stopped rest message answer fast =>
    obtain ⟨counts, -, goes⟩ := Call.counted answer
    refine ⟨counts, ?_⟩
    intro c member
    rw [List.mem_singleton.mp member]
    exact goes
  | next answer goes later ih =>
    obtain ⟨counts, -, valid⟩ := Call.counted answer
    obtain ⟨total, others⟩ := ih returned
    rw [counts] at total
    exact ⟨total, List.forall_mem_cons.mpr ⟨valid, others⟩⟩

theorem Runs.reached (ran : Runs settings tools failFast paths start run ending) (returned : ending.2 = none) :
    (paths = run.map Call.path ∧ (failFast = true → ∀ c ∈ run, c.translated settings tools = true)) ∨
      (failFast = true ∧ ∃ rest init last, paths = run.map Call.path ++ rest ∧ run = init ++ [last] ∧
        (∀ c ∈ init, c.translated settings tools = true) ∧ last.translated settings tools = false) := by
  induction ran with
  | done b => exact .inl ⟨rfl, fun _ => List.forall_mem_nil _⟩
  | crashed rest answer => cases returned
  | @stopped c rest message answer fast =>
    obtain ⟨-, failed, -⟩ := Call.counted answer
    exact .inr ⟨fast, rest, [], c, rfl, rfl, List.forall_mem_nil _, failed⟩
  | @next c ok rest run ending answer goes later ih =>
    obtain ⟨-, made, -⟩ := Call.counted answer
    -- A run that is to stop at a failure goes on only after a file that was compiled.
    have here (fast : failFast = true) : c.translated settings tools = true := by
      rcases goes with rfl | off
      · exact made
      · rw [fast] at off
        cases off
    rcases ih returned with ⟨all, clean⟩ | ⟨fast, rest', init, last, split, ends, clean, failed⟩
    · refine .inl ⟨by rw [all, List.map_cons], ?_⟩
      intro fast
      exact List.forall_mem_cons.mpr ⟨here fast, clean fast⟩
    · refine .inr ⟨fast, rest', c :: init, last, ?_, ?_, List.forall_mem_cons.mpr ⟨here fast, clean⟩, failed⟩
      · rw [split, List.map_cons, List.cons_append]
      · rw [ends, List.cons_append]

end

namespace Verdict

/-- A run that returns counts a file in one of three ways, and what is compiled comes with warnings only. -/
def Counted : Verdict → Prop
  | .compiled t => ∀ d ∈ t.diagnostics, d.severity = .warning
  | .refused _ => True
  | .lost => True
  | .stopped _ => False

theorem counted_once {v : Verdict} (counted : v.Counted) :
    (if v.isCompiled then 1 else 0) + (if v.isRefused then 1 else 0) + (if v.isLost then 1 else 0) = 1 := by
  cases v with
  | compiled t => rfl
  | refused e => rfl
  | lost => rfl
  | stopped m => cases counted

theorem errorCount_diagnostics {v : Verdict} (counted : v.Counted) (file : String) :
    Report.errorCount (v.diagnostics file) = if v.isRefused then 1 else 0 := by
  cases v with
  | compiled t =>
    refine List.countP_eq_zero.mpr ?_
    intro d member
    rw [counted d member]
    decide
  | refused e => rfl
  | lost => rfl
  | stopped m => cases counted

end Verdict

theorem Call.verdict_counted {settings : Settings} {tools : Tools} {c : Call}
    (goes : ∀ failure, c.verdict settings tools ≠ .stopped failure) : (c.verdict settings tools).Counted := by
  cases verdict : c.verdict settings tools with
  | compiled t => exact compiled_warnings verdict
  | refused e => trivial
  | lost => trivial
  | stopped failure => exact goes failure verdict

section

variable {vs : List (Path × Verdict)} (counted : ∀ v ∈ vs, v.2.Counted)

include counted

theorem countP_verdicts :
    vs.countP (·.2.isCompiled) + vs.countP (·.2.isRefused) + vs.countP (·.2.isLost) = vs.length := by
  induction vs with
  | nil => rfl
  | cons v rest ih =>
    obtain ⟨here, later⟩ := List.forall_mem_cons.mp counted
    have first := Verdict.counted_once here
    have total := ih later
    rw [List.countP_cons, List.countP_cons, List.countP_cons, List.length_cons]
    omega

theorem errorCount_verdicts :
    Report.errorCount (vs.flatMap fun v => v.2.diagnostics v.1.text) = vs.countP (·.2.isRefused) := by
  induction vs with
  | nil => rfl
  | cons v rest ih =>
    obtain ⟨here, later⟩ := List.forall_mem_cons.mp counted
    have first := Verdict.errorCount_diagnostics here v.1.text
    have others := ih later
    unfold Report.errorCount at first others ⊢
    rw [List.flatMap_cons, List.countP_append, List.countP_cons, first, others]
    omega

theorem warnings_verdicts {d : Diagnostic} (member : d ∈ vs.flatMap fun v => v.2.diagnostics v.1.text)
    (other : d.severity ≠ .error) :
    d.severity = .warning ∧ ∃ v ∈ vs, ∃ t, v.2 = .compiled t ∧ d ∈ t.diagnostics := by
  obtain ⟨v, here, raised⟩ := List.mem_flatMap.mp member
  have valid := counted v here
  cases verdict : v.2 with
  | compiled t =>
    rw [verdict] at raised valid
    exact ⟨valid d raised, v, here, t, verdict, raised⟩
  | refused e =>
    rw [verdict] at raised
    rw [List.mem_singleton.mp raised] at other
    exact absurd rfl other
  | lost =>
    rw [verdict] at raised
    cases raised
  | stopped m =>
    rw [verdict] at raised
    cases raised

end

/-! The report as a document. -/

theorem Diagnostic.toJson_plain (d : Diagnostic) : d.toJson.Plain := by
  obtain ⟨severity, message, file, line, column, code, help⟩ := d
  have number : line.toJson.Plain := by
    cases line <;> simp [Line.toJson]
  cases code <;> cases help <;> simp [toJson, location, number]

theorem Report.document_plain (ds : List Diagnostic) (files : List String) (stats : List (String × Int))
    (distinct : (stats.map (·.1)).Nodup) : (Report.document ds files stats).Plain := by
  have listed (severity : Severity) : (Json.arr (listOf severity ds)).Plain := by
    refine .arr ?_
    intro v member
    obtain ⟨d, -, rfl⟩ := List.mem_map.mp member
    exact d.toJson_plain
  have numbers : (Json.obj (stats.map fun s => (s.1, .int s.2))).Plain := by
    refine .obj (by simpa [Function.comp_def] using distinct) ?_
    intro f member
    obtain ⟨s, -, rfl⟩ := List.mem_map.mp member
    exact .int s.2
  have names : (Json.arr (files.map Json.str)).Plain := by simp
  unfold document
  refine .obj (by split <;> simp) ?_
  refine List.forall_mem_append.mpr ⟨?_, ?_⟩
  · simp only [List.forall_mem_cons]
    exact ⟨.str _, names, .bool _, listed .error, listed .warning, List.forall_mem_nil _⟩
  · split
    · exact List.forall_mem_nil _
    · exact List.forall_mem_singleton.mpr numbers

theorem BatchResult.report_read (console : Console) (r : BatchResult) (sources : Sources)
    (errors : (Report.errorCount r.diagnostics : Int) = r.failed) :
    ∃ fields, Json.read? (r.report console sources true) = some (.obj fields) ∧
      fields.lookup "valid" = some (.bool (decide (r.failed = 0))) := by
  let stats : List (String × Int) :=
    [("translated", r.compiled), ("failed", r.failed), ("file_errors", r.fileErrors)]
  have plain := Report.document_plain r.diagnostics (r.files.map Path.text) stats (by simp [stats])
  have read : Json.read? (r.report console sources true) =
      some (Report.document r.diagnostics (r.files.map Path.text) stats) :=
    Json.read?_layout plain .ascii "\n" (.inr rfl)
  refine ⟨_, read, ?_⟩
  have valid : (Report.listOf .error r.diagnostics).isEmpty = decide (r.failed = 0) := by
    have length : (Report.listOf .error r.diagnostics).length = Report.errorCount r.diagnostics := by
      rw [Report.listOf, List.length_map, Report.errorCount, List.countP_eq_length_filter]
    rw [Bool.eq_iff_iff, List.isEmpty_iff, ← List.length_eq_zero_iff, length, decide_eq_true_iff]
    omega
  rw [← valid]
  rfl

theorem BatchResult.print_eq_ok {console : Console} (r : BatchResult) {sources : Sources} {json : Bool} {text : String}
    (shown : r.print console sources json = .ok text) : text = r.report console sources json := by
  unfold print at shown
  split at shown
  · exact (Except.ok.inj shown).symm
  · cases shown

theorem BatchResult.exitCode_cases {r : BatchResult} (failed : 0 ≤ r.failed) (fileErrors : 0 ≤ r.fileErrors)
    (total : r.compiled + r.failed + r.fileErrors = r.files.length) :
    (r.exitCode = 0 ↔ r.compiled = r.files.length) ∧ (r.exitCode = 2 ↔ 0 < r.fileErrors) ∧
      (r.exitCode = 1 ↔ r.compiled ≠ r.files.length ∧ ¬ 0 < r.fileErrors) := by
  unfold exitCode
  split
  · omega
  · split <;> omega

structure Tallies (settings : Settings) (tools : Tools) (run : List Call) (r : BatchResult) : Prop where
  files : r.files = run.map Call.path
  compiled : r.compiled = run.countP (Call.translated settings tools)
  counts : 0 ≤ r.failed ∧ 0 ≤ r.fileErrors
  total : r.compiled + r.failed + r.fileErrors = r.files.length
  errors : (Report.errorCount r.diagnostics : Int) = r.failed
  warnings (d : Diagnostic) (member : d ∈ r.diagnostics) (other : d.severity ≠ .error) :
    d.severity = .warning ∧ ∃ c ∈ run, ∃ t, c.verdict settings tools = .compiled t ∧ d ∈ t.diagnostics

theorem Runs.tallies {settings : Settings} {tools : Tools} {failFast : Bool} {paths : List Path} {start b : Batch}
    {run : List Call} (ran : Runs settings tools failFast paths start run (b, none)) (fresh : start.result = {}) :
    Tallies settings tools run b.result := by
  obtain ⟨result, goes⟩ := ran.counted rfl
  rw [fresh, BatchResult.addAll_eq] at result
  change b.result = _ at result
  have counted : ∀ v ∈ run.map (Call.entry settings tools), v.2.Counted := by
    intro v member
    obtain ⟨c, here, rfl⟩ := List.mem_map.mp member
    exact Call.verdict_counted (goes c here)
  rw [result]
  refine ⟨?_, ?_, by simp, ?_, ?_, ?_⟩
  · simp [Call.entry, Function.comp_def]
  · exact (Int.zero_add _).trans (congrArg _ List.countP_map)
  · have lengths := countP_verdicts counted
    simp only [List.nil_append, List.length_map, Int.zero_add] at lengths ⊢
    omega
  · simp [errorCount_verdicts counted]
  · intro d member other
    rw [List.nil_append] at member
    obtain ⟨warning, v, here, t, made, raised⟩ := warnings_verdicts counted member other
    obtain ⟨c, called, rfl⟩ := List.mem_map.mp here
    exact ⟨warning, c, called, t, made, raised⟩

/-- What the result of a run says about its calls, and about the paths that it was given. -/
structure Accounts (settings : Settings) (tools : Tools) (failFast : Bool) (paths : List Path) (run : List Call)
    (b : Batch) : Prop extends Tallies settings tools run b.result where
  success : b.result.exitCode = 0 ↔ ∀ c ∈ run, c.translated settings tools = true
  unserved : b.result.exitCode = 2 ↔ 0 < b.result.fileErrors
  otherwise : b.result.exitCode = 1 ↔
    (¬ ∀ c ∈ run, c.translated settings tools = true) ∧ ¬ 0 < b.result.fileErrors
  thorough (slow : failFast = false) : b.result.files = paths
  prompt (fast : failFast = true) :
    (b.result.files = paths ∧ ∀ c ∈ run, c.translated settings tools = true) ∨
      ∃ rest init last, paths = b.result.files ++ rest ∧ run = init ++ [last] ∧
        (∀ c ∈ init, c.translated settings tools = true) ∧ last.translated settings tools = false
  valid : ∃ fields, Json.read? (b.result.report tools.console b.sources true) = some (.obj fields) ∧
    fields.lookup "valid" = some (.bool (decide (b.result.failed = 0)))
  printed (text : String) (shown : b.result.print tools.console b.sources true = .ok text) :
    text = b.result.report tools.console b.sources true

/-- Whenever a run returns, its result accounts for each of its calls. -/
theorem compileFiles_accounts (settings : Settings) (tools : Tools) (failFast : Bool) (paths : List Path)
    (start : Batch) (fresh : start.result = {}) {b : Batch}
    (returns : Batch.compileFiles settings tools failFast paths start = (b, none)) :
    Accounts settings tools failFast paths (Batch.calls settings tools failFast paths start) b := by
  have ran := compileFiles_runs settings tools failFast paths start
  rw [returns] at ran
  generalize Batch.calls settings tools failFast paths start = run at ran
  have tallies := ran.tallies fresh
  have every : b.result.compiled = b.result.files.length ↔ ∀ c ∈ run, c.translated settings tools = true := by
    rw [tallies.compiled, tallies.files, List.length_map, Int.natCast_inj]
    exact List.countP_eq_length
  obtain ⟨success, unserved, otherwise⟩ :=
    BatchResult.exitCode_cases tallies.counts.1 tallies.counts.2 tallies.total
  refine ⟨tallies, success.trans every, unserved, ?_, ?_, ?_, b.result.report_read tools.console _ tallies.errors,
    fun _ shown => b.result.print_eq_ok shown⟩
  · rw [otherwise, ← every]
  · intro slow
    rcases ran.reached rfl with ⟨all, -⟩ | ⟨fast, -⟩
    · rw [tallies.files, all]
    · rw [slow] at fast
      cases fast
  · intro fast
    rw [tallies.files]
    rcases ran.reached rfl with ⟨all, clean⟩ | ⟨-, stopped⟩
    · exact .inl ⟨all.symm, clean fast⟩
    · exact .inr stopped

namespace Sample

def three : List Path := [inside "b.sql", inside "a.sql", inside "c.sql"]

def ended : Batch := (Batch.compileFiles settings tools true three mixed).1

end Sample

theorem compileFiles_accounts_three :
    Sample.mixed.result = {} ∧
      Batch.compileFiles Sample.settings Sample.tools true Sample.three Sample.mixed = (Sample.ended, none) ∧
      Accounts Sample.settings Sample.tools true Sample.three
        (Batch.calls Sample.settings Sample.tools true Sample.three Sample.mixed) Sample.ended ∧
      Sample.ended.result.files = [Sample.inside "b.sql", Sample.inside "a.sql"] ∧
      Sample.ended.result.exitCode = 1 := by
  have returns : Batch.compileFiles Sample.settings Sample.tools true Sample.three Sample.mixed =
      (Sample.ended, none) := by rfl
  exact ⟨rfl, returns, compileFiles_accounts _ _ _ _ _ rfl returns, by rfl, by rfl⟩

end PgJinja
