import PgJinja.Proofs.Accounting
import PgJinja.Proofs.SourceLines

/-! The report as a document: it is written in visible ASCII, and what is read from it is what was reported. -/
namespace PgJinja

namespace Json

def Visible (cs : List Char) : Prop := ∀ c ∈ cs, c = '\n' ∨ (0x20 ≤ c.toNat ∧ c.toNat ≤ 0x7E)

theorem visible_of_all {cs : List Char}
    (all : (cs.all fun c => c == '\n' || (decide (0x20 ≤ c.toNat) && decide (c.toNat ≤ 0x7E))) = true) :
    Visible cs := by
  intro c member
  simpa using List.all_eq_true.mp all c member

@[simp] theorem visible_nil : Visible [] := List.forall_mem_nil _

@[simp] theorem visible_cons {c : Char} {cs : List Char} :
    Visible (c :: cs) ↔ (c = '\n' ∨ (0x20 ≤ c.toNat ∧ c.toNat ≤ 0x7E)) ∧ Visible cs :=
  List.forall_mem_cons

@[simp] theorem visible_append {first second : List Char} :
    Visible (first ++ second) ↔ Visible first ∧ Visible second :=
  List.forall_mem_append

theorem visible_hex (width n : Nat) : Visible (Text.hex width n) := by
  have digits : ∀ d < 16, 0x20 ≤ (Text.hexDigit d).toNat ∧ (Text.hexDigit d).toNat ≤ 0x7E := by decide
  induction width generalizing n with
  | zero => simp [Text.hex]
  | succ width ih =>
    simp only [Text.hex, visible_append, ih, visible_cons, visible_nil, true_and, and_true]
    exact .inr (digits _ (Nat.mod_lt n (by decide)))

theorem visible_unit (n : Nat) : Visible (unitEscape n) := by
  simp only [unitEscape, visible_cons, visible_hex, and_true]
  decide

theorem visible_writeChar (c : Char) : Visible (writeChar .ascii c) := by
  unfold writeChar
  -- Seven characters have an escape of their own.
  iterate 7
    split
    · exact visible_of_all (by decide)
  split
  · exact visible_unit _
  · rename_i low
    split
    · unfold scalarEscape
      split
      · exact visible_unit _
      · exact visible_append.mpr ⟨visible_unit _, visible_unit _⟩
    · rename_i high
      simp only [true_and] at high
      exact visible_cons.mpr ⟨.inr ⟨by omega, by omega⟩, visible_nil⟩

theorem visible_writeString (s : String) : Visible (writeString .ascii s) := by
  have chars : Visible (s.toList.flatMap (writeChar .ascii)) := by
    intro c member
    obtain ⟨source, -, written⟩ := List.mem_flatMap.mp member
    exact visible_writeChar source c written
  simp only [writeString, visible_cons, visible_append, chars, visible_nil, true_and, and_true]
  decide

theorem visible_intText (n : Int) : Visible (intText n).toList := by
  intro c member
  rcases intText_char member with rfl | digit
  · decide
  · rw [Char.isDigit_iff_toNat] at digit
    change 48 ≤ c.toNat ∧ c.toNat ≤ 57 at digit
    omega

theorem visible_newLine (depth : Nat) : Visible (newLine depth) := by
  simp only [newLine, visible_cons, true_or, true_and]
  intro c member
  rw [List.eq_of_mem_replicate member]
  decide

def VisibleAt (v : Json) : Prop := ∀ depth, Visible (writeAt .ascii depth v)

theorem visible_writeItems {vs : List Json} (items : ∀ v ∈ vs, VisibleAt v) (depth : Nat) :
    Visible (writeItems .ascii depth vs) := by
  induction vs with
  | nil => exact visible_nil
  | cons v vs ih =>
    obtain ⟨first, others⟩ := List.forall_mem_cons.mp items
    simp only [writeItems, visible_cons, visible_append, visible_newLine, first depth, ih others, and_true]
    decide

theorem visible_writeFields {fs : List (String × Json)} (values : ∀ f ∈ fs, VisibleAt f.2) (depth : Nat) :
    Visible (writeFields .ascii depth fs) := by
  induction fs with
  | nil => exact visible_nil
  | cons f fs ih =>
    obtain ⟨first, others⟩ := List.forall_mem_cons.mp values
    simp only [writeFields, visible_cons, visible_append, visible_newLine, visible_writeString, first depth,
      ih others, and_true, true_and]
    decide

theorem Plain.visibleAt {v : Json} (plain : v.Plain) : VisibleAt v := by
  intro depth
  induction plain generalizing depth with
  | null => exact visible_of_all rfl
  | bool b => cases b <;> exact visible_of_all rfl
  | int n => exact visible_intText n
  | str s => exact visible_writeString s
  | @arr vs items ih =>
    cases vs with
    | nil => exact visible_of_all rfl
    | cons v vs =>
      have later := visible_writeItems (fun w member => ih w (List.mem_cons_of_mem v member)) (depth + 1)
      simp only [writeAt, visible_cons, visible_append, visible_newLine, ih v List.mem_cons_self, later, visible_nil,
        and_true, true_and]
      decide
  | @obj fs distinct values ih =>
    cases fs with
    | nil => exact visible_of_all rfl
    | cons f fs =>
      have later := visible_writeFields (fun g member => ih g (List.mem_cons_of_mem f member)) (depth + 1)
      simp only [writeAt, visible_cons, visible_append, visible_newLine, visible_writeString,
        ih f List.mem_cons_self, later, visible_nil, and_true, true_and]
      decide

end Json

/-- What the fields of a diagnostic say: the code and the help are there exactly when they are set. -/
structure Diagnostic.Described (d : Diagnostic) (fields : List (String × Json)) : Prop where
  severity : fields.lookup "severity" = some (.str d.severity.text)
  message : fields.lookup "message" = some (.str d.message)
  location : fields.lookup "location" =
    some (.obj [("file", .str d.file), ("line", d.line.toJson), ("column", .int d.column)])
  code : fields.lookup "code" = d.code.map fun c => .str c.text
  help : fields.lookup "help" = d.help.map .str

theorem Diagnostic.toJson_described (d : Diagnostic) : ∃ fields, d.toJson = .obj fields ∧ d.Described fields := by
  obtain ⟨severity, message, file, line, column, code, help⟩ := d
  refine ⟨_, rfl, ?_⟩
  cases code <;> cases help <;> exact ⟨rfl, rfl, rfl, rfl, rfl⟩

theorem Diagnostic.toJson_short (d : Diagnostic)
    (numbers : PgJinja.isShort d.line.value = true ∧ PgJinja.isShort d.column = true) : d.toJson.isShort = true := by
  obtain ⟨severity, message, file, line, column, code, help⟩ := d
  have number : line.toJson.isShort = true := by
    cases line with
    | number n => exact numbers.1
    | truth b => rfl
  cases code <;> cases help <;> simp [toJson, location, Json.isShort, Json.shortFields, number, numbers.2]

namespace Report

structure Faithful (ds : List Diagnostic) (files : List String) (stats : List (String × Int))
    (fields : List (String × Json)) : Prop where
  files : fields.lookup "files" = some (.arr (files.map .str))
  errors : fields.lookup "errors" =
    some (.arr ((ds.filter fun d => d.severity = .error).map Diagnostic.toJson))
  warnings : fields.lookup "warnings" =
    some (.arr ((ds.filter fun d => d.severity = .warning).map Diagnostic.toJson))
  total : (ds.filter fun d => d.severity = .error).length +
    (ds.filter fun d => d.severity = .warning).length = ds.length
  valid : ∃ valid, fields.lookup "valid" = some (.bool valid) ∧
    (valid = true ↔ ∀ d ∈ ds, d.severity ≠ .error)
  described : ∀ d ∈ ds, ∃ fields, d.toJson = .obj fields ∧ d.Described fields
  stats : fields.lookup "stats" =
    if stats = [] then none else some (.obj (stats.map fun count => (count.1, .int count.2)))

theorem listOf_eq (severity : Severity) (ds : List Diagnostic) :
    listOf severity ds = (ds.filter fun d => d.severity = severity).map Diagnostic.toJson := by
  simp [listOf, beq_eq_decide]

theorem severities_total (ds : List Diagnostic) :
    (ds.filter fun d => d.severity = .error).length + (ds.filter fun d => d.severity = .warning).length =
      ds.length := by
  induction ds with
  | nil => rfl
  | cons d ds ih =>
    cases severity : d.severity with
    | error =>
      simp [severity]
      omega
    | warning =>
      simp [severity]
      omega

theorem document_faithful (ds : List Diagnostic) (files : List String) (stats : List (String × Int)) :
    ∃ fields, document ds files stats = .obj fields ∧ Faithful ds files stats fields := by
  refine ⟨_, rfl, rfl, ?_, ?_, ?_, ⟨_, rfl, ?_⟩, ?_, ?_⟩
  · rw [← listOf_eq]
    rfl
  · rw [← listOf_eq]
    rfl
  · exact severities_total ds
  · simp [listOf_eq]
  · intro d member
    exact d.toJson_described
  · cases stats with
    | nil => rfl
    | cons count rest => rfl

theorem document_short {ds : List Diagnostic} (files : List String) {stats : List (String × Int)}
    (numbers : ∀ d ∈ ds, isShort d.line.value = true ∧ isShort d.column = true)
    (counts : ∀ count ∈ stats, isShort count.2 = true) : (document ds files stats).isShort = true := by
  have listed (severity : Severity) : (Json.arr (listOf severity ds)).isShort = true := by
    rw [Json.isShort, Json.shortItems_iff]
    intro v member
    obtain ⟨d, kept, rfl⟩ := List.mem_map.mp member
    exact d.toJson_short (numbers d (List.mem_of_mem_filter kept))
  have names : (Json.arr (files.map Json.str)).isShort = true := by
    simp [Json.isShort, Json.shortItems_iff]
  have table : (Json.obj (stats.map fun s => (s.1, .int s.2))).isShort = true := by
    rw [Json.isShort, Json.shortFields_iff]
    intro f member
    obtain ⟨count, kept, rfl⟩ := List.mem_map.mp member
    exact counts count kept
  rw [document, Json.isShort, Json.shortFields_iff]
  refine List.forall_mem_append.mpr ⟨?_, ?_⟩
  · simp only [List.forall_mem_cons]
    exact ⟨rfl, names, rfl, listed .error, listed .warning, List.forall_mem_nil _⟩
  · split
    · exact List.forall_mem_nil _
    · exact List.forall_mem_singleton.mpr table

/-- A report whose integers are all short is written in visible ASCII, and a reader of JSON finds in it the files, the
diagnostics of each severity in their order, and the counts. A report with a longer integer is not written at all. -/
theorem json_faithful (ds : List Diagnostic) (files : List String) (stats : List (String × Int))
    (distinct : (stats.map (·.1)).Nodup) :
    ((∀ d ∈ ds, isShort d.line.value = true ∧ isShort d.column = true) → (∀ count ∈ stats, isShort count.2 = true) →
      ∃ text fields, json ds files stats = .ok text ∧
        (∀ c ∈ text.toList, c = '\n' ∨ (0x20 ≤ c.toNat ∧ c.toNat ≤ 0x7E)) ∧
        Json.read? text = some (.obj fields) ∧ Faithful ds files stats fields) ∧
    ((document ds files stats).isShort = false → json ds files stats = .error .digits) := by
  refine ⟨fun numbers counts => ?_, fun long => by simp [json, Json.write, long]⟩
  have plain := document_plain ds files stats distinct
  have short := document_short files numbers counts
  obtain ⟨fields, whole, faithful⟩ := document_faithful ds files stats
  refine ⟨(document ds files stats).layout .ascii, fields, by simp [json, Json.write, short], ?_, ?_, faithful⟩
  · rw [Json.layout, String.toList_ofList]
    exact plain.visibleAt 0
  · have read := Json.read?_layout plain .ascii "" (.inl rfl)
    rw [String.append_empty] at read
    rw [read, whole]

end Report

namespace Sample

def mixedReport : List Diagnostic :=
  [{ severity := .warning, message := "é𝄞\t", file := "\"ü\".sql", line := .truth true, help := some "" },
    { severity := .error, message := "\u0001\\", file := "😀.sql", line := .number 10, code := some .badSource }]

end Sample

theorem Report.json_faithful_mixed :
    let stats : List (String × Int) := [("failed", 1), ("𝄞", -3)]
    (stats.map (·.1)).Nodup ∧
      (∀ d ∈ Sample.mixedReport, isShort d.line.value = true ∧ isShort d.column = true) ∧
      (∀ count ∈ stats, isShort count.2 = true) ∧
      ∃ text fields, Report.json Sample.mixedReport ["😀.sql"] stats = .ok text ∧
        (∀ c ∈ text.toList, c = '\n' ∨ (0x20 ≤ c.toNat ∧ c.toNat ≤ 0x7E)) ∧
        Json.read? text = some (.obj fields) ∧ Report.Faithful Sample.mixedReport ["😀.sql"] stats fields := by
  intro stats
  have distinct : (stats.map (·.1)).Nodup := by decide
  have numbers : ∀ d ∈ Sample.mixedReport, isShort d.line.value = true ∧ isShort d.column = true := by
    simp only [Sample.mixedReport, List.forall_mem_cons, List.not_mem_nil, false_implies, implies_true, and_true]
    decide
  have counts : ∀ count ∈ stats, isShort count.2 = true := by
    simp only [stats, List.forall_mem_cons, List.not_mem_nil, false_implies, implies_true, and_true]
    decide
  exact ⟨distinct, numbers, counts, (Report.json_faithful Sample.mixedReport ["😀.sql"] _ distinct).1 numbers counts⟩

/-- A count that is too long keeps the whole report from being written. -/
theorem Report.json_long : Report.json [] [] [("n", firstLong)] = .error .digits := by
  simp [Report.json, Report.document, Report.listOf, Json.write, Json.isShort, Json.shortFields, Json.shortItems,
    firstLong_long]

end PgJinja
