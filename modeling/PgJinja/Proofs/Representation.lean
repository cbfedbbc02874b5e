import Mathlib.Data.List.Forall2
import PgJinja.Proofs.Fields

/-! Raw trees that represent statements. A node has the tag of its statement as its first key and the parts of
the statement under the keys of its payload, among any others that are not read. Reading gives the statement
back: nothing is lost, added or reordered. -/
namespace PgJinja.Raw

def Located (fields : Fields) (line : Option Line) : Prop :=
  fields.lookup "lineno" = line.map Line.toJson

def Wrapped (fields : Fields) (field text : String) : Prop :=
  ∃ expr inner, fields.lookup field = some (.obj expr) ∧
    expr.lookup expressionKey = some (.obj inner) ∧ inner.lookup "query" = some (.str text)

/-- An expression that may be left out. One that is there is not blank. -/
inductive Optional (fields : Fields) (field : String) : Option String → Prop where
  | absent : fields.lookup field = none → Optional fields field none
  | present {text : String} : Wrapped fields field text → Text.strip text ≠ "" →
      Optional fields field (some (Text.strip text))

def Flagged (fields : Fields) (field : String) (flag : Bool) : Prop :=
  fields.lookup field = some (.bool flag) ∨ flag = false ∧ fields.lookup field = none

inductive Listed {α : Type} (Entries : List Json → List α → Prop) (fields : Fields) (field : String) :
    List α → Prop where
  | absent : fields.lookup field = none → Listed Entries fields field []
  | present {vs : List Json} {xs : List α} : fields.lookup field = some (.arr vs) → Entries vs xs →
      Listed Entries fields field xs

def Column (v : Json) (name : String) : Prop :=
  ∃ fields, v = .obj fields ∧ fields.lookup "name" = some (.str name)

inductive Into (fields : Fields) : Option (List Target) → Prop where
  | nothing : Flagged fields "into" false → Into fields none
  | row {row others : Fields} {names : List String} : Flagged fields "into" true →
      fields.lookup "target" = some (.obj ((rowKey, .obj row) :: others)) →
      Listed (List.Forall₂ Column) row "fields" names → Into fields (some (names.map .named))
  | single {key name : String} {record others : Fields} : Flagged fields "into" true →
      fields.lookup "target" = some (.obj ((key, .obj record) :: others)) →
      key = variableKey ∨ key = recordKey → record.lookup "refname" = some (.str name) →
      Into fields (some [.named (Text.strip name)])

mutual
inductive Represents : Json → Statement → Prop where
  | node {tag : String} {fields others : Fields} {s : Statement} : tag = s.tag → Holds fields s →
      Represents (.obj ((tag, .obj fields) :: others)) s
inductive Holds : Fields → Statement → Prop where
  | raise {fields : Fields} {message : String} {level : Int} {line : Option Line} :
      Located fields line → fields.lookup "message" = some (.str message) →
      fields.lookup "errlevel" = some (.int level) → Holds fields (.raise (some message) level line)
  | forQuery {fields : Fields} {query : String} {body : List Statement} {line : Option Line} :
      Located fields line → Wrapped fields "query" query → HoldsBody fields "body" body →
      Holds fields (.forQuery (some (Text.strip query)) body line)
  | ret {fields : Fields} {expr : Option String} {line : Option Line} :
      Located fields line → Optional fields "expr" expr → Holds fields (.ret expr line)
  | retNext {fields : Fields} {line : Option Line} : Located fields line → Holds fields (.retNext line)
  | block {fields : Fields} {body : List Statement} {line : Option Line} :
      Located fields line → HoldsBody fields "body" body → Holds fields (.block body line)
  | execute {fields : Fields} {query : String} {into : Option (List Target)} {line : Option Line} :
      Located fields line → Wrapped fields "sqlstmt" query → Into fields into →
      Holds fields (.execute (some (Text.strip query)) into line)
  | dynamic {fields : Fields} {query : String} {line : Option Line} :
      Located fields line → Wrapped fields "query" query →
      Holds fields (.dynamic (some (Text.strip query)) line)
  | assign {fields : Fields} {expr : String} {line : Option Line} :
      Located fields line → Wrapped fields "expr" expr →
      Holds fields (.assign (some (Text.strip expr)) line)
  | choose {fields : Fields} {test : String} {body : List Statement} {arms : List Branch}
      {otherwise : Option (List Statement)} {line : Option Line} :
      Located fields line → Wrapped fields "cond" test → HoldsBody fields "then_body" body →
      HoldsArms fields elsifForm arms → HoldsElse fields otherwise →
      Holds fields (.choose (some test) body arms otherwise line)
  | select {fields : Fields} {subject : String} {arms : List Branch} {hasElse : Bool}
      {otherwise : List Statement} {line : Option Line} :
      Located fields line → Wrapped fields "t_expr" subject → HoldsArms fields whenForm arms →
      Flagged fields "have_else" hasElse → HoldsBody fields "else_stmts" otherwise →
      Holds fields (.select (some (Text.strip subject)) arms hasElse otherwise line)
  | unknown {fields : Fields} {kind : String} {line : Option Line} :
      Kind.ofTag? kind = none → Located fields line → Holds fields (.unknown (some kind) line)
inductive HoldsBody : Fields → String → List Statement → Prop where
  | absent {fields : Fields} {field : String} : fields.lookup field = none → HoldsBody fields field []
  | present {fields : Fields} {field : String} {vs : List Json} {body : List Statement} :
      fields.lookup field = some (.arr vs) → RepresentsAll vs body → HoldsBody fields field body
/-- The alternative of a conditional; it is there exactly where its field is. -/
inductive HoldsElse : Fields → Option (List Statement) → Prop where
  | absent {fields : Fields} : fields.lookup "else_body" = none → HoldsElse fields none
  | present {fields : Fields} {vs : List Json} {body : List Statement} :
      fields.lookup "else_body" = some (.arr vs) → RepresentsAll vs body → HoldsElse fields (some body)
inductive RepresentsAll : List Json → List Statement → Prop where
  | nil : RepresentsAll [] []
  | cons {v : Json} {vs : List Json} {s : Statement} {rest : List Statement} :
      Represents v s → RepresentsAll vs rest → RepresentsAll (v :: vs) (s :: rest)
inductive HoldsArms : Fields → ArmForm → List Branch → Prop where
  | absent {fields : Fields} {form : ArmForm} :
      fields.lookup form.list = none → HoldsArms fields form []
  | present {fields : Fields} {form : ArmForm} {vs : List Json} {arms : List Branch} :
      fields.lookup form.list = some (.arr vs) → RepresentsArms form vs arms → HoldsArms fields form arms
inductive RepresentsArms : ArmForm → List Json → List Branch → Prop where
  | nil {form : ArmForm} : RepresentsArms form [] []
  | cons {form : ArmForm} {fields inner : Fields} {vs : List Json} {test : String} {body : List Statement}
      {line : Option Line} {rest : List Branch} :
      fields.lookup form.wrapper = some (.obj inner) → Located inner line → Wrapped inner form.test test →
      HoldsBody inner "stmts" body → RepresentsArms form vs rest →
      RepresentsArms form (.obj fields :: vs) (.mk (some test) body line :: rest)
end

inductive Declares : Json → Variable → Prop where
  | mk {fields : Fields} {name : String} {initial : Option String} :
      fields.lookup "refname" = some (.str name) → Optional fields "default_val" initial →
      Declares (.obj fields) ⟨Text.strip name, initial⟩

inductive Data : List Json → List Variable → Prop where
  | nil : Data [] []
  | other {fields : Fields} {vs : List Json} {locals : List Variable} :
      fields.lookup variableKey = none → Data vs locals → Data (.obj fields :: vs) locals
  | declared {fields : Fields} {v : Json} {vs : List Json} {x : Variable} {locals : List Variable} :
      fields.lookup variableKey = some v → Declares v x → Data vs locals →
      Data (.obj fields :: vs) (x :: locals)

inductive RepresentsProcedure : Json → Procedure → Prop where
  | mk {fields others block more : Fields} {name : String} {locals : List Variable}
      {body : List Statement} {line : Option Line} :
      Listed Data fields "datums" locals →
      fields.lookup "action" = some (.obj ((Kind.block.tag, .obj block) :: more)) →
      HoldsBody block "body" body → Located block line →
      RepresentsProcedure (.obj ((functionKey, .obj fields) :: others)) ⟨name, locals, body, line⟩

theorem Located.read {fields : Fields} {line : Option Line} (located : Located fields line) :
    Raw.line fields = line := by
  unfold Located at located
  cases line with
  | none =>
    rw [Raw.line, field_absent located]
    rfl
  | some l =>
    rw [Raw.line, field_of_lookup located]
    cases l <;> rfl

theorem Wrapped.read {fields : Fields} {field text : String} (wrapped : Wrapped fields field text)
    (file : Option String) (kind : String) : expression file fields field kind = .ok text := by
  obtain ⟨expr, inner, found, wrapper, query⟩ := wrapped
  have needs := needed_of_lookup found (by simp) file kind
  have unwraps : wrappedQuery expr = .ok (.str text) := by
    rw [wrappedQuery, wrapper]
    simp [objectFields, Except.map, field_of_lookup query]
  simp only [expression, needs, unwraps, ok_bind]
  rfl

theorem Optional.read {fields : Fields} {field : String} {text : Option String}
    (optional : Optional fields field text) :
    ∃ found, expression? fields field = .ok found ∧ found.map Text.strip = text := by
  cases optional with
  | absent absent =>
    refine ⟨none, ?_, rfl⟩
    rw [expression?, field_absent absent]
    rfl
  | @present text wrapped visible =>
    obtain ⟨expr, inner, found, wrapper, query⟩ := wrapped
    have given : (Json.str text).given = true := by
      have occupied : text ≠ "" := by
        rintro rfl
        exact visible rfl
      simpa [Json.given] using occupied
    refine ⟨some text, ?_, rfl⟩
    rw [expression?, field_of_lookup found]
    simp only [wrappedQuery, wrapper, objectFields, Except.map, field_of_lookup query, ok_bind, given, if_true]
    rfl

theorem textOrEmpty_str (text : String) : textOrEmpty (.str text) = .ok text := by
  by_cases empty : text = ""
  · rw [empty]
    rfl
  · simp [textOrEmpty, textOf, Json.given, Json.isShort, Json.display, empty]

theorem Flagged.read {fields : Fields} {field : String} {flag : Bool} (flagged : Flagged fields field flag) :
    (Json.field fields field).given = flag := by
  rcases flagged with found | ⟨rfl, absent⟩
  · rw [field_of_lookup found, Json.given]
  · rw [field_absent absent, Json.given]

theorem rowNames_of_columns {vs : List Json} {names : List String} (columns : List.Forall₂ Column vs names)
    (file : Option String) : rowNames file vs = .ok names := by
  induction columns with
  | nil => rfl
  | cons column rest ih =>
    obtain ⟨fields, rfl, found⟩ := column
    have needs := needed_of_lookup found (by simp) file rowKey
    simp only [rowNames, objectFields, needs, ih, ok_bind]
    rfl

theorem Listed.read {α : Type} {Entries : List Json → List α → Prop} {fields : Fields} {field : String}
    {xs : List α} (listed : Listed Entries fields field xs) (empty : Entries [] []) :
    ∃ vs, fieldItems fields field = .ok vs ∧ Entries vs xs := by
  cases listed with
  | absent absent => exact ⟨[], fieldItems_absent absent, empty⟩
  | present found entries => exact ⟨_, fieldItems_of_lookup found, entries⟩

theorem Into.read {fields : Fields} {into : Option (List Target)} (represents : Into fields into)
    (file : Option String) :
    (Json.field fields "into").given = false ∧ into = none ∨
      (Json.field fields "into").given = true ∧
        ∃ names, intoNames file fields = .ok names ∧ into = some (names.map .named) := by
  cases represents with
  | nothing flagged => exact .inl ⟨flagged.read, rfl⟩
  | @row row others names flagged target columns =>
    have needs := needed_of_lookup target (by simp) file Kind.execute.tag
    obtain ⟨vs, items, entries⟩ := columns.read .nil
    refine .inr ⟨flagged.read, names, ?_, rfl⟩
    simp only [intoNames, needs, node, ok_bind, payloadFields, if_true, items]
    exact rowNames_of_columns entries file
  | @single key name record others flagged target known refname =>
    have needs := needed_of_lookup target (by simp) file Kind.execute.tag
    have needsName := needed_of_lookup refname (by simp) file key
    -- The row is asked for first, so the other kinds of targets must not be taken for one.
    have other : key ≠ rowKey := by
      rcases known with rfl | rfl <;> decide
    have single : (key = variableKey || key = recordKey) = true := by simpa using known
    refine .inr ⟨flagged.read, [Text.strip name], ?_, rfl⟩
    simp only [intoNames, needs, node, ok_bind, payloadFields, Key.name.injEq, if_neg other, single, if_true, needsName]
    rfl

theorem ofTag?_tag (kind : Kind) : Kind.ofTag? kind.tag = some kind := by
  cases kind <;> decide

theorem payloadStatement_tag (file : Option String) (kind : Kind) (fields : Fields) :
    payloadStatement file kind.tag (.obj fields) =
      ofKind file fields
        ⟨fun field => bodyField file field fields, fun form => armsField file form fields⟩ kind := by
  rw [payloadStatement, ofFields, ofTag?_tag]

mutual
/-- A node gives back the statement that it represents. -/
theorem Represents.read (file : Option String) {v : Json} {s : Statement} :
    Represents v s → statement file v = .ok s
  | .node tag holds => by
    rw [statement, tag]
    exact holds.read file
theorem Holds.read (file : Option String) {fields : Fields} {s : Statement} :
    Holds fields s → payloadStatement file s.tag (.obj fields) = .ok s
  | .raise located message level => by
    rw [Statement.tag, payloadStatement_tag]
    simp only [ofKind, levelOf, field_of_lookup level, field_of_lookup message, integer, ok_bind,
      located.read, textOrEmpty_str]
    rfl
  | .forQuery located query body => by
    rw [Statement.tag, payloadStatement_tag]
    simp only [ofKind, query.read, body.read file, ok_bind, located.read]
    rfl
  | .ret located expr => by
    rw [Statement.tag, payloadStatement_tag]
    obtain ⟨found, read, rfl⟩ := expr.read
    simp only [ofKind, read, ok_bind, located.read]
    rfl
  | .retNext located => by
    rw [Statement.tag, payloadStatement_tag, ofKind, located.read]
  | .block located body => by
    rw [Statement.tag, payloadStatement_tag]
    simp only [ofKind, body.read file, ok_bind, located.read]
    rfl
  | .execute located query into => by
    rw [Statement.tag, payloadStatement_tag]
    rcases into.read file with ⟨unset, rfl⟩ | ⟨set, names, read, rfl⟩
    · simp only [ofKind, query.read, unset, ok_bind, located.read]
      rfl
    · simp only [ofKind, query.read, set, read, ok_bind, located.read]
      rfl
  | .dynamic located query => by
    rw [Statement.tag, payloadStatement_tag]
    simp only [ofKind, query.read, ok_bind, located.read]
    rfl
  | .assign located expr => by
    rw [Statement.tag, payloadStatement_tag]
    simp only [ofKind, expr.read, ok_bind, located.read]
    rfl
  | .choose located test body arms otherwise => by
    rw [Statement.tag, payloadStatement_tag]
    rcases otherwise.read file with ⟨absent, rfl⟩ | ⟨vs, inner, present, read, rfl⟩
    · simp only [ofKind, test.read, body.read file, arms.read file, absent, ok_bind, located.read]
      rfl
    · simp only [ofKind, test.read, body.read file, arms.read file, present, read, ok_bind, located.read]
      rfl
  | .select located subject arms flag otherwise => by
    rw [Statement.tag, payloadStatement_tag]
    simp only [ofKind, subject.read, arms.read file, otherwise.read file, flag.read, ok_bind, located.read]
    rfl
  | @Holds.unknown _ kind _ other located => by
    have named : Statement.kindText (some (.name kind)) = kind := rfl
    rw [Statement.tag, named, payloadStatement, ofFields, other, located.read]
theorem HoldsBody.read (file : Option String) {fields : Fields} {field : String} {body : List Statement} :
    HoldsBody fields field body → bodyField file field fields = .ok body
  | .absent absent => by
    rw [bodyField_eq, absent]
    rfl
  | .present found represents => by
    rw [bodyField_eq, found]
    exact represents.read file
theorem HoldsElse.read (file : Option String) {fields : Fields} {otherwise : Option (List Statement)} :
    HoldsElse fields otherwise →
      Json.field fields "else_body" = .null ∧ otherwise = none ∨
      ∃ vs body, Json.field fields "else_body" = .arr vs ∧ bodyField file "else_body" fields = .ok body ∧
        otherwise = some body
  | .absent absent => .inl ⟨field_absent absent, rfl⟩
  | .present found represents => by
    refine .inr ⟨_, _, field_of_lookup found, ?_, rfl⟩
    rw [bodyField_eq, found]
    exact represents.read file
theorem RepresentsAll.read (file : Option String) {vs : List Json} {body : List Statement} :
    RepresentsAll vs body → statements file (.arr vs) = .ok body
  | .nil => rfl
  | .cons represents rest => by
    have first := represents.read file
    have others := rest.read file
    rw [statements] at others ⊢
    simp only [statementList, first, others, ok_bind]
    rfl
theorem HoldsArms.read (file : Option String) {fields : Fields} {form : ArmForm} {arms : List Branch} :
    HoldsArms fields form arms → armsField file form fields = .ok arms
  | .absent absent => by
    rw [armsField_eq, absent]
    rfl
  | .present found represents => by
    rw [armsField_eq, found]
    exact represents.read file
theorem RepresentsArms.read (file : Option String) {form : ArmForm} {vs : List Json}
    {found : List Branch} : RepresentsArms form vs found → arms file form (.arr vs) = .ok found
  | .nil => rfl
  | .cons wrapped located test body rest => by
    have others := rest.read file
    rw [arms] at others ⊢
    simp only [armList, arm, wrappedArm_eq, wrapped, Option.map_some, Option.getD_some, payloadArm,
      test.read, body.read file, located.read, others, ok_bind]
    rfl
end

theorem Declares.read {v : Json} {x : Variable} (declares : Declares v x) (file : Option String) :
    declared file v = .ok x := by
  cases declares with
  | mk refname initial =>
    have needs := needed_of_lookup refname (by simp) file variableKey
    obtain ⟨found, read, rfl⟩ := initial.read
    simp only [declared, objectFields, needs, read, ok_bind]
    rfl

theorem Data.read {vs : List Json} {locals : List Variable} (represents : Data vs locals)
    (file : Option String) : data file vs = .ok locals := by
  induction represents with
  | nil => rfl
  | other absent _ ih =>
    simp only [data, datum, absent, ih, ok_bind]
    rfl
  | declared found declares _ ih =>
    simp only [data, datum, found, declares.read file, ih, ok_bind]
    rfl

theorem RepresentsProcedure.read {raw : Json} {p : Procedure} (represents : RepresentsProcedure raw p)
    (file : Option String) : procedure file p.name raw = .ok p := by
  cases represents with
  | mk listed action body located =>
    have needs := needed_of_lookup action (by simp) file functionKey
    obtain ⟨vs, items, data⟩ := listed.read .nil
    simp only [procedure, node, payloadFields, ok_bind, needs, items, data.read file, body.read file,
      located.read, ne_eq, not_true_eq_false, if_false]
    rfl

/-- Lists of nodes and whole functions are read as the statements and the procedure that they represent,
whatever other keys stand between those that are read. -/
theorem represented_read (file : Option String) :
    (∀ (vs : List Json) (body : List Statement), RepresentsAll vs body →
      statements file (.arr vs) = .ok body) ∧
    ∀ (raw : Json) (p : Procedure), RepresentsProcedure raw p → procedure file p.name raw = .ok p :=
  ⟨fun _ _ represents => represents.read file, fun _ _ represents => represents.read file⟩

theorem represented_read_row :
    let wrapped (query : String) : Json :=
      .obj [(expressionKey, .obj [("query", .str query), ("parseMode", .int 0)])]
    let nodes : List Json := [
      .obj [(Kind.choose.tag, .obj [("lineno", .int 4), ("cond", wrapped "n > 0 "),
        ("elsif_list", .arr [.obj [(elsifKey, .obj [("cond", wrapped "n < 0"), ("lineno", .int 6),
          ("stmts", .arr [.obj [(Kind.ret.tag, .obj [("expr", wrapped " -n ")])]])])]]),
        ("then_body", .arr [.obj [("PLpgSQL_stmt_perform", .obj [("expr", wrapped "f()")])]]),
        ("else_body", .arr [])])],
      .obj [(Kind.execute.tag, .obj [("sqlstmt", wrapped " select a, b "), ("into", .bool true),
        ("target", .obj [(rowKey, .obj [("fields", .arr [.obj [("name", .str "a")],
          .obj [("name", .str "b"), ("varno", .int 3)]])])])])]]
    let raw : Json := .obj [(functionKey, .obj [
      ("datums", .arr [.obj [(variableKey, .obj [("refname", .str "found")])], .obj [(recordKey, .obj [])],
        .obj [(variableKey, .obj [("refname", .str " n "), ("default_val", wrapped " 0 ")])]]),
      ("action", .obj [(Kind.block.tag, .obj [("body", .arr nodes), ("lineno", .int 2)])])])]
    let body : List Statement := [
      .choose (some "n > 0 ") [.unknown (some "PLpgSQL_stmt_perform") none]
        [.mk (some "n < 0") [.ret (some "-n") none] (some (.number 6))] (some []) (some (.number 4)),
      .execute (some "select a, b") (some [.named "a", .named "b"]) none]
    let p : Procedure := ⟨"m", [⟨"found", none⟩, ⟨"n", some "0"⟩], body, some (.number 2)⟩
    RepresentsAll nodes body ∧ RepresentsProcedure raw p ∧
      statements (some "f.sql") (.arr nodes) = .ok body ∧ procedure (some "f.sql") "m" raw = .ok p := by
  intro wrapped nodes raw body p
  have returned : Represents (.obj [(Kind.ret.tag, .obj [("expr", wrapped " -n ")])])
      (.ret (some (Text.strip " -n ")) none) :=
    .node rfl (.ret rfl (.present ⟨_, _, rfl, rfl, rfl⟩ (by decide)))
  have performed : Represents (.obj [("PLpgSQL_stmt_perform", .obj [("expr", wrapped "f()")])])
      (.unknown (some "PLpgSQL_stmt_perform") none) :=
    .node rfl (.unknown (by decide) rfl)
  have represents : RepresentsAll nodes body := by
    refine .cons (.node rfl ?_) (.cons (.node rfl ?_) .nil)
    · refine .choose rfl ⟨_, _, rfl, rfl, rfl⟩ (.present rfl (.cons performed .nil)) (.present rfl ?_)
        (.present rfl .nil)
      exact .cons rfl rfl ⟨_, _, rfl, rfl, rfl⟩ (.present rfl (.cons returned .nil)) .nil
    · change Holds _ (.execute (some (Text.strip " select a, b ")) (some (["a", "b"].map .named)) none)
      refine .execute rfl ⟨_, _, rfl, rfl, rfl⟩ (.row (.inl rfl) rfl (.present rfl ?_))
      exact .cons ⟨_, rfl, rfl⟩ (.cons ⟨_, rfl, rfl⟩ .nil)
  have whole : RepresentsProcedure raw p := by
    change RepresentsProcedure raw
      ⟨"m", [⟨Text.strip "found", none⟩, ⟨Text.strip " n ", some (Text.strip " 0 ")⟩], body, some (.number 2)⟩
    refine .mk (.present rfl ?_) rfl (.present rfl represents) rfl
    refine .declared rfl (.mk rfl (.absent rfl)) (.other rfl (.declared rfl (.mk rfl ?_) .nil))
    exact .present ⟨_, _, rfl, rfl, rfl⟩ (by decide)
  obtain ⟨lists, functions⟩ := represented_read (some "f.sql")
  exact ⟨represents, whole, lists nodes body represents, functions raw p whole⟩

end PgJinja.Raw
