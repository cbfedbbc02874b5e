import PgJinja.Proofs.Templates
import PgJinja.Raw.Procedure

/-! Statements that are read from a parser's tree are well formed: whatever the tree, a procedure that was
read can be compiled, as long as no limit is hit. -/
namespace PgJinja.Raw

theorem bind_eq_ok {α β : Type} {x : Reading α} {f : α → Reading β} {b : β} :
    x >>= f = .ok b ↔ ∃ a, x = .ok a ∧ f a = .ok b := by
  cases x with
  | error failure => simp [bind, Except.bind]
  | ok a => simp [bind, Except.bind]

theorem map_eq_ok {α β : Type} {x : Reading α} {f : α → β} {b : β} :
    f <$> x = .ok b ↔ ∃ a, x = .ok a ∧ f a = b := by
  cases x with
  | error failure => simp [Functor.map, Except.map]
  | ok a => simp [Functor.map, Except.map]

theorem pure_eq_ok {α : Type} {a b : α} : (pure a : Reading α) = .ok b ↔ a = b := by
  simp [pure, Except.pure]

structure SoundArms (arms : List Branch) : Prop where
  tested : arms.all (·.test.isSome) = true
  nested : Branch.listAll Statement.wellFormed arms = true

theorem SoundArms.cons {b : Branch} {rest : List Branch} (first : SoundArms [b])
    (others : SoundArms rest) : SoundArms (b :: rest) where
  tested := by simpa [others.tested] using first.tested
  nested := by
    cases b with
    | mk test body line => simpa [Branch.listAll, others.nested] using first.nested

structure Nested.Sound (nested : Nested) : Prop where
  body : ∀ field body, nested.body field = .ok body →
    Statement.listAll Statement.wellFormed body = true
  arms : ∀ form arms, nested.arms form = .ok arms → SoundArms arms

theorem Nested.none_sound : Nested.none.Sound where
  body field body read := by
    cases read
    rfl
  arms form arms read := by
    cases read
    exact ⟨rfl, rfl⟩

theorem ofKind_sound (file : Option String) (fields : Fields) {nested : Nested} (sound : nested.Sound)
    (kind : Kind) (s : Statement) (read : ofKind file fields nested kind = .ok s) :
    s.all Statement.wellFormed = true := by
  cases kind with
  | raise =>
    simp only [ofKind, bind_eq_ok, pure_eq_ok] at read
    obtain ⟨message, -, level, -, rfl⟩ := read
    rfl
  | forQuery =>
    simp only [ofKind, bind_eq_ok, pure_eq_ok] at read
    obtain ⟨query, -, body, inner, rfl⟩ := read
    simp [Statement.all, Statement.wellFormed, sound.body _ _ inner]
  | ret =>
    simp only [ofKind, bind_eq_ok, pure_eq_ok] at read
    obtain ⟨expr, -, rfl⟩ := read
    rfl
  | retNext =>
    cases read
    rfl
  | block =>
    simp only [ofKind, bind_eq_ok, pure_eq_ok] at read
    obtain ⟨body, inner, rfl⟩ := read
    simp [Statement.all, Statement.wellFormed, sound.body _ _ inner]
  | execute =>
    simp only [ofKind, bind_eq_ok] at read
    obtain ⟨query, -, read⟩ := read
    split at read
    · simp only [bind_eq_ok, map_eq_ok, pure_eq_ok] at read
      obtain ⟨into, ⟨names, -, rfl⟩, rfl⟩ := read
      simp [Statement.all, Statement.wellFormed, Target.isNamed]
    · cases read
      rfl
  | dynamic =>
    simp only [ofKind, bind_eq_ok, pure_eq_ok] at read
    obtain ⟨query, -, rfl⟩ := read
    rfl
  | assign =>
    simp only [ofKind, bind_eq_ok, pure_eq_ok] at read
    obtain ⟨expr, -, rfl⟩ := read
    rfl
  | choose =>
    simp only [ofKind, bind_eq_ok] at read
    obtain ⟨arms, inArms, test, -, body, inBody, read⟩ := read
    have soundArms := (sound.arms _ _ inArms).nested
    have soundBody := sound.body _ _ inBody
    split at read
    · cases read
      simp [Statement.all, Statement.wellFormed, Statement.optionAll, soundArms, soundBody]
    · simp only [bind_eq_ok, map_eq_ok, pure_eq_ok] at read
      obtain ⟨otherwise, ⟨inner, inElse, rfl⟩, rfl⟩ := read
      have soundElse := sound.body _ _ inElse
      simp [Statement.all, Statement.wellFormed, Statement.optionAll, soundArms, soundBody, soundElse]
  | select =>
    simp only [ofKind, bind_eq_ok, pure_eq_ok] at read
    obtain ⟨arms, inArms, subject, -, otherwise, inElse, rfl⟩ := read
    have soundArms := sound.arms _ _ inArms
    simp [Statement.all, Statement.wellFormed, soundArms.tested, soundArms.nested,
      sound.body _ _ inElse]

theorem ofFields_sound (file : Option String) (tag : String) (fields : Fields) {nested : Nested}
    (sound : nested.Sound) (s : Statement) (read : ofFields file tag fields nested = .ok s) :
    s.all Statement.wellFormed = true := by
  unfold ofFields at read
  split at read
  · exact ofKind_sound file fields sound _ s read
  · cases read
    rfl

mutual
/-- Whatever a node holds, the statement that is read from it is well formed in every part. -/
theorem statement_sound (file : Option String) (v : Json) (s : Statement)
    (read : statement file v = .ok s) : s.all Statement.wellFormed = true := by
  match v with
  | .obj ((tag, payload) :: _) =>
    rw [statement] at read
    exact payloadStatement_sound file tag payload s read
  -- Of these only a list has a kind, the place that it starts with, and no statement has such a kind.
  | .obj [] | .null | .bool _ | .int _ | .float _ | .str _ | .arr _ =>
    simp only [statement, bind_eq_ok, pure_eq_ok] at read
    obtain ⟨-, -, -, -, rfl⟩ := read
    rfl
theorem payloadStatement_sound (file : Option String) (tag : String) (v : Json) (s : Statement)
    (read : payloadStatement file tag v = .ok s) : s.all Statement.wellFormed = true := by
  match v with
  | .obj fields =>
    rw [payloadStatement] at read
    exact ofFields_sound file tag fields
      ⟨fun field body => bodyField_sound file field fields body,
        fun form arms => armsField_sound file form fields arms⟩ s read
  | .null | .bool _ | .int _ | .float _ | .str _ | .arr _ =>
    simp only [payloadStatement] at read
    split at read
    · cases read
    · exact ofFields_sound file tag [] Nested.none_sound s read
theorem bodyField_sound (file : Option String) (field : String) (fields : Fields) (body : List Statement)
    (read : bodyField file field fields = .ok body) :
    Statement.listAll Statement.wellFormed body = true := by
  match fields with
  | [] =>
    cases read
    rfl
  | (k, v) :: rest =>
    rw [bodyField] at read
    split at read
    · exact statements_sound file v body read
    · exact bodyField_sound file field rest body read
theorem statements_sound (file : Option String) (v : Json) (body : List Statement)
    (read : statements file v = .ok body) : Statement.listAll Statement.wellFormed body = true := by
  match v with
  | .arr vs =>
    rw [statements] at read
    exact statementList_sound file vs body read
  | .obj [] =>
    cases read
    rfl
  | .str s =>
    rw [statements] at read
    split at read
    · cases read
      rfl
    · cases read
  | .obj (_ :: _) | .null | .bool _ | .int _ | .float _ => cases read
theorem statementList_sound (file : Option String) (vs : List Json) (body : List Statement)
    (read : statementList file vs = .ok body) : Statement.listAll Statement.wellFormed body = true := by
  match vs with
  | [] =>
    cases read
    rfl
  | v :: vs =>
    simp only [statementList, bind_eq_ok, pure_eq_ok] at read
    obtain ⟨s, first, rest, others, rfl⟩ := read
    rw [Statement.listAll, statement_sound file v s first, statementList_sound file vs rest others]
    rfl
theorem armsField_sound (file : Option String) (form : ArmForm) (fields : Fields) (found : List Branch)
    (read : armsField file form fields = .ok found) : SoundArms found := by
  match fields with
  | [] =>
    cases read
    exact ⟨rfl, rfl⟩
  | (k, v) :: rest =>
    rw [armsField] at read
    split at read
    · exact arms_sound file form v found read
    · exact armsField_sound file form rest found read
theorem arms_sound (file : Option String) (form : ArmForm) (v : Json) (found : List Branch)
    (read : arms file form v = .ok found) : SoundArms found := by
  match v with
  | .arr vs =>
    rw [arms] at read
    exact armList_sound file form vs found read
  | .obj [] =>
    cases read
    exact ⟨rfl, rfl⟩
  | .str s =>
    rw [arms] at read
    split at read
    · cases read
      exact ⟨rfl, rfl⟩
    · cases read
  | .obj (_ :: _) | .null | .bool _ | .int _ | .float _ => cases read
theorem armList_sound (file : Option String) (form : ArmForm) (vs : List Json) (found : List Branch)
    (read : armList file form vs = .ok found) : SoundArms found := by
  match vs with
  | [] =>
    cases read
    exact ⟨rfl, rfl⟩
  | v :: vs =>
    simp only [armList, bind_eq_ok, pure_eq_ok] at read
    obtain ⟨b, first, rest, others, rfl⟩ := read
    exact (arm_sound file form v b first).cons (armList_sound file form vs rest others)
theorem arm_sound (file : Option String) (form : ArmForm) (v : Json) (b : Branch)
    (read : arm file form v = .ok b) : SoundArms [b] := by
  match v with
  | .obj fields =>
    rw [arm] at read
    exact wrappedArm_sound file form fields b read
  | .null | .bool _ | .int _ | .float _ | .str _ | .arr _ => cases read
theorem wrappedArm_sound (file : Option String) (form : ArmForm) (fields : Fields) (b : Branch)
    (read : wrappedArm file form fields = .ok b) : SoundArms [b] := by
  match fields with
  | [] => cases read
  | (k, v) :: rest =>
    rw [wrappedArm] at read
    split at read
    · exact payloadArm_sound file form v b read
    · exact wrappedArm_sound file form rest b read
theorem payloadArm_sound (file : Option String) (form : ArmForm) (v : Json) (b : Branch)
    (read : payloadArm file form v = .ok b) : SoundArms [b] := by
  match v with
  | .obj fields =>
    simp only [payloadArm, bind_eq_ok, pure_eq_ok] at read
    obtain ⟨test, -, body, inner, rfl⟩ := read
    exact ⟨rfl, by simp [Branch.listAll, bodyField_sound file "stmts" fields body inner]⟩
  | .null | .bool _ | .int _ | .float _ | .str _ | .arr _ => cases read
end

theorem procedure_sound {file : Option String} {name : String} {raw : Json} {p : Procedure}
    (read : procedure file name raw = .ok p) : Statement.listAll Statement.wellFormed p.body = true := by
  simp only [procedure, bind_eq_ok] at read
  obtain ⟨⟨kind, payload⟩, -, fields, -, read⟩ := read
  split at read
  · cases read
  · simp only [bind_eq_ok] at read
    obtain ⟨items, -, locals, -, action, -, ⟨inner, block⟩, -, read⟩ := read
    split at read
    · cases read
    · simp only [bind_eq_ok, pure_eq_ok] at read
      obtain ⟨fields, -, body, inBody, rfl⟩ := read
      exact bodyField_sound file "body" fields body inBody

/-- A procedure that was read from a tree has a template, wherever the numbers stand and whatever source is named,
unless the work on it goes beyond a limit. Nothing else can keep it from being compiled. -/
theorem procedure_template (file : Option String) (name : String) (raw : Json) (p : Procedure)
    (read : procedure file name raw = .ok p) (room : Nat) (ids : Jinja.Ids) (source : String) :
    (∃ out, Jinja.template room p.name p.locals p.body ids source =
      (out, .ok (Text.unlines (Jinja.header p.name :: (Jinja.variableLines p.locals ++
        "" :: (out.listing.lines ++ [Jinja.footer])))))) ∨
    ∃ limit, (Jinja.template room p.name p.locals p.body ids source).2 = .error (.exceeded limit) ∧
      limit.Hit room 2 ids.value (Jinja.declarations p.locals ++ Statement.listSteps 0 p.body) := by
  rcases Jinja.template_cases (procedure_sound read) with ⟨out, text, made⟩ | exceeded
  · obtain ⟨-, rfl⟩ := Jinja.template_ok made
    exact .inl ⟨out, made⟩
  · exact .inr exceeded

theorem procedure_template_conditional :
    let wrapped (query : String) : Json := .obj [(expressionKey, .obj [("query", .str query)])]
    let raw : Json := .obj [(functionKey, .obj [
      ("datums", .arr [.obj [(variableKey, .obj [("refname", .str "v")])]]),
      ("action", .obj [(Kind.block.tag, .obj [("lineno", .int 2), ("body", .arr [
        .obj [(Kind.choose.tag, .obj [("cond", wrapped "a"),
          ("then_body", .arr [.obj [("PLpgSQL_stmt_perform", .null)], .arr [.int 0]]),
          ("elsif_list", .arr [.obj [(elsifKey, .obj [("cond", wrapped "b"), ("stmts", .arr [])])]])])],
        .obj [(Kind.select.tag, .obj [("t_expr", wrapped " x "),
          ("case_when_list", .arr [.obj [(whenKey, .obj [("expr", wrapped "x IN (1)"),
            ("stmts", .arr [.obj [(Kind.execute.tag, .obj [("sqlstmt", wrapped "select 1")])]])])]])])]
        ])])])])]
    let p : Procedure := ⟨"m", [⟨"v", none⟩], [
      .choose (some "a") [.unknown (some "PLpgSQL_stmt_perform") none, .unknown (some (.place (.number 0))) none]
        [.mk (some "b") [] none] none none,
      .select (some "x") [.mk (some "x IN (1)") [.execute (some "select 1") none none] none] false [] none],
      some (.number 2)⟩
    procedure none "m" raw = .ok p ∧
      ∃ out, Jinja.template 80 p.name p.locals p.body ⟨-3⟩ "f.sql" =
        (out, .ok (Text.unlines (Jinja.header p.name :: (Jinja.variableLines p.locals ++
          "" :: (out.listing.lines ++ [Jinja.footer]))))) := by
  intro wrapped raw p
  have read : procedure none "m" raw = .ok p := by rfl
  refine ⟨read, ?_⟩
  rcases procedure_template none "m" raw p read 80 ⟨-3⟩ "f.sql" with made | ⟨limit, failed, -⟩
  · exact made
  · have made : (Jinja.template 80 p.name p.locals p.body ⟨-3⟩ "f.sql").2.toBool = true := by rfl
    rw [failed] at made
    cases made

/-- The number of the one execution would be too long. -/
theorem procedure_template_long :
    let wrapped : Json := .obj [(expressionKey, .obj [("query", .str "select 1")])]
    let raw : Json := .obj [(functionKey, .obj [("action", .obj [(Kind.block.tag, .obj [("body", .arr [
      .obj [(Kind.execute.tag, .obj [("sqlstmt", wrapped)])]])])])])]
    let p : Procedure := ⟨"m", [], [.execute (some "select 1") none none], none⟩
    procedure none "m" raw = .ok p ∧
      (Jinja.template 80 p.name p.locals p.body ⟨firstLong - 1⟩ "f.sql").2 = .error (.exceeded .digits) := by
  intro wrapped raw p
  exact ⟨by rfl, congrArg Prod.snd (Jinja.template_long 80 "m" "select 1" "f.sql")⟩

end PgJinja.Raw
