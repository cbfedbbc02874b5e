import PgJinja.Proofs.Fields
import PgJinja.Proofs.Numbers

/-! Which trees are refused. In a tree whose parts have the right shapes, required fields may still be missing;
reading then either gives a procedure or names a missing field, and it does the latter exactly where
something is lacking. An integer may stand in the place of a text; only one that is too long to be written ends the
reading in another way. -/
namespace PgJinja

namespace Kind

@[simp] def texts : Kind → List String
  | forQuery => ["query"]
  | execute => ["sqlstmt"]
  | dynamic => ["query"]
  | assign => ["expr"]
  | choose => ["cond"]
  | select => ["t_expr"]
  | _ => []

@[simp] def bodies : Kind → List String
  | forQuery => ["body"]
  | block => ["body"]
  | choose => ["then_body", "else_body"]
  | select => ["else_stmts"]
  | _ => []

@[simp] def arms : Kind → List Raw.ArmForm
  | choose => [Raw.elsifForm]
  | select => [Raw.whenForm]
  | _ => []

end Kind

namespace Raw

def IsPayload (v : Json) : Prop := v.shape = .object ∨ v.given = false

def ListField (fields : Fields) (field : String) : Prop :=
  ∀ v, fields.lookup field = some v → v.shape = .list

def TextField (fields : Fields) (field : String) : Prop :=
  ∀ v, (Json.field fields field).members.lookup expressionKey = some v → v.shape = .object

def NumberField (fields : Fields) (field : String) : Prop :=
  Json.field fields field = .null ∨ ∃ n, Json.field fields field = .int n

def ArmForm.payload (form : ArmForm) (v : Json) : Json := v.get form.wrapper

structure ArmFits (form : ArmForm) (v : Json) : Prop where
  wrapped : (form.payload v).shape = .object
  test : TextField (form.payload v).members form.test
  body : ListField (form.payload v).members "stmts"

structure TargetFits (key : String) (inner : Json) : Prop where
  payload : IsPayload inner
  list : key = rowKey → ListField inner.members "fields"
  columns : key = rowKey → ∀ v ∈ (inner.get "fields").elements, v.shape = .object

/-- The shapes that a kind needs of the fields of its payload. -/
structure Fits (kind : Kind) (fields : Fields) : Prop where
  texts : ∀ field ∈ kind.texts, TextField fields field
  bodies : ∀ field ∈ kind.bodies, ListField fields field
  arms : ∀ form ∈ kind.arms, ListField fields form.list
  eachArm : ∀ form ∈ kind.arms, ∀ v ∈ (Json.field fields form.list).elements, ArmFits form v
  result : kind = .ret → TextField fields "expr"
  level : kind = .raise → NumberField fields "errlevel" ∧ NumberField fields "elog_level"
  target : kind = .execute → (Json.field fields "into").given = true →
    Json.field fields "target" = .null ∨
      ∃ key inner others, Json.field fields "target" = .obj ((key, inner) :: others) ∧ TargetFits key inner

/-- A node of the right shape, with everything that is read of it. -/
inductive Shaped : Json → Prop where
  | unknown {tag : String} {payload : Json} {others : Fields} :
      Kind.ofTag? tag = none → IsPayload payload → Shaped (.obj ((tag, payload) :: others))
  | known {tag : String} {kind : Kind} {payload : Json} {others : Fields} :
      Kind.ofTag? tag = some kind → IsPayload payload → Fits kind payload.members →
      (∀ field ∈ kind.bodies, ∀ v ∈ (payload.get field).elements, Shaped v) →
      (∀ form ∈ kind.arms, ∀ a ∈ (payload.get form.list).elements,
        ∀ v ∈ ((form.payload a).get "stmts").elements, Shaped v) →
      Shaped (.obj ((tag, payload) :: others))

structure DatumFits (d : Json) : Prop where
  object : d.shape = .object
  inner : ∀ v, d.members.lookup variableKey = some v → v.shape = .object
  initial : ∀ v, d.members.lookup variableKey = some v → TextField v.members "default_val"

inductive ShapedFunction : Json → Prop where
  | mk {payload : Json} {others : Fields} : IsPayload payload → ListField payload.members "datums" →
      (∀ d ∈ (payload.get "datums").elements, DatumFits d) →
      (payload.get "action" = .null ∨
        ∃ key block more, payload.get "action" = .obj ((key, block) :: more) ∧
          (key = Kind.block.tag → IsPayload block ∧ ListField block.members "body" ∧
            ∀ v ∈ (block.get "body").elements, Shaped v)) →
      ShapedFunction (.obj ((functionKey, payload) :: others))

def LacksText (fields : Fields) (field : String) : Prop :=
  ((Json.field fields field).get expressionKey).get "query" = .null

inductive LacksTarget (fields : Fields) : Prop where
  | target : Json.field fields "target" = .null → LacksTarget fields
  | column {row v : Json} {others : Fields} :
      Json.field fields "target" = .obj ((rowKey, row) :: others) → v ∈ (row.get "fields").elements →
      v.get "name" = .null → LacksTarget fields
  | name {key : String} {record : Json} {others : Fields} :
      Json.field fields "target" = .obj ((key, record) :: others) → key ∈ [variableKey, recordKey] →
      record.get "refname" = .null → LacksTarget fields
  | kind {key : String} {inner : Json} {others : Fields} :
      Json.field fields "target" = .obj ((key, inner) :: others) →
      key ∉ [rowKey, variableKey, recordKey] → LacksTarget fields

/-- A statement that lacks something, by itself or somewhere in it. -/
inductive Lacks : Json → Prop where
  | text {tag : String} {kind : Kind} {payload : Json} {others : Fields} {field : String} :
      Kind.ofTag? tag = some kind → field ∈ kind.texts → LacksText payload.members field →
      Lacks (.obj ((tag, payload) :: others))
  | target {tag : String} {payload : Json} {others : Fields} :
      Kind.ofTag? tag = some .execute → (payload.get "into").given = true → LacksTarget payload.members →
      Lacks (.obj ((tag, payload) :: others))
  | body {tag : String} {kind : Kind} {payload v : Json} {others : Fields} {field : String} :
      Kind.ofTag? tag = some kind → field ∈ kind.bodies → v ∈ (payload.get field).elements → Lacks v →
      Lacks (.obj ((tag, payload) :: others))
  | test {tag : String} {kind : Kind} {payload a : Json} {others : Fields} {form : ArmForm} :
      Kind.ofTag? tag = some kind → form ∈ kind.arms → a ∈ (payload.get form.list).elements →
      LacksText (form.payload a).members form.test → Lacks (.obj ((tag, payload) :: others))
  | arm {tag : String} {kind : Kind} {payload a v : Json} {others : Fields} {form : ArmForm} :
      Kind.ofTag? tag = some kind → form ∈ kind.arms → a ∈ (payload.get form.list).elements →
      v ∈ ((form.payload a).get "stmts").elements → Lacks v → Lacks (.obj ((tag, payload) :: others))

def BodyLacks (fields : Fields) (field : String) : Prop := ∃ v ∈ (Json.field fields field).elements, Lacks v

def ArmLacks (form : ArmForm) (v : Json) : Prop :=
  LacksText (form.payload v).members form.test ∨ BodyLacks (form.payload v).members "stmts"

def ArmsLack (fields : Fields) (form : ArmForm) : Prop :=
  ∃ a ∈ (Json.field fields form.list).elements, ArmLacks form a

inductive FunctionLacks : Json → Prop where
  | name {payload d v : Json} {others : Fields} : d ∈ (payload.get "datums").elements →
      d.members.lookup variableKey = some v → v.get "refname" = .null →
      FunctionLacks (.obj ((functionKey, payload) :: others))
  | action {payload : Json} {others : Fields} : payload.get "action" = .null →
      FunctionLacks (.obj ((functionKey, payload) :: others))
  | block {payload block : Json} {others more : Fields} {key : String} :
      payload.get "action" = .obj ((key, block) :: more) → key ≠ Kind.block.tag →
      FunctionLacks (.obj ((functionKey, payload) :: others))
  | statement {payload block v : Json} {others more : Fields} :
      payload.get "action" = .obj ((Kind.block.tag, block) :: more) → v ∈ (block.get "body").elements →
      Lacks v → FunctionLacks (.obj ((functionKey, payload) :: others))

/-- A reading that is refused where something is lacking, and gives a value otherwise, unless an integer is too long. -/
inductive Decides {α : Type} (file : Option String) (long : Prop) (reading : Reading α) (lacking : Prop) : Prop where
  | read (a : α) : reading = .ok a → ¬ lacking → Decides file long reading lacking
  | refused (kind field : String) (line : Option Line) :
      reading = missing file kind field line → lacking → Decides file long reading lacking
  | exceeded : reading = .error (.exceeded .digits) → long → Decides file long reading lacking

namespace Decides

variable {α β : Type} {file : Option String} {long : Prop} {x : Reading α} {lacking more : Prop}

theorem congr (decides : Decides file long x lacking) (same : lacking ↔ more) : Decides file long x more := by
  cases decides with
  | read a ok complete => exact .read a ok (fun lacks => complete (same.mpr lacks))
  | refused kind field line error lacks => exact .refused kind field line error (same.mp lacks)
  | exceeded error tooLong => exact .exceeded error tooLong

theorem ok (a : α) (complete : ¬ lacking) : Decides file long (.ok a) lacking := .read a rfl complete

theorem missing (kind field : String) (line : Option Line) (lacks : lacking) :
    Decides (α := α) file long (Raw.missing file kind field line) lacking := .refused kind field line rfl lacks

theorem bind {f : α → Reading β} (first : Decides file long x lacking)
    (next : ∀ a, x = .ok a → Decides file long (f a) more) : Decides file long (x >>= f) (lacking ∨ more) := by
  cases first with
  | read a ok complete =>
    have rest := (next a ok).congr (show more ↔ lacking ∨ more from ⟨.inr, fun h => h.resolve_left complete⟩)
    rw [ok]
    exact rest
  | refused kind field line error lacks =>
    rw [error]
    exact .missing kind field line (.inl lacks)
  | exceeded error tooLong =>
    rw [error]
    exact .exceeded rfl tooLong

theorem map (decides : Decides file long x lacking) (f : α → β) :
    Decides file long (x >>= fun a => .ok (f a)) lacking :=
  (decides.bind fun a _ => .ok (f a) not_false).congr (iff_of_eq (or_false _))

theorem fmap (decides : Decides file long x lacking) (f : α → β) : Decides file long (f <$> x) lacking := by
  cases decides with
  | read a ok complete => exact .read (f a) (by rw [ok]; rfl) complete
  | refused kind field line error lacks => exact .refused kind field line (by rw [error]; rfl) lacks
  | exceeded error tooLong => exact .exceeded (by rw [error]; rfl) tooLong

theorem andThen {f : α → Reading β} (first : Decides file long x False) (next : ∀ a, Decides file long (f a) lacking) :
    Decides file long (x >>= f) lacking :=
  (first.bind fun a _ => next a).congr (iff_of_eq (false_or _))

end Decides

theorem get_eq (v : Json) (key : String) : v.get key = Json.field v.members key := by
  cases v with
  | obj fields => rfl
  | _ => rfl

def Within (long : Prop) (v : Json) : Prop := v.isShort = false → long

namespace Within

variable {long : Prop} {v w : Json}

theorem element (within : Within long v) (member : w ∈ v.elements) : Within long w := by
  intro tooLong
  apply within
  cases v with
  | arr items =>
    rw [Json.isShort, Bool.eq_false_iff, Ne, Json.shortItems_iff]
    intro all
    rw [all w member] at tooLong
    cases tooLong
  | _ => cases member

theorem found (within : Within long v) {key : String} (found : v.members.lookup key = some w) : Within long w := by
  intro tooLong
  apply within
  cases v with
  | obj fields =>
    rw [Json.isShort, Bool.eq_false_iff, Ne, Json.shortFields_iff]
    intro all
    obtain ⟨before, after, split, -⟩ := List.lookup_eq_some_iff.mp found
    have member : (key, w) ∈ (Json.obj fields).members := by
      rw [split]
      simp
    rw [all _ member] at tooLong
    cases tooLong
  | _ => cases found

theorem get (within : Within long v) (key : String) : Within long (v.get key) := by
  rw [get_eq]
  cases present : v.members.lookup key with
  | none =>
    rw [field_absent present]
    nofun
  | some w =>
    rw [field_of_lookup present]
    exact within.found present

theorem members (within : Within long v) : Within long (.obj v.members) := by
  cases v with
  | obj fields => exact within
  | _ => nofun

theorem field {fields : Fields} (within : Within long (.obj fields)) (key : String) :
    Within long (Json.field fields key) :=
  within.get key

end Within

theorem eq_obj_of_shape {v : Json} (object : v.shape = .object) : v = .obj v.members := by
  cases v with
  | obj fields => rfl
  | _ => cases object

theorem eq_arr_of_shape {v : Json} (list : v.shape = .list) : v = .arr v.elements := by
  cases v with
  | arr vs => rfl
  | _ => cases list

theorem IsPayload.fields {v : Json} (payload : IsPayload v) : payloadFields v = .ok v.members := by
  rcases payload with object | absent
  · rw [eq_obj_of_shape object]
    rfl
  · cases v with
    | obj fields => rfl
    | _ => simp [payloadFields, absent, Json.members]

theorem IsPayload.statement {v : Json} (payload : IsPayload v) (file : Option String) (tag : String) :
    payloadStatement file tag v = ofFields file tag v.members
      ⟨fun field => bodyField file field v.members, fun form => armsField file form v.members⟩ := by
  rcases payload with object | absent
  · rw [eq_obj_of_shape object, payloadStatement]
    rfl
  · cases v with
    | obj fields => rw [payloadStatement, Json.members]
    | _ =>
      simp only [payloadStatement, absent, Json.members]
      rfl

section Fields

variable (file : Option String) {long : Prop} {fields : Fields} {field : String}

theorem textOf_decides {v : Json} (within : Within long v) : Decides file long (textOf v) False := by
  unfold textOf
  cases short : v.isShort with
  | true => exact .ok _ not_false
  | false => exact .exceeded rfl (within short)

theorem textOrEmpty_decides {v : Json} (within : Within long v) : Decides file long (textOrEmpty v) False := by
  unfold textOrEmpty
  split
  · exact textOf_decides file within
  · exact .ok _ not_false

theorem needed_decides (fields : Fields) (field kind : String) :
    Decides file long (needed file fields field kind) (Json.field fields field = .null) := by
  unfold needed
  split
  · rename_i null
    exact .missing kind field _ null
  · rename_i given
    exact .ok _ given

theorem neededText_decides (within : Within long (.obj fields)) (field kind : String) :
    Decides file long (needed file fields field kind >>= textOf) (Json.field fields field = .null) := by
  refine ((needed_decides file fields field kind).bind fun v read => ?_).congr (iff_of_eq (or_false _))
  have same : v = Json.field fields field := by
    unfold needed at read
    split at read
    · cases read
    · exact (Except.ok.inj read).symm
  rw [same]
  exact textOf_decides file (within.field field)

theorem wrappedQuery_eq {expr : Fields} (fits : TextField fields field)
    (found : Json.field fields field = .obj expr) :
    wrappedQuery expr = .ok ((Json.field expr expressionKey).get "query") := by
  rw [TextField, found, Json.members] at fits
  rw [wrappedQuery]
  cases inner : expr.lookup expressionKey with
  | none =>
    rw [field_absent inner]
    rfl
  | some v =>
    rw [field_of_lookup inner, get_eq, eq_obj_of_shape (fits v inner)]
    rfl

theorem expression_decides (within : Within long (.obj fields)) (fits : TextField fields field) (kind : String) :
    Decides file long (expression file fields field kind) (LacksText fields field) := by
  unfold expression needed LacksText
  cases found : Json.field fields field with
  | obj expr =>
    have inner := found ▸ within.field field
    have query := (inner.field expressionKey).get "query"
    simp only [ok_bind, wrappedQuery_eq fits found, Json.get] at query ⊢
    split
    · rename_i null
      exact .missing _ _ _ null
    · rename_i given
      exact (textOf_decides file query).congr ⟨False.elim, given⟩
  | _ => exact .missing _ _ _ rfl

theorem expression?_decides (within : Within long (.obj fields)) (fits : TextField fields field) :
    Decides file long (expression? fields field) False := by
  unfold expression?
  cases found : Json.field fields field with
  | obj expr =>
    have inner := found ▸ within.field field
    simp only [wrappedQuery_eq fits found, ok_bind]
    split
    · exact (textOf_decides file ((inner.field expressionKey).get "query")).fmap some
    · exact .ok _ not_false
  | _ => exact .ok _ not_false

theorem levelOf_read (level : NumberField fields "errlevel") (severity : NumberField fields "elog_level") :
    ∃ n, levelOf fields = .ok n := by
  unfold levelOf
  rcases level with null | ⟨n, number⟩
  · rw [null]
    rcases severity with null | ⟨n, number⟩
    · rw [null]
      exact ⟨_, rfl⟩
    · rw [number]
      by_cases given : (Json.int n).given = true
      · exact ⟨_, by simp only [given, if_true]; rfl⟩
      · exact ⟨_, by simp only [given]; rfl⟩
  · rw [number]
    exact ⟨n, rfl⟩

theorem fieldItems_read (list : ListField fields field) :
    fieldItems fields field = .ok (Json.field fields field).elements := by
  rw [fieldItems]
  cases found : fields.lookup field with
  | none =>
    rw [field_absent found]
    rfl
  | some v =>
    rw [field_of_lookup found, eq_arr_of_shape (list v found)]
    rfl

end Fields

section Lists

variable (file : Option String) {long : Prop}

theorem Decides.list {α : Type} (read : Json → Reading α) {all : List Json → Reading (List α)}
    (nil : all [] = .ok []) (cons : ∀ v vs, all (v :: vs) = do let a ← read v; return a :: (← all vs))
    {lacks : Json → Prop} (vs : List Json) (each : ∀ v ∈ vs, Decides file long (read v) (lacks v)) :
    Decides file long (all vs) (∃ v ∈ vs, lacks v) := by
  induction vs with
  | nil =>
    rw [nil]
    exact .ok _ (by simp)
  | cons v vs ih =>
    obtain ⟨first, rest⟩ := List.forall_mem_cons.mp each
    rw [cons]
    exact (first.bind fun a _ => (ih rest).map (a :: ·)).congr (by simp)

theorem Decides.listField {α : Type} {read : Json → Reading (List α)} {fields : Fields} {field : String}
    (list : ListField fields field) (lacking : List Json → Prop) (none : ¬ lacking [])
    (each : Decides file long (read (.arr (Json.field fields field).elements))
      (lacking (Json.field fields field).elements)) :
    Decides file long (((fields.lookup field).map read).getD (.ok []))
      (lacking (Json.field fields field).elements) := by
  cases found : fields.lookup field with
  | none =>
    rw [field_absent found]
    exact .ok _ none
  | some v =>
    rw [field_of_lookup found, ← eq_arr_of_shape (list v found)] at each
    rw [field_of_lookup found]
    exact each

theorem rowNames_decides (vs : List Json) (within : ∀ v ∈ vs, Within long v) (objects : ∀ v ∈ vs, v.shape = .object) :
    Decides file long (rowNames file vs) (∃ v ∈ vs, v.get "name" = .null) := by
  let read (v : Json) : Reading String := do textOf (← needed file (← objectFields v) "name" rowKey)
  refine Decides.list file read rfl (fun v vs => ?_) vs fun v member => ?_
  · simp only [rowNames, read, bind_assoc]
  · rw [eq_obj_of_shape (objects v member)]
    exact neededText_decides file (within v member).members "name" rowKey

theorem lacksTarget_iff {fields others : Fields} {key : String} {inner : Json}
    (found : Json.field fields "target" = .obj ((key, inner) :: others)) :
    LacksTarget fields ↔
      key = rowKey ∧ (∃ v ∈ (inner.get "fields").elements, v.get "name" = .null) ∨
      key ∈ [variableKey, recordKey] ∧ inner.get "refname" = .null ∨
      key ∉ [rowKey, variableKey, recordKey] := by
  constructor
  · intro lacks
    cases lacks with
    | target null => simp [found] at null
    | column row member null =>
      cases found.symm.trans row
      exact .inl ⟨rfl, _, member, null⟩
    | name record known null =>
      cases found.symm.trans record
      exact .inr (.inl ⟨known, null⟩)
    | kind other unknown =>
      cases found.symm.trans other
      exact .inr (.inr unknown)
  · rintro (⟨rfl, v, member, null⟩ | ⟨known, null⟩ | unknown)
    · exact .column found member null
    · exact .name found known null
    · exact .kind found unknown

theorem intoNames_decides {fields : Fields} (within : Within long (.obj fields))
    (fits : Json.field fields "target" = .null ∨
      ∃ key inner others, Json.field fields "target" = .obj ((key, inner) :: others) ∧ TargetFits key inner) :
    Decides file long (intoNames file fields) (LacksTarget fields) := by
  rcases fits with null | ⟨key, inner, others, found, fits⟩
  · rw [intoNames, needed, null]
    exact .missing _ _ _ (.target null)
  · have read : needed file fields "target" Kind.execute.tag = .ok (.obj ((key, inner) :: others)) := by
      rw [needed, found]
    have payload : Within long inner := by
      have whole := within.field "target"
      rw [found] at whole
      have first : List.lookup key (Json.obj ((key, inner) :: others)).members = some inner := by simp [Json.members]
      exact whole.found first
    rw [intoNames, read]
    simp only [ok_bind, node, fits.payload.fields, Key.name.injEq]
    by_cases row : key = rowKey
    · subst row
      have names := rowNames_decides file _ (fun v member => (payload.get "fields").element member) (fits.columns rfl)
      rw [get_eq] at names
      simp only [if_true, fieldItems_read (fits.list rfl), ok_bind]
      refine names.congr ?_
      rw [lacksTarget_iff found, get_eq]
      simp [rowKey, variableKey, recordKey]
    · rw [if_neg row]
      split
      · rename_i known
        have named := neededText_decides file payload.members "refname" key
        have member : key ∈ [variableKey, recordKey] := by simpa using known
        have listed : key ∈ [rowKey, variableKey, recordKey] := List.mem_cons_of_mem _ member
        rw [← bind_assoc]
        refine (named.map _).congr ?_
        rw [lacksTarget_iff found, get_eq inner "refname"]
        simp [row, member, listed]
      · rename_i unknown
        refine .missing _ _ _ (.kind found ?_)
        simpa [row] using unknown

theorem bodyField_decides {fields : Fields} {field : String} (list : ListField fields field)
    (each : ∀ v ∈ (Json.field fields field).elements, Decides file long (statement file v) (Lacks v)) :
    Decides file long (bodyField file field fields) (BodyLacks fields field) := by
  rw [bodyField_eq]
  refine Decides.listField file list (fun vs => ∃ v ∈ vs, Lacks v) (by simp) ?_
  rw [statements]
  exact Decides.list file _ (statementList.eq_1 file) (statementList.eq_2 file) _ each

theorem arm_eq {form : ArmForm} {v : Json} (wrapped : (form.payload v).shape = .object) :
    arm file form v = payloadArm file form (form.payload v) := by
  cases v with
  | obj fields =>
    rw [ArmForm.payload, Json.get] at wrapped ⊢
    rw [arm, wrappedArm_eq]
    cases found : fields.lookup form.wrapper with
    | none =>
      rw [field_absent found] at wrapped
      cases wrapped
    | some inner =>
      rw [field_of_lookup found]
      rfl
  | _ => cases wrapped

theorem arm_decides {form : ArmForm} {v : Json} (within : Within long v) (fits : ArmFits form v)
    (each : ∀ s ∈ ((form.payload v).get "stmts").elements, Decides file long (statement file s) (Lacks s)) :
    Decides file long (arm file form v) (ArmLacks form v) := by
  rw [get_eq] at each
  have inside : Within long (form.payload v) := within.get form.wrapper
  have test := expression_decides file inside.members fits.test form.wrapper
  have body := bodyField_decides file fits.body each
  have object := fits.wrapped
  rw [arm_eq file object, ArmLacks]
  generalize form.payload v = payload at *
  rw [eq_obj_of_shape object, payloadArm]
  exact test.bind fun test _ => body.map _

theorem armsField_decides {fields : Fields} {form : ArmForm} (list : ListField fields form.list)
    (each : ∀ v ∈ (Json.field fields form.list).elements, Decides file long (arm file form v) (ArmLacks form v)) :
    Decides file long (armsField file form fields) (ArmsLack fields form) := by
  rw [armsField_eq]
  refine Decides.listField file list (fun vs => ∃ v ∈ vs, ArmLacks form v) (by simp) ?_
  rw [arms]
  exact Decides.list file _ (armList.eq_1 file form) (armList.eq_2 file form) _ each

end Lists

section Statements

variable (file : Option String) {long : Prop}

/-- What may be lacking in a payload, in the order in which it is read. -/
def FieldsLack (kind : Kind) (fields : Fields) : Prop :=
  (∃ form ∈ kind.arms, ArmsLack fields form) ∨ (∃ field ∈ kind.texts, LacksText fields field) ∨
  (kind = .execute ∧ (Json.field fields "into").given = true ∧ LacksTarget fields) ∨
  ∃ field ∈ kind.bodies, BodyLacks fields field

theorem lacks_iff {tag : String} {kind : Kind} (known : Kind.ofTag? tag = some kind) (payload : Json)
    (others : Fields) : Lacks (.obj ((tag, payload) :: others)) ↔ FieldsLack kind payload.members := by
  constructor
  · intro lacks
    cases lacks with
    | text same member lacks =>
      cases known.symm.trans same
      exact .inr (.inl ⟨_, member, lacks⟩)
    | target same given lacks =>
      cases known.symm.trans same
      exact .inr (.inr (.inl ⟨rfl, get_eq payload _ ▸ given, lacks⟩))
    | body same member inner lacks =>
      cases known.symm.trans same
      exact .inr (.inr (.inr ⟨_, member, _, get_eq payload _ ▸ inner, lacks⟩))
    | test same member arm lacks =>
      cases known.symm.trans same
      exact .inl ⟨_, member, _, get_eq payload _ ▸ arm, .inl lacks⟩
    | arm same member arm inner lacks =>
      cases known.symm.trans same
      exact .inl ⟨_, member, _, get_eq payload _ ▸ arm, .inr ⟨_, get_eq _ _ ▸ inner, lacks⟩⟩
  · rintro (⟨form, member, a, arm, lacks | ⟨v, inner, lacks⟩⟩ | ⟨field, member, lacks⟩ |
      ⟨rfl, given, lacks⟩ | ⟨field, member, v, inner, lacks⟩)
    · exact .test known member (get_eq payload _ ▸ arm) lacks
    · exact .arm known member (get_eq payload _ ▸ arm) (get_eq (form.payload a) _ ▸ inner) lacks
    · exact .text known member lacks
    · exact .target known (get_eq payload _ ▸ given) lacks
    · exact .body known member (get_eq payload _ ▸ inner) lacks

theorem not_lacks {tag : String} (other : Kind.ofTag? tag = none) (payload : Json) (others : Fields) :
    ¬ Lacks (.obj ((tag, payload) :: others)) := by
  intro lacks
  cases lacks with
  | text known _ _ | target known _ _ | body known _ _ _ | test known _ _ _ | arm known _ _ _ _ =>
    rw [other] at known
    cases known

theorem ofKind_decides {kind : Kind} {fields : Fields} {nested : Nested} (within : Within long (.obj fields))
    (fits : Fits kind fields)
    (bodies : ∀ field ∈ kind.bodies, Decides file long (nested.body field) (BodyLacks fields field))
    (arms : ∀ form ∈ kind.arms, Decides file long (nested.arms form) (ArmsLack fields form)) :
    Decides file long (ofKind file fields nested kind) (FieldsLack kind fields) := by
  cases kind with
  | raise =>
    obtain ⟨level, read⟩ := levelOf_read (fits.level rfl).1 (fits.level rfl).2
    have message := textOrEmpty_decides file (within.field "message")
    rw [ofKind, read]
    exact (message.map _).congr (by simp [FieldsLack])
  | forQuery =>
    have query := expression_decides file within (fits.texts "query" (by simp)) Kind.forQuery.tag
    have body := bodies "body" (by simp)
    exact (query.bind fun query _ => body.map _).congr (by simp [FieldsLack])
  | ret =>
    have expr := expression?_decides file within (fits.result rfl)
    exact (expr.map _).congr (by simp [FieldsLack])
  | retNext => exact .ok _ (by simp [FieldsLack])
  | block =>
    have body := bodies "body" (by simp)
    exact (body.map _).congr (by simp [FieldsLack])
  | execute =>
    have query := expression_decides file within (fits.texts "sqlstmt" (by simp)) Kind.execute.tag
    refine (query.bind fun query _ => ?_).congr
      (show _ ∨ (Json.field fields "into").given = true ∧ LacksTarget fields ↔ _ by simp [FieldsLack])
    split
    · rename_i given
      have names := intoNames_decides file within (fits.target rfl given)
      exact ((names.fmap some).map _).congr (by simp [given])
    · rename_i absent
      exact .ok _ (by simp [absent])
  | dynamic =>
    have query := expression_decides file within (fits.texts "query" (by simp)) Kind.dynamic.tag
    exact (query.map _).congr (by simp [FieldsLack])
  | assign =>
    have expr := expression_decides file within (fits.texts "expr" (by simp)) Kind.assign.tag
    exact (expr.map _).congr (by simp [FieldsLack])
  | choose =>
    have elsifs := arms elsifForm (by simp)
    have test := expression_decides file within (fits.texts "cond" (by simp)) Kind.choose.tag
    have body := bodies "then_body" (by simp)
    have otherwise := bodies "else_body" (by simp)
    refine (elsifs.bind fun arms _ => test.bind fun test _ => body.bind fun body _ => ?_).congr
      (show _ ∨ _ ∨ _ ∨ BodyLacks fields "else_body" ↔ _ by simp [FieldsLack])
    -- A null alternative is not read, but then it has no statements that could lack something.
    split
    · rename_i null
      exact .ok _ (by simp [BodyLacks, null, Json.elements])
    · exact (otherwise.fmap some).map _
  | select =>
    have whens := arms whenForm (by simp)
    have subject := expression_decides file within (fits.texts "t_expr" (by simp)) Kind.select.tag
    have otherwise := bodies "else_stmts" (by simp)
    exact (whens.bind fun arms _ => subject.bind fun subject _ => otherwise.map _).congr (by simp [FieldsLack])

theorem statement_decides {v : Json} (shaped : Shaped v) (within : Within long v) :
    Decides file long (statement file v) (Lacks v) := by
  induction shaped with
  | @unknown tag payload others other isPayload =>
    rw [statement, isPayload.statement, ofFields, other]
    exact .ok _ (not_lacks other payload others)
  | @known tag kind payload others known isPayload fits _ _ inBodies inArms =>
    have first : List.lookup tag (Json.obj ((tag, payload) :: others)).members = some payload := by
      simp [Json.members]
    have inside : Within long payload := within.found first
    rw [statement, isPayload.statement, ofFields, known]
    refine (ofKind_decides file inside.members fits (fun field member => ?_) (fun form member => ?_)).congr
      (lacks_iff known payload others).symm
    · refine bodyField_decides file (fits.bodies field member) fun v listed => ?_
      rw [← get_eq] at listed
      exact inBodies field member v listed ((inside.get field).element listed)
    · refine armsField_decides file (fits.arms form member) fun a arm => ?_
      have listed : a ∈ (payload.get form.list).elements := get_eq payload form.list ▸ arm
      have armWithin : Within long a := (inside.get form.list).element listed
      refine arm_decides file armWithin (fits.eachArm form member a arm) fun v inner => ?_
      exact inArms form member a listed v inner (((armWithin.get form.wrapper).get "stmts").element inner)

end Statements

section Functions

variable (file : Option String) {long : Prop}

def DatumLacks (d : Json) : Prop := ∃ v, d.members.lookup variableKey = some v ∧ v.get "refname" = .null

theorem declared_decides {v : Json} (within : Within long v) (object : v.shape = .object)
    (default : TextField v.members "default_val") :
    Decides file long (declared file v) (v.get "refname" = .null) := by
  have initial := expression?_decides file within.members default
  have named := neededText_decides file within.members "refname" variableKey
  cases v with
  | obj fields =>
    rw [declared, objectFields, ok_bind, ← bind_assoc]
    exact (named.bind fun name _ => initial.map _).congr (iff_of_eq (or_false _))
  | _ => cases object

theorem datum_decides {d : Json} (within : Within long d) (fits : DatumFits d) :
    Decides file long (datum file d) (DatumLacks d) := by
  have object := fits.object
  cases d with
  | obj fields =>
    rw [DatumLacks, Json.members, datum]
    cases found : fields.lookup variableKey with
    | none => exact .ok _ (by simp)
    | some v =>
      have named := declared_decides file (within.found found) (fits.inner v found) (fits.initial v found)
      exact (named.fmap some).congr (by simp)
  | _ => cases object

theorem data_decides (ds : List Json) (each : ∀ d ∈ ds, Decides file long (datum file d) (DatumLacks d)) :
    Decides file long (data file ds) (∃ d ∈ ds, DatumLacks d) := by
  induction ds with
  | nil => exact .ok _ (by simp)
  | cons d ds ih =>
    obtain ⟨first, rest⟩ := List.forall_mem_cons.mp each
    rw [data]
    exact (first.bind fun found _ => (ih rest).map _).congr (by simp)

theorem functionLacks_iff {payload : Json} {others : Fields} :
    FunctionLacks (.obj ((functionKey, payload) :: others)) ↔
      (∃ d ∈ (payload.get "datums").elements, DatumLacks d) ∨
      payload.get "action" = .null ∨
      ∃ key block more, payload.get "action" = .obj ((key, block) :: more) ∧
        (key ≠ Kind.block.tag ∨ BodyLacks block.members "body") := by
  constructor
  · intro lacks
    cases lacks with
    | name member found null => exact .inl ⟨_, member, _, found, null⟩
    | action null => exact .inr (.inl null)
    | block found other => exact .inr (.inr ⟨_, _, _, found, .inl other⟩)
    | statement found member lacks =>
      exact .inr (.inr ⟨_, _, _, found, .inr ⟨_, get_eq _ _ ▸ member, lacks⟩⟩)
  · rintro (⟨d, member, v, found, null⟩ | null | ⟨key, block, more, found, lacks⟩)
    · exact .name member found null
    · exact .action null
    · by_cases same : key = Kind.block.tag
      · obtain ⟨v, member, lacks⟩ := lacks.resolve_left (not_not_intro same)
        rw [same] at found
        exact .statement found (get_eq block _ ▸ member) lacks
      · exact .block found same

theorem procedure_decides {raw : Json} (within : Within long raw) (shaped : ShapedFunction raw) (name : String) :
    Decides file long (procedure file name raw) (FunctionLacks raw) := by
  obtain @⟨payload, others, isPayload, list, entries, action⟩ := shaped
  rw [functionLacks_iff]
  have first : List.lookup functionKey (Json.obj ((functionKey, payload) :: others)).members = some payload := by
    simp [Json.members]
  have inside : Within long payload := within.found first
  have data := data_decides file (payload.get "datums").elements fun d member =>
    datum_decides file ((inside.get "datums").element member) (entries d member)
  rw [get_eq] at data action ⊢
  simp only [procedure, node, ok_bind, isPayload.fields, fieldItems_read list]
  refine data.bind fun locals _ => ?_
  rw [get_eq]
  refine (needed_decides file payload.members "action" functionKey).bind fun v read => ?_
  rcases action with null | ⟨key, block, more, found, inner⟩
  -- A function without an action is refused before this point.
  · rw [needed, null] at read
    cases read
  · rw [needed, found] at read
    cases read
    simp only [found, ok_bind, ne_eq, Key.name.injEq]
    by_cases same : key = Kind.block.tag
    · obtain ⟨isBlock, list, each⟩ := inner same
      have first : List.lookup key (Json.obj ((key, block) :: more)).members = some block := by simp [Json.members]
      have blockWithin : Within long block := Within.found (found ▸ inside.members.field "action") first
      have body := bodyField_decides file list fun v member => by
        rw [← get_eq] at member
        exact statement_decides file (each v member) ((blockWithin.get "body").element member)
      rw [if_neg (not_not_intro same), isBlock.fields, ok_bind]
      refine (body.map _).congr ⟨fun lacks => ⟨key, block, more, rfl, .inr lacks⟩, ?_⟩
      rintro ⟨_, _, _, unchanged, lacks⟩
      cases unchanged
      exact lacks.resolve_left (not_not_intro same)
    · rw [if_pos same]
      exact .missing _ _ _ ⟨key, block, more, rfl, .inl same⟩

/-- A function of the right shape gives a procedure, or is refused with the name of a field that is missing, or holds an
integer that is too long. Without such an integer, it is refused exactly if something is lacking. -/
theorem procedure_refused_iff (file : Option String) (name : String) {raw : Json} (shaped : ShapedFunction raw) :
    ((∃ p, procedure file name raw = .ok p ∧ ¬ FunctionLacks raw) ∨
      (∃ (kind field : String) (line : Option Line),
        procedure file name raw = .error (.refused ⟨.missing .tree kind field, file, line⟩) ∧ FunctionLacks raw) ∨
      procedure file name raw = .error (.exceeded .digits) ∧ raw.isShort = false) ∧
      (raw.isShort = true → ((∃ failure, procedure file name raw = .error failure) ↔ FunctionLacks raw)) := by
  have within : Within (raw.isShort = false) raw := id
  cases procedure_decides file within shaped name with
  | read p ok complete =>
    refine ⟨.inl ⟨p, ok, complete⟩, fun _ => ?_⟩
    simp [ok, complete]
  | refused kind field line error lacks =>
    refine ⟨.inr (.inl ⟨kind, field, line, error, lacks⟩), fun _ => ?_⟩
    simp [error, Raw.missing, lacks]
  | exceeded error long =>
    refine ⟨.inr (.inr ⟨error, long⟩), fun short => ?_⟩
    rw [long] at short
    cases short

theorem procedure_refused_iff_arm :
    let wrapped (query : Json) : Json := .obj [(expressionKey, .obj [("query", query)])]
    let arm : Json := .obj [(elsifKey, .obj [("cond", wrapped .null), ("lineno", .int 7)])]
    let choice : Json := .obj [(Kind.choose.tag, .obj [("cond", wrapped (.str "a")), ("elsif_list", .arr [arm])])]
    let loop : Json := .obj [(Kind.forQuery.tag, .obj [("query", wrapped (.str "select 1")),
      ("body", .arr [.obj [("PLpgSQL_stmt_perform", .null)], choice])])]
    let raw : Json := .obj [(functionKey, .obj [("action", .obj [(Kind.block.tag, .obj [("body", .arr [loop])])])])]
    ShapedFunction raw ∧ raw.isShort = true ∧ FunctionLacks raw ∧
      (∃ failure, procedure (some "f.sql") "f" raw = .error failure) ∧
      procedure (some "f.sql") "f" raw =
        .error (.refused ⟨.missing .tree elsifKey "cond.query", some "f.sql", some (.number 7)⟩) := by
  intro wrapped arm choice loop raw
  have unread : Shaped (.obj [("PLpgSQL_stmt_perform", .null)]) := .unknown (by decide) (.inr rfl)
  have shapedArm : ArmFits elsifForm arm := ⟨rfl, fun _ found => by cases found; rfl, nofun⟩
  have shapedChoice : Shaped choice := by
    refine .known (show _ = some Kind.choose from rfl) (.inl rfl) ⟨?_, ?_, ?_, ?_, nofun, nofun, nofun⟩ ?_ ?_
    · exact List.forall_mem_singleton.mpr fun _ found => by cases found; rfl
    · exact List.forall_mem_cons.mpr ⟨nofun, List.forall_mem_singleton.mpr nofun⟩
    · exact List.forall_mem_singleton.mpr fun _ found => by cases found; rfl
    · exact List.forall_mem_singleton.mpr (List.forall_mem_singleton.mpr shapedArm)
    · exact List.forall_mem_cons.mpr ⟨nofun, List.forall_mem_singleton.mpr nofun⟩
    · exact List.forall_mem_singleton.mpr (List.forall_mem_singleton.mpr nofun)
  have shapedLoop : Shaped loop := by
    refine .known (show _ = some Kind.forQuery from rfl) (.inl rfl)
      ⟨?_, ?_, nofun, nofun, nofun, nofun, nofun⟩ ?_ nofun
    · exact List.forall_mem_singleton.mpr fun _ found => by cases found; rfl
    · exact List.forall_mem_singleton.mpr fun _ found => by cases found; rfl
    · exact List.forall_mem_singleton.mpr
        (List.forall_mem_cons.mpr ⟨unread, List.forall_mem_singleton.mpr shapedChoice⟩)
  have shaped : ShapedFunction raw := by
    refine .mk (.inl rfl) nofun nofun (.inr ⟨_, _, _, rfl, fun _ => ⟨.inl rfl, ?_, ?_⟩⟩)
    · exact fun _ found => by cases found; rfl
    · exact List.forall_mem_singleton.mpr shapedLoop
  have lacksChoice : Lacks choice :=
    .test (show _ = some Kind.choose from rfl) (List.mem_singleton_self elsifForm) (List.mem_singleton_self arm) rfl
  have lacksLoop : Lacks loop :=
    .body (show _ = some Kind.forQuery from rfl) (List.mem_singleton_self "body") (.tail _ (.head _)) lacksChoice
  have lacks : FunctionLacks raw := .statement rfl (.head _) lacksLoop
  have short : raw.isShort = true := by decide
  exact ⟨shaped, short, lacks, ((procedure_refused_iff _ _ shaped).2 short).mpr lacks, rfl⟩

/-- A query that is an integer with too many digits. Nothing is lacking, and nothing is said to be missing. -/
theorem procedure_long_query :
    let query : Json := .obj [(expressionKey, .obj [("query", .int firstLong)])]
    let call : Json := .obj [(Kind.dynamic.tag, .obj [("query", query)])]
    let raw : Json := .obj [(functionKey, .obj [("action", .obj [(Kind.block.tag, .obj [("body", .arr [call])])])])]
    ShapedFunction raw ∧ ¬ FunctionLacks raw ∧ procedure (some "f.sql") "f" raw = .error (.exceeded .digits) := by
  intro query call raw
  have shapedCall : Shaped call := by
    refine .known (show _ = some Kind.dynamic from rfl) (.inl rfl)
      ⟨?_, nofun, nofun, nofun, nofun, nofun, nofun⟩ nofun nofun
    exact List.forall_mem_singleton.mpr fun _ found => by cases found; rfl
  have shaped : ShapedFunction raw := by
    refine .mk (.inl rfl) nofun nofun (.inr ⟨_, _, _, rfl, fun _ => ⟨.inl rfl, ?_, ?_⟩⟩)
    · exact fun _ found => by cases found; rfl
    · exact List.forall_mem_singleton.mpr shapedCall
  have complete : ¬ FunctionLacks raw := by
    rw [functionLacks_iff]
    rintro (⟨d, member, -⟩ | null | ⟨key, block, more, found, other | ⟨v, member, lacks⟩⟩)
    · cases member
    · cases null
    · cases found
      exact other rfl
    · cases found
      obtain rfl : v = call := List.mem_singleton.mp member
      rw [lacks_iff (show _ = some Kind.dynamic from rfl)] at lacks
      rcases lacks with ⟨form, none, -⟩ | ⟨field, listed, null⟩ | ⟨same, -⟩ | ⟨field, none, -⟩
      · cases none
      · cases List.mem_singleton.mp listed
        cases null
      · cases same
      · cases none
  have text : textOf (.int firstLong) = .error (.exceeded .digits) := by simp [textOf, Json.isShort, firstLong_long]
  have read : expression (some "f.sql") [("query", query)] "query" Kind.dynamic.tag = .error (.exceeded .digits) := text
  have called : statement (some "f.sql") call = .error (.exceeded .digits) := by
    have known : Kind.ofTag? Kind.dynamic.tag = some .dynamic := rfl
    simp only [call, statement, payloadStatement, ofFields, known, ofKind, read]
    rfl
  have body : bodyField (some "f.sql") "body" [("body", .arr [call])] = .error (.exceeded .digits) := by
    rw [bodyField, if_pos rfl, statements, statementList, called]
    rfl
  refine ⟨shaped, complete, ?_⟩
  change (bodyField (some "f.sql") "body" [("body", .arr [call])] >>= _) = _
  rw [body]
  rfl

end Functions

end Raw
end PgJinja
