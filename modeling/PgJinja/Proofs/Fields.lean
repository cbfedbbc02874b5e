import PgJinja.Raw.Procedure

/-! Fields are found by their keys. The statements and arms of a field are read from the first value under its
key, wherever that stands in the payload. -/
namespace PgJinja.Raw

theorem ok_bind {α β : Type} (a : α) (f : α → Reading β) : (.ok a : Reading α) >>= f = f a := rfl

theorem lookup_cons (k field : String) (v : Json) (rest : Fields) :
    List.lookup field ((k, v) :: rest) = if k = field then some v else List.lookup field rest := by
  by_cases same : k = field
  · simp [same]
  · have other : (field == k) = false := by simpa using Ne.symm same
    rw [List.lookup_cons, other, if_neg same]

theorem field_of_lookup {fields : Fields} {field : String} {v : Json} (found : fields.lookup field = some v) :
    Json.field fields field = v := by
  rw [Json.field, found, Option.getD_some]

theorem field_absent {fields : Fields} {field : String} (absent : fields.lookup field = none) :
    Json.field fields field = .null := by
  rw [Json.field, absent, Option.getD_none]

theorem needed_of_lookup {fields : Fields} {field : String} {v : Json} (found : fields.lookup field = some v)
    (given : v ≠ .null) (file : Option String) (kind : String) :
    needed file fields field kind = .ok v := by
  rw [needed, field_of_lookup found]
  cases v with
  | null => contradiction
  | _ => rfl

theorem fieldItems_of_lookup {fields : Fields} {field : String} {vs : List Json}
    (found : fields.lookup field = some (.arr vs)) : fieldItems fields field = .ok vs := by
  rw [fieldItems, found]
  rfl

theorem fieldItems_absent {fields : Fields} {field : String} (absent : fields.lookup field = none) :
    fieldItems fields field = .ok [] := by
  rw [fieldItems, absent]

theorem bodyField_eq (file : Option String) (field : String) (fields : Fields) :
    bodyField file field fields = ((fields.lookup field).map (statements file)).getD (.ok []) := by
  induction fields with
  | nil => rfl
  | cons head rest ih =>
    obtain ⟨k, v⟩ := head
    rw [bodyField, lookup_cons]
    split
    · rfl
    · exact ih

theorem armsField_eq (file : Option String) (form : ArmForm) (fields : Fields) :
    armsField file form fields = ((fields.lookup form.list).map (arms file form)).getD (.ok []) := by
  induction fields with
  | nil => rfl
  | cons head rest ih =>
    obtain ⟨k, v⟩ := head
    rw [armsField, lookup_cons]
    split
    · rfl
    · exact ih

theorem wrappedArm_eq (file : Option String) (form : ArmForm) (fields : Fields) :
    wrappedArm file form fields =
      ((fields.lookup form.wrapper).map (payloadArm file form)).getD (misfit (.absentKey form.wrapper)) := by
  induction fields with
  | nil => rfl
  | cons head rest ih =>
    obtain ⟨k, v⟩ := head
    rw [wrappedArm, lookup_cons]
    split
    · rfl
    · exact ih

end PgJinja.Raw
