import EdmMapping.Json.Basic

/-!
# Reading back what is written

A value is written as JSON in one way, and read from more than that: from records with fields of
other names, with fields that are null or missing, or with values in place of names.  All that is
read as one value has one normal form, which is what is written for the value.

* `Json.Codes` — a writer and a reader that undo each other, up to the normal form of what is read;
* `Json.FieldForm`, `Json.normalRecord` — the normal form of a record, field by field;
* `record?_object`, `lookup_of_record?` — a record is read by the names of its fields;
* `fields_required`, `fields_nullable`, `fields_withDefault` — what is read of a field is written as
  its normal form;
* `codes_string`, `codes_bool`, `codes_word`, `Codes.list` — the values of fields.
-/

set_option autoImplicit false

namespace EdmMapping.Json

/-- What is written is read back, and what is read is written in its normal form. -/
structure Codes {α : Type} (write : α → Json) (read : Json → Option α) (normal : Json → Json) :
    Prop where
  read_write : ∀ a, read (write a) = some a
  write_read : ∀ value a, read value = some a → write a = normal value

/-! ## Records -/

/-- How a field stands in the normal form of a record, given the normal form of its value. -/
inductive FieldForm where
  /-- A field with a value. -/
  | required (normal : Json → Json)
  /-- A field that is left out if its value is null or missing. -/
  | optional (normal : Json → Json)
  /-- A field that has the default if its value is missing. -/
  | defaulted (default : Json) (normal : Json → Json)

/-- The field as it stands in the normal form, if it stands there. -/
def FieldForm.fields (name : String) : FieldForm → Option Json → List (String × Json)
  | required normal, some value => [(name, normal value)]
  | required _, none => []
  | optional _, some .null => []
  | optional normal, some value => [(name, normal value)]
  | optional _, none => []
  | defaulted _ normal, some value => [(name, normal value)]
  | defaulted default _, none => [(name, default)]

/-- The fields of an object under their own names, the items of an array under the given ones. -/
def entries (names : List String) : Json → List (String × Json)
  | .object fields => fields
  | .array items => names.zip items
  | _ => []

/-- The object with the fields of the given forms, in their order, and no others. -/
def normalRecord (forms : List (String × FieldForm)) (value : Json) : Json :=
  .object (forms.flatMap fun (name, form) =>
    form.fields name ((value.entries (forms.map Prod.fst)).lookup name))

theorem record?_object {names : List String} {fields : List (String × Json)}
    (h : (fields.map Prod.fst).Nodup) :
    (Json.object fields).record? names = some fun name => fields.lookup name := by
  have hcount : ∀ name, fields.countP (fun field => field.1 = name) ≤ 1 := by
    intro name
    have hname : (fields.map Prod.fst).count name ≤ 1 := List.nodup_iff_count.1 h name
    rw [List.count, List.countP_map] at hname
    exact hname
  have hall : (names.all fun name => fields.countP (fun field => field.1 = name) ≤ 1) = true := by
    simpa using fun name _ => hcount name
  exact if_pos hall

theorem lookup_cons_of_ne {name other : String} (h : name ≠ other) (value : Json)
    (fields : List (String × Json)) :
    ((other, value) :: fields).lookup name = fields.lookup name := by
  rw [List.lookup_cons, beq_false_of_ne h]

theorem lookup_optionalField (name : String) (value : Option Json) :
    (optionalField name value).lookup name = value := by
  cases value <;> simp [optionalField]

theorem nodup_append_optionalField {fields : List (String × Json)} {name : String}
    (h : (fields.map Prod.fst).Nodup) (hname : name ∉ fields.map Prod.fst) (value : Option Json) :
    ((fields ++ optionalField name value).map Prod.fst).Nodup := by
  cases value with
  | none => simpa [optionalField] using h
  | some value =>
    rw [optionalField, List.map_append, List.nodup_append]
    refine ⟨h, by simp, ?_⟩
    intro a ha b hb hab
    rw [List.map_singleton, List.mem_singleton] at hb
    rw [hab, hb] at ha
    exact hname ha

theorem lookup_of_record? {names : List String} {value : Json} {field : String → Option Json}
    (h : value.record? names = some field) (name : String) :
    field name = (value.entries names).lookup name := by
  unfold record? at h
  split at h
  · split at h
    · cases h
      rfl
    · cases h
  · split at h
    · cases h
      rfl
    · cases h
  · cases h

section Fields

variable {α : Type} {write : α → Json} {read : Json → Option α} {normal : Json → Json}

theorem fields_required (h : Codes write read normal) {value : Option Json} {a : α}
    (hread : required read value = some a) (name : String) :
    (FieldForm.required normal).fields name value = [(name, write a)] := by
  cases value with
  | none => cases hread
  | some value =>
    rw [FieldForm.fields, h.write_read value a hread]

theorem fields_nullable (h : Codes write read normal) {value : Option Json} {a : Option α}
    (hread : nullable read value = some a) (name : String) :
    (FieldForm.optional normal).fields name value = optionalField name (a.map write) := by
  unfold nullable at hread
  split at hread
  · cases hread
    rfl
  · rename_i value hnull
    obtain ⟨b, hb, rfl⟩ := Option.map_eq_some_iff.1 hread
    rw [FieldForm.fields, ← h.write_read value b hb]
    · rfl
    · exact hnull
  · cases hread
    rfl

theorem fields_withDefault (h : Codes write read normal) {default : α} {value : Option Json} {a : α}
    (hread : withDefault default read value = some a) (name : String) :
    (FieldForm.defaulted (write default) normal).fields name value = [(name, write a)] := by
  cases value with
  | none =>
    cases hread
    rfl
  | some value =>
    rw [FieldForm.fields, h.write_read value a hread]

/-- A value that is not null is read as it is where null may stand. -/
theorem nullable_write (h : Codes write read normal) (hnull : ∀ a, write a ≠ .null)
    (a : Option α) : nullable read (a.map write) = some a := by
  cases a with
  | none => rfl
  | some a =>
    have hread : nullable read (some (write a)) = (read (write a)).map some := by
      cases hvalue : write a with
      | null => exact absurd hvalue (hnull a)
      | _ => rfl
    rw [Option.map_some, hread, h.read_write]
    rfl

end Fields

/-! ## Values of fields -/

theorem codes_string : Codes .string string? id where
  read_write _ := rfl
  write_read value text h := by
    cases value with
    | string => exact congrArg Json.string (Option.some.inj h).symm
    | _ => cases h

theorem codes_bool : Codes .bool bool? id where
  read_write _ := rfl
  write_read value b h := by
    cases value with
    | bool => exact congrArg Json.bool (Option.some.inj h).symm
    | _ => cases h

/-- The word of a choice as a string. -/
def wordForm : Json → Json
  | .object [(word, .null)] => .string word
  | value => value

theorem wordForm_of_word? {value : Json} {word : String} (h : value.word? = some word) :
    wordForm value = .string word := by
  unfold word? at h
  split at h
  · cases h
    rfl
  · cases h
    rfl
  · cases h

/-- Choices are known from their words. -/
theorem codes_word {α : Type} {name : α → String} {ofName? : String → Option α}
    (hname : ∀ a, ofName? (name a) = some a)
    (hofName : ∀ word a, ofName? word = some a → name a = word) :
    Codes (fun a => .string (name a)) (fun value => value.word?.bind ofName?) wordForm where
  read_write a := hname a
  write_read value a h := by
    obtain ⟨word, hword, ha⟩ := Option.bind_eq_some_iff.1 h
    rw [wordForm_of_word? hword, hofName word a ha]

/-- Every item in its normal form. -/
def normalItems (normal : Json → Json) : Json → Json
  | .array items => .array (items.map normal)
  | value => value

section Items

variable {α : Type} {write : α → Json} {read : Json → Option α} {normal : Json → Json}

theorem mapM_map_write (h : Codes write read normal) (as : List α) :
    (as.map write).mapM read = some as := by
  induction as with
  | nil => rfl
  | cons a as ih => simp [h.read_write, ih]

theorem map_write_of_mapM (h : Codes write read normal) {items : List Json} {as : List α}
    (hread : items.mapM read = some as) : as.map write = items.map normal := by
  induction items generalizing as with
  | nil =>
    cases hread
    rfl
  | cons item items ih =>
    rw [List.mapM_cons] at hread
    obtain ⟨a, ha, hread⟩ := Option.bind_eq_some_iff.1 hread
    obtain ⟨rest, hrest, hread⟩ := Option.bind_eq_some_iff.1 hread
    cases hread
    rw [List.map_cons, List.map_cons, h.write_read item a ha, ih hrest]

theorem Codes.list (h : Codes write read normal) :
    Codes (fun as => .array (as.map write)) (list? read) (normalItems normal) where
  read_write := mapM_map_write h
  write_read value as hread := by
    obtain ⟨items, hitems, hread⟩ := Option.bind_eq_some_iff.1 hread
    cases value with
    | array =>
      cases hitems
      exact congrArg Json.array (map_write_of_mapM h hread)
    | _ => cases hitems

end Items

end EdmMapping.Json
