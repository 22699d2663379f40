import OdinSentinel.Core.JsonParse

/-!
# JSON data

Updates of an object's members, and what `JSON.parse(JSON.stringify(value))` keeps of
a value: members without a value go, and where the text needs one stands `null`.
-/

namespace OdinSentinel.Json

open JsText

/-! ## Members -/

/-- The members that `{ ...value }` copies from an object. -/
def members : JsValue → List (JsString × JsValue)
  | .object fields => fields
  | _ => []

/-- The items that `[...value]` copies from an array. -/
def items : JsValue → List JsValue
  | .array items => items
  | _ => []

/-- `delete object[name]`. -/
def eraseField (fields : List (JsString × JsValue)) (name : JsString) :
    List (JsString × JsValue) :=
  fields.filter fun entry => entry.1 != name

theorem lookup_cons (entry : JsString × JsValue) (fields : List (JsString × JsValue))
    (name : JsString) :
    (entry :: fields).lookup name = if name = entry.1 then some entry.2 else fields.lookup name := by
  obtain ⟨entryName, value⟩ := entry
  by_cases hname : name = entryName
  · subst hname
    simp only [List.lookup_cons_self, if_pos]
  · rw [if_neg hname, List.lookup_cons, beq_false_of_ne hname]

theorem lookup_eraseField (fields : List (JsString × JsValue)) (name other : JsString) :
    (eraseField fields name).lookup other = if other = name then none else fields.lookup other := by
  induction fields with
  | nil => exact (ite_self none).symm
  | cons entry fields ih =>
      rw [eraseField, List.filter_cons]
      by_cases hentry : entry.1 = name
      · rw [if_neg (by simpa using hentry), ← eraseField, ih, lookup_cons]
        split_ifs <;> simp_all
      · rw [if_pos (by simpa using hentry), lookup_cons, ← eraseField, ih, lookup_cons]
        split_ifs <;> simp_all

theorem lookup_append_of_any {fields : List (JsString × JsValue)} {name other : JsString}
    (hname : (fields.any fun entry => entry.1 == name) = false) (value : JsValue) :
    (fields ++ [(name, value)]).lookup other =
      if other = name then some value else fields.lookup other := by
  induction fields with
  | nil => exact lookup_cons (name, value) [] other
  | cons entry fields ih =>
      rw [List.any_cons, Bool.or_eq_false_iff, beq_eq_false_iff_ne] at hname
      rw [List.cons_append, lookup_cons, lookup_cons, ih hname.2]
      by_cases hother : other = entry.1
      · rw [if_pos hother, if_pos hother, if_neg (hother ▸ hname.1)]
      · rw [if_neg hother, if_neg hother]

theorem lookup_replaced (fields : List (JsString × JsValue)) (name other : JsString)
    (value : JsValue) :
    (fields.map fun entry => if entry.1 = name then (name, value) else entry).lookup other =
      if other = name ∧ (fields.any fun entry => entry.1 == name) = true then some value
      else fields.lookup other := by
  induction fields with
  | nil => exact (if_neg (by simp)).symm
  | cons entry fields ih =>
      rw [List.map_cons, List.any_cons, lookup_cons, lookup_cons, ih]
      by_cases hentry : entry.1 = name
      · by_cases hother : other = name <;> simp [hentry, hother]
      · have hbeq : (entry.1 == name) = false := beq_false_of_ne hentry
        simp only [if_neg hentry, hbeq, Bool.false_or]
        by_cases hother : other = entry.1
        · rw [if_pos hother, if_pos hother, if_neg fun hboth => hentry (hother.symm.trans hboth.1)]
        · rw [if_neg hother, if_neg hother]

theorem lookup_setField (fields : List (JsString × JsValue)) (name other : JsString)
    (value : JsValue) :
    (setField fields name value).lookup other =
      if other = name then some value else fields.lookup other := by
  rw [setField]
  by_cases hname : (fields.any fun entry => entry.1 == name) = true
  · rw [if_pos hname, lookup_replaced]
    simp only [hname, and_true]
  · rw [if_neg hname, lookup_append_of_any (Bool.not_eq_true _ ▸ hname)]

theorem any_name_iff (fields : List (JsString × JsValue)) (name : JsString) :
    (fields.any fun entry => entry.1 == name) = true ↔ ∃ value, fields.lookup name = some value := by
  induction fields with
  | nil => simp
  | cons entry fields ih =>
      rw [List.any_cons, lookup_cons, Bool.or_eq_true, ih, beq_iff_eq]
      by_cases hentry : name = entry.1
      · rw [if_pos hentry]
        exact ⟨fun _ => ⟨entry.2, rfl⟩, fun _ => Or.inl hentry.symm⟩
      · rw [if_neg hentry, or_iff_right fun heq => hentry heq.symm]

theorem any_name_setField (fields : List (JsString × JsValue)) (name other : JsString)
    (value : JsValue) :
    ((setField fields name value).any fun entry => entry.1 == other) =
      (decide (other = name) || fields.any fun entry => entry.1 == other) := by
  rw [Bool.eq_iff_iff, any_name_iff, lookup_setField, Bool.or_eq_true, any_name_iff,
    decide_eq_true_iff]
  by_cases hother : other = name <;> simp [hother]

/-- The later of two updates of a member stays. -/
theorem setField_setField (fields : List (JsString × JsValue)) (name : JsString)
    (value later : JsValue) :
    setField (setField fields name value) name later = setField fields name later := by
  have hany := any_name_setField fields name name value
  rw [setField, if_pos (by rw [hany]; simp)]
  rw [setField, setField]
  split_ifs with hname
  · rw [List.map_map]
    apply List.map_congr_left
    intro entry _
    by_cases hentry : entry.1 = name <;> simp [hentry]
  · rw [List.map_append, List.map_singleton, if_pos rfl]
    congr 1
    rw [List.map_congr_left, List.map_id]
    intro entry hmem
    apply if_neg
    intro hentry
    exact hname (List.any_eq_true.mpr ⟨entry, hmem, beq_iff_eq.mpr hentry⟩)

/-- Updates of two members commute where the one whose place must stay is there. -/
theorem setField_comm {fields : List (JsString × JsValue)} {key name : JsString}
    {standing : JsValue} (hkey : fields.lookup key = some standing) (hne : name ≠ key)
    (value other : JsValue) :
    setField (setField fields key other) name value =
      setField (setField fields name value) key other := by
  have hany : (fields.any fun entry => entry.1 == key) = true :=
    (any_name_iff fields key).mpr ⟨standing, hkey⟩
  have hlater : ((setField fields name value).any fun entry => entry.1 == key) = true := by
    rw [any_name_setField, hany, Bool.or_true]
  have hsame : ((setField fields key other).any fun entry => entry.1 == name) =
      fields.any fun entry => entry.1 == name := by
    rw [any_name_setField, decide_eq_false hne, Bool.false_or]
  rw [setField, hsame, setField.eq_def (setField fields name value), if_pos hlater, setField,
    if_pos hany, setField]
  split_ifs with hname
  · rw [List.map_map, List.map_map]
    apply List.map_congr_left
    intro entry _
    by_cases hentry : entry.1 = key
    · simp [hentry, hne.symm]
    · by_cases hother : entry.1 = name <;> simp [hentry, hother, hne]
  · rw [List.map_append, List.map_singleton, if_neg hne]

/-- A member read from an object after an update of that or another member. -/
theorem field_setField (fields : List (JsString × JsValue)) (name other : JsString)
    (value : JsValue) :
    (JsValue.object (setField fields name value)).field other =
      if other = name then value else (JsValue.object fields).field other := by
  rw [JsValue.field, JsValue.field, lookup_setField]
  split_ifs <;> rfl

theorem field_eraseField (fields : List (JsString × JsValue)) (name other : JsString) :
    (JsValue.object (eraseField fields name)).field other =
      if other = name then .undefined else (JsValue.object fields).field other := by
  rw [JsValue.field, JsValue.field, lookup_eraseField]
  split_ifs <;> rfl

theorem field_members (value : JsValue) (name : JsString) :
    (JsValue.object (members value)).field name = value.field name := by
  cases value <;> rfl

/-! ## Written and read again -/

mutual

/-- `JSON.parse(JSON.stringify(value))` of an object, an array or a scalar; the first
member of a name decides. -/
def data : JsValue → JsValue
  | .undefined => .null
  | .null => .null
  | .bool value => .bool value
  | .number value => if value.isFinite then .number value else .null
  | .string text => .string text
  | .array items => .array (dataItems items)
  | .object fields => .object (dataFields fields)

def dataItems : List JsValue → List JsValue
  | [] => []
  | item :: items => data item :: dataItems items

def dataFields : List (JsString × JsValue) → List (JsString × JsValue)
  | [] => []
  | (name, .undefined) :: fields => eraseField (dataFields fields) name
  | (name, value) :: fields => (name, data value) :: dataFields fields

end

/-- What reading a member finds of it; a member without a value is not there. -/
def dataField : JsValue → JsValue
  | .undefined => .undefined
  | value => data value

@[simp]
theorem dataField_array (items : List JsValue) :
    dataField (.array items) = .array (dataItems items) := rfl

theorem lookup_dataFields (fields : List (JsString × JsValue)) (name : JsString) :
    ((dataFields fields).lookup name).getD .undefined =
      dataField ((fields.lookup name).getD .undefined) := by
  induction fields with
  | nil => rw [dataFields]; rfl
  | cons entry fields ih =>
      obtain ⟨entryName, value⟩ := entry
      by_cases hname : name = entryName
      · cases value <;> simp [dataFields, hname, lookup_eraseField, dataField]
      · cases value <;> simp [dataFields, hname, lookup_cons, lookup_eraseField, ih]

theorem field_data (value : JsValue) (name : JsString) :
    (data value).field name = dataField (value.field name) := by
  cases value with
  | object fields => rw [data]; exact lookup_dataFields fields name
  | number value => rw [data]; split_ifs <;> rfl
  | _ => rw [data]; rfl

theorem dataItems_append (left right : List JsValue) :
    dataItems (left ++ right) = dataItems left ++ dataItems right := by
  induction left with
  | nil => rw [dataItems]; rfl
  | cons item left ih => rw [List.cons_append, dataItems, dataItems, ih]; rfl

mutual

/-- No member is without a value, and every number is finite. -/
def IsData : JsValue → Prop
  | .undefined => False
  | .null => True
  | .bool _ => True
  | .number value => value.isFinite = true
  | .string _ => True
  | .array items => ItemsData items
  | .object fields => FieldsData fields

def ItemsData : List JsValue → Prop
  | [] => True
  | item :: items => IsData item ∧ ItemsData items

def FieldsData : List (JsString × JsValue) → Prop
  | [] => True
  | (_, value) :: fields => IsData value ∧ FieldsData fields

end

theorem itemsData_iff {items : List JsValue} : ItemsData items ↔ ∀ item ∈ items, IsData item := by
  induction items with
  | nil => simp [ItemsData]
  | cons item items ih => rw [ItemsData, ih, List.forall_mem_cons]

theorem fieldsData_iff {fields : List (JsString × JsValue)} :
    FieldsData fields ↔ ∀ entry ∈ fields, IsData entry.2 := by
  induction fields with
  | nil => simp [FieldsData]
  | cons entry fields ih => rw [FieldsData, ih, List.forall_mem_cons]

theorem FieldsData.eraseField {fields : List (JsString × JsValue)} (hfields : FieldsData fields)
    (name : JsString) : FieldsData (eraseField fields name) := by
  rw [fieldsData_iff] at hfields ⊢
  exact fun entry hmem => hfields entry (List.mem_of_mem_filter hmem)

theorem FieldsData.setField {fields : List (JsString × JsValue)} (hfields : FieldsData fields)
    (name : JsString) {value : JsValue} (hvalue : IsData value) :
    FieldsData (setField fields name value) := by
  rw [fieldsData_iff] at hfields ⊢
  intro entry hmem
  rw [Json.setField] at hmem
  split_ifs at hmem
  · obtain ⟨before, hbefore, rfl⟩ := List.mem_map.mp hmem
    split_ifs
    · exact hvalue
    · exact hfields before hbefore
  · rcases List.mem_append.mp hmem with hmem | hmem
    · exact hfields entry hmem
    · rw [List.mem_singleton.mp hmem]
      exact hvalue

/-- Data has each of its members as data, or not at all. -/
theorem IsData.field {value : JsValue} (hvalue : IsData value) (name : JsString) :
    value.field name = .undefined ∨ IsData (value.field name) := by
  cases value with
  | object fields =>
      rw [JsValue.field]
      cases hfound : fields.lookup name with
      | none => exact .inl rfl
      | some found =>
          obtain ⟨before, after, rfl, -⟩ := List.lookup_eq_some_iff.mp hfound
          exact .inr (fieldsData_iff.mp hvalue (name, found) (by simp))
  | _ => exact .inl rfl

mutual

/-- What is written and read again is data. -/
theorem isData_data (value : JsValue) : IsData (data value) := by
  cases value with
  | number value =>
      rw [data]
      split_ifs with hfinite
      · exact hfinite
      · exact trivial
  | array items => rw [data]; exact itemsData_dataItems items
  | object fields => rw [data]; exact fieldsData_dataFields fields
  | _ => rw [data]; exact trivial

theorem itemsData_dataItems (items : List JsValue) : ItemsData (dataItems items) := by
  cases items with
  | nil => exact trivial
  | cons item items => exact ⟨isData_data item, itemsData_dataItems items⟩

theorem fieldsData_dataFields (fields : List (JsString × JsValue)) :
    FieldsData (dataFields fields) := by
  match fields with
  | [] => exact trivial
  | (name, value) :: fields =>
      have hrest := fieldsData_dataFields fields
      have hvalue := isData_data value
      cases value with
      | undefined => rw [dataFields]; exact hrest.eraseField name
      | _ => rw [dataFields]; exacts [⟨hvalue, hrest⟩, by simp]

end

mutual

/-- Data is read back as it was written. -/
theorem IsData.data_eq {value : JsValue} (hvalue : IsData value) : data value = value := by
  cases value with
  | undefined => exact hvalue.elim
  | number value => exact if_pos (show value.isFinite = true from hvalue)
  | array items => rw [data, ItemsData.dataItems_eq hvalue]
  | object fields => rw [data, FieldsData.dataFields_eq hvalue]
  | _ => rw [data]

theorem ItemsData.dataItems_eq {items : List JsValue} (hitems : ItemsData items) :
    dataItems items = items := by
  cases items with
  | nil => rfl
  | cons item items => rw [dataItems, hitems.1.data_eq, hitems.2.dataItems_eq]

theorem FieldsData.dataFields_eq {fields : List (JsString × JsValue)} (hfields : FieldsData fields) :
    dataFields fields = fields := by
  match fields with
  | [] => rfl
  | (name, value) :: fields =>
      have hrest := hfields.2.dataFields_eq
      have hvalue := hfields.1.data_eq
      cases value with
      | undefined => exact hfields.1.elim
      | _ => rw [dataFields, hvalue, hrest]; simp

end

theorem IsData.dataField_eq {value : JsValue} (hvalue : IsData value) : dataField value = value := by
  cases value with
  | undefined => exact hvalue.elim
  | _ => exact hvalue.data_eq

end OdinSentinel.Json
