import OdinSentinel.Core.JsonGrammar

/-!
# Indented JSON text

`JSON.stringify` with an indentation of two spaces, and that `JSON.parse` reads the value back.
-/

namespace OdinSentinel.Json

open JsText Host

/-- A line break and the indentation of a depth. -/
def lineBreak (depth : Nat) : JsString := 10 :: List.replicate (2 * depth) 32

mutual

/-- `JSON.stringify(value, null, 2)` at a depth. -/
def indentedAt (host : HostRuntime) (depth : Nat) : JsValue → JsString
  | .array [] => js "[]"
  | .array (item :: items) =>
      91 :: (List.intercalate [44] (itemsAt host (depth + 1) (item :: items)) ++
        (lineBreak depth ++ [93]))
  | .object fields =>
      match fieldsAt host (depth + 1) fields with
      | [] => js "\x7b\x7d"
      | text :: texts =>
          123 :: (List.intercalate [44] (text :: texts) ++ (lineBreak depth ++ [125]))
  | value => stringify host value

def itemsAt (host : HostRuntime) (depth : Nat) : List JsValue → List JsString
  | [] => []
  | item :: items => (lineBreak depth ++ indentedAt host depth item) :: itemsAt host depth items

/-- The members of an object; a field whose value is `undefined` is left out. -/
def fieldsAt (host : HostRuntime) (depth : Nat) : List (JsString × JsValue) → List JsString
  | [] => []
  | (_, .undefined) :: fields => fieldsAt host depth fields
  | (name, value) :: fields =>
      (lineBreak depth ++ (quote name ++ (js ": " ++ indentedAt host depth value))) ::
        fieldsAt host depth fields

end

/-- `JSON.stringify(value, null, 2)` -/
def indentedText (host : HostRuntime) (value : JsValue) : JsString := indentedAt host 0 value

/-! ## Read back -/

theorem blank_lineBreak (depth : Nat) : Blank (lineBreak depth) := by
  intro unit hunit
  rcases List.mem_cons.mp hunit with rfl | hspace
  · rfl
  · rw [List.eq_of_mem_replicate hspace]
    rfl

theorem blank_space : Blank [32] := List.forall_mem_singleton.mpr rfl

theorem parseQuoted_quote (text : JsString) :
    parseQuoted (quoteUnits text ++ [34]) = some (text, []) :=
  parseQuoted_quoteUnits text []

variable {host : HostRuntime}

theorem fieldsAt_cons {value : JsValue} (hvalue : Plain value) (depth : Nat) (name : JsString)
    (fields : List (JsString × JsValue)) :
    fieldsAt host depth ((name, value) :: fields) =
      (lineBreak depth ++ (quote name ++ (js ": " ++ indentedAt host depth value))) ::
        fieldsAt host depth fields := by
  cases value with
  | undefined => exact hvalue.elim
  | _ => rw [fieldsAt]; simp

mutual

theorem reads_indentedAt (value : JsValue) (hvalue : Plain value) (depth : Nat) :
    Reads (.value value) (indentedAt host depth value) := by
  cases value with
  | undefined => exact hvalue.elim
  | null => exact @Reads.word _ (js "null") rfl
  | bool value =>
      cases value with
      | true => exact @Reads.word _ (js "true") rfl
      | false => exact @Reads.word _ (js "false") rfl
  | number value =>
      obtain ⟨natural, hsafe, rfl⟩ := hvalue
      have hword := parseWord_natText hsafe endsNumber_nil
      rw [List.append_nil] at hword
      rw [indentedAt, stringify, numberJson_ofNat hsafe]
      · exact Reads.word hword
      all_goals nofun
  | string text => exact Reads.string (parseQuoted_quote text)
  | array items =>
      cases items with
      | nil => exact Reads.noItems blank_nil
      | cons item items =>
          rw [indentedAt]
          exact Reads.array (reads_itemsAt (item :: items) (List.cons_ne_nil _ _) hvalue (depth + 1)
            (blank_lineBreak depth))
  | object fields =>
      cases fields with
      | nil => exact Reads.noMembers blank_nil
      | cons field fields =>
          have hmembers := reads_fieldsAt (field :: fields) (List.cons_ne_nil _ _) [] hvalue.2
            hvalue.1 (depth + 1) (blank_lineBreak depth)
          rw [indentedAt, fieldsAt_cons hvalue.2.1]
          rw [fieldsAt_cons hvalue.2.1] at hmembers
          exact Reads.object hmembers

theorem reads_itemsAt (items : List JsValue) (hsome : items ≠ []) (hitems : PlainItems items)
    (depth : Nat) {close : JsString} (hclose : Blank close) :
    Reads (.items items) (List.intercalate [44] (itemsAt host depth items) ++ (close ++ [93])) := by
  cases items with
  | nil => exact absurd rfl hsome
  | cons item items =>
      have hitem := reads_indentedAt item hitems.1 depth
      cases items with
      | nil =>
          rw [itemsAt, itemsAt, List.intercalate_singleton, List.append_assoc]
          exact Reads.lastItem (blank_lineBreak depth) hitem hclose
      | cons second items =>
          have hrest := reads_itemsAt (second :: items) (List.cons_ne_nil _ _) hitems.2 depth hclose
          have hlater : itemsAt host depth (second :: items) ≠ [] := by
            rw [itemsAt]
            exact List.cons_ne_nil _ _
          rw [itemsAt, List.intercalate_cons_of_ne_nil hlater]
          simp only [List.append_assoc, List.singleton_append]
          exact Reads.item (blank_lineBreak depth) hitem blank_nil hrest

theorem reads_fieldsAt (fields : List (JsString × JsValue)) (hsome : fields ≠ [])
    (before : List (JsString × JsValue)) (hfields : PlainFields fields)
    (hnames : ((before ++ fields).map Prod.fst).Nodup) (depth : Nat) {close : JsString}
    (hclose : Blank close) :
    Reads (.members before (before ++ fields))
      (List.intercalate [44] (fieldsAt host depth fields) ++ (close ++ [125])) := by
  cases fields with
  | nil => exact absurd rfl hsome
  | cons field fields =>
      have hvalue := reads_indentedAt field.2 hfields.1 depth
      have hfresh : field.1 ∉ before.map Prod.fst := by
        rw [List.map_append, List.nodup_append] at hnames
        exact fun hmem => hnames.2.2 field.1 hmem field.1 (by simp) rfl
      have hset := setField_append hfresh field.2
      have hcolon : js ": " = [58, 32] := rfl
      rw [fieldsAt_cons hfields.1, hcolon]
      cases fields with
      | nil =>
          have hlast := @Reads.lastMember before _ _ _ _ _ _ _ _ (blank_lineBreak depth)
            (parseQuoted_quote field.1) blank_nil blank_space hvalue hclose
          rw [hset] at hlast
          rw [fieldsAt, List.intercalate_singleton]
          simpa [quote] using hlast
      | cons second fields =>
          have hrest := reads_fieldsAt (second :: fields) (List.cons_ne_nil _ _)
            (before ++ [field]) hfields.2 (by simpa using hnames) depth hclose
          have hlater : fieldsAt host depth (second :: fields) ≠ [] := by
            rw [fieldsAt_cons hfields.2.1]
            exact List.cons_ne_nil _ _
          rw [← hset] at hrest
          have hmember := Reads.member (blank_lineBreak depth) (parseQuoted_quote field.1)
            blank_nil blank_space hvalue blank_nil hrest
          rw [hset, List.append_assoc, List.singleton_append] at hmember
          rw [List.intercalate_cons_of_ne_nil hlater]
          simpa [quote] using hmember

end

/-- A plain value comes back from its indented text, and whatever blanks follow. -/
theorem parse_indentedText {value : JsValue} (hvalue : Plain value) {after : JsString}
    (hafter : Blank after) : Json.parse (indentedText host value ++ after) = some value :=
  parse_iff.mpr ⟨[], _, after, blank_nil, hafter, reads_indentedAt value hvalue 0, rfl⟩

end OdinSentinel.Json
