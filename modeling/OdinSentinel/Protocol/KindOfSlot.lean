import OdinSentinel.Protocol.RoleIdentity

/-!
# Kinds of slots

The slot parser folds first and splits then; the kind splits the raw string and
folds the last piece.  They agree unless the slash of a slot only appears in the
fold.
-/

namespace OdinSentinel.RoleIdentity

open JsText Unicode

variable {tables : Tables}

/-- How a readable slot was read: one component, or a team and a role. -/
theorem canonicalRoleSlot_eq_some {value canonical : JsString}
    (hslot : canonicalRoleSlot tables (.string value) = some canonical) :
    (∃ piece, (foldRoleInput tables value).splitOn 47 = [piece] ∧
      canonicalComponentFromFolded piece = some canonical) ∨
    (∃ first second team role, (foldRoleInput tables value).splitOn 47 = [first, second] ∧
      canonicalComponentFromFolded first = some team ∧
      canonicalComponentFromFolded second = some role ∧ canonical = team ++ 47 :: role) := by
  unfold canonicalRoleSlot parseRoleSlot at hslot
  simp only at hslot
  split at hslot
  · cases hslot
  · split at hslot
    · rename_i role hparts
      obtain ⟨piece, rest, hsplit, hpiece, hrest⟩ := List.map_eq_cons_iff.mp hparts
      obtain rfl := List.map_eq_nil_iff.mp hrest
      cases hslot
      exact .inl ⟨piece, hsplit, hpiece⟩
    · rename_i team role hparts
      obtain ⟨first, rest, hsplit, hfirst, hrest⟩ := List.map_eq_cons_iff.mp hparts
      obtain ⟨second, others, rfl, hsecond, hothers⟩ := List.map_eq_cons_iff.mp hrest
      obtain rfl := List.map_eq_nil_iff.mp hothers
      cases hslot
      have hslash : js "/" = [47] := by decide
      exact .inr ⟨first, second, team, role, hsplit, hfirst, hsecond, by simp [hslash]⟩
    · cases hslot

/-! ## Canonical components -/

theorem canonicalComponent_eq_some {value component : JsString}
    (hcomponent : canonicalComponentFromFolded value = some component) :
    component = Text.replaceRuns isSeparator 45 (trim value) ∧
      isCanonicalComponent component = true := by
  unfold canonicalComponentFromFolded at hcomponent
  simp only at hcomponent
  split at hcomponent
  · rename_i hcanonical
    cases hcomponent
    exact ⟨rfl, hcanonical⟩
  · cases hcomponent

/-- A canonical component is not empty and holds capitals, digits and hyphens only. -/
theorem mem_canonicalComponent {component : JsString}
    (hcanonical : isCanonicalComponent component = true) :
    component ≠ [] ∧ ∀ unit ∈ component, isComponentUnit unit = true ∨ unit = 45 := by
  rw [isCanonicalComponent, List.all_eq_true] at hcanonical
  constructor
  · rintro rfl
    have hempty := hcanonical [] (by simp)
    cases hempty
  · intro unit hmem
    by_cases hhyphen : unit = 45
    · exact .inr hhyphen
    · obtain ⟨piece, hpiece, hunit⟩ := Text.exists_mem_splitOn hmem hhyphen
      have hrun := hcanonical piece hpiece
      simp only [Text.isRun, Bool.and_eq_true, List.all_eq_true] at hrun
      exact .inl (hrun.2 unit hunit)

/-- The characters of a canonical slot are fixed by every stage of the fold. -/
theorem slotUnit_fixed {unit : UInt16}
    (hunit : isComponentUnit unit = true ∨ unit = 45 ∨ unit = 47) :
    unit.toNat < 128 ∧ isSpace unit = false ∧ isZeroWidthOrFormat unit = false ∧
      foldHyphen unit = unit ∧ isSurrogate unit = false ∧ upperAscii unit.toNat = unit.toNat := by
  have hrange : (48 ≤ unit.toNat ∧ unit.toNat ≤ 57) ∨ (65 ≤ unit.toNat ∧ unit.toNat ≤ 90) ∨
      unit.toNat = 45 ∨ unit.toNat = 47 := by
    rcases hunit with hunit | rfl | rfl
    · simp only [isComponentUnit, isUpper, isDigit, Bool.or_eq_true, Bool.and_eq_true,
        decide_eq_true_eq] at hunit
      omega
    · exact .inr (.inr (.inl rfl))
    · exact .inr (.inr (.inr rfl))
  have hascii : unit.toNat < 128 := by omega
  refine ⟨hascii, ?_, ?_, ?_, ?_, ?_⟩
  · by_contra hspace
    have hle := isSpaceCode_of_lt hascii (by simpa [isSpace] using hspace)
    omega
  · simp only [isZeroWidthOrFormat, Bool.or_eq_false_iff, Bool.and_eq_false_iff,
      decide_eq_false_iff_not, beq_eq_false_iff_ne]
    omega
  · rw [foldHyphen, if_neg]
    rintro (heq | heq) <;> simp [heq] at hascii
  · simp only [isSurrogate, Bool.and_eq_false_iff, decide_eq_false_iff_not]
    omega
  · rw [upperAscii, if_neg (by omega)]

theorem componentUnit_slotUnit {unit : UInt16}
    (hunit : isComponentUnit unit = true ∨ unit = 45) :
    isComponentUnit unit = true ∨ unit = 45 ∨ unit = 47 :=
  hunit.imp_right .inl

theorem componentUnit_ne_slash {unit : UInt16}
    (hunit : isComponentUnit unit = true ∨ unit = 45) : unit ≠ 47 := by
  rintro rfl
  exact absurd hunit (by decide)

/-- Upper-casing keeps a text of canonical characters. -/
theorem toUpperCase_slot (hstandard : Standard tables) {text : JsString}
    (htext : ∀ unit ∈ text, isComponentUnit unit = true ∨ unit = 45 ∨ unit = 47) :
    toUpperCase tables text = text := by
  have hplain : ∀ unit ∈ text, isSurrogate unit = false :=
    fun unit hmem => (slotUnit_fixed (htext unit hmem)).2.2.2.2.1
  rw [toUpperCase, codePoints_of_forall_not hplain]
  induction text with
  | nil => rfl
  | cons head rest ih =>
      obtain ⟨hascii, -, -, -, -, hupper⟩ := slotUnit_fixed (htext head (by simp))
      have ih := ih (fun unit hmem => htext unit (List.mem_cons_of_mem _ hmem))
        (fun unit hmem => hplain unit (List.mem_cons_of_mem _ hmem))
      have hhead : (tables.upperOf head.toNat).flatMap utf16 = [head] := by
        rw [hstandard.upper_ascii _ hascii, hupper, List.flatMap_cons,
          utf16_of_lt (by omega)]
        simp
      rw [List.map_cons, List.flatMap_cons, hhead, ih]
      rfl

/-- A canonical slot is its own fold. -/
theorem foldRoleInput_slot (hstandard : Standard tables) {slot : JsString}
    (htext : ∀ unit ∈ slot, isComponentUnit unit = true ∨ unit = 45 ∨ unit = 47) :
    foldRoleInput tables slot = slot := by
  have hfixed := fun unit hmem => slotUnit_fixed (htext unit hmem)
  have hnfkc : tables.toNFKC slot = slot :=
    hstandard.nfkc_ascii slot (fun unit hmem => (hfixed unit hmem).1)
  have hfilter : slot.filter (fun unit => !isZeroWidthOrFormat unit) = slot :=
    List.filter_eq_self.mpr (fun unit hmem => by simp [(hfixed unit hmem).2.2.1])
  have hmap : slot.map foldHyphen = slot :=
    (List.map_congr_left (fun unit hmem => (hfixed unit hmem).2.2.2.1)).trans
      (List.map_id' slot)
  have hspaces : ∀ unit ∈ slot, isSpace unit = false :=
    fun unit hmem => (hfixed unit hmem).2.1
  rw [foldRoleInput, foldBeforeCase, foldVisible, hnfkc, hfilter, hmap,
    Text.replaceRuns_of_forall_not hspaces, trim, Text.trimBy_of_forall_not hspaces]
  exact toUpperCase_slot hstandard htext

/-- A canonical component is its own canonical form. -/
theorem canonicalComponent_canonical {value component : JsString}
    (hcomponent : canonicalComponentFromFolded value = some component) :
    canonicalComponentFromFolded component = some component := by
  obtain ⟨hreplaced, hcanonical⟩ := canonicalComponent_eq_some hcomponent
  obtain ⟨-, htext⟩ := mem_canonicalComponent hcanonical
  have htrim : trim component = component :=
    Text.trimBy_of_forall_not
      (fun unit hmem => (slotUnit_fixed (componentUnit_slotUnit (htext unit hmem))).2.1)
  have hagain : Text.replaceRuns isSeparator 45 component = component := by
    rw [hreplaced]
    exact Text.replaceRuns_replaceRuns (by decide) _
  rw [canonicalComponentFromFolded]
  simp only [htrim, hagain, hcanonical, if_true]

theorem canonicalComponent_no_slash {value component : JsString}
    (hcomponent : canonicalComponentFromFolded value = some component) :
    (47 : UInt16) ∉ component := by
  intro hmem
  obtain ⟨-, htext⟩ := mem_canonicalComponent (canonicalComponent_eq_some hcomponent).2
  exact componentUnit_ne_slash (htext 47 hmem) rfl

/-- Reading a canonical component again returns it. -/
theorem canonicalRoleComponent_canonical (hstandard : Standard tables)
    {value component : JsString}
    (hcomponent : canonicalComponentFromFolded value = some component) :
    canonicalRoleComponent tables (.string component) = some component := by
  obtain ⟨hnil, htext⟩ := mem_canonicalComponent (canonicalComponent_eq_some hcomponent).2
  have hslash := canonicalComponent_no_slash hcomponent
  rw [canonicalRoleComponent]
  simp only [foldRoleInput_slot hstandard fun unit hmem =>
    componentUnit_slotUnit (htext unit hmem)]
  rw [if_neg (by simp [hnil, hslash])]
  exact canonicalComponent_canonical hcomponent

/-- The folded component depends on the trim alone. -/
theorem canonicalComponent_congr {left right : JsString} (htrim : trim left = trim right) :
    canonicalComponentFromFolded left = canonicalComponentFromFolded right := by
  rw [canonicalComponentFromFolded, htrim, canonicalComponentFromFolded]

theorem canonicalComponent_nil : canonicalComponentFromFolded [] = none := by decide

/-! ## The slash -/

/-- The fold of a string with a slash in it is the folds of both sides. -/
theorem foldVisible_slash (hstandard : Standard tables) (left right : JsString) :
    foldVisible tables (left ++ 47 :: right) =
      foldVisible tables left ++ 47 :: foldVisible tables right := by
  have hkeep : isZeroWidthOrFormat 47 = false := by decide
  have hfold : foldHyphen 47 = 47 := by decide
  rw [foldVisible, hstandard.nfkc_slash, List.filter_append, List.map_append,
    List.filter_cons_of_pos (by simp [hkeep]), List.map_cons, hfold,
    Text.replaceRuns_append_cons (by decide)]
  rfl

theorem toUpperCase_append_cons (hstandard : Standard tables) (unit : UInt16)
    (hascii : unit.toNat < 128) (hfixed : upperAscii unit.toNat = unit.toNat)
    (left right : JsString) :
    toUpperCase tables (left ++ unit :: right) =
      toUpperCase tables left ++ unit :: toUpperCase tables right := by
  have hplain : isSurrogate unit = false := by
    simp only [isSurrogate, Bool.and_eq_false_iff, decide_eq_false_iff_not]
    omega
  have hunit : (tables.upperOf unit.toNat).flatMap utf16 = [unit] := by
    rw [hstandard.upper_ascii _ hascii, hfixed, List.flatMap_cons, utf16_of_lt (by omega)]
    simp
  rw [toUpperCase, codePoints_append_cons hplain, List.flatMap_append, List.flatMap_cons, hunit]
  rfl

/-- Blanks of the fold stand in front of what is upper-cased behind them. -/
theorem toUpperCase_blanks (hstandard : Standard tables) {front : JsString}
    (hfront : ∀ unit ∈ front, unit = 32) (text : JsString) :
    toUpperCase tables (front ++ text) = front ++ toUpperCase tables text := by
  induction front with
  | nil => rfl
  | cons head rest ih =>
      obtain rfl := hfront head (by simp)
      have hhead := toUpperCase_append_cons hstandard 32 (by decide) (by decide) []
        (rest ++ text)
      rw [List.nil_append] at hhead
      rw [List.cons_append, hhead, ih (fun unit hmem => hfront unit (List.mem_cons_of_mem _ hmem))]
      rfl

theorem visibleSlot_of_not_mem {role : JsString} (hrole : (47 : UInt16) ∉ role) :
    visibleSlot role = role := by
  rw [visibleSlot, List.splitOn_eq_singleton hrole]
  rfl

theorem visibleSlot_append_cons (left : JsString) {right : JsString}
    (hright : (47 : UInt16) ∉ right) : visibleSlot (left ++ 47 :: right) = right := by
  rw [visibleSlot, List.splitOn_append_cons_self, List.splitOn_eq_singleton hright]
  simp

/-- The last slash of a string. -/
theorem exists_last_slash {role : JsString} (hrole : (47 : UInt16) ∈ role) :
    ∃ left right, role = left ++ 47 :: right ∧ (47 : UInt16) ∉ right := by
  obtain ⟨front, back, hsplit, hfront⟩ :=
    List.eq_append_cons_of_mem (List.mem_reverse.mpr hrole)
  refine ⟨back.reverse, front.reverse, ?_, by simpa using hfront⟩
  rw [← List.reverse_reverse role, hsplit]
  simp

theorem not_mem_of_splitOn_eq_singleton {text piece : JsString}
    (hsplit : text.splitOn 47 = [piece]) : text = piece ∧ (47 : UInt16) ∉ piece := by
  have htext : [(47 : UInt16)].intercalate (text.splitOn 47) = text := List.intercalate_splitOn 47
  rw [hsplit] at htext
  refine ⟨by simpa using htext.symm, fun hmem => ?_⟩
  exact (Text.mem_of_mem_splitOn (by rw [hsplit]; exact List.mem_singleton_self piece) hmem).2 rfl

/-- Behind a raw slash, the kind and the slot read the same component. -/
theorem canonicalRoleComponent_visible (hstandard : Standard tables) {left right : JsString}
    {canonical : JsString}
    (hslot : canonicalRoleSlot tables (.string (left ++ 47 :: right)) = some canonical) :
    ∃ team role, canonical = team ++ 47 :: role ∧ (47 : UInt16) ∉ role ∧
      canonicalRoleComponent tables (.string right) = some role ∧
      canonicalRoleComponent tables (.string role) = some role := by
  have hfold : foldRoleInput tables (left ++ 47 :: right) =
      toUpperCase tables ((foldVisible tables left).dropWhile isSpace) ++
        47 :: toUpperCase tables ((foldVisible tables right).rdropWhile isSpace) := by
    rw [foldRoleInput, foldBeforeCase, foldVisible_slash hstandard, trim,
      Text.trimBy_append_cons (by decide),
      toUpperCase_append_cons hstandard 47 (by decide) (by decide)]
  obtain ⟨front, hblanks, hfrontMem, hfront⟩ :=
    Text.exists_rdropWhile_eq isSpace (foldVisible tables right)
  have hthirtyTwo : ∀ unit ∈ front, unit = 32 := by
    intro unit hunit
    rcases Text.mem_replaceRuns (hfrontMem unit hunit) with heq | ⟨-, hspace⟩
    · exact heq
    · rw [hblanks unit hunit] at hspace
      cases hspace
  have hback : toUpperCase tables ((foldVisible tables right).rdropWhile isSpace) =
      front ++ foldRoleInput tables right := by
    rw [hfront, toUpperCase_blanks hstandard hthirtyTwo]
    rfl
  rw [hback] at hfold
  have hsplit := congrArg (List.splitOn 47) hfold
  rw [List.splitOn_append_cons_self] at hsplit
  obtain ⟨firstLeft, restLeft, hleft⟩ := List.exists_cons_of_ne_nil (List.splitOn_ne_nil 47
    (toUpperCase tables ((foldVisible tables left).dropWhile isSpace)))
  obtain ⟨firstRight, restRight, hright⟩ := List.exists_cons_of_ne_nil (List.splitOn_ne_nil 47
    (front ++ foldRoleInput tables right))
  rw [hleft, hright] at hsplit
  rcases canonicalRoleSlot_eq_some hslot with ⟨piece, hone, -⟩ |
    ⟨first, second, team, role, htwo, -, hrole, rfl⟩
  · rw [hone] at hsplit
    simp at hsplit
  · -- Two pieces in all: one on either side of the slash.
    rw [htwo] at hsplit
    obtain ⟨rfl, rfl⟩ : restLeft = [] ∧ restRight = [] := by
      have hlength := congrArg List.length hsplit
      simp only [List.length_cons, List.length_nil, List.length_append] at hlength
      exact ⟨List.length_eq_zero_iff.mp (by omega), List.length_eq_zero_iff.mp (by omega)⟩
    obtain ⟨-, rfl⟩ : first = firstLeft ∧ second = firstRight := by simpa using hsplit
    obtain ⟨hsecond, hslash⟩ := not_mem_of_splitOn_eq_singleton hright
    have htrim : trim second = trim (foldRoleInput tables right) := by
      rw [← hsecond]
      exact Text.trimBy_append_of_forall hblanks _
    rw [canonicalComponent_congr htrim] at hrole
    have hempty : foldRoleInput tables right ≠ [] := by
      intro hempty
      rw [hempty, canonicalComponent_nil] at hrole
      cases hrole
    have hnot : (47 : UInt16) ∉ foldRoleInput tables right := by
      intro hmem
      rw [← hsecond] at hslash
      exact hslash (List.mem_append_right _ hmem)
    refine ⟨team, role, rfl, canonicalComponent_no_slash hrole, ?_,
      canonicalRoleComponent_canonical hstandard hrole⟩
    rw [canonicalRoleComponent, if_neg (by simp [hempty, hnot]), hrole]

/-- Without a raw slash, the kind reads the slot's only component or nothing. -/
theorem canonicalRoleComponent_plain (hstandard : Standard tables) {value canonical : JsString}
    (hslot : canonicalRoleSlot tables (.string value) = some canonical) :
    ((47 : UInt16) ∉ canonical ∧ canonicalRoleComponent tables (.string value) = some canonical ∧
      canonicalRoleComponent tables (.string canonical) = some canonical) ∨
    (∃ team role, canonical = team ++ 47 :: role ∧ (47 : UInt16) ∉ role ∧
      canonicalRoleComponent tables (.string value) = none ∧
      canonicalRoleComponent tables (.string role) = some role) := by
  rcases canonicalRoleSlot_eq_some hslot with ⟨piece, hone, hcomponent⟩ |
    ⟨first, second, team, role, htwo, -, hrole, rfl⟩
  · obtain ⟨hfolded, hslash⟩ := not_mem_of_splitOn_eq_singleton hone
    have hempty : piece ≠ [] := by
      rintro rfl
      rw [canonicalComponent_nil] at hcomponent
      cases hcomponent
    refine .inl ⟨canonicalComponent_no_slash hcomponent, ?_, canonicalRoleComponent_canonical hstandard hcomponent⟩
    rw [canonicalRoleComponent]
    simp only [hfolded]
    rw [if_neg (by simp [hempty, hslash]), hcomponent]
  · have hslash : (47 : UInt16) ∈ foldRoleInput tables value := by
      by_contra hnot
      rw [List.splitOn_eq_singleton hnot] at htwo
      simp at htwo
    refine .inr ⟨team, role, rfl, canonicalComponent_no_slash hrole, ?_,
      canonicalRoleComponent_canonical hstandard hrole⟩
    rw [canonicalRoleComponent, if_pos (.inr hslash)]

/-! ## Kind and slot -/

theorem kindOfNormalized_ne_nil {normalized : JsString} (hnil : normalized ≠ []) :
    kindOfNormalized normalized ≠ [] := by
  rw [kindOfNormalized]
  split_ifs <;> first | decide | exact hnil

theorem canonicalRoleComponent_ne_nil {value component : JsString}
    (hcomponent : canonicalRoleComponent tables (.string value) = some component) :
    component ≠ [] := by
  rw [canonicalRoleComponent] at hcomponent
  split at hcomponent
  · cases hcomponent
  · exact (mem_canonicalComponent (canonicalComponent_eq_some hcomponent).2).1

/-- The kind of a readable slot is the kind of its canonical form exactly when
the slash of the slot, if it has one, stands in the raw string. -/
theorem roleKindOf_eq_iff (hstandard : Standard tables) {value canonical : JsString}
    (hslot : canonicalRoleSlot tables (.string value) = some canonical) :
    roleKindOf tables value = roleKindOf tables canonical ↔
      ((47 : UInt16) ∈ canonical → (47 : UInt16) ∈ value) := by
  by_cases hraw : (47 : UInt16) ∈ value
  · obtain ⟨left, right, rfl, hright⟩ := exists_last_slash hraw
    obtain ⟨team, role, rfl, hnot, hvisible, hrole⟩ :=
      canonicalRoleComponent_visible hstandard hslot
    have hkind : roleKindOf tables (left ++ 47 :: right) =
        roleKindOf tables (team ++ 47 :: role) := by
      rw [roleKindOf, visibleSlot_append_cons left hright, hvisible, roleKindOf,
        visibleSlot_append_cons team hnot, hrole]
    simp [hkind]
  · rcases canonicalRoleComponent_plain hstandard hslot with ⟨hplain, hvalue, hcanonical⟩ |
      ⟨team, role, rfl, hnot, hnone, hrole⟩
    · have hkind : roleKindOf tables value = roleKindOf tables canonical := by
        rw [roleKindOf, visibleSlot_of_not_mem hraw, hvalue, roleKindOf,
          visibleSlot_of_not_mem hplain, hcanonical]
      simp [hkind, hplain]
    · have hvalue : roleKindOf tables value = [] := by
        rw [roleKindOf, visibleSlot_of_not_mem hraw, hnone]
        decide
      have hne : roleKindOf tables (team ++ 47 :: role) ≠ [] := by
        rw [roleKindOf, visibleSlot_append_cons team hnot, hrole]
        refine kindOfNormalized_ne_nil ?_
        simpa [underscored] using canonicalRoleComponent_ne_nil hrole
      simp [hvalue, hraw, Ne.symm hne]

end OdinSentinel.RoleIdentity
