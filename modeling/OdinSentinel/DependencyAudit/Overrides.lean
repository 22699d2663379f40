import OdinSentinel.DependencyAudit.Workspace

/-!
# What a workspace text overrides

The block of overrides as its lines say it: from its header up to the first line at the margin
that is no comment, each line that names a package and a range, the last one for a package.
-/

namespace OdinSentinel.DependencyAudit

open JsText Regex Validators

variable {line name value rest : JsString}

/-! ## Lines -/

/-- `overrides:`, with nothing but blanks behind it. -/
def IsHeader (line : JsString) : Prop :=
  ∃ blanks, line = js "overrides:" ++ blanks ∧ ∀ unit ∈ blanks, isSpace unit = true

/-- Blanks, with nothing but a comment of one line behind them. -/
def IsRemark (line : JsString) : Prop :=
  ∃ blanks comment, line = blanks ++ comment ∧ (∀ unit ∈ blanks, isSpace unit = true) ∧
    (comment = [] ∨ ∃ words, comment = 35 :: words ∧ ∀ unit ∈ words, isDot unit = true)

/-- A line that ends a block: it is no header and no remark and starts at the margin. -/
def Ends (line : JsString) : Prop :=
  ¬IsHeader line ∧ ¬IsRemark line ∧ ∃ unit ∈ line.head?, isSpace unit = false

/-- A unit of a package name as it stands in a block. -/
def isNameUnit (unit : UInt16) : Bool := !(isOneOf (js ":#") unit || isSpace unit)

/-- The value behind a colon: what stands between the blanks, or the last blank where nothing
does. -/
def IsValue (rest value : JsString) : Prop :=
  (∀ unit ∈ value, isDot unit = true) ∧
    (trim rest ≠ [] ∧ value = trim rest ∨
      trim rest = [] ∧ ∃ front unit back, rest = front ++ unit :: back ∧ value = [unit] ∧
        ∀ other ∈ back, isDot other = false)

/-- An indented line with a name, a colon and a value. -/
def IsSetting (line name value : JsString) : Prop :=
  ∃ margin gap rest, line = margin ++ (name ++ (gap ++ 58 :: rest)) ∧
    margin ≠ [] ∧ (∀ unit ∈ margin, isSpace unit = true) ∧
    name ≠ [] ∧ (∀ unit ∈ name, isNameUnit unit = true) ∧
    (∀ unit ∈ gap, isSpace unit = true) ∧ IsValue rest value

/-- A line that overrides a package with a range. -/
def Sets (line package range : JsString) : Prop :=
  ∃ name value, IsSetting line name value ∧ package = unquote name ∧ range = unquote value

/-- The range that the last line of a text's block that names a package gives it. -/
def AppliesOverride (text package range : JsString) : Prop :=
  ∃ before header block behind, text.splitOn 10 = before ++ header :: (block ++ behind) ∧
    (∀ line ∈ before, ¬IsHeader line) ∧ IsHeader header ∧
    (∀ line ∈ block, ¬Ends line) ∧ (∀ line ∈ behind.head?, Ends line) ∧
    ∃ earlier line later, block = earlier ++ line :: later ∧ Sets line package range ∧
      ∀ other ∈ later, ∀ range, ¬Sets other package range

/-! ## Headers and remarks -/

theorem overridesHeader_iff : overridesHeader.test line = true ↔ IsHeader line := by
  refine (test_whole [exactly (js "overrides:"), .many 0 isSpace] line).trans ?_
  constructor
  · rintro ⟨_, middle, hname, _, ⟨blanks, -, hblanks, hrest, -⟩, hend⟩
    cases hend
    refine ⟨blanks, ?_, hblanks⟩
    rw [← List.append_nil blanks, ← hrest]
    exact (literal_matches.mp hname).1
  · rintro ⟨blanks, rfl, hblanks⟩
    exact ⟨_, ⟨_, blanks⟩, literal_matches.mpr ⟨rfl, rfl⟩, ⟨_, []⟩,
      ⟨blanks, Nat.zero_le _, hblanks, (List.append_nil blanks).symm, rfl⟩, rfl⟩

theorem blankOrComment_iff : blankOrComment.test line = true ↔ IsRemark line := by
  refine (test_whole
    [.many 0 isSpace, .maybe (.both (.one (· == 35)) (.many 0 isDot))] line).trans ?_
  constructor
  · rintro ⟨_, middle, ⟨blanks, -, hblanks, hline, -⟩, _, hcomment, hend⟩
    cases hend
    refine ⟨blanks, middle.rest, hline, hblanks, ?_⟩
    rcases hcomment with ⟨_, ⟨sign, hsign, hrest, -⟩, words, -, hwords, hmiddle, -⟩ | hnone
    · right
      refine ⟨words, ?_, hwords⟩
      rw [hrest, eq_of_beq hsign, hmiddle, List.append_nil]
    · left
      rw [← hnone]
  · rintro ⟨blanks, comment, rfl, hblanks, rfl | ⟨words, rfl, hwords⟩⟩
    · exact ⟨_, ⟨_, []⟩, ⟨blanks, Nat.zero_le _, hblanks, rfl, rfl⟩, _, .inr rfl, rfl⟩
    · exact ⟨_, ⟨_, 35 :: words⟩, ⟨blanks, Nat.zero_le _, hblanks, rfl, rfl⟩, ⟨_, []⟩,
        .inl ⟨⟨_, words⟩, ⟨35, rfl, rfl, rfl⟩, words, Nat.zero_le _, hwords,
          (List.append_nil words).symm, rfl⟩, rfl⟩

/-! ## Values -/

/-- A text that ends in something is its own shortest value, on one line. -/
theorem shortestValue_append {blanks : JsString} (hlast : ∃ last ∈ value.getLast?, isSpace last = false)
    (hblanks : ∀ unit ∈ blanks, isSpace unit = true) :
    shortestValue (value ++ blanks) = if value.all isDot then some value else none := by
  induction value with
  | nil => simp at hlast
  | cons unit value ih =>
      rw [List.cons_append, shortestValue, List.all_cons]
      cases hdot : isDot unit with
      | false => simp
      | true =>
          cases value with
          | nil => simp [List.all_eq_true.mpr hblanks]
          | cons next value =>
              have hmore : ∃ last ∈ (next :: value).getLast?, isSpace last = false := by
                rw [List.getLast?_cons_cons] at hlast
                exact hlast
              have hsome : ((next :: value) ++ blanks).all isSpace = false := by
                obtain ⟨last, hmem, hspace⟩ := hmore
                apply List.all_eq_false.mpr
                refine ⟨last, List.mem_append_left _ (List.mem_of_getLast? hmem), ?_⟩
                rw [hspace]
                exact Bool.false_ne_true
              rw [hsome, ih hmore]
              by_cases hall : (next :: value).all isDot = true <;> simp [hall]

/-- What the blanks behind a colon leave for the value. -/
def valueOf (before : Option UInt16) (rest : JsString) : Option JsString :=
  runMany isSpace (fun cursor => shortestValue cursor.rest) 0 before rest

/-- Blanks alone leave the last of them that is no line terminator. -/
theorem valueOf_blank {before : Option UInt16} (hblank : ∀ unit ∈ rest, isSpace unit = true) :
    valueOf before rest = (rest.reverse.find? isDot).map fun unit => [unit] := by
  induction rest generalizing before with
  | nil => rfl
  | cons unit rest ih =>
      obtain ⟨hunit, hrest⟩ := List.forall_mem_cons.mp hblank
      have hhere : shortestValue (unit :: rest) = if isDot unit then some [unit] else none := by
        rw [shortestValue, List.all_eq_true.mpr hrest]
        rfl
      have hlater : runMany isSpace (fun cursor => shortestValue cursor.rest) 0 (some unit) rest =
          (rest.reverse.find? isDot).map fun unit => [unit] := ih hrest
      rw [valueOf, runMany, if_pos hunit, Nat.zero_sub, hlater, if_pos rfl, hhere,
        List.reverse_cons, List.find?_append, List.find?_singleton]
      cases rest.reverse.find? isDot <;> cases isDot unit <;> rfl

/-- A text between blanks. -/
theorem exists_trim (rest : JsString) : ∃ front back, rest = front ++ (trim rest ++ back) ∧
    (∀ unit ∈ front, isSpace unit = true) ∧ ∀ unit ∈ back, isSpace unit = true := by
  refine ⟨rest.takeWhile isSpace, ((rest.dropWhile isSpace).reverse.takeWhile isSpace).reverse,
    ?_, fun unit hunit => List.mem_takeWhile_imp hunit, ?_⟩
  · have hback : trim rest ++ ((rest.dropWhile isSpace).reverse.takeWhile isSpace).reverse =
        rest.dropWhile isSpace := by
      change ((rest.dropWhile isSpace).reverse.dropWhile isSpace).reverse ++ _ = _
      rw [← List.reverse_append, List.takeWhile_append_dropWhile, List.reverse_reverse]
    rw [hback, List.takeWhile_append_dropWhile]
  · intro unit hunit
    exact List.mem_takeWhile_imp (List.mem_reverse.mp hunit)

theorem trim_last (hsome : trim rest ≠ []) :
    ∃ last ∈ (trim rest).getLast?, isSpace last = false := by
  refine ⟨(trim rest).getLast hsome, List.getLast?_eq_some_getLast hsome, ?_⟩
  have hself : trim (trim rest) = trim rest := Text.trimBy_trimBy isSpace rest
  have hends := Text.trimBy_eq_self_iff.mp hself
  exact hends.2 _ (List.getLast?_eq_some_getLast hsome)

theorem trim_head {unit : UInt16} (hunit : unit ∈ (trim rest).head?) : isSpace unit = false := by
  have hself : trim (trim rest) = trim rest := Text.trimBy_trimBy isSpace rest
  exact (Text.trimBy_eq_self_iff.mp hself).1 unit hunit

/-- What stands between blanks is the value. -/
theorem valueOf_trim {before : Option UInt16} (hsome : trim rest ≠ []) :
    valueOf before rest = if (trim rest).all isDot then some (trim rest) else none := by
  obtain ⟨front, back, hrest, hfront, hback⟩ := exists_trim rest
  have hhead : ∀ unit ∈ (trim rest ++ back).head?, isSpace unit = false := by
    intro unit hunit
    rw [List.head?_append_of_ne_nil _ hsome] at hunit
    exact trim_head hunit
  have hends := trim_last hsome
  have hvalue := shortestValue_append hends hback
  generalize trim rest = value at *
  subst hrest
  split_ifs with hall
  · rw [if_pos hall] at hvalue
    exact runMany_longest hfront hhead (Nat.zero_le _) hvalue
  · rw [Option.eq_none_iff_forall_ne_some]
    intro found hfound
    -- Blanks in front of the value do not help.
    obtain ⟨stop, ⟨taken, -, htaken, hsplit, -⟩, hstop⟩ := runMany_eq_some hfound
    dsimp only at hsplit hstop
    obtain ⟨more, hmore⟩ : ∃ more, stop.rest = more ++ (value ++ back) := by
      rcases List.append_eq_append_iff.mp hsplit.symm with ⟨more, -, hmore⟩ | ⟨more, htakenEq, hmore⟩
      · exact ⟨more, hmore⟩
      · cases more with
        | nil => exact ⟨[], hmore.symm⟩
        | cons unit more =>
            have hunit : isSpace unit = false := by
              apply hhead unit
              rw [hmore]
              rfl
            rw [htaken unit (by rw [htakenEq]; simp)] at hunit
            cases hunit
    have hlast : ∃ last ∈ (more ++ value).getLast?, isSpace last = false := by
      obtain ⟨last, hmem, hspace⟩ := hends
      refine ⟨last, ?_, hspace⟩
      rw [List.getLast?_append, hmem]
      rfl
    rw [hmore, ← List.append_assoc, shortestValue_append hlast hback, List.all_append,
      Bool.eq_false_iff.mpr hall, Bool.and_false] at hstop
    cases hstop

theorem valueOf_eq_some {before : Option UInt16} :
    valueOf before rest = some value ↔ IsValue rest value := by
  by_cases hblank : trim rest = []
  · rw [valueOf_blank ((trim_eq_nil_iff rest).mp hblank), Option.map_eq_some_iff]
    simp only [List.find?_eq_some_iff_append, IsValue, hblank, ne_eq, not_true_eq_false, false_and,
      true_and, false_or]
    constructor
    · rintro ⟨unit, ⟨hdot, back, front, hsplit, hback⟩, rfl⟩
      refine ⟨List.forall_mem_singleton.mpr hdot, front.reverse, unit, back.reverse, ?_, rfl, ?_⟩
      · rw [← List.reverse_reverse rest, hsplit]
        simp
      · intro other hother
        simpa using hback other (List.mem_reverse.mp hother)
    · rintro ⟨hdot, front, unit, back, rfl, rfl, hback⟩
      refine ⟨unit, ⟨hdot unit List.mem_cons_self, back.reverse, front.reverse, ?_, ?_⟩, rfl⟩
      · simp
      · intro other hother
        simp [hback other (List.mem_reverse.mp hother)]
  · rw [valueOf_trim hblank]
    simp only [IsValue, hblank, ne_eq, not_false_eq_true, true_and, false_and, or_false,
      Option.ite_none_right_eq_some, Option.some.injEq, List.all_eq_true]
    constructor
    · rintro ⟨hall, rfl⟩
      exact ⟨hall, rfl⟩
    · rintro ⟨hall, rfl⟩
      exact ⟨hall, rfl⟩

/-! ## Settings -/

theorem not_isSpace_of_isNameUnit {unit : UInt16} (hname : isNameUnit unit = true) :
    isSpace unit = false := by
  rw [isNameUnit, Bool.not_eq_true', Bool.or_eq_false_iff] at hname
  exact hname.2

theorem ne_colon_of_isNameUnit {unit : UInt16} (hname : isNameUnit unit = true) :
    (unit == 58) = false := by
  rw [beq_eq_false_iff_ne]
  rintro rfl
  cases hname

theorem not_isNameUnit_of_isSpace {unit : UInt16} (hspace : isSpace unit = true) :
    isNameUnit unit = false := by
  rw [isNameUnit, hspace, Bool.or_true, Bool.not_true]

theorem ne_colon_of_isSpace {unit : UInt16} (hspace : isSpace unit = true) :
    (unit == 58) = false := by
  rw [beq_eq_false_iff_ne]
  rintro rfl
  cases hspace

/-- What stands behind the colon that a text starts with. -/
def valueBehind (text : JsString) : Option JsString :=
  match text with
  | [] => none
  | colon :: rest => if colon == 58 then valueOf (some colon) rest else none

theorem valueBehind_of_ne (hcolon : ∀ unit ∈ rest.head?, (unit == 58) = false) :
    valueBehind rest = none := by
  cases rest with
  | nil => rfl
  | cons unit rest =>
      rw [valueBehind, hcolon unit rfl]
      rfl

theorem overrideLine_eq : overrideLine line =
    runMany isSpace (fun start => runMany isNameUnit (fun stop => runMany isSpace (fun colon =>
      (valueBehind colon.rest).map fun value =>
        (start.rest.take (start.rest.length - stop.rest.length), value))
      0 stop.before stop.rest) 1 start.before start.rest) 1 none line := by
  have hcolon : ∀ (make : JsString → JsString × JsString) (colon : Cursor UInt16),
      (valueBehind colon.rest).map make =
        (Pattern.all [.one (· == 58), .many 0 isSpace]).run colon fun valueStart =>
          (shortestValue valueStart.rest).map make := by
    intro make colon
    obtain ⟨before, text⟩ := colon
    cases text with
    | nil => rfl
    | cons unit text =>
        change (if (unit == 58) = true then valueOf (some unit) text else none).map make =
          if (unit == 58) = true then
            runMany isSpace (fun cursor => (shortestValue cursor.rest).map make) 0 (some unit) text
          else none
        rw [runMany_map make, apply_ite (Option.map make)]
        rfl
  simp only [hcolon]
  rfl

/-- The matcher takes margin, name and gap whole. -/
theorem overrideLine_pieces {margin gap : JsString}
    (hmargin : ∀ unit ∈ margin, isSpace unit = true)
    (hname : ∀ unit ∈ name, isNameUnit unit = true) (hgap : ∀ unit ∈ gap, isSpace unit = true)
    (hmarginEnds : ∀ unit ∈ (name ++ (gap ++ rest)).head?, isSpace unit = false)
    (hnameEnds : ∀ unit ∈ (gap ++ rest).head?, isNameUnit unit = false)
    (hgapEnds : ∀ unit ∈ rest.head?, isSpace unit = false) :
    overrideLine (margin ++ (name ++ (gap ++ rest))) =
      if 1 ≤ margin.length then
        if 1 ≤ name.length then (valueBehind rest).map fun value => (name, value) else none
      else none := by
  have htaken : (name ++ (gap ++ rest)).take
      ((name ++ (gap ++ rest)).length - (gap ++ rest).length) = name := by
    rw [List.length_append, Nat.add_sub_cancel, List.take_left]
  rw [overrideLine_eq, runMany_decided ?_ hmargin hmarginEnds]
  · congr 1
    rw [runMany_decided ?_ hname hnameEnds]
    · congr 1
      rw [runMany_decided ?_ hgap hgapEnds, if_pos (Nat.zero_le _), htaken]
      -- A blank is no colon.
      intro colon unit hunit hspace
      rw [valueBehind_of_ne, Option.map_none]
      intro other hother
      rw [Option.mem_unique hother hunit]
      exact ne_colon_of_isSpace hspace
    · -- A unit of a name is neither a blank nor a colon.
      intro stop unit hunit hunitName
      rw [runMany_stops, if_pos rfl, valueBehind_of_ne, Option.map_none]
      · intro other hother
        rw [Option.mem_unique hother hunit]
        exact ne_colon_of_isNameUnit hunitName
      · intro other hother
        rw [Option.mem_unique hother hunit]
        exact not_isSpace_of_isNameUnit hunitName
  · -- No name starts with a blank.
    intro start unit hunit hspace
    rw [runMany_stops, if_neg Nat.one_ne_zero]
    intro other hother
    rw [Option.mem_unique hother hunit]
    exact not_isNameUnit_of_isSpace hspace

theorem valueBehind_eq_some : valueBehind rest = some value ↔
    ∃ behind, rest = 58 :: behind ∧ IsValue behind value := by
  cases rest with
  | nil => simp [valueBehind]
  | cons colon behind =>
      rw [valueBehind, Option.ite_none_right_eq_some, beq_iff_eq, valueOf_eq_some]
      constructor
      · rintro ⟨rfl, hvalue⟩
        exact ⟨behind, rfl, hvalue⟩
      · rintro ⟨other, hother, hvalue⟩
        obtain ⟨rfl, rfl⟩ := List.cons.inj hother
        exact ⟨rfl, hvalue⟩

theorem overrideLine_eq_some : overrideLine line = some (name, value) ↔
    IsSetting line name value := by
  constructor
  · intro hline
    obtain ⟨margin, behindMargin, rfl, hmargin, hmarginEnds⟩ :=
      Text.exists_span (isSpace · = true) line
    obtain ⟨found, behindName, rfl, hfound, hnameEnds⟩ :=
      Text.exists_span (isNameUnit · = true) behindMargin
    obtain ⟨gap, rest, rfl, hgap, hgapEnds⟩ := Text.exists_span (isSpace · = true) behindName
    simp only [Bool.not_eq_true] at hmarginEnds hnameEnds hgapEnds
    rw [overrideLine_pieces hmargin hfound hgap hmarginEnds hnameEnds hgapEnds] at hline
    split_ifs at hline with hmarginSome hnameSome
    obtain ⟨kept, hkept, hpair⟩ := Option.map_eq_some_iff.mp hline
    obtain ⟨rfl, rfl⟩ := Prod.mk.inj hpair
    obtain ⟨behind, rfl, hvalue⟩ := valueBehind_eq_some.mp hkept
    exact ⟨margin, gap, behind, rfl, List.length_pos_iff.mp hmarginSome, hmargin,
      List.length_pos_iff.mp hnameSome, hfound, hgap, hvalue⟩
  · rintro ⟨margin, gap, rest, rfl, hmargin, hmarginSpace, hname, hnameUnits, hgap, hvalue⟩
    have hmarginEnds : ∀ unit ∈ (name ++ (gap ++ 58 :: rest)).head?, isSpace unit = false := by
      intro unit hunit
      rw [List.head?_append_of_ne_nil _ hname] at hunit
      exact not_isSpace_of_isNameUnit (hnameUnits unit (List.mem_of_head? hunit))
    have hnameEnds : ∀ unit ∈ (gap ++ 58 :: rest).head?, isNameUnit unit = false := by
      intro unit hunit
      cases gap with
      | nil =>
          obtain rfl : 58 = unit := Option.some.inj hunit
          rfl
      | cons blank gap =>
          obtain rfl : blank = unit := Option.some.inj hunit
          exact not_isNameUnit_of_isSpace (hgap blank List.mem_cons_self)
    have hgapEnds : ∀ unit ∈ (58 :: rest).head?, isSpace unit = false := by
      intro unit hunit
      obtain rfl : 58 = unit := Option.some.inj hunit
      rfl
    have hmarginSome : 1 ≤ margin.length := List.length_pos_iff.mpr hmargin
    have hnameSome : 1 ≤ name.length := List.length_pos_iff.mpr hname
    rw [overrideLine_pieces hmarginSpace hnameUnits hgap hmarginEnds hnameEnds hgapEnds,
      if_pos hmarginSome, if_pos hnameSome, valueBehind_eq_some.mpr ⟨rest, rfl, hvalue⟩]
    rfl

/-! ## Blocks -/

/-- What a line overrides. -/
def settingOf (line : JsString) : Option (JsString × JsString) :=
  (overrideLine line).map fun setting => (unquote setting.1, unquote setting.2)

theorem settingOf_eq_some {package range : JsString} :
    settingOf line = some (package, range) ↔ Sets line package range := by
  rw [settingOf, Option.map_eq_some_iff]
  constructor
  · rintro ⟨⟨name, value⟩, hline, hpair⟩
    obtain ⟨hpackage, hrange⟩ := Prod.mk.inj hpair
    exact ⟨name, value, overrideLine_eq_some.mp hline, hpackage.symm, hrange.symm⟩
  · rintro ⟨name, value, hline, rfl, rfl⟩
    exact ⟨(name, value), overrideLine_eq_some.mpr hline, rfl⟩

/-- A line overrides nothing where the first unit behind its margin is no unit of a name. -/
theorem settingOf_eq_none {margin : JsString} (hmargin : ∀ unit ∈ margin, isSpace unit = true)
    (hrest : ∀ unit ∈ rest.head?, isSpace unit = false ∧ isNameUnit unit = false) :
    settingOf (margin ++ rest) = none := by
  have hline : overrideLine (margin ++ rest) = _ :=
    @overrideLine_pieces [] rest margin [] hmargin (by simp) (by simp)
      (fun unit hunit => (hrest unit hunit).1) (fun unit hunit => (hrest unit hunit).2)
      (fun unit hunit => (hrest unit hunit).1)
  rw [settingOf, hline, List.length_nil, if_neg (Nat.not_succ_le_zero 0), ite_self]
  rfl

/-- A line without a margin overrides nothing. -/
theorem settingOf_margin (hline : ∀ unit ∈ line.head?, isSpace unit = false) :
    settingOf line = none := by
  rw [settingOf, overrideLine_eq, runMany_stops hline, if_neg Nat.one_ne_zero]
  rfl

theorem IsHeader.settingOf (hheader : IsHeader line) : settingOf line = none := by
  obtain ⟨blanks, rfl, -⟩ := hheader
  apply settingOf_margin
  intro unit hunit
  obtain rfl : 111 = unit := Option.some.inj hunit
  rfl

theorem IsRemark.settingOf (hremark : IsRemark line) : settingOf line = none := by
  obtain ⟨blanks, comment, rfl, hblanks, rfl | ⟨words, rfl, -⟩⟩ := hremark
  · exact settingOf_eq_none hblanks (by simp)
  · apply settingOf_eq_none hblanks
    intro unit hunit
    obtain rfl : 35 = unit := Option.some.inj hunit
    exact ⟨rfl, rfl⟩

theorem head_any_iff : line.head?.any (fun unit => !isSpace unit) = true ↔
    ∃ unit ∈ line.head?, isSpace unit = false := by
  rw [Option.any_eq_true]
  simp only [Bool.not_eq_true', Option.mem_def]

theorem readOverrides_ends {overrides : Overrides} {lines : List JsString} (hends : Ends line) :
    readOverrides true overrides (line :: lines) = overrides := by
  obtain ⟨hheader, hremark, hmargin⟩ := hends
  rw [readOverrides, if_neg (mt overridesHeader_iff.mp hheader), Bool.not_true,
    if_neg Bool.false_ne_true, if_neg (mt blankOrComment_iff.mp hremark),
    if_pos (head_any_iff.mpr hmargin)]

theorem readOverrides_goes_on {overrides : Overrides} {lines : List JsString}
    (hends : ¬Ends line) : readOverrides true overrides (line :: lines) =
      readOverrides true ((settingOf line).toList ++ overrides) lines := by
  rw [readOverrides]
  by_cases hheader : IsHeader line
  · rw [if_pos (overridesHeader_iff.mpr hheader), hheader.settingOf]
    rfl
  rw [if_neg (mt overridesHeader_iff.mp hheader), Bool.not_true, if_neg Bool.false_ne_true]
  by_cases hremark : IsRemark line
  · rw [if_pos (blankOrComment_iff.mpr hremark), hremark.settingOf]
    rfl
  · rw [if_neg (mt blankOrComment_iff.mp hremark),
      if_neg fun hmargin => hends ⟨hheader, hremark, head_any_iff.mp hmargin⟩, settingOf]
    cases overrideLine line <;> rfl

/-- The block is read to its end. -/
theorem readOverrides_block {overrides : Overrides} {block behind : List JsString}
    (hblock : ∀ line ∈ block, ¬Ends line) (hbehind : ∀ line ∈ behind.head?, Ends line) :
    readOverrides true overrides (block ++ behind) =
      (block.filterMap settingOf).reverse ++ overrides := by
  induction block generalizing overrides with
  | nil =>
      cases behind with
      | nil => rfl
      | cons line behind => exact readOverrides_ends (hbehind line rfl)
  | cons line block ih =>
      obtain ⟨hline, hblock⟩ := List.forall_mem_cons.mp hblock
      rw [List.cons_append, readOverrides_goes_on hline, ih hblock, List.filterMap_cons]
      cases settingOf line <;> simp

/-- In front of the block nothing is read. -/
theorem readOverrides_before {before lines : List JsString} (hbefore : ∀ line ∈ before, ¬IsHeader line) :
    readOverrides false [] (before ++ lines) = readOverrides false [] lines := by
  induction before with
  | nil => rfl
  | cons line before ih =>
      obtain ⟨hline, hbefore⟩ := List.forall_mem_cons.mp hbefore
      rw [List.cons_append, readOverrides, if_neg (mt overridesHeader_iff.mp hline), Bool.not_false,
        if_pos rfl, ih hbefore]

theorem readOverrides_header {lines : List JsString} (hheader : IsHeader line) :
    readOverrides false [] (line :: lines) = readOverrides true [] lines := by
  rw [readOverrides, if_pos (overridesHeader_iff.mpr hheader)]

/-- A block's settings for a package. -/
theorem lookup_settings_eq_none {block : List JsString} {package : JsString} :
    (block.filterMap settingOf).reverse.lookup package = none ↔
      ∀ line ∈ block, ∀ range, ¬Sets line package range := by
  rw [List.lookup_eq_none_iff]
  simp only [List.mem_reverse, List.mem_filterMap, bne_iff_ne, Prod.forall, forall_exists_index, and_imp,
    settingOf_eq_some]
  constructor
  · intro hothers line hline range hsets
    exact hothers package range line hline hsets rfl
  · rintro hnone name range line hline hsets rfl
    exact hnone line hline range hsets

/-- Of the settings of a block the last one for a package is found. -/
theorem lookup_settings {block : List JsString} {package range : JsString} :
    (block.filterMap settingOf).reverse.lookup package = some range ↔
      ∃ earlier line later, block = earlier ++ line :: later ∧ Sets line package range ∧
        ∀ other ∈ later, ∀ range, ¬Sets other package range := by
  constructor
  · intro hlookup
    obtain ⟨front, behind, hsettings, hfront⟩ := List.lookup_eq_some_iff.mp hlookup
    rw [List.reverse_eq_iff, List.reverse_append, List.reverse_cons, List.append_assoc,
      List.singleton_append] at hsettings
    obtain ⟨earlier, rest, rfl, -, hrest⟩ := List.filterMap_eq_append_iff.mp hsettings
    obtain ⟨skipped, line, later, rfl, -, hline, hlater⟩ := List.filterMap_eq_cons_iff.mp hrest
    refine ⟨earlier ++ skipped, line, later, ?_, settingOf_eq_some.mp hline, ?_⟩
    · rw [List.append_assoc]
    · rw [← lookup_settings_eq_none, hlater, List.reverse_reverse, List.lookup_eq_none_iff]
      exact hfront
  · rintro ⟨earlier, line, later, rfl, hsets, hlater⟩
    rw [List.filterMap_append, List.filterMap_cons_some (settingOf_eq_some.mpr hsets),
      List.reverse_append, List.reverse_cons, List.append_assoc, List.lookup_append,
      lookup_settings_eq_none.mpr hlater, Option.none_or]
    simp

theorem lookup_parseOverridesBlock {text package range : JsString} :
    (parseOverridesBlock text).lookup package = some range ↔ AppliesOverride text package range := by
  constructor
  · intro hlookup
    obtain ⟨before, lines, htext, hbefore, hlines⟩ :=
      Text.exists_span (fun line => ¬IsHeader line) (text.splitOn 10)
    rw [parseOverridesBlock, htext, readOverrides_before hbefore] at hlookup
    cases lines with
    | nil => cases hlookup
    | cons header lines =>
        have hheader : IsHeader header := not_not.mp (hlines header rfl)
        obtain ⟨block, behind, rfl, hblock, hbehind⟩ :=
          Text.exists_span (fun line => ¬Ends line) lines
        simp only [not_not] at hbehind
        rw [readOverrides_header hheader, readOverrides_block hblock hbehind,
          List.append_nil] at hlookup
        exact ⟨before, header, block, behind, htext, hbefore, hheader, hblock, hbehind,
          lookup_settings.mp hlookup⟩
  · rintro ⟨before, header, block, behind, htext, hbefore, hheader, hblock, hbehind, hlast⟩
    rw [parseOverridesBlock, htext, readOverrides_before hbefore, readOverrides_header hheader,
      readOverrides_block hblock hbehind, List.append_nil]
    exact lookup_settings.mpr hlast

end OdinSentinel.DependencyAudit
