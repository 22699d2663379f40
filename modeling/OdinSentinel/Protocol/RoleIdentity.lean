import OdinSentinel.Core.Unicode

/-!
# Canonical role identity

A slot identity keeps team and lane and decides authority; a kind drops both and
keys profiles.  Both go through one fold: normalise, strip invisible characters,
fold the two hyphens and all white space, upper-case.
-/

namespace OdinSentinel.RoleIdentity

open JsText Unicode

/-- `/[\u00AD\u200B-\u200F\u2060-\u2064\u206A-\u206F\uFEFF]/g`. -/
def isZeroWidthOrFormat (unit : UInt16) : Bool :=
  let code := unit.toNat
  code == 0xAD || (0x200B ≤ code && code ≤ 0x200F) || (0x2060 ≤ code && code ≤ 0x2064) ||
    (0x206A ≤ code && code ≤ 0x206F) || code == 0xFEFF

/-- `/[\u2010\u2011]/g` folded to the ASCII hyphen. -/
def foldHyphen (unit : UInt16) : UInt16 :=
  if unit = 0x2010 ∨ unit = 0x2011 then 45 else unit

variable (tables : Tables)

/-- The fold up to the upper-casing, still untrimmed. -/
def foldVisible (value : JsString) : JsString :=
  Text.replaceRuns isSpace 32
    (((tables.toNFKC value).filter (fun unit => !isZeroWidthOrFormat unit)).map foldHyphen)

/-- What `foldRoleInput` hands to the upper-casing. -/
def foldBeforeCase (value : JsString) : JsString := trim (foldVisible tables value)

def foldRoleInput (value : JsString) : JsString :=
  toUpperCase tables (foldBeforeCase tables value)

/-- `[A-Z0-9]`. -/
def isComponentUnit (unit : UInt16) : Bool := isUpper unit || isDigit unit

/-- `[\s_-]`. -/
def isSeparator (unit : UInt16) : Bool := isSpace unit || unit == 95 || unit == 45

/-- `/^[A-Z0-9]+(?:-[A-Z0-9]+)*$/`. -/
def isCanonicalComponent (component : JsString) : Bool :=
  (component.splitOn 45).all (Text.isRun isComponentUnit)

def canonicalComponentFromFolded (value : JsString) : Option JsString :=
  let component := Text.replaceRuns isSeparator 45 (trim value)
  if isCanonicalComponent component then some component else none

def canonicalRoleComponent : JsValue → Option JsString
  | .string value =>
      let folded := foldRoleInput tables value
      if folded = [] ∨ (47 : UInt16) ∈ folded then none else canonicalComponentFromFolded folded
  | _ => none

structure ParsedRoleSlot where
  team : Option JsString
  role : JsString
  canonical : JsString
  deriving DecidableEq

def parseRoleSlot : JsValue → Option ParsedRoleSlot
  | .string value =>
      let folded := foldRoleInput tables value
      if folded = [] then none
      else
        match (folded.splitOn 47).map canonicalComponentFromFolded with
        | [some role] => some { team := none, role, canonical := role }
        | [some team, some role] =>
            some { team := some team, role, canonical := team ++ js "/" ++ role }
        | _ => none
  | _ => none

def canonicalRoleSlot (value : JsValue) : Option JsString :=
  (parseRoleSlot tables value).map ParsedRoleSlot.canonical

def roleSlotsEqual (left right : JsValue) : Bool :=
  match canonicalRoleSlot tables left, canonicalRoleSlot tables right with
  | some left, some right => left = right
  | _, _ => false

def ratifiedCommitIssuerSlots : List JsString :=
  [js "operator", js "A/EXEC-PM", js "A/EXEC-ODIN", js "A/EXEC-ASST", js "A/EXEC-RSCH",
    js "A/EXEC-QA"]

def rosterMutationAuthoritySlots : List JsString := ratifiedCommitIssuerSlots

/-- Exact membership of a canonical slot in the canonical slots of a list. -/
def isMember (slots : List JsString) (value : JsValue) : Bool :=
  match canonicalRoleSlot tables value with
  | none => false
  | some canonical =>
      decide (some canonical ∈ slots.map (fun slot => canonicalRoleSlot tables (.string slot)))

def hasExecutiveAuthority (value : JsValue) : Bool :=
  isMember tables ratifiedCommitIssuerSlots value

def hasRosterMutationAuthority (value : JsValue) : Bool :=
  isMember tables rosterMutationAuthoritySlots value

/-- `/^WORD(_\d+)?$/`. -/
def isLaneOf (word normalized : JsString) : Bool :=
  normalized == word ||
    ((word ++ [95]).isPrefixOf normalized &&
      Text.isRun isDigit (normalized.drop (word.length + 1)))

/-- Hyphens as underscores. -/
def underscored (component : JsString) : JsString :=
  component.map (fun unit => if unit = 45 then 95 else unit)

/-- The profile key of a normalised component. -/
def kindOfNormalized (normalized : JsString) : JsString :=
  if normalized = js "ODIN" then js "TEAM_ODIN"
  else if normalized = js "PM" then js "TEAM_PM"
  else if isLaneOf (js "DEV") normalized then js "DEV_WORKER"
  else if isLaneOf (js "QA") normalized then js "QA_WORKER"
  else if isLaneOf (js "SHADOW") normalized then js "SHADOW_REVIEWER"
  else normalized

/-- The part of a slot behind its last raw slash. -/
def visibleSlot (role : JsString) : JsString :=
  ((role.splitOn 47).getLast?).getD role

def roleKindOf (role : JsString) : JsString :=
  kindOfNormalized
    (((canonicalRoleComponent tables (.string (visibleSlot role))).map underscored).getD [])

def isHighAuthorityRole (role : Option JsString) : Bool :=
  match role with
  | none => false
  | some role =>
      role ≠ [] &&
        [js "EXEC_PM", js "TEAM_PM", js "EXEC_ODIN", js "TEAM_ODIN"].contains
          (roleKindOf tables role)

/-! ## Which texts are slots -/

theorem isSpaceCode_of_lt {code : Nat} (hcode : code < 128) (hspace : isSpaceCode code = true) :
    code ≤ 32 := by
  simp only [isSpaceCode, Bool.or_eq_true, Bool.and_eq_true, decide_eq_true_eq, beq_iff_eq]
    at hspace
  omega

theorem isSeparator_of_isComponentUnit {unit : UInt16} (hunit : isComponentUnit unit = true) :
    isSeparator unit = false := by
  simp only [isComponentUnit, isUpper, isDigit, Bool.or_eq_true, Bool.and_eq_true,
    decide_eq_true_eq] at hunit
  have hspace : isSpace unit = false := by
    by_contra hspace
    have hascii : unit.toNat < 128 := by omega
    have hle := isSpaceCode_of_lt hascii (by simpa [isSpace] using hspace)
    omega
  have hunderscore : unit ≠ 95 := by
    rintro rfl
    simp at hunit
  have hhyphen : unit ≠ 45 := by
    rintro rfl
    simp at hunit
  simp [isSeparator, hspace, hunderscore, hhyphen]

/-- A folded component is canonical exactly when its trim is alphanumeric runs
joined by separators. -/
theorem canonicalComponent_isSome (value : JsString) :
    (canonicalComponentFromFolded value).isSome =
      Text.shaped isComponentUnit isSeparator (trim value) := by
  have hruns : ((Text.replaceRuns isSeparator 45 (trim value)).splitOn 45).all
      (Text.isRun isComponentUnit) = Text.shaped isComponentUnit isSeparator (trim value) :=
    (Text.splitOn_replaceRuns (by decide) (fun _ => isSeparator_of_isComponentUnit) _).1
  unfold canonicalComponentFromFolded isCanonicalComponent
  simp only [hruns]
  cases Text.shaped isComponentUnit isSeparator (trim value) <;> rfl

/-- A string is a slot exactly when its fold is a path of one or two components. -/
theorem canonicalRoleSlot_isSome (value : JsString) :
    (canonicalRoleSlot tables (.string value)).isSome =
      Text.pathShaped 47 isSpace isComponentUnit isSeparator (foldRoleInput tables value) := by
  have hpiece : ∀ piece : JsString,
      Text.shaped isComponentUnit isSeparator (Text.trimBy isSpace piece) =
        (canonicalComponentFromFolded piece).isSome :=
    fun piece => (canonicalComponent_isSome piece).symm
  unfold canonicalRoleSlot parseRoleSlot Text.pathShaped
  simp only [hpiece]
  generalize foldRoleInput tables value = folded
  by_cases hempty : folded = []
  · subst hempty
    rfl
  · rw [if_neg hempty]
    cases hsplit : folded.splitOn 47 with
    | nil => exact absurd hsplit (List.splitOn_ne_nil 47 folded)
    | cons first rest =>
        cases rest with
        | nil =>
            simp only [List.map_cons, List.map_nil]
            cases hfirst : canonicalComponentFromFolded first <;> simp [hfirst]
        | cons second others =>
            cases others with
            | nil =>
                simp only [List.map_cons, List.map_nil]
                cases hfirst : canonicalComponentFromFolded first <;>
                  cases hsecond : canonicalComponentFromFolded second <;>
                  simp [hfirst, hsecond]
            | cons third others => simp

end OdinSentinel.RoleIdentity
