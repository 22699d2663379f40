import OdinSentinel.Core.Matching
import OdinSentinel.Core.PosixPath
import OdinSentinel.Protocol.Redaction
import OdinSentinel.Protocol.Validators

/-!
# Audited workspaces

The label of a workspace in the package and the overrides that its workspace file applies.
-/

namespace OdinSentinel.DependencyAudit

open JsText PosixPath Regex Validators

variable (packageRoot : Place)

/-! ## Labels -/

/-- A path from the package root as a label, with slashes for its backslashes. -/
def pathLabel (path : JsString) : JsString :=
  if path = [] then js "." else path.map fun unit => if unit = 92 then 47 else unit

/-- What leads from the package root to the workspace. -/
def normalizeWorkspaceLabel (label : JsString) : JsString :=
  if trim label = [] then js "."
  else pathLabel (relative packageRoot (locate packageRoot (trim label)))

/-! ## Overrides -/

def isQuote (unit : UInt16) : Bool := unit == 34 || unit == 39

/-- A value without a quote in front and one behind. -/
def unquote (value : JsString) : JsString :=
  let opened := if value.head?.any isQuote then value.tail else value
  if opened.getLast?.any isQuote then opened.dropLast else opened

/-- `^` and `$` without the `m` flag. -/
def textStart : Pattern UInt16 := .assertion fun before _ => before.isNone

def textEnd : Pattern UInt16 := .assertion fun _ after => after.isNone

/-- `.` -/
def isDot (unit : UInt16) : Bool := !isLineTerminator unit

/-- `/^overrides:\s*$/` -/
def overridesHeader : Pattern UInt16 :=
  .all [textStart, exactly (js "overrides:"), .many 0 isSpace, textEnd]

/-- `/^\s*(#.*)?$/` -/
def blankOrComment : Pattern UInt16 :=
  .all [textStart, .many 0 isSpace, .maybe (.both (.one (· == 35)) (.many 0 isDot)), textEnd]

/-- `(.+?)\s*$` -/
def shortestValue : JsString → Option JsString
  | [] => none
  | unit :: rest =>
      if isDot unit then
        if rest.all isSpace then some [unit] else (shortestValue rest).map (unit :: ·)
      else none

/-- The groups of `/^\s+([^:#\s]+)\s*:\s*(.+?)\s*$/`. -/
def overrideLine (line : JsString) : Option (JsString × JsString) :=
  (Pattern.many 1 isSpace).run ⟨none, line⟩ fun nameStart =>
    (Pattern.many 1 fun unit => !(isOneOf (js ":#") unit || isSpace unit)).run nameStart
      fun nameEnd =>
        (Pattern.all [.many 0 isSpace, .one (· == 58), .many 0 isSpace]).run nameEnd
          fun valueStart => (shortestValue valueStart.rest).map fun value =>
            (nameStart.rest.take (nameStart.rest.length - nameEnd.rest.length), value)

/-- The overrides that were read, the last one first. -/
abbrev Overrides := List (JsString × JsString)

/-- The lines of a workspace file from one on, in or before its block of overrides. -/
def readOverrides : Bool → Overrides → List JsString → Overrides
  | _, overrides, [] => overrides
  | inBlock, overrides, line :: lines =>
      if overridesHeader.test line then readOverrides true overrides lines
      else if !inBlock then readOverrides false overrides lines
      else if blankOrComment.test line then readOverrides true overrides lines
      else if line.head?.any fun unit => !isSpace unit then overrides
      else match overrideLine line with
        | none => readOverrides true overrides lines
        | some (name, range) =>
            readOverrides true ((unquote name, unquote range) :: overrides) lines

def parseOverridesBlock (text : JsString) : Overrides := readOverrides false [] (text.splitOn 10)

example : (parseOverridesBlock (js "packages:\n  - a\noverrides:\n  'x': ^1.2.0\n\n  x: 2 \nb: 1")).lookup
    (js "x") = some (js "2") := by
  decide

/-! ## Whole texts -/

theorem textStart_matches {front back : JsString} {stop : Cursor UInt16} :
    textStart.Matches ⟨front.getLast?, back⟩ stop ↔ front = [] ∧ stop = ⟨none, back⟩ := by
  constructor
  · rintro ⟨hstart, rfl⟩
    obtain rfl : front = [] := List.getLast?_eq_none_iff.mp (Option.isNone_iff_eq_none.mp hstart)
    exact ⟨rfl, rfl⟩
  · rintro ⟨rfl, rfl⟩
    exact ⟨rfl, rfl⟩

theorem textEnd_matches {start stop : Cursor UInt16} :
    textEnd.Matches start stop ↔ start.rest = [] ∧ stop = start := by
  change start.rest.head?.isNone = true ∧ stop = start ↔ _
  rw [Option.isNone_iff_eq_none, List.head?_eq_none_iff]

/-- Behind `^` a pattern has to match from the start of the text on. -/
theorem test_front (parts : List (Pattern UInt16)) (text : JsString) :
    (Pattern.all (textStart :: parts)).test text = true ↔
      ∃ stop, (Pattern.all parts).Matches ⟨none, text⟩ stop := by
  rw [Pattern.test_iff]
  constructor
  · rintro ⟨front, back, stop, rfl, start, hstart, hparts⟩
    obtain ⟨rfl, rfl⟩ := textStart_matches.mp hstart
    exact ⟨stop, hparts⟩
  · rintro ⟨stop, hparts⟩
    exact ⟨[], text, stop, rfl, ⟨none, text⟩, textStart_matches.mpr ⟨rfl, rfl⟩, hparts⟩

/-- Between `^` and `$` a pattern has to match the whole text. -/
theorem test_whole (parts : List (Pattern UInt16)) (text : JsString) :
    (Pattern.all (textStart :: (parts ++ [textEnd]))).test text = true ↔
      ∃ before, (Pattern.all parts).Matches ⟨none, text⟩ ⟨before, []⟩ := by
  rw [test_front]
  constructor
  · rintro ⟨stop, hparts⟩
    obtain ⟨⟨before, rest⟩, hparts, _, hend, -⟩ := Pattern.all_append_matches.mp hparts
    obtain ⟨rfl, -⟩ := textEnd_matches.mp hend
    exact ⟨before, hparts⟩
  · rintro ⟨before, hparts⟩
    refine ⟨⟨before, []⟩, Pattern.all_append_matches.mpr ⟨⟨before, []⟩, hparts, ?_⟩⟩
    exact ⟨⟨before, []⟩, textEnd_matches.mpr ⟨rfl, rfl⟩, rfl⟩

/-! ## Labels of places -/

variable {packageRoot}

theorem normalizeWorkspaceLabel_here : normalizeWorkspaceLabel packageRoot (js ".") = js "." := by
  have htrim : trim (js ".") = js "." := by decide
  have hplace : locate packageRoot (js ".") = packageRoot := rfl
  have hself : ∀ names : List Segment, descent names names = [] := by
    intro names
    induction names with
    | nil => rfl
    | cons name names ih => rw [descent, if_pos rfl, ih]
  rw [normalizeWorkspaceLabel, htrim, if_neg (by decide), hplace, relative, hself]
  rfl

theorem pathLabel_eq_self {path : JsString} (hpath : path ≠ []) (hbackslash : 92 ∉ path) :
    pathLabel path = path := by
  have hsame : ∀ unit ∈ path, (if unit = 92 then 47 else unit) = unit := by
    intro unit hmem
    apply if_neg
    rintro rfl
    exact hbackslash hmem
  rw [pathLabel, if_neg hpath, List.map_congr_left hsame, List.map_id']

/-- A label's normal form is its own, where the path from the package root has neither a
backslash nor a blank at an end. -/
theorem normalizeWorkspaceLabel_idem (hroot : ∀ name ∈ packageRoot, IsName name)
    {label : JsString}
    (hbackslash : 92 ∉ relative packageRoot (locate packageRoot (trim label)))
    (htrim : trim (relative packageRoot (locate packageRoot (trim label))) =
      relative packageRoot (locate packageRoot (trim label))) :
    normalizeWorkspaceLabel packageRoot (normalizeWorkspaceLabel packageRoot label) =
      normalizeWorkspaceLabel packageRoot label := by
  by_cases hblank : trim label = []
  · have hlabel : normalizeWorkspaceLabel packageRoot label = js "." := if_pos hblank
    rw [hlabel, normalizeWorkspaceLabel_here]
  · have hback := @locate_relative packageRoot _ (isName_locate hroot (trim label))
    have hlabel : normalizeWorkspaceLabel packageRoot label =
        pathLabel (relative packageRoot (locate packageRoot (trim label))) := if_neg hblank
    rw [hlabel]
    generalize locate packageRoot (trim label) = place at *
    by_cases hempty : relative packageRoot place = []
    · rw [hempty]
      exact normalizeWorkspaceLabel_here
    · rw [pathLabel_eq_self hempty hbackslash, normalizeWorkspaceLabel, htrim, if_neg hempty, hback,
        pathLabel_eq_self hempty hbackslash]

end OdinSentinel.DependencyAudit
