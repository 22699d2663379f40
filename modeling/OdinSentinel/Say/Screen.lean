import OdinSentinel.Core.Calendar
import OdinSentinel.Say.Rules

/-!
# Reading a pane

What the sender sees in the last lines of a pane: busy, blocked, capped, stale
input, a queued message, an echo that was answered.
-/

namespace OdinSentinel.Say

open RustText

/-- The last 14 lines. -/
def tail14 (raw : RustString) : RustString :=
  let all := lines raw
  joinLines (all.drop (all.length - 14))

theorem exists_line_of_mem_tail14 {raw line : RustString} (hmem : line ∈ lines (tail14 raw)) :
    ∃ whole ∈ lines raw, line <+: whole := by
  have hunbroken : ∀ line ∈ (lines raw).drop ((lines raw).length - 14), '\n' ∉ line :=
    fun line hline => not_mem_of_mem_linesFrom List.not_mem_nil (List.mem_of_mem_drop hline)
  obtain ⟨whole, hwhole, hstarts⟩ := exists_line_of_mem_lines hunbroken hmem
  exact ⟨whole, List.mem_of_mem_drop hwhole, hstarts⟩

/-- A spinner glyph with a space behind it. -/
def hasSpinner (rules : PaneRules) : RustString → Bool
  | glyph :: space :: rest =>
      (rules.spinnerGlyphs.contains glyph && space == ' ') || hasSpinner rules (space :: rest)
  | _ => false

/-- Whether a line contains one of the fragments. -/
def containsAny (line : RustString) (fragments : List RustString) : Bool :=
  fragments.any fun fragment => contains line fragment

def isBlankLine (line : RustString) : Bool := trim line == []

/-- The positions of the last non-empty lines; at least one is taken where there is one. -/
def liveLineIndexes (lines : List RustString) (liveTail : Nat) : List Nat :=
  ((lines.zipIdx.reverse.filter fun entry => !isBlankLine entry.1).take (max 1 liveTail)).map
    Prod.snd

def busyLineIsLive (line : RustString) (index : Nat) (live : List Nat) (rules : PaneRules) :
    Bool :=
  live.contains index || hasSpinner rules line || containsAny line rules.statusMarkers

def busy (screen : RustString) (rules : PaneRules) : Bool :=
  let all := lines screen
  let live := liveLineIndexes all rules.liveTailNonEmptyLines
  all.zipIdx.any fun entry =>
    !containsAny entry.1 rules.busyExclusions &&
      (hasSpinner rules entry.1 ||
        (containsAny entry.1 rules.busyWords && busyLineIsLive entry.1 entry.2 live rules))

def blocked (screen : RustString) (rules : PaneRules) : Bool :=
  (lines screen).any fun line =>
    !containsAny line rules.blockedExclusions && containsAny line rules.blocked

/-- The first forty characters of a message, by which it is recognised. -/
def messageHead (flat : RustString) : RustString := flat.take 40

/-- The head of the message and a queue marker of the harness on one line. -/
def showsQueued (screen flat : RustString) (rules : PaneRules) (harness : RustString) : Bool :=
  let head := messageHead flat
  let evidence := rules.queueEvidenceFor harness
  if trim head = [] then false
  else if evidence = [] then false
  else (lines screen).any fun line => contains line head && containsAny line evidence

/-- A line that starts with a prompt glyph and a space. -/
def isPromptLine (line : RustString) : Bool :=
  (rs "› ").isPrefixOf line || (rs "❯ ").isPrefixOf line

def inputBar (screen : RustString) : Option RustString :=
  (lines screen).reverse.find? isPromptLine

def staleInput (screen : RustString) : Bool :=
  match inputBar screen with
  | none => false
  | some bar =>
      ((bar.drop 2).head?.any fun char => !isWhitespace char) &&
        !contains bar (rs "Ask Codex") && !contains bar (rs "Press up to edit")

/-! ## Caps -/

structure CapHit where
  marker : RustString
  resetAt : Option RustString
  deriving DecidableEq

/-- The runs of non-empty lines with the position of their first line, behind a
run whose lines are collected in reverse. -/
def blocksFrom (current : Option (Nat × List RustString)) :
    List (RustString × Nat) → List (Nat × RustString)
  | [] =>
      match current with
      | some (start, collected) => [(start, joinLines collected.reverse)]
      | none => []
  | (line, index) :: rest =>
      if isBlankLine line then
        match current with
        | some (start, collected) =>
            (start, joinLines collected.reverse) :: blocksFrom none rest
        | none => blocksFrom none rest
      else
        match current with
        | some (start, collected) => blocksFrom (some (start, line :: collected)) rest
        | none => blocksFrom (some (index, [line])) rest

def blocks (lines : List RustString) : List (Nat × RustString) := blocksFrom none lines.zipIdx

/-- `value` in decimal with at least `width` digits. -/
def zeroPadded (width value : Nat) : RustString :=
  let digits := rs (toString value)
  List.replicate (width - digits.length) '0' ++ digits

/-- `YYYY-MM-DDTHH:MM:SSZ`; the year of a 64-bit second count is never negative. -/
def formatUtc (unixSeconds : UInt64) : RustString :=
  let date := Calendar.civilFromDays (unixSeconds / 86400).toNat
  let timeOfDay := (unixSeconds % 86400).toNat
  zeroPadded 4 date.year.toNat ++ rs "-" ++ zeroPadded 2 date.month.toNat ++ rs "-" ++
    zeroPadded 2 date.day.toNat ++ rs "T" ++ zeroPadded 2 (timeOfDay / 3600) ++ rs ":" ++
    zeroPadded 2 (timeOfDay % 3600 / 60) ++ rs ":" ++ zeroPadded 2 (timeOfDay % 60) ++ rs "Z"

/-- The reset instant behind the first reset header of the screen. -/
def capResetAt (screen : RustString) (rules : PaneRules) : Option RustString := do
  let rest ← behind (rs "\"" ++ rules.capped.resetHeader ++ rs "\":\"") screen
  if rest.contains '"' then
    let millis ← parseU64 (trim (rest.takeWhile (· != '"')))
    some (formatUtc (millis / 1000))
  else none

/-- The first marker whose fragments all stand in a block. -/
def capMarkerOf (rules : PaneRules) (text : RustString) : Option CapMarker :=
  rules.capped.markers.find? fun marker => marker.all.all fun fragment => contains text fragment

def isTurnOutput (rules : PaneRules) (line : RustString) : Bool :=
  rules.capped.outputMarkers.any fun marker => marker.isPrefixOf (trimStart line)

/-- The cap of the last block that carries a marker, unless turn output follows its start. -/
def capped (screen : RustString) (rules : PaneRules) : Option CapHit :=
  let all := lines screen
  let lastOutput :=
    (all.zipIdx.reverse.find? fun entry => isTurnOutput rules entry.1).map Prod.snd
  let hit := (blocks all).foldl (fun hit block =>
    match capMarkerOf rules block.2 with
    | some marker => some (block.1, marker.id)
    | none => hit) none
  match hit with
  | none => none
  | some (start, marker) =>
      if lastOutput.any fun output => start < output then none
      else some { marker := marker, resetAt := capResetAt screen rules }

/-! ## After the send -/

def isResponseOrFreshPrompt (line : RustString) : Bool :=
  match line with
  | '⏺' :: _ => true
  | '•' :: _ => true
  | '›' :: rest => rest.all (· == ' ')
  | '❯' :: rest => rest.all (· == ' ')
  | _ => false

/-- A response or a fresh prompt behind a line that echoes the head. -/
def answeredFrom (head : RustString) (seen : Bool) : List RustString → Bool
  | [] => false
  | line :: rest =>
      if head ≠ [] ∧ contains line head = true then answeredFrom head true rest
      else if seen && isResponseOrFreshPrompt line then true
      else answeredFrom head seen rest

def answered (screen head : RustString) : Bool := answeredFrom head false (lines screen)

/-- Runs of spaces as one space, behind a character that was a space or not. -/
def collapseSpaces (lastSpace : Bool) : RustString → RustString
  | [] => []
  | char :: rest =>
      if char = ' ' then
        if lastSpace then collapseSpaces true rest else ' ' :: collapseSpaces true rest
      else char :: collapseSpaces false rest

/-- One line: tabs and line ends become spaces, runs of spaces collapse. -/
def flatten (text : RustString) : RustString :=
  collapseSpaces false
    (text.map fun char => if char = '\n' ∨ char = '\r' ∨ char = '\t' then ' ' else char)

def surfaceLocator (id : RustString) : RustString :=
  let surface := rs "surface:"
  surface ++ (if surface.isPrefixOf id then id.drop surface.length else id)

end OdinSentinel.Say
