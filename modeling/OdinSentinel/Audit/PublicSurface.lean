import OdinSentinel.Core.JsonData
import OdinSentinel.Core.JsonGrammar

/-!
# The public-surface audit

Which files are public, the light scan for a top-level value of a JSON text, the exemption
of a retirement record's `roots`, and the findings of the rules.
-/

namespace OdinSentinel.Audit

open JsText Json

/-! ## Public files -/

def publicRoots : List JsString :=
  ["README.md", "CONTRIBUTING.md", "AGENTS.md", "CLAUDE.md", "LICENSE", "package.json",
    ".claude-plugin/", "docs/", "protocol/", "templates/", "plugins/", "charter/", "crates/",
    "scripts/audit/"].map js

def excludedPrefixes : List JsString :=
  [".git/", "dist/", "node_modules/", "project/planning/", ".edge-agentic/local/", "tests/"].map js

def forbiddenPublicPrefixes : List JsString := [js "docs/handoffs/"]

def isPublicAuditFile (file : JsString) : Bool :=
  if excludedPrefixes.any fun dir => dir.isPrefixOf file then false
  else publicRoots.any fun root => file == root || root.isPrefixOf file

/-! ## The scan

A position is a number of code units from the start of the text. -/

def skipSpaces (text : JsString) (i : Nat) : Nat :=
  i + ((text.drop i).takeWhile isSpace).length

/-- The code units from behind a string's opening quote to behind its closing one.  An escape
counts two, also where only one is left. -/
def stringTail : JsString → Nat
  | [] => 0
  | unit :: rest =>
      if unit = 92 then
        match rest with
        | [] => 2
        | _ :: rest => 2 + stringTail rest
      else if unit = 34 then 1
      else 1 + stringTail rest

def skipJsonString (text : JsString) (i : Nat) : Nat :=
  i + 1 + stringTail (text.drop (i + 1))

/-- The code units from inside `depth` brackets to behind the one that closes them.  Every
round takes at least one. -/
def nestedTail : Nat → Int → JsString → Nat
  | 0, _, _ => 0
  | _ + 1, _, [] => 0
  | fuel + 1, depth, unit :: rest =>
      if unit = 34 then
        1 + stringTail rest + nestedTail fuel depth (rest.drop (stringTail rest))
      else if unit = 123 ∨ unit = 91 then 1 + nestedTail fuel (depth + 1) rest
      else if unit = 125 ∨ unit = 93 then
        if depth - 1 = 0 then 1 else 1 + nestedTail fuel (depth - 1) rest
      else 1 + nestedTail fuel depth rest

/-- What ends a word or a number. -/
def endsScalar (unit : UInt16) : Bool := isSpace unit || unit == 44 || unit == 125 || unit == 93

def skipJsonValue (text : JsString) (i : Nat) : Nat :=
  let i := skipSpaces text i
  let first := text[i]?
  if first = some 34 then skipJsonString text i
  else if first = some 123 ∨ first = some 91 then i + nestedTail text.length 0 (text.drop i)
  else i + ((text.drop i).takeWhile fun unit => !endsScalar unit).length

/-- `text.slice(start, stop)` -/
def slice (text : JsString) (start stop : Nat) : JsString := (text.take stop).drop start

/-- The rounds over the members of an object.  Every round takes at least one code unit. -/
def spanLoop (text key : JsString) : Nat → Nat → Option (Nat × Nat) → Option (Nat × Nat)
  | 0, _, span => span
  | fuel + 1, i, span =>
      let i := skipSpaces text i
      if text[i]? = some 34 then
        let keyEnd := skipJsonString text i
        match Json.parse (slice text i keyEnd) with
        | none => span
        | some name =>
            let i := skipSpaces text keyEnd
            if text[i]? = some 58 then
              let valueStart := skipSpaces text (i + 1)
              let valueEnd := skipJsonValue text valueStart
              let span := if name.asString = some key then some (valueStart, valueEnd) else span
              let i := skipSpaces text valueEnd
              if text[i]? = some 44 then spanLoop text key fuel (i + 1) span else span
            else span
      else span

def topLevelValueSpan (text key : JsString) : Option (Nat × Nat) :=
  let i := skipSpaces text 0
  if text[i]? = some 123 then spanLoop text key text.length (i + 1) none else none

/-! ## The exemption -/

def retirementRecordType : JsString := js "mister-clean.retirement"

def privatePlanningRule : JsString := js "private planning path"

def retirementsDir : JsString := js "charter/retirements/"

/-- A file named `.json` right in the retirements' directory, with a name before that. -/
def isRetirementPath (file : JsString) : Bool :=
  retirementsDir.isPrefixOf file &&
    let name := file.drop retirementsDir.length
    (js ".json").isSuffixOf name && decide (5 < name.length) && name.all (· != 47)

/-- The items of the top-level `roots` that are exempt. -/
def exemptRoots (file text : JsString) : Option (List JsValue) :=
  if isRetirementPath file then
    match Json.parse text with
    | some (.object fields) =>
        if ((JsValue.object fields).field (js "record_type")).asString = some retirementRecordType then
          match (JsValue.object fields).field (js "roots") with
          | .array items => if items.all fun item => item.asString.isSome then some items else none
          | _ => none
        else none
    | _ => none
  else none

def maskRetirementRoots (file text : JsString) : JsString :=
  match exemptRoots file text with
  | none => text
  | some _ =>
      match topLevelValueSpan text (js "roots") with
      | none => text
      | some (start, stop) =>
          if text[start]? = some 91 then
            slice text 0 start ++ List.replicate (stop - start) 32 ++ text.drop stop
          else text

/-! ## The findings -/

structure Rule where
  name : JsString
  test : JsString → Bool
  exemptFiles : List JsString

def auditFile (forbidden : List Rule) (file text : JsString) : List JsString :=
  if isPublicAuditFile file then
    if forbiddenPublicPrefixes.any fun dir => dir.isPrefixOf file then
      [file ++ js ": internal handoff files must not exist under public docs"]
    else
      forbidden.filterMap fun rule =>
        if rule.exemptFiles.contains file then none
        else
          let subject :=
            if rule.name = privatePlanningRule then maskRetirementRoots file text else text
          if rule.test subject then some (file ++ js ": " ++ rule.name) else none
  else []

/-- The findings in the files, in their order. -/
def auditPublicSurface (forbidden : List Rule) (fileTextByPath : List (JsString × JsString)) :
    List JsString :=
  fileTextByPath.flatMap fun entry => auditFile forbidden entry.1 entry.2

end OdinSentinel.Audit
