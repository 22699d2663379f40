import OdinSentinel.DependencyAudit.Report

/-!
# The dependency-audit gate

The manifest is checked first, then the pins of the audited workspace against its overrides,
then the report; what is wrong with an earlier one keeps the later ones from being looked at.
-/

namespace OdinSentinel.DependencyAudit

open JsText Host Unicode Validators Readiness PosixPath

variable (host : HostRuntime) (tables : Tables) (packageRoot : Place)

/-- A pin of the workspace with the given label, which is normalized again. -/
def pinOf (audited : JsString) (entry : ExceptionEntry) : Option Pin :=
  entry.pin.filter fun pin => normalizeWorkspaceLabel packageRoot pin.workspace == audited

/-- What is wrong with a recorded pin under the overrides. -/
def pinErrors (overrides : Overrides) (advisory : JsString) (pin : Pin) : List JsString :=
  let name := sanitizeRendered advisory ++ js ": recorded pin " ++ sanitizeRendered pin.package
  match overrides.lookup pin.package with
  | none => [name ++ js " is absent from the workspace overrides block"]
  | some actual =>
      reasonIf (actual != pin.range)
        (name ++ js " " ++ sanitizeRendered pin.range ++
          js " drifted — the workspace overrides it as " ++ sanitizeRendered actual)

def validateOverrideLinkage (entries : List ExceptionEntry) (workspaceText : Option JsString)
    (auditedWorkspace : JsString) : List JsString :=
  match workspaceText with
  | none => []
  | some text =>
      let audited := normalizeWorkspaceLabel packageRoot auditedWorkspace
      let overrides := parseOverridesBlock text
      entries.flatMap fun entry =>
        match pinOf packageRoot audited entry with
        | none => []
        | some pin => pinErrors overrides entry.advisory pin

def workspaceFileDisplayName (auditedWorkspace : JsString) : JsString :=
  let workspace := normalizeWorkspaceLabel packageRoot auditedWorkspace
  if workspace = js "." then js "pnpm-workspace.yaml" else workspace ++ js "/pnpm-workspace.yaml"

/-! ## Evaluation -/

/-- What is audited; `now` is `none` for an invalid date. -/
structure AuditInput where
  manifest : JsValue
  reportText : Option JsString
  workspaceText : Option JsString := none
  now : Option Int
  workspaceLabel : JsString := js "."
  reportSource : JsString := js "live pnpm audit"
  workspaceFile : Option JsString := none

/-- The `RangeError` of an invalid date's text. -/
inductive DateFault
  | invalidDate
  deriving DecidableEq

structure Evaluation where
  ok : Bool
  lines : List JsString
  errors : List JsString
  entries : List ExceptionEntry
  accepted : List (Advisory × ExceptionEntry)
  unaccepted : List Advisory
  deriving DecidableEq

/-- What is wrong with the pins of the audited workspace. -/
def linkageErrors (input : AuditInput) (entries : List ExceptionEntry) : List JsString :=
  let audited := normalizeWorkspaceLabel packageRoot input.workspaceLabel
  let applicable := entries.filter fun entry => (pinOf packageRoot audited entry).isSome
  if applicable ≠ [] ∧ input.workspaceText = none then
    [js "workspace file " ++
      input.workspaceFile.getD (workspaceFileDisplayName packageRoot audited) ++
      js " is absent or unreadable, but " ++ natText applicable.length ++
      js " recorded pin(s) apply to audited workspace " ++ audited ++
      js " — the gate cannot verify override linkage"]
  else validateOverrideLinkage packageRoot entries input.workspaceText audited

/-- The line of one entry, with the advisory that it accepts. -/
def entryLine (audited : JsString) (accepted : List (Advisory × ExceptionEntry))
    (entry : ExceptionEntry) : JsString :=
  let live := (accepted.reverse.find? fun pair => pair.2.advisory == entry.advisory).map Prod.fst
  let pin := match entry.pin with
    | none => []
    | some pin =>
        js " | pin " ++ sanitizeRendered pin.package ++ js " " ++ sanitizeRendered pin.range ++
          js " (workspace " ++ sanitizeRendered pin.workspace ++ js ")"
  let elsewhere := entry.pin.filter fun pin =>
    normalizeWorkspaceLabel packageRoot pin.workspace != audited
  let state := match elsewhere, live with
    | some pin, _ =>
        js "pin belongs to workspace " ++ sanitizeRendered pin.workspace ++
          js " — not applicable to this run (reconciled against that workspace's file)"
    | none, some advisory =>
        js "ACCEPTING live " ++ advisory.severity ++ js " advisory in " ++ advisory.module
    | none, none => js "no matching advisory in the current tree"
  js "  - " ++ sanitizeRendered entry.advisory ++ js " | owner: " ++ sanitizeRendered entry.owner ++
    js " | expires: " ++ sanitizeRendered entry.expires ++ pin ++ js " | " ++ state

def idText (advisory : Advisory) : JsString :=
  if advisory.id = [] then js "<no advisory id>" else advisory.id

def unacceptedLine (advisory : Advisory) : JsString :=
  js "  - UNACCEPTED " ++ advisory.severity ++ js " " ++ idText advisory ++ js " in " ++
    advisory.module ++ if advisory.title = [] then [] else js ": " ++ advisory.title

def unacceptedFailure (advisory : Advisory) : JsString :=
  js "unaccepted " ++ advisory.severity ++ js " advisory " ++ idText advisory ++ js " in " ++
    advisory.module

def titleLine (input : AuditInput) : JsString :=
  js "Dependency audit gate: workspace " ++ input.workspaceLabel ++
    js " | severity floor high | report source: " ++ input.reportSource

/-- The evaluation of a manifest without errors: the report against its entries. -/
def evaluateReport (input : AuditInput) (now : Int) (entries : List ExceptionEntry) :
    Evaluation :=
  let audited := normalizeWorkspaceLabel packageRoot input.workspaceLabel
  let opening := [titleLine input,
    js "Manifest OK: " ++ natText entries.length ++ js " exception(s) validated against " ++
      formatUtcDate now ++ js " UTC"]
  match parseAuditReport host tables input.reportText with
  | .error failure =>
      { ok := false
        lines := opening ++
          [js "Dependency audit FAIL: the audit could not be verified to have run — " ++ failure]
        errors := [failure]
        entries
        accepted := []
        unaccepted := [] }
  | .ok advisories =>
      let found := reconcile advisories entries
      let lines := opening ++ entries.map (entryLine packageRoot audited found.accepted) ++
        [js "Advisories at or above high: " ++ natText found.gated.length ++ js " (accepted: " ++
          natText found.accepted.length ++ js ", unaccepted: " ++
          natText found.unaccepted.length ++ js ")"]
      if found.unaccepted ≠ [] then
        { ok := false
          lines := lines ++ found.unaccepted.map unacceptedLine ++
            [js "Dependency audit FAIL: " ++ natText found.unaccepted.length ++
              js " unaccepted advisory/advisories at or above high"]
          errors := found.unaccepted.map unacceptedFailure
          entries
          accepted := found.accepted
          unaccepted := found.unaccepted }
      else
        { ok := true
          lines := lines ++
            [js "Dependency audit PASS: 0 unaccepted advisories; " ++ natText entries.length ++
              js " recorded exception(s)"]
          errors := []
          entries
          accepted := found.accepted
          unaccepted := found.unaccepted }

/-- Everything that is wrong with the manifest and its pins. -/
def manifestErrors (input : AuditInput) (checked : ManifestCheck) : List JsString :=
  checked.errors ++
    if checked.errors = [] then linkageErrors packageRoot input checked.entries else []

def evaluateDependencyAudit (input : AuditInput) : Except DateFault Evaluation :=
  let checked := validateExceptionManifest input.now input.manifest
  let errors := manifestErrors packageRoot input checked
  match input.now with
  | none => .error .invalidDate
  | some now =>
      if errors ≠ [] then
        .ok
          { ok := false
            lines := titleLine input ::
              (js "Manifest INVALID: " ++ natText errors.length ++ js " error(s) against " ++
                formatUtcDate now ++ js " UTC") ::
              errors.map fun error => js "  - " ++ error
            errors
            entries := []
            accepted := []
            unaccepted := [] }
      else .ok (evaluateReport host tables packageRoot input now checked.entries)

end OdinSentinel.DependencyAudit
