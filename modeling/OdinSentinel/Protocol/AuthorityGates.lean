import OdinSentinel.Protocol.DeliveryProof
import OdinSentinel.Protocol.RoleIdentity

/-!
# Authority gates

The commit gate and the gate on staffing actions.  Both resolve every identity to
its canonical slot and refuse an unreadable one by name.
-/

namespace OdinSentinel.Authority

open JsText Unicode RoleIdentity Validators
open DeliveryProof (isExactlyTrue isExactlyFalse)

/-- `typeof value`. -/
def typeOf : JsValue → JsString
  | .undefined => js "undefined"
  | .null => js "object"
  | .bool _ => js "boolean"
  | .number _ => js "number"
  | .string _ => js "string"
  | .array _ => js "object"
  | .object _ => js "object"

/-- `/[\u0000-\u001F\u007F]/g` as blanks. -/
def blankControl (unit : UInt16) : UInt16 :=
  if unit.toNat ≤ 0x1F ∨ unit.toNat = 0x7F then 32 else unit

/-- A bounded, control-stripped rendering of an untrusted identity. -/
def describeRoleSlotInput (value : JsValue) : JsString :=
  match value with
  | .undefined => js "<missing>"
  | .null => js "<null>"
  | .string text =>
      if trim text = [] then js "<empty>"
      else
        let sanitized := trim (Text.replaceRuns isSpace 32 (text.map blankControl))
        if 60 < sanitized.length then js "\"" ++ sanitized.take 57 ++ js "...\""
        else js "\"" ++ sanitized ++ js "\""
  | value => js "<non-string " ++ typeOf value ++ js ">"

def isUndefined : JsValue → Bool
  | .undefined => true
  | _ => false

variable (tables : Tables)

/-- `value !== undefined && value !== null && canonicalRoleSlot(value) === null`. -/
def isUnreadable (value : JsValue) : Bool :=
  !isNullish value && (canonicalRoleSlot tables value).isNone

/-! ## Commits -/

def commitGateFields : List JsString :=
  [js "task_ref", js "pod_pm_lane", js "implementer_lane", js "staged_ready",
    js "commit_authorization"]

/-- The seat an authorization names as its issuer. -/
def issuerFindings (issuer : JsValue) : Findings :=
  match canonicalRoleSlot tables issuer with
  | none => Findings.refuseIf true (js "commit_authorization")
      (js "authorization token issued_by " ++ describeRoleSlotInput issuer ++
        js " is not a readable role slot, so it is not an EXEC-layer seat — an empty, non-string, or unparseable issuer identity is refused, never treated as unmatched-but-proceed")
  | some issuedBy =>
      Findings.refuseIf (!hasExecutiveAuthority tables (.string issuedBy))
        (js "commit_authorization")
        (js "authorization token issued_by \"" ++ issuedBy ++
          js "\" is not an EXEC-layer seat — only the executive office authorizes exec-gated commits")

/-- What an authorization is refused for, over the record that carries it. -/
def authorizationFindings (record auth : JsValue) : Findings :=
  let issuer := auth.field (js "issued_by")
  let podPmLane := record.field (js "pod_pm_lane")
  let implementerLane := record.field (js "implementer_lane")
  Findings.refuseIf (!isNonBlankText (auth.field (js "token"))) (js "commit_authorization")
    (js "a commit without a valid EXEC-issued authorization token is rejected under commit_gate: exec") ++
  issuerFindings tables issuer ++
  Findings.refuseIf (isUnreadable tables podPmLane) (js "pod_pm_lane")
    (js "pod_pm_lane " ++ describeRoleSlotInput podPmLane ++
      js " is not a readable role slot — the SELF-ISSUED check cannot be evaluated against an unreadable lane") ++
  Findings.refuseIf (isUnreadable tables implementerLane) (js "implementer_lane")
    (js "implementer_lane " ++ describeRoleSlotInput implementerLane ++
      js " is not a readable role slot — the self-issue check cannot be evaluated against an unreadable lane") ++
  Findings.refuseIf ((canonicalRoleSlot tables podPmLane).isSome &&
      (canonicalRoleSlot tables issuer).isSome && roleSlotsEqual tables issuer podPmLane)
    (js "commit_authorization")
    (js "SELF-ISSUED token: a PM cannot authorize its own pod's commit — that is the exact pattern commit_gate: exec exists to prevent") ++
  Findings.refuseIf ((canonicalRoleSlot tables implementerLane).isSome &&
      (canonicalRoleSlot tables issuer).isSome && roleSlotsEqual tables issuer implementerLane)
    (js "commit_authorization")
    (js "the implementer cannot issue its own commit authorization") ++
  Findings.refuseIf (!isExactlyTrue (auth.field (js "verified_ground_truth")))
    (js "commit_authorization")
    (js "the token must be issued AFTER the EXEC independently verified ground truth (staged set == pathspec, blob hashes, parent SHA)")

def validateCommitGate (record : JsValue) : ValidationResult :=
  let authorization := record.field (js "commit_authorization")
  let findings :=
    Findings.refuseIf (isExactlyFalse (record.field (js "staged_ready"))) (js "staged_ready")
      (js "the pod must reach STAGED-READY (staged pathspec + independent QA) before any authorization is sought") ++
    (if isUndefined authorization then Findings.none
      else authorizationFindings tables record (asRecord authorization)) ++
    Findings.refuseIf (isExactlyTrue (record.field (js "committed")) &&
        !isExactlyTrue (record.field (js "exec_reverified"))) (js "exec_reverified")
      (js "the commit landed but the EXEC has not re-verified it — the sequence ends at EXEC_REVERIFIED, not COMMITTED")
  findings.result (validateRequiredFields record commitGateFields)

/-! ## Staffing -/

def authorityActionFields : List JsString :=
  [js "actor", js "action_type", js "authorized_by"]

def rosterMutations : List JsString :=
  [js "RESTAFF", js "RESTAFF_DEAD_SEAT", js "RESTAFF_ON_OWN_INITIATIVE", js "SELF_RESTAFF",
    js "SPAWN", js "SPAWN_SIBLING", js "CHANGE_MODEL", js "CHANGE_HARNESS",
    js "ROSTER_MUTATION", js "RENAME_SLOT", js "CLOSE_SLOT"]

/-- The canonical component of an action type, its hyphens as underscores. -/
def actionTypeOf (action : JsValue) : JsString :=
  ((canonicalRoleComponent tables (action.field (js "action_type"))).map underscored).getD []

/-- The canonical slot, or a rendering of what cannot be read. -/
def slotLabel (value : JsValue) : JsString :=
  (canonicalRoleSlot tables value).getD (describeRoleSlotInput value)

/-- A roster mutation needs a seat of the roster authority other than its actor. -/
def rosterFindings (actionType : JsString) (actor authorizer : JsValue) : Findings :=
  if roleSlotsEqual tables authorizer actor then
    Findings.refuseIf true (js "authorized_by")
      (if hasExecutiveAuthority tables (.ofNullable (canonicalRoleSlot tables actor)) then
        slotLabel tables actor ++ js " self-authorized a roster mutation (" ++ actionType ++
          js "): a taking-over EXEC inherits the roster LOCKED and reports up — it does not re-staff a dead seat on its own initiative"
      else
        slotLabel tables actor ++ js " attempted a self-authorized " ++ actionType ++
          js ": a worker never re-staffs itself, changes its own harness/model, or spins a sibling")
  else
    Findings.refuseIf
      (!hasRosterMutationAuthority tables (.ofNullable (canonicalRoleSlot tables authorizer)))
      (js "authorized_by")
      (js "roster mutation authorized by \"" ++ slotLabel tables authorizer ++
        js "\": roster mutation belongs solely to the operator or a Team-A EXEC")

def validateAuthorityAction (action : JsValue) : ValidationResult :=
  let actor := action.field (js "actor")
  let authorizer := action.field (js "authorized_by")
  let actionType := actionTypeOf tables action
  let isRosterMutation := rosterMutations.contains actionType
  let isLateralNegotiation := actionType == js "LATERAL_ROSTER_NEGOTIATION"
  let findings :=
    Findings.refuseIf (isUnreadable tables actor) (js "actor")
      (js "actor " ++ describeRoleSlotInput actor ++
        js " is not a readable role slot — an authority decision is never taken on an unreadable identity") ++
    Findings.refuseIf (isUnreadable tables authorizer) (js "authorized_by")
      (js "authorized_by " ++ describeRoleSlotInput authorizer ++
        js " is not a readable role slot — an authority decision is never taken on an unreadable identity") ++
    Findings.refuseIf (!isRosterMutation && !isLateralNegotiation) (js "action_type")
      (js "unrecognized action_type " ++
        describeRoleSlotInput (action.field (js "action_type")) ++
        js " is refused rather than treated as ungoverned") ++
    (if isRosterMutation && (canonicalRoleSlot tables actor).isSome &&
        (canonicalRoleSlot tables authorizer).isSome
      then rosterFindings tables actionType actor authorizer else Findings.none) ++
    Findings.refuseIf (isLateralNegotiation || isExactlyTrue (action.field (js "lateral")))
      (js "action_type")
      (js "lateral roster negotiation is a breach — downstream ODINs report UP the Team-A EXEC line")
  findings.result (validateRequiredFields action authorityActionFields)

end OdinSentinel.Authority
