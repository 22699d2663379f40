import OdinSentinel.Protocol.Receipts
import OdinSentinel.Registry.Verdicts

/-!
# Registry authority

How a reference to the registry resolves, and the five receipts that accept one.  With the
flag on, a receipt that carries a reference is decided by the log alone.
-/

namespace OdinSentinel.Receipts

open JsText Unicode Validators DeliveryProof Registry

/-! ## The flag -/

variable (tables : Tables)

def registryAuthorityTruthy : List JsString := [js "1", js "true", js "yes", js "on"]

/-- The flag is on unless the variable holds a text that says otherwise. -/
def isGovdispRegistryAuthorityEnabled (raw : Option JsString) : Bool :=
  let normalized := toLowerCase tables (trim (raw.getD []))
  normalized.isEmpty || registryAuthorityTruthy.contains normalized

/-! ## Resolution -/

/-- The store's `queryRegistryEvents`, with its base bound. -/
structure GovdispRegistryStoreLike where
  queryRegistryEvents : JsString → JsValue → Judged (List GovdispEvent)

def registryReceiptAuthorityEventClasses : List GovdispEventClass := [.terminal]

/-- `typeof value === "string" && value.trim() !== "" ? value : undefined`. -/
def nonBlankText (value : JsValue) : Option JsString :=
  value.asString.filter fun text => trim text != []

/-- A rejection in a text: its code and its field. -/
def rejectionText (rejection : EventRejection) : JsString :=
  rejection.code ++ js "(" ++ rejection.field ++ js ")"

/-- The event that a query's answer has under an id, and of a class that lends authority. -/
def resolveEvent (artifactLabel scope eventId : JsString)
    (queried : Judged (List GovdispEvent)) : RegistryAuthorityResolution :=
  match queried with
  | .error rejections => .unresolved
      (js "registry query for scope \"" ++ scope ++ js "\" failed closed: " ++
        joinComma (rejections.map rejectionText)) (some scope) (some eventId)
  | .ok events =>
      match events.find? fun candidate => candidate.eventId.1 == eventId with
      | none => .unresolved
          (js "no registry event with event_id \"" ++ eventId ++ js "\" exists in scope \"" ++
            scope ++ js "\"") (some scope) (some eventId)
      | some event =>
          if registryReceiptAuthorityEventClasses.contains event.eventClass then
            .resolved scope eventId (Spelled.text event.eventClass)
          else .unresolved
            (js "registry event \"" ++ eventId ++ js "\" is class " ++
              Spelled.text event.eventClass ++
              js ", which is not a receipt-authority class for a " ++ artifactLabel ++
              js " (accepted: " ++
              List.intercalate (js " | ")
                (registryReceiptAuthorityEventClasses.map Spelled.text) ++
              js ") — the event exists but does not match the artifact class")
            (some scope) (some eventId)

def storeUnavailableDetail : JsString :=
  js "store_unavailable: a registry store with a queryRegistryEvents function is required; construct one from the Wave-1 registry storage module and inject it"

/-- A reference is resolved by its own two texts and the store. -/
def resolveRegistryAuthority (store : Option GovdispRegistryStoreLike) (artifactLabel : JsString)
    (reference : JsValue) : RegistryAuthorityResolution :=
  match reference with
  | .object _ =>
      match nonBlankText (reference.field (js "scope")),
          nonBlankText (reference.field (js "event_id")) with
      | none, _ => .unresolved
          (js "registry_authority.scope must be a non-empty string naming the registry scope")
          none none
      | some scope, none => .unresolved
          (js "registry_authority.event_id must be a non-empty string naming the authority event")
          (some scope) none
      | some scope, some eventId =>
          match store with
          | none => .unresolved storeUnavailableDetail (some scope) (some eventId)
          | some store =>
              resolveEvent artifactLabel scope eventId
                (store.queryRegistryEvents scope (.object []))
  | _ => .unresolved
      (js "registry_authority must be an object \x7b scope, event_id \x7d naming the registry event that carries authority for this " ++
        artifactLabel) none none

def registryAuthorityOptions (raw : Option JsString)
    (store : Option GovdispRegistryStoreLike) : RegistryAuthorityOptions where
  enabled := isGovdispRegistryAuthorityEnabled tables raw
  resolve := resolveRegistryAuthority store

/-! ## The receipts -/

/-- What the data files of the protocol say of the receipts. -/
structure ProtocolData where
  delegation : DelegationContract
  bootReceipt : BootReceiptContract
  teamManifest : TeamManifestContract

variable (data : ProtocolData)

def validateInstructionReadProof (proof : JsValue) (options : RegistryAuthorityOptions) :
    RegistryModeValidationResult :=
  (adjudicateRegistryAuthority (js "instruction_read_proof") proof options).getD
    (withProseTransportAdvisory (validateInstructionReadProofProse proof) options)

def validateDelegationPacket (packet : JsValue) (options : RegistryAuthorityOptions) :
    RegistryModeValidationResult :=
  (adjudicateRegistryAuthority (js "delegation_packet") packet options).getD
    (withProseTransportAdvisory
      (validateDelegationPacketProse data.delegation packet options) options)

def validateBootReceipt (receipt : JsValue) (options : RegistryAuthorityOptions) :
    RegistryModeValidationResult :=
  (adjudicateRegistryAuthority (js "boot_receipt") receipt options).getD
    (withProseTransportAdvisory (validateBootReceiptProse data.bootReceipt receipt) options)

def validateTeamManifest (manifest : JsValue) (options : RegistryAuthorityOptions) :
    RegistryModeValidationResult :=
  (adjudicateRegistryAuthority (js "team_manifest") manifest options).getD
    (withProseTransportAdvisory
      (validateTeamManifestProse tables data.teamManifest manifest) options)

/-- The artifacts that accept a registry authority. -/
inductive Receipt
  | deliveryProof
  | instructionReadProof
  | delegationPacket
  | bootReceipt
  | teamManifest

def Receipt.label : Receipt → JsString
  | .deliveryProof => js "cmux_delivery_proof"
  | .instructionReadProof => js "instruction_read_proof"
  | .delegationPacket => js "delegation_packet"
  | .bootReceipt => js "boot_receipt"
  | .teamManifest => js "team_manifest"

/-- The validator of a receipt. -/
def Receipt.validate (receipt : Receipt) (payload : JsValue)
    (options : RegistryAuthorityOptions) : RegistryModeValidationResult :=
  match receipt with
  | .deliveryProof => (validateCmuxDeliveryProof payload options).toRegistryModeValidationResult
  | .instructionReadProof => validateInstructionReadProof payload options
  | .delegationPacket => validateDelegationPacket data payload options
  | .bootReceipt => validateBootReceipt data payload options
  | .teamManifest => validateTeamManifest tables data payload options

/-- What its prose says of a receipt. -/
def Receipt.prose (receipt : Receipt) (payload : JsValue) (options : RegistryAuthorityOptions) :
    ValidationResult :=
  match receipt with
  | .deliveryProof => (validateCmuxDeliveryProofProse payload).toValidationResult
  | .instructionReadProof => validateInstructionReadProofProse payload
  | .delegationPacket => validateDelegationPacketProse data.delegation payload options
  | .bootReceipt => validateBootReceiptProse data.bootReceipt payload
  | .teamManifest => validateTeamManifestProse tables data.teamManifest payload

/-! ## Who decides -/

variable {tables data} {options : RegistryAuthorityOptions} {payload other reference : JsValue}
  {label scope eventId : JsString}

/-- The prose is asked only where the registry is not. -/
theorem Receipt.validate_eq (receipt : Receipt) :
    receipt.validate tables data payload options =
      (adjudicateRegistryAuthority receipt.label payload options).getD
        (withProseTransportAdvisory (receipt.prose tables data payload options) options) := by
  cases receipt <;> rfl

theorem adjudicated_congr
    (hsame : payload.field (js "registry_authority") = other.field (js "registry_authority")) :
    adjudicateRegistryAuthority label payload options =
      adjudicateRegistryAuthority label other options := by
  unfold adjudicateRegistryAuthority
  rw [hsame]

/-- A receipt that is valid exactly where its reference resolves. -/
structure DecidedBy (resolution : RegistryAuthorityResolution)
    (result : RegistryModeValidationResult) : Prop where
  missing : result.missing = []
  registryAuthority : result.registryAuthority = some resolution
  resolved : ∀ scope eventId eventClass, resolution = .resolved scope eventId eventClass →
    result.valid = true ∧ result.invalid = [] ∧ result.authority = some .registry
  unresolved : ∀ detail scope eventId, resolution = .unresolved detail scope eventId →
    result.valid = false ∧ result.invalid = [js "registry_authority"] ∧ result.authority = none

/-- With the flag on, a reference is adjudicated on its own. -/
theorem exists_adjudicated (henabled : options.enabled = true)
    (hreference : isNullish (payload.field (js "registry_authority")) = false) :
    ∃ result, adjudicateRegistryAuthority label payload options = some result ∧
      DecidedBy (options.resolve label (payload.field (js "registry_authority"))) result := by
  rw [adjudicateRegistryAuthority]
  dsimp only
  rw [henabled, hreference, Bool.not_true, Bool.false_or, if_neg Bool.false_ne_true]
  cases options.resolve label (payload.field (js "registry_authority")) with
  | resolved scope eventId eventClass =>
      exact ⟨_, rfl, rfl, rfl, fun _ _ _ _ => ⟨rfl, rfl, rfl⟩, by rintro _ _ _ ⟨⟩⟩
  | unresolved detail scope eventId =>
      exact ⟨_, rfl, rfl, rfl, by rintro _ _ _ ⟨⟩, fun _ _ _ _ => ⟨rfl, rfl, rfl⟩⟩

/-! ## The log -/

/-- A store over the logs of its scopes. -/
def logStore (runtime : Runtime) (logs : JsString → JsString) : GovdispRegistryStoreLike where
  queryRegistryEvents scope query := queryOf runtime scope query (logs scope)

theorem matchesQuery_all (event : GovdispEvent) : matchesQuery (.object []) event = true := rfl

theorem logStore_all (runtime : Runtime) (logs : JsString → JsString) (scope : JsString) :
    (logStore runtime logs).queryRegistryEvents scope (.object []) =
      eventsOf runtime scope (logs scope) := by
  have hquery : validateRegistryEventQuery (.object []) = [] := rfl
  have hall : ∀ events : List GovdispEvent,
      events.filter (matchesQuery (.object [])) = events := by
    intro events
    apply List.filter_eq_self.mpr
    intro event _
    exact matchesQuery_all event
  simp only [logStore, queryOf, hquery, queryEvents, hall]
  cases eventsOf runtime scope (logs scope) <;> rfl

/-- The first event under the id is a terminal one, in a log that can be read. -/
def FirstIsTerminal (runtime : Runtime) (logs : JsString → JsString) (scope eventId : JsString) :
    Prop :=
  ∃ events event, eventsOf runtime scope (logs scope) = .ok events ∧
    (events.find? fun candidate => candidate.eventId.1 == eventId) = some event ∧
    event.eventClass = .terminal

/-- A reference names an event by two texts. -/
def Refers (reference : JsValue) (scope eventId : JsString) : Prop :=
  reference.field (js "scope") = .string scope ∧
    reference.field (js "event_id") = .string eventId

theorem resolveEvent_resolved_iff {runtime : Runtime} {logs : JsString → JsString} :
    (∃ found id eventClass, resolveEvent label scope eventId
      (eventsOf runtime scope (logs scope)) = .resolved found id eventClass) ↔
      FirstIsTerminal runtime logs scope eventId := by
  unfold resolveEvent FirstIsTerminal
  cases eventsOf runtime scope (logs scope) with
  | error rejections => simp
  | ok events =>
      cases hfound : events.find? fun candidate => candidate.eventId.1 == eventId with
      | none => simp [hfound]
      | some event =>
          by_cases hterminal : event.eventClass = .terminal
          · simp [hfound, hterminal, registryReceiptAuthorityEventClasses]
          · simp [hfound, hterminal, registryReceiptAuthorityEventClasses]

theorem nonBlankText_eq_some_iff {value : JsValue} {text : JsString} :
    nonBlankText value = some text ↔ value = .string text ∧ trim text ≠ [] := by
  rw [nonBlankText, Option.filter_eq_some_iff]
  cases value <;> simp [JsValue.asString]

/-- The event that a reference names, by an id that is no blank text, is a terminal one. -/
def NamesTerminal (runtime : Runtime) (logs : JsString → JsString) (reference : JsValue) : Prop :=
  ∃ scope eventId, Refers reference scope eventId ∧ trim eventId ≠ [] ∧
    FirstIsTerminal runtime logs scope eventId

theorem FirstIsTerminal.scope_ne_blank {runtime : Runtime} {logs : JsString → JsString}
    (hterminal : FirstIsTerminal runtime logs scope eventId) : trim scope ≠ [] := by
  obtain ⟨events, -, hevents, -⟩ := hterminal
  apply trim_ne_nil_of_safe
  by_contra hrefused
  rw [Bool.not_eq_true] at hrefused
  rw [eventsOf, hrefused] at hevents
  cases hevents

/-- A reference resolves over the logs exactly where it names a terminal event. -/
theorem resolveRegistryAuthority_resolved_iff {runtime : Runtime} {logs : JsString → JsString} :
    (∃ scope eventId eventClass,
      resolveRegistryAuthority (some (logStore runtime logs)) label reference =
        .resolved scope eventId eventClass) ↔
      NamesTerminal runtime logs reference := by
  constructor
  · rintro ⟨scope, eventId, eventClass, hresolved⟩
    unfold resolveRegistryAuthority at hresolved
    split at hresolved
    · split at hresolved
      · cases hresolved
      · cases hresolved
      · rename_i found id hscope hid
        obtain ⟨hscopeText, -⟩ := nonBlankText_eq_some_iff.mp hscope
        obtain ⟨hidText, hblank⟩ := nonBlankText_eq_some_iff.mp hid
        refine ⟨found, id, ⟨hscopeText, hidText⟩, hblank, ?_⟩
        rw [← @resolveEvent_resolved_iff label, ← logStore_all]
        exact ⟨_, _, _, hresolved⟩
    · cases hresolved
  · rintro ⟨scope, eventId, ⟨hscopeText, hidText⟩, hblank, hterminal⟩
    obtain ⟨found, id, eventClass, hresolved⟩ :=
      (@resolveEvent_resolved_iff label _ _ _ _).mpr hterminal
    refine ⟨found, id, eventClass, ?_⟩
    cases reference with
    | object fields =>
        simp only [resolveRegistryAuthority,
          nonBlankText_eq_some_iff.mpr ⟨hscopeText, hterminal.scope_ne_blank⟩,
          nonBlankText_eq_some_iff.mpr ⟨hidText, hblank⟩, logStore_all, hresolved]
    | _ => cases hscopeText

/-- With the flag on, two payloads with one reference are judged alike; the reference decides
alone, and a receipt whose reference does not resolve is refused for it. -/
theorem registry_decides (tables : Tables) (data : ProtocolData) (runtime : Runtime)
    (logs : JsString → JsString) (raw : Option JsString)
    (henabled : isGovdispRegistryAuthorityEnabled tables raw = true) (receipt : Receipt)
    (payload other : JsValue)
    (hsame : payload.field (js "registry_authority") = other.field (js "registry_authority"))
    (hreference : isNullish (payload.field (js "registry_authority")) = false) :
    let options := registryAuthorityOptions tables raw (some (logStore runtime logs))
    let result := receipt.validate tables data payload options
    let otherResult := receipt.validate tables data other options
    (result.valid = otherResult.valid ∧ result.missing = otherResult.missing ∧
      result.invalid = otherResult.invalid ∧
      result.registryAuthority = otherResult.registryAuthority) ∧
    (result.valid = true ↔
      NamesTerminal runtime logs (payload.field (js "registry_authority"))) ∧
    ∀ detail scope eventId,
      result.registryAuthority = some (.unresolved detail scope eventId) →
        result.valid = false ∧ result.invalid = [js "registry_authority"] ∧
          result.authority = none := by
  intro options result otherResult
  obtain ⟨adjudicated, hadjudicated, hdecided⟩ :=
    @exists_adjudicated options payload receipt.label henabled hreference
  have hresult : result = adjudicated := by
    calc
      result = (adjudicateRegistryAuthority receipt.label payload options).getD _ :=
        receipt.validate_eq
      _ = adjudicated := by rw [hadjudicated, Option.getD_some]
  have hotherResult : otherResult = adjudicated := by
    calc
      otherResult = (adjudicateRegistryAuthority receipt.label other options).getD _ :=
        receipt.validate_eq
      _ = (adjudicateRegistryAuthority receipt.label payload options).getD _ := by
        rw [adjudicated_congr hsame]
      _ = adjudicated := by rw [hadjudicated, Option.getD_some]
  rw [hresult, hotherResult]
  refine ⟨⟨rfl, rfl, rfl, rfl⟩, ?_, ?_⟩
  · rw [← @resolveRegistryAuthority_resolved_iff _ receipt.label]
    cases hresolution : resolveRegistryAuthority (some (logStore runtime logs)) receipt.label
        (payload.field (js "registry_authority")) with
    | resolved scope eventId eventClass =>
        apply iff_of_true (hdecided.resolved scope eventId eventClass hresolution).1
        exact ⟨scope, eventId, eventClass, rfl⟩
    | unresolved detail scope eventId =>
        rw [(hdecided.unresolved detail scope eventId hresolution).1]
        apply iff_of_false Bool.false_ne_true
        rintro ⟨_, _, _, ⟨⟩⟩
  · intro detail scope eventId hauthority
    rw [hdecided.registryAuthority] at hauthority
    exact hdecided.unresolved detail scope eventId (Option.some.inj hauthority)

/-! ### Two ids -/

/-- A completed artifact under an id. -/
def completion (eventId : NonEmptyText) : GovdispEvent :=
  { startedAttempt firstObjective with
    eventId
    body := .terminal .terminalCompleted
      ⟨[{ path := ⟨js "proof.json", by decide⟩, sha256 := ⟨js "5e884898", by decide⟩ }],
        List.cons_ne_nil _ _⟩ }

/-- Every scope's log is the one completion. -/
def completionLogs (eventId : NonEmptyText) : JsString → JsString :=
  fun _ => joinLines ([completion eventId].map (eventLine (plainRuntime [])))

theorem completion_first (eventId : NonEmptyText) :
    FirstIsTerminal (plainRuntime []) (completionLogs eventId) (js "wave") eventId.1 := by
  refine ⟨[completion eventId], completion eventId, ?_, ?_, rfl⟩
  · have hsafe : isSafeRegistryScope (js "wave") = true := by decide
    rw [eventsOf, hsafe, Bool.not_true, if_neg Bool.false_ne_true, readEvents_ledger]
    exact ⟨readable_events _, (ledger_events _).symm⟩
  · simp [completion]

/-- A payload that says nothing but which event it relies on. -/
def referring (eventId : JsString) : JsValue := .object
  [(js "registry_authority", .object
    [(js "scope", .string (js "wave")), (js "event_id", .string eventId)])]

/-- Data files without lists. -/
def plainData : ProtocolData where
  delegation := { requiredFields := [], authorityFields := [], visibilityFields := [],
                  receiptTypes := [] }
  bootReceipt := { requiredFields := [], staffingAudit := .undefined }
  teamManifest := { requiredFields := [], roleSlotFields := [], layoutLocatorFields := [],
                    readinessStatuses := [], scpContextSources := [] }

/-- The same with a remark on the side. -/
def remarking (eventId : JsString) : JsValue := .object
  [(js "remark", .string (js "done")),
    (js "registry_authority", .object
      [(js "scope", .string (js "wave")), (js "event_id", .string eventId)])]

theorem registry_decides_completion :
    let options := registryAuthorityOptions smallTables none
      (some (logStore (plainRuntime []) (completionLogs ⟨js "evt-1", by decide⟩)))
    (Receipt.validate smallTables plainData .bootReceipt (referring (js "evt-1")) options).valid =
        true ∧
      (Receipt.validate smallTables plainData .bootReceipt (remarking (js "evt-1"))
        options).valid = true := by
  have hreference : isNullish ((referring (js "evt-1")).field (js "registry_authority")) =
      false := rfl
  obtain ⟨⟨hvalid, -⟩, hnames, -⟩ := registry_decides smallTables plainData (plainRuntime [])
    (completionLogs ⟨js "evt-1", by decide⟩) none (by decide) .bootReceipt
    (referring (js "evt-1")) (remarking (js "evt-1")) rfl hreference
  have hreferring := hnames.mpr ⟨js "wave", js "evt-1", ⟨rfl, rfl⟩, by decide,
    completion_first ⟨js "evt-1", by decide⟩⟩
  exact ⟨hreferring, hvalid.symm.trans hreferring⟩

/-- A log may hold an id that is one blank, and no reference to it resolves. -/
theorem blankId_unresolved : ¬∀ tables data runtime logs raw,
    isGovdispRegistryAuthorityEnabled tables raw = true →
    ∀ (receipt : Receipt) (payload : JsValue),
      isNullish (payload.field (js "registry_authority")) = false →
      ((receipt.validate tables data payload
          (registryAuthorityOptions tables raw (some (logStore runtime logs)))).valid = true ↔
        ∃ scope eventId, Refers (payload.field (js "registry_authority")) scope eventId ∧
          FirstIsTerminal runtime logs scope eventId) := by
  intro hresolves
  have hvalid := (hresolves smallTables plainData (plainRuntime []) (completionLogs blankText) none
    (by decide) .bootReceipt (referring blankText.1) rfl).mpr
    ⟨js "wave", blankText.1, ⟨rfl, rfl⟩, completion_first blankText⟩
  obtain ⟨adjudicated, hadjudicated, hdecided⟩ :=
    @exists_adjudicated
      (registryAuthorityOptions smallTables none
        (some (logStore (plainRuntime []) (completionLogs blankText))))
      (referring blankText.1) (Receipt.label .bootReceipt) (by decide) rfl
  have hrefused := (hdecided.unresolved _ _ _ rfl).1
  rw [Receipt.validate_eq, hadjudicated, Option.getD_some, hrefused] at hvalid
  cases hvalid

end OdinSentinel.Receipts
