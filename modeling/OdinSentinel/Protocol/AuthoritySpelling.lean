import OdinSentinel.Core.JsonParse
import OdinSentinel.Protocol.ClosureIndependence
import OdinSentinel.Protocol.KindOfSlot

/-!
# Authority and spelling

Two runs of a validator on inputs whose identity fields name the same seats find
the same: every identity is read through its canonical slot, and its raw text is
only shown where there is none.
-/

namespace OdinSentinel.Authority

open JsText Unicode RoleIdentity Validators

variable {tables : Tables}

/-! ## Canonical slots -/

/-- A canonical slot is its own canonical slot. -/
theorem canonicalRoleSlot_canonical (hstandard : Standard tables) {value : JsValue}
    {canonical : JsString} (hslot : canonicalRoleSlot tables value = some canonical) :
    canonicalRoleSlot tables (.string canonical) = some canonical := by
  cases value with
  | string text =>
      rcases canonicalRoleSlot_eq_some hslot with ⟨piece, -, hcomponent⟩ |
        ⟨first, second, team, role, -, hteam, hrole, rfl⟩
      · obtain ⟨hnil, htext⟩ := mem_canonicalComponent (canonicalComponent_eq_some hcomponent).2
        have hfold : foldRoleInput tables canonical = canonical :=
          foldRoleInput_slot hstandard fun unit hmem => componentUnit_slotUnit (htext unit hmem)
        have hsplit : canonical.splitOn 47 = [canonical] :=
          List.splitOn_eq_singleton (canonicalComponent_no_slash hcomponent)
        rw [canonicalRoleSlot, parseRoleSlot]
        simp only [hfold, if_neg hnil, hsplit, List.map_cons, List.map_nil,
          canonicalComponent_canonical hcomponent, Option.map_some]
      · obtain ⟨-, hteamText⟩ := mem_canonicalComponent (canonicalComponent_eq_some hteam).2
        obtain ⟨-, hroleText⟩ := mem_canonicalComponent (canonicalComponent_eq_some hrole).2
        have hfold : foldRoleInput tables (team ++ 47 :: role) = team ++ 47 :: role := by
          apply foldRoleInput_slot hstandard
          intro unit hmem
          rcases List.mem_append.mp hmem with hmem | hmem
          · exact componentUnit_slotUnit (hteamText unit hmem)
          · rcases List.mem_cons.mp hmem with hslash | hmem
            · exact .inr (.inr hslash)
            · exact componentUnit_slotUnit (hroleText unit hmem)
        have hsplit : (team ++ 47 :: role).splitOn 47 = [team, role] := by
          rw [List.splitOn_append_cons_self,
            List.splitOn_eq_singleton (canonicalComponent_no_slash hteam),
            List.splitOn_eq_singleton (canonicalComponent_no_slash hrole)]
          rfl
        have hslash : js "/" = [47] := by decide
        rw [canonicalRoleSlot, parseRoleSlot]
        simp only [hfold, hsplit, List.map_cons, List.map_nil,
          canonicalComponent_canonical hteam, canonicalComponent_canonical hrole, hslash]
        rw [if_neg (by simp)]
        simp
  | _ => cases hslot

/-- Normalising a blank text leaves it blank. -/
def KeepsBlanks (tables : Tables) : Prop :=
  ∀ text, (∀ unit ∈ text, isSpace unit = true) →
    ∀ unit ∈ tables.toNFKC text, isSpace unit = true

theorem smallCompat_space {unit : UInt16} (hspace : isSpace unit = true) :
    ∀ target ∈ smallCompat unit, isSpace target = true := by
  intro target htarget
  have hcode := hspace
  simp only [isSpace, isSpaceCode, Bool.or_eq_true, Bool.and_eq_true, decide_eq_true_eq,
    beq_iff_eq] at hcode
  unfold smallCompat at htarget
  dsimp only at htarget
  rw [if_neg (by omega)] at htarget
  split at htarget
  · obtain rfl := List.mem_singleton.mp htarget
    rfl
  · repeat rw [if_neg (by omega)] at htarget
    obtain rfl := List.mem_singleton.mp htarget
    exact hspace

theorem smallTables_keepsBlanks : KeepsBlanks smallTables := by
  intro text htext unit hunit
  obtain ⟨source, hsource, htarget⟩ := List.mem_flatMap.mp hunit
  exact smallCompat_space (htext source hsource) unit htarget

theorem foldRoleInput_blank (hstandard : Standard tables) (hblanks : KeepsBlanks tables)
    {text : JsString} (htext : trim text = []) : foldRoleInput tables text = [] := by
  have hspaces : ∀ unit ∈ foldVisible tables text, isSpace unit = true := by
    intro unit hmem
    rcases Text.mem_replaceRuns hmem with rfl | ⟨hmem, hspace⟩
    · rfl
    · obtain ⟨source, hsource, rfl⟩ := List.mem_map.mp hmem
      have hblank := hblanks text ((Text.trimBy_eq_nil_iff isSpace text).mp htext) source
        (List.mem_of_mem_filter hsource)
      have hfold : foldHyphen source = source := by
        rw [foldHyphen, if_neg]
        rintro (rfl | rfl) <;> exact absurd hblank (by decide)
      rw [hfold, hblank] at hspace
      cases hspace
  have hnil : foldBeforeCase tables text = [] :=
    (Text.trimBy_eq_nil_iff isSpace _).mpr hspaces
  rw [foldRoleInput, hnil]
  exact toUpperCase_slot hstandard (by simp)

/-- A readable slot is not blank. -/
theorem not_blank_of_slot (hstandard : Standard tables) (hblanks : KeepsBlanks tables)
    {value : JsValue} {canonical : JsString}
    (hslot : canonicalRoleSlot tables value = some canonical) : isBlankText value = false := by
  cases value with
  | string text =>
      by_contra hblank
      have htrim : trim text = [] := by simpa [isBlankText] using hblank
      have hfold := foldRoleInput_blank hstandard hblanks htrim
      simp [canonicalRoleSlot, parseRoleSlot, hfold] at hslot
  | _ => rfl

/-! ## Spelling a field otherwise -/

/-- One value, or two strings with one canonical slot. -/
inductive SameSeat (tables : Tables) : JsValue → JsValue → Prop
  | same (value : JsValue) : SameSeat tables value value
  | respelled {spelling other canonical : JsString}
      (hspelling : canonicalRoleSlot tables (.string spelling) = some canonical)
      (hother : canonicalRoleSlot tables (.string other) = some canonical) :
      SameSeat tables (.string spelling) (.string other)

/-- One value, or two objects whose fields are alike. -/
inductive Fieldwise (alike : JsString → JsValue → JsValue → Prop) : JsValue → JsValue → Prop
  | same (value : JsValue) : Fieldwise alike value value
  | record {fields others : List (JsString × JsValue)}
      (hfields : ∀ name, alike name ((JsValue.object fields).field name)
        ((JsValue.object others).field name)) :
      Fieldwise alike (.object fields) (.object others)

/-- The named fields name the same seats, the others are equal. -/
def Seats (tables : Tables) (names : List JsString) (name : JsString) (left right : JsValue) :
    Prop :=
  if name ∈ names then SameSeat tables left right else left = right

/-- The two lanes of a commit record and the issuer of its authorization. -/
def CommitSeats (tables : Tables) (name : JsString) (left right : JsValue) : Prop :=
  if name = js "commit_authorization" then
    Fieldwise (Seats tables [js "issued_by"]) left right
  else Seats tables [js "pod_pm_lane", js "implementer_lane"] name left right

/-- The actor of an action and its authorizer. -/
def ActionSeats (tables : Tables) : JsString → JsValue → JsValue → Prop :=
  Seats tables [js "actor", js "authorized_by"]

/-- Two lists of verdicts that differ in their emitters' spellings. -/
inductive VerdictSeats (tables : Tables) : JsValue → JsValue → Prop
  | same (value : JsValue) : VerdictSeats tables value value
  | emitters {items others : List JsValue}
      (hitems : List.Forall₂ (Fieldwise (Seats tables [js "emitted_by"])) items others) :
      VerdictSeats tables (.array items) (.array others)

/-- The two parties of a closure claim and the emitters of its verdicts. -/
def ClosureSeats (tables : Tables) (name : JsString) (left right : JsValue) : Prop :=
  if name = js "verdicts" then VerdictSeats tables left right
  else Seats tables [js "implementer_lane", js "closing_authority"] name left right

namespace SameSeat

variable {left right left' right' : JsValue}

theorem canonical (hseat : SameSeat tables left right) :
    canonicalRoleSlot tables left = canonicalRoleSlot tables right := by
  cases hseat with
  | same => rfl
  | respelled hspelling hother => exact hspelling.trans hother.symm

theorem isNullish (hseat : SameSeat tables left right) :
    Validators.isNullish left = Validators.isNullish right := by
  cases hseat <;> rfl

theorem isBlankText (hstandard : Standard tables) (hblanks : KeepsBlanks tables)
    (hseat : SameSeat tables left right) :
    Validators.isBlankText left = Validators.isBlankText right := by
  cases hseat with
  | same => rfl
  | respelled hspelling hother =>
      rw [not_blank_of_slot hstandard hblanks hspelling,
        not_blank_of_slot hstandard hblanks hother]

/-- Only a value that is no slot keeps its raw text. -/
theorem eq_of_unreadable (hseat : SameSeat tables left right)
    (hslot : canonicalRoleSlot tables left = none) : left = right := by
  cases hseat with
  | same => rfl
  | respelled hspelling hother =>
      rw [hspelling] at hslot
      cases hslot

theorem describe_of_unreadable (hseat : SameSeat tables left right)
    (hslot : canonicalRoleSlot tables left = none) :
    describeRoleSlotInput left = describeRoleSlotInput right :=
  congrArg describeRoleSlotInput (hseat.eq_of_unreadable hslot)

theorem slotLabel (hseat : SameSeat tables left right) :
    Authority.slotLabel tables left = Authority.slotLabel tables right := by
  cases hslot : canonicalRoleSlot tables left with
  | none => rw [hseat.eq_of_unreadable hslot]
  | some slot =>
      rw [Authority.slotLabel, hslot, Authority.slotLabel, ← hseat.canonical, hslot]
      rfl

theorem roleSlotsEqual (hseat : SameSeat tables left right)
    (hseat' : SameSeat tables left' right') :
    RoleIdentity.roleSlotsEqual tables left left' =
      RoleIdentity.roleSlotsEqual tables right right' := by
  rw [RoleIdentity.roleSlotsEqual, hseat.canonical, hseat'.canonical]
  rfl

theorem isUnreadable (hseat : SameSeat tables left right) :
    Authority.isUnreadable tables left = Authority.isUnreadable tables right := by
  rw [Authority.isUnreadable, hseat.isNullish, hseat.canonical]
  rfl

/-- A rule on an unreadable identity, its text showing the raw value. -/
theorem refuseIf_unreadable (hseat : SameSeat tables left right)
    {holds : JsValue → Bool} (hsame : holds left = holds right)
    (hholds : holds left = true → canonicalRoleSlot tables left = none)
    (name lead tail : JsString) :
    Findings.refuseIf (holds left) name (lead ++ describeRoleSlotInput left ++ tail) =
      Findings.refuseIf (holds right) name (lead ++ describeRoleSlotInput right ++ tail) := by
  cases hleft : holds left with
  | false =>
      rw [← hsame, hleft]
      rfl
  | true => rw [← hsame, hleft, hseat.describe_of_unreadable (hholds hleft)]

end SameSeat

namespace Fieldwise

variable {alike : JsString → JsValue → JsValue → Prop} {left right : JsValue}

theorem field (hsame : ∀ name value, alike name value value)
    (hrecord : Fieldwise alike left right) (name : JsString) :
    alike name (left.field name) (right.field name) := by
  cases hrecord with
  | same => exact hsame name _
  | record hfields => exact hfields name

theorem asRecord (hrecord : Fieldwise alike left right) :
    Fieldwise alike (Validators.asRecord left) (Validators.asRecord right) := by
  cases hrecord with
  | same => exact .same _
  | record hfields => exact .record hfields

theorem isUndefined (hrecord : Fieldwise alike left right) :
    Authority.isUndefined left = Authority.isUndefined right := by
  cases hrecord <;> rfl

end Fieldwise

theorem Seats.refl (names : List JsString) (name : JsString) (value : JsValue) :
    Seats tables names name value value := by
  rw [Seats]
  split
  · exact .same value
  · rfl

theorem CommitSeats.refl (name : JsString) (value : JsValue) :
    CommitSeats tables name value value := by
  rw [CommitSeats]
  split
  · exact .same value
  · exact Seats.refl _ name value

theorem ClosureSeats.refl (name : JsString) (value : JsValue) :
    ClosureSeats tables name value value := by
  rw [ClosureSeats]
  split
  · exact .same value
  · exact Seats.refl _ name value

/-- `{ ...value, [name]: other }` where the field is there. -/
def overwrite (value : JsValue) (name : JsString) (other : JsValue) : JsValue :=
  match value with
  | .object fields =>
      .object (fields.map fun entry => if entry.1 = name then (name, other) else entry)
  | value => value

theorem lookup_cons_eq (key : JsString) (current : JsValue)
    (rest : List (JsString × JsValue)) (name : JsString) :
    ((key, current) :: rest).lookup name = if name = key then some current else rest.lookup name := by
  by_cases hname : name = key
  · simp [hname]
  · have hbeq : (name == key) = false := beq_false_of_ne hname
    rw [List.lookup_cons, hbeq, if_neg hname]

theorem lookup_map_overwrite (fields : List (JsString × JsValue)) (name : JsString)
    (value : JsValue) (other : JsString) :
    (fields.map fun entry => if entry.1 = name then (name, value) else entry).lookup other =
      if other = name then (fields.lookup name).map fun _ => value else fields.lookup other := by
  induction fields with
  | nil => simp
  | cons entry rest ih =>
      obtain ⟨key, current⟩ := entry
      rw [List.map_cons]
      by_cases hkey : key = name
      · subst hkey
        rw [if_pos rfl, lookup_cons_eq, ih, lookup_cons_eq, lookup_cons_eq, if_pos rfl]
        split <;> rfl
      · rw [if_neg hkey, lookup_cons_eq, ih, lookup_cons_eq, lookup_cons_eq, if_neg (Ne.symm hkey)]
        by_cases hother : other = key
        · subst hother
          rw [if_pos rfl, if_neg hkey, if_pos rfl]
        · rw [if_neg hother, if_neg hother]

/-- Overwriting one field by a value alike leaves the record alike. -/
theorem fieldwise_overwrite {alike : JsString → JsValue → JsValue → Prop} {record value : JsValue}
    {name : JsString} (hsame : ∀ name value, alike name value value)
    (hpresent : record.field name ≠ .undefined) (halike : alike name (record.field name) value) :
    Fieldwise alike record (overwrite record name value) := by
  cases record with
  | object fields =>
      apply Fieldwise.record
      intro other
      simp only [JsValue.field, lookup_map_overwrite] at hpresent halike ⊢
      by_cases hother : other = name
      · subst hother
        cases hlookup : fields.lookup other with
        | none => simp [hlookup] at hpresent
        | some current => simpa [hlookup] using halike
      · rw [if_neg hother]
        exact hsame other _
  | _ => exact .same _

/-- Whether a required field counts as missing. -/
def isMissing (value : JsValue) : Bool := isNullish value || isBlankText value

theorem Seats.isMissing (hstandard : Standard tables) (hblanks : KeepsBlanks tables)
    {names : List JsString} {name : JsString} {left right : JsValue}
    (hseats : Seats tables names name left right) :
    Authority.isMissing left = Authority.isMissing right := by
  rw [Seats] at hseats
  split at hseats
  · rw [Authority.isMissing, hseats.isNullish, hseats.isBlankText hstandard hblanks]
    rfl
  · rw [hseats]

theorem validateRequiredFields_congr {left right : JsValue} {names : List JsString}
    (hnames : ∀ name ∈ names, isMissing (left.field name) = isMissing (right.field name)) :
    validateRequiredFields left names = validateRequiredFields right names :=
  List.filter_congr hnames

/-! ## Commits -/

theorem issuerFindings_congr {left right : JsValue} (hseat : SameSeat tables left right) :
    issuerFindings tables left = issuerFindings tables right := by
  cases hslot : canonicalRoleSlot tables left with
  | none => rw [hseat.eq_of_unreadable hslot]
  | some slot =>
      unfold issuerFindings
      rw [← hseat.canonical, hslot]

theorem isUnreadable_slot {value : JsValue} (hunreadable : isUnreadable tables value = true) :
    canonicalRoleSlot tables value = none := by
  simp only [isUnreadable, Bool.and_eq_true, Option.isNone_iff_eq_none] at hunreadable
  exact hunreadable.2

theorem authorizationFindings_congr {record other auth auth' : JsValue}
    (hrecord : Fieldwise (CommitSeats tables) record other)
    (hauth : Fieldwise (Seats tables [js "issued_by"]) auth auth') :
    authorizationFindings tables record auth = authorizationFindings tables other auth' := by
  have hissuer : SameSeat tables (auth.field (js "issued_by")) (auth'.field (js "issued_by")) :=
    hauth.field (Seats.refl _) (js "issued_by")
  have hpodPm : SameSeat tables (record.field (js "pod_pm_lane"))
      (other.field (js "pod_pm_lane")) := hrecord.field CommitSeats.refl (js "pod_pm_lane")
  have himplementer : SameSeat tables (record.field (js "implementer_lane"))
      (other.field (js "implementer_lane")) :=
    hrecord.field CommitSeats.refl (js "implementer_lane")
  have htoken : auth.field (js "token") = auth'.field (js "token") :=
    hauth.field (Seats.refl _) (js "token")
  have hverified : auth.field (js "verified_ground_truth") =
      auth'.field (js "verified_ground_truth") :=
    hauth.field (Seats.refl _) (js "verified_ground_truth")
  have hpodPmText := hpodPm.refuseIf_unreadable hpodPm.isUnreadable isUnreadable_slot
  have himplementerText :=
    himplementer.refuseIf_unreadable himplementer.isUnreadable isUnreadable_slot
  simp only [authorizationFindings, htoken, hverified, issuerFindings_congr hissuer, hpodPmText,
    himplementerText, hissuer.canonical, hpodPm.canonical, himplementer.canonical,
    hissuer.roleSlotsEqual hpodPm, hissuer.roleSlotsEqual himplementer]

/-- A commit record is judged by the seats it names. -/
theorem validateCommitGate_congr (hstandard : Standard tables) (hblanks : KeepsBlanks tables)
    {record other : JsValue} (hrecord : Fieldwise (CommitSeats tables) record other) :
    validateCommitGate tables record = validateCommitGate tables other := by
  have hfield := hrecord.field CommitSeats.refl
  have hauth : Fieldwise (Seats tables [js "issued_by"])
      (record.field (js "commit_authorization")) (other.field (js "commit_authorization")) :=
    hfield (js "commit_authorization")
  have hstaged : record.field (js "staged_ready") = other.field (js "staged_ready") :=
    hfield (js "staged_ready")
  have hcommitted : record.field (js "committed") = other.field (js "committed") :=
    hfield (js "committed")
  have hverified : record.field (js "exec_reverified") = other.field (js "exec_reverified") :=
    hfield (js "exec_reverified")
  have hmissing : validateRequiredFields record commitGateFields =
      validateRequiredFields other commitGateFields := by
    apply validateRequiredFields_congr
    intro name _
    by_cases hname : name = js "commit_authorization"
    · subst hname
      generalize record.field (js "commit_authorization") = left at hauth
      generalize other.field (js "commit_authorization") = right at hauth
      cases hauth <;> rfl
    · have hseats := hfield name
      rw [CommitSeats, if_neg hname] at hseats
      exact hseats.isMissing hstandard hblanks
  simp only [validateCommitGate, hstaged, hcommitted, hverified, hmissing, hauth.isUndefined,
    authorizationFindings_congr hrecord hauth.asRecord]

/-! ## Staffing -/

theorem rosterFindings_congr {actor actor' authorizer authorizer' : JsValue}
    (hactor : SameSeat tables actor actor') (hauthorizer : SameSeat tables authorizer authorizer')
    (actionType : JsString) :
    rosterFindings tables actionType actor authorizer =
      rosterFindings tables actionType actor' authorizer' := by
  simp only [rosterFindings, hauthorizer.roleSlotsEqual hactor, hactor.canonical,
    hauthorizer.canonical, hactor.slotLabel, hauthorizer.slotLabel]

/-- A staffing action is judged by the seats it names. -/
theorem validateAuthorityAction_congr (hstandard : Standard tables)
    (hblanks : KeepsBlanks tables) {action other : JsValue}
    (haction : Fieldwise (ActionSeats tables) action other) :
    validateAuthorityAction tables action = validateAuthorityAction tables other := by
  have hfield := haction.field (Seats.refl _)
  have hactor : SameSeat tables (action.field (js "actor")) (other.field (js "actor")) :=
    hfield (js "actor")
  have hauthorizer : SameSeat tables (action.field (js "authorized_by"))
      (other.field (js "authorized_by")) := hfield (js "authorized_by")
  have htype : action.field (js "action_type") = other.field (js "action_type") :=
    hfield (js "action_type")
  have hlateral : action.field (js "lateral") = other.field (js "lateral") :=
    hfield (js "lateral")
  have hmissing : validateRequiredFields action authorityActionFields =
      validateRequiredFields other authorityActionFields :=
    validateRequiredFields_congr fun name _ => (hfield name).isMissing hstandard hblanks
  have hactorText := hactor.refuseIf_unreadable hactor.isUnreadable isUnreadable_slot
  have hauthorizerText :=
    hauthorizer.refuseIf_unreadable hauthorizer.isUnreadable isUnreadable_slot
  have hactionType : actionTypeOf tables action = actionTypeOf tables other := by
    rw [actionTypeOf, htype, actionTypeOf]
  simp only [validateAuthorityAction, hactionType, htype, hlateral, hmissing, hactorText,
    hauthorizerText, hactor.canonical, hauthorizer.canonical,
    rosterFindings_congr hactor hauthorizer]

end OdinSentinel.Authority

namespace OdinSentinel.Closure

open JsText Unicode RoleIdentity Validators Authority

variable {tables : Tables}

/-! ## Closure claims -/

theorem classification_congr {verdict other : JsValue}
    (hverdict : Fieldwise (Seats tables [js "emitted_by"]) verdict other) (index : Nat) :
    classificationFindings tables index verdict = classificationFindings tables index other := by
  have hfield := hverdict.field (Seats.refl _)
  have hkind : verdict.field (js "verdict_kind") = other.field (js "verdict_kind") :=
    hfield (js "verdict_kind")
  have hartifact : verdict.field (js "artifact_class") = other.field (js "artifact_class") :=
    hfield (js "artifact_class")
  have hevidence : verdict.field (js "evidence_class") = other.field (js "evidence_class") :=
    hfield (js "evidence_class")
  have hsource : verdict.field (js "source_binding") = other.field (js "source_binding") :=
    hfield (js "source_binding")
  have hclassified : validateEvidenceClassification tables verdict =
      validateEvidenceClassification tables other := by
    simp only [validateEvidenceClassification, hartifact, hevidence, hsource]
  simp only [classificationFindings, hkind, hevidence, hclassified]

theorem emitterRefusal_congr {claim claim' emittedBy emittedBy' : JsValue}
    (himplementer : SameSeat tables (claim.field (js "implementer_lane"))
      (claim'.field (js "implementer_lane")))
    (hclosing : SameSeat tables (claim.field (js "closing_authority"))
      (claim'.field (js "closing_authority")))
    (hemitter : SameSeat tables emittedBy emittedBy') :
    emitterRefusal tables claim emittedBy = emitterRefusal tables claim' emittedBy' := by
  unfold emitterRefusal
  rw [hemitter.roleSlotsEqual himplementer, hemitter.roleSlotsEqual hclosing,
    ← hemitter.canonical]
  cases hslot : canonicalRoleSlot tables emittedBy with
  | none => rw [hemitter.describe_of_unreadable hslot]
  | some slot => rfl

/-- A verdict enters a tally by the seats it and the claim name. -/
theorem readVerdict_congr {claim claim' verdict verdict' : JsValue}
    (himplementer : SameSeat tables (claim.field (js "implementer_lane"))
      (claim'.field (js "implementer_lane")))
    (hclosing : SameSeat tables (claim.field (js "closing_authority"))
      (claim'.field (js "closing_authority")))
    (hverdict : Fieldwise (Seats tables [js "emitted_by"]) verdict verdict')
    (tally : Tally) (index : Nat) :
    readVerdict tables claim tally (verdict, index) =
      readVerdict tables claim' tally (verdict', index) := by
  have hfield := hverdict.field (Seats.refl _)
  have hkind : verdict.field (js "verdict_kind") = verdict'.field (js "verdict_kind") :=
    hfield (js "verdict_kind")
  have hresult : verdict.field (js "result") = verdict'.field (js "result") :=
    hfield (js "result")
  have hemitter : SameSeat tables (verdict.field (js "emitted_by"))
      (verdict'.field (js "emitted_by")) := hfield (js "emitted_by")
  simp only [readVerdict, hkind, hresult, hemitter.canonical, classification_congr hverdict,
    emitterRefusal_congr himplementer hclosing hemitter]

theorem foldl_readVerdict_congr {claim claim' : JsValue} {verdicts verdicts' : List JsValue}
    (himplementer : SameSeat tables (claim.field (js "implementer_lane"))
      (claim'.field (js "implementer_lane")))
    (hclosing : SameSeat tables (claim.field (js "closing_authority"))
      (claim'.field (js "closing_authority")))
    (hverdicts : List.Forall₂ (Fieldwise (Seats tables [js "emitted_by"])) verdicts verdicts')
    (tally : Tally) (start : Nat) :
    (verdicts.zipIdx start).foldl (readVerdict tables claim) tally =
      (verdicts'.zipIdx start).foldl (readVerdict tables claim') tally := by
  induction hverdicts generalizing tally start with
  | nil => rfl
  | cons hverdict _ ih =>
      rw [List.zipIdx_cons, List.foldl_cons, List.zipIdx_cons, List.foldl_cons,
        readVerdict_congr himplementer hclosing hverdict]
      exact ih _ _

theorem kinds_congr {verdicts verdicts' : List JsValue}
    (hverdicts : List.Forall₂ (Fieldwise (Seats tables [js "emitted_by"])) verdicts verdicts') :
    verdicts.map (fun verdict => textOf (verdict.field (js "verdict_kind"))) =
      verdicts'.map (fun verdict => textOf (verdict.field (js "verdict_kind"))) := by
  induction hverdicts with
  | nil => rfl
  | cons hverdict _ ih =>
      have hkind : _ = _ := hverdict.field (Seats.refl _) (js "verdict_kind")
      rw [List.map_cons, List.map_cons, ih, hkind]

theorem isEmpty_congr {alike : JsValue → JsValue → Prop} {items others : List JsValue}
    (hitems : List.Forall₂ alike items others) : items.isEmpty = others.isEmpty := by
  cases hitems <;> rfl

theorem verdictsFindings_congr {claim claim' : JsValue} {verdicts verdicts' : List JsValue}
    (himplementer : SameSeat tables (claim.field (js "implementer_lane"))
      (claim'.field (js "implementer_lane")))
    (hclosing : SameSeat tables (claim.field (js "closing_authority"))
      (claim'.field (js "closing_authority")))
    (hverdicts : List.Forall₂ (Fieldwise (Seats tables [js "emitted_by"])) verdicts verdicts')
    (sofar : Findings) :
    verdictsFindings tables claim sofar verdicts =
      verdictsFindings tables claim' sofar verdicts' := by
  simp only [verdictsFindings, isEmpty_congr hverdicts, kinds_congr hverdicts,
    foldl_readVerdict_congr himplementer hclosing hverdicts]

theorem partyIsUnreadable_slot {party : JsValue}
    (hparty : partyIsUnreadable tables party = true) : canonicalRoleSlot tables party = none := by
  simp only [partyIsUnreadable, Bool.and_eq_true, Option.isNone_iff_eq_none] at hparty
  exact hparty.2

theorem partyIsUnreadable_congr (hstandard : Standard tables) (hblanks : KeepsBlanks tables)
    {left right : JsValue} (hseat : SameSeat tables left right) :
    partyIsUnreadable tables left = partyIsUnreadable tables right := by
  rw [partyIsUnreadable, hseat.isNullish, hseat.isBlankText hstandard hblanks, hseat.canonical]
  rfl

theorem partyFindings_congr (hstandard : Standard tables) (hblanks : KeepsBlanks tables)
    {claim claim' : JsValue}
    (himplementer : SameSeat tables (claim.field (js "implementer_lane"))
      (claim'.field (js "implementer_lane")))
    (hclosing : SameSeat tables (claim.field (js "closing_authority"))
      (claim'.field (js "closing_authority"))) :
    partyFindings tables claim = partyFindings tables claim' := by
  have himplementerText := himplementer.refuseIf_unreadable
    (partyIsUnreadable_congr hstandard hblanks himplementer) partyIsUnreadable_slot
  have hclosingText := hclosing.refuseIf_unreadable
    (partyIsUnreadable_congr hstandard hblanks hclosing) partyIsUnreadable_slot
  simp only [partyFindings, himplementerText, hclosingText]

/-- A closure claim is judged by the seats it names. -/
theorem validateClosureIndependence_congr (hstandard : Standard tables)
    (hblanks : KeepsBlanks tables) {claim other : JsValue}
    (hclaim : Fieldwise (ClosureSeats tables) claim other) :
    validateClosureIndependence tables claim = validateClosureIndependence tables other := by
  have hfield := hclaim.field ClosureSeats.refl
  have himplementer : SameSeat tables (claim.field (js "implementer_lane"))
      (other.field (js "implementer_lane")) := hfield (js "implementer_lane")
  have hclosing : SameSeat tables (claim.field (js "closing_authority"))
      (other.field (js "closing_authority")) := hfield (js "closing_authority")
  have hverdicts : VerdictSeats tables (claim.field (js "verdicts"))
      (other.field (js "verdicts")) := hfield (js "verdicts")
  have hparties := partyFindings_congr hstandard hblanks himplementer hclosing
  have hmissing : validateRequiredFields claim closureFields =
      validateRequiredFields other closureFields := by
    apply validateRequiredFields_congr
    intro name _
    by_cases hname : name = js "verdicts"
    · subst hname
      generalize claim.field (js "verdicts") = left at hverdicts
      generalize other.field (js "verdicts") = right at hverdicts
      cases hverdicts <;> rfl
    · have hseats := hfield name
      rw [ClosureSeats, if_neg hname] at hseats
      exact hseats.isMissing hstandard hblanks
  have hbody : ∀ items others : List JsValue,
      List.Forall₂ (Fieldwise (Seats tables [js "emitted_by"])) items others →
        verdictsFindings tables claim (partyFindings tables claim) (items.map asRecord) =
          verdictsFindings tables other (partyFindings tables other) (others.map asRecord) := by
    intro items others hitems
    rw [hparties]
    apply verdictsFindings_congr himplementer hclosing
    rw [List.forall₂_map_left_iff, List.forall₂_map_right_iff]
    exact hitems.imp fun _ _ hitem => hitem.asRecord
  rw [validateClosureIndependence, validateClosureIndependence, hmissing]
  congr 1
  generalize claim.field (js "verdicts") = left at hverdicts
  generalize other.field (js "verdicts") = right at hverdicts
  cases hverdicts with
  | same =>
      cases left with
      | array items =>
          apply hbody
          exact List.forall₂_same.mpr fun item _ => .same item
      | undefined => exact hparties
      | _ => exact congrArg (_ ++ ·) hparties
  | emitters hitems => exact hbody _ _ hitems

/-! ## Authority by seat -/

/-- A canonical slot is its own canonical slot, and the three validators accept or
refuse alike whatever spellings their identity fields use for the same seats. -/
theorem authority_by_seat (hstandard : Standard tables) (hblanks : KeepsBlanks tables) :
    (∀ value canonical, canonicalRoleSlot tables value = some canonical →
      canonicalRoleSlot tables (.string canonical) = some canonical) ∧
    (∀ record other, Fieldwise (CommitSeats tables) record other →
      (validateCommitGate tables record).valid = (validateCommitGate tables other).valid) ∧
    (∀ action other, Fieldwise (ActionSeats tables) action other →
      (validateAuthorityAction tables action).valid =
        (validateAuthorityAction tables other).valid) ∧
    ∀ claim other, Fieldwise (ClosureSeats tables) claim other →
      (validateClosureIndependence tables claim).valid =
        (validateClosureIndependence tables other).valid := by
  refine ⟨fun _ _ => canonicalRoleSlot_canonical hstandard, ?_, ?_, ?_⟩
  · intro record other hrecord
    rw [validateCommitGate_congr hstandard hblanks hrecord]
  · intro action other haction
    rw [validateAuthorityAction_congr hstandard hblanks haction]
  · intro claim other hclaim
    rw [validateClosureIndependence_congr hstandard hblanks hclaim]

/-- A commit of `B/DEV-1` under `B/PM`, authorized by `A/EXEC-PM`. -/
def authorizedCommit : JsValue :=
  .object [(js "task_ref", .string (js "T-1")), (js "pod_pm_lane", .string (js "B/PM")),
    (js "implementer_lane", .string (js "B/DEV-1")), (js "staged_ready", .bool true),
    (js "commit_authorization", .object [(js "token", .string (js "token")),
      (js "issued_by", .string (js "A/EXEC-PM")), (js "verified_ground_truth", .bool true)])]

theorem authority_by_seat_lane :
    (validateCommitGate smallTables authorizedCommit).valid =
      (validateCommitGate smallTables
        (overwrite authorizedCommit (js "pod_pm_lane") (.string (js " b／pm")))).valid := by
  apply (authority_by_seat smallTables_standard smallTables_keepsBlanks).2.1
  apply fieldwise_overwrite CommitSeats.refl (by rintro ⟨⟩)
  have hplain : canonicalRoleSlot smallTables (.string (js "B/PM")) = some (js "B/PM") := by
    decide
  have hwide : canonicalRoleSlot smallTables (.string (js " b／pm")) = some (js "B/PM") := by
    decide
  exact SameSeat.respelled hplain hwide

end OdinSentinel.Closure
