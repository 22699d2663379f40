import OdinSentinel.Say.ExitStatus
import OdinSentinel.Say.SingleCopy

/-!
# Records of refusals

The validator reads every refusal that the sender writes down, except one: it does not
know the state of a pane that could not be read.
-/

namespace OdinSentinel.Say

open RustText Dialogue JsText Validators DeliveryProof

/-- The validator takes the record of an outcome for a refusal and names its state. -/
structure Legible (options : RegistryAuthorityOptions) (entry : ProofEntry) (outcome : Outcome) :
    Prop where
  valid : (validateCmuxDeliveryProof entry.toJson options).valid = true
  delivery : (validateCmuxDeliveryProof entry.toJson options).delivery = .notDelivered
  reason : (validateCmuxDeliveryProof entry.toJson options).nonDeliveryReason =
    some (toScript outcome.state.text)

/-- The states of a refusal that the validator knows. -/
def DeliveryState.isKnownRefusal : DeliveryState → Bool
  | .paneStillThinking => true
  | .paneBlockedOnPermission => true
  | .inputBarOnly => true
  | .seatCapped => true
  | .deliveredAcked => false
  | .deliveredNoAck => false
  | .paneReadFailed => false

theorem isKnownRefusal_iff (state : DeliveryState) :
    state.isKnownRefusal = true ↔ toScript state.text ∈ cmuxSendRefusalStates := by
  cases state <;> decide

theorem refusal_prose {subcommand surface senderRole : RustString} {outcome : Outcome}
    {seconds : UInt64} {entry : ProofEntry}
    (hentry : ProofEntry.forOutcome subcommand surface outcome senderRole (formatUtc seconds) =
      entry)
    (hrole : isNonBlankText (textValue senderRole) = true) (hunsent : outcome.submitted = false) :
    (validateCmuxDeliveryProofProse entry.toJson).valid = outcome.state.isKnownRefusal ∧
      (outcome.state.isKnownRefusal = true →
        (validateCmuxDeliveryProofProse entry.toJson).nonDeliveryReason =
          some (toScript outcome.state.text)) := by
  obtain ⟨hmissing, htyped⟩ := forOutcome_fields hentry hrole
  have hkind : entry.toJson.field (js "record_kind") = textValue recordKindSendRefusal := by
    rw [← hentry]
    simp only [ProofEntry.forOutcome, hunsent]
    rfl
  have hsubmitted : entry.toJson.field (js "submitted") = .bool false := by
    rw [← hentry, ← hunsent]
    rfl
  have hstate : entry.toJson.field (js "observed_processing_state") =
      textValue outcome.state.text := by
    rw [← hentry]
    rfl
  rw [validateCmuxDeliveryProofProse, hkind, if_pos (by decide)]
  simp only [validateCmuxSendRefusalProse, hmissing, htyped, hsubmitted, hstate,
    asString_textValue]
  cases outcome.state <;> decide

/-- Without a registry reference the record of a refusal is legible for its state alone. -/
theorem legible_iff (options : RegistryAuthorityOptions)
    {subcommand surface senderRole : RustString} {outcome : Outcome} {seconds : UInt64}
    (hrole : isNonBlankText (textValue senderRole) = true) (hunsent : outcome.submitted = false) :
    Legible options
        (ProofEntry.forOutcome subcommand surface outcome senderRole (formatUtc seconds)) outcome ↔
      outcome.state.isKnownRefusal = true := by
  have hdelivery := @validate_entry options subcommand surface outcome senderRole seconds hrole
  generalize hentry : ProofEntry.forOutcome subcommand surface outcome senderRole
    (formatUtc seconds) = entry at hdelivery ⊢
  obtain ⟨hprose, hreason⟩ := refusal_prose hentry hrole hunsent
  have hvalid : (validateCmuxDeliveryProof entry.toJson options).valid =
      outcome.state.isKnownRefusal := (validateCmuxDeliveryProof_valid options rfl).trans hprose
  constructor
  · intro hlegible
    rw [← hvalid]
    exact hlegible.valid
  · intro hknown
    have hrefused : verdictOn outcome.submitted outcome.state = .notDelivered := by
      rw [hunsent]
      cases hstate : outcome.state <;> rw [hstate] at hknown <;> first | rfl | cases hknown
    rw [hknown] at hvalid
    rw [hrefused] at hdelivery
    exact ⟨hvalid, hdelivery,
      (validateCmuxDeliveryProof_reason options hvalid hdelivery).trans (hreason hknown)⟩

/-! ## The states of refusals -/

def isFailedRead : Event → Bool
  | ⟨.readScreen, none⟩ => true
  | _ => false

@[simp]
theorem isFailedRead_readFailed : isFailedRead readFailed = true := rfl

@[simp]
theorem isFailedRead_sawScreen (raw : RustString) : isFailedRead (sawScreen raw) = false := rfl

@[simp]
theorem isFailedRead_slept (ms : Nat) : isFailedRead (slept ms) = false := rfl

@[simp]
theorem isFailedRead_clocked (now : UInt64) : isFailedRead (clocked now) = false := rfl

@[simp]
theorem isFailedRead_typed (text : RustString) (ok : Bool) :
    isFailedRead (typed text ok) = false := rfl

@[simp]
theorem isFailedRead_pressed (key : Key) (ok : Bool) : isFailedRead (pressed key ok) = false := rfl

/-- Every read of the pane gave a screen. -/
def AllRead (history : List Event) : Prop := ∀ event ∈ history, isFailedRead event = false

@[simp]
theorem allRead_cons {event : Event} {history : List Event} :
    AllRead (event :: history) ↔ isFailedRead event = false ∧ AllRead history :=
  List.forall_mem_cons

/-- An outcome that submitted nothing is of a known state exactly where every read
gave a screen. -/
def NamesFailedRead (outcome : Outcome) (history : List Event) : Prop :=
  outcome.submitted = false → (outcome.state.isKnownRefusal = true ↔ AllRead history)

variable {rules : PaneRules} {harness flat : RustString} {progress next : Progress}
  {before after history : List Event} {outcome : Outcome}

theorem namesFailedRead_known (hknown : outcome.state.isKnownRefusal = true)
    (hread : AllRead history) : NamesFailedRead outcome history :=
  fun _ => iff_of_true hknown hread

theorem namesFailedRead_failed (hunknown : outcome.state.isKnownRefusal = false) :
    NamesFailedRead outcome (readFailed :: history) := by
  intro _
  simp [hunknown]

theorem namesFailedRead_submitted (hsubmitted : outcome.submitted = true) :
    NamesFailedRead outcome history := by
  intro hunsent
  rw [hsubmitted] at hunsent
  cases hunsent

theorem ClearsOverlay.allRead (hclears : ClearsOverlay rules progress before (.ok next) after)
    (hbefore : AllRead before) : AllRead after := by
  cases hclears <;> simp [hbefore]

theorem ClearsOverlay.names
    (hclears : ClearsOverlay rules progress before (.error (some outcome)) after)
    (hbefore : AllRead before) : NamesFailedRead outcome after := by
  cases hclears with
  | refused => exact namesFailedRead_known rfl hbefore
  | unreadable => exact namesFailedRead_failed rfl
  | stillBlocked => exact namesFailedRead_known rfl (by simp [hbefore])

theorem Waits.allRead {pollMs budgetMs busyAt : UInt64} {result : Verdict Progress}
    (hwaits : Waits rules pollMs budgetMs busyAt progress before result after)
    (hbefore : AllRead before) :
    (∀ next, result = .ok next → AllRead after) ∧
      ∀ outcome, result = .error (some outcome) → NamesFailedRead outcome after := by
  induction hwaits with
  | outOfFuel progress before => exact ⟨fun _ _ => hbefore, fun _ hstop => by cases hstop⟩
  | spent progress before now =>
      exact ⟨fun _ _ => by simp [hbefore], fun _ hstop => by cases hstop⟩
  | unreadable progress before now =>
      refine ⟨fun _ hnext => (by cases hnext), fun outcome hstop => ?_⟩
      cases hstop
      exact namesFailedRead_failed rfl
  | becameBlocked progress before now later raw =>
      refine ⟨fun _ hnext => (by cases hnext), fun outcome hstop => ?_⟩
      cases hstop
      exact namesFailedRead_known rfl (by simp [hbefore])
  | becameIdle progress before now raw =>
      exact ⟨fun _ _ => by simp [hbefore], fun _ hstop => by cases hstop⟩
  | stillBusy progress before after now raw result _ _ _ _ ih => exact ih (by simp [hbefore])

theorem SendsQueued.names {busyAt : UInt64}
    (hsends : SendsQueued rules harness flat busyAt progress before outcome after)
    (hbefore : AllRead before) : NamesFailedRead outcome after := by
  cases hsends with
  | sendFailed => exact namesFailedRead_known rfl (by simp [hbefore])
  | unreadable => exact namesFailedRead_submitted rfl
  | queued => exact namesFailedRead_submitted rfl
  | unproven => exact namesFailedRead_submitted rfl

theorem PassesBusy.allRead {pollMs budgetMs : UInt64}
    (hpasses : PassesBusy rules harness flat pollMs budgetMs progress before (.ok next) after)
    (hbefore : AllRead before) : AllRead after := by
  cases hpasses with
  | idle => exact hbefore
  | waited _ _ busyAt now last middle hwait =>
      have hmiddle := (hwait.allRead (by simp [hbefore])).1 last rfl
      simp [hmiddle]

theorem PassesBusy.names {pollMs budgetMs : UInt64}
    (hpasses : PassesBusy rules harness flat pollMs budgetMs progress before
      (.error (some outcome)) after)
    (hbefore : AllRead before) : NamesFailedRead outcome after := by
  cases hpasses with
  | queued _ _ busyAt _ _ hsend => exact hsend.names (by simp [hbefore])
  | stopped _ _ busyAt _ _ hwait => exact (hwait.allRead (by simp [hbefore])).2 outcome rfl
  | stillThinking _ _ busyAt now last middle hwait =>
      have hmiddle := (hwait.allRead (by simp [hbefore])).1 last rfl
      exact namesFailedRead_known rfl (by simp [hmiddle])

theorem SubmitsStale.allRead (hsubmits : SubmitsStale rules progress before (.ok next) after)
    (hbefore : AllRead before) : AllRead after := by
  cases hsubmits <;> simp [hbefore]

theorem SubmitsStale.names
    (hsubmits : SubmitsStale rules progress before (.error (some outcome)) after)
    (hbefore : AllRead before) : NamesFailedRead outcome after := by
  cases hsubmits with
  | unreadable => exact namesFailedRead_failed rfl
  | becameBlocked => exact namesFailedRead_known rfl (by simp [hbefore])
  | stuck => exact namesFailedRead_known rfl (by simp [hbefore])

theorem SendsLine.names (hsends : SendsLine rules flat progress before outcome after)
    (hbefore : AllRead before) : NamesFailedRead outcome after := by
  cases hsends with
  | sendFailed => exact namesFailedRead_known rfl (by simp [hbefore])
  | unreadable => exact namesFailedRead_submitted rfl
  | gone => exact namesFailedRead_submitted (verdict_submitted _ _ _)
  | unreadableAgain => exact namesFailedRead_submitted rfl
  | stuck => exact namesFailedRead_submitted rfl
  | goneAgain => exact namesFailedRead_submitted (verdict_submitted _ _ _)

/-- A refusal of a delivery names a failed read exactly where one failed. -/
theorem Delivers.names {selector : HarnessSelector} {text : RustString} {opts : DeliveryOptions}
    (hdelivers : Delivers rules selector text opts (some outcome) history) :
    NamesFailedRead outcome history := by
  have hfirst : ∀ raw, AllRead [sawScreen raw] := fun raw => by simp [AllRead]
  generalize hresult : some outcome = result at hdelivers
  cases hdelivers with
  | unreadable =>
      cases hresult
      exact namesFailedRead_failed rfl
  | stopped raw stop history _ hstop =>
      obtain ⟨bare, rfl, rfl⟩ := Option.map_eq_some_iff.mp hresult.symm
      have hbare : NamesFailedRead bare history := by
        cases hstop with
        | overlay _ _ hoverlay => exact hoverlay.names (hfirst raw)
        | busy _ _ _ _ hoverlay hbusy => exact hbusy.names (hoverlay.allRead (hfirst raw))
        | capped _ _ _ _ _ hoverlay hbusy =>
            exact namesFailedRead_known rfl (hbusy.allRead (hoverlay.allRead (hfirst raw)))
        | stale _ _ _ _ _ _ hoverlay hbusy _ hstale =>
            exact hstale.names (hbusy.allRead (hoverlay.allRead (hfirst raw)))
      exact hbare
  | sent raw progress bare before history _ hready hsend =>
      cases hresult
      obtain ⟨_, _, _, _, hoverlay, hbusy, -, hstale⟩ := hready.path
      have hbare := hsend.names (hstale.allRead (hbusy.allRead (hoverlay.allRead (hfirst raw))))
      exact hbare

/-- In every run of `deliver` that submits nothing: the validator reads the record exactly
when every read of the pane gave a screen. -/
theorem refusal_legible_iff (options : RegistryAuthorityOptions) {selector : HarnessSelector}
    {text : RustString} {opts : DeliveryOptions} {fuel : Nat}
    {subcommand surface senderRole : RustString} {seconds : UInt64}
    (hrun : Runs (deliver rules selector text opts fuel) [] (some outcome) history)
    (hunsent : outcome.submitted = false)
    (hrole : isNonBlankText (textValue senderRole) = true) :
    Legible options
        (ProofEntry.forOutcome subcommand surface outcome senderRole (formatUtc seconds)) outcome ↔
      AllRead history := by
  rw [legible_iff options hrole hunsent]
  exact (deliver_cases hrun).names hunsent

def noAuthority : RegistryAuthorityOptions := ⟨false, fun _ _ => .unresolved [] none none⟩

/-- A blocked pane is refused and the refusal is legible. -/
theorem refusal_legible_iff_blocked :
    ∃ outcome, outcome.submitted = false ∧ Legible noAuthority (ProofEntry.forOutcome (rs "say")
      (rs "4") outcome (rs "EXEC") (formatUtc 0)) outcome := by
  have hrun := runs_play (scripted [rs "Allow?"])
    (deliver fewRules ⟨none, none⟩ (rs "hello") ⟨5000, 180000⟩ 1) []
  have hread : AllRead [sawScreen (rs "Allow?")] := by simp [AllRead]
  exact ⟨_, rfl, (refusal_legible_iff noAuthority hrun rfl (by decide)).mpr hread⟩

/-- A pane that cannot be read is refused, and the validator rejects the refusal. -/
theorem failedRead_illegible : ¬∀ rules selector text opts fuel outcome history,
    Runs (deliver rules selector text opts fuel) [] (some outcome) history →
    outcome.submitted = false → Legible noAuthority (ProofEntry.forOutcome (rs "say")
      (rs "4") outcome (rs "EXEC") (formatUtc 0)) outcome := by
  intro hlegible
  have hrun := runs_play (scripted [])
    (deliver fewRules ⟨none, none⟩ (rs "hello") ⟨5000, 180000⟩ 1) []
  have hrefusal := hlegible fewRules ⟨none, none⟩ (rs "hello") ⟨5000, 180000⟩ 1 _ _ hrun rfl
  have hknown := (legible_iff noAuthority (by decide) rfl).mp hrefusal
  cases hknown

end OdinSentinel.Say
