import OdinSentinel.Protocol.DeliveryProof
import OdinSentinel.Say.Paths
import OdinSentinel.Say.Record

/-!
# Exit status and record

The sender's exit status and the validator's verdict on the sender's record are
computed apart from each other and agree on every run.
-/

namespace OdinSentinel.Say

open RustText Dialogue JsText Validators DeliveryProof

/-! ## The validator on a record of the sender -/

theorem nonBlank_of_mem {unit : UInt16} {text : JsString} (hmem : unit ∈ text)
    (hunit : isSpace unit = false) : isNonBlankText (.string text) = true := by
  simp only [isNonBlankText, bne_iff_ne, ne_eq, trim_eq_nil_iff]
  intro hblank
  rw [hblank unit hmem] at hunit
  cases hunit

theorem toScript_append (left right : RustString) :
    toScript (left ++ right) = toScript left ++ toScript right :=
  List.flatMap_append

theorem locator_nonBlank (surface : RustString) :
    isNonBlankText (textValue (surfaceLocator surface)) = true := by
  refine nonBlank_of_mem (show (115 : UInt16) ∈ _ from ?_) (by decide)
  rw [surfaceLocator, toScript_append]
  exact List.mem_append_left _ (by decide)

theorem formatUtc_nonBlank (seconds : UInt64) :
    isNonBlankText (textValue (formatUtc seconds)) = true := by
  refine nonBlank_of_mem (show (90 : UInt16) ∈ _ from ?_) (by decide)
  rw [formatUtc, toScript_append]
  exact List.mem_append_right _ (by decide)

theorem stateText_nonBlank (state : DeliveryState) :
    isNonBlankText (textValue state.text) = true := by
  cases state <;> decide

/-- The six fields of a delivery proof are there and of their kinds. -/
theorem entry_fields {entry : ProofEntry}
    (hlocator : isNonBlankText (textValue entry.targetSurfaceLocator) = true)
    (hmethod : isNonBlankText (textValue entry.verificationMethod) = true)
    (hstate : isNonBlankText (textValue entry.observedProcessingState) = true)
    (htimestamp : isNonBlankText (textValue entry.timestamp) = true)
    (hrole : isNonBlankText (textValue entry.senderRole) = true) :
    validateRequiredFields entry.toJson cmuxDeliveryProofFields = [] ∧
      validateFieldTypes entry.toJson cmuxDeliveryProofKinds = [] := by
  have hpresent : ∀ text, isNonBlankText (textValue text) = true →
      isNullish (textValue text) = false ∧ isBlankText (textValue text) = false ∧
        isWrongKind .string (textValue text) = false := by
    intro text htext
    simp only [isNonBlankText, textValue, bne_iff_ne, ne_eq] at htext
    simp [isNullish, isBlankText, isWrongKind, isNonBlankText, textValue, htext]
  have hfield₁ : entry.toJson.field (js "target_surface_locator") =
      textValue entry.targetSurfaceLocator := rfl
  have hfield₂ : entry.toJson.field (js "submitted") = .bool entry.submitted := rfl
  have hfield₃ : entry.toJson.field (js "verification_method") =
      textValue entry.verificationMethod := rfl
  have hfield₄ : entry.toJson.field (js "observed_processing_state") =
      textValue entry.observedProcessingState := rfl
  have hfield₅ : entry.toJson.field (js "timestamp") = textValue entry.timestamp := rfl
  have hfield₆ : entry.toJson.field (js "sender_role") = textValue entry.senderRole := rfl
  constructor
  · simp only [validateRequiredFields, cmuxDeliveryProofFields, List.filter_cons, hfield₁,
      hfield₂, hfield₃, hfield₄, hfield₅, hfield₆, hpresent _ hlocator, hpresent _ hmethod,
      hpresent _ hstate, hpresent _ htimestamp, hpresent _ hrole]
    rfl
  · simp only [validateFieldTypes, cmuxDeliveryProofKinds, List.filter_cons, hfield₁,
      hfield₃, hfield₄, hfield₅, hfield₆, hpresent _ hlocator, hpresent _ hmethod,
      hpresent _ hstate, hpresent _ htimestamp, hpresent _ hrole]
    rfl

/-- What the validator makes of an outcome. -/
def verdictOn (submitted : Bool) (state : DeliveryState) : CmuxDeliveryVerdict :=
  if submitted then
    match state with
    | .deliveredAcked => .delivered
    | .deliveredNoAck | .paneBlockedOnPermission | .paneStillThinking => .deliveredNoAck
    | .seatCapped => .notDelivered
    | .inputBarOnly | .paneReadFailed => .notProven
  else
    match state with
    | .paneStillThinking | .paneBlockedOnPermission | .inputBarOnly | .seatCapped => .notDelivered
    | .deliveredAcked | .deliveredNoAck | .paneReadFailed => .notProven

theorem asString_textValue (text : RustString) :
    (textValue text).asString = some (toScript text) := rfl

/-- A record of the sender lacks none of the fields of a delivery proof. -/
theorem forOutcome_fields {subcommand surface senderRole : RustString} {outcome : Outcome}
    {seconds : UInt64} {entry : ProofEntry}
    (hentry : ProofEntry.forOutcome subcommand surface outcome senderRole (formatUtc seconds) =
      entry)
    (hrole : isNonBlankText (textValue senderRole) = true) :
    validateRequiredFields entry.toJson cmuxDeliveryProofFields = [] ∧
      validateFieldTypes entry.toJson cmuxDeliveryProofKinds = [] := by
  rw [← hentry]
  exact entry_fields (locator_nonBlank surface)
    (show isNonBlankText (textValue (rs "read_screen")) = true by decide)
    (stateText_nonBlank outcome.state) (formatUtc_nonBlank seconds) hrole

theorem validate_entry (options : RegistryAuthorityOptions) {subcommand surface : RustString}
    {outcome : Outcome} {senderRole : RustString} {seconds : UInt64}
    (hrole : isNonBlankText (textValue senderRole) = true) :
    (validateCmuxDeliveryProof (ProofEntry.forOutcome subcommand surface outcome senderRole
      (formatUtc seconds)).toJson options).delivery = verdictOn outcome.submitted outcome.state := by
  rw [validateCmuxDeliveryProof_prose options rfl]
  generalize hentry : ProofEntry.forOutcome subcommand surface outcome senderRole
    (formatUtc seconds) = entry
  obtain ⟨hmissing, htyped⟩ := forOutcome_fields hentry hrole
  have hkind : entry.toJson.field (js "record_kind") = textValue
      (if outcome.submitted then recordKindDelivery else recordKindSendRefusal) := by
    rw [← hentry]
    rfl
  have hsubmitted : entry.toJson.field (js "submitted") = .bool outcome.submitted := by
    rw [← hentry]
    rfl
  have hstate : entry.toJson.field (js "observed_processing_state") =
      textValue outcome.state.text := by
    rw [← hentry]
    rfl
  have hdry : isExactlyTrue (entry.toJson.field (js "dry_run")) = false := rfl
  have hguns : machineGuns entry.toJson = false := rfl
  cases hsent : outcome.submitted with
  | false =>
      rw [hsent] at hkind hsubmitted
      have hrefusal : validateCmuxDeliveryProofProse entry.toJson =
          validateCmuxSendRefusalProse entry.toJson := by
        rw [validateCmuxDeliveryProofProse, hkind, if_pos (by decide)]
      rw [hrefusal]
      simp only [validateCmuxSendRefusalProse, hmissing, htyped, hsubmitted, hstate,
        asString_textValue]
      cases outcome.state <;> decide
  | true =>
      rw [hsent] at hkind hsubmitted
      have hdelivery : validateCmuxDeliveryProofProse entry.toJson =
          validateCmuxSendProse entry.toJson := by
        rw [validateCmuxDeliveryProofProse, hkind, if_neg (by decide)]
      rw [hdelivery]
      simp only [validateCmuxSendProse, deliveryVerdictFor, hdry, hguns, hkind,
        hsubmitted, hstate, Bool.false_eq_true, if_false, hmissing, htyped,
        asString_textValue]
      cases outcome.state <;> decide

/-! ## The outcomes of a delivery -/

def LastReadFailed (history : List Event) : Prop := history.findSome? readOf = some none

/-- The validator attests a delivery. -/
def AttestsDelivery (verdict : CmuxDeliveryVerdict) : Prop :=
  verdict = .delivered ∨ verdict = .deliveredNoAck

/-- An outcome that is a failure for the sender and for the validator. -/
structure Refused (outcome : Outcome) : Prop where
  exit : outcome.exit ≠ exitDelivered
  verdict : ¬AttestsDelivery (verdictOn outcome.submitted outcome.state)
  queued : outcome.queued = false

/-- An outcome that is a delivery for both, read off a screen behind the send. -/
structure Confirmed (rules : PaneRules) (harness flat : RustString) (outcome : Outcome)
    (history : List Event) : Prop where
  exit : outcome.exit = exitDelivered
  verdict : AttestsDelivery (verdictOn outcome.submitted outcome.state)
  seen : ∃ raw earlier, history = sawScreen raw :: earlier ∧
    (∃ send ∈ earlier, isSend send = true) ∧
    (outcome.queued = true → showsQueued (tail14 raw) flat rules harness = true)

/-- Attested by nothing: what a refusal with a failing exit records. -/
theorem refused_refuse {state : DeliveryState} {submitted : Bool} {note : String} {exit : Int}
    {polls : UInt32} {waitedMs : UInt64} (hexit : exit ≠ exitDelivered)
    (hverdict : ¬AttestsDelivery (verdictOn submitted state)) :
    Refused (refuse state submitted note exit polls waitedMs) :=
  ⟨hexit, hverdict, rfl⟩

instance (verdict : CmuxDeliveryVerdict) : Decidable (AttestsDelivery verdict) :=
  inferInstanceAs (Decidable (_ ∨ _))

variable {rules : PaneRules} {harness flat : RustString} {progress : Progress}
  {before after history : List Event} {outcome : Outcome}

/-- Before the send every stop is a refusal, but for the queue harness. -/
theorem ClearsOverlay.isRefused
    (hclears : ClearsOverlay rules progress before (.error (some outcome)) after) :
    Refused outcome := by
  cases hclears with
  | refused => exact refused_refuse (by decide) (by decide)
  | unreadable => exact refused_refuse (by decide) (by decide)
  | stillBlocked => exact refused_refuse (by decide) (by decide)

theorem Waits.isRefused {pollMs budgetMs busyAt : UInt64} {result : Verdict Progress}
    (hwaits : Waits rules pollMs budgetMs busyAt progress before result after)
    (hstop : result = .error (some outcome)) : Refused outcome := by
  induction hwaits with
  | outOfFuel => cases hstop
  | spent => cases hstop
  | becameIdle => cases hstop
  | unreadable =>
      cases hstop
      exact refused_refuse (by decide) (by decide)
  | becameBlocked =>
      cases hstop
      exact refused_refuse (by decide) (by decide)
  | stillBusy _ _ _ _ _ _ _ _ _ _ ih => exact ih hstop

theorem SendsQueued.refused_or_confirmed {busyAt : UInt64}
    (hsends : SendsQueued rules harness flat busyAt progress before outcome after) :
    Refused outcome ∨ Confirmed rules harness flat outcome after := by
  cases hsends with
  | sendFailed => exact .inl (refused_refuse (by decide) (by decide))
  | unreadable => exact .inl (refused_refuse (by decide) (by decide))
  | unproven => exact .inl (refused_refuse (by decide) (by decide))
  | queued now ok raw hqueued =>
      refine .inr ⟨rfl, .inr rfl, raw, _, rfl, ⟨typed flat true, by simp, rfl⟩, ?_⟩
      exact fun _ => hqueued

theorem PassesBusy.refused_or_confirmed {pollMs budgetMs : UInt64}
    (hpasses : PassesBusy rules harness flat pollMs budgetMs progress before
      (.error (some outcome)) after) :
    Refused outcome ∨ Confirmed rules harness flat outcome after := by
  cases hpasses with
  | queued _ _ _ _ _ hsend => exact hsend.refused_or_confirmed
  | stopped _ _ _ _ _ hwait => exact .inl (hwait.isRefused rfl)
  | stillThinking => exact .inl (refused_refuse (by decide) (by decide))

theorem SubmitsStale.isRefused
    (hsubmits : SubmitsStale rules progress before (.error (some outcome)) after) :
    Refused outcome := by
  cases hsubmits with
  | unreadable => exact refused_refuse (by decide) (by decide)
  | becameBlocked => exact refused_refuse (by decide) (by decide)
  | stuck => exact refused_refuse (by decide) (by decide)

theorem verdict_cases (rules : PaneRules) (head : RustString) (progress : Progress) :
    (verdict rules head progress).exit = exitDelivered ∧
      (verdict rules head progress).queued = false ∧
      AttestsDelivery (verdictOn (verdict rules head progress).submitted
        (verdict rules head progress).state) := by
  rw [verdict]
  split_ifs
  · exact ⟨rfl, rfl, .inr rfl⟩
  · exact ⟨rfl, rfl, .inl rfl⟩
  · exact ⟨rfl, rfl, .inr rfl⟩

/-- The identity of the harness and the cap fields decide nothing. -/
theorem Refused.of_same {same : Outcome} (hrefused : Refused outcome)
    (hexit : same.exit = outcome.exit) (hsubmitted : same.submitted = outcome.submitted)
    (hstate : same.state = outcome.state) (hqueued : same.queued = outcome.queued) :
    Refused same := by
  constructor
  · rw [hexit]
    exact hrefused.exit
  · rw [hsubmitted, hstate]
    exact hrefused.verdict
  · rw [hqueued]
    exact hrefused.queued

theorem SendsLine.refused_or_confirmed
    (hsends : SendsLine rules flat progress before outcome after) :
    Refused outcome ∨ Confirmed rules harness flat outcome after := by
  cases hsends with
  | sendFailed => exact .inl (refused_refuse (by decide) (by decide))
  | unreadable => exact .inl (refused_refuse (by decide) (by decide))
  | unreadableAgain => exact .inl (refused_refuse (by decide) (by decide))
  | stuck => exact .inl (refused_refuse (by decide) (by decide))
  | gone ok raw =>
      obtain ⟨hexit, hqueued, hverdict⟩ := verdict_cases rules (messageHead flat)
        { progress with screen := tail14 raw }
      refine .inr ⟨hexit, hverdict, raw, _, rfl, ⟨typed flat true, by simp [sendEvents], rfl⟩, ?_⟩
      simp [hqueued]
  | goneAgain ok again raw last =>
      obtain ⟨hexit, hqueued, hverdict⟩ := verdict_cases rules (messageHead flat)
        { progress with screen := tail14 last }
      refine .inr ⟨hexit, hverdict, last, _, rfl, ⟨typed flat true, by simp [sendEvents], rfl⟩, ?_⟩
      simp [hqueued]

theorem Delivers.refused_or_confirmed {selector : HarnessSelector} {text : RustString}
    {opts : DeliveryOptions} {result : Option Outcome}
    (hdelivers : Delivers rules selector text opts result history)
    (hresult : result = some outcome) :
    Refused outcome ∨ Confirmed rules outcome.harness.harness (flatten text) outcome history := by
  cases hdelivers with
  | unreadable =>
      cases hresult
      have hfailed : Refused (refuse .paneReadFailed false "read-failed" exitReadFailed 0 0) :=
        refused_refuse (by decide) (by decide)
      exact .inl (hfailed.of_same rfl rfl rfl rfl)
  | stopped raw stop history hfirst hstop =>
      cases stop with
      | none => cases hresult
      | some stop =>
          cases hresult
          cases hstop with
          | overlay _ _ hoverlay => exact .inl (hoverlay.isRefused.of_same rfl rfl rfl rfl)
          | busy _ _ _ _ _ hbusy =>
              exact hbusy.refused_or_confirmed.imp (fun h => h.of_same rfl rfl rfl rfl)
                fun h => ⟨h.exit, h.verdict, h.seen⟩
          | capped _ idle _ _ hit _ _ _ =>
              have hcapped : Refused (refuse .seatCapped false "seat-capped" exitSeatCapped
                  idle.polls idle.waitedMs) := refused_refuse (by decide) (by decide)
              exact .inl (hcapped.of_same rfl rfl rfl rfl)
          | stale _ _ _ _ _ _ _ _ _ hstale =>
              exact .inl (hstale.isRefused.of_same rfl rfl rfl rfl)
  | sent raw progress sentOutcome before history hfirst hready hsend =>
      cases hresult
      exact hsend.refused_or_confirmed.imp (fun h => h.of_same rfl rfl rfl rfl)
        fun h => ⟨h.exit, h.verdict, h.seen⟩

/-! ## The command -/

/-- On a screen behind the send, one line shows the head of the message, which is not
blank, and a queue marker of the harness. -/
structure SawQueued (rules : PaneRules) (harness flat : RustString) (history : List Event) :
    Prop where
  head : trim (messageHead flat) ≠ []
  line : ∃ raw earlier, sawScreen raw :: earlier <:+ history ∧
    (∃ send ∈ earlier, isSend send = true) ∧
    ∃ line ∈ lines raw, contains line (messageHead flat) = true ∧
      ∃ marker ∈ rules.queueEvidenceFor harness, contains line marker = true

theorem contains_of_starts {line whole part : RustString} (hstarts : line <+: whole)
    (hcontains : contains line part = true) : contains whole part = true :=
  (Text.contains_iff whole part).mpr
    (((Text.contains_iff line part).mp hcontains).trans hstarts.isInfix)

theorem Confirmed.sawQueued (hconfirmed : Confirmed rules harness flat outcome history)
    (hqueued : outcome.queued = true) : SawQueued rules harness flat history := by
  obtain ⟨raw, earlier, rfl, hsend, hshows⟩ := hconfirmed.seen
  have hshows := hshows hqueued
  unfold showsQueued at hshows
  dsimp only at hshows
  split_ifs at hshows with hblank hnone
  simp only [containsAny, List.any_eq_true, Bool.and_eq_true] at hshows
  obtain ⟨line, hline, hhead, marker, hmarker, hevidence⟩ := hshows
  obtain ⟨whole, hwhole, hstarts⟩ := exists_line_of_mem_tail14 hline
  exact ⟨hblank, raw, earlier, List.suffix_refl _, hsend, whole, hwhole,
    contains_of_starts hstarts hhead, marker, hmarker, contains_of_starts hstarts hevidence⟩

theorem Confirmed.not_lastReadFailed (hconfirmed : Confirmed rules harness flat outcome history) :
    ¬LastReadFailed history := by
  obtain ⟨raw, earlier, rfl, -, -⟩ := hconfirmed.seen
  intro hfailed
  have hread : some (some raw) = some none := hfailed
  cases hread

/-- The runs of the command behind a successful preflight. -/
theorem say_cases {command : SayCommand} {disk : Disk} {fuel : Nat} {finished : Finished}
    (hrun : Runs (say rules command disk fuel) [] (some finished) history)
    (hpreflight : disk.preflight = true) :
    ∃ outcome, finished.outcome = some outcome ∧
      Delivers rules command.selector (List.intercalate (rs " ") command.text) command.options
        (some outcome) history ∧
      ((disk.append = true ∧ finished.exit = outcome.exit ∧
          finished.appended = [ProofEntry.forOutcome (rs "say") command.surface outcome
            command.senderRole (formatUtc disk.nowUnix)]) ∨
        (disk.append = false ∧ finished.exit = exitProofRecordLost ∧ finished.appended = [])) := by
  rw [say] at hrun
  rw [hpreflight] at hrun
  simp only [Bool.not_true, Bool.false_eq_true, if_false] at hrun
  obtain ⟨delivered, middle, hdeliver, hrun⟩ := runs_bind.mp hrun
  have hdelivers := deliver_cases hdeliver
  cases delivered with
  | none =>
      obtain ⟨hfinished, -⟩ := runs_pure.mp hrun
      cases hfinished
  | some outcome =>
      dsimp only at hrun
      split_ifs at hrun with happend
      · obtain ⟨hfinished, rfl⟩ := runs_pure.mp hrun
        cases hfinished
        exact ⟨outcome, rfl, hdelivers, .inl ⟨happend, rfl, rfl⟩⟩
      · obtain ⟨hfinished, rfl⟩ := runs_pure.mp hrun
        cases hfinished
        exact ⟨outcome, rfl, hdelivers, .inr ⟨by simpa using happend, rfl, rfl⟩⟩

/-- The log gained one record and the validator attests a delivery on it. -/
def RecordedDelivery (options : RegistryAuthorityOptions) (finished : Finished) : Prop :=
  ∃ entry, finished.appended = [entry] ∧
    AttestsDelivery (validateCmuxDeliveryProof entry.toJson options).delivery

theorem recordedDelivery_iff (options : RegistryAuthorityOptions) {finished : Finished}
    {subcommand surface senderRole : RustString} {seconds : UInt64}
    (hrole : isNonBlankText (textValue senderRole) = true)
    (happended : finished.appended =
      [ProofEntry.forOutcome subcommand surface outcome senderRole (formatUtc seconds)]) :
    RecordedDelivery options finished ↔
      AttestsDelivery (verdictOn outcome.submitted outcome.state) := by
  have hverdict := @validate_entry options subcommand surface outcome senderRole seconds hrole
  rw [← hverdict]
  constructor
  · rintro ⟨entry, hentry, hattests⟩
    cases hentry.symm.trans happended
    exact hattests
  · exact fun hattests => ⟨_, happended, hattests⟩

/-- In every finished run of the command: the exit status is zero exactly for a
recorded delivery, never behind a failed last read, and a queued outcome was seen in
the queue. -/
theorem say_exit_iff_recordedDelivery (options : RegistryAuthorityOptions)
    {command : SayCommand} {disk : Disk} {fuel : Nat} {finished : Finished}
    (hrun : Runs (say rules command disk fuel) [] (some finished) history)
    (hpreflight : disk.preflight = true)
    (hrole : isNonBlankText (textValue command.senderRole) = true) :
    (finished.exit = 0 ↔ RecordedDelivery options finished) ∧
      (LastReadFailed history → finished.exit ≠ 0) ∧
      ∀ outcome, finished.outcome = some outcome → outcome.queued = true →
        SawQueued rules outcome.harness.harness
          (flatten (List.intercalate (rs " ") command.text)) history := by
  obtain ⟨outcome, houtcome, hdelivers, hlogged⟩ := say_cases hrun hpreflight
  have hends := hdelivers.refused_or_confirmed rfl
  refine ⟨?_, ?_, ?_⟩
  · rcases hlogged with ⟨-, hexit, happended⟩ | ⟨-, hexit, happended⟩
    · rw [hexit, recordedDelivery_iff options hrole happended]
      rcases hends with hrefused | hconfirmed
      · exact iff_of_false hrefused.exit hrefused.verdict
      · exact iff_of_true hconfirmed.exit hconfirmed.verdict
    · apply iff_of_false
      · rw [hexit]
        decide
      · rintro ⟨entry, hentry, -⟩
        cases hentry.symm.trans happended
  · intro hfailed
    rcases hlogged with ⟨-, hexit, -⟩ | ⟨-, hexit, -⟩
    · rw [hexit]
      rcases hends with hrefused | hconfirmed
      · exact hrefused.exit
      · exact absurd hfailed hconfirmed.not_lastReadFailed
    · rw [hexit]
      decide
  · intro other hother hqueued
    cases houtcome.symm.trans hother
    rcases hends with hrefused | hconfirmed
    · rw [hrefused.queued] at hqueued
      cases hqueued
    · exact hconfirmed.sawQueued hqueued

/-- A message to a busy harness that keeps a queue. -/
def helloCommand : SayCommand where
  surface := rs "4"
  text := [rs "hello", rs "there"]
  senderRole := rs "EXEC"
  selector := ⟨some (rs "pi"), none⟩
  options := ⟨5000, 180000⟩

def helloPlay : Option Finished × List Event :=
  (say fewRules helloCommand ⟨true, true, 0⟩ 1).play
    (scripted [rs "Working (1s)", rs "Steering: hello there"]) []

theorem say_exit_iff_recordedDelivery_hello :
    ∃ finished, helloPlay.1 = some finished ∧
      RecordedDelivery ⟨false, fun _ _ => .unresolved [] none none⟩ finished ∧
      SawQueued fewRules (rs "pi") (rs "hello there") helloPlay.2 := by
  have hrun := runs_play (scripted [rs "Working (1s)", rs "Steering: hello there"])
    (say fewRules helloCommand ⟨true, true, 0⟩ 1) []
  obtain ⟨finished, hfinished⟩ : ∃ finished, helloPlay.1 = some finished := ⟨_, rfl⟩
  have hends := say_exit_iff_recordedDelivery ⟨false, fun _ _ => .unresolved [] none none⟩
    (hfinished ▸ hrun) rfl (by decide)
  cases hfinished
  exact ⟨_, rfl, hends.1.mp rfl, hends.2.2 _ rfl rfl⟩

end OdinSentinel.Say
