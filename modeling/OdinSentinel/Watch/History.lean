import OdinSentinel.Watch.Audit
import OdinSentinel.Watch.Silence

/-!
# What a run leaves behind

The loop carries a hash, a verdict and the instant of an audit from poll to poll.  The times
and the screens of its polls tell what they are: the last screen, whether the last verdict was
idle, and the start of the last audit.
-/

namespace OdinSentinel.Watch

open JsText Dialogue Registry ClassifierInput

variable {runtime : Runtime} {config : WatchConfig} {startTs : Int} {state : WatchState}
variable {poll : Polled} {earlier polls : List Polled} {observation : Observation}

/-! ## The last screen -/

/-- A screen that a completed poll found. -/
structure Sighting where
  ts : Int
  hash : JsString
  deriving DecidableEq

def Polled.sighting (poll : Polled) : Option Sighting :=
  match poll.report.outcome with
  | .completed observation _ =>
      some { ts := poll.report.loopStart, hash := observation.snapshot.hash }
  | _ => none

/-- The screens of the completed polls, newest first. -/
def sightings (polls : List Polled) : List Sighting := polls.filterMap Polled.sighting

/-- The loop remembers the screen of the last completed poll. -/
theorem WatchRun.prevHash (hrun : WatchRun runtime config startTs polls state) :
    state.prevHash = (sightings polls).head?.map Sighting.hash := by
  induction hrun with
  | start => rfl
  | @poll polls state report exchanges hrun hpoll ih =>
      cases pollOnce_step hpoll with
      | unclassified => exact ih
      | unpublished loopStart observation thrown =>
          change (state.audited _ _).prevHash = _
          rw [WatchState.audited]
          split <;> exact ih
      | completed => rfl

/-! ## The last audit -/

/-- An audit interval has passed from an instant to another. -/
def dueFrom (config : WatchConfig) (base instant : Int) : Bool :=
  config.mandatoryAuditIntervalMs.le ((JsNumber.ofInt instant).sub (.ofInt base))

/-- An audit interval has passed since the last audit when a poll classifies, or, before the
first audit, since the start of the loop when the poll starts. -/
def auditPassed (config : WatchConfig) (startTs : Int) (last : Option Int) (poll : Polled)
    (observation : Observation) : Bool :=
  match last with
  | none => dueFrom config startTs poll.report.loopStart
  | some ts => dueFrom config ts observation.nowMs

/-- The start of the last audit of some polls, newest first. -/
def lastAudit (config : WatchConfig) (startTs : Int) : List Polled → Option Int
  | [] => none
  | poll :: earlier =>
      match poll.classified with
      | none => lastAudit config startTs earlier
      | some observation =>
          if auditPassed config startTs (lastAudit config startTs earlier) poll observation then
            some poll.report.loopStart
          else lastAudit config startTs earlier

theorem auditDue_eq
    (hclock : poll.before.lastMandatoryAuditTs = lastAudit config startTs earlier) :
    (poll.input config startTs observation).auditDue =
      auditPassed config startTs (lastAudit config startTs earlier) poll observation := by
  rw [← hclock, ClassifierInput.auditDue, ClassifierInput.auditElapsed, Polled.input,
    classifierInput]
  cases poll.before.lastMandatoryAuditTs <;> rfl

theorem clock_audited (state : WatchState) (loopStart : Int) (observation : Observation) :
    (state.audited loopStart
        (resultOf config startTs state loopStart observation)).lastMandatoryAuditTs =
      if (classifierInput config startTs state loopStart observation).auditDue then some loopStart
      else state.lastMandatoryAuditTs := by
  rw [audited_eq]
  split_ifs <;> rfl

/-- The loop remembers the start of the last audit. -/
theorem WatchRun.audit_eq (hrun : WatchRun runtime config startTs polls state) :
    state.lastMandatoryAuditTs = lastAudit config startTs polls := by
  induction hrun with
  | start => rfl
  | @poll polls state report exchanges hrun hpoll ih =>
      have hpassed : ∀ observation, (classifierInput config startTs state report.loopStart
          observation).auditDue = auditPassed config startTs (lastAudit config startTs polls)
            { before := state, report, exchanges } observation :=
        fun observation => @auditDue_eq config startTs { before := state, report, exchanges } polls
          observation ih
      have hclassifies : ∀ observation,
          Polled.classified { before := state, report, exchanges } = some observation →
          (state.audited report.loopStart (resultOf config startTs state report.loopStart
            observation)).lastMandatoryAuditTs =
            lastAudit config startTs ({ before := state, report, exchanges } :: polls) := by
        intro observation hclassified
        rw [clock_audited, hpassed, ih, lastAudit, hclassified]
      cases pollOnce_step hpoll with
      | unclassified => exact ih
      | unpublished loopStart observation thrown => exact hclassifies observation rfl
      | completed loopStart observation => exact hclassifies observation rfl

/-! ## Idle verdicts -/

/-- Nothing that a poll found calls for another verdict than one on the screen's age: there is
no marker and no option line on the screen, and the dirty paths are in scope. -/
structure ShowsNothing (config : WatchConfig) (observation : Observation) : Prop where
  approval : ¬Mentions observation.snapshot.text approvalStrings
  option : ¬HasOptionLine observation.snapshot.text
  crash : ¬Mentions observation.snapshot.text crashStrings
  qaComplete : ¬Mentions observation.snapshot.text qaCompleteStrings
  devComplete : ¬Mentions observation.snapshot.text devCompleteStrings
  blocker : ¬Mentions observation.snapshot.text blockerStrings
  scope : config.writeScope ≠ [] → ∀ path ∈ observation.dirtyPaths,
    ∃ rawScope ∈ config.writeScope, LiesBelow path rawScope

theorem undecided_iff :
    (poll.input config startTs observation).Undecided ↔ ShowsNothing config observation := by
  have hscope : InScope (poll.input config startTs observation) ↔
      (config.writeScope ≠ [] → ∀ path ∈ observation.dirtyPaths,
        ∃ rawScope ∈ config.writeScope, LiesBelow path rawScope) := Iff.rfl
  have hvalid : (poll.input config startTs observation).invalidLiveness = none := rfl
  have hmimic : (poll.input config startTs observation).livenessMimic = none := rfl
  have hprogress : (poll.input config startTs observation).artifactProgress = none := rfl
  have htext : (poll.input config startTs observation).text = observation.snapshot.text := rfl
  simp only [ClassifierInput.Undecided, screenRules, List.forall_mem_cons, approvalMarkers_eq_none,
    crashMarkers, qaCompleteMarkers, devCompleteMarkers, blockerMarkers, markerRule_eq_none,
    scopeViolation_eq_none, hscope, hvalid, hmimic, hprogress, htext, true_and]
  constructor
  · rintro ⟨⟨happroval, hoption⟩, hcrash, hqa, hdev, hblocker, hinside, -⟩
    exact ⟨happroval, hoption, hcrash, hqa, hdev, hblocker, hinside⟩
  · rintro ⟨happroval, hoption, hcrash, hqa, hdev, hblocker, hinside⟩
    exact ⟨⟨happroval, hoption⟩, hcrash, hqa, hdev, hblocker, hinside, by simp⟩

/-- The stale rule decides a poll: no audit is due, nothing calls for another verdict, the
screen is that of the last completed poll, and the loop is older than the threshold. -/
structure CalledStale (config : WatchConfig) (startTs : Int) (poll : Polled)
    (earlier : List Polled) (observation : Observation) : Prop where
  notDue : auditPassed config startTs (lastAudit config startTs earlier) poll observation = false
  shows : ShowsNothing config observation
  unchanged : ∃ last, (sightings earlier).head? = some last ∧
    last.hash = observation.snapshot.hash
  late : config.staleThresholdMs.lt
    ((JsNumber.ofInt poll.report.loopStart).sub (.ofInt startTs)) = true

/-- The last completed poll was called idle, by the stale rule or by an audit behind a poll
that was. -/
inductive CalledIdle (config : WatchConfig) (startTs : Int) : List Polled → Prop
  | stale {poll : Polled} {earlier : List Polled} {observation : Observation}
      {wakeState : WakeState} (houtcome : poll.report.outcome = .completed observation wakeState)
      (hstale : CalledStale config startTs poll earlier observation) :
      CalledIdle config startTs (poll :: earlier)
  | audit {poll : Polled} {earlier : List Polled} {observation : Observation}
      {wakeState : WakeState} (houtcome : poll.report.outcome = .completed observation wakeState)
      (hdue : auditPassed config startTs (lastAudit config startTs earlier) poll observation = true)
      (hidle : CalledIdle config startTs earlier) : CalledIdle config startTs (poll :: earlier)
  | failed {poll : Polled} {earlier : List Polled} (hfailed : poll.sighting = none)
      (hidle : CalledIdle config startTs earlier) : CalledIdle config startTs (poll :: earlier)

theorem sighting_of_completed {wakeState : WakeState}
    (houtcome : poll.report.outcome = .completed observation wakeState) :
    poll.sighting =
      some { ts := poll.report.loopStart, hash := observation.snapshot.hash } := by
  rw [Polled.sighting, houtcome]

/-- A completed poll is called idle by the stale rule or by an audit. -/
theorem calledIdle_completed {wakeState : WakeState}
    (houtcome : poll.report.outcome = .completed observation wakeState) :
    CalledIdle config startTs (poll :: earlier) ↔
      (auditPassed config startTs (lastAudit config startTs earlier) poll observation = true ∧
        CalledIdle config startTs earlier) ∨
      CalledStale config startTs poll earlier observation := by
  constructor
  · intro hidle
    cases hidle with
    | stale hcompleted hstale =>
        obtain ⟨rfl, -⟩ := PollOutcome.completed.inj (houtcome.symm.trans hcompleted)
        exact .inr hstale
    | audit hcompleted hdue hidle =>
        obtain ⟨rfl, -⟩ := PollOutcome.completed.inj (houtcome.symm.trans hcompleted)
        exact .inl ⟨hdue, hidle⟩
    | failed hfailed hidle =>
        rw [sighting_of_completed houtcome] at hfailed
        cases hfailed
  · rintro (⟨hdue, hidle⟩ | hstale)
    · exact .audit houtcome hdue hidle
    · exact .stale houtcome hstale

/-- Another poll leaves the last verdict as it was. -/
theorem calledIdle_failed (hfailed : poll.sighting = none) :
    CalledIdle config startTs (poll :: earlier) ↔ CalledIdle config startTs earlier := by
  constructor
  · intro hidle
    cases hidle with
    | stale hcompleted hstale =>
        rw [sighting_of_completed hcompleted] at hfailed
        cases hfailed
    | audit hcompleted hdue hidle =>
        rw [sighting_of_completed hcompleted] at hfailed
        cases hfailed
    | failed _ hidle => exact hidle
  · exact CalledIdle.failed hfailed

/-- The classifier's stale rule decides a poll of a run where its times and screens say so. -/
theorem calledStale_iff (hrun : WatchRun runtime config startTs earlier poll.before) :
    CalledStale config startTs poll earlier observation ↔
      (poll.input config startTs observation).auditDue = false ∧
        (poll.input config startTs observation).Undecided ∧
        (poll.input config startTs observation).unchangedPastStale = true := by
  have hunchanged : (poll.input config startTs observation).unchangedPastStale = true ↔
      (∃ last, (sightings earlier).head? = some last ∧ last.hash = observation.snapshot.hash) ∧
      config.staleThresholdMs.lt
        ((JsNumber.ofInt poll.report.loopStart).sub (.ofInt startTs)) = true := by
    rw [ClassifierInput.unchangedPastStale, Bool.and_eq_true, beq_iff_eq]
    apply and_congr_left'
    change poll.before.prevHash = some observation.snapshot.hash ↔ _
    rw [hrun.prevHash, Option.map_eq_some_iff]
  rw [auditDue_eq hrun.audit_eq, undecided_iff, hunchanged]
  constructor
  · rintro ⟨hdue, hshows, hsame, hlate⟩
    exact ⟨hdue, hshows, hsame, hlate⟩
  · rintro ⟨hdue, hshows, hsame, hlate⟩
    exact ⟨hdue, hshows, hsame, hlate⟩

/-- The loop remembers whether the last verdict was idle. -/
theorem WatchRun.idle_iff (hrun : WatchRun runtime config startTs polls state) :
    state.lastVerdictState = some .idle ↔ CalledIdle config startTs polls := by
  induction hrun with
  | start =>
      apply iff_of_false
      · rintro ⟨⟩
      · rintro ⟨⟩
  | @poll polls state report exchanges hrun hpoll ih =>
      cases pollOnce_step hpoll with
      | unclassified => exact ih.trans (calledIdle_failed rfl).symm
      | unpublished loopStart observation thrown =>
          rw [calledIdle_failed rfl, ← ih]
          change (state.audited _ _).lastVerdictState = _ ↔ _
          rw [WatchState.audited]
          split <;> rfl
      | completed loopStart observation ts due =>
          rw [calledIdle_completed rfl, ← ih, calledStale_iff hrun, Option.some_inj]
          rw [← @auditDue_eq config startTs _ polls observation hrun.audit_eq]
          exact classify_idle_iff _

end OdinSentinel.Watch
