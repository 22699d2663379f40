import OdinSentinel.Watch.Runs

/-!
# Audits of failing polls

What a poll that throws leaves of the loop's state.  The audit clock is reset before the
wake files are written, so a poll that fails behind its classification loses the audit.
-/

namespace OdinSentinel.Watch

open JsText Dialogue Registry

variable {runtime : Runtime} {config : WatchConfig} {startTs : Int} {state : WatchState}

/-! ## Failing polls -/

/-- What a poll classified, if it came so far. -/
def Polled.classified (poll : Polled) : Option Observation :=
  match poll.report.outcome with
  | .unclassified _ => none
  | .unpublished observation _ => some observation
  | .completed observation _ => some observation

/-- What a poll threw. -/
def Polled.thrown (poll : Polled) : Option Thrown :=
  match poll.report.outcome with
  | .unclassified thrown => some thrown
  | .unpublished _ thrown => some thrown
  | .completed _ _ => none

/-- The audit rule decided a poll. -/
def FiredAudit (config : WatchConfig) (startTs : Int) (poll : Polled) : Prop :=
  ∃ observation, poll.classified = some observation ∧
    ClassifierInput.auditReason ∈ (classify (poll.input config startTs observation)).reasonCodes

/-- The wake files of a poll were completely written. -/
def CompletelyWritten (runtime : Runtime) (config : WatchConfig) (poll : Polled) : Prop :=
  ∃ wakeState, WroteWakeFiles runtime config poll.exchanges wakeState

/-- A poll that throws leaves the state as it was. -/
def KeepsState (poll : Polled) : Prop := poll.thrown.isSome = true → poll.report.after = poll.before

/-- A poll of a run and the next one behind it that classifies. -/
structure NextClassified (polls : List Polled) (first next : Polled) : Prop where
  consecutive : ∃ later between earlier, polls = later ++ next :: (between ++ first :: earlier) ∧
    ∀ poll ∈ between, poll.classified = none
  classified : next.classified.isSome = true

/-- Behind an audit whose wake files were not completely written the audit rule decides the
next poll that classifies. -/
def FiresAgain (runtime : Runtime) (config : WatchConfig) (startTs : Int) (polls : List Polled) :
    Prop :=
  ∀ first next, NextClassified polls first next → FiredAudit config startTs first →
    ¬CompletelyWritten runtime config first → FiredAudit config startTs next

/-- A poll threw behind its classification, and an audit was due. -/
def FailsAudit (config : WatchConfig) (startTs : Int) (poll : Polled) : Prop :=
  ∃ observation thrown, poll.report.outcome = .unpublished observation thrown ∧
    (poll.input config startTs observation).auditDue = true

/-- Every audit poll that fails started at the instant of the last audit, and the next poll
that classifies comes an audit interval behind it or later. -/
structure LosesNoAudit (runtime : Runtime) (config : WatchConfig) (startTs : Int)
    (polls : List Polled) : Prop where
  sameInstant : ∀ poll ∈ polls, FailsAudit config startTs poll →
    poll.before.lastMandatoryAuditTs = some poll.report.loopStart
  dueAgain : ∀ first next observation, NextClassified polls first next →
    FailsAudit config startTs first → ¬CompletelyWritten runtime config first →
    next.classified = some observation →
    config.mandatoryAuditIntervalMs.le
      ((JsNumber.ofInt observation.nowMs).sub (.ofInt first.report.loopStart)) = true

theorem firedAudit_iff {poll : Polled} {observation : Observation}
    (hclassified : poll.classified = some observation) :
    FiredAudit config startTs poll ↔ (poll.input config startTs observation).auditDue = true := by
  have hreason := @auditReason_mem_iff (poll.input config startTs observation) rfl
  rw [← hreason]
  constructor
  · rintro ⟨found, hfound, hmem⟩
    rw [hclassified] at hfound
    cases hfound
    exact hmem
  · exact fun hmem => ⟨observation, hclassified, hmem⟩

theorem firedAudit_iff_any {poll : Polled} :
    FiredAudit config startTs poll ↔
      (poll.classified.any fun observation =>
        (poll.input config startTs observation).auditDue) = true := by
  cases hclassified : poll.classified with
  | none =>
      apply iff_of_false _ Bool.false_ne_true
      rintro ⟨observation, hfound, -⟩
      rw [hclassified] at hfound
      cases hfound
  | some observation => exact firedAudit_iff hclassified

/-- The reset of the audit clock. -/
theorem audited_eq (state : WatchState) (loopStart : Int) (observation : Observation) :
    state.audited loopStart (resultOf config startTs state loopStart observation) =
      if (classifierInput config startTs state loopStart observation).auditDue then
        { state with lastMandatoryAuditTs := some loopStart }
      else state := by
  have hreason := @auditReason_mem_iff
    (classifierInput config startTs state loopStart observation) rfl
  rw [← List.contains_iff_mem] at hreason
  rw [WatchState.audited, resultOf]
  exact if_congr hreason rfl rfl

theorem audited_eq_self_iff (state : WatchState) (loopStart : Int) (observation : Observation) :
    state.audited loopStart (resultOf config startTs state loopStart observation) = state ↔
      ((classifierInput config startTs state loopStart observation).auditDue = true →
        state.lastMandatoryAuditTs = some loopStart) := by
  rw [audited_eq]
  cases (classifierInput config startTs state loopStart observation).auditDue with
  | false => simp
  | true =>
      obtain ⟨prevHash, lastVerdictState, lastMandatoryAuditTs⟩ := state
      simp [eq_comm]

/-- A poll keeps the state unless it fails an audit that it started later than the last. -/
theorem PollStep.keepsState_iff {poll : Polled}
    (hstep : PollStep runtime config startTs poll.before poll.exchanges poll.report) :
    KeepsState poll ↔ (FailsAudit config startTs poll →
      poll.before.lastMandatoryAuditTs = some poll.report.loopStart) := by
  obtain ⟨before, report, exchanges⟩ := poll
  dsimp only at hstep
  cases hstep with
  | unclassified loopStart thrown =>
      apply iff_of_true
      · exact fun _ => rfl
      · rintro ⟨_, _, ⟨⟩, -⟩
  | unpublished loopStart observation thrown =>
      have hkeeps := @audited_eq_self_iff config startTs before loopStart observation
      constructor
      · rintro hstate ⟨_, _, ⟨⟩, hdue⟩
        exact hkeeps.mp (hstate rfl) hdue
      · exact fun hsame _ => hkeeps.mpr fun hdue => hsame ⟨_, _, rfl, hdue⟩
  | completed loopStart observation ts due hts hdue hwrote =>
      apply iff_of_true
      · rintro ⟨⟩
      · rintro ⟨_, _, ⟨⟩, -⟩

/-! ## The next poll that classifies -/

/-- Polls that do not classify leave the state as it was. -/
theorem WatchRun.unclassified {first : Polled} {between earlier : List Polled}
    (hrun : WatchRun runtime config startTs (between ++ first :: earlier) state)
    (hbetween : ∀ poll ∈ between, poll.classified = none) : state = first.report.after := by
  induction between generalizing state with
  | nil =>
      cases hrun
      rfl
  | cons poll rest ih =>
      obtain ⟨hpoll, hrest⟩ := List.forall_mem_cons.mp hbetween
      cases hrun with
      | poll hrun hruns =>
          obtain rfl := ih hrun hrest
          cases pollOnce_step hruns with
          | unclassified => rfl
          | unpublished => cases hpoll
          | completed => cases hpoll

theorem NextClassified.before_eq {polls : List Polled} {first next : Polled}
    (hrun : WatchRun runtime config startTs polls state)
    (hnext : NextClassified polls first next) : next.before = first.report.after := by
  obtain ⟨later, between, earlier, rfl, hbetween⟩ := hnext.consecutive
  exact (hrun.upTo (List.suffix_append later _)).1.unclassified hbetween

theorem NextClassified.mem {polls : List Polled} {first next : Polled}
    (hnext : NextClassified polls first next) : first ∈ polls := by
  obtain ⟨later, between, earlier, rfl, -⟩ := hnext.consecutive
  simp

/-! ## Audits over a run -/

/-- An audit whose wake files were not completely written is one that fails. -/
theorem PollStep.failsAudit {poll : Polled}
    (hstep : PollStep runtime config startTs poll.before poll.exchanges poll.report)
    (hfired : FiredAudit config startTs poll) (hwritten : ¬CompletelyWritten runtime config poll) :
    FailsAudit config startTs poll := by
  obtain ⟨before, report, exchanges⟩ := poll
  dsimp only at hstep
  cases hstep with
  | unclassified loopStart thrown =>
      obtain ⟨observation, ⟨⟩, -⟩ := hfired
  | unpublished loopStart observation thrown =>
      exact ⟨observation, thrown, rfl, (firedAudit_iff rfl).mp hfired⟩
  | completed loopStart observation ts due hts hdue hwrote => exact absurd ⟨_, hwrote⟩ hwritten

theorem FailsAudit.fired {poll : Polled} (hfails : FailsAudit config startTs poll) :
    FiredAudit config startTs poll := by
  obtain ⟨observation, thrown, houtcome, hdue⟩ := hfails
  have hclassified : poll.classified = some observation := by
    rw [Polled.classified, houtcome]
  exact (firedAudit_iff hclassified).mpr hdue

/-- An audit that fails has reset the clock. -/
theorem PollStep.clock_of_failsAudit {poll : Polled}
    (hstep : PollStep runtime config startTs poll.before poll.exchanges poll.report)
    (hfails : FailsAudit config startTs poll) :
    poll.report.after.lastMandatoryAuditTs = some poll.report.loopStart := by
  obtain ⟨before, report, exchanges⟩ := poll
  dsimp only at hstep
  cases hstep with
  | unclassified loopStart thrown => obtain ⟨_, _, ⟨⟩, -⟩ := hfails
  | unpublished loopStart observation thrown =>
      obtain ⟨_, _, ⟨⟩, hdue⟩ := hfails
      change (before.audited _ _).lastMandatoryAuditTs = _
      rw [audited_eq]
      exact congrArg _ (if_pos hdue)
  | completed loopStart observation ts due hts hdue hwrote => obtain ⟨_, _, ⟨⟩, -⟩ := hfails

/-- Behind an audit that failed the next one is due an interval later. -/
theorem fires_behind_failed {polls : List Polled} {first next : Polled} {observation : Observation}
    (hrun : WatchRun runtime config startTs polls state)
    (hnext : NextClassified polls first next) (hfails : FailsAudit config startTs first)
    (hclassified : next.classified = some observation) :
    FiredAudit config startTs next ↔
      config.mandatoryAuditIntervalMs.le
        ((JsNumber.ofInt observation.nowMs).sub (.ofInt first.report.loopStart)) = true := by
  have hclock : next.before.lastMandatoryAuditTs = some first.report.loopStart := by
    rw [hnext.before_eq hrun]
    exact (hrun.step_of_mem hnext.mem).clock_of_failsAudit hfails
  have hts : (next.input config startTs observation).lastMandatoryAuditTs =
      some (.ofInt first.report.loopStart) := congrArg (Option.map JsNumber.ofInt) hclock
  rw [firedAudit_iff hclassified, ClassifierInput.auditDue, auditElapsed_some hts]
  exact Iff.rfl

/-- The polls of a run that throw keep the state, and lost audits are made up for by the next
poll that classifies, exactly where no audit poll fails but one that started at the instant of
the last audit and is followed by a poll an interval later. -/
theorem audit_kept_iff {polls : List Polled} (hrun : WatchRun runtime config startTs polls state) :
    ((∀ poll ∈ polls, KeepsState poll) ∧ FiresAgain runtime config startTs polls) ↔
      LosesNoAudit runtime config startTs polls := by
  constructor
  · rintro ⟨hkeeps, hagain⟩
    refine ⟨fun poll hpoll => (hrun.step_of_mem hpoll).keepsState_iff.mp (hkeeps poll hpoll), ?_⟩
    intro first next observation hnext hfails hwritten hclassified
    exact (fires_behind_failed hrun hnext hfails hclassified).mp
      (hagain first next hnext hfails.fired hwritten)
  · rintro ⟨hinstant, hdue⟩
    refine ⟨fun poll hpoll => (hrun.step_of_mem hpoll).keepsState_iff.mpr (hinstant poll hpoll), ?_⟩
    intro first next hnext hfired hwritten
    obtain ⟨observation, hclassified⟩ := Option.isSome_iff_exists.mp hnext.classified
    have hfails := (hrun.step_of_mem hnext.mem).failsAudit hfired hwritten
    exact (fires_behind_failed hrun hnext hfails hclassified).mpr
      (hdue first next observation hnext hfails hwritten hclassified)

/-! ### A full disk at the first audit -/

/-- An audit that is due at the first poll, and its files are written. -/
def auditedPolls : List Polled × WatchState :=
  playPolls screenRuntime watchConfig 0 [shows 820000 (js "one") true, shows 700000 (js "one") true]

theorem audit_kept_iff_written :
    WatchRun screenRuntime watchConfig 0 auditedPolls.1 auditedPolls.2 ∧
    (((∀ poll ∈ auditedPolls.1, KeepsState poll) ∧
        FiresAgain screenRuntime watchConfig 0 auditedPolls.1) ↔
      LosesNoAudit screenRuntime watchConfig 0 auditedPolls.1) :=
  ⟨watchRun_playPolls _, audit_kept_iff (watchRun_playPolls _)⟩

/-- The same, but the disk is full. -/
def fullDiskPoll : Polled :=
  playPoll screenRuntime watchConfig 0 .initial (shows 700000 (js "one") false)

/-- The poll two minutes later. -/
def laterPoll : Polled :=
  playPoll screenRuntime watchConfig 0 fullDiskPoll.report.after (shows 820000 (js "one") true)

theorem not_completelyWritten_fullDiskPoll :
    ¬CompletelyWritten screenRuntime watchConfig fullDiskPoll := by
  rintro ⟨wakeState, hwrote⟩
  rcases answer_of_mem_play _ hwrote.flag with hmem | ⟨earlier, hanswer⟩
  · cases hmem
  · cases hanswer

/-- Nothing is written at the first of these polls, and the second does not audit. -/
theorem fullDisk_swallows : ¬∀ runtime config startTs polls state,
    WatchRun runtime config startTs polls state →
      (∀ poll ∈ polls, KeepsState poll) ∧ FiresAgain runtime config startTs polls := by
  intro hkeeps
  have hrun : WatchRun screenRuntime watchConfig 0 [laterPoll, fullDiskPoll]
      laterPoll.report.after := (WatchRun.start.playPoll _).playPoll _
  have hnext : NextClassified [laterPoll, fullDiskPoll] fullDiskPoll laterPoll :=
    ⟨⟨[], [], [], rfl, by rintro _ ⟨⟩⟩, by decide +kernel⟩
  have hfired : FiredAudit watchConfig 0 fullDiskPoll := firedAudit_iff_any.mpr (by decide +kernel)
  have hagain := (hkeeps _ _ _ _ _ hrun).2 _ _ hnext hfired not_completelyWritten_fullDiskPoll
  exact absurd (firedAudit_iff_any.mp hagain) (by decide +kernel)

end OdinSentinel.Watch
