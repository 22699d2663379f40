import OdinSentinel.Watch.History

/-!
# Idle verdicts

When a screen that the loop calls idle has been the same for longer than the threshold.
The loop hands the classifier the time since its own start, and an audit repeats the last
verdict whatever the screen shows.
-/

namespace OdinSentinel.Watch

open JsText Dialogue Registry

variable {runtime : Runtime} {config : WatchConfig} {startTs : Int} {state : WatchState}

/-! ## Sightings -/

/-- The verdict of a completed poll. -/
def Polled.verdict (poll : Polled) : Option WakeVerdict :=
  match poll.report.outcome with
  | .completed _ wakeState => some wakeState.state
  | _ => none

/-- Some completed polls, newest first, from the oldest of which to the newest is more than
the stale threshold. -/
def Spans (config : WatchConfig) (stretch : List Sighting) : Prop :=
  ∃ newest oldest, stretch.head? = some newest ∧ stretch.getLast? = some oldest ∧
    config.staleThresholdMs.lt ((JsNumber.ofInt newest.ts).sub (.ofInt oldest.ts)) = true

/-- Up to the newest of some polls there is a stretch of completed polls that all found one
screen and that spans more than the threshold. -/
def Backed (config : WatchConfig) (polls : List Polled) (hash : JsString) : Prop :=
  ∃ stretch, stretch <+: sightings polls ∧ (∀ sighting ∈ stretch, sighting.hash = hash) ∧
    Spans config stretch

/-- A screen was found more than the threshold before an instant, and by every completed poll
since. -/
def LongSeen (config : WatchConfig) (polls : List Polled) (instant : Int) (hash : JsString) :
    Prop :=
  ∃ sighting ∈ (sightings polls).takeWhile fun sighting => sighting.hash = hash,
    config.staleThresholdMs.lt ((JsNumber.ofInt instant).sub (.ofInt sighting.ts)) = true

/-- A positive factor keeps a number from falling below zero. -/
theorem zero_le_mul {number : JsNumber} (hpositive : (JsNumber.ofNat 0).le number = true)
    (factor : Nat) (hfactor : 0 < factor) :
    (JsNumber.ofNat 0).le (number.mul (.ofNat factor)) = true := by
  cases number with
  | nan => cases hpositive
  | negInfinity => cases hpositive
  | infinity =>
      rw [JsNumber.ofNat, JsNumber.ofNat, JsNumber.mul, JsNumber.infinityOf,
        if_pos (by exact_mod_cast hfactor)]
      rfl
  | finite value =>
      have hvalue : (0 : ℚ) ≤ value := by
        simpa [JsNumber.ofNat, JsNumber.le] using hpositive
      have hzero : toDouble 0 = .ofNat 0 := by decide +kernel
      rw [← hzero]
      apply toDouble_mono
      positivity

theorem WatchConfig.zero_le_stale (config : WatchConfig) :
    (JsNumber.ofNat 0).le config.staleThresholdMs = true := by
  have hseconds : (JsNumber.ofNat 0).le config.intervalSeconds.1 = true :=
    (Bool.and_eq_true_iff.mp config.intervalSeconds.2).1
  exact zero_le_mul (zero_le_mul hseconds 1000 (by decide)) 3 (by decide)

/-- One poll alone spans nothing. -/
theorem not_stale_lt_self (config : WatchConfig) (instant : Int) :
    config.staleThresholdMs.lt ((JsNumber.ofInt instant).sub (.ofInt instant)) = false := by
  have hself : (JsNumber.ofInt instant).sub (.ofInt instant) = .ofNat 0 := by
    simp only [JsNumber.ofInt, JsNumber.sub, JsNumber.neg, JsNumber.add, add_neg_cancel]
    decide +kernel
  rw [hself, JsNumber.lt, config.zero_le_stale, Bool.not_true, Bool.and_false]

/-- The first entries that hold reach an entry exactly when some first entries that all hold
end in it. -/
theorem mem_takeWhile_iff {Entry : Type*} {holds : Entry → Bool} {entries : List Entry}
    {entry : Entry} :
    entry ∈ entries.takeWhile holds ↔
      ∃ stretch, stretch <+: entries ∧ (∀ found ∈ stretch, holds found = true) ∧
        stretch.getLast? = some entry := by
  constructor
  · intro hentry
    obtain ⟨front, back, hsplit⟩ := List.append_of_mem hentry
    have htaken : front ++ [entry] <+: entries.takeWhile holds := by
      rw [hsplit, List.append_cons front entry back]
      exact List.prefix_append _ back
    refine ⟨front ++ [entry], htaken.trans (List.takeWhile_prefix holds), ?_, ?_⟩
    · exact fun found hfound => List.mem_takeWhile_imp (htaken.subset hfound)
    · exact List.getLast?_concat
  · rintro ⟨stretch, ⟨others, rfl⟩, hall, hlast⟩
    rw [List.takeWhile_append_of_pos hall]
    exact List.mem_append_left _ (List.mem_of_getLast? hlast)

/-- A completed poll is backed where its screen was seen for long. -/
theorem backed_iff {poll : Polled} {earlier : List Polled} {sighting : Sighting}
    (hsighting : poll.sighting = some sighting) :
    Backed config (poll :: earlier) sighting.hash ↔
      LongSeen config earlier sighting.ts sighting.hash := by
  have hcons : sightings (poll :: earlier) = sighting :: sightings earlier :=
    List.filterMap_cons_some hsighting
  constructor
  · rintro ⟨stretch, hopens, hsame, newest, oldest, hnewest, holdest, hspans⟩
    cases stretch with
    | nil => cases hnewest
    | cons head rest =>
        rw [hcons, List.cons_prefix_cons] at hopens
        obtain ⟨rfl, hopens⟩ := hopens
        cases hnewest
        cases hlast : rest.getLast? with
        | none =>
            -- The poll alone spans nothing.
            rw [List.getLast?_eq_none_iff.mp hlast, List.getLast?_singleton] at holdest
            cases holdest
            rw [not_stale_lt_self] at hspans
            cases hspans
        | some last =>
            rw [List.getLast?_cons, hlast] at holdest
            cases holdest
            have hall : ∀ found ∈ rest, decide (found.hash = newest.hash) = true :=
              fun found hfound => decide_eq_true (hsame found (List.mem_cons_of_mem _ hfound))
            exact ⟨last, mem_takeWhile_iff.mpr ⟨rest, hopens, hall, hlast⟩, hspans⟩
  · rintro ⟨oldest, holdest, hspans⟩
    obtain ⟨stretch, hopens, hall, hlast⟩ := mem_takeWhile_iff.mp holdest
    refine ⟨sighting :: stretch, ?_, ?_, sighting, oldest, rfl, ?_, hspans⟩
    · rw [hcons, List.cons_prefix_cons]
      exact ⟨rfl, hopens⟩
    · exact List.forall_mem_cons.mpr
        ⟨rfl, fun found hfound => of_decide_eq_true (hall found hfound)⟩
    · rw [List.getLast?_cons, hlast, Option.getD_some]

/-! ## What the loop remembers -/

/-- The verdict that the loop remembers is that of the last completed poll. -/
theorem WatchRun.last_completed {polls : List Polled}
    (hrun : WatchRun runtime config startTs polls state) {verdict : WakeVerdict}
    (hlast : state.lastVerdictState = some verdict) :
    ∃ poll earlier, poll :: earlier <:+ polls ∧ poll.verdict = some verdict ∧
      sightings (poll :: earlier) = sightings polls := by
  induction hrun with
  | start => cases hlast
  | @poll polls state report exchanges hrun hpoll ih =>
      have hbefore (hsame : report.after.lastVerdictState = state.lastVerdictState)
          (hnone : Polled.sighting { before := state, report, exchanges } = none) :
          ∃ poll earlier, poll :: earlier <:+ { before := state, report, exchanges } :: polls ∧
            poll.verdict = some verdict ∧
            sightings (poll :: earlier) =
              sightings ({ before := state, report, exchanges } :: polls) := by
        obtain ⟨poll, earlier, hpoint, hverdict, hsightings⟩ := ih (hsame ▸ hlast)
        refine ⟨poll, earlier, hpoint.trans (List.suffix_cons _ _), hverdict, ?_⟩
        rw [hsightings]
        exact (List.filterMap_cons_none hnone).symm
      cases pollOnce_step hpoll with
      | unclassified => exact hbefore rfl rfl
      | unpublished loopStart observation thrown =>
          apply hbefore _ rfl
          change (state.audited _ _).lastVerdictState = _
          rw [WatchState.audited]
          split <;> rfl
      | completed => exact ⟨_, polls, List.suffix_rfl, hlast, rfl⟩

/-! ## Idle verdicts over a run -/

/-- The stale rule decides a poll, and its screen is not older than the threshold. -/
def CameUpLately (config : WatchConfig) (startTs : Int) (poll : Polled) (earlier : List Polled)
    (observation : Observation) : Prop :=
  CalledStale config startTs poll earlier observation ∧
    ¬LongSeen config earlier poll.report.loopStart observation.snapshot.hash

/-- An audit is due behind an idle verdict, and the screen has changed since, or the clock was
set back so far that the screen is not older than the threshold. -/
def AuditsOther (config : WatchConfig) (startTs : Int) (poll : Polled) (earlier : List Polled)
    (observation : Observation) : Prop :=
  auditPassed config startTs (lastAudit config startTs earlier) poll observation = true ∧
    CalledIdle config startTs earlier ∧
    ∃ last, (sightings earlier).head? = some last ∧
      (last.hash ≠ observation.snapshot.hash ∨
        (poll.report.loopStart < last.ts ∧
          ¬LongSeen config earlier poll.report.loopStart observation.snapshot.hash))

/-- Every idle verdict of a run is backed. -/
def IdleBacked (config : WatchConfig) (polls : List Polled) : Prop :=
  ∀ poll earlier observation wakeState, poll :: earlier <:+ polls →
    poll.report.outcome = .completed observation wakeState → wakeState.state = .idle →
    Backed config (poll :: earlier) observation.snapshot.hash

/-- No completed poll of a run is of either kind. -/
def NeverMisjudges (config : WatchConfig) (startTs : Int) (polls : List Polled) : Prop :=
  ∀ poll earlier observation wakeState, poll :: earlier <:+ polls →
    poll.report.outcome = .completed observation wakeState →
    ¬CameUpLately config startTs poll earlier observation ∧
      ¬AuditsOther config startTs poll earlier observation

section Point

variable {poll : Polled} {earlier : List Polled} {observation : Observation}
variable {wakeState : WakeState}

theorem completed_of_verdict {verdict : WakeVerdict} (hverdict : poll.verdict = some verdict) :
    ∃ observation wakeState, poll.report.outcome = .completed observation wakeState ∧
      wakeState.state = verdict := by
  rw [Polled.verdict] at hverdict
  cases houtcome : poll.report.outcome with
  | unclassified thrown =>
      rw [houtcome] at hverdict
      cases hverdict
  | unpublished observation thrown =>
      rw [houtcome] at hverdict
      cases hverdict
  | completed observation wakeState =>
      rw [houtcome] at hverdict
      exact ⟨observation, wakeState, rfl, Option.some.inj hverdict⟩

/-- A backed idle verdict is on a screen that was seen for long. -/
theorem IdleBacked.longSeen {polls : List Polled} {sighting : Sighting}
    (hbacked : IdleBacked config polls) (hpoint : poll :: earlier <:+ polls)
    (hverdict : poll.verdict = some .idle) (hsighting : poll.sighting = some sighting) :
    LongSeen config earlier sighting.ts sighting.hash := by
  obtain ⟨observation, wakeState, houtcome, hidle⟩ := completed_of_verdict hverdict
  have hsame := hsighting
  rw [sighting_of_completed houtcome] at hsame
  obtain rfl := Option.some.inj hsame
  exact (backed_iff hsighting).mp (hbacked poll earlier observation wakeState hpoint houtcome hidle)

theorem backed_iff_longSeen
    (houtcome : poll.report.outcome = .completed observation wakeState) :
    Backed config (poll :: earlier) observation.snapshot.hash ↔
      LongSeen config earlier poll.report.loopStart observation.snapshot.hash :=
  backed_iff (sighting_of_completed houtcome)

/-- The state that a completed poll of a run writes is idle where an audit repeats it or the
stale rule decides. -/
theorem idle_iff_called (hrun : WatchRun runtime config startTs earlier poll.before)
    (hstep : PollStep runtime config startTs poll.before poll.exchanges poll.report)
    (houtcome : poll.report.outcome = .completed observation wakeState) :
    wakeState.state = .idle ↔
      (auditPassed config startTs (lastAudit config startTs earlier) poll observation = true ∧
        CalledIdle config startTs earlier) ∨
      CalledStale config startTs poll earlier observation := by
  rw [calledStale_iff hrun, ← hrun.idle_iff, ← auditDue_eq hrun.audit_eq]
  obtain ⟨before, report, exchanges⟩ := poll
  dsimp only at hstep houtcome
  cases hstep with
  | unclassified loopStart thrown => cases houtcome
  | unpublished loopStart found thrown => cases houtcome
  | completed loopStart found ts due hts hdue hwrote =>
      cases houtcome
      exact classify_idle_iff _

/-- Behind an idle verdict there is a last screen. -/
theorem CalledIdle.exists_last {polls : List Polled} (hidle : CalledIdle config startTs polls) :
    ∃ last, (sightings polls).head? = some last := by
  induction hidle with
  | stale houtcome hstale =>
      rw [sightings, List.filterMap_cons_some (sighting_of_completed houtcome)]
      exact ⟨_, rfl⟩
  | audit houtcome hdue hidle ih =>
      rw [sightings, List.filterMap_cons_some (sighting_of_completed houtcome)]
      exact ⟨_, rfl⟩
  | failed hfailed hidle ih =>
      rw [sightings, List.filterMap_cons_none hfailed]
      exact ih

/-- A screen that was seen for long is so at a later poll that finds it again. -/
theorem LongSeen.later {last : Polled} {older : List Polled} {sighting : Sighting} {instant : Int}
    (hlast : last.sighting = some sighting)
    (hsame : sightings (last :: older) = sightings earlier)
    (hlong : LongSeen config older sighting.ts sighting.hash) (hlater : sighting.ts ≤ instant) :
    LongSeen config earlier instant sighting.hash := by
  obtain ⟨oldest, holdest, hspans⟩ := hlong
  refine ⟨oldest, ?_, JsNumber.lt_of_lt_of_le hspans (JsNumber.sub_mono hlater ?_)⟩
  · rw [← hsame, sightings, List.filterMap_cons_some hlast, List.takeWhile_cons,
      if_pos (decide_eq_true rfl)]
    exact List.mem_cons_of_mem _ holdest
  · rintro ⟨⟩

/-- An audit on a screen that is as it was at the last idle verdict repeats it rightly. -/
theorem audit_repeats (hrun : WatchRun runtime config startTs earlier poll.before)
    (hbacked : IdleBacked config earlier) (hidle : CalledIdle config startTs earlier)
    {last : Sighting} (hlast : (sightings earlier).head? = some last)
    (hsame : last.hash = observation.snapshot.hash) (hclock : last.ts ≤ poll.report.loopStart) :
    LongSeen config earlier poll.report.loopStart observation.snapshot.hash := by
  obtain ⟨found, older, hpoint, hverdict, hsightings⟩ :=
    hrun.last_completed (hrun.idle_iff.mpr hidle)
  obtain ⟨seen, wakeState, houtcome, -⟩ := completed_of_verdict hverdict
  have hsighting := sighting_of_completed houtcome
  have hlong := hbacked.longSeen hpoint hverdict hsighting
  have hhead : (sightings earlier).head? =
      some { ts := found.report.loopStart, hash := seen.snapshot.hash } := by
    rw [← hsightings, sightings, List.filterMap_cons_some hsighting]
    rfl
  obtain rfl := Option.some.inj (hlast.symm.trans hhead)
  rw [← hsame]
  exact hlong.later hsighting hsightings hclock

/-- A poll of neither kind has a backed verdict if those before it have. -/
theorem backed_of_fair (hrun : WatchRun runtime config startTs earlier poll.before)
    (hstep : PollStep runtime config startTs poll.before poll.exchanges poll.report)
    (hbacked : IdleBacked config earlier)
    (houtcome : poll.report.outcome = .completed observation wakeState)
    (hstale : ¬CameUpLately config startTs poll earlier observation)
    (haudit : ¬AuditsOther config startTs poll earlier observation)
    (hidle : wakeState.state = .idle) :
    Backed config (poll :: earlier) observation.snapshot.hash := by
  rw [backed_iff_longSeen houtcome]
  by_contra hlong
  rcases (idle_iff_called hrun hstep houtcome).mp hidle with ⟨hdue, hcalled⟩ | hcalled
  · obtain ⟨last, hlast⟩ := hcalled.exists_last
    apply haudit
    refine ⟨hdue, hcalled, last, hlast, ?_⟩
    by_cases hsame : last.hash = observation.snapshot.hash
    · right
      refine ⟨?_, hlong⟩
      by_contra hback
      exact hlong (audit_repeats hrun hbacked hcalled hlast hsame (not_lt.mp hback))
    · left
      exact hsame
  · exact hstale ⟨hcalled, hlong⟩

/-- A poll of either kind has an idle verdict that nothing backs. -/
theorem not_backed_of_misjudged (hrun : WatchRun runtime config startTs earlier poll.before)
    (hstep : PollStep runtime config startTs poll.before poll.exchanges poll.report)
    (houtcome : poll.report.outcome = .completed observation wakeState)
    (hkind : CameUpLately config startTs poll earlier observation ∨
      AuditsOther config startTs poll earlier observation) :
    wakeState.state = .idle ∧ ¬Backed config (poll :: earlier) observation.snapshot.hash := by
  rw [idle_iff_called hrun hstep houtcome, backed_iff_longSeen houtcome]
  rcases hkind with ⟨hcalled, hlong⟩ | ⟨hdue, hcalled, last, hlast, hother | ⟨-, hlong⟩⟩
  · exact ⟨.inr hcalled, hlong⟩
  · refine ⟨.inl ⟨hdue, hcalled⟩, ?_⟩
    rintro ⟨oldest, holdest, -⟩
    obtain ⟨rest, hrest⟩ := List.head?_eq_some_iff.mp hlast
    rw [hrest, List.takeWhile_cons_of_neg (by simpa using hother)] at holdest
    cases holdest
  · exact ⟨.inl ⟨hdue, hcalled⟩, hlong⟩

end Point

/-- Every idle verdict of a run is backed exactly where no completed poll finds a screen that
came up lately unchanged in a loop that is older than the threshold, or is an audit of another
screen than the one that was last called idle. -/
theorem idle_backed_iff {polls : List Polled}
    (hrun : WatchRun runtime config startTs polls state) :
    IdleBacked config polls ↔ NeverMisjudges config startTs polls := by
  constructor
  · intro hbacked poll earlier observation wakeState hpoint houtcome
    obtain ⟨hbefore, hstep⟩ := hrun.upTo hpoint
    rw [← not_or]
    intro hkind
    obtain ⟨hidle, hunbacked⟩ := not_backed_of_misjudged hbefore hstep houtcome hkind
    exact hunbacked (hbacked poll earlier observation wakeState hpoint houtcome hidle)
  · intro hfair
    induction hrun with
    | start =>
        intro poll earlier observation wakeState hpoint
        cases List.suffix_nil.mp hpoint
    | @poll polls state report exchanges hrun hpoll ih =>
        have hearlier : IdleBacked config polls :=
          ih fun poll earlier observation wakeState hpoint =>
            hfair poll earlier observation wakeState (hpoint.trans (List.suffix_cons _ _))
        intro poll earlier observation wakeState hpoint houtcome hidle
        rcases List.suffix_cons_iff.mp hpoint with hsame | hpoint
        · obtain ⟨rfl, rfl⟩ := List.cons.inj hsame
          obtain ⟨hstale, haudit⟩ := hfair _ _ _ _ List.suffix_rfl houtcome
          exact backed_of_fair hrun (pollOnce_step hpoll) hearlier houtcome hstale haudit hidle
        · exact hearlier poll earlier observation wakeState hpoint houtcome hidle

/-! ### A screen of ten minutes and one of two -/

/-- One screen, found again behind more than six minutes. -/
def quietPolls : List Polled × WatchState :=
  playPolls screenRuntime watchConfig 0 [shows 400000 (js "one") true, shows 0 (js "one") true]

theorem idle_backed_iff_quiet :
    WatchRun screenRuntime watchConfig 0 quietPolls.1 quietPolls.2 ∧
    (IdleBacked watchConfig quietPolls.1 ↔ NeverMisjudges watchConfig 0 quietPolls.1) :=
  ⟨watchRun_playPolls _, idle_backed_iff (watchRun_playPolls _)⟩

/-- A screen that came up two minutes before the last poll, in a loop of nine minutes. -/
def changedPolls : List Polled × WatchState :=
  playPolls screenRuntime watchConfig 0
    [shows 520000 (js "two") true, shows 400000 (js "two") true, shows 0 (js "one") true]

/-- The last of these polls calls the screen idle behind two minutes. -/
theorem changed_called_idle : ¬∀ runtime config startTs polls state,
    WatchRun runtime config startTs polls state → IdleBacked config polls := by
  intro hbacked
  have hidle : IdleBacked watchConfig changedPolls.1 :=
    hbacked screenRuntime watchConfig 0 _ _ (watchRun_playPolls _)
  have hlong := @IdleBacked.longSeen watchConfig _ _ changedPolls.1
    { ts := 520000, hash := screenRuntime.sha256 (js "two") } hidle List.suffix_rfl
    (by decide +kernel) (by decide +kernel)
  revert hlong
  rw [LongSeen]
  decide +kernel

end OdinSentinel.Watch
