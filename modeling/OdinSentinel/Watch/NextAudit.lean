import OdinSentinel.Core.Instant
import OdinSentinel.Watch.History

/-!
# The next audit

Every wake file names the instant of the next mandatory audit: the start of its poll and an
audit interval.  The rule itself counts from the last audit, and from the start of the loop
before the first one, so that the two differ at every poll that does not audit.
-/

namespace OdinSentinel.Watch

open JsText Host Dialogue Registry

variable {runtime : Runtime} {config : WatchConfig} {startTs : Int} {state : WatchState}

/-! ## Whole numbers of milliseconds -/

/-- The instant that a poll publishes for the next audit. -/
def publishedDue (config : WatchConfig) (loopStart : Int) : JsNumber :=
  (JsNumber.ofInt loopStart).plus config.mandatoryAuditIntervalMs

def Polled.Completed (poll : Polled) : Prop :=
  ∃ observation wakeState, poll.report.outcome = .completed observation wakeState

theorem FiredAudit.classified {poll : Polled} (hfired : FiredAudit config startTs poll) :
    ∃ observation, poll.classified = some observation :=
  let ⟨observation, hclassified, _⟩ := hfired
  ⟨observation, hclassified⟩

theorem Polled.Completed.classified {poll : Polled} (hcompleted : poll.Completed) :
    ∃ observation, poll.classified = some observation := by
  obtain ⟨observation, wakeState, houtcome⟩ := hcompleted
  exact ⟨observation, by rw [Polled.classified, houtcome]⟩

/-- The clock of the host does not go back while the loop runs. -/
structure ForwardClock (startTs : Int) (polls : List Polled) : Prop where
  epoch : 0 ≤ startTs
  start : ∀ poll ∈ polls, startTs ≤ poll.report.loopStart
  onward : polls.Pairwise fun later earlier => earlier.report.loopStart ≤ later.report.loopStart
  within : ∀ poll ∈ polls, ∀ observation, poll.classified = some observation →
    poll.report.loopStart ≤ observation.nowMs

/-- What a record publishes, in whole milliseconds. -/
structure Publishes (runtime : Runtime) (config : WatchConfig) (loopStart : Int) (text : JsString)
    (due interval : Int) : Prop where
  parsed : runtime.dateParse text = some due
  due_eq : due = loopStart + interval
  published : ∀ instant,
    (publishedDue config loopStart).le (.ofInt instant) = decide (due ≤ instant)
  passed : ∀ base instant, dueFrom config base instant = decide (base + interval ≤ instant)

theorem ForwardClock.le {later earlier : List Polled} {poll next : Polled}
    (hclock : ForwardClock startTs (later ++ poll :: earlier)) (hnext : next ∈ later) :
    poll.report.loopStart ≤ next.report.loopStart :=
  (List.pairwise_append.mp hclock.onward).2.2 next hnext poll List.mem_cons_self

/-- An interval has passed at a poll that starts at the published instant or later, if the
last audit came no later than the record. -/
theorem Publishes.auditPassed {loopStart due interval : Int} {text : JsString} {last : Option Int}
    {next : Polled} {observation : Observation}
    (hpublishes : Publishes runtime config loopStart text due interval)
    (hlast : last.getD startTs ≤ loopStart) (hlate : due ≤ next.report.loopStart)
    (hwithin : next.report.loopStart ≤ observation.nowMs) :
    auditPassed config startTs last next observation = true := by
  have hdue := hpublishes.due_eq
  cases last with
  | none =>
      change startTs ≤ loopStart at hlast
      rw [Watch.auditPassed, hpublishes.passed]
      exact decide_eq_true (by omega)
  | some ts =>
      change ts ≤ loopStart at hlast
      rw [Watch.auditPassed, hpublishes.passed]
      exact decide_eq_true (by omega)

end OdinSentinel.Watch
