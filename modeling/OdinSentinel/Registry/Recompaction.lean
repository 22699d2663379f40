import OdinSentinel.Registry.DryRun

/-!
# Compacting again

What is past its time stays so, and a summary never is.  A second compaction at one instant
therefore finds nothing to remove, and compactions at two instants keep what one at the
later instant keeps.
-/

namespace OdinSentinel.Registry

open JsText Dialogue

variable {runtime : Runtime} {scope : JsString} {policy : TtlPolicy}
variable {fails : FileAsk → Prop}

/-! ## Lines and time -/

/-- The instant of a cutoff only rises. -/
theorem cutoff_mono {early late instant : Int} (hle : early ≤ late)
    {eventClass : GovdispEventClass}
    (hold : (JsNumber.ofInt instant).lt (policy.cutoff early eventClass) = true) :
    (JsNumber.ofInt instant).lt (policy.cutoff late eventClass) = true := by
  rw [TtlPolicy.cutoff] at hold ⊢
  by_cases hnan : (policy.ttl eventClass).mul (.ofNat dayMs) = .nan
  · rw [hnan] at hold
    cases hold
  · exact JsNumber.lt_of_lt_of_le hold (JsNumber.sub_mono hle hnan)

/-- A line past its time stays past it. -/
theorem isPastLine_ages : Sweep.Ages (isPastLine runtime policy) := by
  intro early late hle line hpast
  obtain ⟨event, eventMs, hevent, hdate, hclass, hold⟩ := isPastLine_iff.mp hpast
  exact isPastLine_iff.mpr ⟨event, eventMs, hevent, hdate, hclass, cutoff_mono hle hold⟩

section Retained

variable {early late : Int} {before after : JsString} {summary : Option GovdispEvent}

/-- The lines of the summary that a compaction wrote. -/
def summaryLines (runtime : Runtime) (summary : Option GovdispEvent) : List JsString :=
  summary.toList.map (eventLine runtime)

/-- The entries of the summary that a compaction wrote. -/
def summaryEntries (summary : Option GovdispEvent) : List (JsString × JsString) :=
  summary.toList.flatMap summaryHashes

/-- The summary stays. -/
theorem Retained.summary_fresh (hretained : Retained runtime policy early before after summary)
    (nowMs : Int) :
    ∀ line ∈ summaryLines runtime summary, isPastLine runtime policy nowMs line = false := by
  intro line hline
  obtain ⟨event, hevent, rfl⟩ := List.mem_map.mp hline
  exact isPastLine_terminal (lineEvent_eventLine event)
    (hretained.summary_terminal event (Option.mem_toList.mp hevent))

/-- The summary has an entry for every line that was removed. -/
theorem Retained.entries_eq (hretained : Retained runtime policy early before after summary) :
    summaryEntries summary =
      (Sweep.removed (isPastLine runtime policy) early (splitLogLines before)).filterMap
        (lineHash runtime) := by
  cases hsummary : summary with
  | none =>
      have hnone : Sweep.removed (isPastLine runtime policy) early (splitLogLines before) = [] := by
        by_contra hremoved
        have hsome := hretained.summary_iff.mpr hremoved
        rw [hsummary] at hsome
        cases hsome
      rw [hnone]
      rfl
  | some event =>
      rw [← hretained.hashes event hsummary]
      exact List.append_nil _

/-- What a compaction kept is not past its time at that instant. -/
theorem Retained.removed_again (hretained : Retained runtime policy early before after summary) :
    Sweep.removed (isPastLine runtime policy) early (splitLogLines after) = [] := by
  apply Sweep.removed_of_fresh
  intro line hline
  rw [hretained.lines_eq, List.mem_append] at hline
  rcases hline with hline | hline
  · exact Sweep.fresh_of_mem_kept hline
  · exact hretained.summary_fresh early line hline

/-- Of a compacted log a later compaction keeps what it keeps of the log before, and the
summary. -/
theorem Retained.kept_later (hretained : Retained runtime policy early before after summary)
    (hle : early ≤ late) :
    Sweep.kept (isPastLine runtime policy) late (splitLogLines after) =
      Sweep.kept (isPastLine runtime policy) late (splitLogLines before) ++
        summaryLines runtime summary := by
  rw [hretained.lines_eq, Sweep.kept_append, Sweep.kept_kept isPastLine_ages hle]
  exact congrArg _ (Sweep.kept_of_fresh (hretained.summary_fresh late))

/-- Of a compacted log a later compaction removes what the first one left to it. -/
theorem Retained.removed_later (hretained : Retained runtime policy early before after summary)
    (late : Int) :
    Sweep.removed (isPastLine runtime policy) late (splitLogLines after) =
      Sweep.removed (isPastLine runtime policy) late
        (Sweep.kept (isPastLine runtime policy) early (splitLogLines before)) := by
  have hsummary := Sweep.removed_of_fresh (hretained.summary_fresh late)
  rw [hretained.lines_eq, Sweep.removed_append]
  exact (congrArg _ hsummary).trans (List.append_nil _)

end Retained

/-! ## Runs -/

/-- A compaction under a policy at an instant that commits. -/
def Commits (fails : FileAsk → Prop) (runtime : Runtime) (scope : JsString) (policy : TtlPolicy)
    (nowMs : Int) (disk : Disk) (report : RegistryCompactionReport) (after : Disk) : Prop :=
  ∃ options fuel, options.policy = policy ∧ report.dryRun = false ∧
    runtime.dateParse report.now = some nowMs ∧
    Plays (Responds fails) (compactRegistryEvents runtime scope options fuel).run disk
      (.ok (.ok report)) after

/-- A run that commits is a section that reports a real run. -/
theorem Commits.span {nowMs : Int} {disk after : Disk} {report : RegistryCompactionReport}
    (hcommits : Commits fails runtime scope policy nowMs disk report after) :
    ∃ options, options.policy = policy ∧ runtime.dateParse report.now = some nowMs ∧
      CompactSpan runtime scope options disk.shared (.ok (.ok report)) after.shared := by
  obtain ⟨options, fuel, hpolicy, hreal, hdate, hplays⟩ := hcommits
  rcases ((compactRegistryEvents_approaches.ensures disk).sound hplays).2 with ⟨hidle, -⟩ | hspan
  · rw [hidle report rfl] at hreal
    cases hreal
  · exact ⟨options, hpolicy, hdate, hspan⟩

theorem Commits.swept {nowMs : Int} {disk after : Disk} {report : RegistryCompactionReport}
    (hcommits : Commits fails runtime scope policy nowMs disk report after) :
    Swept runtime policy nowMs disk.shared report after.shared := by
  obtain ⟨options, rfl, hdate, hspan⟩ := hcommits.span
  rcases hspan.swept with ⟨found, foundMs, hfound, hswept⟩ | ⟨hunreported, -⟩
  · cases hfound
    obtain rfl : foundMs = nowMs := Option.some.inj (hswept.dated.symm.trans hdate)
    exact hswept
  · exact absurd rfl (hunreported report)

/-- A compaction of a compacted log at the same instant removes nothing and leaves the files
as they are; a later one comes with it to what the later one comes to alone, up to the
summaries, which name the same lines. -/
theorem recompaction {early : Int} {disk mid : Disk} {first : RegistryCompactionReport}
    (hfirst : Commits fails runtime scope policy early disk first mid) :
    (∀ again still, Commits fails runtime scope policy early mid again still →
      again.removedCount = 0 ∧ still.shared = mid.shared) ∧
    ∀ (late : Int) (second direct : RegistryCompactionReport) (after once : Disk), early ≤ late →
      Commits fails runtime scope policy late mid second after →
      Commits fails runtime scope policy late disk direct once →
      (∃ kept, splitLogLines after.shared.text = kept ++
          (summaryLines runtime first.summaryEvent ++ summaryLines runtime second.summaryEvent) ∧
        splitLogLines once.shared.text = kept ++ summaryLines runtime direct.summaryEvent) ∧
      (summaryEntries first.summaryEvent ++ summaryEntries second.summaryEvent).Perm
        (summaryEntries direct.summaryEvent) := by
  have hbefore := hfirst.swept.retained
  constructor
  · intro again still hagain
    have hswept := hagain.swept
    have hnone := hbefore.removed_again
    refine ⟨?_, ?_⟩
    · rw [hswept.removedCount_eq, hnone]
      rfl
    · apply hswept.untouched
      by_contra hsome
      have hremoved := hswept.retained.summary_iff.mp
        (Option.isSome_iff_ne_none.mpr hsome)
      exact hremoved hnone
  · intro late second direct after once hle hsecond hdirect
    have hlater := hsecond.swept.retained
    have hdirectly := hdirect.swept.retained
    constructor
    · refine ⟨Sweep.kept (isPastLine runtime policy) late (splitLogLines disk.shared.text), ?_,
        hdirectly.lines_eq⟩
      rw [hlater.lines_eq, hbefore.kept_later hle, List.append_assoc]
      rfl
    · rw [hbefore.entries_eq, hlater.entries_eq, hdirectly.entries_eq,
        hbefore.removed_later late, ← List.filterMap_append]
      exact (Sweep.removed_removed isPastLine_ages hle _).filterMap _

/-! ### Three compactions of one log -/

/-- The compactor accepts every line of a log. -/
def Compactable (runtime : Runtime) (text : JsString) : Prop :=
  ∀ line ∈ splitLogLines text, (lineEntry runtime line).isSome = true

/-- The lines of dated events are such a log. -/
theorem compactable_events {events : List GovdispEvent}
    (hdated : ∀ event ∈ events, (runtime.dateParse event.ts.1).isSome = true) :
    Compactable runtime (joinLines (events.map (eventLine runtime))) := by
  intro line hline
  rw [(hasLines_events events).split] at hline
  obtain ⟨event, hevent, rfl⟩ := List.mem_map.mp hline
  rw [lineEntry_eventLine, Option.isSome_map]
  exact hdated event hevent

theorem planFor_compactable {files : Files} {now : JsString} {nowMs : Int}
    (hscope : isSafeRegistryScope scope = true) (hnow : runtime.dateParse now = some nowMs)
    (htext : Compactable runtime files.text) :
    ∃ plan, planFor runtime scope now nowMs policy files = .ok plan := by
  rw [planFor]
  cases hlog : files.log with
  | none => exact ⟨emptyPlan, rfl⟩
  | some text =>
      rw [Files.text, hlog] at htext
      obtain ⟨plan, hplan, -⟩ := @planCompaction_ok runtime scope text now nowMs policy _
        ((map_eq_map_some_iff (lineEntry runtime) _ _).mpr ⟨htext, rfl⟩) hscope hnow
      exact ⟨plan, hplan⟩

/-- On a sound disk whose lock is free a compaction of a log that the compactor accepts
commits. -/
theorem exists_commits {options : CompactRegistryEventsOptions} {nowMs : Int} {disk : Disk}
    {now : JsString} (hscope : isSafeRegistryScope scope = true) (hinstant : options.now = some now)
    (hnow : runtime.dateParse now = some nowMs)
    (hpolicy : validateTtlPolicy runtime options.policy = []) (hleaves : options.LeavesAttempt)
    (hfree : disk.locked = false) (htext : Compactable runtime disk.shared.text) :
    ∃ report after, Commits Sound runtime scope options.policy nowMs disk report after ∧
      after.locked = false := by
  have hsame : options.instant runtime 0 = now := by
    rw [CompactRegistryEventsOptions.instant, hinstant]
    rfl
  obtain ⟨plan, hplan⟩ :=
    @planFor_compactable runtime scope options.policy disk.shared now nowMs hscope hnow htext
  obtain ⟨outcome, after, hplays⟩ := exists_plays responds_sound
    (compactRegistryEvents runtime scope (options.at runtime 0 false) 1).run disk
  have hreal := hplays
  rw [compactRegistryEvents_at, hsame, compactArguments_ok_iff.mpr ⟨hscope, hnow, hpolicy⟩] at hreal
  rcases (compactReal_sound (options.at runtime 0 false) 0 hfree).sound hreal with
    ⟨-, rfl, rfl⟩ | ⟨hnone, -⟩
  · have hpolicies : (options.at runtime 0 false).policy = options.policy := rfl
    rw [hpolicies, hplan] at hplays
    exact ⟨_, _, ⟨options.at runtime 0 false, 1, rfl, rfl, hnow, hplays⟩, hfree⟩
  · exact absurd hleaves hnone

/-- Compactions of one log at two instants, and again after the first. -/
theorem exists_recompactions {options : CompactRegistryEventsOptions} {nowMs lateMs : Int}
    {disk : Disk} {now late : JsString} (hscope : isSafeRegistryScope scope = true)
    (hnow : runtime.dateParse now = some nowMs) (hlate : runtime.dateParse late = some lateMs)
    (hpolicy : validateTtlPolicy runtime options.policy = []) (hleaves : options.LeavesAttempt)
    (hfree : disk.locked = false) (htext : Compactable runtime disk.shared.text) :
    ∃ first mid again still second after direct once,
      Commits Sound runtime scope options.policy nowMs disk first mid ∧
      Commits Sound runtime scope options.policy nowMs mid again still ∧
      Commits Sound runtime scope options.policy lateMs mid second after ∧
      Commits Sound runtime scope options.policy lateMs disk direct once := by
  have hearly {start : Disk} (hfree : start.locked = false)
      (htext : Compactable runtime start.shared.text) :=
    @exists_commits runtime scope { options with now := some now } nowMs start now hscope rfl hnow
      hpolicy hleaves hfree htext
  have hlater {start : Disk} (hfree : start.locked = false)
      (htext : Compactable runtime start.shared.text) :=
    @exists_commits runtime scope { options with now := some late } lateMs start late hscope rfl
      hlate hpolicy hleaves hfree htext
  obtain ⟨first, mid, hfirst, hmid⟩ := hearly hfree htext
  have hcompacted : Compactable runtime mid.shared.text := hfirst.swept.retained.accepted
  obtain ⟨again, still, hagain, -⟩ := hearly hmid hcompacted
  obtain ⟨second, after, hsecond, -⟩ := hlater hmid hcompacted
  obtain ⟨direct, once, hdirect, -⟩ := hlater hfree htext
  exact ⟨first, mid, again, still, second, after, direct, once, hfirst, hagain, hsecond, hdirect⟩

theorem april_date : Host.plainHost.dateParse (js "2026-04-01T00:00:00.000Z") =
    some 1775001600000 := by
  decide +kernel

theorem threeAttempts_compactable : Compactable marchRuntime threeAttemptsDisk.shared.text := by
  apply compactable_events
  intro event hevent
  obtain ⟨-, rfl⟩ := List.mem_replicate.mp hevent
  exact januaryAttempt_date ▸ rfl

/-- Two compactions a month apart of a log with three old events. -/
theorem recompactions_march : ∃ first mid again still second after direct once,
    Commits Sound marchRuntime (js "wave") marchOptions.policy marchCommit.nowMs threeAttemptsDisk
      first mid ∧
    Commits Sound marchRuntime (js "wave") marchOptions.policy marchCommit.nowMs mid again still ∧
    Commits Sound marchRuntime (js "wave") marchOptions.policy 1775001600000 mid second after ∧
    Commits Sound marchRuntime (js "wave") marchOptions.policy 1775001600000 threeAttemptsDisk
      direct once :=
  @exists_recompactions marchRuntime (js "wave") marchOptions marchCommit.nowMs 1775001600000
    threeAttemptsDisk march.1 (js "2026-04-01T00:00:00.000Z") (by decide) march_date april_date rfl
    (by rintro ⟨⟩) rfl threeAttempts_compactable

theorem recompaction_march : ∃ first mid again still second after direct once,
    Commits Sound marchRuntime (js "wave") marchOptions.policy marchCommit.nowMs threeAttemptsDisk
      first mid ∧
    Commits Sound marchRuntime (js "wave") marchOptions.policy marchCommit.nowMs mid again still ∧
    Commits Sound marchRuntime (js "wave") marchOptions.policy 1775001600000 mid second after ∧
    Commits Sound marchRuntime (js "wave") marchOptions.policy 1775001600000 threeAttemptsDisk
      direct once ∧
    (again.removedCount = 0 ∧ still.shared = mid.shared) ∧
    (∃ kept, splitLogLines after.shared.text = kept ++
        (summaryLines marchRuntime first.summaryEvent ++
          summaryLines marchRuntime second.summaryEvent) ∧
      splitLogLines once.shared.text = kept ++ summaryLines marchRuntime direct.summaryEvent) ∧
    (summaryEntries first.summaryEvent ++ summaryEntries second.summaryEvent).Perm
      (summaryEntries direct.summaryEvent) := by
  obtain ⟨first, mid, again, still, second, after, direct, once, hfirst, hagain, hsecond, hdirect⟩ :=
    recompactions_march
  have hcomposed := recompaction hfirst
  have hle : marchCommit.nowMs ≤ 1775001600000 := by decide
  exact ⟨first, mid, again, still, second, after, direct, once, hfirst, hagain, hsecond, hdirect,
    hcomposed.1 again still hagain,
    hcomposed.2 1775001600000 second direct after once hle hsecond hdirect⟩

end OdinSentinel.Registry
