import Mathlib.Logic.Relation
import OdinSentinel.Registry.Guards

/-!
# Terminal discipline

Calls made one at a time on an empty log: an objective is blocked at most once, only
after its budget is spent, and stays blocked.
-/

namespace OdinSentinel.Registry

open JsText Dialogue

variable {runtime : Runtime} {scope objective : JsString} {fails : FileAsk → Prop}

/-- A value that is accepted as no terminal block. -/
def NotTerminalBlocked (value : JsValue) : Prop :=
  ∀ event, parseGovdispEvent value = some event → isTerminalBlocked event = false

/-- One call alone on a disk; `admits` says which values the post-terminal guard is
called with. -/
inductive GuardedCall (fails : FileAsk → Prop) (runtime : Runtime) (scope : JsString)
    (admits : JsValue → Prop) (before after : Disk) : Prop
  | exhaustion {objective base : JsString} {event : RecordBudgetExhaustionInput} {fuel : Nat}
      {outcome : Except Halt (Judged RecordedExhaustion)}
      (hplays : Plays (Responds fails)
        (recordBudgetExhaustion runtime scope objective event base fuel).run before outcome after)
  | overhead {value : JsValue} {base : JsString} {fuel : Nat}
      {outcome : Except Halt (Judged AppendedOverhead)} (hadmits : admits value)
      (hplays : Plays (Responds fails)
        (appendGovernanceOverheadEvent runtime scope value base fuel).run before outcome after)
  | append {asynchronous : Bool} {value : JsValue} {base : JsString}
      {options : RegistryAppendOptions} {fuel : Nat} {outcome : Except Halt (Judged Appended)}
      (hvalue : NotTerminalBlocked value)
      (hplays : Plays (Responds fails)
        (appendBy asynchronous runtime scope value base options fuel).run before outcome after)
  | compaction {options : CompactRegistryEventsOptions} {fuel : Nat}
      {outcome : Except Halt (Judged RegistryCompactionReport)}
      (hplays : Plays (Responds fails) (compactRegistryEvents runtime scope options fuel).run before
        outcome after)

/-- Calls one after the other. -/
abbrev GuardedRun (fails : FileAsk → Prop) (runtime : Runtime) (scope : JsString)
    (admits : JsValue → Prop) : Disk → Disk → Prop :=
  Relation.ReflTransGen (GuardedCall fails runtime scope admits)

/-! ## One call -/

/-- A terminal block stands behind none of its objective, and behind a spent budget. -/
def MayStand (events : List GovdispEvent) (event : GovdispEvent) : Prop :=
  isTerminalBlocked event = true →
    tally isTerminalBlocked event.stableObjectiveId.1 events = 0 ∧
      governanceOverheadBudget ≤ tally isCountable event.stableObjectiveId.1 events

theorem mayStand_of_notTerminalBlocked {value : JsValue} (hvalue : NotTerminalBlocked value)
    {events : List GovdispEvent} {event : GovdispEvent}
    (hevent : validateGovdispEvent runtime value = .ok event) : MayStand events event := by
  intro hblocked
  rw [hvalue event (validateGovdispEvent_ok_iff.mp hevent)] at hblocked
  cases hblocked

theorem GuardedCall.step {before after : Disk}
    (hcall : GuardedCall fails runtime scope NotTerminalBlocked before after)
    (hwhole : Whole before.shared.text) :
    LedgerStep runtime MayStand before.shared.text after.shared.text := by
  cases hcall with
  | exhaustion hplays =>
      rcases recordBudgetExhaustion_span hplays with
        ⟨-, hshared⟩ | ⟨-, hclear, hspent, appended, hspan⟩
      · exact .kept (congrArg Files.text hshared)
      · apply hspan.step hwhole
        intro event hevent _
        rw [(terminalEvent_blocks hevent).2]
        exact ⟨hclear, hspent⟩
  | overhead hadmits hplays =>
      rcases appendGovernanceOverheadEvent_span hplays with ⟨-, hshared⟩ | ⟨-, appended, hspan⟩
      · exact .kept (congrArg Files.text hshared)
      · exact hspan.step hwhole fun event => mayStand_of_notTerminalBlocked hadmits
  | append hvalue hplays =>
      rcases ((appendBy_approaches.ensures before).sound hplays).2 with ⟨-, hshared⟩ | hspan
      · exact .kept (congrArg Files.text hshared)
      · exact hspan.step hwhole fun event => mayStand_of_notTerminalBlocked hvalue
  | compaction hplays =>
      rcases ((compactRegistryEvents_approaches.ensures before).sound hplays).2 with
        ⟨-, hshared⟩ | hspan
      · exact .kept (congrArg Files.text hshared)
      · exact hspan.step hwhole

/-! ## One step of the ledger -/

/-- Whole, and no objective is blocked twice. -/
structure Disciplined (text : JsString) : Prop where
  whole : Whole text
  single : ∀ objective, tally isTerminalBlocked objective (ledger text) ≤ 1

section Ledger

variable {before after : JsString}

theorem tally_singleton_le (kind : GovdispEvent → Bool) (event : GovdispEvent) :
    tally kind objective [event] ≤ 1 := by
  rw [tally]
  exact List.countP_le_length

theorem of_tally_singleton {kind : GovdispEvent → Bool} {event : GovdispEvent}
    (htally : tally kind objective [event] ≠ 0) :
    event.stableObjectiveId.1 = objective ∧ kind event = true := by
  rw [tally, Ne, List.countP_eq_zero] at htally
  simp only [List.mem_singleton, forall_eq, not_not, Bool.and_eq_true, beq_iff_eq] at htally
  exact ⟨htally.1.symm, htally.2⟩

theorem LedgerStep.disciplined (hstep : LedgerStep runtime MayStand before after)
    (hdisciplined : Disciplined before) : Disciplined after := by
  refine ⟨hstep.whole hdisciplined.whole, fun objective => ?_⟩
  have hsingle := hdisciplined.single objective
  cases hstep with
  | kept hsame => rwa [hsame]
  | appended event _ hledger hmay =>
      rw [hledger, tally_append]
      by_cases hadds : tally isTerminalBlocked objective [event] = 0
      · rwa [hadds, Nat.add_zero]
      · obtain ⟨rfl, hblocked⟩ := of_tally_singleton hadds
        rw [(hmay hblocked).1, Nat.zero_add]
        exact tally_singleton_le isTerminalBlocked event
  | compacted nowMs policy hcompacted => rwa [hcompacted.tally_terminal]

/-- A terminal block is recorded only behind a spent budget. -/
theorem LedgerStep.spent (hstep : LedgerStep runtime MayStand before after)
    (hrecorded : tally isTerminalBlocked objective (ledger before) <
      tally isTerminalBlocked objective (ledger after)) :
    governanceOverheadBudget ≤ tally isCountable objective (ledger before) := by
  cases hstep with
  | kept hsame =>
      rw [hsame] at hrecorded
      exact absurd hrecorded (lt_irrefl _)
  | appended event _ hledger hmay =>
      rw [hledger, tally_append] at hrecorded
      obtain ⟨rfl, hblocked⟩ := of_tally_singleton (Nat.ne_of_gt (Nat.pos_of_lt_add_right hrecorded))
      exact (hmay hblocked).2
  | compacted nowMs policy hcompacted =>
      rw [hcompacted.tally_terminal] at hrecorded
      exact absurd hrecorded (lt_irrefl _)

/-- What blocks an objective stays. -/
theorem LedgerStep.terminal_mem {may : List GovdispEvent → GovdispEvent → Prop}
    (hstep : LedgerStep runtime may before after) {event : GovdispEvent}
    (hevent : event ∈ ledger before) (hblocked : isTerminalBlocked event = true) :
    event ∈ ledger after := by
  cases hstep with
  | kept hsame => rwa [hsame]
  | appended other _ hledger _ =>
      rw [hledger]
      exact List.mem_append_left _ hevent
  | compacted nowMs policy hcompacted => exact hcompacted.terminal_mem hevent hblocked

end Ledger

/-! ## Runs -/

theorem GuardedRun.disciplined {start disk : Disk}
    (hrun : GuardedRun fails runtime scope NotTerminalBlocked start disk)
    (hstart : start.shared.text = []) : Disciplined disk.shared.text := by
  induction hrun with
  | refl =>
      rw [hstart]
      exact ⟨⟨[], hasLines_nil⟩, fun objective => Nat.zero_le 1⟩
  | tail _ hcall ih => exact (hcall.step ih.whole).disciplined ih

theorem GuardedRun.terminal_mem {disk later : Disk}
    (hrun : GuardedRun fails runtime scope NotTerminalBlocked disk later)
    (hwhole : Whole disk.shared.text) {event : GovdispEvent}
    (hevent : event ∈ ledger disk.shared.text) (hblocked : isTerminalBlocked event = true) :
    Whole later.shared.text ∧ event ∈ ledger later.shared.text := by
  induction hrun with
  | refl => exact ⟨hwhole, hevent⟩
  | tail _ hcall ih =>
      have hstep := hcall.step ih.1
      exact ⟨hstep.whole ih.1, hstep.terminal_mem ih.2 hblocked⟩

/-- The discipline of runs whose post-terminal guard is called with admitted values. -/
def TerminalDiscipline (fails : FileAsk → Prop) (runtime : Runtime) (scope : JsString)
    (admits : JsValue → Prop) : Prop :=
  ∀ start disk, start.shared.text = [] → GuardedRun fails runtime scope admits start disk →
    ∀ objective, trim objective ≠ [] →
      tally isTerminalBlocked objective (ledger disk.shared.text) ≤ 1 ∧
      (∀ after, GuardedCall fails runtime scope admits disk after →
        tally isTerminalBlocked objective (ledger disk.shared.text) <
          tally isTerminalBlocked objective (ledger after.shared.text) →
        governanceOverheadBudget ≤ tally isCountable objective (ledger disk.shared.text)) ∧
      (∀ later, GuardedRun fails runtime scope admits disk later →
        ∀ event ∈ ledger disk.shared.text, isTerminalBlocked event = true →
          event ∈ ledger later.shared.text) ∧
      (0 < tally isTerminalBlocked objective (ledger disk.shared.text) →
        ∀ value event base fuel outcome after, validateGovdispEvent runtime value = .ok event →
          isCountable event = true → event.stableObjectiveId.1 = objective →
          Plays (Responds fails) (appendGovernanceOverheadEvent runtime scope value base fuel).run
            disk outcome after → Keeps disk outcome after)

/-- A blocked objective takes no countable event. -/
theorem keeps_of_blocked {disk after : Disk} {value : JsValue} {event : GovdispEvent}
    {base : JsString} {fuel : Nat} {outcome : Except Halt (Judged AppendedOverhead)}
    (haccepted : validateGovdispEvent runtime value = .ok event)
    (hcountable : isCountable event = true) (hnamed : trim event.stableObjectiveId.1 ≠ [])
    (hblocked : 0 < tally isTerminalBlocked event.stableObjectiveId.1 (ledger disk.shared.text))
    (hplays : Plays (Responds fails)
      (appendGovernanceOverheadEvent runtime scope value base fuel).run disk outcome after) :
    Keeps disk outcome after := by
  rcases appendGovernanceOverheadEvent_span hplays with hidle | ⟨hclear, -⟩
  · exact hidle
  · have hzero := hclear ((isGovernedOverhead_iff haccepted).mpr ⟨hnamed, hcountable⟩)
    rw [(textMember_of_accepted haccepted).1] at hzero
    exact absurd hzero (Nat.ne_of_gt hblocked)

/-- The discipline holds where the post-terminal guard is called with no terminal block. -/
theorem terminal_discipline (fails : FileAsk → Prop) (runtime : Runtime) (scope : JsString) :
    TerminalDiscipline fails runtime scope NotTerminalBlocked := by
  intro start disk hstart hrun objective hnamed
  have hdisciplined := GuardedRun.disciplined hrun hstart
  refine ⟨hdisciplined.single objective, ?_, ?_, ?_⟩
  · intro after hcall hrecorded
    exact (hcall.step hdisciplined.whole).spent hrecorded
  · intro later hlater event hevent hblocked
    exact (GuardedRun.terminal_mem hlater hdisciplined.whole hevent hblocked).2
  · rintro hblocked value event base fuel outcome after haccepted hcountable rfl hplays
    exact keeps_of_blocked haccepted hcountable hnamed hblocked hplays

/-- The post-terminal guard passes terminal blocks through, so that an objective without
any countable event is blocked twice. -/
theorem terminalBlocked_passes :
    ¬∀ fails runtime scope, TerminalDiscipline fails runtime scope fun _ => True := by
  intro hdiscipline
  let blocked := blockedObjective firstObjective
  have haccepted : validateGovdispEvent (plainRuntime []) blocked.toJson = .ok blocked :=
    validateGovdispEvent_ok_iff.mpr (parseGovdispEvent_toJson _)
  have hungoverned : isGovernedOverhead blocked.toJson = false := by
    rw [Bool.eq_false_iff, Ne, isGovernedOverhead_iff haccepted]
    exact fun hgoverned => absurd hgoverned.2 (by decide)
  have hcall : ∀ disk : Disk, disk.locked = false →
      GuardedCall Sound (plainRuntime []) (js "wave") (fun _ => True) disk
        { disk with shared := disk.shared.append (eventLine (plainRuntime []) blocked ++ [10]) } :=
    fun disk hfree => .overhead trivial (@ungoverned_lands (plainRuntime []) (js "wave") (js "base")
      Sound _ _ haccepted (by decide) (by decide +kernel) hungoverned disk hfree)
  have hrun := (Relation.ReflTransGen.single (hcall emptyDisk rfl)).tail (hcall _ rfl)
  have hsingle := (hdiscipline Sound (plainRuntime []) (js "wave") emptyDisk _ rfl hrun (js "T-1")
    (by decide)).1
  have htext : ((emptyDisk.shared.append (eventLine (plainRuntime []) blocked ++ [10])).append
      (eventLine (plainRuntime []) blocked ++ [10])).text =
        joinLines ([blocked, blocked].map (eventLine (plainRuntime []))) := by
    simp [Files.text, Files.append, joinLines, emptyDisk]
  rw [htext, ledger_events] at hsingle
  exact absurd hsingle (by decide)

end OdinSentinel.Registry
