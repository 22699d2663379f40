import OdinSentinel.Registry.Verdicts

/-!
# The terminal guards

What the two service calls that append under a policy may do to the log, and the
objectives that the post-terminal guard covers.
-/

namespace OdinSentinel.Registry

open JsText Dialogue

variable {runtime : Runtime} {scope base objective : JsString} {fails : FileAsk → Prop}

/-! ## Accepted values -/

theorem readText_eq_some {value : JsValue} {text : NonEmptyText}
    (hread : readText value = some text) : value = .string text.1 := by
  cases value with
  | string spelled =>
      rw [readText] at hread
      split at hread
      · cases hread
        rfl
      · cases hread
  | _ => cases hread

theorem readEnum_eq_some {Value : Type} [Spelled Value] {value : JsValue} {read : Value}
    (hread : readEnum value = some read) : value = .string (Spelled.text read) := by
  cases value with
  | string spelled => rw [Spelled.text_of_read hread]
  | _ => cases hread

theorem eventClass_of_readBody {value : JsValue} {eventClass : GovdispEventClass}
    {body : GovdispEventBody} (hread : readBody value eventClass = some body) :
    body.eventClass = eventClass := by
  cases eventClass <;>
  · simp only [readBody, Option.bind_eq_bind, Option.bind_eq_some_iff, Option.some.injEq] at hread
    grind [GovdispEventBody.eventClass]

theorem eventType_of_readBody {value : JsValue} {eventClass : GovdispEventClass}
    {body : GovdispEventBody} (hread : readBody value eventClass = some body) :
    value.field (js "event_type") = .string body.eventType := by
  cases eventClass <;>
  · simp only [readBody, Option.bind_eq_bind, Option.bind_eq_some_iff, Option.some.injEq] at hread
    obtain ⟨eventType, htype, hrest⟩ := hread
    rw [readEnum_eq_some htype]
    grind [GovdispEventBody.eventType]

/-- The members of an accepted value that the guard reads. -/
theorem textMember_of_accepted {value : JsValue} {event : GovdispEvent}
    (haccepted : validateGovdispEvent runtime value = .ok event) :
    textMember value (js "stable_objective_id") = event.stableObjectiveId.1 ∧
      textMember value (js "event_class") = Spelled.text event.eventClass ∧
      textMember value (js "event_type") = event.eventType := by
  have hparse := validateGovdispEvent_ok_iff.mp haccepted
  rw [parseGovdispEvent, Option.bind_eq_bind, Option.bind_eq_some_iff] at hparse
  obtain ⟨eventClass, hclass, hparse⟩ := hparse
  split at hparse
  · simp only [Option.bind_eq_bind, Option.bind_eq_some_iff, Option.some.injEq] at hparse
    obtain ⟨eventId, -, ts, -, stableObjectiveId, hid, actorRole, -, body, hbody, rfl⟩ := hparse
    refine ⟨?_, ?_, ?_⟩
    · rw [textMember, readText_eq_some hid]
    · rw [textMember, readEnum_eq_some hclass, GovdispEvent.eventClass,
        eventClass_of_readBody hbody]
    · rw [textMember, eventType_of_readBody hbody]
      rfl
  · cases hparse

/-- The guard's jurisdiction over accepted values. -/
theorem isGovernedOverhead_iff {value : JsValue} {event : GovdispEvent}
    (haccepted : validateGovdispEvent runtime value = .ok event) :
    isGovernedOverhead value = true ↔
      trim event.stableObjectiveId.1 ≠ [] ∧ isCountable event = true := by
  obtain ⟨hid, hclass, -⟩ := textMember_of_accepted haccepted
  rw [isGovernedOverhead, hid, hclass, Bool.and_eq_true, isCountable, List.contains_iff_mem,
    List.contains_iff_mem, List.mem_map_of_injective Spelled.text_injective]
  simp

theorem isTerminalBlocked_of_spelling {event : GovdispEvent}
    (hclass : Spelled.text event.eventClass = js "TERMINAL")
    (htype : event.eventType = js "TERMINAL_BLOCKED") : isTerminalBlocked event = true := by
  have hterminal : event.eventClass = .terminal :=
    Spelled.text_injective (hclass.trans (show _ = Spelled.text GovdispEventClass.terminal from rfl))
  rw [GovdispEvent.eventClass] at hterminal
  rw [GovdispEvent.eventType] at htype
  rw [isTerminalBlocked]
  cases hbody : event.body with
  | terminal eventType contentHashes =>
      rw [hbody] at htype
      obtain rfl : eventType = .terminalBlocked :=
        Spelled.text_injective (htype.trans (show _ = Spelled.text TerminalEventType.terminalBlocked from rfl))
      rfl
  | _ =>
      rw [hbody] at hterminal
      cases hterminal

/-- What the terminal guard appends blocks its objective. -/
theorem terminalEvent_blocks {event : RecordBudgetExhaustionInput} {accepted : GovdispEvent}
    (haccepted : validateGovdispEvent runtime (terminalEvent objective event) = .ok accepted) :
    isTerminalBlocked accepted = true ∧ accepted.stableObjectiveId.1 = objective := by
  obtain ⟨hid, hclass, htype⟩ := textMember_of_accepted haccepted
  refine ⟨isTerminalBlocked_of_spelling (hclass.symm.trans ?_) (htype.symm.trans ?_), hid.symm⟩
  · cases event with
    | mk eventId ts actorRole contentHashes => cases actorRole <;> rfl
  · cases event with
    | mk eventId ts actorRole contentHashes => cases actorRole <;> rfl

/-! ## What the guards do -/

section Runs

variable {value : JsValue} {fuel : Nat} {disk after : Disk}

theorem append_span {options : RegistryAppendOptions} {outcome : Except Halt (Judged Appended)}
    (hplays : Plays (Responds fails)
      (appendRegistryEvent runtime scope value base options fuel).run disk outcome after) :
    (Unreported outcome ∧ after.shared = disk.shared) ∨
      AppendSpan runtime scope value base options disk.shared outcome after.shared :=
  ((appendRegistryEvent_approaches.ensures disk).sound hplays).2

/-- The guard appends nothing, or what an append appends where none or no terminal event
stands. -/
theorem recordBudgetExhaustion_span {event : RecordBudgetExhaustionInput}
    {outcome : Except Halt (Judged RecordedExhaustion)}
    (hplays : Plays (Responds fails)
      (recordBudgetExhaustion runtime scope objective event base fuel).run disk outcome after) :
    ((∀ appended accounting, outcome ≠ .ok (.ok (.appended appended accounting))) ∧
      after.shared = disk.shared) ∨
    (Askable scope objective disk.shared.text ∧
      tally isTerminalBlocked objective (ledger disk.shared.text) = 0 ∧
      governanceOverheadBudget ≤ tally isCountable objective (ledger disk.shared.text) ∧
      ∃ appended, AppendSpan runtime scope (terminalEvent objective event) base .defaults
        disk.shared appended after.shared) := by
  have hderive : Observes (deriveOverheadAccounting runtime scope objective base) _ :=
    derive_observes objective (overheadQuery objective) (overheadAccounting objective)
  rcases hderive.plays_bind hplays fun _ => rfl with ⟨accounting, hview, hnext⟩ | ⟨hidle, rfl⟩
  · obtain ⟨haskable, rfl⟩ := deriveOf_overhead_iff.mp hview
    cases hrefusal : terminalRefusal (overheadAccounting objective
        ((ledger disk.shared.text).filter (matchesQuery (overheadQuery objective)))) with
    | some refusal =>
        simp only [hrefusal] at hnext
        obtain ⟨rfl, rfl⟩ := plays_done.mp hnext
        exact .inl ⟨(by rintro _ _ ⟨⟩), rfl⟩
    | none =>
        obtain ⟨hclear, hspent⟩ := terminalRefusal_tally_iff.mp hrefusal
        simp only [hrefusal] at hnext
        obtain ⟨appended, hfirst, rfl⟩ := plays_map.mp hnext
        rcases append_span hfirst with ⟨hidle, hshared⟩ | hspan
        · exact .inl ⟨fun _ _ => hidle.map _ _, hshared⟩
        · exact .inr ⟨haskable, hclear, hspent, appended, hspan⟩
  · exact .inl ⟨fun appended accounting => hidle _, rfl⟩

theorem appendGovernanceOverheadEvent_span {outcome : Except Halt (Judged AppendedOverhead)}
    (hplays : Plays (Responds fails)
      (appendGovernanceOverheadEvent runtime scope value base fuel).run disk outcome after) :
    ((∀ appended, outcome ≠ .ok (.ok (.appended appended))) ∧ after.shared = disk.shared) ∨
    ((isGovernedOverhead value = true →
        tally isTerminalBlocked (textMember value (js "stable_objective_id"))
          (ledger disk.shared.text) = 0) ∧
      ∃ appended, AppendSpan runtime scope value base .defaults disk.shared appended
        after.shared) := by
  have hpass : Plays (Responds fails) (passThrough runtime scope value base fuel).run disk outcome
      after → ((∀ appended, outcome ≠ .ok (.ok (.appended appended))) ∧ after.shared = disk.shared) ∨
        ∃ appended, AppendSpan runtime scope value base .defaults disk.shared appended
          after.shared := by
    intro hplays
    obtain ⟨appended, hfirst, rfl⟩ := plays_map.mp hplays
    rcases append_span hfirst with ⟨hidle, hshared⟩ | hspan
    · exact .inl ⟨fun _ => hidle.map _ _, hshared⟩
    · exact .inr ⟨appended, hspan⟩
  rw [appendGovernanceOverheadEvent] at hplays
  cases hscope : requireRegistryScope scope with
  | some fault =>
      rw [hscope] at hplays
      obtain ⟨rfl, rfl⟩ := plays_done.mp hplays
      exact .inl ⟨(by rintro _ ⟨⟩), rfl⟩
  | none =>
      simp only [hscope] at hplays
      cases hgoverned : isGovernedOverhead value with
      | false =>
          simp only [hgoverned, Bool.false_eq_true, if_false] at hplays
          rcases hpass hplays with hidle | hspan
          · exact .inl hidle
          · exact .inr ⟨(by rintro ⟨⟩), hspan⟩
      | true =>
          simp only [hgoverned, if_true] at hplays
          set id := textMember value (js "stable_objective_id")
          have hderive : Observes (deriveOverheadAccounting runtime scope id base) _ :=
            derive_observes id (overheadQuery id) (overheadAccounting id)
          rcases hderive.plays_bind hplays fun _ => rfl with
            ⟨accounting, hview, hnext⟩ | ⟨hidle, rfl⟩
          · obtain ⟨-, rfl⟩ := deriveOf_overhead_iff.mp hview
            by_cases hpresent : 0 < tally isTerminalBlocked id (ledger disk.shared.text)
            · simp only [terminalBlockedPresent_iff.mpr hpresent, if_true] at hnext
              obtain ⟨rfl, rfl⟩ := plays_done.mp hnext
              exact .inl ⟨(by rintro _ ⟨⟩), rfl⟩
            · simp only [mt terminalBlockedPresent_iff.mp hpresent] at hnext
              rcases hpass hnext with hidle | hspan
              · exact .inl hidle
              · exact .inr ⟨fun _ => Nat.eq_zero_of_not_pos hpresent, hspan⟩
          · exact .inl ⟨fun appended => hidle _, rfl⟩

end Runs

/-! ## What the post-terminal guard covers -/

/-- A call that appends nothing. -/
def Keeps (disk : Disk) (outcome : Except Halt (Judged AppendedOverhead)) (after : Disk) : Prop :=
  (∀ appended, outcome ≠ .ok (.ok (.appended appended))) ∧ after.shared = disk.shared

theorem tally_pos_of_mem {kind : GovdispEvent → Bool} {events : List GovdispEvent}
    {event : GovdispEvent} (hevent : event ∈ events) (hkind : kind event = true) :
    0 < tally kind event.stableObjectiveId.1 events := by
  rw [tally, List.countP_pos_iff]
  exact ⟨event, hevent, by simp [hkind]⟩

/-- A value outside of the guard's jurisdiction lands. -/
theorem ungoverned_lands {value : JsValue} {event : GovdispEvent}
    (haccepted : validateGovdispEvent runtime value = .ok event)
    (hsafe : isSafeRegistryScope scope = true) (hfits : fits runtime event = true)
    (hungoverned : isGovernedOverhead value = false) {disk : Disk} (hfree : disk.locked = false) :
    Plays (Responds fails) (appendGovernanceOverheadEvent runtime scope value base 1).run disk
      (.ok (.ok (.appended { path := (preparedFor runtime scope base event).path, event })))
      { disk with shared := disk.shared.append (eventLine runtime event ++ [10]) } := by
  have hscope : requireRegistryScope scope = none := by
    rw [requireRegistryScope, if_neg (trim_ne_nil_of_safe hsafe)]
  rcases @prepareAppend_defaults runtime scope base value event haccepted with
    ⟨-, -, hprepared⟩ | ⟨hunfit, -⟩
  · have hfirst := @append_plays runtime scope base fails false value _ disk 0 hprepared hfree
    rw [appendGovernanceOverheadEvent]
    simp only [hscope, hungoverned, Bool.false_eq_true, if_false]
    exact plays_map.mpr ⟨_, hfirst, rfl⟩
  · rw [hunfit hsafe] at hfits
    cases hfits

theorem ungoverned_of_blank {value : JsValue} {event : GovdispEvent}
    (haccepted : validateGovdispEvent runtime value = .ok event)
    (hblank : trim event.stableObjectiveId.1 = []) : isGovernedOverhead value = false := by
  rw [Bool.eq_false_iff, Ne, isGovernedOverhead_iff haccepted]
  exact fun hgoverned => hgoverned.1 hblank

/-- Where a terminal event of its objective stands, a countable event is kept out of the
log exactly where its objective is not blank, or the registry itself does not take it. -/
theorem postTerminal_keeps_iff {value : JsValue} {event : GovdispEvent} {text : JsString}
    (haccepted : validateGovdispEvent runtime value = .ok event)
    (hcountable : isCountable event = true)
    (hterminal : ∃ terminal ∈ ledger text, isTerminalBlocked terminal = true ∧
      terminal.stableObjectiveId = event.stableObjectiveId) :
    (∀ fails fuel disk outcome after, disk.shared.log = some text →
      Plays (Responds fails) (appendGovernanceOverheadEvent runtime scope value base fuel).run disk
        outcome after → Keeps disk outcome after) ↔
      trim event.stableObjectiveId.1 ≠ [] ∨ isSafeRegistryScope scope = false ∨
        fits runtime event = false := by
  obtain ⟨terminal, hmem, hblocked, hsame⟩ := hterminal
  constructor
  · intro hkeeps
    by_contra hlands
    simp only [not_or, not_not, Bool.not_eq_false] at hlands
    obtain ⟨hblank, hsafe, hfits⟩ := hlands
    have hplays := @ungoverned_lands runtime scope base Sound value event haccepted hsafe hfits
      (ungoverned_of_blank haccepted hblank)
      { locked := false, shared := { log := some text, temp := none } } rfl
    exact (hkeeps _ _ _ _ _ rfl hplays).1 _ rfl
  · intro hcovered fails fuel disk outcome after hlog hplays
    rcases appendGovernanceOverheadEvent_span hplays with
      hidle | ⟨hclear, appended, prepared, hprepared, -⟩
    · exact hidle
    · exfalso
      rcases @prepareAppend_defaults runtime scope base value event haccepted with
        ⟨hsafe, hfits, -⟩ | ⟨-, rejections, hrefused⟩
      · rw [hsafe, hfits] at hcovered
        have hnamed : trim event.stableObjectiveId.1 ≠ [] := by simpa using hcovered
        have hzero := hclear ((isGovernedOverhead_iff haccepted).mpr ⟨hnamed, hcountable⟩)
        have htext : disk.shared.text = text := by
          rw [Files.text, hlog]
          rfl
        rw [(textMember_of_accepted haccepted).1, htext, ← hsame] at hzero
        exact absurd hzero (Nat.ne_of_gt (tally_pos_of_mem hmem hblocked))
      · rw [hrefused] at hprepared
        cases hprepared

/-- A log that holds the terminal event of an objective. -/
def blockedLog (objective : NonEmptyText) : JsString :=
  joinLines ([blockedObjective objective].map (eventLine (plainRuntime [])))

theorem startedAttempt_accepted (objective : NonEmptyText) :
    validateGovdispEvent (plainRuntime []) (startedAttempt objective).toJson =
      .ok (startedAttempt objective) :=
  validateGovdispEvent_ok_iff.mpr (parseGovdispEvent_toJson _)

theorem mem_blockedLog (objective : NonEmptyText) :
    blockedObjective objective ∈ ledger (blockedLog objective) := by
  rw [blockedLog, ledger_events]
  exact List.mem_singleton_self _

theorem postTerminal_keeps_named : trim (js "T-1") ≠ [] ∧ ∀ fails fuel disk outcome after,
    disk.shared.log = some (blockedLog firstObjective) →
    Plays (Responds fails) (appendGovernanceOverheadEvent (plainRuntime []) (js "wave")
      (startedAttempt firstObjective).toJson (js "base") fuel).run disk outcome after →
      Keeps disk outcome after := by
  have hnamed : trim (js "T-1") ≠ [] := by decide
  exact ⟨hnamed, (postTerminal_keeps_iff (startedAttempt_accepted firstObjective) rfl
    ⟨_, mem_blockedLog _, rfl, rfl⟩).mpr (.inl hnamed)⟩

/-- The schema admits an objective of one blank, and the guard lets its events through. -/
theorem blankObjective_lands : ¬∀ (runtime : Runtime) (scope base : JsString) (value : JsValue)
    (event : GovdispEvent) (text : JsString), validateGovdispEvent runtime value = .ok event →
      isCountable event = true →
      (∃ terminal ∈ ledger text, isTerminalBlocked terminal = true ∧
        terminal.stableObjectiveId = event.stableObjectiveId) →
      ∀ fails fuel disk outcome after, disk.shared.log = some text →
        Plays (Responds fails)
          (appendGovernanceOverheadEvent runtime scope value base fuel).run disk outcome after →
          Keeps disk outcome after := by
  intro hcovers
  let disk : Disk :=
    { locked := false, shared := { log := some (blockedLog blankText), temp := none } }
  have haccepted := startedAttempt_accepted blankText
  have hplays := @ungoverned_lands (plainRuntime []) (js "wave") (js "base") Sound _ _ haccepted
    (by decide) (by decide +kernel) (ungoverned_of_blank haccepted (by decide)) disk rfl
  exact (hcovers _ _ _ _ _ _ haccepted rfl ⟨_, mem_blockedLog _, rfl, rfl⟩ Sound 1
    disk _ _ rfl hplays).1 _ rfl

end OdinSentinel.Registry
