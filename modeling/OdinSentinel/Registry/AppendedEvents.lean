import OdinSentinel.Registry.Lines
import OdinSentinel.Registry.Reading

/-!
# What was appended is read back

The line of an accepted event reads back as the event, and a scope that started empty
holds the events whose appends were reported, in their order.
-/

namespace OdinSentinel.Registry

open JsText Dialogue

variable {runtime : Runtime} {scope base : JsString} {fails : FileAsk → Prop}

/-! ## One append -/

theorem prepareAppend_ok {event : JsValue} {options : RegistryAppendOptions}
    {prepared : PreparedAppend}
    (hprepared : prepareAppend runtime scope event base options = .ok prepared) :
    isSafeRegistryScope scope = true ∧
      validateGovdispEvent runtime event = .ok prepared.event ∧
      prepared.line = eventLine runtime prepared.event ++ [10] := by
  rw [prepareAppend] at hprepared
  split at hprepared
  · cases hprepared
  · rename_i hsafe
    split at hprepared
    · cases hprepared
    · rename_i accepted hevent
      dsimp only at hprepared
      split at hprepared
      · cases hprepared
      · cases hprepared
        exact ⟨by simpa using hsafe, hevent, rfl⟩

/-- Whether the line of an event stays within the cap of an append without options. -/
def fits (runtime : Runtime) (event : GovdispEvent) : Bool :=
  byteLength (eventLine runtime event ++ [10]) ≤ govdispEventMaxBytes

/-- What an append of an accepted event is prepared with. -/
def preparedFor (runtime : Runtime) (scope base : JsString) (event : GovdispEvent) :
    PreparedAppend :=
  let dir := runtime.joinPath base scope
  { dir
    path := runtime.joinPath dir registryEventsFilename
    lockDir := runtime.joinPath dir registryLockDirname
    line := eventLine runtime event ++ [10]
    event }

theorem prepareAppend_defaults {value : JsValue} {event : GovdispEvent}
    (hevent : validateGovdispEvent runtime value = .ok event) :
    (isSafeRegistryScope scope = true ∧ fits runtime event = true ∧
      prepareAppend runtime scope value base .defaults =
        .ok (preparedFor runtime scope base event)) ∨
    ((isSafeRegistryScope scope = true → fits runtime event = false) ∧
      ∃ rejections, prepareAppend runtime scope value base .defaults = .error rejections) := by
  have hcap : (JsNumber.ofNat 1).maximum
      (RegistryAppendOptions.defaults.maxEventBytes.getD (.ofNat govdispEventMaxBytes)) =
        .ofNat govdispEventMaxBytes := by decide
  rw [prepareAppend]
  cases hsafe : isSafeRegistryScope scope with
  | false => exact .inr ⟨(by rintro ⟨⟩), _, rfl⟩
  | true =>
      have hlt : (JsNumber.ofNat govdispEventMaxBytes).lt
          (.ofNat (byteLength (eventLine runtime event ++ [10]))) = !fits runtime event := by
        rw [JsNumber.ofNat, JsNumber.ofNat, JsNumber.lt_finite, fits, Bool.eq_iff_iff]
        simp only [decide_eq_true_eq, Nat.cast_lt, Bool.not_eq_true', decide_eq_false_iff_not,
          not_le]
      simp only [hevent, hcap, hlt]
      cases hfits : fits runtime event with
      | false => exact .inr ⟨fun _ => rfl, _, rfl⟩
      | true => exact .inl ⟨trivial, rfl, rfl⟩

/-- What one append leaves of a log: one more line where it reports success. -/
theorem AppendSpan.lines {event : JsValue} {options : RegistryAppendOptions}
    {before after : Files} {outcome : Except Halt (Judged Appended)} {lines : List JsString}
    (hspan : AppendSpan runtime scope event base options before outcome after)
    (hlines : HasLines before.text lines) :
    (∃ appended, outcome = .ok (.ok appended) ∧
      validateGovdispEvent runtime event = .ok appended.event ∧
      HasLines after.text (lines ++ [eventLine runtime appended.event])) ∨
    (Unreported outcome ∧ after = before) := by
  obtain ⟨prepared, hprepared, heffect⟩ := hspan
  obtain ⟨-, hevent, hline⟩ := prepareAppend_ok hprepared
  cases heffect with
  | appended =>
      refine .inl ⟨_, rfl, hevent, ?_⟩
      show HasLines (before.text ++ prepared.line) _
      rw [hline]
      exact hlines.append (eventLine_whole prepared.event)
  | refused rejections => exact .inr ⟨unreported_refused rejections, rfl⟩
  | halted halt => exact .inr ⟨unreported_error halt, rfl⟩

/-- Either append, by whether it waits on a timer. -/
def appendBy (asynchronous : Bool) (runtime : Runtime) (scope : JsString) (event : JsValue)
    (base : JsString) (options : RegistryAppendOptions) (fuel : Nat) : Talk (Judged Appended) :=
  if asynchronous then appendRegistryEventAsync runtime scope event base options fuel
  else appendRegistryEvent runtime scope event base options fuel

/-- An append on a free disk goes through. -/
theorem append_plays {asynchronous : Bool} {event : JsValue} {prepared : PreparedAppend}
    {disk : Disk} (fuel : Nat)
    (hprepared : prepareAppend runtime scope event base .defaults = .ok prepared)
    (hfree : disk.locked = false) :
    Plays (Responds fails)
      (appendBy asynchronous runtime scope event base .defaults (fuel + 1)).run disk
      (.ok (.ok { path := prepared.path, event := prepared.event }))
      { disk with shared := disk.shared.append prepared.line } := by
  have hdisk : disk = { locked := false, shared := disk.shared } := by
    cases disk
    cases hfree
    rfl
  cases asynchronous <;>
  · simp only [appendBy, appendRegistryEvent, appendRegistryEventAsync, appendRegistryEventBy,
      hprepared, if_true, Bool.false_eq_true, if_false]
    refine .ask (.ok none) ⟨rfl, .inl rfl⟩ ?_
    refine .ask (.ok ()) ⟨rfl, .inl rfl⟩ ?_
    refine .ask (0 : Int) rfl ?_
    refine .ask (.ok ()) (.inl ⟨rfl, hfree, rfl⟩) ?_
    refine .ask (0 : Int) rfl ?_
    refine .ask (.ok none) ⟨rfl, .inl rfl⟩ ?_
    refine .ask (.ok ()) (.inl ⟨rfl, rfl⟩) ?_
    refine .ask (.ok ()) ⟨rfl, rfl⟩ ?_
    rw [hdisk]
    exact .done _ _

theorem appendBy_approaches {asynchronous : Bool} {event : JsValue}
    {options : RegistryAppendOptions} {fuel : Nat} :
    (diskRules fails).Approaches (AppendSpan runtime scope event base options) Unreported
      (appendBy asynchronous runtime scope event base options fuel).run := by
  cases asynchronous with
  | false => exact appendRegistryEvent_approaches
  | true => exact appendRegistryEventAsync_approaches

/-- A complete append on a log of lines. -/
theorem append_lines {asynchronous : Bool} {event : JsValue} {options : RegistryAppendOptions}
    {fuel : Nat} {disk after : Disk} {outcome : Except Halt (Judged Appended)}
    {lines : List JsString}
    (hplays : Plays (Responds fails)
      (appendBy asynchronous runtime scope event base options fuel).run disk outcome after)
    (hlines : HasLines disk.shared.text lines) :
    (∃ appended, outcome = .ok (.ok appended) ∧
      validateGovdispEvent runtime event = .ok appended.event ∧
      HasLines after.shared.text (lines ++ [eventLine runtime appended.event])) ∨
    (Unreported outcome ∧ after.shared = disk.shared) := by
  obtain ⟨-, ⟨hidle, hshared⟩ | hspan⟩ := (appendBy_approaches.ensures disk).sound hplays
  · exact .inr ⟨hidle, hshared⟩
  · exact hspan.lines hlines

/-! ## Sequences of appends -/

/-- The event that an append reports. -/
def reported : Except Halt (Judged Appended) → List GovdispEvent
  | .ok (.ok appended) => [appended.event]
  | _ => []

theorem reported_of_unreported {outcome : Except Halt (Judged Appended)}
    (houtcome : Unreported outcome) : reported outcome = [] := by
  cases outcome with
  | error halt => rfl
  | ok judged =>
      cases judged with
      | error rejections => rfl
      | ok appended => exact absurd rfl (houtcome appended)

/-- Appends one after the other, with the events that were reported. -/
inductive Appends (fails : FileAsk → Prop) (runtime : Runtime) (scope base : JsString)
    (start : Disk) : List GovdispEvent → Disk → Prop
  | nil : Appends fails runtime scope base start [] start
  | step {events : List GovdispEvent} {disk after : Disk} {asynchronous : Bool}
      {event : JsValue} {options : RegistryAppendOptions} {fuel : Nat}
      {outcome : Except Halt (Judged Appended)}
      (hrun : Appends fails runtime scope base start events disk)
      (hplays : Plays (Responds fails)
        (appendBy asynchronous runtime scope event base options fuel).run disk outcome after) :
      Appends fails runtime scope base start (events ++ reported outcome) after

/-- The log of a sequence holds one line for each event reported. -/
theorem Appends.lines {start disk : Disk} {events : List GovdispEvent}
    (hstart : start.shared.log = none) (hrun : Appends fails runtime scope base start events disk) :
    HasLines disk.shared.text (events.map (eventLine runtime)) := by
  induction hrun with
  | nil =>
      have htext : start.shared.text = [] := by rw [Files.text, hstart]; rfl
      rw [htext]
      exact hasLines_nil
  | step _ hplays ih =>
      rcases append_lines hplays ih with ⟨appended, rfl, -, hlines⟩ | ⟨hidle, hshared⟩
      · rw [reported, List.map_append]
        exact hlines
      · rw [reported_of_unreported hidle, List.append_nil, hshared]
        exact ih

theorem map_lineEvent_eventLine (events : List GovdispEvent) :
    (events.map (eventLine runtime)).map lineEvent = events.map some := by
  rw [List.map_map]
  apply List.map_congr_left
  intro event _
  rw [Function.comp_apply]
  exact lineEvent_eventLine event

/-- What a query computes from the events of a log. -/
def answerQuery (query : JsValue) (events : List GovdispEvent) : Judged (List GovdispEvent) :=
  match validateRegistryEventQuery query with
  | rejection :: rejections => .error (rejection :: rejections)
  | [] => .ok (events.filter (matchesQuery query))

/-- An accepted event is written as one whole line that reads back as the event; after any
appends on an empty scope the log reads as the events that were reported, and a query
finds those among them that match. -/
theorem appended_readBack (runtime : Runtime) :
    (∀ value event, validateGovdispEvent runtime value = .ok event →
      (10 : UInt16) ∉ eventLine runtime event ∧
      (∀ lineNo, readLine runtime lineNo (eventLine runtime event) = .ok event) ∧
      ∀ scope base options prepared,
        prepareAppend runtime scope value base options = .ok prepared →
          prepared.event = event ∧ prepared.line = eventLine runtime event ++ [10]) ∧
    ∀ fails scope base start events disk, isSafeRegistryScope scope = true →
      start.shared.log = none → Appends fails runtime scope base start events disk →
        (∀ outcome after,
          Plays (Responds Sound) (readRegistryEvents runtime scope base).run disk outcome after ↔
            outcome = .ok (.ok events) ∧ after = disk) ∧
        ∀ query outcome after,
          Plays (Responds Sound) (queryRegistryEvents runtime scope query base).run disk outcome
              after ↔
            outcome = .ok (answerQuery query events) ∧ after = disk := by
  constructor
  · intro value event hevent
    refine ⟨eventLine_whole event, fun lineNo => ?_, ?_⟩
    · exact readLine_ok_iff.mpr (lineEvent_eventLine event)
    · intro scope base options prepared hprepared
      obtain ⟨-, haccepted, hline⟩ := prepareAppend_ok hprepared
      rw [hevent] at haccepted
      cases haccepted
      exact ⟨rfl, hline⟩
  · intro fails scope base start events disk hsafe hstart hrun
    have hread : readEvents runtime disk.shared.text = .ok events := by
      rw [readEvents_ok_iff, (hrun.lines hstart).split]
      exact map_lineEvent_eventLine events
    have hevents : eventsOf runtime scope disk.shared.text = .ok events := by
      rw [eventsOf, hsafe]
      exact hread
    constructor
    · intro outcome after
      rw [readRegistryEvents_observes.plays_iff, hevents]
    · intro query outcome after
      have hquery : queryOf runtime scope query disk.shared.text = answerQuery query events := by
        unfold queryOf answerQuery
        rw [hevents]
        cases validateRegistryEventQuery query <;> rfl
      rw [(queryRegistryEvents_observes query).plays_iff, hquery]

def crossedBudget : GovdispEvent := crossedBudgetAt newYear

/-- The disk of a scope that was never written. -/
def emptyDisk : Disk where
  locked := false
  shared := { log := none, temp := none }

theorem appended_readBack_one : ∃ disk,
    Plays (Responds Sound) (readRegistryEvents (plainRuntime []) (js "wave") (js "base")).run disk
      (.ok (.ok [crossedBudget])) disk := by
  have haccepted : validateGovdispEvent (plainRuntime []) crossedBudget.toJson =
      .ok crossedBudget := validateGovdispEvent_ok_iff.mpr (parseGovdispEvent_toJson _)
  have hprepared : prepareAppend (plainRuntime []) (js "wave") crossedBudget.toJson (js "base")
      .defaults = .ok (preparedFor (plainRuntime []) (js "wave") (js "base") crossedBudget) := by
    rcases prepareAppend_defaults haccepted with ⟨-, -, hprepared⟩ | ⟨hfits, -⟩
    · exact hprepared
    · exact absurd (hfits (by decide)) (by decide +kernel)
  have hplays := @append_plays (plainRuntime []) (js "wave") (js "base") Sound false _ _ emptyDisk
    0 hprepared rfl
  have hrun := Appends.nil.step hplays
  have hread := (((appended_readBack (plainRuntime [])).2 Sound (js "wave") (js "base") emptyDisk _ _
    (by decide) rfl hrun).1 _ _).mpr ⟨rfl, rfl⟩
  exact ⟨_, hread⟩

end OdinSentinel.Registry
