import OdinSentinel.Say.Clock
import OdinSentinel.Say.Decision

/-!
# What a delivery times

`waited_ms` of an outcome, told by the readings of the clock that its delivery has made.
-/

namespace OdinSentinel.Say

open RustText Dialogue

variable {rules : PaneRules} {selector : HarnessSelector} {harness flat text : RustString}
variable {progress : Progress} {history before after : List Event}

/-! ## Readings -/

/-- The first and the last reading of the clock. -/
def span (history : List Event) : Option (UInt64 × UInt64) :=
  (readings history).getLast?.bind fun first => (readings history).head?.map fun last => (first, last)

/-- The pane could not be read behind a pause of the wait. -/
def failsWaiting : List Event → Bool
  | ⟨.readScreen, none⟩ :: ⟨.sleep _, _⟩ :: ⟨.elapsedMs, _⟩ :: _ => true
  | _ => false

/-- The last screen proves a message that was sent to a queue harness. -/
def provesQueued (rules : PaneRules) (harness flat : RustString) (history : List Event) : Bool :=
  decide (rules.midTurnFor harness = .queue) &&
    (history.head?.bind screenOf).any fun raw => showsQueued (tail14 raw) flat rules harness

/-- The readings that `waited_ms` is taken from. -/
def timedSpan (rules : PaneRules) (harness flat : RustString) (history : List Event) :
    Option (UInt64 × UInt64) :=
  if failsWaiting history || provesQueued rules harness flat history then none
  else span (decision history)

def spanMs (ends : Option (UInt64 × UInt64)) : UInt64 := ends.elim 0 fun ends => ends.2 - ends.1

theorem provesQueued_of_unseen (hunseen : history.head?.bind screenOf = none) :
    provesQueued rules harness flat history = false := by
  rw [provesQueued, hunseen]
  exact Bool.and_false _

theorem provesQueued_sawScreen (raw : RustString) (hpolicy : rules.midTurnFor harness = .queue) :
    provesQueued rules harness flat (sawScreen raw :: history) =
      showsQueued (tail14 raw) flat rules harness := by
  rw [provesQueued, hpolicy]
  rfl

theorem span_eq_none (hreadings : readings history = []) : span history = none := by
  rw [span, hreadings]
  rfl

theorem timedSpan_eq_none (hreadings : readings (decision history) = []) :
    timedSpan rules harness flat history = none := by
  rw [timedSpan, span_eq_none hreadings, ite_self]

theorem span_clocked {now first : UInt64} {later : List UInt64}
    (hreadings : readings (clocked now :: history) = later ++ [first]) :
    span (clocked now :: history) = some (first, now) := by
  have hhead : (readings (clocked now :: history)).head? = some now := rfl
  rw [span, hhead, hreadings, List.getLast?_concat]
  rfl

theorem first_of_span {first : UInt64} {later : List UInt64} {ends : UInt64 × UInt64}
    (hreadings : readings history = later ++ [first]) (hends : span history = some ends) :
    ends.1 = first := by
  rw [span, hreadings, List.getLast?_concat, Option.bind_some] at hends
  obtain ⟨last, -, rfl⟩ := Option.map_eq_some_iff.mp hends
  rfl

/-- What a delivery has timed on its way to the decision. -/
structure Timing (rules : PaneRules) (harness : RustString) (waitedMs : UInt64)
    (history : List Event) : Prop where
  waited_eq : waitedMs = spanMs (span history)
  fails : failsWaiting history = false
  policy : readings history = [] ∨ rules.midTurnFor harness = .refuse
  seen : ∀ ends, span history = some ends → ∃ before seen,
    clocked ends.1 :: before <:+ history ∧ firstBusy rules before = some seen

/-- What an outcome says that its delivery has timed. -/
structure Times (rules : PaneRules) (harness flat : RustString) (outcome : Outcome)
    (history : List Event) : Prop where
  waited_eq : outcome.waitedMs = spanMs (timedSpan rules harness flat history)
  seen : ∀ ends, span (decision history) = some ends → ∃ before seen,
    clocked ends.1 :: before <:+ decision history ∧ firstBusy rules before = some seen

theorem timing_of_timeless (hreadings : readings history = [])
    (hfails : failsWaiting history = false) : Timing rules harness 0 history where
  waited_eq := by
    rw [span_eq_none hreadings]
    rfl
  fails := hfails
  policy := .inl hreadings
  seen := by
    rw [span_eq_none hreadings]
    rintro ends ⟨⟩

theorem times_of_timeless {outcome : Outcome} (hreadings : readings (decision history) = [])
    (hwaited : outcome.waitedMs = 0) : Times rules harness flat outcome history where
  waited_eq := by
    rw [timedSpan_eq_none hreadings, hwaited]
    rfl
  seen := by
    rw [span_eq_none hreadings]
    rintro ends ⟨⟩

theorem Timing.unclocked {waitedMs : UInt64} (htiming : Timing rules harness waitedMs before)
    (hunclocked : Unclocked before after) (hsuffix : before <:+ after)
    (hfails : failsWaiting after = false) : Timing rules harness waitedMs after := by
  have hspan : span after = span before := by
    rw [span, hunclocked.readings_eq]
    rfl
  refine ⟨?_, hfails, ?_, ?_⟩
  · rw [hspan]
    exact htiming.waited_eq
  · rw [hunclocked.readings_eq]
    exact htiming.policy
  · intro ends hends
    rw [hspan] at hends
    obtain ⟨earlier, seen, hearlier, hseen⟩ := htiming.seen ends hends
    exact ⟨earlier, seen, hearlier.trans hsuffix, hseen⟩

/-- Where the decision is made, and the pane does not fail behind it while waiting. -/
theorem Timing.times {outcome : Outcome}
    (htiming : Timing rules harness outcome.waitedMs (decision history))
    (hfails : failsWaiting history = false) : Times rules harness flat outcome history := by
  refine ⟨?_, htiming.seen⟩
  rcases htiming.policy with hreadings | hpolicy
  · rw [timedSpan_eq_none hreadings, ← span_eq_none hreadings]
    exact htiming.waited_eq
  · have hproves : provesQueued rules harness flat history = false := by
      rw [provesQueued, hpolicy]
      rfl
    rw [timedSpan, hfails, hproves]
    exact htiming.waited_eq

/-! ## The phases of a delivery -/

section Busy

variable {pollMs budgetMs busyAt : UInt64} {seen : List Event}

/-- From a first reading behind a busy screen to a last one at the decision. -/
theorem timing_clocked {now : UInt64} {later : List UInt64}
    (hreadings : readings (clocked now :: after) = later ++ [busyAt])
    (hstart : clocked busyAt :: before <:+ clocked now :: after)
    (hseen : firstBusy rules before = some seen) (hpolicy : rules.midTurnFor harness = .refuse) :
    Timing rules harness (now - busyAt) (clocked now :: after) where
  waited_eq := by
    rw [span_clocked hreadings]
    rfl
  fails := rfl
  policy := .inr hpolicy
  seen := by
    intro ends hends
    obtain rfl := first_of_span hreadings hends
    exact ⟨before, seen, hstart, hseen⟩

/-- A wait that is timed behind its end. -/
theorem Waits.timing {result : Verdict Progress} (hbefore : readings before = [])
    (hwaits : Waits rules pollMs budgetMs busyAt progress (clocked busyAt :: before) result after)
    (hseen : firstBusy rules before = some seen) (hpolicy : rules.midTurnFor harness = .refuse)
    (now : UInt64) : Timing rules harness (now - busyAt) (clocked now :: after) := by
  obtain ⟨later, hreadings⟩ := hwaits.readings_clocked hbefore now
  have hstart := hwaits.unescaped.suffix.trans (List.suffix_cons (clocked now) after)
  exact timing_clocked hreadings hstart hseen hpolicy

/-- A wait that stops the delivery fails to read, or reads the clock at its end. -/
theorem Waits.stops {result : Verdict Progress} {outcome : Outcome}
    (hwaits : Waits rules pollMs budgetMs busyAt progress before result after)
    (hresult : result = .error (some outcome)) :
    (failsWaiting after = true ∧ outcome.waitedMs = progress.waitedMs) ∨
      ∃ later earlier, after = clocked later :: earlier ∧ outcome.waitedMs = later - busyAt := by
  induction hwaits with
  | outOfFuel => cases hresult
  | spent => cases hresult
  | unreadable =>
      cases hresult
      exact .inl ⟨rfl, rfl⟩
  | becameBlocked progress before now later raw =>
      cases hresult
      exact .inr ⟨later, _, rfl, rfl⟩
  | becameIdle => cases hresult
  | stillBusy _ _ _ _ _ _ _ _ _ _ ih => exact ih hresult

theorem Waits.times {outcome : Outcome} (hbefore : readings before = [])
    (hwaits : Waits rules pollMs budgetMs busyAt progress (clocked busyAt :: before)
      (.error (some outcome)) after) (hseen : firstBusy rules before = some seen)
    (hpolicy : rules.midTurnFor harness = .refuse) (hwaited : progress.waitedMs = 0)
    (hunsent : decision after = after) : Times rules harness flat outcome after := by
  obtain ⟨later, hreadings⟩ := hwaits.readings_eq hbefore
  have hstart := hwaits.unescaped.suffix
  rcases hwaits.stops rfl with ⟨hfails, hsame⟩ | ⟨now, earlier, rfl, htime⟩
  · constructor
    · rw [timedSpan, hfails, hsame, hwaited]
      rfl
    · rw [hunsent]
      intro ends hends
      obtain rfl := first_of_span hreadings hends
      exact ⟨before, seen, hstart, hseen⟩
  · apply Timing.times _ rfl
    rw [hunsent, htime]
    exact timing_clocked hreadings hstart hseen hpolicy

/-- A send into a queue harness is decided between two readings. -/
theorem times_mid_turn {outcome : Outcome} {now : UInt64} (events : List Event) (ok : Bool)
    (hquiet : ∀ event ∈ events, isSend event = false) (hbefore : readings before = [])
    (hseen : firstBusy rules before = some seen)
    (hfails : failsWaiting (events ++ typed flat ok :: clocked now :: clocked busyAt :: before) =
      false)
    (hwaited : outcome.waitedMs = if provesQueued rules harness flat
      (events ++ typed flat ok :: clocked now :: clocked busyAt :: before) then 0
      else now - busyAt) :
    Times rules harness flat outcome
      (events ++ typed flat ok :: clocked now :: clocked busyAt :: before) := by
  have hall : readings (clocked now :: clocked busyAt :: before) = [now] ++ [busyAt] := by
    rw [readings_cons_clocked, readings_cons_clocked, hbefore]
    rfl
  have hspan := span_clocked hall
  constructor
  · rw [timedSpan, hfails, Bool.false_or, decision_of_sent ok hquiet, hspan, hwaited]
    split_ifs <;> rfl
  · rw [decision_of_sent ok hquiet]
    intro ends hends
    obtain rfl := first_of_span hall hends
    exact ⟨before, seen, List.suffix_cons _ _, hseen⟩

theorem SendsQueued.times {outcome : Outcome} (hbefore : readings before = [])
    (hsends : SendsQueued rules harness flat busyAt progress (clocked busyAt :: before) outcome
      after) (hseen : firstBusy rules before = some seen)
    (hpolicy : rules.midTurnFor harness = .queue) : Times rules harness flat outcome after := by
  have hquiet : ∀ event ok, isSend event = false →
      ∀ other ∈ [event, slept 3000, pressed .enter ok, slept 1500], isSend other = false := by
    intro event ok hevent
    simp [hevent]
  cases hsends with
  | sendFailed now =>
      apply times_mid_turn [] false (by simp) hbefore hseen rfl
      rw [provesQueued_of_unseen rfl]
      rfl
  | unreadable now ok =>
      apply times_mid_turn [readFailed, slept 3000, pressed .enter ok, slept 1500] true
        (hquiet readFailed ok rfl) hbefore hseen rfl
      rw [provesQueued_of_unseen rfl]
      rfl
  | queued now ok raw hqueued =>
      apply times_mid_turn [sawScreen raw, slept 3000, pressed .enter ok, slept 1500] true
        (hquiet (sawScreen raw) ok rfl) hbefore hseen rfl
      rw [List.cons_append, provesQueued_sawScreen raw hpolicy, hqueued]
      rfl
  | unproven now ok raw hunproven =>
      apply times_mid_turn [sawScreen raw, slept 3000, pressed .enter ok, slept 1500] true
        (hquiet (sawScreen raw) ok rfl) hbefore hseen rfl
      rw [List.cons_append, provesQueued_sawScreen raw hpolicy, hunproven]
      rfl

/-- A pane that is passed has been timed. -/
theorem PassesBusy.timing {next : Progress} (hbefore : readings before = [])
    (hpasses : PassesBusy rules harness flat pollMs budgetMs progress before (.ok next) after)
    (hlooked : Looked before progress.screen) (hfails : failsWaiting before = false)
    (hwaited : progress.waitedMs = 0) : Timing rules harness next.waitedMs after := by
  cases hpasses with
  | idle =>
      rw [hwaited]
      exact timing_of_timeless hbefore hfails
  | waited hbusy hpolicy busyAt now last middle hwait =>
      obtain ⟨seen, hseen⟩ := exists_firstBusy hlooked.last hbusy
      exact hwait.timing hbefore hseen hpolicy now

theorem PassesBusy.times {outcome : Outcome} (hbefore : readings before = [])
    (hpasses : PassesBusy rules harness flat pollMs budgetMs progress before
      (.error (some outcome)) after)
    (hlooked : Looked before progress.screen) (hclear : blocked progress.screen rules = false)
    (hwaited : progress.waitedMs = 0) : Times rules harness flat outcome after := by
  cases hpasses with
  | queued hbusy hpolicy busyAt outcome after hsend =>
      obtain ⟨seen, hseen⟩ := exists_firstBusy hlooked.last hbusy
      exact hsend.times hbefore hseen hpolicy
  | stopped hbusy hpolicy busyAt stop after hwait =>
      obtain ⟨seen, hseen⟩ := exists_firstBusy hlooked.last hbusy
      obtain ⟨screen, hafter⟩ := (hwait.leaves (hlooked.clock busyAt) hclear).1
      exact hwait.times hbefore hseen hpolicy hwaited (decision_of_unsent hafter.sends)
  | stillThinking hbusy hpolicy busyAt now last middle hwait =>
      obtain ⟨seen, hseen⟩ := exists_firstBusy hlooked.last hbusy
      obtain ⟨hmiddle, -⟩ := (hwait.leaves (hlooked.clock busyAt) hclear).2 last rfl
      apply Timing.times _ rfl
      rw [decision_of_unsent (hmiddle.clock now).sends]
      exact hwait.timing hbefore hseen hpolicy now

end Busy

section Delivery

variable {opts : DeliveryOptions} {raw : RustString}

theorem ClearsOverlay.timeless {result : Verdict Progress}
    (hclears : ClearsOverlay rules (firstProgress raw) [sawScreen raw] result after) :
    readings after = [] :=
  hclears.unclocked.readings_eq

theorem ClearsOverlay.passed {next : Progress}
    (hclears : ClearsOverlay rules (firstProgress raw) [sawScreen raw] (.ok next) after) :
    failsWaiting after = false ∧ next.waitedMs = 0 := by
  cases hclears with
  | clear => exact ⟨rfl, rfl⟩
  | uncovered => exact ⟨rfl, rfl⟩

theorem ClearsOverlay.waitedMs {outcome : Outcome}
    (hclears : ClearsOverlay rules (firstProgress raw) [sawScreen raw] (.error (some outcome))
      after) : outcome.waitedMs = 0 := by
  cases hclears <;> rfl

theorem SubmitsStale.failsWaiting_eq {result : Verdict Progress}
    (hsubmits : SubmitsStale rules progress before result after)
    (hbefore : failsWaiting before = false) : failsWaiting after = false := by
  cases hsubmits with
  | fresh => exact hbefore
  | _ => rfl

theorem SubmitsStale.waitedMs {outcome : Outcome}
    (hsubmits : SubmitsStale rules progress before (.error (some outcome)) after) :
    outcome.waitedMs = progress.waitedMs := by
  cases hsubmits <;> rfl

theorem SubmitsStale.waitedMs_ok {next : Progress}
    (hsubmits : SubmitsStale rules progress before (.ok next) after) :
    next.waitedMs = progress.waitedMs := by
  cases hsubmits <;> rfl

theorem SubmitsStale.unsent {result : Verdict Progress}
    (hsubmits : SubmitsStale rules progress before result after)
    (hbefore : ∀ event ∈ before, isSend event = false) :
    ∀ event ∈ after, isSend event = false := by
  cases hsubmits with
  | fresh => exact hbefore
  | _ => simpa using hbefore

theorem SendsLine.failsWaiting_eq {outcome : Outcome}
    (hsends : SendsLine rules flat progress before outcome after) : failsWaiting after = false := by
  cases hsends <;> rfl

theorem verdict_waitedMs (rules : PaneRules) (head : RustString) (progress : Progress) :
    (verdict rules head progress).waitedMs = progress.waitedMs := by
  rw [verdict]
  split_ifs <;> rfl

theorem SendsLine.waitedMs {outcome : Outcome}
    (hsends : SendsLine rules flat progress before outcome after) :
    outcome.waitedMs = progress.waitedMs := by
  cases hsends with
  | gone => exact verdict_waitedMs _ _ _
  | goneAgain => exact verdict_waitedMs _ _ _
  | _ => rfl

/-- The way past a busy pane, timed. -/
theorem timing_of_passed {uncovered idle : Progress} {history₁ : List Event}
    {pollMs budgetMs : UInt64}
    (hoverlay : ClearsOverlay rules (firstProgress raw) [sawScreen raw] (.ok uncovered) history₁)
    (hbusy : PassesBusy rules harness flat pollMs budgetMs uncovered history₁ (.ok idle) history) :
    Timing rules harness idle.waitedMs history ∧ ∀ event ∈ history, isSend event = false := by
  obtain ⟨hlooked, hclear⟩ := (hoverlay.leaves (firstProgress_looked raw)).2 uncovered rfl
  obtain ⟨hfails, hwaited⟩ := hoverlay.passed
  exact ⟨hbusy.timing hoverlay.timeless hlooked hfails hwaited,
    ((hbusy.outcome hlooked hclear).1 idle rfl).1.sends⟩

theorem SubmitsStale.timing {idle : Progress} {result : Verdict Progress}
    (htiming : Timing rules harness idle.waitedMs before)
    (hstale : SubmitsStale rules idle before result after) :
    Timing rules harness idle.waitedMs after :=
  htiming.unclocked hstale.unclocked hstale.unescaped.suffix (hstale.failsWaiting_eq htiming.fails)

theorem StopsEarly.times {outcome : Outcome}
    (hstop : StopsEarly rules harness flat opts raw (some outcome) history) :
    Times rules harness flat outcome history := by
  cases hstop with
  | overlay stop history hoverlay =>
      obtain ⟨screen, hlooked⟩ := (hoverlay.leaves (firstProgress_looked raw)).1
      apply times_of_timeless _ hoverlay.waitedMs
      rw [decision_of_unsent hlooked.sends]
      exact hoverlay.timeless
  | busy stop uncovered history₁ history hoverlay hbusy =>
      obtain ⟨hlooked, hclear⟩ := (hoverlay.leaves (firstProgress_looked raw)).2 uncovered rfl
      exact hbusy.times hoverlay.timeless hlooked hclear hoverlay.passed.2
  | capped uncovered idle history₁ history hit hoverlay hbusy =>
      obtain ⟨htiming, hunsent⟩ := timing_of_passed hoverlay hbusy
      apply Timing.times _ htiming.fails
      rw [decision_of_unsent hunsent]
      exact htiming
  | stale stop uncovered idle history₁ history₂ history hoverlay hbusy hcap hstale =>
      obtain ⟨htiming, hunsent⟩ := timing_of_passed hoverlay hbusy
      have hafter := hstale.timing htiming
      apply Timing.times _ hafter.fails
      rw [decision_of_unsent (hstale.unsent hunsent), hstale.waitedMs]
      exact hafter

theorem ReadyToSend.timing
    (hready : ReadyToSend rules harness flat opts raw progress history) :
    Timing rules harness progress.waitedMs history := by
  obtain ⟨uncovered, history₁, idle, history₂, hoverlay, hbusy, -, hstale⟩ := hready.path
  rw [hstale.waitedMs_ok]
  exact hstale.timing (timing_of_passed hoverlay hbusy).1

/-- The harness that the first read of the run identifies. -/
def harnessOf (rules : PaneRules) (selector : HarnessSelector) (history : List Event) :
    RustString :=
  let first := ((history.getLast?.bind screenOf).map tail14).getD []
  (identityOf rules selector first).harness

theorem harnessOf_eq (hfirst : ∃ events, history = events ++ [sawScreen raw]) :
    harnessOf rules selector history = (identityOf rules selector (tail14 raw)).harness := by
  obtain ⟨events, rfl⟩ := hfirst
  simp [harnessOf, screenOf, sawScreen]

/-- `waited_ms` is the span that the delivery has timed. -/
theorem Delivers.times {result : Option Outcome} {outcome : Outcome}
    (hdelivers : Delivers rules selector text opts result history)
    (hresult : result = some outcome) :
    Times rules (harnessOf rules selector history) (flatten text) outcome history := by
  cases hdelivers with
  | unreadable =>
      cases hresult
      exact times_of_timeless rfl rfl
  | stopped raw stop history hfirst hstop =>
      obtain ⟨stopped, rfl, rfl⟩ := Option.map_eq_some_iff.mp hresult
      rw [harnessOf_eq hfirst]
      have htimes := hstop.times
      exact ⟨htimes.waited_eq, htimes.seen⟩
  | sent raw progress outcome before history hfirst hready hsend =>
      cases hresult
      rw [harnessOf_eq hfirst]
      obtain ⟨events, ok, rfl, hquiet⟩ := hsend.exists_send
      apply Timing.times _ hsend.failsWaiting_eq
      rw [decision_of_sent ok hquiet]
      have htiming := hready.timing
      rw [← hsend.waitedMs] at htiming
      exact htiming

end Delivery

end OdinSentinel.Say
