import OdinSentinel.Say.TypingSafety

/-!
# Keystrokes

What a delivery presses and types, and what the pane showed at each key.  No Enter
is pressed on a pane that waits for a person, except where the read-back behind the
send already shows its prompt.
-/

namespace OdinSentinel.Say

open RustText Dialogue

def isEscape : Event → Bool
  | ⟨.sendKey .escape, _⟩ => true
  | _ => false

@[simp]
theorem sawScreen_inj {raw other : RustString} : sawScreen raw = sawScreen other ↔ raw = other := by
  simp [sawScreen]

@[simp]
theorem pressed_inj {key other : Key} {ok again : Bool} :
    pressed key ok = pressed other again ↔ key = other ∧ ok = again := by
  simp [pressed]

@[simp]
theorem typed_inj {text other : RustString} {ok again : Bool} :
    typed text ok = typed other again ↔ text = other ∧ ok = again := by
  simp [typed]

@[simp]
theorem slept_inj {ms other : Nat} : slept ms = slept other ↔ ms = other := by
  simp [slept]

@[simp]
theorem isSend_slept (ms : Nat) : isSend (slept ms) = false := rfl

@[simp]
theorem isSend_sawScreen (raw : RustString) : isSend (sawScreen raw) = false := rfl

@[simp]
theorem isSend_clocked (now : UInt64) : isSend (clocked now) = false := rfl

@[simp]
theorem isSend_typed (text : RustString) (ok : Bool) : isSend (typed text ok) = true := rfl

@[simp]
theorem isSend_readFailed : isSend readFailed = false := rfl

@[simp]
theorem isEnter_slept (ms : Nat) : isEnter (slept ms) = false := rfl

@[simp]
theorem isEnter_sawScreen (raw : RustString) : isEnter (sawScreen raw) = false := rfl

@[simp]
theorem isEnter_clocked (now : UInt64) : isEnter (clocked now) = false := rfl

@[simp]
theorem isEnter_typed (text : RustString) (ok : Bool) : isEnter (typed text ok) = false := rfl

@[simp]
theorem isEnter_readFailed : isEnter readFailed = false := rfl

@[simp]
theorem isSend_pressed (key : Key) (ok : Bool) : isSend (pressed key ok) = false := rfl

@[simp]
theorem isEnter_enter (ok : Bool) : isEnter (pressed .enter ok) = true := rfl

/-- The screen that was read last is of a kind. -/
def LastShown (shown : RustString → Prop) (history : List Event) : Prop :=
  ∃ screen, lastScreen history = some screen ∧ shown screen

variable {rules : PaneRules} {selector : HarnessSelector} {policy : MidTurn}
  {history before after : List Event} {flat : RustString}

/-! ## The shape of a history -/

/-- What stands before the text: a clear screen that is idle, or stale input that an
Enter has submitted. -/
inductive OpensLine (rules : PaneRules) : List Event → RustString → Prop
  | fresh {history : List Event} {screen : RustString} (hlooked : Looked history screen)
      (hclear : blocked screen rules = false) (hidle : busy screen rules = false) :
      OpensLine rules history screen
  | resubmitted {history : List Event} {screen : RustString} (hlooked : Looked history screen)
      (hclear : blocked screen rules = false) (hstale : staleInput screen = true) (ok : Bool)
      (raw : RustString) (hrereadClear : blocked (tail14 raw) rules = false) :
      OpensLine rules (sawScreen raw :: slept 3000 :: pressed .enter ok :: history) (tail14 raw)

/-- The histories of a delivery by what was typed and where Enter was pressed. -/
inductive Strokes (rules : PaneRules) (policy : MidTurn) (harness flat : RustString) :
    List Event → Option Outcome → Prop
  | untouched {history : List Event} {stop : Option Outcome}
      (hsends : ∀ event ∈ history, isSend event = false)
      (henters : ∀ event ∈ history, isEnter event = false)
      (hstop : ∀ outcome, stop = some outcome → outcome.submitted = false) :
      Strokes rules policy harness flat history stop
  | stale {before : List Event} {screen : RustString} {stop : Option Outcome}
      (hlooked : Looked before screen) (hclear : blocked screen rules = false)
      (hstale : staleInput screen = true) (ok : Bool) (event : Event)
      (hsend : isSend event = false) (henter : isEnter event = false)
      (hstop : ∀ outcome, stop = some outcome → outcome.submitted = false) :
      Strokes rules policy harness flat (event :: slept 3000 :: pressed .enter ok :: before) stop
  | queued {before history : List Event} {screen : RustString} {busyAt : UInt64}
      {progress : Progress} {outcome : Outcome} (hlooked : Looked before screen)
      (hclear : blocked screen rules = false) (hbusy : busy screen rules = true)
      (hpolicy : policy = .queue)
      (hsends : SendsQueued rules harness flat busyAt progress before outcome history) :
      Strokes rules policy harness flat history (some outcome)
  | line {before history : List Event} {progress : Progress} {outcome : Outcome}
      (hopens : OpensLine rules before progress.screen)
      (hsends : SendsLine rules flat progress before outcome history) :
      Strokes rules policy harness flat history (some outcome)

variable {progress : Progress} {harness : RustString}

theorem Looked.untouched {screen : RustString} (hlooked : Looked history screen)
    {stop : Option Outcome} (hstop : ∀ outcome, stop = some outcome → outcome.submitted = false) :
    Strokes rules policy harness flat history stop :=
  .untouched hlooked.sends hlooked.enters hstop

/-- A stop before the send reports nothing as submitted. -/
theorem ClearsOverlay.unsubmitted {outcome : Outcome}
    (hclears : ClearsOverlay rules progress before (.error (some outcome)) after) :
    outcome.submitted = false := by
  cases hclears <;> rfl

theorem Waits.unsubmitted {pollMs budgetMs busyAt : UInt64} {result : Verdict Progress}
    {outcome : Outcome} (hwaits : Waits rules pollMs budgetMs busyAt progress before result after)
    (hstop : result = .error (some outcome)) : outcome.submitted = false := by
  induction hwaits with
  | outOfFuel => cases hstop
  | spent => cases hstop
  | becameIdle => cases hstop
  | unreadable =>
      cases hstop
      rfl
  | becameBlocked =>
      cases hstop
      rfl
  | stillBusy _ _ _ _ _ _ _ _ _ _ ih => exact ih hstop

theorem SubmitsStale.unsubmitted {outcome : Outcome}
    (hsubmits : SubmitsStale rules progress before (.error (some outcome)) after) :
    outcome.submitted = false := by
  cases hsubmits <;> rfl

/-- A busy pane that stops the delivery is either left alone or typed into mid-turn. -/
theorem PassesBusy.strokes {pollMs budgetMs : UInt64} {stop : Option Outcome}
    (hpasses : PassesBusy rules harness flat pollMs budgetMs progress before (.error stop) after)
    (hlooked : Looked before progress.screen) (hclear : blocked progress.screen rules = false) :
    Strokes rules (rules.midTurnFor harness) harness flat after stop := by
  cases hpasses with
  | queued hbusy hpolicy busyAt outcome after hsend =>
      exact .queued (hlooked.clock busyAt) hclear hbusy hpolicy hsend
  | stopped _ _ busyAt stop after hwait =>
      obtain ⟨screen, hafter⟩ := (hwait.leaves (hlooked.clock busyAt) hclear).1
      apply hafter.untouched
      rintro outcome rfl
      exact hwait.unsubmitted rfl
  | stillThinking _ _ busyAt now last middle hwait =>
      obtain ⟨hmiddle, -⟩ := (hwait.leaves (hlooked.clock busyAt) hclear).2 last rfl
      apply (hmiddle.clock now).untouched
      intro outcome hstop
      cases hstop
      rfl

theorem SubmitsStale.strokes {stop : Option Outcome}
    (hsubmits : SubmitsStale rules progress before (.error stop) after)
    (hlooked : Looked before progress.screen) (hclear : blocked progress.screen rules = false) :
    Strokes rules policy harness flat after stop := by
  have hstop : ∀ outcome, stop = some outcome → outcome.submitted = false := by
    rintro outcome rfl
    exact hsubmits.unsubmitted
  cases hsubmits with
  | unreadable hstale ok => exact .stale hlooked hclear hstale ok readFailed rfl rfl hstop
  | becameBlocked hstale ok raw =>
      exact .stale hlooked hclear hstale ok (sawScreen raw) rfl rfl hstop
  | stuck hstale ok raw => exact .stale hlooked hclear hstale ok (sawScreen raw) rfl rfl hstop

theorem StopsEarly.strokes {opts : DeliveryOptions} {raw : RustString} {stop : Option Outcome}
    (hstop : StopsEarly rules harness flat opts raw stop history) :
    Strokes rules (rules.midTurnFor harness) harness flat history stop := by
  have hfirst := firstProgress_looked raw
  cases hstop with
  | overlay stop history hoverlay =>
      obtain ⟨screen, hlooked⟩ := (hoverlay.leaves hfirst).1
      apply hlooked.untouched
      rintro outcome rfl
      exact hoverlay.unsubmitted
  | busy stop uncovered history₁ history hoverlay hbusy =>
      obtain ⟨hlooked, hclear⟩ := (hoverlay.leaves hfirst).2 uncovered rfl
      exact hbusy.strokes hlooked hclear
  | capped uncovered idle history₁ history hit hoverlay hbusy =>
      obtain ⟨hlooked, hclear⟩ := (hoverlay.leaves hfirst).2 uncovered rfl
      apply ((hbusy.outcome hlooked hclear).1 idle rfl).1.untouched
      intro outcome houtcome
      cases houtcome
      rfl
  | stale stop uncovered idle history₁ history₂ history hoverlay hbusy hcap hstale =>
      obtain ⟨hlooked, hclear⟩ := (hoverlay.leaves hfirst).2 uncovered rfl
      obtain ⟨hidle, hidleClear, -⟩ := (hbusy.outcome hlooked hclear).1 idle rfl
      exact hstale.strokes hidle hidleClear

theorem ReadyToSend.opensLine {opts : DeliveryOptions} {raw : RustString}
    (hready : ReadyToSend rules harness flat opts raw progress before) :
    OpensLine rules before progress.screen := by
  obtain ⟨uncovered, history₁, idle, history₂, hoverlay, hbusy, -, hstale⟩ := hready.path
  obtain ⟨hlooked, hclear⟩ := (hoverlay.leaves (firstProgress_looked raw)).2 uncovered rfl
  obtain ⟨hidle, hidleClear, hnotBusy⟩ := (hbusy.outcome hlooked hclear).1 idle rfl
  cases hstale with
  | fresh => exact .fresh hidle hidleClear hnotBusy
  | submitted hstale ok reread hrereadClear =>
      exact .resubmitted hidle hidleClear hstale ok reread hrereadClear

theorem policyOf_eq {raw : RustString} (hfirst : ∃ events, history = events ++ [sawScreen raw]) :
    policyOf rules selector history =
      rules.midTurnFor (identityOf rules selector (tail14 raw)).harness := by
  obtain ⟨events, rfl⟩ := hfirst
  simp [policyOf, screenOf, sawScreen]

/-- Every run of a delivery, by its keystrokes. -/
theorem Delivers.strokes {text : RustString} {opts : DeliveryOptions} {result : Option Outcome}
    (hdelivers : Delivers rules selector text opts result history) :
    ∃ identity stop,
      result = stop.map (fun outcome : Outcome => { outcome with harness := identity }) ∧
      Strokes rules (policyOf rules selector history) identity.harness (flatten text) history
        stop := by
  cases hdelivers with
  | unreadable =>
      refine ⟨identityOf rules selector [],
        some (refuse .paneReadFailed false "read-failed" exitReadFailed 0 0), rfl, ?_⟩
      refine .untouched (by simp [isSend, readFailed]) (by simp [isEnter, readFailed]) ?_
      intro outcome houtcome
      cases houtcome
      rfl
  | stopped raw stop history hfirst hstop =>
      refine ⟨identityOf rules selector (tail14 raw), stop, rfl, ?_⟩
      rw [policyOf_eq hfirst]
      exact hstop.strokes
  | sent raw progress outcome before history hfirst hready hsend =>
      exact ⟨identityOf rules selector (tail14 raw), some outcome, rfl,
        .line hready.opensLine hsend⟩

end OdinSentinel.Say
