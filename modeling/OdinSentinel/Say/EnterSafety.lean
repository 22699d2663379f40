import OdinSentinel.Say.Keystrokes

/-!
# Enter only on a clear pane

Before the message, the last screen is clear when Enter is pressed.  Behind it, one
more Enter is decided by the input line alone, and the read-back may show a prompt.
-/

namespace OdinSentinel.Say

open RustText Dialogue

/-- Every Enter is pressed on a last screen that waits for nobody. -/
def EntersClear (rules : PaneRules) (history : List Event) : Prop :=
  Guarded isEnter (LastShown fun screen => blocked screen rules = false) history

/-- The message goes into a busy pane of a harness that keeps a queue. -/
structure MidTurnSend (rules : PaneRules) (policy : MidTurn) (earlier : List Event) : Prop where
  keeps : policy = .queue
  unpressed : ∀ event ∈ earlier, isEnter event = false
  working : LastShown (fun screen => busy screen rules = true) earlier

/-- The first screen read behind the message and its Enter shows the message in the
input bar and is blocked; behind a mid-turn send nothing hangs on it. -/
def PromptReadBack (rules : PaneRules) (policy : MidTurn) (flat : RustString)
    (history : List Event) : Prop :=
  ∃ raw ok earlier, sawScreen raw :: sendEvents flat ok ++ earlier <:+ history ∧
    ¬MidTurnSend rules policy earlier ∧ blocked (tail14 raw) rules = true ∧
    inBar (tail14 raw) (messageHead flat) = true

variable {rules : PaneRules} {selector : HarnessSelector} {policy : MidTurn}
  {history before after : List Event} {flat : RustString}

theorem not_promptReadBack_of_quiet (hquiet : ∀ event ∈ history, isSend event = false) :
    ¬PromptReadBack rules policy flat history := by
  rintro ⟨raw, ok, earlier, hsuffix, -⟩
  have hmem : typed flat true ∈ history := hsuffix.subset (by simp [sendEvents])
  exact Bool.noConfusion (hquiet _ hmem)

/-- A prompt stands in the read-back at the head of the history or further back. -/
theorem promptReadBack_cons {event : Event} :
    PromptReadBack rules policy flat (event :: history) ↔
      PromptReadBack rules policy flat history ∨
      ∃ raw ok earlier, event = sawScreen raw ∧ history = sendEvents flat ok ++ earlier ∧
        ¬MidTurnSend rules policy earlier ∧ blocked (tail14 raw) rules = true ∧
        inBar (tail14 raw) (messageHead flat) = true := by
  constructor
  · rintro ⟨raw, ok, earlier, hsuffix, hrest⟩
    rcases List.suffix_cons_iff.mp hsuffix with hsame | hsuffix
    · cases hsame
      exact .inr ⟨raw, ok, earlier, rfl, rfl, hrest⟩
    · exact .inl ⟨raw, ok, earlier, hsuffix, hrest⟩
  · rintro (⟨raw, ok, earlier, hsuffix, hrest⟩ | ⟨raw, ok, earlier, rfl, rfl, hrest⟩)
    · exact ⟨raw, ok, earlier, hsuffix.trans (List.suffix_cons _ _), hrest⟩
    · exact ⟨raw, ok, earlier, List.suffix_refl _, hrest⟩

theorem promptReadBack_skip {event : Event} (hevent : screenOf event = none) :
    PromptReadBack rules policy flat (event :: history) ↔
      PromptReadBack rules policy flat history := by
  rw [promptReadBack_cons]
  constructor
  · rintro (hback | ⟨raw, ok, earlier, rfl, -⟩)
    · exact hback
    · cases hevent
  · exact .inl

theorem promptReadBack_sendEvents {ok : Bool} (hbefore : ∀ event ∈ before, isSend event = false) :
    ¬PromptReadBack rules policy flat (sendEvents flat ok ++ before) := by
  simp only [sendEvents, List.cons_append, List.nil_append]
  rw [promptReadBack_skip rfl, promptReadBack_skip rfl, promptReadBack_skip rfl,
    promptReadBack_skip rfl]
  exact not_promptReadBack_of_quiet hbefore

theorem promptReadBack_readBack {ok : Bool} {raw : RustString}
    (hbefore : ∀ event ∈ before, isSend event = false) :
    PromptReadBack rules policy flat (sawScreen raw :: sendEvents flat ok ++ before) ↔
      ¬MidTurnSend rules policy before ∧ blocked (tail14 raw) rules = true ∧
        inBar (tail14 raw) (messageHead flat) = true := by
  rw [List.cons_append, promptReadBack_cons]
  constructor
  · rintro (hback | ⟨other, again, earlier, hsame, hsplit, hrest⟩)
    · exact absurd hback (promptReadBack_sendEvents hbefore)
    · obtain rfl := sawScreen_inj.mp hsame
      simp only [sendEvents, List.cons_append, List.nil_append, List.cons.injEq] at hsplit
      rw [hsplit.2.2.2.2]
      exact hrest
  · exact fun hprompt => .inr ⟨raw, ok, before, rfl, rfl, hprompt⟩

/-! ## The Enters -/

theorem OpensLine.unsent {screen : RustString} (hopens : OpensLine rules history screen) :
    ∀ event ∈ history, isSend event = false := by
  cases hopens with
  | fresh hlooked => exact hlooked.sends
  | resubmitted hlooked =>
      simp only [List.forall_mem_cons]
      exact ⟨rfl, rfl, rfl, hlooked.sends⟩

theorem OpensLine.last {screen : RustString} (hopens : OpensLine rules history screen) :
    lastScreen history = some screen ∧ blocked screen rules = false := by
  cases hopens with
  | fresh hlooked hclear => exact ⟨hlooked.last, hclear⟩
  | resubmitted _ _ _ _ raw hrereadClear => exact ⟨rfl, hrereadClear⟩

theorem OpensLine.not_midTurn {screen : RustString} (hopens : OpensLine rules history screen) :
    ¬MidTurnSend rules policy history := by
  intro hmid
  cases hopens with
  | fresh hlooked _ hidle =>
      obtain ⟨shown, hlast, hbusy⟩ := hmid.working
      obtain rfl := Option.some.inj (hlooked.last.symm.trans hlast)
      rw [hidle] at hbusy
      cases hbusy
  | resubmitted _ _ _ ok =>
      exact Bool.noConfusion (hmid.unpressed (pressed .enter ok) (by simp))

theorem entersClear_enter {ok : Bool} {screen : RustString} (hlast : lastScreen before = some screen) :
    EntersClear rules (pressed .enter ok :: before) ↔
      blocked screen rules = false ∧ EntersClear rules before := by
  rw [EntersClear, guarded_cons]
  constructor
  · rintro ⟨hhead, hrest⟩
    obtain ⟨shown, hshown, hclear⟩ := hhead rfl
    obtain rfl := Option.some.inj (hlast.symm.trans hshown)
    exact ⟨hclear, hrest⟩
  · exact fun ⟨hclear, hrest⟩ => ⟨fun _ => ⟨screen, hlast, hclear⟩, hrest⟩

theorem entersClear_skip {event : Event} (hevent : isEnter event = false) :
    EntersClear rules (event :: history) ↔ EntersClear rules history := by
  simp [EntersClear, guarded_cons, hevent]

theorem Looked.entersClear {screen : RustString} (hlooked : Looked history screen) :
    EntersClear rules history :=
  guarded_of_quiet hlooked.enters

theorem OpensLine.entersClear {screen : RustString} (hopens : OpensLine rules history screen) :
    EntersClear rules history := by
  cases hopens with
  | fresh hlooked => exact hlooked.entersClear
  | resubmitted hlooked hclear =>
      rw [entersClear_skip rfl, entersClear_skip rfl, entersClear_enter hlooked.last]
      exact ⟨hclear, hlooked.entersClear⟩

theorem OpensLine.sendEvents_clear {screen : RustString} (hopens : OpensLine rules before screen)
    (ok : Bool) : EntersClear rules (sendEvents flat ok ++ before) := by
  simp only [sendEvents, List.cons_append, List.nil_append]
  obtain ⟨hlast, hclear⟩ := hopens.last
  have hstill : lastScreen (slept 1500 :: typed flat true :: before) = some screen := hlast
  rw [entersClear_skip rfl, entersClear_enter hstill, entersClear_skip rfl, entersClear_skip rfl]
  exact ⟨hclear, hopens.entersClear⟩

/-- One more Enter lands on a clear pane exactly when the read-back shows no prompt. -/
theorem OpensLine.again_clear_iff {screen raw : RustString}
    (hopens : OpensLine rules before screen) (ok again : Bool) (event : Event)
    (hbar : inBar (tail14 raw) (messageHead flat) = true) (hevent : isEnter event = false)
    (hunread : PromptReadBack rules policy flat
        (event :: slept 3000 :: pressed .enter again :: sawScreen raw :: sendEvents flat ok ++
          before) ↔
      PromptReadBack rules policy flat (sawScreen raw :: sendEvents flat ok ++ before)) :
    EntersClear rules
        (event :: slept 3000 :: pressed .enter again :: sawScreen raw :: sendEvents flat ok ++
          before) ↔
      ¬PromptReadBack rules policy flat
        (event :: slept 3000 :: pressed .enter again :: sawScreen raw :: sendEvents flat ok ++
          before) := by
  have hseen : lastScreen (sawScreen raw :: sendEvents flat ok ++ before) = some (tail14 raw) := rfl
  rw [hunread, promptReadBack_readBack hopens.unsent]
  simp only [List.cons_append] at hseen ⊢
  rw [entersClear_skip hevent, entersClear_skip rfl, entersClear_enter hseen,
    entersClear_skip rfl]
  simp [hopens.sendEvents_clear ok, hopens.not_midTurn, hbar]

theorem SendsLine.entersClear_iff {progress : Progress} {outcome : Outcome}
    (hsends : SendsLine rules flat progress before outcome after)
    (hopens : OpensLine rules before progress.screen) :
    EntersClear rules after ↔ ¬PromptReadBack rules policy flat after := by
  have hback : ∀ {events : List Event} {again : Bool} {raw last : RustString},
      PromptReadBack rules policy flat (sawScreen last :: slept 3000 :: pressed .enter again ::
        sawScreen raw :: events) ↔ PromptReadBack rules policy flat (sawScreen raw :: events) := by
    intro events again raw last
    rw [promptReadBack_cons, promptReadBack_skip rfl, promptReadBack_skip rfl]
    simp [sendEvents, sawScreen, slept]
  cases hsends with
  | sendFailed =>
      rw [entersClear_skip rfl, promptReadBack_skip rfl]
      exact iff_of_true hopens.entersClear (not_promptReadBack_of_quiet hopens.unsent)
  | unreadable ok =>
      rw [List.cons_append, entersClear_skip rfl, promptReadBack_skip rfl]
      exact iff_of_true (hopens.sendEvents_clear ok) (promptReadBack_sendEvents hopens.unsent)
  | gone ok raw hgone =>
      rw [promptReadBack_readBack hopens.unsent, List.cons_append, entersClear_skip rfl]
      exact iff_of_true (hopens.sendEvents_clear ok) (by simp [hgone])
  | unreadableAgain ok again raw hbar =>
      apply hopens.again_clear_iff ok again readFailed hbar rfl
      simp only [List.cons_append]
      rw [promptReadBack_skip rfl, promptReadBack_skip rfl, promptReadBack_skip rfl]
  | stuck ok again raw last hbar =>
      exact hopens.again_clear_iff ok again (sawScreen last) hbar rfl hback
  | goneAgain ok again raw last hbar =>
      exact hopens.again_clear_iff ok again (sawScreen last) hbar rfl hback

theorem SendsQueued.entersClear {harness : RustString} {busyAt : UInt64} {progress : Progress}
    {outcome : Outcome} {screen : RustString}
    (hsends : SendsQueued rules harness flat busyAt progress before outcome after)
    (hlooked : Looked before screen) (hclear : blocked screen rules = false) :
    EntersClear rules after := by
  have henter : ∀ now ok, EntersClear rules
      (pressed .enter ok :: slept 1500 :: typed flat true :: clocked now :: before) := by
    intro now ok
    have hlast : lastScreen (slept 1500 :: typed flat true :: clocked now :: before) = some screen :=
      hlooked.last
    rw [entersClear_enter hlast, entersClear_skip rfl, entersClear_skip rfl, entersClear_skip rfl]
    exact ⟨hclear, hlooked.entersClear⟩
  cases hsends with
  | sendFailed now =>
      rw [entersClear_skip rfl, entersClear_skip rfl]
      exact hlooked.entersClear
  | unreadable now ok =>
      rw [entersClear_skip rfl, entersClear_skip rfl]
      exact henter now ok
  | queued now ok raw =>
      rw [entersClear_skip rfl, entersClear_skip rfl]
      exact henter now ok
  | unproven now ok raw =>
      rw [entersClear_skip rfl, entersClear_skip rfl]
      exact henter now ok

/-- Behind a mid-turn send no read-back counts. -/
theorem SendsQueued.not_promptReadBack {harness : RustString} {busyAt : UInt64}
    {progress : Progress} {outcome : Outcome} {screen : RustString}
    (hsends : SendsQueued rules harness flat busyAt progress before outcome after)
    (hlooked : Looked before screen) (hbusy : busy screen rules = true)
    (hpolicy : policy = .queue) : ¬PromptReadBack rules policy flat after := by
  have hmid : ∀ now, MidTurnSend rules policy (clocked now :: before) := fun now =>
    ⟨hpolicy, (hlooked.clock now).enters, screen, hlooked.last, hbusy⟩
  cases hsends with
  | sendFailed now =>
      rw [promptReadBack_skip rfl]
      exact not_promptReadBack_of_quiet (hlooked.clock now).sends
  | unreadable now ok =>
      rw [promptReadBack_skip rfl]
      exact promptReadBack_sendEvents (hlooked.clock now).sends
  | queued now ok raw =>
      exact fun hback => ((promptReadBack_readBack (hlooked.clock now).sends).mp hback).1 (hmid now)
  | unproven now ok raw =>
      exact fun hback => ((promptReadBack_readBack (hlooked.clock now).sends).mp hback).1 (hmid now)

/-- In every run of `deliver`: each Enter is pressed on a clear pane exactly when the
screen read behind the message and its Enter does not show the message in the input bar
of a blocked pane. -/
theorem deliver_entersClear_iff {text : RustString} {opts : DeliveryOptions} {fuel : Nat}
    {result : Option Outcome}
    (hrun : Runs (deliver rules selector text opts fuel) [] result history) :
    EntersClear rules history ↔
      ¬PromptReadBack rules (policyOf rules selector history) (flatten text) history := by
  obtain ⟨identity, stop, -, hstrokes⟩ := (deliver_cases hrun).strokes
  cases hstrokes with
  | untouched hsends henters =>
      exact iff_of_true (guarded_of_quiet henters) (not_promptReadBack_of_quiet hsends)
  | stale hlooked hclear hstale ok event hsend henter =>
      apply iff_of_true
      · rw [entersClear_skip henter, entersClear_skip rfl, entersClear_enter hlooked.last]
        exact ⟨hclear, hlooked.entersClear⟩
      · apply not_promptReadBack_of_quiet
        simp only [List.forall_mem_cons]
        exact ⟨hsend, rfl, rfl, hlooked.sends⟩
  | queued hlooked hclear hbusy hpolicy hsends =>
      exact iff_of_true (hsends.entersClear hlooked hclear)
        (hsends.not_promptReadBack hlooked hbusy hpolicy)
  | line hopens hsends => exact hsends.entersClear_iff hopens

/-- The message stands in the input bar and a prompt has opened above it. -/
def promptOpens : List Event :=
  ((deliver fewRules ⟨none, none⟩ (rs "hello") ⟨5000, 180000⟩ 1).play
    (scripted [rs "❯ ", rs "Allow?\n❯ hello", rs "❯ "]) []).2

theorem deliver_entersClear_iff_promptOpens : ¬EntersClear fewRules promptOpens := by
  intro hclear
  refine (deliver_entersClear_iff (runs_play _ _ [])).mp hclear
    ⟨rs "Allow?\n❯ hello", true, [sawScreen (rs "❯ ")], ⟨promptOpens.take 3, rfl⟩, ?_, ?_, ?_⟩
  · rintro ⟨hpolicy, -, -⟩
    exact absurd hpolicy (by decide)
  · decide
  · decide

theorem promptOpens_entered : ¬∀ rules selector text opts fuel result history,
    Runs (deliver rules selector text opts fuel) [] result history →
    EntersClear rules history := by
  intro hclear
  obtain ⟨screen, hlast, hscreen⟩ := hclear fewRules ⟨none, none⟩ (rs "hello") ⟨5000, 180000⟩ 1 _ _
    (runs_play (scripted [rs "❯ ", rs "Allow?\n❯ hello", rs "❯ "]) _ [])
    (pressed .enter true) (promptOpens.drop 3) ⟨promptOpens.take 2, rfl⟩ rfl
  have hseen : lastScreen (promptOpens.drop 3) = some (rs "Allow?\n❯ hello") := by decide
  obtain rfl := Option.some.inj (hseen.symm.trans hlast)
  exact absurd hscreen (by decide)

end OdinSentinel.Say
