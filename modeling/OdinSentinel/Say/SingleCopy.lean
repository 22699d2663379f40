import OdinSentinel.Say.EnterSafety
import OdinSentinel.Say.Record

/-!
# One copy of a message

How often a delivery types and presses, on what it does so, and that the outcome
and its record tell whether the text went out.
-/

namespace OdinSentinel.Say

open RustText Dialogue

variable {rules : PaneRules} {selector : HarnessSelector} {policy : MidTurn}
  {history before after : List Event} {flat harness : RustString} {progress : Progress}

/-! ## Escape -/

/-- The history went on without an Escape. -/
def Unescaped (before after : List Event) : Prop :=
  ∃ events, after = events ++ before ∧ ∀ event ∈ events, isEscape event = false

theorem Unescaped.refl (history : List Event) : Unescaped history history :=
  ⟨[], rfl, by simp⟩

theorem Unescaped.cons {event : Event} (hon : Unescaped before after)
    (hevent : isEscape event = false) : Unescaped before (event :: after) := by
  obtain ⟨events, rfl, hquiet⟩ := hon
  exact ⟨event :: events, rfl, List.forall_mem_cons.mpr ⟨hevent, hquiet⟩⟩

theorem Unescaped.trans {middle : List Event} (hfirst : Unescaped before middle)
    (hsecond : Unescaped middle after) : Unescaped before after := by
  obtain ⟨early, rfl, hearly⟩ := hfirst
  obtain ⟨late, rfl, hlate⟩ := hsecond
  exact ⟨late ++ early, by simp, List.forall_mem_append.mpr ⟨hlate, hearly⟩⟩

theorem Waits.unescaped {pollMs budgetMs busyAt : UInt64} {result : Verdict Progress}
    (hwaits : Waits rules pollMs budgetMs busyAt progress before result after) :
    Unescaped before after := by
  induction hwaits with
  | outOfFuel progress before => exact .refl before
  | spent progress before now => exact (Unescaped.refl before).cons rfl
  | unreadable progress before => exact (((Unescaped.refl before).cons rfl).cons rfl).cons rfl
  | becameBlocked progress before =>
      exact ((((Unescaped.refl before).cons rfl).cons rfl).cons rfl).cons rfl
  | becameIdle progress before => exact (((Unescaped.refl before).cons rfl).cons rfl).cons rfl
  | stillBusy progress before after now raw result _ _ _ _ ih =>
      refine Unescaped.trans ?_ ih
      exact (((Unescaped.refl before).cons rfl).cons rfl).cons rfl

theorem SendsQueued.unescaped {busyAt : UInt64} {outcome : Outcome}
    (hsends : SendsQueued rules harness flat busyAt progress before outcome after) :
    Unescaped before after := by
  have hentered : ∀ now ok, Unescaped before (slept 3000 :: pressed .enter ok :: slept 1500 ::
      typed flat true :: clocked now :: before) := fun now ok =>
    (((((Unescaped.refl before).cons rfl).cons rfl).cons rfl).cons rfl).cons rfl
  cases hsends with
  | sendFailed now => exact ((Unescaped.refl before).cons rfl).cons rfl
  | unreadable now ok => exact (hentered now ok).cons rfl
  | queued now ok raw => exact (hentered now ok).cons rfl
  | unproven now ok raw => exact (hentered now ok).cons rfl

theorem PassesBusy.unescaped {pollMs budgetMs : UInt64} {result : Verdict Progress}
    (hpasses : PassesBusy rules harness flat pollMs budgetMs progress before result after) :
    Unescaped before after := by
  cases hpasses with
  | idle => exact .refl before
  | queued _ _ busyAt _ _ hsend => exact ((Unescaped.refl before).cons rfl).trans hsend.unescaped
  | stopped _ _ busyAt _ _ hwait => exact ((Unescaped.refl before).cons rfl).trans hwait.unescaped
  | waited _ _ busyAt now last middle hwait =>
      exact (((Unescaped.refl before).cons rfl).trans hwait.unescaped).cons rfl
  | stillThinking _ _ busyAt now last middle hwait =>
      exact (((Unescaped.refl before).cons rfl).trans hwait.unescaped).cons rfl

theorem SubmitsStale.unescaped {result : Verdict Progress}
    (hsubmits : SubmitsStale rules progress before result after) : Unescaped before after := by
  have hentered : ∀ ok, Unescaped before (slept 3000 :: pressed .enter ok :: before) := fun ok =>
    ((Unescaped.refl before).cons rfl).cons rfl
  cases hsubmits with
  | fresh => exact .refl before
  | unreadable _ ok => exact (hentered ok).cons rfl
  | becameBlocked _ ok => exact (hentered ok).cons rfl
  | stuck _ ok => exact (hentered ok).cons rfl
  | submitted _ ok => exact (hentered ok).cons rfl

theorem SendsLine.unescaped {outcome : Outcome}
    (hsends : SendsLine rules flat progress before outcome after) : Unescaped before after := by
  have hentered : ∀ ok, Unescaped before (sendEvents flat ok ++ before) := fun ok =>
    ((((Unescaped.refl before).cons rfl).cons rfl).cons rfl).cons rfl
  have hagain : ∀ ok raw again, Unescaped before
      (slept 3000 :: pressed .enter again :: sawScreen raw :: sendEvents flat ok ++ before) :=
    fun ok raw again => (((hentered ok).cons rfl).cons rfl).cons rfl
  cases hsends with
  | sendFailed => exact (Unescaped.refl before).cons rfl
  | unreadable ok => exact (hentered ok).cons rfl
  | gone ok raw => exact (hentered ok).cons rfl
  | unreadableAgain ok again raw => exact (hagain ok raw again).cons rfl
  | stuck ok again raw last => exact (hagain ok raw again).cons rfl
  | goneAgain ok again raw last => exact (hagain ok raw again).cons rfl

/-- A pane under an overlay that Escape dismisses. -/
def ShowsOverlay (rules : PaneRules) (screen : RustString) : Prop :=
  blocked screen rules = true ∧ contains screen rules.dismissibleOverlay = true

/-- At most one Escape, and that on a dismissible overlay. -/
structure EscapesOnce (rules : PaneRules) (history : List Event) : Prop where
  once : history.countP isEscape ≤ 1
  overlay : Guarded isEscape (LastShown (ShowsOverlay rules)) history

theorem escapesOnce_of_quiet (hquiet : ∀ event ∈ history, isEscape event = false) :
    EscapesOnce rules history := by
  refine ⟨?_, guarded_of_quiet hquiet⟩
  rw [List.countP_eq_zero.mpr fun event hmem => by simp [hquiet event hmem]]
  exact zero_le_one

theorem EscapesOnce.unescaped (honce : EscapesOnce rules before) (hon : Unescaped before after) :
    EscapesOnce rules after := by
  obtain ⟨events, rfl, hquiet⟩ := hon
  refine ⟨?_, (guarded_append hquiet).mpr honce.overlay⟩
  rw [List.countP_append, List.countP_eq_zero.mpr fun event hmem => by simp [hquiet event hmem],
    zero_add]
  exact honce.once

theorem ClearsOverlay.escapesOnce {raw : RustString} {result : Verdict Progress}
    (hclears : ClearsOverlay rules (firstProgress raw) [sawScreen raw] result after) :
    EscapesOnce rules after := by
  have hfirst : EscapesOnce rules [sawScreen raw] := escapesOnce_of_quiet (by simp [isEscape, sawScreen])
  have hescaped : ∀ ok, blocked (tail14 raw) rules = true →
      contains (tail14 raw) rules.dismissibleOverlay = true →
      EscapesOnce rules (slept 1000 :: pressed .escape ok :: [sawScreen raw]) := by
    intro ok hblocked hoverlay
    have honce : EscapesOnce rules (pressed .escape ok :: [sawScreen raw]) :=
      ⟨le_rfl, guarded_cons.mpr ⟨fun _ => ⟨tail14 raw, rfl, hblocked, hoverlay⟩, hfirst.overlay⟩⟩
    exact honce.unescaped ((Unescaped.refl _).cons rfl)
  cases hclears with
  | clear => exact hfirst
  | refused => exact hfirst
  | unreadable hblocked hoverlay ok =>
      exact (hescaped ok hblocked hoverlay).unescaped ((Unescaped.refl _).cons rfl)
  | uncovered hblocked hoverlay ok =>
      exact (hescaped ok hblocked hoverlay).unescaped ((Unescaped.refl _).cons rfl)
  | stillBlocked hblocked hoverlay ok =>
      exact (hescaped ok hblocked hoverlay).unescaped ((Unescaped.refl _).cons rfl)

theorem Delivers.escapesOnce {text : RustString} {opts : DeliveryOptions}
    {result : Option Outcome} (hdelivers : Delivers rules selector text opts result history) :
    EscapesOnce rules history := by
  cases hdelivers with
  | unreadable => exact escapesOnce_of_quiet (by simp [isEscape, readFailed])
  | stopped raw stop history _ hstop =>
      cases hstop with
      | overlay _ _ hoverlay => exact hoverlay.escapesOnce
      | busy _ _ _ _ hoverlay hbusy => exact hoverlay.escapesOnce.unescaped hbusy.unescaped
      | capped _ _ _ _ _ hoverlay hbusy => exact hoverlay.escapesOnce.unescaped hbusy.unescaped
      | stale _ _ _ _ _ _ hoverlay hbusy _ hstale =>
          exact hoverlay.escapesOnce.unescaped (hbusy.unescaped.trans hstale.unescaped)
  | sent raw progress outcome before history _ hready hsend =>
      obtain ⟨_, _, _, _, hoverlay, hbusy, -, hstale⟩ := hready.path
      exact hoverlay.escapesOnce.unescaped
        ((hbusy.unescaped.trans hstale.unescaped).trans hsend.unescaped)

/-! ## Text and Enter -/

/-- At most one text is typed, and that is the flattened message. -/
structure TypesOnce (flat : RustString) (history : List Event) : Prop where
  once : history.countP isSend ≤ 1
  flattened : ∀ event ∈ history, isSend event = true → ∃ ok, event = typed flat ok

/-- At most one Enter is pressed before a text, and that on stale input. -/
structure EntersStale (history : List Event) : Prop where
  once : history.countP isEnter ≤ 1
  stale : Guarded isEnter (LastShown fun screen => staleInput screen = true) history

/-- Behind the text Enter is pressed twice at most, and again only where the input bar
that was read back shows the head of the message. -/
structure EntersBehind (flat : RustString) (later : List Event) : Prop where
  twice : later.countP isEnter ≤ 2
  again : Guarded isEnter (fun past => (∃ enter ∈ past, isEnter enter = true) →
    LastShown (fun screen => inBar screen (messageHead flat) = true) past) later

theorem entersStale_of_quiet (hquiet : ∀ event ∈ history, isEnter event = false) :
    EntersStale history := by
  refine ⟨?_, guarded_of_quiet hquiet⟩
  rw [List.countP_eq_zero.mpr fun event hmem => by simp [hquiet event hmem]]
  exact zero_le_one

theorem entersStale_submitted {screen : RustString} (hlooked : Looked before screen)
    (hstale : staleInput screen = true) (ok : Bool) {event : Event}
    (hevent : isEnter event = false) :
    EntersStale (event :: slept 3000 :: pressed .enter ok :: before) := by
  have hbefore := entersStale_of_quiet hlooked.enters
  have hnone : before.countP isEnter = 0 :=
    List.countP_eq_zero.mpr fun event hmem => by simp [hlooked.enters event hmem]
  constructor
  · simp [List.countP_cons, hevent, hnone]
  · refine guarded_cons.mpr ⟨fun henter => by simp [hevent] at henter, ?_⟩
    refine guarded_cons.mpr ⟨fun henter => Bool.noConfusion henter, ?_⟩
    exact guarded_cons.mpr ⟨fun _ => ⟨screen, hlooked.last, hstale⟩, hbefore.stale⟩

theorem EntersStale.suffix {earlier : List Event} (hstale : EntersStale history)
    (hsuffix : earlier <:+ history) : EntersStale earlier where
  once := hsuffix.sublist.countP_le.trans hstale.once
  stale := fun event past hpast => hstale.stale event past (hpast.trans hsuffix)

theorem OpensLine.entersStale {screen : RustString} (hopens : OpensLine rules history screen) :
    EntersStale history := by
  cases hopens with
  | fresh hlooked => exact entersStale_of_quiet hlooked.enters
  | resubmitted hlooked _ hstale ok => exact entersStale_submitted hlooked hstale ok rfl

theorem verdict_submitted (rules : PaneRules) (head : RustString) (progress : Progress) :
    (verdict rules head progress).submitted = true := by
  rw [verdict]
  split_ifs <;> rfl

theorem entersBehind_readBack (ok : Bool) {event : Event} (hevent : isEnter event = false) :
    EntersBehind flat (event :: [slept 3000, pressed .enter ok, slept 1500]) where
  twice := by simp [List.countP_cons, hevent]
  again := by simp [guarded_cons, guarded_of_quiet, hevent]

/-- What follows the text in a send. -/
theorem SendsLine.exists_behind {outcome : Outcome}
    (hsends : SendsLine rules flat progress before outcome after) :
    ∃ events ok, after = events ++ typed flat ok :: before ∧
      (∀ event ∈ events, isSend event = false) ∧ EntersBehind flat events ∧
      outcome.submitted = ok := by
  have hagain : ∀ ok again raw event, isEnter event = false →
      inBar (tail14 raw) (messageHead flat) = true →
      EntersBehind flat (event :: slept 3000 :: pressed .enter again :: sawScreen raw ::
        [slept 3000, pressed .enter ok, slept 1500]) := by
    intro ok again raw event hevent hbar
    have hshown : LastShown (fun screen => inBar screen (messageHead flat) = true)
        (sawScreen raw :: [slept 3000, pressed .enter ok, slept 1500]) := ⟨_, rfl, hbar⟩
    exact ⟨by simp [List.countP_cons, hevent],
      by simp [guarded_cons, guarded_of_quiet, hevent, hshown]⟩
  cases hsends with
  | sendFailed => exact ⟨[], false, rfl, by simp, ⟨by simp, guarded_of_quiet (by simp)⟩, rfl⟩
  | unreadable ok => exact ⟨_, true, rfl, by simp, entersBehind_readBack ok rfl, rfl⟩
  | gone ok raw =>
      exact ⟨_, true, rfl, by simp, entersBehind_readBack ok rfl, verdict_submitted _ _ _⟩
  | unreadableAgain ok again raw hbar =>
      exact ⟨_, true, rfl, by simp, hagain ok again raw readFailed rfl hbar, rfl⟩
  | stuck ok again raw last hbar =>
      exact ⟨_, true, rfl, by simp, hagain ok again raw (sawScreen last) rfl hbar, rfl⟩
  | goneAgain ok again raw last hbar =>
      exact ⟨_, true, rfl, by simp, hagain ok again raw (sawScreen last) rfl hbar,
        verdict_submitted _ _ _⟩

/-- What follows the text in a mid-turn send. -/
theorem SendsQueued.exists_behind {busyAt : UInt64} {outcome : Outcome}
    (hsends : SendsQueued rules harness flat busyAt progress before outcome after) :
    ∃ events ok now, after = events ++ typed flat ok :: clocked now :: before ∧
      (∀ event ∈ events, isSend event = false) ∧ EntersBehind flat events ∧
      (ok = true → events.countP isEnter = 1) ∧ outcome.submitted = ok := by
  have honce : ∀ ok event, isEnter event = false →
      (event :: [slept 3000, pressed .enter ok, slept 1500]).countP isEnter = 1 :=
    fun ok event hevent => by simp [List.countP_cons, hevent]
  cases hsends with
  | sendFailed now =>
      exact ⟨[], false, now, rfl, by simp, ⟨by simp, guarded_of_quiet (by simp)⟩, by simp, rfl⟩
  | unreadable now ok =>
      exact ⟨_, true, now, rfl, by simp, entersBehind_readBack ok rfl, fun _ => honce ok _ rfl, rfl⟩
  | queued now ok raw =>
      exact ⟨_, true, now, rfl, by simp, entersBehind_readBack ok rfl, fun _ => honce ok _ rfl, rfl⟩
  | unproven now ok raw =>
      exact ⟨_, true, now, rfl, by simp, entersBehind_readBack ok rfl, fun _ => honce ok _ rfl, rfl⟩

/-! ## The whole delivery -/

/-- One copy of the message at most is typed, the keys around it are pressed for their
reasons, and the outcome and its record tell whether it was typed. -/
structure OneCopy (rules : PaneRules) (policy : MidTurn) (flat : RustString)
    (history : List Event) (result : Option Outcome) : Prop where
  types : TypesOnce flat history
  escapes : EscapesOnce rules history
  before : ∀ earlier, earlier <:+ history → (∀ event ∈ earlier, isSend event = false) →
    EntersStale earlier
  behind : ∀ later ok earlier, history = later ++ typed flat ok :: earlier →
    EntersBehind flat later ∧
      (MidTurnSend rules policy earlier → ok = true → later.countP isEnter = 1)
  submitted : ∀ outcome, result = some outcome →
    (outcome.submitted = true ↔ typed flat true ∈ history)
  recorded : ∀ outcome, result = some outcome → ∀ subcommand surface senderRole now,
    ((ProofEntry.forOutcome subcommand surface outcome senderRole now).recordKind =
      recordKindDelivery ↔ outcome.submitted = true)

theorem forOutcome_recordKind (outcome : Outcome) (subcommand surface senderRole now : RustString) :
    (ProofEntry.forOutcome subcommand surface outcome senderRole now).recordKind =
      recordKindDelivery ↔ outcome.submitted = true := by
  have hkinds : recordKindSendRefusal ≠ recordKindDelivery := by decide
  cases hsent : outcome.submitted <;> simp [ProofEntry.forOutcome, hsent, hkinds]

/-- The send of a history with one send is found in one place only. -/
theorem eq_of_one_send {events later earlier : List Event} {ok again : Bool}
    (hevents : ∀ event ∈ events, isSend event = false)
    (hbefore : ∀ event ∈ before, isSend event = false)
    (hsplit : events ++ typed flat ok :: before = later ++ typed flat again :: earlier) :
    later = events ∧ again = ok ∧ earlier = before := by
  induction events generalizing later with
  | nil =>
      cases later with
      | nil =>
          simp only [List.nil_append, List.cons.injEq, typed_inj, true_and] at hsplit
          exact ⟨rfl, hsplit.1.symm, hsplit.2.symm⟩
      | cons first later =>
          have hmem : typed flat again ∈ before := by
            rw [(List.cons.inj hsplit).2]
            simp
          exact absurd (hbefore _ hmem) (by simp)
  | cons event events ih =>
      obtain ⟨hevent, hrest⟩ := List.forall_mem_cons.mp hevents
      cases later with
      | nil =>
          rw [(List.cons.inj hsplit).1] at hevent
          exact absurd hevent (by simp)
      | cons first later =>
          obtain ⟨rfl, htail⟩ := List.cons.inj hsplit
          obtain ⟨rfl, rfl, rfl⟩ := ih hrest htail
          exact ⟨rfl, rfl, rfl⟩

theorem oneCopy_of_unsent {result : Option Outcome} (hescapes : EscapesOnce rules history)
    (hsends : ∀ event ∈ history, isSend event = false) (hstale : EntersStale history)
    (hresult : ∀ outcome, result = some outcome → outcome.submitted = false) :
    OneCopy rules policy flat history result where
  types := by
    refine ⟨?_, fun event hmem hsend => absurd hsend (by simp [hsends event hmem])⟩
    rw [List.countP_eq_zero.mpr fun event hmem => by simp [hsends event hmem]]
    exact zero_le_one
  escapes := hescapes
  before := fun earlier hsuffix _ => hstale.suffix hsuffix
  behind := by
    rintro later ok earlier rfl
    exact absurd (hsends (typed flat ok) (by simp)) (by simp)
  submitted := by
    intro outcome houtcome
    apply iff_of_false
    · simp [hresult outcome houtcome]
    · exact fun hmem => absurd (hsends _ hmem) (by simp)
  recorded := fun outcome _ => forOutcome_recordKind outcome

theorem oneCopy_of_sent {events : List Event} {ok : Bool} {result : Option Outcome}
    (hescapes : EscapesOnce rules (events ++ typed flat ok :: before))
    (hevents : ∀ event ∈ events, isSend event = false)
    (hbefore : ∀ event ∈ before, isSend event = false) (hstale : EntersStale before)
    (hbehind : EntersBehind flat events)
    (hmid : MidTurnSend rules policy before → ok = true → events.countP isEnter = 1)
    (hresult : ∀ outcome, result = some outcome → outcome.submitted = ok) :
    OneCopy rules policy flat (events ++ typed flat ok :: before) result where
  types := by
    constructor
    · have hcount : ∀ list : List Event, (∀ event ∈ list, isSend event = false) →
          list.countP isSend = 0 := fun list hquiet =>
        List.countP_eq_zero.mpr fun event hmem => by simp [hquiet event hmem]
      simp [List.countP_append, List.countP_cons, hcount events hevents, hcount before hbefore]
    · intro event hmem hsend
      rcases List.mem_append.mp hmem with hmem | hmem
      · exact absurd hsend (by simp [hevents event hmem])
      · rcases List.mem_cons.mp hmem with rfl | hmem
        · exact ⟨ok, rfl⟩
        · exact absurd hsend (by simp [hbefore event hmem])
  escapes := hescapes
  before := by
    intro earlier hsuffix hunsent
    have hsent : typed flat ok :: before <:+ events ++ typed flat ok :: before :=
      List.suffix_append _ _
    rcases List.suffix_or_suffix_of_suffix hsent hsuffix with hlater | hearlier
    · exact absurd (hunsent _ (hlater.subset List.mem_cons_self)) (by simp)
    · rcases List.suffix_cons_iff.mp hearlier with rfl | hearlier
      · exact absurd (hunsent _ List.mem_cons_self) (by simp)
      · exact hstale.suffix hearlier
  behind := by
    intro later again earlier hsplit
    obtain ⟨rfl, rfl, rfl⟩ := eq_of_one_send hevents hbefore hsplit
    exact ⟨hbehind, hmid⟩
  submitted := by
    intro outcome houtcome
    rw [hresult outcome houtcome]
    constructor
    · rintro rfl
      simp
    · intro hmem
      rcases List.mem_append.mp hmem with hmem | hmem
      · exact absurd (hevents _ hmem) (by simp)
      · rcases List.mem_cons.mp hmem with hsame | hmem
        · exact (typed_inj.mp hsame).2.symm
        · exact absurd (hbefore _ hmem) (by simp)
  recorded := fun outcome _ => forOutcome_recordKind outcome

theorem deliver_oneCopy {text : RustString} {opts : DeliveryOptions} {fuel : Nat}
    {result : Option Outcome}
    (hrun : Runs (deliver rules selector text opts fuel) [] result history) :
    OneCopy rules (policyOf rules selector history) (flatten text) history result := by
  have hdelivers := deliver_cases hrun
  have hescapes := hdelivers.escapesOnce
  obtain ⟨identity, stop, rfl, hstrokes⟩ := hdelivers.strokes
  have hsame : ∀ {sent : Bool}, (∀ outcome, stop = some outcome → outcome.submitted = sent) →
      ∀ outcome, stop.map (fun outcome : Outcome => { outcome with harness := identity }) =
        some outcome → outcome.submitted = sent := by
    intro sent hstop outcome houtcome
    obtain ⟨bare, hbare, rfl⟩ := Option.map_eq_some_iff.mp houtcome
    exact hstop bare hbare
  cases hstrokes with
  | untouched hsends henters hstop =>
      exact oneCopy_of_unsent hescapes hsends (entersStale_of_quiet henters) (hsame hstop)
  | stale hlooked _ hstale ok event hsend henter hstop =>
      refine oneCopy_of_unsent hescapes ?_ (entersStale_submitted hlooked hstale ok henter)
        (hsame hstop)
      simp only [List.forall_mem_cons]
      exact ⟨hsend, rfl, rfl, hlooked.sends⟩
  | queued hlooked _ _ _ hsends =>
      obtain ⟨events, ok, now, hsplit, hevents, hbehind, honce, hsubmitted⟩ :=
        hsends.exists_behind
      rw [hsplit] at hescapes ⊢
      refine oneCopy_of_sent hescapes hevents (hlooked.clock now).sends
        (entersStale_of_quiet (hlooked.clock now).enters) hbehind (fun _ => honce) (hsame ?_)
      intro outcome houtcome
      cases houtcome
      exact hsubmitted
  | line hopens hsends =>
      obtain ⟨events, ok, hsplit, hevents, hbehind, hsubmitted⟩ := hsends.exists_behind
      rw [hsplit] at hescapes ⊢
      refine oneCopy_of_sent hescapes hevents hopens.unsent hopens.entersStale hbehind
        (fun hmid => absurd hmid hopens.not_midTurn) (hsame ?_)
      intro outcome houtcome
      cases houtcome
      exact hsubmitted

/-- A message that goes out with one Enter more. -/
def twiceEntered : Option Outcome × List Event :=
  (deliver fewRules ⟨none, none⟩ (rs "hello") ⟨5000, 180000⟩ 1).play
    (scripted [rs "❯ ", rs "❯ hello", rs "❯ hello\n⏺ done"]) []

theorem deliver_oneCopy_twiceEntered :
    (∃ outcome, twiceEntered.1 = some outcome ∧ outcome.submitted = true) ∧
      EntersBehind (rs "hello") (twiceEntered.2.take 7) := by
  have hrun := runs_play (scripted [rs "❯ ", rs "❯ hello", rs "❯ hello\n⏺ done"])
    (deliver fewRules ⟨none, none⟩ (rs "hello") ⟨5000, 180000⟩ 1) []
  have honce := deliver_oneCopy hrun
  have hsent : typed (rs "hello") true ∈ twiceEntered.2 := by
    have hsplit : twiceEntered.2 = twiceEntered.2.take 7 ++ typed (rs "hello") true ::
        [sawScreen (rs "❯ ")] := rfl
    rw [hsplit]
    simp
  exact ⟨⟨_, rfl, (honce.submitted _ rfl).mpr hsent⟩,
    (honce.behind (twiceEntered.2.take 7) true [sawScreen (rs "❯ ")] rfl).1⟩

/-- A pane that shows its screens and takes no text. -/
def mute (screens : List RustString) : (question : PaneAsk) → List Event → PaneAnswer question
  | .sendText _, _ => false
  | question, history => scripted screens question history

/-- Where a mid-turn send fails, no Enter follows. -/
theorem muteQueue_unentered : ¬∀ rules selector text opts fuel result history,
    Runs (deliver rules selector text opts fuel) [] result history →
    ∀ later ok earlier, history = later ++ typed (flatten text) ok :: earlier →
      MidTurnSend rules (policyOf rules selector history) earlier →
      later.countP isEnter = 1 := by
  intro hentered
  have hrun := runs_play (mute [rs "Working (1s)"])
    (deliver fewRules ⟨some (rs "pi"), none⟩ (rs "hello") ⟨5000, 180000⟩ 1) []
  have hnone := hentered fewRules ⟨some (rs "pi"), none⟩ (rs "hello") ⟨5000, 180000⟩ 1 _ _ hrun
    [] false [clocked 0, clocked 0, sawScreen (rs "Working (1s)")] rfl
    ⟨by decide, by simp [isEnter, clocked, sawScreen], rs "Working (1s)", by decide, by decide⟩
  exact absurd hnone (by decide)

end OdinSentinel.Say
