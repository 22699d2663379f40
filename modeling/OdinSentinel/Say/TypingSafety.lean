import OdinSentinel.Say.Paths

/-!
# Typing only into a safe pane

The last screen seen before a send is neither blocked nor busy nor capped, but
for the queue harness that is typed into while busy.  Every way to the send
checks that except the one that submits stale input first.
-/

namespace OdinSentinel.Say

open RustText Dialogue

/-! ## What a history shows -/

/-- The last lines of the most recent successful read. -/
def lastScreen (history : List Event) : Option RustString :=
  (history.findSome? screenOf).map tail14

/-- The policy of the harness that the first read of the run identifies. -/
def policyOf (rules : PaneRules) (selector : HarnessSelector) (history : List Event) : MidTurn :=
  let first := ((history.getLast?.bind screenOf).map tail14).getD []
  rules.midTurnFor (identityOf rules selector first).harness

/-- A screen that may be typed into under a policy. -/
structure SafeScreen (rules : PaneRules) (policy : MidTurn) (screen : RustString) : Prop where
  clear : blocked screen rules = false
  idle : busy screen rules = true → policy = .queue
  uncapped : (capped screen rules).isSome = true → busy screen rules = true ∧ policy = .queue

/-- Every exchange of a kind comes where what was before it allows it. -/
def Guarded (kind : Event → Bool) (allowed : List Event → Prop) (history : List Event) : Prop :=
  ∀ event earlier, event :: earlier <:+ history → kind event = true → allowed earlier

/-- Every send of the history is preceded by a safe screen. -/
def TypesSafely (rules : PaneRules) (policy : MidTurn) (history : List Event) : Prop :=
  ∀ send earlier, send :: earlier <:+ history → isSend send = true →
    ∃ screen, lastScreen earlier = some screen ∧ SafeScreen rules policy screen

/-- The screen read behind the Enter that submitted stale input is clear and
fresh, but busy under a refusing policy, or capped. -/
def UncheckedReread (rules : PaneRules) (policy : MidTurn) (history : List Event) : Prop :=
  ∃ raw ok earlier, sawScreen raw :: slept 3000 :: pressed .enter ok :: earlier <:+ history ∧
    (∀ event ∈ earlier, isSend event = false) ∧
    blocked (tail14 raw) rules = false ∧ staleInput (tail14 raw) = false ∧
    ((busy (tail14 raw) rules = true ∧ policy = .refuse) ∨
      ((capped (tail14 raw) rules).isSome = true ∧
        ¬(busy (tail14 raw) rules = true ∧ policy = .queue)))

variable {rules : PaneRules} {selector : HarnessSelector} {policy : MidTurn}
  {history : List Event}

section Guarded

variable {kind : Event → Bool} {allowed : List Event → Prop}

theorem guarded_cons {event : Event} :
    Guarded kind allowed (event :: history) ↔
      (kind event = true → allowed history) ∧ Guarded kind allowed history := by
  constructor
  · intro hguarded
    refine ⟨hguarded event history (List.suffix_refl _), ?_⟩
    exact fun other earlier hsuffix => hguarded other earlier (hsuffix.trans (List.suffix_cons _ _))
  · rintro ⟨hhead, hrest⟩ other earlier hsuffix hkind
    rcases List.suffix_cons_iff.mp hsuffix with hsame | hsuffix
    · cases hsame
      exact hhead hkind
    · exact hrest other earlier hsuffix hkind

theorem guarded_of_quiet (hquiet : ∀ event ∈ history, kind event = false) :
    Guarded kind allowed history := by
  intro event earlier hsuffix hkind
  have hmem := hsuffix.subset List.mem_cons_self
  exact absurd hkind (by simp [hquiet event hmem])

theorem guarded_append {events : List Event} (hquiet : ∀ event ∈ events, kind event = false) :
    Guarded kind allowed (events ++ history) ↔ Guarded kind allowed history := by
  induction events with
  | nil => rfl
  | cons event events ih =>
      rw [List.cons_append, guarded_cons, hquiet event List.mem_cons_self,
        ih fun other hmem => hquiet other (List.mem_cons_of_mem event hmem)]
      simp

end Guarded

theorem typesSafely_cons {event : Event} :
    TypesSafely rules policy (event :: history) ↔
      (isSend event = true →
        ∃ screen, lastScreen history = some screen ∧ SafeScreen rules policy screen) ∧
      TypesSafely rules policy history :=
  guarded_cons

/-- An exchange that is no send keeps a history safe. -/
theorem typesSafely_skip {event : Event} (hevent : isSend event = false) :
    TypesSafely rules policy (event :: history) ↔ TypesSafely rules policy history := by
  simp [typesSafely_cons, hevent]

theorem typesSafely_of_quiet (hquiet : ∀ event ∈ history, isSend event = false) :
    TypesSafely rules policy history :=
  guarded_of_quiet hquiet

theorem not_unchecked_of_quiet (hquiet : ∀ event ∈ history, isEnter event = false) :
    ¬UncheckedReread rules policy history := by
  rintro ⟨raw, ok, earlier, hsuffix, -⟩
  have hmem : pressed .enter ok ∈ history := hsuffix.subset (by simp)
  exact Bool.noConfusion (hquiet _ hmem)

/-- A re-read is unchecked at the head of the history or further back. -/
theorem uncheckedReread_cons {event : Event} :
    UncheckedReread rules policy (event :: history) ↔
      UncheckedReread rules policy history ∨
      ∃ raw ok earlier, event = sawScreen raw ∧
        history = slept 3000 :: pressed .enter ok :: earlier ∧
        (∀ event ∈ earlier, isSend event = false) ∧
        blocked (tail14 raw) rules = false ∧ staleInput (tail14 raw) = false ∧
        ((busy (tail14 raw) rules = true ∧ policy = .refuse) ∨
          ((capped (tail14 raw) rules).isSome = true ∧
            ¬(busy (tail14 raw) rules = true ∧ policy = .queue))) := by
  constructor
  · rintro ⟨raw, ok, earlier, hsuffix, hrest⟩
    rcases List.suffix_cons_iff.mp hsuffix with hsame | hsuffix
    · cases hsame
      exact .inr ⟨raw, ok, earlier, rfl, rfl, hrest⟩
    · exact .inl ⟨raw, ok, earlier, hsuffix, hrest⟩
  · rintro (⟨raw, ok, earlier, hsuffix, hrest⟩ | ⟨raw, ok, earlier, rfl, rfl, hrest⟩)
    · exact ⟨raw, ok, earlier, hsuffix.trans (List.suffix_cons _ _), hrest⟩
    · exact ⟨raw, ok, earlier, List.suffix_refl _, hrest⟩

/-- Behind a send no re-read counts as unchecked. -/
theorem uncheckedReread_cons_of_sent {event : Event}
    (hsent : ∃ send ∈ history, isSend send = true) :
    UncheckedReread rules policy (event :: history) ↔ UncheckedReread rules policy history := by
  rw [uncheckedReread_cons]
  constructor
  · rintro (hback | ⟨raw, ok, earlier, rfl, rfl, hquiet, -⟩)
    · exact hback
    · obtain ⟨send, hmem, hsend⟩ := hsent
      rcases List.mem_cons.mp hmem with rfl | hmem
      · cases hsend
      rcases List.mem_cons.mp hmem with rfl | hmem
      · cases hsend
      · exact absurd hsend (by simp [hquiet send hmem])
  · exact .inl

theorem uncheckedReread_append_of_sent {events : List Event}
    (hsent : ∃ send ∈ history, isSend send = true) :
    UncheckedReread rules policy (events ++ history) ↔ UncheckedReread rules policy history := by
  induction events with
  | nil => rfl
  | cons event events ih =>
      obtain ⟨send, hmem, hsend⟩ := hsent
      rw [List.cons_append, uncheckedReread_cons_of_sent
        ⟨send, List.mem_append_right events hmem, hsend⟩, ih]

theorem typesSafely_append_of_quiet {events : List Event}
    (hquiet : ∀ event ∈ events, isSend event = false) :
    TypesSafely rules policy (events ++ history) ↔ TypesSafely rules policy history :=
  guarded_append hquiet

/-- With one send in a history, everything hangs on what was seen before it. -/
theorem typesSafely_iff_of_sent (rules : PaneRules) (policy : MidTurn) (flat : RustString)
    (ok : Bool) {events before : List Event}
    (hquiet : ∀ event ∈ events, isSend event = false)
    (hbefore : ∀ event ∈ before, isSend event = false) :
    (TypesSafely rules policy (events ++ typed flat ok :: before) ↔
      ∃ screen, lastScreen before = some screen ∧ SafeScreen rules policy screen) ∧
    (UncheckedReread rules policy (events ++ typed flat ok :: before) ↔
      UncheckedReread rules policy before) := by
  constructor
  · rw [typesSafely_append_of_quiet hquiet, typesSafely_cons]
    simp only [typesSafely_of_quiet hbefore, and_true]
    exact ⟨fun hsafe => hsafe rfl, fun hsafe _ => hsafe⟩
  · rw [uncheckedReread_append_of_sent ⟨typed flat ok, List.mem_cons_self, rfl⟩,
      uncheckedReread_cons]
    constructor
    · rintro (hback | ⟨raw, again, earlier, hsame, -⟩)
      · exact hback
      · cases hsame
    · exact .inl

/-! ## The phases before the send -/

/-- Nothing was sent and no Enter pressed so far, and `screen` was seen last. -/
structure Looked (history : List Event) (screen : RustString) : Prop where
  sends : ∀ event ∈ history, isSend event = false
  enters : ∀ event ∈ history, isEnter event = false
  last : lastScreen history = some screen

theorem Looked.unsent {screen : RustString} (hlooked : Looked history screen) :
    TypesSafely rules policy history ∧ ¬UncheckedReread rules policy history :=
  ⟨typesSafely_of_quiet hlooked.sends, not_unchecked_of_quiet hlooked.enters⟩

theorem Looked.read {screen : RustString} (hlooked : Looked history screen)
    (raw : RustString) : Looked (sawScreen raw :: history) (tail14 raw) where
  sends := List.forall_mem_cons.mpr ⟨rfl, hlooked.sends⟩
  enters := List.forall_mem_cons.mpr ⟨rfl, hlooked.enters⟩
  last := rfl

/-- An exchange that is neither a send nor an Enter nor a successful read. -/
theorem Looked.pass {screen : RustString} {event : Event} (hlooked : Looked history screen)
    (hsend : isSend event = false) (henter : isEnter event = false)
    (hscreen : screenOf event = none) : Looked (event :: history) screen where
  sends := List.forall_mem_cons.mpr ⟨hsend, hlooked.sends⟩
  enters := List.forall_mem_cons.mpr ⟨henter, hlooked.enters⟩
  last := by
    rw [lastScreen, List.findSome?_cons, hscreen]
    exact hlooked.last

section Pass

variable {screen : RustString} (hlooked : Looked history screen)
include hlooked

theorem Looked.sleep (ms : Nat) : Looked (slept ms :: history) screen :=
  hlooked.pass rfl rfl rfl

theorem Looked.clock (now : UInt64) : Looked (clocked now :: history) screen :=
  hlooked.pass rfl rfl rfl

theorem Looked.escape (ok : Bool) : Looked (pressed .escape ok :: history) screen :=
  hlooked.pass rfl rfl rfl

theorem Looked.fail : Looked (readFailed :: history) screen :=
  hlooked.pass rfl rfl rfl

end Pass

variable {progress : Progress} {before after : List Event}

/-- What a phase before the send leaves behind: nothing sent, and where it goes
on, the last screen seen is not blocked. -/
def Leaves (rules : PaneRules) (result : Verdict Progress) (after : List Event) : Prop :=
  (∃ screen, Looked after screen) ∧ ∀ next, result = .ok next →
    Looked after next.screen ∧ blocked next.screen rules = false

theorem leaves_error {screen : RustString} {stop : Option Outcome}
    (hlooked : Looked after screen) : Leaves rules (.error stop) after :=
  ⟨⟨screen, hlooked⟩, fun next hnext => by cases hnext⟩

theorem leaves_ok {next : Progress} (hlooked : Looked after next.screen)
    (hclear : blocked next.screen rules = false) : Leaves rules (.ok next) after := by
  refine ⟨⟨_, hlooked⟩, fun other hother => ?_⟩
  cases hother
  exact ⟨hlooked, hclear⟩

theorem ClearsOverlay.leaves {result : Verdict Progress}
    (hclears : ClearsOverlay rules progress before result after)
    (hlooked : Looked before progress.screen) : Leaves rules result after := by
  cases hclears with
  | clear hclear => exact leaves_ok hlooked hclear
  | refused => exact leaves_error hlooked
  | unreadable _ _ ok => exact leaves_error ((hlooked.escape ok).sleep 1000).fail
  | uncovered _ _ ok raw hclear =>
      exact leaves_ok (((hlooked.escape ok).sleep 1000).read raw) hclear
  | stillBlocked _ _ ok raw => exact leaves_error (((hlooked.escape ok).sleep 1000).read raw)

theorem Waits.leaves {pollMs budgetMs busyAt : UInt64} {result : Verdict Progress}
    (hwaits : Waits rules pollMs budgetMs busyAt progress before result after)
    (hlooked : Looked before progress.screen) (hclear : blocked progress.screen rules = false) :
    Leaves rules result after := by
  induction hwaits with
  | outOfFuel progress before => exact leaves_error hlooked
  | spent progress before now => exact leaves_ok (hlooked.clock now) hclear
  | unreadable progress before now =>
      exact leaves_error ((hlooked.clock now).sleep _).fail
  | becameBlocked progress before now later raw =>
      exact leaves_error ((((hlooked.clock now).sleep _).read raw).clock later)
  | becameIdle progress before now raw _ hnextClear =>
      exact leaves_ok (((hlooked.clock now).sleep _).read raw) hnextClear
  | stillBusy progress before after now raw result _ hnextClear _ _ ih =>
      exact ih (((hlooked.clock now).sleep _).read raw) hnextClear

/-- A send into a queue harness has one send, on the screen it was decided on. -/
theorem SendsQueued.exists_send {harness flat : RustString} {busyAt : UInt64}
    {outcome : Outcome}
    (hsends : SendsQueued rules harness flat busyAt progress before outcome after) :
    ∃ events now ok, after = events ++ typed flat ok :: clocked now :: before ∧
      ∀ event ∈ events, isSend event = false := by
  cases hsends with
  | sendFailed now => exact ⟨[], now, false, rfl, by simp⟩
  | unreadable now ok =>
      exact ⟨[readFailed, slept 3000, pressed .enter ok, slept 1500], now, true, rfl,
        by simp [isSend, readFailed, slept, pressed]⟩
  | queued now ok raw =>
      exact ⟨[sawScreen raw, slept 3000, pressed .enter ok, slept 1500], now, true, rfl,
        by simp [isSend, sawScreen, slept, pressed]⟩
  | unproven now ok raw =>
      exact ⟨[sawScreen raw, slept 3000, pressed .enter ok, slept 1500], now, true, rfl,
        by simp [isSend, sawScreen, slept, pressed]⟩

theorem SendsLine.exists_send {flat : RustString} {outcome : Outcome}
    (hsends : SendsLine rules flat progress before outcome after) :
    ∃ events ok, after = events ++ typed flat ok :: before ∧
      ∀ event ∈ events, isSend event = false := by
  cases hsends with
  | sendFailed => exact ⟨[], false, rfl, by simp⟩
  | unreadable ok =>
      exact ⟨[readFailed, slept 3000, pressed .enter ok, slept 1500], true, rfl,
        by simp [isSend, readFailed, slept, pressed]⟩
  | gone ok raw =>
      exact ⟨[sawScreen raw, slept 3000, pressed .enter ok, slept 1500], true, rfl,
        by simp [isSend, sawScreen, slept, pressed]⟩
  | unreadableAgain ok again raw =>
      exact ⟨[readFailed, slept 3000, pressed .enter again, sawScreen raw, slept 3000,
          pressed .enter ok, slept 1500], true, rfl,
        by simp [isSend, readFailed, sawScreen, slept, pressed]⟩
  | stuck ok again raw last =>
      exact ⟨[sawScreen last, slept 3000, pressed .enter again, sawScreen raw, slept 3000,
          pressed .enter ok, slept 1500], true, rfl,
        by simp [isSend, sawScreen, slept, pressed]⟩
  | goneAgain ok again raw last =>
      exact ⟨[sawScreen last, slept 3000, pressed .enter again, sawScreen raw, slept 3000,
          pressed .enter ok, slept 1500], true, rfl,
        by simp [isSend, sawScreen, slept, pressed]⟩

/-- A pane that is passed is idle then; one that is not was either left untouched
or typed into under the queue policy, on a screen that allows it. -/
theorem PassesBusy.outcome {harness flat : RustString} {pollMs budgetMs : UInt64}
    {result : Verdict Progress}
    (hpasses : PassesBusy rules harness flat pollMs budgetMs progress before result after)
    (hlooked : Looked before progress.screen) (hclear : blocked progress.screen rules = false) :
    (∀ next, result = .ok next → Looked after next.screen ∧
      blocked next.screen rules = false ∧ busy next.screen rules = false) ∧
    ((∀ next, result ≠ .ok next) → TypesSafely rules (rules.midTurnFor harness) after ∧
      ¬UncheckedReread rules (rules.midTurnFor harness) after) := by
  cases hpasses with
  | idle hidle =>
      refine ⟨fun next hnext => ?_, fun herror => absurd rfl (herror _)⟩
      cases hnext
      exact ⟨hlooked, hclear, hidle⟩
  | queued hbusy hpolicy busyAt outcome after hsend =>
      refine ⟨fun next hnext => (by cases hnext), fun _ => ?_⟩
      obtain ⟨events, now, ok, rfl, hquiet⟩ := hsend.exists_send
      have hdecided := (hlooked.clock busyAt).clock now
      obtain ⟨hsafe, hunchecked⟩ := typesSafely_iff_of_sent rules (rules.midTurnFor harness)
        flat ok hquiet hdecided.sends
      rw [hsafe, hunchecked]
      exact ⟨⟨progress.screen, hdecided.last, hclear, fun _ => hpolicy,
        fun _ => ⟨hbusy, hpolicy⟩⟩, hdecided.unsent.2⟩
  | stopped _ _ busyAt stop after hwait =>
      refine ⟨fun next hnext => (by cases hnext), fun _ => ?_⟩
      obtain ⟨screen, hafter⟩ := (hwait.leaves (hlooked.clock busyAt) hclear).1
      exact hafter.unsent
  | waited _ _ busyAt now last middle hwait hidle =>
      refine ⟨fun next hnext => ?_, fun herror => absurd rfl (herror _)⟩
      cases hnext
      obtain ⟨hmiddle, hlast⟩ := (hwait.leaves (hlooked.clock busyAt) hclear).2 last rfl
      exact ⟨hmiddle.clock now, hlast, hidle⟩
  | stillThinking _ _ busyAt now last middle hwait =>
      refine ⟨fun next hnext => (by cases hnext), fun _ => ?_⟩
      obtain ⟨hmiddle, -⟩ := (hwait.leaves (hlooked.clock busyAt) hclear).2 last rfl
      exact (hmiddle.clock now).unsent

/-- Enter on stale input stops without a send, or goes on. -/
theorem SubmitsStale.unsent_of_error {stop : Option Outcome}
    (hsubmits : SubmitsStale rules progress before (.error stop) after)
    (hlooked : Looked before progress.screen) :
    TypesSafely rules policy after ∧ ¬UncheckedReread rules policy after := by
  have hsafe : ∀ {ok : Bool} {event : Event}, isSend event = false →
      TypesSafely rules policy (event :: slept 3000 :: pressed .enter ok :: before) := by
    intro ok event hevent
    rw [typesSafely_skip hevent, typesSafely_skip rfl, typesSafely_skip rfl]
    exact hlooked.unsent.1
  have hunchecked : ∀ {ok : Bool},
      ¬UncheckedReread rules policy (slept 3000 :: pressed .enter ok :: before) := by
    intro ok hback
    simp only [uncheckedReread_cons, hlooked.unsent.2, false_or] at hback
    rcases hback with ⟨raw, again, earlier, hsame, -⟩ | ⟨raw, again, earlier, hsame, -⟩
    · cases hsame
    · cases hsame
  cases hsubmits with
  | unreadable _ ok =>
      refine ⟨hsafe rfl, fun hback => ?_⟩
      rcases uncheckedReread_cons.mp hback with hback | ⟨raw, again, earlier, hsame, -⟩
      · exact hunchecked hback
      · cases hsame
  | becameBlocked _ ok raw hblocked =>
      refine ⟨hsafe rfl, fun hback => ?_⟩
      rcases uncheckedReread_cons.mp hback with
        hback | ⟨other, again, earlier, hsame, -, -, hclear, -⟩
      · exact hunchecked hback
      · cases hsame
        rw [hblocked] at hclear
        cases hclear
  | stuck _ ok raw _ hstuck =>
      refine ⟨hsafe rfl, fun hback => ?_⟩
      rcases uncheckedReread_cons.mp hback with
        hback | ⟨other, again, earlier, hsame, -, -, -, hfresh, -⟩
      · exact hunchecked hback
      · cases hsame
        rw [hstuck] at hfresh
        cases hfresh

theorem firstProgress_looked (raw : RustString) :
    Looked [sawScreen raw] (firstProgress raw).screen where
  sends := by simp [isSend, sawScreen]
  enters := by simp [isEnter, sawScreen]
  last := rfl

/-- A delivery that stops early has typed nothing, or only what the queue policy allows. -/
theorem StopsEarly.safe {harness flat : RustString} {opts : DeliveryOptions} {raw : RustString}
    {stop : Option Outcome} (hstop : StopsEarly rules harness flat opts raw stop history) :
    TypesSafely rules (rules.midTurnFor harness) history ∧
      ¬UncheckedReread rules (rules.midTurnFor harness) history := by
  have hfirst := firstProgress_looked raw
  cases hstop with
  | overlay stop history hoverlay =>
      obtain ⟨screen, hlooked⟩ := (hoverlay.leaves hfirst).1
      exact hlooked.unsent
  | busy stop uncovered history₁ history hoverlay hbusy =>
      obtain ⟨hlooked, hclear⟩ := (hoverlay.leaves hfirst).2 uncovered rfl
      exact (hbusy.outcome hlooked hclear).2 (by simp)
  | capped uncovered idle history₁ history hit hoverlay hbusy =>
      obtain ⟨hlooked, hclear⟩ := (hoverlay.leaves hfirst).2 uncovered rfl
      exact ((hbusy.outcome hlooked hclear).1 idle rfl).1.unsent
  | stale stop uncovered idle history₁ history₂ history hoverlay hbusy hcap hstale =>
      obtain ⟨hlooked, hclear⟩ := (hoverlay.leaves hfirst).2 uncovered rfl
      exact hstale.unsent_of_error ((hbusy.outcome hlooked hclear).1 idle rfl).1

theorem safeScreen_iff {screen : RustString} (hclear : blocked screen rules = false) :
    SafeScreen rules policy screen ↔
      ¬((busy screen rules = true ∧ policy = .refuse) ∨
        ((capped screen rules).isSome = true ∧ ¬(busy screen rules = true ∧ policy = .queue))) := by
  constructor
  · rintro hsafe (⟨hbusy, hpolicy⟩ | ⟨hcap, hnot⟩)
    · rw [hsafe.idle hbusy] at hpolicy
      cases hpolicy
    · exact hnot (hsafe.uncapped hcap)
  · intro hnot
    refine ⟨hclear, fun hbusy => ?_, fun hcap => ?_⟩
    · cases hpolicy : policy with
      | queue => rfl
      | refuse => exact absurd (.inl ⟨hbusy, hpolicy⟩) hnot
    · by_contra hbusy
      exact hnot (.inr ⟨hcap, hbusy⟩)

theorem uncheckedReread_reread {screen raw : RustString} {ok : Bool}
    (hlooked : Looked before screen) (hclear : blocked (tail14 raw) rules = false)
    (hfresh : staleInput (tail14 raw) = false) :
    UncheckedReread rules policy (sawScreen raw :: slept 3000 :: pressed .enter ok :: before) ↔
      (busy (tail14 raw) rules = true ∧ policy = .refuse) ∨
        ((capped (tail14 raw) rules).isSome = true ∧
          ¬(busy (tail14 raw) rules = true ∧ policy = .queue)) := by
  constructor
  · intro hunchecked
    simp only [uncheckedReread_cons, hlooked.unsent.2, false_or] at hunchecked
    rcases hunchecked with (⟨_, _, _, hsame, -⟩ | ⟨_, _, _, hsame, -⟩) |
      ⟨other, again, earlier, hsame, -, -, -, -, hbad⟩
    · cases hsame
    · cases hsame
    · cases hsame
      exact hbad
  · exact fun hbad => ⟨raw, ok, before, List.suffix_refl _, hlooked.sends, hclear, hfresh, hbad⟩

/-- Where stale input was submitted on the way, the send is safe exactly when the
re-read behind it passes the checks that were made before. -/
theorem ReadyToSend.safe {harness flat : RustString} {opts : DeliveryOptions}
    {raw : RustString} {outcome : Outcome}
    (hready : ReadyToSend rules harness flat opts raw progress before)
    (hsend : SendsLine rules flat progress before outcome after) :
    TypesSafely rules (rules.midTurnFor harness) after ↔
      ¬UncheckedReread rules (rules.midTurnFor harness) after := by
  obtain ⟨uncovered, history₁, idle, history₂, hoverlay, hbusy, hcap, hstale⟩ := hready.path
  obtain ⟨hlooked, hclear⟩ := (hoverlay.leaves (firstProgress_looked raw)).2 uncovered rfl
  obtain ⟨hidle, hidleClear, hnotBusy⟩ := (hbusy.outcome hlooked hclear).1 idle rfl
  obtain ⟨events, ok, rfl, hquiet⟩ := hsend.exists_send
  cases hstale with
  | fresh =>
      obtain ⟨hsafe, hunchecked⟩ := typesSafely_iff_of_sent rules (rules.midTurnFor harness)
        flat ok hquiet hidle.sends
      rw [hsafe, hunchecked]
      have hscreen : SafeScreen rules (rules.midTurnFor harness) progress.screen :=
        ⟨hidleClear, by simp [hnotBusy], by simp [hcap]⟩
      exact iff_of_true ⟨progress.screen, hidle.last, hscreen⟩ hidle.unsent.2
  | submitted _ pressedOk reread hrereadClear hfresh =>
      have hsends : ∀ event ∈ sawScreen reread :: slept 3000 :: pressed .enter pressedOk ::
          history₂, isSend event = false := by
        simpa [isSend, sawScreen, slept, pressed] using hidle.sends
      obtain ⟨hsafe, hunchecked⟩ := typesSafely_iff_of_sent rules (rules.midTurnFor harness)
        flat ok hquiet hsends
      rw [hsafe, hunchecked, uncheckedReread_reread hidle hrereadClear hfresh,
        ← safeScreen_iff hrereadClear]
      constructor
      · rintro ⟨screen, hscreen, hsafe⟩
        cases hscreen
        exact hsafe
      · exact fun hsafe => ⟨_, rfl, hsafe⟩

/-- In every run of `deliver`: all text is typed into safe panes exactly when no
screen read behind the Enter on stale input is one that the earlier checks would
have refused. -/
theorem deliver_typesSafely_iff {text : RustString} {opts : DeliveryOptions} {fuel : Nat}
    {result : Option Outcome}
    (hrun : Runs (deliver rules selector text opts fuel) [] result history) :
    TypesSafely rules (policyOf rules selector history) history ↔
      ¬UncheckedReread rules (policyOf rules selector history) history := by
  have hpolicy : ∀ {raw : RustString}, (∃ events, history = events ++ [sawScreen raw]) →
      policyOf rules selector history =
        rules.midTurnFor (identityOf rules selector (tail14 raw)).harness := by
    rintro raw ⟨events, rfl⟩
    simp [policyOf, screenOf, sawScreen]
  cases deliver_cases hrun with
  | unreadable =>
      exact iff_of_true (typesSafely_of_quiet (by simp [isSend, readFailed]))
        (not_unchecked_of_quiet (by simp [isEnter, readFailed]))
  | stopped raw stop history hfirst hstop =>
      rw [hpolicy hfirst]
      exact iff_of_true hstop.safe.1 hstop.safe.2
  | sent raw progress outcome before history hfirst hready hsend =>
      rw [hpolicy hfirst]
      exact hready.safe hsend

/-- Text stands in the input bar; submitting it sets the harness to work. -/
def staleThenBusy : List Event :=
  ((deliver fewRules ⟨none, none⟩ (rs "hello") ⟨5000, 180000⟩ 1).play
    (scripted [rs "❯ old", rs "Working (1s)"]) []).2

theorem deliver_typesSafely_iff_staleThenBusy :
    ¬TypesSafely fewRules (policyOf fewRules ⟨none, none⟩ staleThenBusy) staleThenBusy := by
  intro hsafe
  refine (deliver_typesSafely_iff (runs_play _ _ [])).mp hsafe
    ⟨rs "Working (1s)", true, staleThenBusy.drop 8, ⟨staleThenBusy.take 5, rfl⟩, ?_, ?_, ?_, ?_⟩
  · have hfirst : staleThenBusy.drop 8 = [sawScreen (rs "❯ old")] := rfl
    simp [hfirst, isSend, sawScreen]
  · decide
  · decide
  · decide

theorem staleThenBusy_typed : ¬∀ rules selector text opts fuel result history,
    Runs (deliver rules selector text opts fuel) [] result history →
    TypesSafely rules (policyOf rules selector history) history := by
  intro hsafe
  obtain ⟨screen, hlast, hscreen⟩ := hsafe fewRules ⟨none, none⟩ (rs "hello") ⟨5000, 180000⟩ 1 _ _
    (runs_play (scripted [rs "❯ old", rs "Working (1s)"]) _ []) (typed (rs "hello") true)
    (staleThenBusy.drop 5) ⟨staleThenBusy.take 4, rfl⟩ rfl
  have hseen : lastScreen (staleThenBusy.drop 5) = some (rs "Working (1s)") := by decide
  obtain rfl := Option.some.inj (hseen.symm.trans hlast)
  exact absurd (hscreen.idle (by decide)) (by decide)

end OdinSentinel.Say
