import OdinSentinel.Say.Keystrokes

/-!
# The read-back behind a delivery

A delivery is reported from the screen that was read behind the last Enter.  Its
echo is looked for as the head of the message, which a blank message has nothing of.
-/

namespace OdinSentinel.Say

open RustText Dialogue

/-! ## What a screen answers -/

/-- A response or a fresh prompt stands behind a line that echoes the head. -/
def AnswersEcho (screen head : RustString) : Prop :=
  ∃ echo response, [echo, response].Sublist (lines screen) ∧ contains echo head = true ∧
    isResponseOrFreshPrompt response = true

theorem contains_nil (text : RustString) : contains text [] = true :=
  (Text.contains_iff text []).mpr List.nil_infix

theorem answeredFrom_nil (all : List RustString) : answeredFrom [] false all = false := by
  induction all with
  | nil => rfl
  | cons line rest ih => simpa [answeredFrom] using ih

/-- A response or a fresh prompt that does not echo the head itself. -/
def responds (head line : RustString) : Bool :=
  isResponseOrFreshPrompt line && !contains line head

theorem answeredFrom_seen {head : RustString} (hhead : head ≠ []) (all : List RustString) :
    answeredFrom head true all = all.any (responds head) := by
  induction all with
  | nil => rfl
  | cons line rest ih =>
      by_cases hecho : contains line head = true
      · simp [answeredFrom, responds, hhead, hecho, ih]
      · by_cases hresponse : isResponseOrFreshPrompt line = true
        · simp [answeredFrom, responds, hecho, hresponse]
        · simp [answeredFrom, responds, hecho, hresponse, ih]

/-- Without an echo so far the echo has to come first. -/
theorem answeredFrom_unseen {head : RustString} (hhead : head ≠ []) (all : List RustString) :
    answeredFrom head false all = true ↔
      ∃ echo response, [echo, response].Sublist all ∧ contains echo head = true ∧
        responds head response = true := by
  induction all with
  | nil => simp [answeredFrom]
  | cons line rest ih =>
      have hpair : ∀ echo response : RustString, [echo, response].Sublist (line :: rest) ↔
          [echo, response].Sublist rest ∨ (echo = line ∧ response ∈ rest) := by
        intro echo response
        simp [List.sublist_cons_iff]
      simp only [hpair]
      by_cases hecho : contains line head = true
      · have hseen : answeredFrom head false (line :: rest) = rest.any (responds head) := by
          simp [answeredFrom, hhead, hecho, answeredFrom_seen]
        rw [hseen, List.any_eq_true]
        constructor
        · rintro ⟨response, hmem, hresponds⟩
          exact ⟨line, response, .inr ⟨rfl, hmem⟩, hecho, hresponds⟩
        · rintro ⟨echo, response, hlater | ⟨-, hmem⟩, -, hresponds⟩
          · exact ⟨response, hlater.subset (by simp), hresponds⟩
          · exact ⟨response, hmem, hresponds⟩
      · have hunseen : answeredFrom head false (line :: rest) = answeredFrom head false rest := by
          simp [answeredFrom, hecho]
        rw [hunseen, ih]
        constructor
        · rintro ⟨echo, response, hlater, hrest⟩
          exact ⟨echo, response, .inl hlater, hrest⟩
        · rintro ⟨echo, response, hlater | ⟨rfl, -⟩, hshown, hresponds⟩
          · exact ⟨echo, response, hlater, hshown, hresponds⟩
          · exact absurd hshown hecho

theorem answered_iff (screen head : RustString) :
    answered screen head = true ↔
      ∃ echo response, [echo, response].Sublist (lines screen) ∧ contains echo head = true ∧
        responds head response = true := by
  by_cases hhead : head = []
  · rw [hhead, answered, answeredFrom_nil]
    simp [responds, contains_nil]
  · exact answeredFrom_unseen hhead (lines screen)

theorem answersEcho_of_answered {screen head : RustString} (hanswered : answered screen head = true) :
    AnswersEcho screen head := by
  obtain ⟨echo, response, hlines, hecho, hresponds⟩ := (answered_iff screen head).mp hanswered
  rw [responds, Bool.and_eq_true] at hresponds
  exact ⟨echo, response, hlines, hecho, hresponds.1⟩

/-! ## What a delivery owes -/

def DeliveryState.isDelivered : DeliveryState → Bool
  | .deliveredAcked => true
  | .deliveredNoAck => true
  | .inputBarOnly => false
  | .paneBlockedOnPermission => false
  | .paneReadFailed => false
  | .paneStillThinking => false
  | .seatCapped => false

/-- The last exchange is a read that gave a screen, behind the last Enter; a message in
its input line has been answered. -/
def ReadBack (flat : RustString) (history : List Event) : Prop :=
  ∃ raw later ok earlier, history = sawScreen raw :: later ++ pressed .enter ok :: earlier ∧
    (∀ event ∈ later, isEnter event = false) ∧
    (inBar (tail14 raw) (messageHead flat) = true →
      AnswersEcho (tail14 raw) (messageHead flat))

/-- A delivered state with what it says: an acknowledged message has a head to be
recognised by, and the last screen shows it. -/
structure Backed (flat : RustString) (state : DeliveryState) (history : List Event) : Prop where
  readBack : ReadBack flat history
  echoed : state = .deliveredAcked → trim (messageHead flat) ≠ [] ∧
    LastShown (fun screen => contains screen (messageHead flat) = true) history

/-- The head is blank, and the last screen contains it while it neither works nor queues. -/
structure EchoesBlank (rules : PaneRules) (flat : RustString) (history : List Event) : Prop where
  blank : trim (messageHead flat) = []
  shown : LastShown (fun screen => busy screen rules = false ∧
    contains screen (rs "queued messages") = false ∧
    contains screen (messageHead flat) = true) history

variable {rules : PaneRules} {selector : HarnessSelector} {progress : Progress}
  {before after history : List Event} {flat harness : RustString} {outcome : Outcome}

theorem verdict_acked_iff (rules : PaneRules) (head : RustString) (progress : Progress) :
    (verdict rules head progress).state = .deliveredAcked ↔
      busy progress.screen rules = false ∧
        contains progress.screen (rs "queued messages") = false ∧
        contains progress.screen head = true := by
  rw [verdict]
  split_ifs with hworking hecho
  · simp only [Bool.or_eq_true] at hworking
    rcases hworking with hbusy | hqueued
    · simp [delivered, hbusy]
    · simp [delivered, hqueued]
  · simp only [Bool.or_eq_true, not_or, Bool.not_eq_true] at hworking
    simp [delivered, hworking, hecho]
  · simp [delivered, hecho]

/-- The verdict on the screen of a read-back is backed unless the echo is blank. -/
theorem backed_verdict_iff {raw : RustString} (hread : ReadBack flat (sawScreen raw :: before))
    (progress : Progress) :
    Backed flat (verdict rules (messageHead flat) { progress with screen := tail14 raw }).state
        (sawScreen raw :: before) ↔
      ¬EchoesBlank rules flat (sawScreen raw :: before) := by
  have hacked := verdict_acked_iff rules (messageHead flat) { progress with screen := tail14 raw }
  have hlast : lastScreen (sawScreen raw :: before) = some (tail14 raw) := rfl
  constructor
  · rintro hbacked ⟨hblank, screen, hscreen, hshown⟩
    obtain rfl := Option.some.inj (hlast.symm.trans hscreen)
    exact (hbacked.echoed (hacked.mpr hshown)).1 hblank
  · intro hechoes
    refine ⟨hread, fun hstate => ⟨fun hblank => ?_, tail14 raw, hlast, (hacked.mp hstate).2.2⟩⟩
    exact hechoes ⟨hblank, tail14 raw, hlast, hacked.mp hstate⟩

/-! ## The runs -/

theorem SendsLine.backed_iff (hsends : SendsLine rules flat progress before outcome after)
    (hdelivered : outcome.state.isDelivered = true) :
    ReadBack flat after ∧ (Backed flat outcome.state after ↔ ¬EchoesBlank rules flat after) := by
  cases hsends with
  | sendFailed => cases hdelivered
  | unreadable => cases hdelivered
  | unreadableAgain => cases hdelivered
  | stuck => cases hdelivered
  | gone ok raw hgone =>
      have hread : ReadBack flat (sawScreen raw :: sendEvents flat ok ++ before) := by
        refine ⟨raw, [slept 3000], ok, slept 1500 :: typed flat true :: before, rfl, by simp, ?_⟩
        intro hbar
        rw [hgone] at hbar
        cases hbar
      exact ⟨hread, backed_verdict_iff hread progress⟩
  | goneAgain ok again raw last _ hgone =>
      have hread : ReadBack flat (sawScreen last :: slept 3000 :: pressed .enter again ::
          sawScreen raw :: sendEvents flat ok ++ before) := by
        refine ⟨last, [slept 3000], again, sawScreen raw :: sendEvents flat ok ++ before, rfl,
          by simp, ?_⟩
        exact fun hbar => answersEcho_of_answered (hgone hbar)
      exact ⟨hread, backed_verdict_iff hread progress⟩

/-- No stop before the send reports a delivery. -/
theorem ClearsOverlay.undelivered
    (hclears : ClearsOverlay rules progress before (.error (some outcome)) after) :
    outcome.state.isDelivered = false := by
  cases hclears with
  | refused => rfl
  | unreadable => rfl
  | stillBlocked => rfl

theorem Waits.undelivered {pollMs budgetMs busyAt : UInt64} {result : Verdict Progress}
    (hwaits : Waits rules pollMs budgetMs busyAt progress before result after)
    (hstop : result = .error (some outcome)) : outcome.state.isDelivered = false := by
  induction hwaits with
  | outOfFuel => cases hstop
  | spent => cases hstop
  | becameIdle => cases hstop
  | unreadable =>
      cases hstop
      rfl
  | becameBlocked =>
      cases hstop
      rfl
  | stillBusy _ _ _ _ _ _ _ _ _ _ ih => exact ih hstop

theorem SendsQueued.undelivered {busyAt : UInt64}
    (hsends : SendsQueued rules harness flat busyAt progress before outcome after) :
    outcome.state.isDelivered = false := by
  cases hsends with
  | sendFailed => rfl
  | unreadable => rfl
  | queued => rfl
  | unproven => rfl

theorem PassesBusy.undelivered {pollMs budgetMs : UInt64}
    (hpasses : PassesBusy rules harness flat pollMs budgetMs progress before
      (.error (some outcome)) after) : outcome.state.isDelivered = false := by
  cases hpasses with
  | queued _ _ _ _ _ hsend => exact hsend.undelivered
  | stopped _ _ _ _ _ hwait => exact hwait.undelivered rfl
  | stillThinking => rfl

theorem SubmitsStale.undelivered
    (hsubmits : SubmitsStale rules progress before (.error (some outcome)) after) :
    outcome.state.isDelivered = false := by
  cases hsubmits with
  | unreadable => rfl
  | becameBlocked => rfl
  | stuck => rfl

theorem StopsEarly.undelivered {opts : DeliveryOptions} {raw : RustString}
    (hstop : StopsEarly rules harness flat opts raw (some outcome) history) :
    outcome.state.isDelivered = false := by
  cases hstop with
  | overlay _ _ hoverlay => exact hoverlay.undelivered
  | busy _ _ _ _ _ hbusy => exact hbusy.undelivered
  | capped => rfl
  | stale _ _ _ _ _ _ _ _ _ hstale => exact hstale.undelivered

/-- In every run of `deliver` that reports a delivery: the last screen was read behind the
last Enter and shows the message gone or answered; and the report is backed by it exactly
unless a blank head passed for an echo. -/
theorem deliver_backed_iff {text : RustString} {opts : DeliveryOptions} {fuel : Nat}
    (hrun : Runs (deliver rules selector text opts fuel) [] (some outcome) history)
    (hdelivered : outcome.state.isDelivered = true) :
    ReadBack (flatten text) history ∧
      (Backed (flatten text) outcome.state history ↔ ¬EchoesBlank rules (flatten text) history) := by
  generalize hresult : some outcome = result at hrun
  cases deliver_cases hrun with
  | unreadable =>
      cases hresult
      cases hdelivered
  | stopped raw stop history _ hstop =>
      obtain ⟨bare, rfl, rfl⟩ := Option.map_eq_some_iff.mp hresult.symm
      exact absurd hdelivered (by simp [hstop.undelivered])
  | sent raw progress bare before history _ _ hsend =>
      cases hresult
      exact hsend.backed_iff hdelivered

/-- A message that is echoed and answered. -/
theorem deliver_backed_iff_answered :
    Backed (rs "hello") .deliveredAcked
      ((deliver fewRules ⟨none, none⟩ (rs "hello") ⟨5000, 180000⟩ 1).play
        (scripted [rs "❯ ", rs "❯ hello\n⏺ done\n❯ "]) []).2 := by
  apply (deliver_backed_iff (runs_play (scripted [rs "❯ ", rs "❯ hello\n⏺ done\n❯ "])
    (deliver fewRules ⟨none, none⟩ (rs "hello") ⟨5000, 180000⟩ 1) []) rfl).2.mpr
  intro hechoes
  exact absurd hechoes.blank (by decide)

/-- An empty message is acknowledged by a pane that shows nothing. -/
theorem emptyMessage_acked : ¬∀ rules selector text opts fuel outcome history,
    Runs (deliver rules selector text opts fuel) [] (some outcome) history →
    outcome.state.isDelivered = true → Backed (flatten text) outcome.state history := by
  intro hbacked
  have hempty := hbacked fewRules ⟨none, none⟩ [] ⟨5000, 180000⟩ 1 _ _
    (runs_play (scripted [[], []])
      (deliver fewRules ⟨none, none⟩ [] ⟨5000, 180000⟩ 1) []) rfl
  exact (hempty.echoed rfl).1 rfl

end OdinSentinel.Say
