import OdinSentinel.Say.Timing
import OdinSentinel.Say.WaitBound

/-!
# The time waited

`waited_ms` of an outcome against the clock of its delivery: the time from the first busy
screen to the decision to send or to refuse, where the clock stands still while the code does
not time it.
-/

namespace OdinSentinel.Say

open RustText Dialogue

variable {rules : PaneRules} {selector : HarnessSelector} {harness flat text : RustString}
variable {progress : Progress} {history before after : List Event} {time : List Event → Nat}

/-! ## The clock -/

/-- The time of a decision: the reading that it stands right behind, or what the clock shows. -/
def decidedAt (time : List Event → Nat) : List Event → Nat
  | ⟨.elapsedMs, now⟩ :: _ => now.toNat
  | history => time history

/-- `waited_ms` is the time from the first busy screen to the decision, or nothing where no
screen was busy. -/
def RecordsWait (rules : PaneRules) (time : List Event → Nat) (outcome : Outcome)
    (history : List Event) : Prop :=
  match firstBusy rules (decision history) with
  | some seen => outcome.waitedMs.toNat = decidedAt time (decision history) - time seen
  | none => outcome.waitedMs = 0

/-- The clock stands still where the code does not time it: before the first reading and behind
the last one, and all the time from the first busy screen to the decision where `waited_ms` is
taken from no reading. -/
def StandsStill (rules : PaneRules) (harness flat : RustString) (time : List Event → Nat)
    (history : List Event) : Prop :=
  ∀ seen, firstBusy rules (decision history) = some seen →
    match timedSpan rules harness flat history with
    | some ends => time seen = ends.1.toNat ∧ decidedAt time (decision history) = ends.2.toNat
    | none => decidedAt time (decision history) = time seen

/-- A decision stands right behind a reading, or the clock is asked. -/
theorem decidedAt_cases (time : List Event → Nat) (history : List Event) :
    (∃ now before, history = clocked now :: before ∧ decidedAt time history = now.toNat) ∨
      decidedAt time history = time history := by
  cases history with
  | nil => exact .inr rfl
  | cons event before =>
      obtain ⟨question, answer⟩ := event
      cases question with
      | elapsedMs => exact .inl ⟨answer, before, rfl, rfl⟩
      | _ => exact .inr rfl

/-- The first busy screen is not later than the decision. -/
theorem TellsTime.le_decidedAt (htells : TellsTime time history) {seen : List Event}
    (hseen : firstBusy rules history = some seen) : time seen ≤ decidedAt time history := by
  obtain ⟨hsuffix, event, earlier, rfl, hshows⟩ := firstBusy_shows hseen
  rcases decidedAt_cases time history with ⟨now, before, rfl, hdecided⟩ | hdecided
  · rw [hdecided, htells.tells now before (List.suffix_refl _)]
    rcases List.suffix_cons_iff.mp hsuffix with hsame | hsuffix
    · cases hsame
      cases hshows
    · exact (htells.suffix (List.suffix_cons _ _)).mono hsuffix
  · rw [hdecided]
    exact htells.mono hsuffix

theorem TellsTime.span_le (htells : TellsTime time history) {ends : UInt64 × UInt64}
    (hends : span history = some ends) :
    ends.1 ≤ ends.2 ∧ ends.2.toNat ≤ decidedAt time history := by
  obtain ⟨first, hfirst, hmapped⟩ := Option.bind_eq_some_iff.mp hends
  obtain ⟨last, hlast, rfl⟩ := Option.map_eq_some_iff.mp hmapped
  obtain ⟨later, hreadings⟩ := List.getLast?_eq_some_iff.mp hfirst
  have hmem : last ∈ readings history := List.mem_of_mem_head? hlast
  refine ⟨htells.first_le hreadings hmem, ?_⟩
  rcases decidedAt_cases time history with ⟨now, before, rfl, hdecided⟩ | hdecided
  · cases hlast
    rw [hdecided]
  · rw [hdecided]
    exact htells.reading_le hmem

/-- What a delivery has timed is the time to its decision exactly where the clock stands still
in between. -/
theorem Times.records_iff {outcome : Outcome}
    (htimes : Times rules harness flat outcome history) (htells : TellsTime time history) :
    RecordsWait rules time outcome history ↔ StandsStill rules harness flat time history := by
  have hdecision := htells.suffix (decision_suffix history)
  have htimed : ∀ ends, timedSpan rules harness flat history = some ends →
      span (decision history) = some ends := by
    intro ends hends
    rw [timedSpan] at hends
    split_ifs at hends
    exact hends
  have hwaited := htimes.waited_eq
  rw [RecordsWait, StandsStill]
  cases hbusy : firstBusy rules (decision history) with
  | none =>
      apply iff_of_true
      · cases hspan : timedSpan rules harness flat history with
        | none =>
            rw [hspan] at hwaited
            exact hwaited
        | some ends =>
            obtain ⟨before, seen, hsuffix, hseen⟩ := htimes.seen ends (htimed ends hspan)
            rw [firstBusy_of_suffix ((List.suffix_cons _ _).trans hsuffix) hseen] at hbusy
            cases hbusy
      · rintro seen ⟨⟩
  | some seen =>
      have hle := hdecision.le_decidedAt hbusy
      simp only [Option.some.injEq, forall_eq']
      cases hspan : timedSpan rules harness flat history with
      | none =>
          rw [hspan] at hwaited
          have hzero : outcome.waitedMs.toNat = 0 := congrArg UInt64.toNat hwaited
          dsimp only
          omega
      | some ends =>
          rw [hspan] at hwaited
          obtain ⟨hforward, hlast⟩ := hdecision.span_le (htimed ends hspan)
          obtain ⟨before, other, hsuffix, hother⟩ := htimes.seen ends (htimed ends hspan)
          rw [firstBusy_of_suffix ((List.suffix_cons _ _).trans hsuffix) hother] at hbusy
          cases hbusy
          have hfirst : time seen ≤ ends.1.toNat := by
            rw [hdecision.tells ends.1 before hsuffix]
            exact (hdecision.suffix ((List.suffix_cons _ _).trans hsuffix)).mono
              (firstBusy_shows hother).1
          have hsub : outcome.waitedMs.toNat = ends.2.toNat - ends.1.toNat := by
            rw [hwaited]
            exact UInt64.toNat_sub_of_le _ _ hforward
          rw [UInt64.le_iff_toNat_le] at hforward
          dsimp only
          omega

/-! ## A decision without a key -/

def isKey : Event → Bool
  | ⟨.sendKey _, _⟩ => true
  | _ => false

def Unpressed (history : List Event) : Prop := ∀ event ∈ history, isKey event = false

/-- What leads to a decision without a key: one screen, or a wait from it to a reading. -/
inductive Prompt (rules : PaneRules) : List Event → Prop
  | unread : Prompt rules [readFailed]
  | first (raw : RustString) : Prompt rules [sawScreen raw]
  | timed {raw : RustString} {busyAt now : UInt64} {later : List UInt64} {rest : List Event}
      (hbusy : busy (tail14 raw) rules = true)
      (hreadings : readings (clocked now :: rest) = later ++ [busyAt])
      (hstart : [clocked busyAt, sawScreen raw] <:+ clocked now :: rest) :
      Prompt rules (clocked now :: rest)

/-- Such a decision is timed on every clock. -/
theorem Prompt.standsStill (hprompt : Prompt rules (decision history))
    (htells : TellsTime time history) (hfails : failsWaiting history = false)
    (hproves : provesQueued rules harness flat history = false) :
    StandsStill rules harness flat time history := by
  have hdecision := htells.suffix (decision_suffix history)
  intro seen hseen
  rw [timedSpan, hfails, hproves]
  revert hprompt hdecision hseen
  generalize decision history = decided
  intro hprompt hdecision hseen
  cases hprompt with
  | unread => cases hseen
  | first raw =>
      obtain ⟨hsuffix, event, before, rfl, -⟩ := firstBusy_shows hseen
      rcases List.suffix_cons_iff.mp hsuffix with hsame | hsuffix
      · rw [hsame]
        rfl
      · cases List.suffix_nil.mp hsuffix
  | @timed raw busyAt now later rest hbusy hreadings hstart =>
      have hfirst : firstBusy rules [sawScreen raw] = some [sawScreen raw] := by
        simp [firstBusy, showsBusy, screenOf, sawScreen, hbusy]
      rw [firstBusy_of_suffix ((List.suffix_cons _ _).trans hstart) hfirst] at hseen
      cases hseen
      rw [Bool.or_self, if_neg Bool.false_ne_true, span_clocked hreadings]
      exact ⟨(hdecision.tells busyAt [sawScreen raw] hstart).symm, rfl⟩

section Unpressed

variable {opts : DeliveryOptions} {raw : RustString} {pollMs budgetMs : UInt64}

theorem ClearsOverlay.unpressed {result : Verdict Progress}
    (hclears : ClearsOverlay rules (firstProgress raw) [sawScreen raw] result after)
    (hunpressed : Unpressed after) :
    after = [sawScreen raw] ∧ ∀ next, result = .ok next → next = firstProgress raw := by
  cases hclears with
  | clear =>
      refine ⟨rfl, ?_⟩
      rintro next ⟨⟩
      rfl
  | refused =>
      refine ⟨rfl, ?_⟩
      rintro next ⟨⟩
  | unreadable _ _ ok => cases hunpressed (pressed .escape ok) (by simp)
  | uncovered _ _ ok => cases hunpressed (pressed .escape ok) (by simp)
  | stillBlocked _ _ ok => cases hunpressed (pressed .escape ok) (by simp)

theorem SubmitsStale.unpressed {result : Verdict Progress}
    (hsubmits : SubmitsStale rules progress before result after) (hunpressed : Unpressed after) :
    after = before := by
  cases hsubmits with
  | fresh => rfl
  | unreadable _ ok => cases hunpressed (pressed .enter ok) (by simp)
  | becameBlocked _ ok => cases hunpressed (pressed .enter ok) (by simp)
  | stuck _ ok => cases hunpressed (pressed .enter ok) (by simp)
  | submitted _ ok => cases hunpressed (pressed .enter ok) (by simp)

theorem Waits.prompt {busyAt : UInt64} {outcome : Outcome}
    (hwaits : Waits rules pollMs budgetMs busyAt progress [clocked busyAt, sawScreen raw]
      (.error (some outcome)) after)
    (hbusy : busy (tail14 raw) rules = true) (hfails : failsWaiting after = false) :
    Prompt rules after := by
  obtain ⟨later, hreadings⟩ := hwaits.readings_eq (timeless_first raw).readings_eq
  have hstart := hwaits.unescaped.suffix
  rcases hwaits.stops rfl with ⟨hfailed, -⟩ | ⟨now, earlier, rfl, -⟩
  · rw [hfails] at hfailed
    cases hfailed
  · exact .timed hbusy hreadings hstart

theorem Waits.prompt_clocked {busyAt : UInt64} {result : Verdict Progress}
    (hwaits : Waits rules pollMs budgetMs busyAt progress [clocked busyAt, sawScreen raw] result
      after) (hbusy : busy (tail14 raw) rules = true) (now : UInt64) :
    Prompt rules (clocked now :: after) := by
  obtain ⟨later, hreadings⟩ := hwaits.readings_clocked (timeless_first raw).readings_eq now
  exact .timed hbusy hreadings (hwaits.unescaped.suffix.trans (List.suffix_cons _ _))

theorem PassesBusy.prompt {result : Verdict Progress}
    (hpasses : PassesBusy rules harness flat pollMs budgetMs (firstProgress raw) [sawScreen raw]
      result after)
    (hclear : blocked (tail14 raw) rules = false) (hfails : failsWaiting after = false)
    (hresult : result ≠ .error none) : Prompt rules (decision after) := by
  have hlooked := firstProgress_looked raw
  cases hpasses with
  | idle => exact .first raw
  | queued hbusy hpolicy busyAt outcome after hsend =>
      obtain ⟨events, now, ok, rfl, hquiet⟩ := hsend.exists_send
      rw [decision_of_sent ok hquiet]
      have hreadings : readings [clocked now, clocked busyAt, sawScreen raw] = [now] ++ [busyAt] :=
        rfl
      exact .timed hbusy hreadings (List.suffix_cons _ _)
  | stopped hbusy hpolicy busyAt stop after hwait =>
      obtain ⟨screen, hafter⟩ := (hwait.leaves (hlooked.clock busyAt) hclear).1
      rw [decision_of_unsent hafter.sends]
      cases stop with
      | none => exact absurd rfl hresult
      | some outcome => exact hwait.prompt hbusy hfails
  | waited hbusy hpolicy busyAt now last middle hwait =>
      obtain ⟨hmiddle, -⟩ := (hwait.leaves (hlooked.clock busyAt) hclear).2 last rfl
      rw [decision_of_unsent (hmiddle.clock now).sends]
      exact hwait.prompt_clocked hbusy now
  | stillThinking hbusy hpolicy busyAt now last middle hwait =>
      obtain ⟨hmiddle, -⟩ := (hwait.leaves (hlooked.clock busyAt) hclear).2 last rfl
      rw [decision_of_unsent (hmiddle.clock now).sends]
      exact hwait.prompt_clocked hbusy now

theorem Unpressed.suffix (hunpressed : Unpressed history) (hsuffix : before <:+ history) :
    Unpressed before :=
  fun event hevent => hunpressed event (hsuffix.subset hevent)

/-- Past the overlay and the busy pane. -/
theorem prompt_of_passed {uncovered : Progress} {history₁ : List Event} {result : Verdict Progress}
    (hoverlay : ClearsOverlay rules (firstProgress raw) [sawScreen raw] (.ok uncovered) history₁)
    (hbusy : PassesBusy rules harness flat pollMs budgetMs uncovered history₁ result history)
    (hunpressed : Unpressed (decision history)) (hfails : failsWaiting history = false)
    (hresult : result ≠ .error none) : Prompt rules (decision history) := by
  obtain ⟨hlooked, hclear⟩ := (hoverlay.leaves (firstProgress_looked raw)).2 uncovered rfl
  have hsuffix := suffix_decision hbusy.unescaped.suffix hlooked.sends
  obtain ⟨rfl, hnext⟩ := hoverlay.unpressed (hunpressed.suffix hsuffix)
  obtain rfl := hnext uncovered rfl
  exact hbusy.prompt hclear hfails hresult

theorem StopsEarly.prompt {outcome : Outcome}
    (hstop : StopsEarly rules harness flat opts raw (some outcome) history)
    (hunpressed : Unpressed (decision history)) (hfails : failsWaiting history = false) :
    Prompt rules (decision history) := by
  cases hstop with
  | overlay stop history hoverlay =>
      obtain ⟨screen, hlooked⟩ := (hoverlay.leaves (firstProgress_looked raw)).1
      rw [decision_of_unsent hlooked.sends] at hunpressed ⊢
      rw [(hoverlay.unpressed hunpressed).1]
      exact .first raw
  | busy stop uncovered history₁ history hoverlay hbusy =>
      exact prompt_of_passed hoverlay hbusy hunpressed hfails (by simp)
  | capped uncovered idle history₁ history hit hoverlay hbusy =>
      exact prompt_of_passed hoverlay hbusy hunpressed hfails (by simp)
  | stale stop uncovered idle history₁ history₂ history hoverlay hbusy hcap hstale =>
      have hunsent := hstale.unsent (timing_of_passed hoverlay hbusy).2
      have hall := hunpressed
      rw [decision_of_unsent hunsent] at hall
      obtain rfl := hstale.unpressed hall
      exact prompt_of_passed hoverlay hbusy hunpressed hfails (by simp)

theorem ReadyToSend.prompt
    (hready : ReadyToSend rules harness flat opts raw progress history)
    (hunpressed : Unpressed history) : Prompt rules history := by
  have hfails := hready.timing.fails
  obtain ⟨uncovered, history₁, idle, history₂, hoverlay, hbusy, -, hstale⟩ := hready.path
  obtain rfl := hstale.unpressed hunpressed
  have hunsent := decision_of_unsent (timing_of_passed hoverlay hbusy).2
  rw [← hunsent] at hunpressed ⊢
  exact prompt_of_passed hoverlay hbusy hunpressed hfails (by simp)

/-- A delivery that presses no key before its decision. -/
theorem Delivers.prompt {result : Option Outcome} {outcome : Outcome}
    (hdelivers : Delivers rules selector text opts result history)
    (hresult : result = some outcome) (hunpressed : Unpressed (decision history))
    (hfails : failsWaiting history = false) : Prompt rules (decision history) := by
  cases hdelivers with
  | unreadable => exact .unread
  | stopped raw stop history hfirst hstop =>
      obtain ⟨stopped, rfl, -⟩ := Option.map_eq_some_iff.mp hresult
      exact hstop.prompt hunpressed hfails
  | sent raw progress outcome before history hfirst hready hsend =>
      obtain ⟨events, ok, rfl, hquiet⟩ := hsend.exists_send
      rw [decision_of_sent ok hquiet] at hunpressed ⊢
      exact hready.prompt hunpressed

end Unpressed

/-- `waited_ms` is the time from the first busy screen to the decision exactly where the clock
stands still while the code does not time it; it need not stand still at all where no key is
pressed before the decision, the pane does not fail to be read while waiting and no queued send
is proven. -/
theorem deliver_waitedMs_iff {rules : PaneRules} {selector : HarnessSelector}
    {text : RustString} {opts : DeliveryOptions} {fuel : Nat} {outcome : Outcome}
    {history : List Event}
    (hrun : Runs (deliver rules selector text opts fuel) [] (some outcome) history)
    {time : List Event → Nat} (htells : TellsTime time history) :
    (RecordsWait rules time outcome history ↔
      StandsStill rules (harnessOf rules selector history) (flatten text) time history) ∧
    (Unpressed (decision history) → failsWaiting history = false →
      provesQueued rules (harnessOf rules selector history) (flatten text) history = false →
      StandsStill rules (harnessOf rules selector history) (flatten text) time history) := by
  have hdelivers := deliver_cases hrun
  constructor
  · exact (hdelivers.times rfl).records_iff htells
  · intro hunpressed hfails hproves
    exact (hdelivers.prompt rfl hunpressed hfails).standsStill htells hfails hproves

/-! ### A wait that is timed, and one that is not -/

theorem deliver_waitedMs_iff_staysBusy :
    RecordsWait fewRules sleptMs (staysBusy.1.get rfl) staysBusy.2 := by
  have hrun : Runs (deliver fewRules ⟨none, none⟩ (rs "hello") ⟨10, 25⟩ 4) []
      (some (staysBusy.1.get rfl)) staysBusy.2 :=
    runs_play (ticking (List.replicate 4 (rs "Working (1s)"))) _ []
  obtain ⟨htells, -⟩ := @keepsTime_sound staysBusy.2 sleptMs (by decide)
  apply (deliver_waitedMs_iff hrun htells).1.mpr
  intro seen hseen
  have hfirst : firstBusy fewRules (decision staysBusy.2) =
      some [sawScreen (rs "Working (1s)")] := rfl
  cases hfirst.symm.trans hseen
  exact ⟨rfl, rfl⟩

/-- A busy pane that cannot be read behind the first pause. -/
def failsBehindPause : Option Outcome × List Event :=
  (deliver fewRules ⟨none, none⟩ (rs "hello") ⟨10, 25⟩ 2).play (ticking [rs "Working (1s)"]) []

/-- It is refused after 10 ms, and its outcome says that it did not wait. -/
theorem failsBehindPause_untimed : ¬∀ rules selector text opts fuel outcome history time,
    Runs (deliver rules selector text opts fuel) [] (some outcome) history →
    TellsTime time history → RecordsWait rules time outcome history := by
  intro hrecords
  have hrun : Runs (deliver fewRules ⟨none, none⟩ (rs "hello") ⟨10, 25⟩ 2) []
      (some (failsBehindPause.1.get rfl)) failsBehindPause.2 :=
    runs_play (ticking [rs "Working (1s)"]) _ []
  obtain ⟨htells, -⟩ := @keepsTime_sound failsBehindPause.2 sleptMs (by decide)
  have hwaited : (0 : Nat) = 10 := hrecords _ _ _ _ _ _ _ _ hrun htells
  cases hwaited

end OdinSentinel.Say
