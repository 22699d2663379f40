import OdinSentinel.Say.SingleCopy

/-!
# The clock of a delivery

What the clock of a run shows behind each of its exchanges, and which reads and sleeps
belong to the wait.
-/

namespace OdinSentinel.Say

open RustText Dialogue

variable {history before after : List Event} {time : List Event → Nat}

/-- The answer of the clock. -/
def readingOf : Event → Option UInt64
  | ⟨.elapsedMs, now⟩ => some now
  | _ => none

/-- The readings of the clock, newest first. -/
def readings (history : List Event) : List UInt64 := history.filterMap readingOf

@[simp]
theorem readings_cons_clocked (now : UInt64) (history : List Event) :
    readings (clocked now :: history) = now :: readings history := rfl

theorem readings_append (later earlier : List Event) :
    readings (later ++ earlier) = readings later ++ readings earlier :=
  List.filterMap_append

/-- What a clock shows behind each exchange of a run: it never goes back, and a reading
tells it. -/
structure TellsTime (time : List Event → Nat) (history : List Event) : Prop where
  forward : ∀ event before, event :: before <:+ history → time before ≤ time (event :: before)
  tells : ∀ now before, clocked now :: before <:+ history → now.toNat = time before

/-- No sleep is shorter than what was asked. -/
def SleepsFully (time : List Event → Nat) (history : List Event) : Prop :=
  ∀ ms before, slept ms :: before <:+ history → time before + ms ≤ time (slept ms :: before)

theorem TellsTime.suffix (htells : TellsTime time history) (hsuffix : before <:+ history) :
    TellsTime time before where
  forward := fun event earlier hearlier => htells.forward event earlier (hearlier.trans hsuffix)
  tells := fun now earlier hearlier => htells.tells now earlier (hearlier.trans hsuffix)

theorem SleepsFully.suffix (hsleeps : SleepsFully time history) (hsuffix : before <:+ history) :
    SleepsFully time before :=
  fun ms earlier hearlier => hsleeps ms earlier (hearlier.trans hsuffix)

theorem TellsTime.mono (htells : TellsTime time history) (hsuffix : before <:+ history) :
    time before ≤ time history := by
  induction history with
  | nil => rw [List.suffix_nil.mp hsuffix]
  | cons event rest ih =>
      rcases List.suffix_cons_iff.mp hsuffix with rfl | hsuffix
      · exact Nat.le_refl _
      · calc
          time before ≤ time rest := ih (htells.suffix (List.suffix_cons event rest)) hsuffix
          _ ≤ time (event :: rest) := htells.forward event rest (List.suffix_refl _)

theorem clocked_of_readingOf {event : Event} {now : UInt64} (hreading : readingOf event = some now) :
    event = clocked now := by
  obtain ⟨question, answer⟩ := event
  cases question with
  | elapsedMs =>
      cases hreading
      rfl
  | _ => cases hreading

theorem TellsTime.reading_le (htells : TellsTime time history) {now : UInt64}
    (hmem : now ∈ readings history) : now.toNat ≤ time history := by
  obtain ⟨event, hevent, hreading⟩ := List.mem_filterMap.mp hmem
  obtain rfl := clocked_of_readingOf hreading
  obtain ⟨later, earlier, rfl⟩ := List.append_of_mem hevent
  have hsuffix : clocked now :: earlier <:+ later ++ clocked now :: earlier :=
    List.suffix_append _ _
  rw [htells.tells now earlier hsuffix]
  exact htells.mono ((List.suffix_cons _ _).trans hsuffix)

/-- Of two readings the later one is not smaller. -/
theorem TellsTime.readings_sorted (htells : TellsTime time history) :
    (readings history).Pairwise fun later earlier => earlier ≤ later := by
  induction history with
  | nil => exact List.Pairwise.nil
  | cons event rest ih =>
      have hrest := htells.suffix (List.suffix_cons event rest)
      rw [readings]
      cases hreading : readingOf event with
      | none =>
          rw [List.filterMap_cons_none hreading]
          exact ih hrest
      | some now =>
          obtain rfl := clocked_of_readingOf hreading
          rw [List.filterMap_cons_some hreading]
          apply List.Pairwise.cons _ (ih hrest)
          intro earlier hearlier
          rw [UInt64.le_iff_toNat_le, htells.tells now rest (List.suffix_refl _)]
          exact hrest.reading_le hearlier

theorem TellsTime.first_le (htells : TellsTime time history) {first now : UInt64}
    {later : List UInt64} (hreadings : readings history = later ++ [first])
    (hmem : now ∈ readings history) : first ≤ now := by
  have hsorted := htells.readings_sorted
  rw [hreadings] at hsorted hmem
  rcases List.mem_append.mp hmem with hmem | hmem
  · exact (List.pairwise_append.mp hsorted).2.2 now hmem first (List.mem_singleton_self _)
  · rw [List.mem_singleton.mp hmem]
    exact UInt64.le_refl _

/-! ## The wait -/

/-- The pauses of the wait, each with the reading of the clock that it stands right behind. -/
def pauses : List Event → List (UInt64 × Nat)
  | ⟨.sleep ms, _⟩ :: ⟨.elapsedMs, now⟩ :: before => (now, ms) :: pauses before
  | _ :: before => pauses before
  | [] => []

/-- The sleeps of the wait. -/
def waitingSleeps (history : List Event) : List Nat := (pauses history).map Prod.snd

/-- The reads of the wait, each right behind a pause. -/
def waitingReads : List Event → Nat
  | ⟨.readScreen, _⟩ :: ⟨.sleep _, _⟩ :: ⟨.elapsedMs, _⟩ :: before => waitingReads before + 1
  | _ :: before => waitingReads before
  | [] => 0

/-- The exchanges behind a history go on without the clock. -/
structure Unclocked (before after : List Event) : Prop where
  pauses_eq : pauses after = pauses before
  reads_eq : waitingReads after = waitingReads before
  readings_eq : readings after = readings before

section Phases

variable {rules : PaneRules} {harness flat : RustString} {progress : Progress}

theorem ClearsOverlay.unclocked {result : Verdict Progress}
    (hclears : ClearsOverlay rules progress before result after) : Unclocked before after := by
  cases hclears <;> exact ⟨rfl, rfl, rfl⟩

/-- A send into a queue harness reads the clock before it types. -/
theorem SendsQueued.unclocked {busyAt : UInt64} {outcome : Outcome}
    (hsends : SendsQueued rules harness flat busyAt progress before outcome after) :
    ∃ now, clocked now :: before <:+ after ∧ Unclocked (clocked now :: before) after := by
  have hentered : ∀ now ok event, clocked now :: before <:+ event :: slept 3000 ::
      pressed .enter ok :: slept 1500 :: typed flat true :: clocked now :: before :=
    fun now ok event => ⟨[event, slept 3000, pressed .enter ok, slept 1500, typed flat true], rfl⟩
  cases hsends with
  | sendFailed now => exact ⟨now, List.suffix_cons _ _, rfl, rfl, rfl⟩
  | unreadable now ok => exact ⟨now, hentered now ok _, rfl, rfl, rfl⟩
  | queued now ok raw => exact ⟨now, hentered now ok _, rfl, rfl, rfl⟩
  | unproven now ok raw => exact ⟨now, hentered now ok _, rfl, rfl, rfl⟩

theorem SubmitsStale.unclocked {result : Verdict Progress}
    (hsubmits : SubmitsStale rules progress before result after) : Unclocked before after := by
  cases hsubmits <;> exact ⟨rfl, rfl, rfl⟩

theorem SendsLine.unclocked {outcome : Outcome}
    (hsends : SendsLine rules flat progress before outcome after) : Unclocked before after := by
  cases hsends <;> exact ⟨rfl, rfl, rfl⟩

/-- The readings from the first of a wait on. -/
theorem Waits.readings_eq {pollMs budgetMs busyAt : UInt64} {result : Verdict Progress}
    (hbefore : readings before = [])
    (hwaits : Waits rules pollMs budgetMs busyAt progress (clocked busyAt :: before) result after) :
    ∃ later, readings after = later ++ [busyAt] := by
  obtain ⟨events, hafter, -⟩ := hwaits.unescaped
  refine ⟨readings events, ?_⟩
  rw [hafter, readings_append, readings_cons_clocked, hbefore]

theorem Waits.readings_clocked {pollMs budgetMs busyAt : UInt64} {result : Verdict Progress}
    (hbefore : readings before = [])
    (hwaits : Waits rules pollMs budgetMs busyAt progress (clocked busyAt :: before) result after)
    (now : UInt64) : ∃ later, readings (clocked now :: after) = later ++ [busyAt] := by
  obtain ⟨later, hreadings⟩ := hwaits.readings_eq hbefore
  refine ⟨now :: later, ?_⟩
  rw [readings_cons_clocked, hreadings]
  rfl

end Phases

/-- Nothing of a history has to do with the clock. -/
structure Timeless (history : List Event) : Prop where
  pauses_eq : pauses history = []
  reads_eq : waitingReads history = 0
  readings_eq : readings history = []

theorem Timeless.unclocked (htimeless : Timeless before) (hunclocked : Unclocked before after) :
    Timeless after where
  pauses_eq := hunclocked.pauses_eq.trans htimeless.pauses_eq
  reads_eq := hunclocked.reads_eq.trans htimeless.reads_eq
  readings_eq := hunclocked.readings_eq.trans htimeless.readings_eq

theorem timeless_first (raw : RustString) : Timeless [sawScreen raw] := ⟨rfl, rfl, rfl⟩

theorem Unescaped.suffix (hon : Unescaped before after) : before <:+ after := by
  obtain ⟨events, rfl, -⟩ := hon
  exact List.suffix_append events before

/-! ## A ticking pane -/

/-- How long an exchange takes at least. -/
def durationOf : Event → Nat
  | ⟨.sleep ms, _⟩ => ms
  | _ => 0

/-- Whether a clock tells the time of a history and sleeps fully. -/
def keepsTime (time : List Event → Nat) : List Event → Bool
  | [] => true
  | event :: before =>
      decide (time before + durationOf event ≤ time (event :: before)) &&
        ((readingOf event).all fun now => now.toNat == time before) && keepsTime time before

theorem keepsTime_sound (hkeeps : keepsTime time history = true) :
    TellsTime time history ∧ SleepsFully time history := by
  induction history with
  | nil => exact ⟨⟨(by simp), (by simp)⟩, (by simp [SleepsFully])⟩
  | cons event rest ih =>
      simp only [keepsTime, Bool.and_eq_true, decide_eq_true_eq] at hkeeps
      obtain ⟨⟨hduration, hreading⟩, hrest⟩ := hkeeps
      obtain ⟨htells, hsleeps⟩ := ih hrest
      refine ⟨⟨?_, ?_⟩, ?_⟩
      · intro other before hsuffix
        rcases List.suffix_cons_iff.mp hsuffix with hsame | hsuffix
        · cases hsame
          exact (Nat.le_add_right _ _).trans hduration
        · exact htells.forward other before hsuffix
      · intro now before hsuffix
        rcases List.suffix_cons_iff.mp hsuffix with hsame | hsuffix
        · cases hsame
          exact of_decide_eq_true hreading
        · exact htells.tells now before hsuffix
      · intro ms before hsuffix
        rcases List.suffix_cons_iff.mp hsuffix with hsame | hsuffix
        · cases hsame
          exact hduration
        · exact hsleeps ms before hsuffix

/-- How long a history slept. -/
def sleptMs (history : List Event) : Nat := (history.map durationOf).sum

/-- A pane that shows one screen after the other, with a clock that only sleeps move. -/
def ticking (screens : List RustString) : (question : PaneAsk) → List Event → PaneAnswer question
  | .elapsedMs, history => UInt64.ofNat (sleptMs history)
  | question, history => scripted screens question history

end OdinSentinel.Say
