import OdinSentinel.Registry.Guards
import OdinSentinel.Registry.Questions

/-!
# The race for the terminal event

Any number of callers of the terminal guard for one objective.  Each derives the
accounting and then appends under the lock, and only the append is locked: an objective
is blocked twice exactly where an append lands between the read and the append of
another caller.
-/

namespace OdinSentinel.Registry

open JsText Dialogue

variable {runtime : Runtime} {scope objective base : JsString} {fails : FileAsk → Prop}

/-! ## One caller -/

/-- The line of a terminal event of the objective. -/
def IsBlockLine (runtime : Runtime) (objective line : JsString) : Prop :=
  ∃ event, isTerminalBlocked event = true ∧ event.stableObjectiveId.1 = objective ∧
    line = eventLine runtime event ++ [10]

/-- A caller of the guard writes nothing but its line, and it appends that only where the
text that it read last blocks the objective in no way. -/
def RaceRule (runtime : Runtime) (objective : JsString) (past : List FileEvent) :
    FileAsk → Prop
  | .appendLog line => IsBlockLine runtime objective line ∧
      ∃ text, LastRead past text ∧ tally isTerminalBlocked objective (ledger text) = 0
  | question => isWrite question = false

theorem raceRule_of_not_write {past : List FileEvent} {question : FileAsk}
    (hwrite : isWrite question = false) : RaceRule runtime objective past question := by
  cases question with
  | appendLog line => cases hwrite
  | _ => exact hwrite

theorem raceRule_of_passive {past : List FileEvent} {question : FileAsk}
    (hpassive : isPassive question = true) : RaceRule runtime objective past question := by
  apply raceRule_of_not_write
  cases question with
  | makeLock => rfl
  | removeLock => rfl
  | _ => simpa [isPassive] using hpassive

theorem recordBudgetExhaustion_follows (event : RecordBudgetExhaustionInput) (fuel : Nat) :
    Follows (RaceRule runtime objective) (fun _ _ => True) []
      (recordBudgetExhaustion runtime scope objective event base fuel).run := by
  have hderive : Discloses (deriveOverheadAccounting runtime scope objective base) _ :=
    derive_discloses objective (overheadQuery objective) (overheadAccounting objective)
  rw [recordBudgetExhaustion]
  rw [run_bind, follows_bind]
  apply (hderive (RaceRule runtime objective) (fun _ _ => raceRule_of_passive) []).mono
  intro past outcome htold
  cases outcome with
  | error halt => trivial
  | ok judged =>
      cases judged with
      | error rejections => trivial
      | ok accounting =>
          obtain ⟨text, hread, hview⟩ := htold accounting rfl
          obtain ⟨-, rfl⟩ := deriveOf_overhead_iff.mp hview
          dsimp only [ExceptT.bindCont]
          cases hrefusal : terminalRefusal (overheadAccounting objective
              ((ledger text).filter (matchesQuery (overheadQuery objective)))) with
          | some refusal => trivial
          | none =>
              obtain ⟨hclear, hspent⟩ := terminalRefusal_tally_iff.mp hrefusal
              have hlast : LastRead past text := by
                rcases hread with hlast | rfl
                · exact hlast
                · have hzero : tally isCountable objective (ledger []) = 0 := rfl
                  rw [hzero] at hspent
                  exact absurd hspent (by decide)
              have happend : Follows (RaceRule runtime objective) (fun past _ => LastRead past text)
                  past (appendRegistryEvent runtime scope (terminalEvent objective event) base
                    .defaults fuel).run := by
                refine appendRegistryEvent_asks.follows hlast ?_ ?_
                · rintro past question answer (⟨hquestion, -⟩ | ⟨prepared, -, rfl⟩) hlast
                  · exact hlast.cons hquestion answer
                  · exact hlast.cons (by rintro ⟨⟩) answer
                · rintro past question (⟨-, hwrite⟩ | ⟨prepared, hprepared, rfl⟩) hlast
                  · exact raceRule_of_not_write hwrite
                  · obtain ⟨-, haccepted, hline⟩ := prepareAppend_ok hprepared
                    obtain ⟨hblocked, hobjective⟩ := terminalEvent_blocks haccepted
                    exact ⟨⟨prepared.event, hblocked, hobjective, hline⟩, text, hlast, hclear⟩
              refine follows_bind.mpr (happend.mono fun past outcome _ => ?_)
              cases outcome <;> trivial

/-! ## Many callers -/

/-- What one caller passes beside the scope and the objective. -/
structure GuardCall where
  event : RecordBudgetExhaustionInput
  base : JsString
  fuel : Nat

variable {Caller : Type} [DecidableEq Caller]

abbrev RaceHistory (Caller : Type) := History Caller FileAsk FileAnswer

/-- The callers before their first step. -/
def race (runtime : Runtime) (scope objective : JsString) (calls : Caller → GuardCall)
    (disk : Disk) :
    System Caller Disk FileAsk FileAnswer (Except Halt (Judged RecordedExhaustion)) where
  world := disk
  program caller := (recordBudgetExhaustion runtime scope objective (calls caller).event
    (calls caller).base (calls caller).fuel).run

/-- An append that landed. -/
def isLanded : FileEvent → Bool
  | ⟨.appendLog _, .ok _⟩ => true
  | _ => false

/-- How many appends landed. -/
def landed (history : RaceHistory Caller) : Nat := history.countP fun entry => isLanded entry.2

/-- No append lands between the read of a caller and its own append. -/
def Undisturbed (history : RaceHistory Caller) : Prop :=
  ∀ later between earlier caller text line,
    history = later ++ (caller, ⟨.appendLog line, .ok ()⟩) ::
      (between ++ (caller, ⟨.readLog, .ok text⟩) :: earlier) → landed between = 0

section Runs

variable {calls : Caller → GuardCall} {disk : Disk} {history : RaceHistory Caller}
variable {system : System Caller Disk FileAsk FileAnswer (Except Halt (Judged RecordedExhaustion))}

theorem race_follows
    (hrun : Interleaved (Responds fails) (race runtime scope objective calls disk) history system)
    (caller : Caller) :
    Follows (RaceRule runtime objective) (fun _ _ => True) (own caller history)
      (system.program caller) :=
  hrun.follows (fun caller =>
    recordBudgetExhaustion_follows (calls caller).event (calls caller).fuel) caller

theorem race_rule {later earlier : RaceHistory Caller} {caller : Caller} {question : FileAsk}
    {answer : FileAnswer question}
    (hrun : Interleaved (Responds fails) (race runtime scope objective calls disk)
      (later ++ (caller, ⟨question, answer⟩) :: earlier) system) :
    RaceRule runtime objective (own caller earlier) question := by
  obtain ⟨before, after, next, hbefore, hprogram, -⟩ := hrun.step_of_split
  have hfollows := race_follows hbefore caller
  rw [hprogram] at hfollows
  exact hfollows.1

/-- The log holds one more terminal event for each append that landed. -/
theorem race_counts (hwhole : Whole disk.shared.text)
    (hrun : Interleaved (Responds fails) (race runtime scope objective calls disk) history system) :
    Whole system.world.shared.text ∧
      tally isTerminalBlocked objective (ledger system.world.shared.text) =
        tally isTerminalBlocked objective (ledger disk.shared.text) + landed history := by
  induction hrun with
  | nil => exact ⟨hwhole, rfl⟩
  | @step history system caller question next answer after hrun hprogram hanswer ih =>
      obtain ⟨⟨lines, hlines⟩, hcount⟩ := ih
      have hrule := race_follows hrun caller
      rw [hprogram] at hrule
      have hpassed : after.shared = system.world.shared →
          isLanded ⟨question, answer⟩ = false →
          Whole after.shared.text ∧ tally isTerminalBlocked objective (ledger after.shared.text) =
            tally isTerminalBlocked objective (ledger disk.shared.text) +
              landed ((caller, ⟨question, answer⟩) :: history) := by
        intro hshared hidle
        rw [hshared, hcount, landed, landed, List.countP_cons_of_neg (by simp [hidle])]
        exact ⟨⟨lines, hlines⟩, rfl⟩
      cases question with
      | appendLog line =>
          rcases hanswer with ⟨rfl, rfl⟩ | ⟨error, rfl, rfl, -⟩
          · obtain ⟨⟨event, hblocked, hobjective, rfl⟩, -⟩ := hrule.1
            have hafter := hlines.append (@eventLine_whole runtime event)
            have hone : tally isTerminalBlocked objective [event] = 1 := by
              simp [tally, hblocked, hobjective]
            refine ⟨⟨_, hafter⟩, ?_⟩
            change tally isTerminalBlocked objective (ledger (system.world.shared.text ++
              (eventLine runtime event ++ [10]))) = _
            rw [hlines.ledger_append hafter, tally_append, hone, hcount, landed, landed, List.countP_cons_of_pos rfl]
            omega
          · exact hpassed rfl rfl
      | _ =>
          apply hpassed
          · apply (diskRules fails).unwritten hanswer
            exact fun hwrites => absurd (hwrites.symm.trans hrule.1) (by decide)
          · rfl

/-- What a caller read was the log of that moment. -/
theorem race_read {later earlier : RaceHistory Caller} {caller : Caller} {text : JsString}
    (hwhole : Whole disk.shared.text)
    (hrun : Interleaved (Responds fails) (race runtime scope objective calls disk)
      (later ++ (caller, ⟨.readLog, .ok text⟩) :: earlier) system) :
    tally isTerminalBlocked objective (ledger text) =
      tally isTerminalBlocked objective (ledger disk.shared.text) + landed earlier := by
  obtain ⟨before, after, next, hbefore, -, -, hanswer⟩ := hrun.step_of_split
  rcases hanswer with ⟨read, hlog, hsame⟩ | ⟨error, herror, -⟩
  · cases hsame
    have htext : before.world.shared.text = text := by
      rw [Files.text, hlog]
      rfl
    rw [← htext]
    exact (race_counts hwhole hbefore).2
  · cases herror

omit [DecidableEq Caller] in
theorem landed_append (first second : RaceHistory Caller) :
    landed (first ++ second) = landed first + landed second :=
  List.countP_append

omit [DecidableEq Caller] in
/-- The last append that landed, if there is one. -/
theorem exists_last_landed (hlanded : 0 < landed history) :
    ∃ later caller line earlier, history = later ++ (caller, ⟨.appendLog line, .ok ()⟩) :: earlier ∧
      landed later = 0 := by
  induction history with
  | nil => exact absurd hlanded (lt_irrefl 0)
  | cons entry rest ih =>
      obtain ⟨caller, ⟨question, answer⟩⟩ := entry
      cases hkind : isLanded ⟨question, answer⟩ with
      | true =>
          cases question with
          | appendLog line =>
              cases answer with
              | ok done => exact ⟨[], caller, line, rest, rfl, rfl⟩
              | error error => cases hkind
          | _ => cases hkind
      | false =>
          have hskip : landed ((caller, ⟨question, answer⟩) :: rest) = landed rest := by
            rw [landed, landed, List.countP_cons_of_neg (by simp [hkind])]
          obtain ⟨later, actor, line, earlier, rfl, hlater⟩ := ih (hskip ▸ hlanded)
          refine ⟨(caller, ⟨question, answer⟩) :: later, actor, line, earlier, rfl, ?_⟩
          rw [landed, List.countP_cons_of_neg (by simp [hkind])]
          exact hlater

/-- An undisturbed append lands behind none. -/
theorem landed_le_one (hwhole : Whole disk.shared.text)
    (hrun : Interleaved (Responds fails) (race runtime scope objective calls disk) history system)
    (hundisturbed : Undisturbed history) (hlanded : 0 < landed history) :
    tally isTerminalBlocked objective (ledger disk.shared.text) = 0 ∧ landed history = 1 := by
  obtain ⟨later, caller, line, earlier, rfl, hlater⟩ := exists_last_landed hlanded
  obtain ⟨-, text, ⟨after, before, hown, -⟩, hclear⟩ := race_rule hrun
  obtain ⟨between, first, rfl, -⟩ := exists_of_own hown
  have hbetween := hundisturbed later between first caller text line rfl
  have hread : Interleaved (Responds fails) (race runtime scope objective calls disk)
      ((later ++ (caller, ⟨.appendLog line, .ok ()⟩) :: between) ++
        (caller, ⟨.readLog, .ok text⟩) :: first) system := by
    simpa using hrun
  rw [race_read hwhole hread] at hclear
  obtain ⟨hstart, hfirst⟩ := Nat.add_eq_zero_iff.mp hclear
  refine ⟨hstart, ?_⟩
  have hone : ∀ rest : RaceHistory Caller,
      landed ((caller, ⟨.appendLog line, .ok ()⟩) :: rest) = landed rest + 1 :=
    fun rest => List.countP_cons_of_pos rfl
  have hzero : landed ((caller, ⟨.readLog, .ok text⟩) :: first) = landed first :=
    List.countP_cons_of_neg (by simp [isLanded])
  rw [landed_append, hone, landed_append, hzero, hlater, hbetween, hfirst]

/-- An objective is blocked at most once exactly where it is not blocked twice already, and
no caller is disturbed between its read and its append. -/
theorem blockedOnce_iff (hwhole : Whole disk.shared.text)
    (hrun : Interleaved (Responds fails) (race runtime scope objective calls disk) history system) :
    tally isTerminalBlocked objective (ledger system.world.shared.text) ≤ 1 ↔
      tally isTerminalBlocked objective (ledger disk.shared.text) ≤ 1 ∧ Undisturbed history := by
  rw [(race_counts hwhole hrun).2]
  constructor
  · intro honce
    refine ⟨Nat.le_of_add_right_le honce, ?_⟩
    rintro later between earlier caller text line rfl
    have hone : landed ((caller, ⟨.appendLog line, .ok ()⟩) ::
        (between ++ (caller, ⟨.readLog, .ok text⟩) :: earlier)) =
          landed (between ++ (caller, ⟨.readLog, .ok text⟩) :: earlier) + 1 :=
      List.countP_cons_of_pos rfl
    rw [landed_append, hone, landed_append] at honce
    omega
  · rintro ⟨hstart, hundisturbed⟩
    rcases Nat.eq_zero_or_pos (landed history) with hnone | hlanded
    · rwa [hnone, Nat.add_zero]
    · obtain ⟨hclear, hsingle⟩ := landed_le_one hwhole hrun hundisturbed hlanded
      rw [hclear, hsingle]

end Runs

/-! ## Two callers -/

/-- What the guard does once it has derived the accounting. -/
def guardAppend (runtime : Runtime) (scope objective : JsString)
    (event : RecordBudgetExhaustionInput) (base : JsString) (fuel : Nat)
    (accounting : OverheadAccounting) : Talk (Judged RecordedExhaustion) :=
  appendRegistryEvent runtime scope (terminalEvent objective event) base .defaults fuel >>=
    fun appended => pure (appended.map fun appended => .appended appended accounting)

theorem guardAppend_plays {event : RecordBudgetExhaustionInput} {accepted : GovdispEvent}
    (haccepted : validateGovdispEvent runtime (terminalEvent objective event) = .ok accepted)
    (hsafe : isSafeRegistryScope scope = true) (hfits : fits runtime accepted = true) {disk : Disk}
    (hfree : disk.locked = false) (accounting : OverheadAccounting) : ∃ outcome,
    Plays (Responds fails)
      (guardAppend runtime scope objective event base 1 accounting).run disk outcome
      { disk with shared := disk.shared.append (eventLine runtime accepted ++ [10]) } := by
  rcases @prepareAppend_defaults runtime scope base _ _ haccepted with
    ⟨-, -, hprepared⟩ | ⟨hunfit, -⟩
  · have hfirst := @append_plays runtime scope base fails false _ _ disk 0 hprepared hfree
    exact ⟨_, plays_map.mpr ⟨_, hfirst, rfl⟩⟩
  · rw [hunfit hsafe] at hfits
    cases hfits

/-- The rest of the guard behind its derivation. -/
theorem recordBudgetExhaustion_split (event : RecordBudgetExhaustionInput) (fuel : Nat) :
    ∃ next : Judged OverheadAccounting → Talk (Judged RecordedExhaustion),
      recordBudgetExhaustion runtime scope objective event base fuel =
        deriveOverheadAccounting runtime scope objective base >>= next ∧
      ∀ accounting, terminalRefusal accounting = none →
        next (.ok accounting) = guardAppend runtime scope objective event base fuel accounting := by
  refine ⟨_, rfl, fun accounting hrefusal => ?_⟩
  simp only [hrefusal]
  rfl

/-- Twenty-five attempts spend the budget of objective `T-1`. -/
def spentEvents : List GovdispEvent := List.replicate 25 (startedAttempt firstObjective)

def spentDisk : Disk where
  locked := false
  shared := { log := some (joinLines (spentEvents.map (eventLine (plainRuntime [])))), temp := none }

/-- The fields of the terminal event that both callers pass. -/
def blockInput : RecordBudgetExhaustionInput where
  eventId := .string (js "evt-terminal")
  ts := .string (js "2026-01-01T00:00:00.000Z")
  actorRole := .undefined
  contentHashes := .array [.object [(js "path", .string (js "proof.md")), (js "sha256", .string (js "00"))]]

def spentAccounting : OverheadAccounting :=
  overheadAccounting (js "T-1") (spentEvents.filter (matchesQuery (overheadQuery (js "T-1"))))

theorem spent_derived : Plays (Responds Sound)
    (deriveOverheadAccounting (plainRuntime []) (js "wave") (js "T-1") (js "base")).run spentDisk
    (.ok (.ok spentAccounting)) spentDisk := by
  have hderive : Observes (deriveOverheadAccounting (plainRuntime []) (js "wave") (js "T-1")
    (js "base")) _ := derive_observes (js "T-1") (overheadQuery (js "T-1"))
      (overheadAccounting (js "T-1"))
  have hledger : ledger spentDisk.shared.text = spentEvents := ledger_events _
  rw [hderive.plays_iff]
  refine ⟨congrArg Except.ok (Eq.symm ?_), rfl⟩
  refine deriveOf_overhead_iff.mpr ⟨⟨by decide, by decide, readable_events spentEvents⟩, ?_⟩
  rw [hledger]
  rfl

/-- The event that each caller appends. -/
def blockEvent : GovdispEvent := blockedObjective firstObjective

def blockLine : JsString := eventLine (plainRuntime []) blockEvent ++ [10]

theorem block_plays {disk : Disk} (hfree : disk.locked = false) : ∃ outcome,
    Plays (Responds Sound) (guardAppend (plainRuntime []) (js "wave") (js "T-1") blockInput
      (js "base") 1 spentAccounting).run disk outcome
      { disk with shared := disk.shared.append blockLine } := by
  have haccepted : validateGovdispEvent (plainRuntime []) (terminalEvent (js "T-1") blockInput) =
      .ok blockEvent := validateGovdispEvent_ok_iff.mpr (parseGovdispEvent_toJson blockEvent)
  have hfits : fits (plainRuntime []) blockEvent = true := by decide +kernel
  exact guardAppend_plays haccepted (by decide) hfits hfree spentAccounting

/-- Two callers of the guard, each by its flag. -/
def twoCallers : System Bool Disk FileAsk FileAnswer (Except Halt (Judged RecordedExhaustion)) :=
  race (plainRuntime []) (js "wave") (js "T-1")
    (fun _ => { event := blockInput, base := js "base", fuel := 1 }) spentDisk

/-- Both derive the accounting before either appends. -/
theorem twoCallers_block_twice : ∃ history system,
    Interleaved (Responds Sound) twoCallers history system ∧
      tally isTerminalBlocked (js "T-1") (ledger system.world.shared.text) = 2 := by
  obtain ⟨next, hsplit, hnext⟩ := @recordBudgetExhaustion_split (plainRuntime []) (js "wave")
    (js "T-1") (js "base") blockInput 1
  have hrefusal : terminalRefusal spentAccounting = none :=
    terminalRefusal_tally_iff.mpr ⟨by decide, by decide⟩
  have hstart : ∀ caller, twoCallers.program caller =
      (deriveOverheadAccounting (plainRuntime []) (js "wave") (js "T-1") (js "base")).run.bind
        (ExceptT.bindCont next) := fun _ => congrArg ExceptT.run hsplit
  have hrest : ExceptT.bindCont next (.ok (.ok spentAccounting)) =
      (guardAppend (plainRuntime []) (js "wave") (js "T-1") blockInput (js "base") 1
        spentAccounting).run.bind .done := by
    rw [Program.bind_done, ← hnext spentAccounting hrefusal]
    rfl
  have hnil : Interleaved (Responds Sound) twoCallers [] twoCallers := .nil
  obtain ⟨_, hfirst⟩ := hnil.play spent_derived (hstart true)
  have hother := (System.advance_of_ne twoCallers (show false ≠ true by decide)
    (ExceptT.bindCont next (.ok (.ok spentAccounting))) spentDisk).trans (hstart false)
  obtain ⟨_, hsecond⟩ := hfirst.play spent_derived hother
  set derived := (twoCallers.advance true (ExceptT.bindCont next (.ok (.ok spentAccounting)))
    spentDisk).advance false (ExceptT.bindCont next (.ok (.ok spentAccounting))) spentDisk
  have hready : ∀ caller, derived.program caller = (guardAppend (plainRuntime []) (js "wave")
      (js "T-1") blockInput (js "base") 1 spentAccounting).run.bind .done := by
    intro caller
    rw [← hrest]
    cases caller
    · exact System.advance_self _ _ _ _
    · exact (System.advance_of_ne _ (by decide) _ _).trans (System.advance_self _ _ _ _)
  obtain ⟨outcome, hblock⟩ := @block_plays derived.world rfl
  obtain ⟨_, hthird⟩ := hsecond.play hblock (hready true)
  obtain ⟨again, hagain⟩ := @block_plays (derived.advance true (.done outcome)
    { derived.world with shared := derived.world.shared.append blockLine }).world rfl
  obtain ⟨_, hfourth⟩ := hthird.play hagain
    ((System.advance_of_ne _ (by decide) _ _).trans (hready false))
  refine ⟨_, _, hfourth, ?_⟩
  change tally _ _ (ledger ((spentDisk.shared.append blockLine).append blockLine).text) = 2
  have htext : ((spentDisk.shared.append blockLine).append blockLine).text =
      joinLines ((spentEvents ++ [blockEvent, blockEvent]).map (eventLine (plainRuntime []))) := by
    simp [Files.text, Files.append, spentDisk, joinLines, blockLine]
  rw [htext, ledger_events]
  decide

theorem whole_spentDisk : Whole spentDisk.shared.text := ⟨_, hasLines_events spentEvents⟩

theorem blockedOnce_iff_twoCallers : ∃ history system,
    Interleaved (Responds Sound) twoCallers history system ∧
      (tally isTerminalBlocked (js "T-1") (ledger system.world.shared.text) ≤ 1 ↔
        tally isTerminalBlocked (js "T-1") (ledger spentDisk.shared.text) ≤ 1 ∧
          Undisturbed history) := by
  obtain ⟨history, system, hrun, -⟩ := twoCallers_block_twice
  exact ⟨history, system, hrun, blockedOnce_iff whole_spentDisk hrun⟩

/-- Two callers that derive before either appends block their objective twice. -/
theorem guard_races : ¬∀ (fails : FileAsk → Prop) (runtime : Runtime) (scope objective : JsString)
    (calls : Bool → GuardCall) (disk : Disk) (history : RaceHistory Bool)
    (system : System Bool Disk FileAsk FileAnswer (Except Halt (Judged RecordedExhaustion))),
    Whole disk.shared.text →
      tally isTerminalBlocked objective (ledger disk.shared.text) ≤ 1 →
      Interleaved (Responds fails) (race runtime scope objective calls disk) history system →
        tally isTerminalBlocked objective (ledger system.world.shared.text) ≤ 1 := by
  intro hsingle
  obtain ⟨history, system, hrun, htwice⟩ := twoCallers_block_twice
  have hstart : tally isTerminalBlocked (js "T-1") (ledger spentDisk.shared.text) ≤ 1 := by
    have hledger : ledger spentDisk.shared.text = spentEvents := ledger_events _
    rw [hledger]
    decide
  have honce := hsingle Sound _ _ _ _ spentDisk history system whole_spentDisk hstart hrun
  rw [htwice] at honce
  exact absurd honce (by decide)

end OdinSentinel.Registry
