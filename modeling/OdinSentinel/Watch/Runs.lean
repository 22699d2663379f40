import OdinSentinel.Watch.Loop

/-!
# Runs of the poll loop

A run is a sequence of polls, each from the state that the one before it left.
-/

namespace OdinSentinel.Watch

open JsText Dialogue Registry

variable {runtime : Runtime} {config : WatchConfig} {startTs : Int} {state : WatchState}
variable {before after : List (Exchange WatchAsk WatchAnswer)}

/-! ## One poll -/

theorem tries_orThrow {Value : Type} {found result : Except Thrown Value} :
    Tries (orThrow found) before result after ↔ result = found ∧ after = before := by
  cases found with
  | ok value => exact tries_pure
  | error thrown => exact tries_throw

/-- A step that may throw, and what follows it. -/
theorem tries_orThrow_bind {Value Next : Type} {found : Except Thrown Value}
    {next : Value → Poll Next} {result : Except Thrown Next} :
    Tries (orThrow found >>= next) before result after ↔
      (∃ value, found = .ok value ∧ Tries (next value) before result after) ∨
      ∃ thrown, found = .error thrown ∧ result = .error thrown ∧ after = before := by
  simp only [tries_bind, tries_orThrow]
  constructor
  · rintro (⟨value, _, ⟨hvalue, rfl⟩, hnext⟩ | ⟨thrown, rfl, hthrown, rfl⟩)
    · exact .inl ⟨value, hvalue.symm, hnext⟩
    · exact .inr ⟨thrown, hthrown.symm, rfl, rfl⟩
  · rintro (⟨value, rfl, hnext⟩ | ⟨thrown, rfl, rfl, rfl⟩)
    · exact .inl ⟨value, before, ⟨rfl, rfl⟩, hnext⟩
    · exact .inr ⟨thrown, rfl, rfl, rfl⟩

/-- A question whose answer may be a throw, and what follows it. -/
theorem tries_ask_orThrow_ok {Value Next : Type} {question : WatchAsk}
    (hanswer : WatchAnswer question = Except Thrown Value) {next : Value → Poll Next}
    {value : Next}
    (htries : Tries (ask question >>= fun answer => orThrow (hanswer ▸ answer) >>= next) before
      (.ok value) after) :
    ∃ answer found, hanswer ▸ answer = .ok found ∧
      Tries (next found) (⟨question, answer⟩ :: before) (.ok value) after := by
  obtain ⟨answer, hrest⟩ := tries_request_bind.mp htries
  rcases tries_orThrow_bind.mp hrest with ⟨found, hfound, hnext⟩ | ⟨thrown, -, hthrown, -⟩
  · exact ⟨answer, found, hfound, hnext⟩
  · cases hthrown

/-- A poll wrote one of its files. -/
def Wrote (exchanges : List (Exchange WatchAsk WatchAnswer)) (path : JsString) (content : Content) :
    Prop :=
  ⟨.writeFile path content, .ok ()⟩ ∈ exchanges

/-- The three wake files were written. -/
structure WroteWakeFiles (runtime : Runtime) (config : WatchConfig)
    (exchanges : List (Exchange WatchAsk WatchAnswer)) (wakeState : WakeState) : Prop where
  flag : Wrote exchanges (wakePath runtime config (js "flag"))
    (.text (if wakeState.wake then js "1" else js "0"))
  reason : Wrote exchanges (wakePath runtime config (js "reason"))
    (.text (List.intercalate (js "\n") wakeState.reasonCodes))
  state : Wrote exchanges (wakePath runtime config (js "state.json")) (.state wakeState)

/-- What is written stays written. -/
theorem WroteWakeFiles.append {exchanges : List (Exchange WatchAsk WatchAnswer)}
    {wakeState : WakeState} (hwrote : WroteWakeFiles runtime config exchanges wakeState)
    (others : List (Exchange WatchAsk WatchAnswer)) :
    WroteWakeFiles runtime config (others ++ exchanges) wakeState :=
  ⟨List.mem_append_right _ hwrote.flag, List.mem_append_right _ hwrote.reason,
    List.mem_append_right _ hwrote.state⟩

theorem writeWakeFiles_ok {wakeState : WakeState}
    (htries : Tries (writeWakeFiles runtime config wakeState) before (.ok ()) after) :
    WroteWakeFiles runtime config after wakeState := by
  obtain ⟨_, ⟨⟩, _, htries⟩ := tries_ask_orThrow_ok rfl htries
  obtain ⟨flag, ⟨⟩, hflag, htries⟩ := tries_ask_orThrow_ok rfl htries
  obtain ⟨reason, ⟨⟩, hreason, htries⟩ := tries_ask_orThrow_ok rfl htries
  obtain ⟨written, ⟨⟩, hstate, htries⟩ := tries_ask_orThrow_ok rfl htries
  obtain rfl : flag = .ok () := hflag
  obtain rfl : reason = .ok () := hreason
  obtain rfl : written = .ok () := hstate
  obtain ⟨others, rfl⟩ := Runs.exists_append htries
  apply WroteWakeFiles.append
  constructor
  · exact List.mem_cons_of_mem _ (List.mem_cons_of_mem _ List.mem_cons_self)
  · exact List.mem_cons_of_mem _ List.mem_cons_self
  · exact List.mem_cons_self

theorem publish_ok {loopStart : Int} {observation : Observation} {result : ClassifierResult}
    {wakeState : WakeState}
    (htries : Tries (publish runtime config state loopStart observation result) before
      (.ok wakeState) after) :
    WroteWakeFiles runtime config after wakeState ∧
    ∃ ts due, isoDate runtime (.ofInt loopStart) = .ok ts ∧
      isoDate runtime ((JsNumber.ofInt loopStart).plus config.mandatoryAuditIntervalMs) = .ok due ∧
      wakeState = buildWakeState config state observation result ts due := by
  rcases tries_orThrow_bind.mp htries with ⟨ts, hts, htries⟩ | ⟨thrown, -, ⟨⟩, -⟩
  rcases tries_orThrow_bind.mp htries with ⟨due, hdue, htries⟩ | ⟨thrown, -, ⟨⟩, -⟩
  rcases tries_bind.mp htries with ⟨_, history, hwritten, hlast⟩ | ⟨thrown, ⟨⟩, -⟩
  obtain ⟨hsame, rfl⟩ := tries_pure.mp hlast
  cases hsame
  exact ⟨writeWakeFiles_ok hwritten, ts, due, hts, hdue, rfl⟩

/-- The verdict of a poll. -/
def resultOf (config : WatchConfig) (startTs : Int) (state : WatchState) (loopStart : Int)
    (observation : Observation) : ClassifierResult :=
  classify (classifierInput config startTs state loopStart observation)

/-- What a poll makes of the state. -/
inductive PollStep (runtime : Runtime) (config : WatchConfig) (startTs : Int) (state : WatchState)
    (exchanges : List (Exchange WatchAsk WatchAnswer)) : PollReport → Prop
  | unclassified (loopStart : Int) (thrown : Thrown) :
      PollStep runtime config startTs state exchanges
        { loopStart, outcome := .unclassified thrown, after := state }
  | unpublished (loopStart : Int) (observation : Observation) (thrown : Thrown) :
      PollStep runtime config startTs state exchanges {
        loopStart
        outcome := .unpublished observation thrown
        after := state.audited loopStart (resultOf config startTs state loopStart observation) }
  | completed (loopStart : Int) (observation : Observation) (ts due : JsString)
      (hts : isoDate runtime (.ofInt loopStart) = .ok ts)
      (hdue : isoDate runtime ((JsNumber.ofInt loopStart).plus config.mandatoryAuditIntervalMs) =
        .ok due)
      (hwrote : WroteWakeFiles runtime config exchanges (buildWakeState config state observation
        (resultOf config startTs state loopStart observation) ts due)) :
      PollStep runtime config startTs state exchanges {
        loopStart
        outcome := .completed observation (buildWakeState config state observation
          (resultOf config startTs state loopStart observation) ts due)
        after := {
          state.audited loopStart (resultOf config startTs state loopStart observation) with
          prevHash := some observation.snapshot.hash
          lastVerdictState :=
            some (resultOf config startTs state loopStart observation).verdict } }

theorem pollOnce_step {report : PollReport}
    (hruns : Runs (pollOnce runtime config startTs state) before report after) :
    PollStep runtime config startTs state after report := by
  obtain ⟨loopStart, _, hnow, hruns⟩ := runs_bind.mp hruns
  obtain ⟨observed, _, hobserve, hruns⟩ := runs_bind.mp hruns
  cases observed with
  | error thrown =>
      obtain ⟨rfl, rfl⟩ := runs_pure.mp hruns
      exact .unclassified loopStart thrown
  | ok observation =>
      obtain ⟨published, _, hpublish, hruns⟩ := runs_bind.mp hruns
      cases published with
      | error thrown =>
          obtain ⟨rfl, rfl⟩ := runs_pure.mp hruns
          exact .unpublished loopStart observation thrown
      | ok wakeState =>
          obtain ⟨rfl, rfl⟩ := runs_pure.mp hruns
          obtain ⟨hwrote, ts, due, hts, hdue, rfl⟩ := publish_ok hpublish
          exact .completed loopStart observation ts due hts hdue hwrote

/-! ## Runs -/

/-- A poll of a run. -/
structure Polled where
  before : WatchState
  report : PollReport
  exchanges : List (Exchange WatchAsk WatchAnswer)

/-- What a poll hands to the classifier. -/
def Polled.input (config : WatchConfig) (startTs : Int) (poll : Polled)
    (observation : Observation) : ClassifierInput :=
  classifierInput config startTs poll.before poll.report.loopStart observation

/-- The polls of a run, newest first, and the state behind them. -/
inductive WatchRun (runtime : Runtime) (config : WatchConfig) (startTs : Int) :
    List Polled → WatchState → Prop
  | start : WatchRun runtime config startTs [] .initial
  | poll {polls : List Polled} {state : WatchState} {report : PollReport}
      {exchanges : List (Exchange WatchAsk WatchAnswer)}
      (hrun : WatchRun runtime config startTs polls state)
      (hpoll : Runs (pollOnce runtime config startTs state) [] report exchanges) :
      WatchRun runtime config startTs ({ before := state, report, exchanges } :: polls)
        report.after

/-- A run up to one of its polls. -/
theorem WatchRun.upTo {polls : List Polled} (hrun : WatchRun runtime config startTs polls state)
    {poll : Polled} {earlier : List Polled} (hpoint : poll :: earlier <:+ polls) :
    WatchRun runtime config startTs earlier poll.before ∧
      PollStep runtime config startTs poll.before poll.exchanges poll.report := by
  induction hrun with
  | start => cases List.suffix_nil.mp hpoint
  | poll hrun hpoll ih =>
      rcases List.suffix_cons_iff.mp hpoint with hsame | hpoint
      · obtain ⟨rfl, rfl⟩ := List.cons.inj hsame
        exact ⟨hrun, pollOnce_step hpoll⟩
      · exact ih hpoint

theorem WatchRun.step_of_mem {polls : List Polled}
    (hrun : WatchRun runtime config startTs polls state) {poll : Polled} (hpoll : poll ∈ polls) :
    PollStep runtime config startTs poll.before poll.exchanges poll.report := by
  obtain ⟨later, earlier, rfl⟩ := List.append_of_mem hpoll
  exact (hrun.upTo (List.suffix_append later _)).2

/-! ## Played runs -/

/-- How an environment answers. -/
abbrev Environment :=
  (question : WatchAsk) → List (Exchange WatchAsk WatchAnswer) → WatchAnswer question

/-- A poll whose questions an environment answers. -/
def playPoll (runtime : Runtime) (config : WatchConfig) (startTs : Int) (state : WatchState)
    (environment : Environment) : Polled where
  before := state
  report := ((pollOnce runtime config startTs state).play environment []).1
  exchanges := ((pollOnce runtime config startTs state).play environment []).2

theorem WatchRun.playPoll {polls : List Polled}
    (hrun : WatchRun runtime config startTs polls state) (environment : Environment) :
    WatchRun runtime config startTs
      (Watch.playPoll runtime config startTs state environment :: polls)
      (Watch.playPoll runtime config startTs state environment).report.after :=
  .poll hrun (runs_play environment _ _)

/-- The run in which each poll has its own environment, newest first. -/
def playPolls (runtime : Runtime) (config : WatchConfig) (startTs : Int) :
    List Environment → List Polled × WatchState
  | [] => ([], .initial)
  | environment :: earlier =>
      let run := playPolls runtime config startTs earlier
      let poll := playPoll runtime config startTs run.2 environment
      (poll :: run.1, poll.report.after)

theorem watchRun_playPolls (environments : List Environment) :
    WatchRun runtime config startTs (playPolls runtime config startTs environments).1
      (playPolls runtime config startTs environments).2 := by
  induction environments with
  | nil => exact .start
  | cons environment earlier ih => exact ih.playPoll environment

/-- A poll at an instant that finds a screen in a clean repository; its files can be written
or not. -/
def shows (instant : Int) (screen : JsString) (writable : Bool) : Environment :=
  fun question _ =>
    match question with
    | .now => instant
    | .exec command _ =>
        { status := 0, stdout := if command = js "git" then [] else screen, stderr := [] }
    | .makeDir _ => .ok ()
    | .writeFile _ _ => if writable then .ok () else .error { message := js "ENOSPC" }
    | .appendEvent _ _ _ => .ok (.error [])

/-- A runtime that knows the digests of two screens. -/
def screenRuntime : Runtime := plainRuntime
  [(js "one", ⟨js "7692c3ad3540bb803c020b3aee66cd8887123234ea0c6e7143c0add73ff431ed", by decide⟩),
    (js "two", ⟨js "3fc4ccfe745870e2c0d99f71f30ff0656c8dedd41cc1d7d3d376b0dbe685e2f3", by decide⟩)]

/-- A watch every two minutes with an audit every ten. -/
def watchConfig : WatchConfig where
  surface := js "surface:1"
  substrate := .cmux
  writeScope := []
  intervalSeconds := ⟨.ofNat 120, by decide +kernel⟩
  mandatoryAuditSeconds := ⟨.ofNat 600, by decide +kernel⟩
  flagDir := js ".odin/monitor/wake/"
  archiveDir := js ".odin/monitor/cmux/"
  label := js "dev"
  registryBase := js ".odin/registry"
  emission := true

end OdinSentinel.Watch
