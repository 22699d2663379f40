import OdinSentinel.Send.GovernedSend

/-!
# Arguments of the helper

A flag in front of the arguments that only asks for a dry run, or only for the flattening,
leaves what the others say as it is.
-/

namespace OdinSentinel.Send

open Shell

/-- The options with a dry run asked for, or the flattening alone. -/
def Options.marked (options : Options) (dryRun flattenOnly : Bool) : Options :=
  { options with
    dryRun := options.dryRun || dryRun
    flattenOnly := options.flattenOnly || flattenOnly }

variable (dryRun flattenOnly : Bool)

theorem flag_marked {arg : Bytes} {set : Options → Options} (hset : flag arg = some set)
    (options : Options) :
    set (options.marked dryRun flattenOnly) = (set options).marked dryRun flattenOnly := by
  rw [flag] at hset
  split_ifs at hset <;> cases hset <;> rfl

theorem valueFlag_marked {arg : Bytes} {set : Options → Bytes → Options}
    (hset : valueFlag arg = some set) (options : Options) (value : Bytes) :
    set (options.marked dryRun flattenOnly) value =
      (set options value).marked dryRun flattenOnly := by
  rw [valueFlag] at hset
  split_ifs at hset <;> cases hset <;> rfl

theorem readPlain_marked (arg : Bytes) (options : Options) :
    readPlain arg (options.marked dryRun flattenOnly) =
      (readPlain arg options).map (Options.marked · dryRun flattenOnly) := by
  have hpositional : (options.marked dryRun flattenOnly).positional = options.positional := rfl
  rw [readPlain, readPlain, hpositional]
  split_ifs <;> rfl

/-- The other arguments read the same. -/
theorem parseArgs_marked (args : List Bytes) (options : Options) :
    parseArgs args (options.marked dryRun flattenOnly) =
      (parseArgs args options).map (Options.marked · dryRun flattenOnly) := by
  induction args, options using parseArgs.induct with
  | case1 options => rfl
  | case2 options arg rest set hset ih =>
      rw [parseArgs, parseArgs, hset]
      simp only [flag_marked dryRun flattenOnly hset, ih]
  | case3 options arg hflag set hset =>
      rw [parseArgs, parseArgs, hflag, hset]
      rfl
  | case4 options arg hflag set hset value rest ih =>
      rw [parseArgs, parseArgs, hflag, hset]
      simp only [valueFlag_marked dryRun flattenOnly hset, ih]
  | case5 options arg rest hflag hvalue stop hplain =>
      rw [parseArgs, parseArgs, hflag, hvalue, readPlain_marked, hplain]
      rfl
  | case6 options arg rest hflag hvalue next hplain ih =>
      rw [parseArgs, parseArgs, hflag, hvalue, readPlain_marked, hplain]
      simp only [Except.map, ih]

theorem resolveTarget_marked (options : Options) :
    resolveTarget (options.marked dryRun flattenOnly) =
      (resolveTarget options).map (Options.marked · dryRun flattenOnly) := by
  have htarget : (options.marked dryRun flattenOnly).target = options.target := rfl
  rw [resolveTarget, resolveTarget, htarget]
  split
  · rfl
  · split <;> rfl

theorem resolveProfile_marked (seed : Bytes → Option Bytes) (options : Options) :
    resolveProfile seed (options.marked dryRun flattenOnly) =
      (resolveProfile seed options).map
        (Prod.map (Options.marked · dryRun flattenOnly) id) := by
  have hnamed : namedProfile seed (options.marked dryRun flattenOnly) =
      namedProfile seed options := rfl
  have hharness : (options.marked dryRun flattenOnly).harness = options.harness := rfl
  have hverify : (options.marked dryRun flattenOnly).verify = options.verify := rfl
  rw [resolveProfile, resolveProfile]
  simp only [hnamed, hharness, hverify]
  split
  · rfl
  · split
    · rfl
    · split
      · rfl
      · split <;> rfl

theorem prepare_marked {world : World} {args first : List Bytes}
    (hfirst : parseArgs first { } =
      parseArgs args (({ } : Options).marked dryRun flattenOnly)) :
    prepare world first =
      (prepare world args).map (Prod.map (Options.marked · dryRun flattenOnly) id) := by
  rw [prepare, prepare, hfirst, parseArgs_marked]
  cases parseArgs args { } with
  | error stop => rfl
  | ok options =>
      change (resolveTarget (options.marked dryRun flattenOnly) >>= resolveProfile world.seed) =
        (resolveTarget options >>= resolveProfile world.seed).map _
      rw [resolveTarget_marked]
      cases resolveTarget options with
      | error stop => rfl
      | ok options => exact resolveProfile_marked dryRun flattenOnly world.seed options

theorem prepare_dryRun (world : World) (args : List Bytes) :
    prepare world (sh "--dry-run" :: args) =
      (prepare world args).map (Prod.map (Options.marked · true false) id) :=
  prepare_marked true false rfl

theorem prepare_flattenOnly (world : World) (args : List Bytes) :
    prepare world (sh "--flatten-only" :: args) =
      (prepare world args).map (Prod.map (Options.marked · false true) id) :=
  prepare_marked false true rfl

theorem readMessage_marked (options : Options) (profile : SubmitProfile) :
    readMessage (options.marked dryRun flattenOnly) profile = readMessage options profile := rfl

/-! ## A send that the arguments ask for -/

/-- The arguments are read as those of a live send. -/
structure AsksSend (world : World) (args : List Bytes) (options : Options)
    (profile : SubmitProfile) : Prop where
  prepared : prepare world args = .ok (options, profile)
  sends : options.flattenOnly = false
  live : options.dryRun = false
  workspace : options.workspace ≠ []
  surface : options.surface ≠ []
  message : options.positional ≠ []

/-- Workspace, surface and message as the arguments name them; the message is flattened where the
profile takes one line. -/
def Options.sendArgv (options : Options) (profile : SubmitProfile) : List Bytes :=
  [sh "send", sh "--workspace", options.workspace, sh "--surface", options.surface,
    if profile = .singleLineFlatten then substituted (flatten options.positional)
    else options.positional]

def Options.sendKeyArgv (options : Options) : List Bytes :=
  [sh "send-key", sh "--workspace", options.workspace, sh "--surface", options.surface,
    sh "enter"]

variable {world : World} {args : List Bytes} {options : Options} {profile : SubmitProfile}
  {message : Message}

theorem sendArgv_of_readMessage (hmessage : readMessage options profile = .ok message) :
    message.sendArgv = options.sendArgv profile := by
  rw [readMessage] at hmessage
  split_ifs at hmessage with hworkspace hsurface hpositional hprofile
  · cases hmessage
  · cases hmessage
  · cases hmessage
  · cases hmessage
    rw [Message.sendArgv, Options.sendArgv, if_pos hprofile]
  · cases hmessage
    rw [Message.sendArgv, Options.sendArgv, if_neg hprofile]

theorem sendKeyArgv_of_readMessage (hmessage : readMessage options profile = .ok message) :
    message.sendKeyArgv = options.sendKeyArgv := by
  rw [readMessage] at hmessage
  split_ifs at hmessage <;> cases hmessage <;> rfl

theorem readMessage_ok (hmessage : readMessage options profile = .ok message) :
    message.profile = profile ∧ message.workspace = options.workspace ∧
      message.surface = options.surface ∧ message.verify = options.verify := by
  rw [readMessage] at hmessage
  split_ifs at hmessage <;> cases hmessage <;> exact ⟨rfl, rfl, rfl, rfl⟩

theorem named_of_readMessage (hmessage : readMessage options profile = .ok message) :
    options.workspace ≠ [] ∧ options.surface ≠ [] ∧ options.positional ≠ [] := by
  rw [readMessage] at hmessage
  split_ifs at hmessage with hworkspace hsurface hpositional hprofile
  · cases hmessage
  · cases hmessage
  · cases hmessage
  · exact ⟨hworkspace, hsurface, hpositional⟩
  · exact ⟨hworkspace, hsurface, hpositional⟩

theorem AsksSend.reads (hasks : AsksSend world args options profile) :
    ∃ message, readMessage options profile = .ok message := by
  rw [readMessage, dif_neg hasks.workspace, dif_neg hasks.surface, if_neg hasks.message]
  exact ⟨_, rfl⟩

theorem AsksSend.main (hasks : AsksSend world args options profile)
    (hmessage : readMessage options profile = .ok message) :
    main world args = deliver world options profile message := by
  simp only [Send.main, hasks.prepared, hasks.sends, hmessage, Bool.false_eq_true, if_false]

theorem AsksSend.main_dryRun (hasks : AsksSend world args options profile)
    (hmessage : readMessage options profile = .ok message) :
    Send.main world (sh "--dry-run" :: args) = (drySend world message).finish 0 := by
  have hsends : (options.marked true false).flattenOnly = false := by
    rw [Options.marked, hasks.sends]
    rfl
  have hdry : (options.marked true false).dryRun = true := Bool.or_true _
  simp only [Send.main, prepare_dryRun, hasks.prepared, Except.map, Prod.map, id, hsends,
    readMessage_marked, hmessage, deliver, hdry, Bool.false_eq_true, if_false, if_true]

/-- Without a live send to ask for, a dry run in front of the arguments changes nothing. -/
theorem main_dryRun_of_not_asks
    (hnone : ∀ options profile, ¬AsksSend world args options profile) :
    main world (sh "--dry-run" :: args) = main world args := by
  rw [main, main, prepare_dryRun]
  cases hprepare : prepare world args with
  | error stop => rfl
  | ok resolved =>
      obtain ⟨options, profile⟩ := resolved
      simp only [Except.map, Prod.map, id, readMessage_marked]
      have hflatten : (options.marked true false).flattenOnly = options.flattenOnly :=
        Bool.or_false _
      rw [hflatten]
      cases hsends : options.flattenOnly with
      | true => rfl
      | false =>
          simp only [Bool.false_eq_true, if_false]
          cases hmessage : readMessage options profile with
          | error stop => rfl
          | ok message =>
              have hdry : options.dryRun = true := by
                by_contra hlive
                obtain ⟨hworkspace, hsurface, hpositional⟩ := named_of_readMessage hmessage
                exact hnone options profile ⟨hprepare, hsends, Bool.not_eq_true _ ▸ hlive,
                  hworkspace, hsurface, hpositional⟩
              have hmarked : (options.marked true false).dryRun = true := Bool.or_true _
              simp only [deliver, hdry, hmarked, if_true]

end OdinSentinel.Send
