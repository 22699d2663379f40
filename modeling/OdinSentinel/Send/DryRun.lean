import Mathlib.Data.Bool.AllAny
import OdinSentinel.Send.Arguments

/-!
# What a dry run foretells

The commands that a dry run prints are, as a shell reads them, the deliveries of the live run
on the same arguments.
-/

namespace OdinSentinel.Send

open Shell

/-! ## The plan of a message -/

/-- A call that reaches the surface, as a shell's words. -/
def Call.delivery : Call → Option (List Bytes)
  | .cmux argv =>
      if argv.head? = some (sh "send") ∨ argv.head? = some (sh "send-key") then
        some (sh "cmux" :: argv)
      else none
  | .shell _ => none

def deliveries (calls : List Call) : List (List Bytes) := calls.filterMap Call.delivery

/-- How often a profile submits, where a readback may have asked for it again. -/
def SubmitProfile.enters : SubmitProfile → Bool → Nat
  | .singleLineFlatten, _ => 1
  | .doubleEnter, _ => 2
  | .singleEnterVerify, again => if again then 2 else 1

def Message.plan (message : Message) (again : Bool) : List (List Bytes) :=
  (sh "cmux" :: message.sendArgv) ::
    List.replicate (message.profile.enters again) (sh "cmux" :: message.sendKeyArgv)

/-! ## Printed commands -/

theorem ends_send (message : Message) :
    Ends (renderSend message) (sh "cmux" :: message.sendArgv) := by
  have hcommand : Adds (sh "cmux send --workspace ") (["cmux", "send", "--workspace"].map sh) :=
    adds_words (by decide) rfl
  have hsurface : Adds (sh "--surface ") (["--surface"].map sh) := adds_words (by decide) rfl
  have hshape : renderSend message = sh "cmux send --workspace " ++
      (quote message.workspace ++ [32] ++ (sh "--surface " ++
        (quote message.surface ++ [32] ++ (quote message.payload ++ [10])))) := by
    simp only [renderSend, List.append_assoc]
    rfl
  rw [hshape]
  exact hcommand.ends ((adds_quote _).ends (hsurface.ends ((adds_quote _).ends (ends_quote _))))

/-- The command of an Enter up to its key. -/
theorem adds_sendKey (message : Message) :
    Adds (sh "cmux send-key --workspace " ++ (quote message.workspace ++ [32] ++
        (sh "--surface " ++ (quote message.surface ++ [32]))))
      [sh "cmux", sh "send-key", sh "--workspace", message.workspace, sh "--surface",
        message.surface] := by
  have hcommand : Adds (sh "cmux send-key --workspace ")
      (["cmux", "send-key", "--workspace"].map sh) := adds_words (by decide) rfl
  have hsurface : Adds (sh "--surface ") (["--surface"].map sh) := adds_words (by decide) rfl
  exact hcommand.append ((adds_quote _).append (hsurface.append (adds_quote _)))

theorem ends_sendKey (message : Message) :
    Ends (renderSendKey message) (sh "cmux" :: message.sendKeyArgv) := by
  have hkey : Ends (sh "enter\n") [sh "enter"] :=
    @ends_plain (sh "enter") (by decide) (List.all_eq_true.mp (by decide))
  have hends := (adds_sendKey message).ends hkey
  have hshape : renderSendKey message = sh "cmux send-key --workspace " ++
      (quote message.workspace ++ [32] ++ (sh "--surface " ++ (quote message.surface ++ [32]))) ++
        sh "enter\n" := by
    simp only [renderSendKey, List.append_assoc]
    rfl
  rw [hshape]
  exact hends

/-- The remark behind a repeated Enter is a comment. -/
theorem ends_sendKeyAnnotated (message : Message) :
    Ends (renderSendKeyAnnotated message) (sh "cmux" :: message.sendKeyArgv) := by
  have hkey : Adds (sh "enter ") [sh "enter"] := adds_words (by decide) rfl
  have hblank : Adds [32] [] := by
    intro words rest
    rw [List.append_nil]
    rfl
  have hremark : Ends (sh "# verify-reEnter: input bar still shows message head\n") [] :=
    @ends_comment (sh " verify-reEnter: input bar still shows message head")
      (List.all_iff_forall_prop.mp (by decide))
  have hends := (adds_sendKey message).ends (hkey.ends (hblank.ends hremark))
  have hshape : renderSendKeyAnnotated message = sh "cmux send-key --workspace " ++
      (quote message.workspace ++ [32] ++ (sh "--surface " ++ (quote message.surface ++ [32]))) ++
        (sh "enter " ++ ([32] ++ sh "# verify-reEnter: input bar still shows message head\n")) := by
    simp only [renderSendKeyAnnotated, List.append_assoc]
    rfl
  rw [hshape]
  exact hends

theorem cmux_not_reserved : reserved.contains (sh "cmux") = false := by decide

/-- Whether a readback in front of which those calls ran asks for a second Enter. -/
def Message.again (message : Message) (world : World) (calls : List Call) : Bool :=
  message.asksReadback && message.readScreen world calls

theorem delivery_readback (message : Message) : message.readback.delivery = none := by
  rw [Message.readback]
  split_ifs
  · rfl
  · rfl

theorem shouldReenter_eq (world : World) (message : Message) (session : Session) :
    shouldReenter message world session = (message.again world session.calls,
      { session with
        calls := session.calls ++ if message.asksReadback then [message.readback] else [] }) := by
  rw [shouldReenter, Message.again]
  cases message.asksReadback with
  | true => rfl
  | false => simp

/-- The dry run of a verified Enter asks for the readback and prints the second Enter for it. -/
theorem drySend_verify {world : World} {message : Message}
    (hprofile : message.profile = .singleEnterVerify) :
    drySend world message =
      { calls := if message.asksReadback then [message.readback] else []
        stdout := renderSend message ++ (renderSendKey message ++
          if message.again world [] then renderSendKeyAnnotated message else []) } := by
  rw [drySend, hprofile]
  simp only [shouldReenter_eq, Session.print, List.nil_append]
  cases message.again world [] with
  | true => simp only [if_true, List.append_assoc]
  | false => simp

/-- A dry run delivers nothing, and a shell reads the plan of the message from what it prints. -/
theorem drySend_plan (world : World) (message : Message) :
    (drySend world message).exit = none ∧ deliveries (drySend world message).calls = [] ∧
      commands (drySend world message).stdout = some (message.plan (message.again world [])) := by
  have hsend : ∀ rest, commands (renderSend message ++ rest) =
      (commands rest).map fun later => (sh "cmux" :: message.sendArgv) :: later :=
    commands_ends (ends_send message) cmux_not_reserved
  have henter : ∀ rest, commands (renderSendKey message ++ rest) =
      (commands rest).map fun later => (sh "cmux" :: message.sendKeyArgv) :: later :=
    commands_ends (ends_sendKey message) cmux_not_reserved
  have hlast : commands (renderSendKey message) = some [sh "cmux" :: message.sendKeyArgv] := by
    have hends := henter []
    rwa [List.append_nil] at hends
  have hremarked : commands (renderSendKeyAnnotated message) =
      some [sh "cmux" :: message.sendKeyArgv] := by
    have hends := commands_ends (ends_sendKeyAnnotated message) cmux_not_reserved []
    rwa [List.append_nil] at hends
  cases hprofile : message.profile with
  | singleLineFlatten =>
      simp [drySend, hprofile, Session.print, deliveries, Message.plan, SubmitProfile.enters, hsend,
        hlast]
  | doubleEnter =>
      simp [drySend, hprofile, Session.print, deliveries, Message.plan, SubmitProfile.enters, hsend,
        henter, hlast]
  | singleEnterVerify =>
      rw [drySend_verify hprofile]
      refine ⟨rfl, ?_, ?_⟩
      · -- a readback reads the screen and delivers nothing
        cases message.asksReadback with
        | true => simp [deliveries, delivery_readback]
        | false => rfl
      · cases hagain : message.again world [] with
        | true => simp [Message.plan, hprofile, SubmitProfile.enters, hsend, henter, hremarked]
        | false => simp [Message.plan, hprofile, SubmitProfile.enters, hsend, hlast]

/-! ## The course of a live run -/

/-- The calls of a live run in which none fails. -/
def Message.course (message : Message) (world : World) : List Call :=
  let submitted := [Call.cmux message.sendArgv, Call.cmux message.sendKeyArgv]
  match message.profile with
  | .singleLineFlatten => submitted
  | .doubleEnter => submitted ++ [.cmux message.sendKeyArgv]
  | .singleEnterVerify =>
      if message.asksReadback then
        submitted ++ message.readback ::
          if message.readScreen world submitted then [.cmux message.sendKeyArgv] else []
      else submitted

/-- A session that makes the calls of a course in their order, up to one that fails; the call
`quiet` may fail. -/
structure Follows (world : World) (quiet : Call) (course : List Call) (session : Session) :
    Prop where
  calls_prefix : session.calls <+: course
  complete : session.exit = none → session.calls = course
  succeeded : ∀ (front back : List Call) (call : Call), session.calls = front ++ call :: back →
    back ≠ [] ∨ session.exit = none → call ≠ quiet → (world.reply front call).status = 0
  failed : ∀ status, session.exit = some status → status ≠ 0

section Follows

variable {world : World} {quiet call : Call} {course front back : List Call} {session : Session}

theorem Follows.start : Follows world quiet [] { } :=
  ⟨List.prefix_refl [], fun _ => rfl,
    fun _ _ _ hcalls => absurd hcalls.symm (by simp), fun _ hexit => by cases hexit⟩

theorem split_last {front back : List Call} {last : Call}
    (hcalls : course ++ [last] = front ++ call :: back) :
    (back = [] ∧ front = course ∧ call = last) ∨
      ∃ init, back = init ++ [last] ∧ course = front ++ call :: init := by
  rcases List.eq_nil_or_concat back with rfl | ⟨init, other, rfl⟩
  · have heq := List.append_inj' hcalls rfl
    exact Or.inl ⟨rfl, heq.1.symm, (List.singleton_inj.mp heq.2).symm⟩
  · rw [List.concat_eq_append, ← List.cons_append, ← List.append_assoc] at hcalls
    have heq := List.append_inj' hcalls rfl
    refine Or.inr ⟨init, ?_, heq.1⟩
    rw [List.singleton_inj.mp heq.2, List.concat_eq_append]

theorem Follows.extend (hfollows : Follows world quiet course session) (hexit : session.exit = none)
    (last : Call) (next : Session) (hcalls : next.calls = session.calls ++ [last])
    (hlast : last ≠ quiet → next.exit = none → (world.reply course last).status = 0)
    (hfailed : ∀ status, next.exit = some status → status ≠ 0) :
    Follows world quiet (course ++ [last]) next := by
  rw [hfollows.complete hexit] at hcalls
  refine ⟨hcalls ▸ List.prefix_refl _, fun _ => hcalls, ?_, hfailed⟩
  intro front back call heq hdone hquiet
  rw [hcalls] at heq
  rcases split_last heq with ⟨rfl, rfl, rfl⟩ | ⟨init, rfl, hcourse⟩
  · exact hlast hquiet (hdone.resolve_left fun hne => hne rfl)
  · apply hfollows.succeeded front init call _ (Or.inr hexit) hquiet
    rw [hfollows.complete hexit, hcourse]

/-- A session that has ended follows every longer course. -/
theorem Follows.ended (hfollows : Follows world quiet course session) {status : Nat}
    (hexit : session.exit = some status) {longer : List Call} (hlonger : course <+: longer) :
    Follows world quiet longer session := by
  refine ⟨hfollows.calls_prefix.trans hlonger, fun hnone => ?_, hfollows.succeeded,
    hfollows.failed⟩
  rw [hexit] at hnone
  cases hnone

theorem Follows.cmux (hfollows : Follows world quiet course session) (argv : List Bytes) :
    Follows world quiet (course ++ [.cmux argv]) (session.cmux world argv) := by
  cases hexit : session.exit with
  | some status =>
      have hsame : session.cmux world argv = session := by rw [Session.cmux, hexit]
      rw [hsame]
      exact hfollows.ended hexit (List.prefix_append _ _)
  | none =>
      apply hfollows.extend hexit _ _
      · rw [Session.cmux, hexit]
      · intro _ hnext
        rw [Session.cmux, hexit] at hnext
        simp only [hfollows.complete hexit] at hnext
        by_contra hfails
        rw [if_neg hfails] at hnext
        cases hnext
      · intro status hnext
        rw [Session.cmux, hexit] at hnext
        simp only at hnext
        split_ifs at hnext with hreply
        cases hnext
        exact hreply

theorem Follows.of_eq {next : Session} (hfollows : Follows world quiet course session)
    (hcalls : next.calls = session.calls) (hexit : next.exit = session.exit) :
    Follows world quiet course next :=
  ⟨hcalls ▸ hfollows.calls_prefix, fun hnone => hcalls.trans (hfollows.complete (hexit ▸ hnone)),
    fun front back call heq hdone =>
      hfollows.succeeded front back call (hcalls ▸ heq) (hexit ▸ hdone),
    fun status hstatus => hfollows.failed status (hexit ▸ hstatus)⟩

theorem Follows.note (hfollows : Follows world quiet course session) (text : Bytes) :
    Follows world quiet course (session.note text) :=
  hfollows.of_eq (session.note_calls text) (session.note_exit text)

end Follows

theorem liveSend_follows (world : World) (message : Message) :
    Follows world message.readback (message.course world) (liveSend world message) := by
  have hstart : Follows world message.readback [] { } := Follows.start
  have hsubmitted := (hstart.cmux message.sendArgv).cmux message.sendKeyArgv
  rw [liveSend, Message.course]
  cases hprofile : message.profile with
  | singleLineFlatten => exact hsubmitted
  | doubleEnter => exact hsubmitted.cmux message.sendKeyArgv
  | singleEnterVerify =>
      simp only
      cases hexit : ((({ } : Session).cmux world message.sendArgv).cmux world
          message.sendKeyArgv).exit with
      | some status =>
          apply hsubmitted.ended hexit
          split_ifs
          · exact List.prefix_append _ _
          · exact List.prefix_append _ _
          · exact List.prefix_refl _
      | none =>
          have hcalls := hsubmitted.complete hexit
          rw [shouldReenter, hcalls]
          by_cases hasks : message.asksReadback = true
          · have hread := hsubmitted.extend hexit message.readback
              { (({ } : Session).cmux world message.sendArgv).cmux world
                message.sendKeyArgv with calls := _ } rfl (fun hne => absurd rfl hne)
              fun status hstatus => hsubmitted.failed status hstatus
            have hshape : ∀ more, [Call.cmux message.sendArgv, Call.cmux message.sendKeyArgv] ++
                message.readback :: more = [] ++ [Call.cmux message.sendArgv] ++
                  [Call.cmux message.sendKeyArgv] ++ [message.readback] ++ more := fun _ => rfl
            rw [hcalls] at hread
            rw [if_pos hasks, if_pos hasks, hshape]
            by_cases hshown : message.readScreen world
                [Call.cmux message.sendArgv, Call.cmux message.sendKeyArgv] = true
            · rw [if_pos hshown]
              simp only [List.nil_append, List.singleton_append, hshown, if_true]
              exact (hread.cmux message.sendKeyArgv).note _
            · rw [if_neg hshown, List.append_nil]
              simp only [List.nil_append, List.singleton_append, hshown]
              exact hread
          · rw [if_neg hasks, if_neg hasks]
            exact hsubmitted

/-! ## The script -/

theorem course_deliveries (world : World) (message : Message) :
    deliveries (message.course world) =
      message.plan (message.again world [.cmux message.sendArgv, .cmux message.sendKeyArgv]) := by
  have hquiet : message.readback.delivery = none := delivery_readback message
  have hsend : (Call.cmux message.sendArgv).delivery = some (sh "cmux" :: message.sendArgv) := rfl
  have hkey : (Call.cmux message.sendKeyArgv).delivery =
      some (sh "cmux" :: message.sendKeyArgv) := rfl
  rw [Message.course, Message.plan, Message.again, deliveries]
  cases message.profile with
  | singleLineFlatten => simp [SubmitProfile.enters, hsend, hkey]
  | doubleEnter => simp [SubmitProfile.enters, hsend, hkey]
  | singleEnterVerify =>
      by_cases hasks : message.asksReadback = true
      · by_cases hshown : message.readScreen world
            [.cmux message.sendArgv, .cmux message.sendKeyArgv] = true
        · simp [SubmitProfile.enters, hsend, hkey, hquiet, hasks, hshown]
        · simp [SubmitProfile.enters, hsend, hkey, hquiet, hasks, hshown]
      · simp [SubmitProfile.enters, hsend, hkey, hasks]

/-- The screen shows a reader the same at every time. -/
def SameScreen (world : World) : Prop :=
  ∀ (calls later : List Call) (call : Call), call.delivery = none →
    world.reply calls call = world.reply later call

theorem again_sameScreen {world : World} (hscreen : SameScreen world) (message : Message)
    (calls later : List Call) : message.again world calls = message.again world later := by
  rw [Message.again, Message.again, Message.readScreen, Message.readScreen,
    hscreen calls later message.readback (delivery_readback message)]

theorem deliveries_dryRun (world : World) (args : List Bytes) :
    deliveries (main world (sh "--dry-run" :: args)).calls = [] := by
  have hstopped : ∀ stop, deliveries (stopped world stop).calls = [] := by
    intro stop
    cases stop <;> rfl
  rw [main, prepare_dryRun]
  cases prepare world args with
  | error stop => exact hstopped stop
  | ok resolved =>
      simp only [Except.map, Prod.map, id]
      split_ifs
      · rfl
      · cases readMessage (resolved.1.marked true false) resolved.2 with
        | error stop => exact hstopped stop
        | ok message =>
            have hdry : (resolved.1.marked true false).dryRun = true := Bool.or_true _
            simp only [deliver, hdry, if_true, Session.finish_calls]
            exact (drySend_plan world message).2.1

/-- The commands of a send with the arguments' own workspace, surface and message. -/
def Options.plan (options : Options) (profile : SubmitProfile) (again : Bool) :
    List (List Bytes) :=
  (sh "cmux" :: options.sendArgv profile) ::
    List.replicate (profile.enters again) (sh "cmux" :: options.sendKeyArgv)

theorem plan_of_readMessage {options : Options} {profile : SubmitProfile} {message : Message}
    (hmessage : readMessage options profile = .ok message) (again : Bool) :
    message.plan again = options.plan profile again := by
  rw [Message.plan, Options.plan, sendArgv_of_readMessage hmessage,
    sendKeyArgv_of_readMessage hmessage, (readMessage_ok hmessage).1]

theorem deliver_live {world : World} {options : Options} {profile : SubmitProfile}
    (message : Message) (hlive : options.dryRun = false) :
    (deliver world options profile message).calls = (liveSend world message).calls ∧
      (deliver world options profile message).exit =
        some ((liveSend world message).exit.getD 0) := by
  rw [deliver, hlive]
  simp only [Bool.false_eq_true, if_false, Session.finish_calls, Session.finish_exit,
    Session.note_calls, Session.note_exit]
  exact ⟨trivial, trivial⟩

/-- What a live send delivers is the start of its plan, and all of it if no call fails. -/
theorem liveSend_plan {world : World} (hscreen : SameScreen world) (message : Message) :
    deliveries (liveSend world message).calls <+: message.plan (message.again world []) ∧
      ((liveSend world message).exit.getD 0 = 0 →
        deliveries (liveSend world message).calls = message.plan (message.again world [])) := by
  have hfollows := liveSend_follows world message
  rw [again_sameScreen hscreen message [] [.cmux message.sendArgv, .cmux message.sendKeyArgv],
    ← course_deliveries]
  refine ⟨hfollows.calls_prefix.filterMap _, fun hexit => ?_⟩
  cases hstatus : (liveSend world message).exit with
  | none => rw [hfollows.complete hstatus]
  | some status =>
      rw [hstatus] at hexit
      exact absurd hexit (hfollows.failed status hstatus)

/-- Whatever the arguments and the programs outside: a dry run delivers nothing.  What a live run
delivers is what the dry run on the same arguments prints, read by a shell as commands, in its
order and up to the first that fails; workspace, surface and message stand in them as the
arguments name them.  Arguments that ask for no live send are answered the same with a dry run in
front. -/
theorem dryRun_foretells {world : World} (hscreen : SameScreen world) (args : List Bytes) :
    deliveries (main world (sh "--dry-run" :: args)).calls = [] ∧
      (∀ options profile, AsksSend world args options profile → ∃ again,
        (main world (sh "--dry-run" :: args)).exit = some 0 ∧
        commands (main world (sh "--dry-run" :: args)).stdout =
          some (options.plan profile again) ∧
        deliveries (main world args).calls <+: options.plan profile again ∧
        ((main world args).exit = some 0 →
          deliveries (main world args).calls = options.plan profile again)) ∧
      ((∀ options profile, ¬AsksSend world args options profile) →
        main world (sh "--dry-run" :: args) = main world args) := by
  refine ⟨deliveries_dryRun world args, ?_, main_dryRun_of_not_asks⟩
  intro options profile hasks
  obtain ⟨message, hmessage⟩ := hasks.reads
  obtain ⟨hdryExit, -, hprinted⟩ := drySend_plan world message
  obtain ⟨hstart, hwhole⟩ := liveSend_plan hscreen message
  obtain ⟨hcalls, hexit⟩ := @deliver_live world options profile message hasks.live
  refine ⟨message.again world [], ?_⟩
  rw [← plan_of_readMessage hmessage, hasks.main_dryRun hmessage, hasks.main hmessage, hcalls,
    hexit, Session.finish_exit, Session.finish_stdout, hdryExit]
  exact ⟨rfl, hprinted, hstart, fun hzero => hwhole (Option.some.inj hzero)⟩

/-- A message that a shell would not take as it is. -/
def awkwardArgs : List Bytes :=
  ["--workspace", "w", "--surface", "108", "--profile", "double_enter",
    "it's $HOME; # \\"].map sh

def awkwardOptions : Options where
  profile := sh "double_enter"
  workspace := sh "w"
  surface := sh "108"
  positional := sh "it's $HOME; # \\"

theorem awkwardArgs_asks : AsksSend steadyWorld awkwardArgs awkwardOptions .doubleEnter :=
  ⟨rfl, rfl, rfl, by decide, by decide, by decide⟩

theorem dryRun_foretells_awkward :
    deliveries (main steadyWorld (sh "--dry-run" :: awkwardArgs)).calls = [] ∧
      ∃ again, (main steadyWorld (sh "--dry-run" :: awkwardArgs)).exit = some 0 ∧
        commands (main steadyWorld (sh "--dry-run" :: awkwardArgs)).stdout =
          some (awkwardOptions.plan .doubleEnter again) ∧
        deliveries (main steadyWorld awkwardArgs).calls <+:
          awkwardOptions.plan .doubleEnter again ∧
        ((main steadyWorld awkwardArgs).exit = some 0 →
          deliveries (main steadyWorld awkwardArgs).calls =
            awkwardOptions.plan .doubleEnter again) := by
  obtain ⟨hquiet, hforetells, -⟩ :=
    @dryRun_foretells steadyWorld (fun _ _ _ _ => rfl) awkwardArgs
  exact ⟨hquiet, hforetells _ _ awkwardArgs_asks⟩

end OdinSentinel.Send
