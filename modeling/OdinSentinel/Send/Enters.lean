import OdinSentinel.Send.DryRun

/-!
# Enters

No run of the helper sends a blind second Enter: what comes before each Enter, on any
arguments and whatever the programs outside do.
-/

namespace OdinSentinel.Send

open Shell

section Course

variable {world : World} {message : Message} {front back : List Call} {argv : List Bytes}

/-- Behind the first Enter there is a second one of the profile's own, or one that a readback
asked for, or none. -/
theorem course_shape (world : World) (message : Message) :
    ∃ more, message.course world =
        .cmux message.sendArgv :: .cmux message.sendKeyArgv :: more ∧
      (more = [] ∨
        (message.profile = .doubleEnter ∧ more = [.cmux message.sendKeyArgv]) ∨
        (message.profile = .singleEnterVerify ∧ message.asksReadback = true ∧
          (more = [message.readback] ∨
            (message.readScreen world [.cmux message.sendArgv, .cmux message.sendKeyArgv] = true ∧
              more = [message.readback, .cmux message.sendKeyArgv])))) := by
  rw [Message.course]
  cases hprofile : message.profile with
  | singleLineFlatten => exact ⟨[], rfl, Or.inl rfl⟩
  | doubleEnter => exact ⟨_, rfl, Or.inr (Or.inl ⟨rfl, rfl⟩)⟩
  | singleEnterVerify =>
      by_cases hasks : message.asksReadback = true
      · by_cases hshown : message.readScreen world
            [.cmux message.sendArgv, .cmux message.sendKeyArgv] = true
        · simp only [hasks, hshown, if_true]
          exact ⟨_, rfl, Or.inr (Or.inr ⟨trivial, trivial, Or.inr ⟨trivial, rfl⟩⟩)⟩
        · simp only [hasks, hshown, if_true]
          exact ⟨_, rfl, Or.inr (Or.inr ⟨trivial, trivial, Or.inl rfl⟩)⟩
      · simp only [hasks]
        exact ⟨[], rfl, Or.inl rfl⟩

/-- The places of an Enter in the course of a live run. -/
theorem course_enter (hcourse : front ++ .cmux argv :: back <+: message.course world)
    (hkey : argv.head? = some (sh "send-key")) :
    argv = message.sendKeyArgv ∧
      (front = [.cmux message.sendArgv] ∨
        (message.profile = .doubleEnter ∧
          front = [.cmux message.sendArgv, .cmux message.sendKeyArgv]) ∨
        (message.profile = .singleEnterVerify ∧ message.asksReadback = true ∧
          message.readScreen world [.cmux message.sendArgv, .cmux message.sendKeyArgv] = true ∧
          front = [.cmux message.sendArgv, .cmux message.sendKeyArgv, message.readback])) := by
  have hsend : Call.cmux argv ≠ .cmux message.sendArgv := by
    intro heq
    cases heq
    exact absurd (Option.some.inj hkey) (by decide)
  have hread : Call.cmux argv ≠ message.readback := by
    intro heq
    have hdelivery := delivery_readback message
    rw [← heq, Call.delivery, if_pos (Or.inr hkey)] at hdelivery
    cases hdelivery
  obtain ⟨rest, hrest⟩ := hcourse
  obtain ⟨more, hcourse, hmore⟩ := course_shape world message
  rw [hcourse, List.append_assoc, List.cons_append] at hrest
  rcases front with _ | ⟨first, _ | ⟨second, front⟩⟩
  · exact absurd (List.cons.inj hrest).1 hsend
  · obtain ⟨rfl, htail⟩ := List.cons.inj hrest
    exact ⟨Call.cmux.inj (List.cons.inj htail).1, Or.inl rfl⟩
  · obtain ⟨rfl, hsecond⟩ := List.cons.inj hrest
    obtain ⟨rfl, htail⟩ := List.cons.inj hsecond
    change front ++ Call.cmux argv :: (back ++ rest) = more at htail
    rcases hmore with rfl | ⟨hdouble, rfl⟩ | ⟨hverify, hasks, rfl | ⟨hshown, rfl⟩⟩
    · exact absurd htail (by simp)
    · rcases front with _ | ⟨third, front⟩
      · exact ⟨Call.cmux.inj (List.cons.inj htail).1, Or.inr (Or.inl ⟨hdouble, rfl⟩)⟩
      · exact absurd (List.cons.inj htail).2 (by simp)
    · rcases front with _ | ⟨third, front⟩
      · exact absurd (List.cons.inj htail).1 hread
      · exact absurd (List.cons.inj htail).2 (by simp)
    · rcases front with _ | ⟨third, _ | ⟨fourth, front⟩⟩
      · exact absurd (List.cons.inj htail).1 hread
      · obtain ⟨rfl, hlast⟩ := List.cons.inj htail
        exact ⟨Call.cmux.inj (List.cons.inj hlast).1,
          Or.inr (Or.inr ⟨hverify, hasks, hshown, rfl⟩)⟩
      · exact absurd (List.cons.inj (List.cons.inj htail).2).2 (by simp)

end Course

/-- A run that calls a program has read a message from its arguments. -/
theorem main_calls {world : World} {args : List Bytes} (hcalls : (main world args).calls ≠ []) :
    ∃ options profile message, prepare world args = .ok (options, profile) ∧
      readMessage options profile = .ok message ∧
      (main world args).calls = if options.dryRun = true then (drySend world message).calls
        else (liveSend world message).calls := by
  have hstopped : ∀ stop, (stopped world stop).calls = [] := by
    intro stop
    cases stop <;> rfl
  rw [main] at hcalls ⊢
  cases hprepare : prepare world args with
  | error stop =>
      rw [hprepare] at hcalls
      exact absurd (hstopped stop) hcalls
  | ok resolved =>
      obtain ⟨options, profile⟩ := resolved
      rw [hprepare] at hcalls
      simp only at hcalls ⊢
      by_cases hflatten : options.flattenOnly = true
      · rw [if_pos hflatten] at hcalls
        exact absurd rfl hcalls
      · rw [if_neg hflatten] at hcalls ⊢
        cases hmessage : readMessage options profile with
        | error stop =>
            rw [hmessage] at hcalls
            exact absurd (hstopped stop) hcalls
        | ok message =>
            refine ⟨options, profile, message, rfl, hmessage, ?_⟩
            simp only [deliver]
            split_ifs <;> simp

/-- Every Enter of every run is in its place: a first one right behind the one delivery of the
message, and a second one only under `double_enter`, or where `--verify` was given and the
readback right in front of it still showed the head of the message.  The workspace and the
surface are the ones that the arguments name, and every `cmux` call before that succeeded. -/
theorem no_blind_enter {world : World} {args : List Bytes} {front back : List Call}
    {argv : List Bytes} (hcalls : (main world args).calls = front ++ .cmux argv :: back)
    (hkey : argv.head? = some (sh "send-key")) :
    ∃ options profile message, prepare world args = .ok (options, profile) ∧
      readMessage options profile = .ok message ∧ options.dryRun = false ∧
      argv = [sh "send-key", sh "--workspace", options.workspace, sh "--surface",
        options.surface, sh "enter"] ∧
      (front = [.cmux message.sendArgv] ∨
        (profile = .doubleEnter ∧
          front = [.cmux message.sendArgv, .cmux message.sendKeyArgv]) ∨
        (options.verify = true ∧ profile = .singleEnterVerify ∧
          message.readScreen world [.cmux message.sendArgv, .cmux message.sendKeyArgv] = true ∧
          front = [.cmux message.sendArgv, .cmux message.sendKeyArgv, message.readback])) ∧
      ∀ earlier call later, front = earlier ++ call :: later → call ≠ message.readback →
        (world.reply earlier call).status = 0 := by
  have hsome : (main world args).calls ≠ [] := by
    rw [hcalls]
    simp
  obtain ⟨options, profile, message, hprepare, hmessage, hrun⟩ := main_calls hsome
  obtain ⟨hprofile, hworkspace, hsurface, hverify⟩ := readMessage_ok hmessage
  refine ⟨options, profile, message, hprepare, hmessage, ?_⟩
  have hdelivery : (Call.cmux argv).delivery = some (sh "cmux" :: argv) := by
    rw [Call.delivery, if_pos (Or.inr hkey)]
  by_cases hdry : options.dryRun = true
  · -- A dry run calls the readback alone.
    rw [if_pos hdry, hcalls] at hrun
    have hnone := (drySend_plan world message).2.1
    rw [← hrun, deliveries, List.filterMap_append, List.filterMap_cons, hdelivery] at hnone
    simp at hnone
  · rw [if_neg hdry, hcalls] at hrun
    have hfollows := liveSend_follows world message
    have hcourse := hfollows.calls_prefix
    rw [← hrun] at hcourse
    obtain ⟨hargv, hplace⟩ := course_enter hcourse hkey
    refine ⟨Bool.not_eq_true _ ▸ hdry, ?_, ?_, ?_⟩
    · rw [hargv, Message.sendKeyArgv, hworkspace, hsurface]
    · rw [hprofile] at hplace
      rcases hplace with hfirst | hdouble | ⟨hsingle, hasks, hshown, hfront⟩
      · exact Or.inl hfirst
      · exact Or.inr (Or.inl hdouble)
      · rw [Message.asksReadback, hverify, Bool.and_eq_true, Bool.and_eq_true] at hasks
        exact Or.inr (Or.inr ⟨hasks.1.1, hsingle, hshown, hfront⟩)
    · intro earlier call later hfront hquiet
      apply hfollows.succeeded earlier (later ++ .cmux argv :: back) call _ (Or.inl (by simp)) hquiet
      rw [← hrun, hfront, List.append_assoc, List.cons_append]

/-- A screen that still shows the message. -/
def stuckWorld : World where
  usage := []
  seed := fun _ => none
  stdin := []
  reply := fun _ _ => ⟨0, sh "> hello there"⟩

def verifiedArgs : List Bytes :=
  ["--target", "w:108", "--profile", "single_enter_verify", "--verify", "hello there"].map sh

/-- The calls up to the second Enter of a verified send. -/
def verifiedFront : List Call :=
  [.cmux (["send", "--workspace", "w", "--surface", "108", "hello there"].map sh),
    .cmux (["send-key", "--workspace", "w", "--surface", "108", "enter"].map sh),
    .cmux (["read-screen", "--workspace", "w", "--surface", "108", "--lines", "80",
      "--scrollback"].map sh)]

theorem no_blind_enter_verified :
    ∃ options profile message, prepare stuckWorld verifiedArgs = .ok (options, profile) ∧
      readMessage options profile = .ok message ∧ options.dryRun = false ∧
      ["send-key", "--workspace", "w", "--surface", "108", "enter"].map sh =
        [sh "send-key", sh "--workspace", options.workspace, sh "--surface",
          options.surface, sh "enter"] ∧
      (verifiedFront = [.cmux message.sendArgv] ∨
        (profile = .doubleEnter ∧
          verifiedFront = [.cmux message.sendArgv, .cmux message.sendKeyArgv]) ∨
        (options.verify = true ∧ profile = .singleEnterVerify ∧
          message.readScreen stuckWorld
            [.cmux message.sendArgv, .cmux message.sendKeyArgv] = true ∧
          verifiedFront =
            [.cmux message.sendArgv, .cmux message.sendKeyArgv, message.readback])) ∧
      ∀ earlier call later, verifiedFront = earlier ++ call :: later → call ≠ message.readback →
        (stuckWorld.reply earlier call).status = 0 :=
  @no_blind_enter _ _ _ [] _ (by decide +kernel) rfl

end OdinSentinel.Send
