import OdinSentinel.Registry.Governance
import OdinSentinel.Registry.Locking

/-!
# Reading the log

The calls that only read: alone on a disk each computes one function of the log's text,
unless an operation of the disk fails.
-/

namespace OdinSentinel.Registry

open JsText Dialogue

variable {runtime : Runtime} {scope base : JsString} {Value Next : Type}

/-- No operation of the disk fails. -/
def Sound : FileAsk → Prop := fun _ => False

/-- A call that leaves the disk alone and whose value is told by the text of the log;
where no operation fails, its rejections are too. -/
def Observes (program : Talk (Judged Value)) (view : JsString → Judged Value) : Prop :=
  ∀ (fails : FileAsk → Prop) (disk : Disk),
    Ensures (Responds fails) (diskRules fails).Stays
      (fun outcome after => after = disk ∧
        (∀ value, outcome = .ok (.ok value) → view disk.shared.text = .ok value) ∧
        ((∀ question, ¬fails question) → outcome = .ok (view disk.shared.text)))
      program.run disk

/-- What a call finds that computes on from the events of another. -/
theorem Observes.map {program : Talk (Judged Value)} {view : JsString → Judged Value}
    (hobserves : Observes program view) (compute : Value → Next) :
    Observes (program >>= fun found => pure (found.map compute))
      (fun text => (view text).map compute) := by
  intro fails disk
  rw [run_bind, ensures_bind]
  refine (hobserves fails disk).mono fun outcome after hafter => ?_
  obtain ⟨rfl, hvalue, hsound⟩ := hafter
  cases outcome with
  | error halt =>
      refine ⟨rfl, (by rintro _ ⟨⟩), fun hfails => ?_⟩
      cases hsound hfails
  | ok found =>
      refine ⟨rfl, fun value hsame => ?_, fun hfails => ?_⟩
      · cases found with
        | error rejections => cases hsame
        | ok events =>
            cases hsame
            simp only [hvalue events rfl]
            rfl
      · have hfound := hsound hfails
        cases hfound
        rfl

/-- A call that goes on from what another finds: it has the view of the log, or it ends
with what the other ended with. -/
theorem Observes.plays_bind {program : Talk (Judged Value)} {view : JsString → Judged Value}
    (hobserves : Observes program view) {next : Judged Value → Talk (Judged Next)}
    {fails : FileAsk → Prop} {disk after : Disk} {outcome : Except Halt (Judged Next)}
    (hplays : Plays (Responds fails) (program >>= next).run disk outcome after)
    (hrefused : ∀ rejections, next (.error rejections) = pure (.error rejections)) :
    (∃ value, view disk.shared.text = .ok value ∧
      Plays (Responds fails) (next (.ok value)).run disk outcome after) ∨
    (Unreported outcome ∧ after = disk) := by
  rw [run_bind, Dialogue.plays_bind] at hplays
  obtain ⟨found, middle, hfirst, hnext⟩ := hplays
  obtain ⟨rfl, hvalue, -⟩ := (hobserves fails disk).sound hfirst
  cases found with
  | error halt =>
      obtain ⟨rfl, rfl⟩ := plays_done.mp hnext
      exact .inr ⟨unreported_error halt, rfl⟩
  | ok judged =>
      cases judged with
      | ok value => exact .inl ⟨value, hvalue value rfl, hnext⟩
      | error rejections =>
          change Plays _ (next (.error rejections)).run middle outcome after at hnext
          rw [hrefused] at hnext
          obtain ⟨rfl, rfl⟩ := plays_done.mp hnext
          exact .inr ⟨unreported_refused rejections, rfl⟩

/-- The runs of a call that computes on from the result of another. -/
theorem plays_map {first : Talk (Judged Value)} {compute : Value → Next} {fails : FileAsk → Prop}
    {disk after : Disk} {outcome : Except Halt (Judged Next)} :
    Plays (Responds fails) (first >>= fun found => pure (found.map compute)).run disk outcome after ↔
      ∃ found, Plays (Responds fails) first.run disk found after ∧
        outcome = found.map fun judged => judged.map compute := by
  rw [run_bind, plays_bind]
  constructor
  · rintro ⟨found, middle, hfirst, hlast⟩
    cases found with
    | error halt =>
        obtain ⟨rfl, rfl⟩ := plays_done.mp hlast
        exact ⟨_, hfirst, rfl⟩
    | ok judged =>
        obtain ⟨rfl, rfl⟩ := plays_done.mp hlast
        exact ⟨_, hfirst, rfl⟩
  · rintro ⟨found, hfirst, rfl⟩
    cases found with
    | error halt => exact ⟨_, after, hfirst, .done _ _⟩
    | ok judged => exact ⟨_, after, hfirst, .done _ _⟩

theorem Unreported.map {found : Except Halt (Judged Value)} (hidle : Unreported found)
    (compute : Value → Next) : Unreported (found.map fun judged => judged.map compute) := by
  intro next hnext
  cases found with
  | error halt => cases hnext
  | ok judged =>
      cases judged with
      | error rejections => cases hnext
      | ok value => exact hidle value rfl

theorem observes_error (rejections : List EventRejection) :
    Observes (pure (.error rejections) : Talk (Judged Value)) (fun _ => .error rejections) :=
  fun _ _ => ⟨rfl, (by rintro _ ⟨⟩), fun _ => rfl⟩

/-- The events of a log's text under a scope. -/
def eventsOf (runtime : Runtime) (scope text : JsString) : Judged (List GovdispEvent) :=
  if !isSafeRegistryScope scope then .error [unsafeScopeRejection scope]
  else readEvents runtime text

theorem readEvents_nil : readEvents runtime [] = .ok [] := rfl

/-- Without a fault there is no link. -/
theorem symlink_ensures {fails : FileAsk → Prop} (dir path eventClass : JsString) (disk : Disk) :
    Ensures (Responds fails) (diskRules fails).Stays
      (fun outcome after => after = disk ∧ (outcome = .ok none ∨ fails .findLink))
      (registrySymlinkRejection dir path eventClass).run disk := by
  refine ⟨stays_of_passive rfl, fun answer after hanswer => ?_⟩
  obtain ⟨rfl, rfl | hfails⟩ := hanswer
  · exact ⟨rfl, .inl rfl⟩
  · cases answer with
    | error error => exact ⟨rfl, .inr hfails⟩
    | ok found =>
        cases found with
        | none => exact ⟨rfl, .inr hfails⟩
        | some link => exact ⟨rfl, .inr hfails⟩

/-- The read behind the check for links. -/
theorem observes_log {next : FileAnswer .logExists → Talk (Judged (List GovdispEvent))}
    (habsent : next false = pure (.ok []))
    (hpresent : next true = ask .readLog >>= fun answer =>
      orThrow answer >>= fun text => pure (readEvents runtime text)) :
    Observes (ask .logExists >>= next) (readEvents runtime) := by
  intro fails disk
  rw [run_ask_bind]
  refine ⟨stays_of_passive rfl, fun exist after hanswer => ?_⟩
  obtain ⟨rfl, rfl⟩ := hanswer
  cases hlog : after.shared.log with
  | none =>
      have htext : after.shared.text = [] := by rw [Files.text, hlog]; rfl
      simp only [Option.isSome_none, habsent, htext, readEvents_nil]
      exact ⟨rfl, (by rintro _ ⟨⟩; rfl), fun _ => rfl⟩
  | some text =>
      have htext : after.shared.text = text := by rw [Files.text, hlog]; rfl
      simp only [Option.isSome_some, hpresent, htext]
      refine ⟨stays_of_passive rfl, fun answer read hanswer => ?_⟩
      obtain ⟨rfl, ⟨text', htext', rfl⟩ | ⟨error, rfl, hfault⟩⟩ := hanswer
      · rw [hlog] at htext'
        cases htext'
        refine ⟨rfl, fun value hvalue => ?_, fun _ => rfl⟩
        exact Except.ok.inj hvalue
      · refine ⟨rfl, (by rintro _ ⟨⟩), fun hfails => ?_⟩
        rcases hfault with hnone | hfault
        · rw [hlog] at hnone
          cases hnone
        · exact absurd hfault (hfails _)

/-- What may go wrong before a call that observes. -/
theorem Observes.behind_symlink {view : JsString → Judged Value} {dir path eventClass : JsString}
    {next : Option EventRejection → Talk (Judged Value)}
    (hlinked : ∀ linked, next (some linked) = pure (.error [linked]))
    (hobserves : Observes (next none) view) :
    Observes (registrySymlinkRejection dir path eventClass >>= next) view := by
  intro fails disk
  rw [run_bind, ensures_bind]
  apply (symlink_ensures dir path eventClass disk).mono
  rintro outcome after ⟨rfl, hlink⟩
  rcases hlink with rfl | hfails
  · exact hobserves fails after
  · cases outcome with
    | error halt => exact ⟨rfl, (by rintro _ ⟨⟩), fun hsound => absurd hfails (hsound _)⟩
    | ok linked =>
        cases linked with
        | none => exact hobserves fails after
        | some linked =>
            change Ensures _ _ _ (next (some linked)).run after
            rw [hlinked]
            exact ⟨rfl, (by rintro _ ⟨⟩), fun hsound => absurd hfails (hsound _)⟩

theorem readRegistryEvents_observes :
    Observes (readRegistryEvents runtime scope base) (eventsOf runtime scope) := by
  unfold readRegistryEvents eventsOf
  cases hsafe : isSafeRegistryScope scope with
  | false => exact observes_error _
  | true => exact (observes_log rfl rfl).behind_symlink fun _ => rfl

/-- The events that a query finds in a log's text. -/
def queryOf (runtime : Runtime) (scope : JsString) (query : JsValue) (text : JsString) :
    Judged (List GovdispEvent) :=
  match validateRegistryEventQuery query with
  | rejection :: rejections => .error (rejection :: rejections)
  | [] => queryEvents query (eventsOf runtime scope text)

theorem queryRegistryEvents_observes (query : JsValue) :
    Observes (queryRegistryEvents runtime scope query base) (queryOf runtime scope query) := by
  unfold queryRegistryEvents queryOf
  cases validateRegistryEventQuery query with
  | nil => exact readRegistryEvents_observes.map _
  | cons rejection rejections => exact observes_error _

/-- The accounting that a derivation finds in a log's text. -/
def deriveOf {Accounting : Type} (runtime : Runtime) (scope stableObjectiveId : JsString)
    (query : JsValue) (account : List GovdispEvent → Accounting) (text : JsString) :
    Judged Accounting :=
  match argumentFault scope stableObjectiveId with
  | some fault => .error [fault]
  | none => (queryOf runtime scope query text).map account

theorem derive_observes {Accounting : Type} (stableObjectiveId : JsString) (query : JsValue)
    (account : List GovdispEvent → Accounting) :
    Observes (derive runtime scope stableObjectiveId query base account)
      (deriveOf runtime scope stableObjectiveId query account) := by
  unfold derive deriveOf
  cases argumentFault scope stableObjectiveId with
  | some fault => exact observes_error _
  | none => exact (queryRegistryEvents_observes query).map account

/-! ## Sound disks -/

/-- A sound disk answers every question. -/
theorem responds_sound (disk : Disk) (question : FileAsk) :
    ∃ answer after, Responds Sound disk question answer after := by
  cases question with
  | findLink => exact ⟨.ok none, disk, rfl, .inl rfl⟩
  | makeDir => exact ⟨.ok (), disk, rfl, .inl rfl⟩
  | makeLock =>
      cases hlocked : disk.locked with
      | false => exact ⟨.ok (), _, .inl ⟨rfl, hlocked, rfl⟩⟩
      | true => exact ⟨.error { code := js "EEXIST" }, disk,
          .inr ⟨_, rfl, rfl, .inl ⟨by decide, hlocked⟩⟩⟩
  | removeLock => exact ⟨.ok (), _, rfl, rfl⟩
  | logExists => exact ⟨_, disk, rfl, rfl⟩
  | readLog =>
      cases hlog : disk.shared.log with
      | none => exact ⟨.error { code := js "ENOENT" }, disk, rfl, .inr ⟨_, rfl, .inl hlog⟩⟩
      | some text => exact ⟨.ok text, disk, rfl, .inl ⟨text, hlog, rfl⟩⟩
  | appendLog text => exact ⟨.ok (), _, .inl ⟨rfl, rfl⟩⟩
  | writeTemp text => exact ⟨.ok (), _, .inl ⟨rfl, rfl⟩⟩
  | renameTemp =>
      cases htemp : disk.shared.temp with
      | none => exact ⟨.error { code := js "ENOENT" }, disk, .inr ⟨_, rfl, rfl, .inl htemp⟩⟩
      | some text => exact ⟨.ok (), _, .inl ⟨text, htemp, rfl, rfl⟩⟩
  | removeTemp => exact ⟨.ok (), _, .inl ⟨rfl, rfl⟩⟩
  | now => exact ⟨(0 : Int), disk, rfl⟩
  | wait pause ms => exact ⟨(), disk, rfl⟩
  | random => exact ⟨⟨0, by norm_num, by norm_num⟩, disk, rfl⟩

/-- On a sound disk a reading call ends with the view of the log, and with nothing else. -/
theorem Observes.plays_iff {program : Talk (Judged Value)} {view : JsString → Judged Value}
    (hobserves : Observes program view) {disk after : Disk}
    {outcome : Except Halt (Judged Value)} :
    Plays (Responds Sound) program.run disk outcome after ↔
      outcome = .ok (view disk.shared.text) ∧ after = disk := by
  have hends : ∀ {outcome after}, Plays (Responds Sound) program.run disk outcome after →
      outcome = .ok (view disk.shared.text) ∧ after = disk := by
    intro outcome after hplays
    obtain ⟨hafter, -, hsound⟩ := (hobserves Sound disk).sound hplays
    exact ⟨hsound fun _ => id, hafter⟩
  constructor
  · exact hends
  · rintro ⟨rfl, rfl⟩
    obtain ⟨outcome, final, hplays⟩ := exists_plays responds_sound program.run after
    obtain ⟨rfl, rfl⟩ := hends hplays
    exact hplays

/-- A call on a sound disk ends with a value, and leaves the disk alone. -/
def EndsWith (program : Talk (Judged Value)) (disk : Disk) (value : Value) : Prop :=
  Plays (Responds Sound) program.run disk (.ok (.ok value)) disk

theorem Observes.ends_iff {program : Talk (Judged Value)} {view : JsString → Judged Value}
    (hobserves : Observes program view) {disk : Disk} {value : Value} :
    EndsWith program disk value ↔ view disk.shared.text = .ok value := by
  rw [EndsWith, hobserves.plays_iff, and_iff_left rfl, Except.ok.injEq, eq_comm]

end OdinSentinel.Registry
