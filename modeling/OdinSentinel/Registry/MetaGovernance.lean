import OdinSentinel.Core.Rounds
import OdinSentinel.Registry.Verdicts
import Mathlib.Data.Finset.Card
import Mathlib.Data.Finset.SDiff

/-!
# The depth of audits

`deriveMetaGovernanceDepth` follows the audits of audits through the log, and
`evaluateMetaGovernanceDepth` caps their depth unless a break-glass event is recorded.
-/

namespace OdinSentinel.Registry

open JsText Dialogue Rounds

/-! ## The walk -/

def metaGovernanceDepthCap : Nat := 1

/-- An event of class AUDIT, under its id. -/
def auditEntry (event : GovdispEvent) : Option (JsString × AuditTarget) :=
  match event.body with
  | .audit _ target => some (event.eventId.1, target)
  | _ => none

/-- The audits of some events; a later one stands before those it replaces. -/
def auditEventsById (events : List GovdispEvent) : List (JsString × AuditTarget) :=
  (events.filterMap auditEntry).reverse

/-- `auditEventsById.get(eventId)?.target`. -/
def auditedTarget (audits : List (JsString × AuditTarget)) (eventId : JsString) :
    Option AuditTarget :=
  (audits.find? fun entry => entry.1 == eventId).map Prod.snd

/-- The variables of the walk. -/
structure AuditWalk where
  depth : Nat
  chain : List JsString
  visited : List JsString
  current : AuditTarget
  deriving DecidableEq

def AuditWalk.start (target : AuditTarget) : AuditWalk where
  depth := 1
  chain := []
  visited := []
  current := target

/-- The body of the loop. -/
def walkRound (audits : List (JsString × AuditTarget)) (walk : AuditWalk) : Round AuditWalk :=
  match walk.current with
  | .ordinaryWork => .leave walk
  | .audit targetEventId =>
      let pushed := { walk with
        depth := walk.depth + 1
        chain := walk.chain ++ [targetEventId.1] }
      if walk.visited.contains targetEventId.1 then .leave pushed
      else
        let marked := { pushed with visited := walk.visited ++ [targetEventId.1] }
        match auditedTarget audits targetEventId.1 with
        | none => .leave marked
        | some target => .again { marked with current := target }

/-- The ids that some audits go under. -/
def auditIds (audits : List (JsString × AuditTarget)) : Finset JsString :=
  (audits.map Prod.fst).toFinset

/-- How many audits the walk has not come to. -/
def unvisited (audits : List (JsString × AuditTarget)) (walk : AuditWalk) : Nat :=
  (auditIds audits \ walk.visited.toFinset).card

section Walk

variable {audits : List (JsString × AuditTarget)} {walk next final : AuditWalk}

theorem mem_auditIds {eventId : JsString} {target : AuditTarget}
    (htarget : auditedTarget audits eventId = some target) : eventId ∈ auditIds audits := by
  obtain ⟨entry, hentry, -⟩ := Option.map_eq_some_iff.mp htarget
  have hid : entry.1 = eventId := by simpa using List.find?_some hentry
  rw [auditIds, List.mem_toFinset, ← hid]
  exact List.mem_map_of_mem (List.mem_of_find?_eq_some hentry)

/-- How a round goes on. -/
theorem walkRound_again (hround : walkRound audits walk = .again next) :
    ∃ targetEventId target, walk.current = .audit targetEventId ∧
      targetEventId.1 ∉ walk.visited ∧ auditedTarget audits targetEventId.1 = some target ∧
      next = { depth := walk.depth + 1, chain := walk.chain ++ [targetEventId.1],
               visited := walk.visited ++ [targetEventId.1], current := target } := by
  rw [walkRound] at hround
  cases hcurrent : walk.current with
  | ordinaryWork =>
      rw [hcurrent] at hround
      cases hround
  | audit targetEventId =>
      simp only [hcurrent] at hround
      by_cases hvisited : walk.visited.contains targetEventId.1 = true
      · rw [if_pos hvisited] at hround
        cases hround
      · rw [if_neg hvisited] at hround
        rw [List.contains_iff_mem] at hvisited
        cases htarget : auditedTarget audits targetEventId.1 with
        | none =>
            rw [htarget] at hround
            cases hround
        | some target =>
            rw [htarget] at hround
            cases hround
            exact ⟨targetEventId, target, rfl, hvisited, htarget, rfl⟩

/-- How a round leaves the walk: at ordinary work, or behind one more link. -/
theorem walkRound_leave (hround : walkRound audits walk = .leave final) :
    (walk.current = .ordinaryWork ∧ final = walk) ∨
    ∃ targetEventId, walk.current = .audit targetEventId ∧ final.depth = walk.depth + 1 ∧
      final.chain = walk.chain ++ [targetEventId.1] := by
  rw [walkRound] at hround
  cases hcurrent : walk.current with
  | ordinaryWork =>
      rw [hcurrent] at hround
      cases hround
      exact .inl ⟨rfl, rfl⟩
  | audit targetEventId =>
      simp only [hcurrent] at hround
      apply Or.inr
      by_cases hvisited : walk.visited.contains targetEventId.1 = true
      · rw [if_pos hvisited] at hround
        cases hround
        exact ⟨targetEventId, rfl, rfl, rfl⟩
      · rw [if_neg hvisited] at hround
        cases htarget : auditedTarget audits targetEventId.1 with
        | none =>
            rw [htarget] at hround
            cases hround
            exact ⟨targetEventId, rfl, rfl, rfl⟩
        | some target =>
            rw [htarget] at hround
            cases hround

theorem walkRound_lowers (audits : List (JsString × AuditTarget)) :
    Lowers (walkRound audits) (unvisited audits) := by
  intro walk next hround
  obtain ⟨targetEventId, target, -, hnew, htarget, rfl⟩ := walkRound_again hround
  apply Finset.card_lt_card
  apply Finset.ssubset_iff_subset_ne.mpr
  constructor
  · apply Finset.sdiff_subset_sdiff (Finset.Subset.refl _)
    intro eventId hvisited
    rw [List.mem_toFinset] at hvisited ⊢
    exact List.mem_append_left _ hvisited
  · intro hsame
    have hbefore : targetEventId.1 ∈ auditIds audits \ walk.visited.toFinset := by
      rw [Finset.mem_sdiff, List.mem_toFinset]
      exact ⟨mem_auditIds htarget, hnew⟩
    rw [← hsame, Finset.mem_sdiff, List.mem_toFinset] at hbefore
    exact hbefore.2 (List.mem_append_right _ List.mem_cons_self)

/-- The walk has followed every link of its chain to an audit, and none twice. -/
structure AuditWalk.Follows (audits : List (JsString × AuditTarget)) (walk : AuditWalk) : Prop where
  visited_eq : walk.visited = walk.chain
  nodup : walk.chain.Nodup
  known : ∀ eventId ∈ walk.chain, eventId ∈ auditIds audits
  depth_eq : walk.depth = 1 + walk.chain.length

/-- The walk has followed every link of its chain but the last. -/
structure AuditWalk.Ended (audits : List (JsString × AuditTarget)) (walk : AuditWalk) : Prop where
  nodup : walk.chain.dropLast.Nodup
  known : ∀ eventId ∈ walk.chain.dropLast, eventId ∈ auditIds audits
  depth_eq : walk.depth = 1 + walk.chain.length

theorem follows_start (target : AuditTarget) : (AuditWalk.start target).Follows audits where
  visited_eq := rfl
  nodup := List.nodup_nil
  known := by
    intro eventId hmem
    cases hmem
  depth_eq := rfl

theorem walkRound_keeps (audits : List (JsString × AuditTarget)) :
    Rounds.Keeps (walkRound audits) (AuditWalk.Follows audits) (AuditWalk.Ended audits) where
  again := by
    intro walk next hfollows hround
    obtain ⟨targetEventId, target, -, hnew, htarget, rfl⟩ := walkRound_again hround
    rw [hfollows.visited_eq] at hnew
    refine ⟨?_, ?_, ?_, ?_⟩
    · dsimp only
      rw [hfollows.visited_eq]
    · exact List.nodup_append.mpr ⟨hfollows.nodup, List.nodup_singleton _, by
        rintro eventId hmem other hother rfl
        exact hnew (List.mem_singleton.mp hother ▸ hmem)⟩
    · intro eventId hmem
      rcases List.mem_append.mp hmem with hmem | hmem
      · exact hfollows.known eventId hmem
      · rw [List.mem_singleton.mp hmem]
        exact mem_auditIds htarget
    · dsimp only
      rw [hfollows.depth_eq, List.length_append, List.length_singleton, Nat.add_assoc]
  leave := by
    intro walk final hfollows hround
    rcases walkRound_leave hround with ⟨-, rfl⟩ | ⟨targetEventId, -, hdepth, hchain⟩
    · exact ⟨hfollows.nodup.sublist (List.dropLast_sublist _),
        fun eventId hmem => hfollows.known eventId (List.mem_of_mem_dropLast hmem),
        hfollows.depth_eq⟩
    · refine ⟨?_, ?_, ?_⟩
      · rw [hchain, List.dropLast_concat]
        exact hfollows.nodup
      · rw [hchain, List.dropLast_concat]
        exact hfollows.known
      · rw [hdepth, hchain, hfollows.depth_eq, List.length_append, List.length_singleton,
          Nat.add_assoc]

theorem AuditWalk.Ended.length_le (hended : walk.Ended audits) :
    walk.chain.length ≤ (auditIds audits).card + 1 := by
  have hlength : walk.chain.dropLast.length ≤ (auditIds audits).card := by
    rw [← List.toFinset_card_of_nodup hended.nodup]
    apply Finset.card_le_card
    intro eventId hmem
    exact hended.known eventId (List.mem_toFinset.mp hmem)
  calc
    walk.chain.length ≤ walk.chain.dropLast.length + 1 := by
      rw [List.length_dropLast]
      omega
    _ ≤ (auditIds audits).card + 1 := Nat.succ_le_succ hlength

/-- An audit of an audit is at least the second layer. -/
theorem walkRound_deepens (audits : List (JsString × AuditTarget)) :
    Rounds.Keeps (walkRound audits)
      (fun walk => 1 ≤ walk.depth ∧ (walk.current = .ordinaryWork → 2 ≤ walk.depth))
      (fun walk => 2 ≤ walk.depth) where
  again := by
    intro walk next hdeep hround
    obtain ⟨targetEventId, target, -, -, -, rfl⟩ := walkRound_again hround
    exact ⟨Nat.le_add_left _ _, fun _ => Nat.succ_le_succ hdeep.1⟩
  leave := by
    intro walk final hdeep hround
    rcases walkRound_leave hround with ⟨hcurrent, rfl⟩ | ⟨targetEventId, -, hdepth, -⟩
    · exact hdeep.2 hcurrent
    · rw [hdepth]
      exact Nat.succ_le_succ hdeep.1

/-- The walk at its end. -/
def auditWalk (audits : List (JsString × AuditTarget)) (target : AuditTarget) : AuditWalk :=
  finish (walkRound audits) (unvisited audits) (walkRound_lowers audits) (.start target)

theorem auditWalk_ended (audits : List (JsString × AuditTarget)) (target : AuditTarget) :
    (auditWalk audits target).Ended audits :=
  (walkRound_keeps audits).finish _ (follows_start target)

theorem auditWalk_depth_le_iff {target : AuditTarget} :
    (auditWalk audits target).depth ≤ metaGovernanceDepthCap ↔ target = .ordinaryWork := by
  cases target with
  | ordinaryWork =>
      have hwalk : auditWalk audits .ordinaryWork = .start .ordinaryWork := by
        have hrun := run_eq_finish (walkRound_lowers audits)
          (Nat.lt_succ_self (unvisited audits (.start .ordinaryWork)))
        exact (Option.some.inj hrun).symm
      rw [hwalk]
      exact iff_of_true (Nat.le_refl 1) rfl
  | audit targetEventId =>
      have hdeep : 2 ≤ (auditWalk audits (.audit targetEventId)).depth :=
        (walkRound_deepens audits).finish _ ⟨Nat.le_refl 1, fun hcurrent => by cases hcurrent⟩
      apply iff_of_false
      · exact Nat.not_le_of_lt hdeep
      · rintro ⟨⟩

end Walk

/-! ## The derivation -/

structure MetaGovernanceDepthDerivation where
  stableObjectiveId : JsString
  depth : Nat
  cap : Nat
  auditChain : List JsString
  breakGlassEventIds : List JsString

def isBreakGlass (event : GovdispEvent) : Bool :=
  match event.body with
  | .breakGlass .. => true
  | _ => false

def invalidTarget : EventRejection where
  field := js "target"
  eventClass := js "AUDIT"
  code := js "invalid_target"
  detail := js "target must be a schema-valid audit target: \x7b kind: \"ordinary_work\" \x7d or \x7b kind: \"audit\", target_event_id \x7d"

def metaGovernanceDerivation (stableObjectiveId : JsString) (target : AuditTarget)
    (events : List GovdispEvent) : MetaGovernanceDepthDerivation :=
  let walk := auditWalk (auditEventsById events) target
  { stableObjectiveId
    depth := walk.depth
    cap := metaGovernanceDepthCap
    auditChain := walk.chain
    breakGlassEventIds := (events.filter isBreakGlass).map fun event => event.eventId.1 }

def deriveMetaGovernanceDepth (runtime : Runtime) (scope stableObjectiveId : JsString)
    (target : JsValue) (base : JsString) : Talk (Judged MetaGovernanceDepthDerivation) :=
  match argumentFault scope stableObjectiveId, readAuditTarget target with
  | some fault, _ => pure (.error [fault])
  | none, none => pure (.error [invalidTarget])
  | none, some target =>
      derive runtime scope stableObjectiveId (overheadQuery stableObjectiveId) base
        (metaGovernanceDerivation stableObjectiveId target)

/-! ## The verdict -/

structure MetaGovernanceDepthRefusal where
  field : JsString
  code : JsString
  detail : JsString
  stableObjectiveId : JsString
  depth : Nat
  cap : Nat

inductive AuditAuthority
  | depthCap
  | breakGlass
  deriving DecidableEq

inductive MetaGovernanceDepthVerdict
  | permitted (authorizedBy : AuditAuthority) (breakGlassEventId : Option JsString)
      (derivation : MetaGovernanceDepthDerivation)
  | refused (refusal : MetaGovernanceDepthRefusal) (derivation : MetaGovernanceDepthDerivation)

def metaGovernanceDepthCode : JsString := js "meta_governance_depth"
def breakGlassWrongClassCode : JsString := js "break_glass_wrong_class"

/-- The local `refuse`. -/
def refuseAudit (derivation : MetaGovernanceDepthDerivation) (code field detail : JsString) :
    MetaGovernanceDepthVerdict :=
  .refused {
    field
    code
    detail
    stableObjectiveId := derivation.stableObjectiveId
    depth := derivation.depth
    cap := derivation.cap } derivation

/-- The verdict by the depth alone, with the id of an accepted offer. -/
def depthVerdict (derivation : MetaGovernanceDepthDerivation)
    (offeredBreakGlassId : Option JsString) : MetaGovernanceDepthVerdict :=
  if derivation.depth ≤ derivation.cap then .permitted .depthCap none derivation
  else
    match offeredBreakGlassId.or derivation.breakGlassEventIds.head? with
    | some authorizingBreakGlassId =>
        .permitted .breakGlass (some authorizingBreakGlassId) derivation
    | none => refuseAudit derivation metaGovernanceDepthCode (js "target")
        (js "meta-governance depth " ++ natText derivation.depth ++ js " exceeds the cap of " ++
          natText derivation.cap ++ js " for stable_objective_id \"" ++
          derivation.stableObjectiveId ++
          js "\": an audit whose target is itself an audit is an audit-of-audit and requires a valid BREAK_GLASS_RECORDED event (authorizing_human plus a named concrete contradiction) recorded in the registry for the same objective — none is recorded")

/-- `offered !== undefined && offered !== null`. -/
def isOffered : JsValue → Bool
  | .undefined => false
  | .null => false
  | _ => true

/-- The checks of what is offered, before the cap is consulted. -/
def metaGovernanceVerdict (breakGlassAuthority : JsValue)
    (derivation : MetaGovernanceDepthDerivation) : MetaGovernanceDepthVerdict :=
  let wrongClass := refuseAudit derivation breakGlassWrongClassCode (js "break_glass")
    (js "the artifact offered as break-glass authority for stable_objective_id \"" ++
      derivation.stableObjectiveId ++
      js "\" is not a BREAK_GLASS event (an [SCP-EXCEPTION]-shaped payload, or any other class, is not break-glass authority); only a schema-valid BREAK_GLASS_RECORDED event recorded in the registry can authorize a re-audit")
  if !isOffered breakGlassAuthority then depthVerdict derivation none
  else
    match parseGovdispEvent breakGlassAuthority with
    | none => wrongClass
    | some offerEvent =>
        if !isBreakGlass offerEvent then wrongClass
        else if offerEvent.stableObjectiveId.1 != derivation.stableObjectiveId ||
            !derivation.breakGlassEventIds.contains offerEvent.eventId.1 then
          refuseAudit derivation metaGovernanceDepthCode (js "break_glass")
            (js "the offered BREAK_GLASS event \"" ++ offerEvent.eventId.1 ++
              js "\" is not present in the registry bound to stable_objective_id \"" ++
              derivation.stableObjectiveId ++
              js "\"; break-glass authorization requires presence plus binding — an in-memory offer alone is not authority")
        else depthVerdict derivation (some offerEvent.eventId.1)

def evaluateMetaGovernanceDepth (runtime : Runtime) (scope stableObjectiveId : JsString)
    (target : JsValue) (base : JsString) (breakGlassAuthority : JsValue) :
    Talk (Judged MetaGovernanceDepthVerdict) := do
  let derivation ← deriveMetaGovernanceDepth runtime scope stableObjectiveId target base
  pure (derivation.map (metaGovernanceVerdict breakGlassAuthority))

/-! ## What is permitted -/

def MetaGovernanceDepthVerdict.isPermitted : MetaGovernanceDepthVerdict → Bool
  | .permitted .. => true
  | .refused .. => false

section Permitted

variable {derivation : MetaGovernanceDepthDerivation} {offered : JsValue}

theorem depthVerdict_permits_iff {offeredBreakGlassId : Option JsString} :
    (depthVerdict derivation offeredBreakGlassId).isPermitted = true ↔
      derivation.depth ≤ derivation.cap ∨ offeredBreakGlassId.isSome = true ∨
        derivation.breakGlassEventIds ≠ [] := by
  rw [depthVerdict]
  by_cases hdepth : derivation.depth ≤ derivation.cap
  · rw [if_pos hdepth]
    exact iff_of_true rfl (.inl hdepth)
  · rw [if_neg hdepth, or_iff_right hdepth]
    cases offeredBreakGlassId with
    | some eventId => exact iff_of_true rfl (.inl rfl)
    | none =>
        cases hids : derivation.breakGlassEventIds with
        | nil => simp [refuseAudit, MetaGovernanceDepthVerdict.isPermitted]
        | cons eventId rest => simp [MetaGovernanceDepthVerdict.isPermitted]

/-- Nothing is offered, or an event that is recorded as break-glass of the objective. -/
def Acceptable (derivation : MetaGovernanceDepthDerivation) (offered : JsValue) : Prop :=
  isOffered offered = false ∨ ∃ event, parseGovdispEvent offered = some event ∧
    isBreakGlass event = true ∧ event.stableObjectiveId.1 = derivation.stableObjectiveId ∧
    event.eventId.1 ∈ derivation.breakGlassEventIds

theorem metaGovernanceVerdict_permits_iff :
    (metaGovernanceVerdict offered derivation).isPermitted = true ↔
      Acceptable derivation offered ∧
        (derivation.depth ≤ derivation.cap ∨ derivation.breakGlassEventIds ≠ []) := by
  unfold metaGovernanceVerdict Acceptable
  cases hoffered : isOffered offered with
  | false =>
      rw [Bool.not_false, if_pos rfl, depthVerdict_permits_iff]
      simp
  | true =>
      rw [Bool.not_true, if_neg Bool.false_ne_true]
      cases hevent : parseGovdispEvent offered with
      | none => simp [refuseAudit, MetaGovernanceDepthVerdict.isPermitted]
      | some event =>
          cases hclass : isBreakGlass event with
          | false => simp [refuseAudit, MetaGovernanceDepthVerdict.isPermitted, hclass]
          | true =>
              by_cases hobjective : event.stableObjectiveId.1 = derivation.stableObjectiveId
              · by_cases hid : event.eventId.1 ∈ derivation.breakGlassEventIds
                · have hids : derivation.breakGlassEventIds ≠ [] := List.ne_nil_of_mem hid
                  simp [hobjective, hid, hids, hclass, depthVerdict_permits_iff]
                · simp [refuseAudit, MetaGovernanceDepthVerdict.isPermitted, hclass, hid]
              · simp [refuseAudit, MetaGovernanceDepthVerdict.isPermitted, hclass, hobjective]

end Permitted

/-! ## Over a log -/

section Log

variable {runtime : Runtime} {scope base objective : JsString} {disk : Disk} {value : JsValue}
variable {target : AuditTarget}

/-- The events of an objective. -/
def objectiveEvents (objective : JsString) (events : List GovdispEvent) : List GovdispEvent :=
  events.filter fun event => objective == event.stableObjectiveId.1

/-- A break-glass event of an objective stands in the log under an id. -/
def BreakGlassRecorded (objective : JsString) (events : List GovdispEvent) (eventId : JsString) :
    Prop :=
  ∃ event ∈ events, isBreakGlass event = true ∧ event.stableObjectiveId.1 = objective ∧
    event.eventId.1 = eventId

theorem mem_breakGlassEventIds_iff {events : List GovdispEvent} {eventId : JsString} :
    eventId ∈ (metaGovernanceDerivation objective target
        (objectiveEvents objective events)).breakGlassEventIds ↔
      BreakGlassRecorded objective events eventId := by
  simp only [metaGovernanceDerivation, objectiveEvents, BreakGlassRecorded, List.mem_map,
    List.mem_filter, beq_iff_eq]
  constructor
  · rintro ⟨event, ⟨⟨hevent, rfl⟩, hclass⟩, rfl⟩
    exact ⟨event, hevent, hclass, rfl, rfl⟩
  · rintro ⟨event, hevent, hclass, rfl, rfl⟩
    exact ⟨event, ⟨⟨hevent, rfl⟩, hclass⟩, rfl⟩

theorem breakGlassEventIds_ne_nil_iff {events : List GovdispEvent} :
    (metaGovernanceDerivation objective target
        (objectiveEvents objective events)).breakGlassEventIds ≠ [] ↔
      ∃ eventId, BreakGlassRecorded objective events eventId := by
  constructor
  · intro hids
    obtain ⟨eventId, hid⟩ := List.exists_mem_of_ne_nil _ hids
    exact ⟨eventId, mem_breakGlassEventIds_iff.mp hid⟩
  · rintro ⟨eventId, hrecorded⟩
    exact List.ne_nil_of_mem (mem_breakGlassEventIds_iff.mpr hrecorded)

/-- What a derivation finds in a log's text. -/
def metaGovernanceOf (runtime : Runtime) (scope objective : JsString) (value : JsValue)
    (text : JsString) : Judged MetaGovernanceDepthDerivation :=
  match argumentFault scope objective, readAuditTarget value with
  | some fault, _ => .error [fault]
  | none, none => .error [invalidTarget]
  | none, some target =>
      deriveOf runtime scope objective (overheadQuery objective)
        (metaGovernanceDerivation objective target) text

theorem deriveMetaGovernanceDepth_observes :
    Observes (deriveMetaGovernanceDepth runtime scope objective value base)
      (metaGovernanceOf runtime scope objective value) := by
  unfold deriveMetaGovernanceDepth metaGovernanceOf
  cases argumentFault scope objective with
  | some fault => exact observes_error _
  | none =>
      cases readAuditTarget value with
      | none => exact observes_error _
      | some target => exact derive_observes _ _ _

theorem metaGovernanceOf_ok_iff {text : JsString} {derivation : MetaGovernanceDepthDerivation}
    (hvalue : readAuditTarget value = some target) :
    metaGovernanceOf runtime scope objective value text = .ok derivation ↔
      Askable scope objective text ∧
        derivation = metaGovernanceDerivation objective target
          (objectiveEvents objective (ledger text)) := by
  have hmatches : matchesQuery (overheadQuery objective) =
      fun event => objective == event.stableObjectiveId.1 :=
    funext matchesQuery_overheadQuery
  have hderive := @deriveOf_ok_iff runtime scope objective _ (overheadQuery objective)
    (metaGovernanceDerivation objective target) text derivation overheadQuery_valid
  rw [hmatches] at hderive
  rw [metaGovernanceOf, hvalue]
  cases hfault : argumentFault scope objective with
  | some fault =>
      rw [deriveOf, hfault] at hderive
      apply iff_of_false
      · rintro ⟨⟩
      · rintro ⟨haskable, hsame⟩
        cases hderive.mpr ⟨haskable.safe, haskable.named, haskable.readable, hsame⟩
  | none =>
      apply hderive.trans
      constructor
      · rintro ⟨hsafe, hnamed, hreadable, hsame⟩
        exact ⟨⟨hsafe, hnamed, hreadable⟩, hsame⟩
      · rintro ⟨⟨hsafe, hnamed, hreadable⟩, hsame⟩
        exact ⟨hsafe, hnamed, hreadable, hsame⟩

theorem deriveMetaGovernanceDepth_ends_iff {derivation : MetaGovernanceDepthDerivation}
    (hvalue : readAuditTarget value = some target) :
    EndsWith (deriveMetaGovernanceDepth runtime scope objective value base) disk derivation ↔
      Askable scope objective disk.shared.text ∧
        derivation = metaGovernanceDerivation objective target
          (objectiveEvents objective (ledger disk.shared.text)) := by
  rw [deriveMetaGovernanceDepth_observes.ends_iff, metaGovernanceOf_ok_iff hvalue]

/-- An audit of a target is permitted. -/
def PermitsAudit (runtime : Runtime) (scope objective base : JsString) (disk : Disk)
    (value offered : JsValue) : Prop :=
  ∃ verdict, EndsWith (evaluateMetaGovernanceDepth runtime scope objective value base offered) disk
    verdict ∧ verdict.isPermitted = true

/-- What may be offered: nothing, or an event that a log holds as break-glass of the
objective. -/
def OfferHolds (objective : JsString) (events : List GovdispEvent) (offered : JsValue) : Prop :=
  isOffered offered = false ∨ ∃ event, parseGovdispEvent offered = some event ∧
    isBreakGlass event = true ∧ event.stableObjectiveId.1 = objective ∧
    BreakGlassRecorded objective events event.eventId.1

theorem permitsAudit_iff {offered : JsValue} (hvalue : readAuditTarget value = some target) :
    PermitsAudit runtime scope objective base disk value offered ↔
      Askable scope objective disk.shared.text ∧
        OfferHolds objective (ledger disk.shared.text) offered ∧
        (target = .ordinaryWork ∨
          ∃ eventId, BreakGlassRecorded objective (ledger disk.shared.text) eventId) := by
  have hobserves : Observes (evaluateMetaGovernanceDepth runtime scope objective value base
      offered) _ :=
    deriveMetaGovernanceDepth_observes.map (metaGovernanceVerdict offered)
  have hverdict := @metaGovernanceVerdict_permits_iff (metaGovernanceDerivation objective target
    (objectiveEvents objective (ledger disk.shared.text))) offered
  rw [Acceptable, breakGlassEventIds_ne_nil_iff] at hverdict
  simp only [mem_breakGlassEventIds_iff] at hverdict
  rw [PermitsAudit]
  simp only [hobserves.ends_iff, map_ok_iff, metaGovernanceOf_ok_iff hvalue]
  constructor
  · rintro ⟨verdict, ⟨derivation, ⟨haskable, rfl⟩, rfl⟩, hpermitted⟩
    obtain ⟨hoffer, hdepth⟩ := hverdict.mp hpermitted
    exact ⟨haskable, hoffer, hdepth.imp_left auditWalk_depth_le_iff.mp⟩
  · rintro ⟨haskable, hoffer, htarget⟩
    exact ⟨_, ⟨_, ⟨haskable, rfl⟩, rfl⟩,
      hverdict.mpr ⟨hoffer, htarget.imp_left auditWalk_depth_le_iff.mpr⟩⟩

end Log

/-- The walk of a derivation ends on every log, whatever its audits refer to; its chain names
no audit twice but at its end, and its depth counts the chain.  An audit is permitted where
what is offered is recorded as break-glass of the objective, and the target is ordinary work
or some break-glass event of the objective is recorded. -/
theorem metaGovernanceDepth_correct (runtime : Runtime) (scope objective base : JsString)
    (disk : Disk) {value : JsValue} {target : AuditTarget}
    (hvalue : readAuditTarget value = some target) :
    (∀ audits rounds, unvisited audits (.start target) < rounds →
      run (walkRound audits) rounds (.start target) = some (auditWalk audits target)) ∧
    ((∃ derivation, EndsWith (deriveMetaGovernanceDepth runtime scope objective value base) disk
      derivation) ↔ Askable scope objective disk.shared.text) ∧
    (∀ derivation,
      EndsWith (deriveMetaGovernanceDepth runtime scope objective value base) disk derivation →
      derivation.auditChain.dropLast.Nodup ∧
      derivation.auditChain.length ≤
        (auditIds (auditEventsById (objectiveEvents objective (ledger disk.shared.text)))).card + 1 ∧
      derivation.depth = 1 + derivation.auditChain.length) ∧
    ∀ offered, PermitsAudit runtime scope objective base disk value offered ↔
      Askable scope objective disk.shared.text ∧
        OfferHolds objective (ledger disk.shared.text) offered ∧
        (target = .ordinaryWork ∨
          ∃ eventId, BreakGlassRecorded objective (ledger disk.shared.text) eventId) := by
  refine ⟨?_, ?_, ?_, fun _ => permitsAudit_iff hvalue⟩
  · intro audits rounds hrounds
    exact run_eq_finish (walkRound_lowers audits) hrounds
  · constructor
    · rintro ⟨derivation, hends⟩
      exact ((deriveMetaGovernanceDepth_ends_iff hvalue).mp hends).1
    · intro haskable
      exact ⟨_, (deriveMetaGovernanceDepth_ends_iff hvalue).mpr ⟨haskable, rfl⟩⟩
  · intro derivation hends
    obtain ⟨-, rfl⟩ := (deriveMetaGovernanceDepth_ends_iff hvalue).mp hends
    have hended := auditWalk_ended
      (auditEventsById (objectiveEvents objective (ledger disk.shared.text))) target
    exact ⟨hended.nodup, hended.length_le, hended.depth_eq⟩

/-! ### Audits of each other, and an id of another kind -/

/-- An audit of another. -/
def auditOf (eventId targetEventId : NonEmptyText) : GovdispEvent :=
  { startedAttempt firstObjective with
    eventId
    body := .audit .auditOpened (.audit targetEventId) }

def mutualAudits : List GovdispEvent :=
  [auditOf ⟨js "a", by decide⟩ ⟨js "b", by decide⟩, auditOf ⟨js "b", by decide⟩ ⟨js "a", by decide⟩]

def targetOfMutual : AuditTarget := .audit ⟨js "a", by decide⟩

theorem metaGovernanceDepth_correct_mutual :
    ¬PermitsAudit (plainRuntime []) (js "wave") (firstObjective.1) (js "base") (logDisk mutualAudits)
      targetOfMutual.toJson .undefined := by
  intro hpermits
  obtain ⟨-, -, htarget⟩ := ((metaGovernanceDepth_correct (plainRuntime []) (js "wave")
    (firstObjective.1) (js "base") (logDisk mutualAudits)
    (readAuditTarget_toJson targetOfMutual)).2.2.2 .undefined).mp hpermits
  rw [ledger_logDisk] at htarget
  rcases htarget with htarget | ⟨eventId, event, hevent, hclass, -⟩
  · cases htarget
  · rcases List.mem_pair.mp hevent with rfl | rfl
    · cases hclass
    · cases hclass

/-- A break-glass event under the id of the recorded attempt. -/
def borrowedBreakGlass : GovdispEvent :=
  { startedAttempt firstObjective with
    body := .breakGlass .breakGlassRecorded ⟨js "human", by decide⟩ ⟨js "contradiction", by decide⟩ }

/-- Its id stands in the log, and it is no break-glass event there. -/
theorem borrowedBreakGlass_refused : ¬∀ runtime scope objective base disk value target offered,
    Askable scope objective disk.shared.text → readAuditTarget value = some target →
    (PermitsAudit runtime scope objective base disk value offered ↔
      (isOffered offered = false ∨ ∃ event, parseGovdispEvent offered = some event ∧
        isBreakGlass event = true ∧ event.stableObjectiveId.1 = objective ∧
        ∃ recorded ∈ ledger disk.shared.text, recorded.eventId.1 = event.eventId.1) ∧
      (target = .ordinaryWork ∨
        ∃ eventId, BreakGlassRecorded objective (ledger disk.shared.text) eventId)) := by
  intro hclaim
  have hvalue : readAuditTarget AuditTarget.ordinaryWork.toJson = some .ordinaryWork :=
    readAuditTarget_toJson .ordinaryWork
  have haskable : Askable (js "wave") (firstObjective.1)
      (logDisk [startedAttempt firstObjective]).shared.text :=
    ⟨by decide, by decide, readable_logDisk _⟩
  have hrecorded : ∃ recorded ∈ ledger (logDisk [startedAttempt firstObjective]).shared.text,
      recorded.eventId.1 = borrowedBreakGlass.eventId.1 := by
    rw [ledger_logDisk]
    exact ⟨_, List.mem_cons_self, rfl⟩
  have hpermits := (hclaim (plainRuntime []) (js "wave") (firstObjective.1) (js "base") _ _ _
    borrowedBreakGlass.toJson haskable hvalue).mpr
    ⟨.inr ⟨borrowedBreakGlass, parseGovdispEvent_toJson _, rfl, rfl, hrecorded⟩, .inl rfl⟩
  obtain ⟨-, hoffer, -⟩ := (permitsAudit_iff hvalue).mp hpermits
  rw [ledger_logDisk] at hoffer
  rcases hoffer with hoffer | ⟨event, -, -, -, recorded, hmem, hclass, -⟩
  · have hoffered : isOffered borrowedBreakGlass.toJson = true := rfl
    exact Bool.false_ne_true (hoffer.symm.trans hoffered)
  · rw [List.mem_singleton.mp hmem] at hclass
    cases hclass

end OdinSentinel.Registry
