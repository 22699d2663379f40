import OdinSentinel.Say.SingleCopy

/-!
# The decision of a delivery

Where a delivery decides to send or to refuse, and where it first saw a busy pane.
-/

namespace OdinSentinel.Say

open RustText Dialogue

variable {rules : PaneRules} {flat : RustString} {history before : List Event}

/-- A delivery up to its decision: to send, or at its end to refuse. -/
def decision (history : List Event) : List Event :=
  match history.dropWhile fun event => !isSend event with
  | [] => history
  | _ :: before => before

/-- A read that shows a busy pane. -/
def showsBusy (rules : PaneRules) (event : Event) : Bool :=
  (screenOf event).any fun raw => busy (tail14 raw) rules

/-- A delivery up to the first read that showed a busy pane. -/
def firstBusy (rules : PaneRules) : List Event → Option (List Event)
  | [] => none
  | event :: before =>
      (firstBusy rules before).or (if showsBusy rules event then some (event :: before) else none)

theorem decision_of_unsent (hquiet : ∀ event ∈ history, isSend event = false) :
    decision history = history := by
  have hdrop : history.dropWhile (fun event => !isSend event) = [] := by
    rw [List.dropWhile_eq_nil_iff]
    intro event hevent
    rw [hquiet event hevent]
    rfl
  rw [decision, hdrop]

theorem decision_of_sent {events : List Event} (ok : Bool)
    (hquiet : ∀ event ∈ events, isSend event = false) :
    decision (events ++ typed flat ok :: before) = before := by
  have hdrop : (events ++ typed flat ok :: before).dropWhile (fun event => !isSend event) =
      typed flat ok :: before := by
    rw [List.dropWhile_append_of_pos]
    · rfl
    · intro event hevent
      rw [hquiet event hevent]
      rfl
  rw [decision, hdrop]

theorem decision_suffix (history : List Event) : decision history <:+ history := by
  rw [decision]
  cases hdrop : history.dropWhile fun event => !isSend event with
  | nil => exact List.suffix_refl _
  | cons send before =>
      have hsuffix : send :: before <:+ history := hdrop ▸ List.dropWhile_suffix _
      exact (List.suffix_cons _ _).trans hsuffix

theorem suffix_decision (hsuffix : before <:+ history)
    (hquiet : ∀ event ∈ before, isSend event = false) : before <:+ decision history := by
  obtain ⟨events, rfl⟩ := hsuffix
  rw [decision]
  rw [List.dropWhile_append]
  cases hdrop : events.dropWhile fun event => !isSend event with
  | nil =>
      have hnone : before.dropWhile (fun event => !isSend event) = [] := by
        rw [List.dropWhile_eq_nil_iff]
        intro event hevent
        rw [hquiet event hevent]
        rfl
      rw [List.isEmpty_nil, if_pos rfl, hnone]
      exact List.suffix_append _ _
  | cons send rest => exact List.suffix_append _ _

/-- The first busy screen stays the first. -/
theorem firstBusy_of_suffix {seen : List Event} (hsuffix : before <:+ history)
    (hseen : firstBusy rules before = some seen) : firstBusy rules history = some seen := by
  induction history with
  | nil =>
      rw [List.suffix_nil.mp hsuffix] at hseen
      cases hseen
  | cons event rest ih =>
      rcases List.suffix_cons_iff.mp hsuffix with rfl | hsuffix
      · exact hseen
      · rw [firstBusy, ih hsuffix, Option.some_or]

theorem firstBusy_shows {seen : List Event} (hseen : firstBusy rules history = some seen) :
    seen <:+ history ∧ ∃ event before, seen = event :: before ∧ showsBusy rules event = true := by
  induction history with
  | nil => cases hseen
  | cons event rest ih =>
      rw [firstBusy] at hseen
      cases hrest : firstBusy rules rest with
      | some earlier =>
          rw [hrest, Option.some_or] at hseen
          cases hseen
          obtain ⟨hsuffix, hshows⟩ := ih hrest
          exact ⟨hsuffix.trans (List.suffix_cons event rest), hshows⟩
      | none =>
          rw [hrest, Option.none_or] at hseen
          split_ifs at hseen with hbusy
          cases hseen
          exact ⟨List.suffix_refl _, event, rest, rfl, hbusy⟩

/-- Where the last screen is busy some screen is the first. -/
theorem exists_firstBusy {screen : RustString} (hlast : lastScreen history = some screen)
    (hbusy : busy screen rules = true) : ∃ seen, firstBusy rules history = some seen := by
  induction history with
  | nil => cases hlast
  | cons event rest ih =>
      rw [firstBusy]
      cases hrest : firstBusy rules rest with
      | some seen => exact ⟨seen, rfl⟩
      | none =>
          cases hscreen : screenOf event with
          | none =>
              rw [lastScreen, List.findSome?_cons, hscreen] at hlast
              obtain ⟨seen, hseen⟩ := ih hlast
              rw [hrest] at hseen
              cases hseen
          | some raw =>
              rw [lastScreen, List.findSome?_cons, hscreen] at hlast
              cases hlast
              have hshows : showsBusy rules event = true := by
                rw [showsBusy, hscreen]
                exact hbusy
              rw [hshows]
              exact ⟨_, rfl⟩

end OdinSentinel.Say
