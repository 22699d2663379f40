import Mathlib.Data.List.Basic
import Mathlib.Logic.ExistsUnique

/-!
# Fenced registers

A fenced register has at most one holder and a counter, the token.  Granting it
raises the token by one, releasing it keeps the token, and everything else
leaves both alone.  Over a whole trace that starts unheld at token zero, the
token never falls and every token issued belongs to exactly one holder, however
often the register is released and granted again.
-/

namespace OdinSentinel.Fencing

variable {Holder : Type*}

/-- The token of a register and who holds it. -/
@[ext]
structure Register (Holder : Type*) where
  token : Nat
  holder : Option Holder

/-- What one operation may do to a register. -/
inductive Move : Register Holder → Register Holder → Prop
  | stay (register : Register Holder) : Move register register
  | grant (register : Register Holder) (holder : Holder) :
      Move register ⟨register.token + 1, some holder⟩
  | release (register : Register Holder) : Move register ⟨register.token, none⟩

/-- No register has been granted yet. -/
def unheld : Register Holder := ⟨0, none⟩

/-- A trace of registers, newest first, from the unheld one. -/
inductive Trace : List (Register Holder) → Prop
  | start : Trace [unheld]
  | move {register after : Register Holder} {earlier : List (Register Holder)}
      (htrace : Trace (register :: earlier)) (hmove : Move register after) :
      Trace (after :: register :: earlier)

theorem Move.token_le {before after : Register Holder} (hmove : Move before after) :
    before.token ≤ after.token := by
  cases hmove <;> simp

/-- A register that changes hands had its token raised by one. -/
theorem Move.token_of_holder_ne {before after : Register Holder}
    (hmove : Move before after) {holder : Holder}
    (hafter : after.holder = some holder) (hbefore : before.holder ≠ some holder) :
    after.token = before.token + 1 := by
  cases hmove with
  | stay => exact absurd hafter hbefore
  | grant => rfl
  | release => cases hafter

/-- The newest token of a trace is the greatest. -/
theorem Trace.token_le {register : Register Holder} {earlier : List (Register Holder)}
    (htrace : Trace (register :: earlier)) :
    ∀ other ∈ register :: earlier, other.token ≤ register.token := by
  generalize hlist : register :: earlier = trace at htrace
  induction htrace generalizing register earlier with
  | start =>
      obtain ⟨rfl, rfl⟩ := List.cons.inj hlist
      simp
  | @move before after rest _ hmove ih =>
      obtain ⟨rfl, rfl⟩ := List.cons.inj hlist
      intro other hmem
      rcases List.mem_cons.mp hmem with rfl | hmem
      · exact Nat.le_refl _
      · exact Nat.le_trans (ih rfl other hmem) hmove.token_le

/-- Every token issued so far has been held by exactly one holder, and no
token beyond the newest has been held. -/
theorem Trace.holder_unique {register : Register Holder}
    {earlier : List (Register Holder)} (htrace : Trace (register :: earlier)) :
    (∀ token, 1 ≤ token → token ≤ register.token →
      ∃! holder, (⟨token, some holder⟩ : Register Holder) ∈ register :: earlier) ∧
    ∀ holder, (⟨0, some holder⟩ : Register Holder) ∉ register :: earlier := by
  generalize hlist : register :: earlier = trace at htrace
  induction htrace generalizing register earlier with
  | start =>
      obtain ⟨rfl, rfl⟩ := List.cons.inj hlist
      refine ⟨?_, by simp [unheld]⟩
      intro token hlow hhigh
      have hzero : (unheld : Register Holder).token = 0 := rfl
      omega
  | @move before after rest hrest hmove ih =>
      obtain ⟨rfl, rfl⟩ := List.cons.inj hlist
      obtain ⟨hunique, hzero⟩ := ih rfl
      cases hmove with
      | stay =>
          simpa using And.intro hunique hzero
      | release =>
          refine ⟨?_, by simpa using hzero⟩
          intro token hlow hhigh
          simpa using hunique token hlow hhigh
      | grant holder =>
          have hfresh : ∀ other, (⟨before.token + 1, some other⟩ : Register Holder) ∉
              before :: rest := by
            intro other hmem
            exact absurd (hrest.token_le _ hmem) (Nat.not_succ_le_self _)
          refine ⟨?_, by simpa using hzero⟩
          intro token hlow hhigh
          by_cases hnew : token = before.token + 1
          · subst hnew
            refine ⟨holder, by simp, ?_⟩
            intro other hmem
            rcases List.mem_cons.mp hmem with heq | hmem
            · simpa using heq
            · exact absurd hmem (hfresh other)
          · have hold : token ≤ before.token := by
              have hhigh' : token ≤ before.token + 1 := hhigh
              omega
            obtain ⟨owner, howner, honly⟩ := hunique token hlow hold
            refine ⟨owner, List.mem_cons_of_mem _ howner, ?_⟩
            intro other hmem
            rcases List.mem_cons.mp hmem with heq | hmem
            · exact absurd (congrArg Register.token heq) hnew
            · exact honly other hmem

end OdinSentinel.Fencing
