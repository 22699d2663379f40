import Mathlib.Data.List.Nodup
import OdinSentinel.Core.JsText

/-!
# Enumerations spelled as text

A finite set of values, each written as one literal of its own.
-/

namespace OdinSentinel

open JsText

class Spelled (Value : Type) where
  all : List Value
  text : Value → JsString
  mem_all : ∀ value, value ∈ all
  distinct : (all.map text).Nodup

namespace Spelled

variable {Value : Type} [Spelled Value]

/-- The value that a text spells. -/
def read (spelling : JsString) : Option Value :=
  (all : List Value).find? fun value => text value == spelling

theorem text_of_read {spelling : JsString} {value : Value} (hread : read spelling = some value) :
    text value = spelling := by
  have hfound := List.find?_some hread
  simpa using hfound

theorem text_injective : Function.Injective (text : Value → JsString) := by
  intro left right htext
  exact List.inj_on_of_nodup_map distinct (mem_all left) (mem_all right) htext

@[simp]
theorem read_text (value : Value) : read (text value) = some value := by
  cases hread : (read (text value) : Option Value) with
  | none =>
      have hmissing := List.find?_eq_none.mp hread value (mem_all value)
      simp at hmissing
  | some other => rw [text_injective (text_of_read hread)]

end Spelled

end OdinSentinel
