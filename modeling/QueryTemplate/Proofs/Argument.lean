import Mathlib
import QueryTemplate.Argument
import QueryTemplate.Proofs.Binary.Whole
import QueryTemplate.Proofs.Digits

/-!
# Which number a database receives

A whole number is sent as a signed word, as its digits or as a float (`Argument.Denotes`).  Words
and digits are exact.  A tag of the float family sends the float of every whole number, and so the
number rounded to 53 binary digits.

* `Argument.denotes_toFloat_iff`: the number that a float argument stands for.
* `Argument.denotes_ofValue`: which number is sent, and when it is the given one.
* `Argument.exists_not_denotes`: a number that is sent as another one.
-/

namespace QueryTemplate

namespace Argument

/-- Whether an argument stands for a whole number: it is the number itself, a float with this
value, or a text that writes it. -/
def Denotes : Argument → Int → Prop
  | .bigint m, n => m = n
  | .double x, n => x.isFinite = true ∧ Binary.value x = n
  | .text s, n => Decimal.integer? minWhole maxWhole s.toList = some n
  | .null _, _ => False
  | .bool _, _ => False

theorem denotes_text_iff (n : Whole) {m : Int} :
    (Argument.text (Value.number (.whole n)).text).Denotes m ↔ m = n.val := by
  change Decimal.integer? minWhole maxWhole (Value.number (.whole n)).text.toList = some m ↔ _
  rw [Value.text, String.toList_ofList]
  change Decimal.integer? minWhole maxWhole (Decimal.intText n.val) = some m ↔ _
  rw [Decimal.integer?_intText n.low n.high, Option.some_inj, eq_comm]

theorem denotes_ofNumber_iff (n : Whole) {m : Int} :
    (ofNumber (.whole n)).Denotes m ↔ m = n.val := by
  rw [ofNumber]
  split_ifs
  · exact eq_comm
  · exact denotes_text_iff n

/-- **The float of a whole number stands for the rounded number.** -/
theorem denotes_toFloat_iff (n : Whole) {m : Int} :
    (Argument.double (Number.whole n).toFloat).Denotes m ↔ m = Binary.rounded n.val := by
  obtain ⟨hfinite, hvalue⟩ := Binary.value_toFloat n
  rw [Denotes, hvalue, Int.cast_inj, @eq_comm _ m]
  exact and_iff_right hfinite

def sent (n : Whole) (tag : Option JdbcType) : Int :=
  if tag.map JdbcType.family = some .float then Binary.rounded n.val else n.val

theorem denotes_ofValue_iff (n : Whole) (tag : Option JdbcType) {m : Int} :
    (ofValue (.number (.whole n)) tag).Denotes m ↔ m = sent n tag := by
  cases tag with
  | none => exact denotes_ofNumber_iff n
  | some tag =>
    rw [sent, ofValue, Option.map_some]
    cases tag.family with
    | float => exact denotes_toFloat_iff n
    | character => exact denotes_text_iff n
    | integer | boolean | other => exact denotes_ofNumber_iff n

/-- **Which number is sent**: a tag of the float family rounds it, and every other tag keeps it.
The number is the given one unless it is rounded and has more than 53 binary digits. -/
theorem denotes_ofValue (n : Whole) (tag : Option JdbcType) :
    (∀ m, (ofValue (.number (.whole n)) tag).Denotes m ↔ m = sent n tag) ∧
      ((ofValue (.number (.whole n)) tag).Denotes n.val ↔
        (tag.map JdbcType.family = some .float → Binary.IsShort n.val.natAbs)) := by
  refine ⟨fun m => denotes_ofValue_iff n tag, (denotes_ofValue_iff n tag).trans ?_⟩
  rw [sent]
  split_ifs with hfloat
  · rw [eq_comm, Binary.rounded_eq_self_iff]
    exact ⟨fun h _ => h, fun h => h hfloat⟩
  · exact iff_of_true rfl fun h => absurd h hfloat

/-- **A number that is sent as another one.** -/
theorem exists_not_denotes : ∃ n : Whole,
    ¬ (ofValue (.number (.whole n)) (some .numeric)).Denotes n.val ∧
      (ofValue (.number (.whole n)) (some .numeric)).Denotes (n.val - 1) := by
  refine ⟨⟨2 ^ 53 + 1, by decide, by decide⟩, fun h => ?_, ?_⟩
  · exact absurd ((denotes_toFloat_iff _).mp h) (by decide)
  · exact (denotes_toFloat_iff _).mpr (by decide)

end Argument

end QueryTemplate
