import ConfigBinding.Json.Basic
import Mathlib.Algebra.Group.Int.Defs
import Mathlib.Tactic.Common

/-!
# JSON values that texts can hold

Not every JSON value is that of a text: a text has no numbers that are infinite, and one that is
read does not nest too deep.

* `Number.Fits`: whole within 64 bits, or finite;
* `Json.Each`: all numbers in a value have a property;
* `Json.FitsIn`: all numbers fit, and no more than so many lists and objects stand inside each
  other.
-/

namespace ConfigBinding

/-- Whether a number is one that a text can hold: whole within 64 bits, or finite. -/
def Number.Fits : Number → Prop
  | .whole value => -2 ^ 63 ≤ value ∧ value < 2 ^ 64
  | .real value => value.isFinite

theorem Number.fits_int32 (n : Int32) : (Number.whole n.toInt).Fits := by
  have lower := Int32.minValue_le_toInt n
  have upper := Int32.toInt_le n
  simp only [Int32.toInt_minValue, Int32.toInt_maxValue] at lower upper
  exact ⟨by omega, by omega⟩

inductive Json.Each (P : Number → Prop) : Json → Prop where
  | null : Each P .null
  | bool (value : Bool) : Each P (.bool value)
  | number {value : Number} (holds : P value) : Each P (.number value)
  | string (value : String) : Each P (.string value)
  | array {items : List Json} (inside : ∀ item ∈ items, Each P item) : Each P (.array items)
  | object {members : List (String × Json)} (inside : ∀ member ∈ members, Each P member.2) :
      Each P (.object members)

/-- Whether a JSON value has only numbers that fit and nests no deeper than so many levels. -/
inductive Json.FitsIn : Nat → Json → Prop where
  | null {levels : Nat} : FitsIn levels .null
  | bool {levels : Nat} (value : Bool) : FitsIn levels (.bool value)
  | number {levels : Nat} {value : Number} (fits : value.Fits) : FitsIn levels (.number value)
  | string {levels : Nat} (value : String) : FitsIn levels (.string value)
  | array {levels : Nat} {items : List Json} (inside : ∀ item ∈ items, FitsIn levels item) :
      FitsIn (levels + 1) (.array items)
  | object {levels : Nat} {members : List (String × Json)}
      (inside : ∀ member ∈ members, FitsIn levels member.2) : FitsIn (levels + 1) (.object members)

theorem Json.FitsIn.mono {levels more : Nat} {json : Json} (fits : json.FitsIn levels)
    (le : levels ≤ more) : json.FitsIn more := by
  induction fits generalizing more with
  | null => exact .null
  | bool value => exact .bool value
  | number fits => exact .number fits
  | string value => exact .string value
  | array inside inductionHypothesis =>
    cases more with
    | zero => cases le
    | succ more =>
      exact .array fun item member => inductionHypothesis item member (Nat.le_of_succ_le_succ le)
  | object inside inductionHypothesis =>
    cases more with
    | zero => cases le
    | succ more =>
      exact .object fun entry member => inductionHypothesis entry member (Nat.le_of_succ_le_succ le)

theorem Json.FitsIn.each {levels : Nat} {json : Json} (fits : json.FitsIn levels) :
    json.Each Number.Fits := by
  induction fits with
  | null => exact .null
  | bool value => exact .bool value
  | number fits => exact .number fits
  | string value => exact .string value
  | array _ inductionHypothesis => exact .array inductionHypothesis
  | object _ inductionHypothesis => exact .object inductionHypothesis

/-- What follows from a property of all numbers, number by number. -/
theorem Json.Each.imp {P Q : Number → Prop} {json : Json} (each : json.Each P)
    (implies : json.Each fun number => P number → Q number) : json.Each Q := by
  induction each with
  | null => exact .null
  | bool value => exact .bool value
  | number holds =>
    cases implies with
    | number implies => exact .number (implies holds)
  | string value => exact .string value
  | array _ inductionHypothesis =>
    cases implies with
    | array inside =>
      exact .array fun item isItem => inductionHypothesis item isItem (inside item isItem)
  | object _ inductionHypothesis =>
    cases implies with
    | object inside =>
      exact .object fun member isMember =>
        inductionHypothesis member isMember (inside member isMember)

end ConfigBinding
