import ConfigBinding.Proofs.Json.Fitting

/-!
# How deep JSON values nest

A text is read only if the lists and objects in it do not nest too deep. How deep they nest is
computed here from the value, apart from the question whether its numbers are ones that a text can
hold.

* `Json.depth`: the number of lists and objects that stand inside each other;
* `Json.Each.fitsIn`: if its numbers fit, only its depth decides where a value fits.
-/

namespace ConfigBinding.Json

mutual

/-- How many lists and objects stand inside each other in a value. -/
def depth : Json → Nat
  | .null | .bool _ | .number _ | .string _ => 0
  | .array items => itemsDepth items + 1
  | .object members => membersDepth members + 1

def itemsDepth : List Json → Nat
  | [] => 0
  | item :: rest => max item.depth (itemsDepth rest)

def membersDepth : List (String × Json) → Nat
  | [] => 0
  | (_, value) :: rest => max value.depth (membersDepth rest)

end

theorem depth_le_itemsDepth {items : List Json} {item : Json} (isItem : item ∈ items) :
    item.depth ≤ itemsDepth items := by
  induction isItem with
  | head => exact Nat.le_max_left _ _
  | tail _ _ inductionHypothesis => exact Nat.le_trans inductionHypothesis (Nat.le_max_right _ _)

theorem depth_le_membersDepth {members : List (String × Json)} {member : String × Json}
    (isMember : member ∈ members) : member.2.depth ≤ membersDepth members := by
  induction isMember with
  | head => exact Nat.le_max_left _ _
  | tail _ _ inductionHypothesis => exact Nat.le_trans inductionHypothesis (Nat.le_max_right _ _)

theorem depth_lt_of_member {members : List (String × Json)} {member : String × Json}
    (isMember : member ∈ members) : member.2.depth < (Json.object members).depth :=
  Nat.lt_succ_of_le (depth_le_membersDepth isMember)

/-- A value whose numbers fit, fits in as many levels as it takes. -/
theorem Each.fitsIn {json : Json} {levels : Nat} (fits : json.Each Number.Fits)
    (shallow : json.depth ≤ levels) : json.FitsIn levels := by
  induction fits generalizing levels with
  | null => exact .null
  | bool value => exact .bool value
  | number fits => exact .number fits
  | string value => exact .string value
  | array inside inductionHypothesis =>
    obtain ⟨inner, rfl⟩ := Nat.exists_eq_add_of_le' (Nat.le_of_add_left_le shallow)
    refine .array fun item isItem => inductionHypothesis item isItem ?_
    exact Nat.le_trans (depth_le_itemsDepth isItem) (Nat.le_of_succ_le_succ shallow)
  | object inside inductionHypothesis =>
    obtain ⟨inner, rfl⟩ := Nat.exists_eq_add_of_le' (Nat.le_of_add_left_le shallow)
    refine .object fun member isMember => inductionHypothesis member isMember ?_
    exact Nat.le_trans (depth_le_membersDepth isMember) (Nat.le_of_succ_le_succ shallow)

end ConfigBinding.Json
