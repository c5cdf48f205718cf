import ConfigBinding.Proofs.Decimal.Nearest
import ConfigBinding.Proofs.Decimal.Numerals
import ConfigBinding.Proofs.Json.Fitting
import ConfigBinding.Proofs.Lists
import ConfigBinding.Value

/-!
# Values as JSON and back

* `Value.ofJson?_toJson`: a value is what its JSON stands for, although the JSON carries no tag;
* `Value.fitsIn_of_ofJson?`: the value of any JSON that fits can be written, and nests no deeper.
-/

namespace ConfigBinding

/-- The double nearest to a whole number that a text can hold is finite. -/
theorem Number.isFinite_of_whole {value : Int} (fits : (Number.whole value).Fits) :
    (Double.ofInt value).isFinite := by
  obtain ⟨lower, upper⟩ := fits
  refine Double.isFinite_ofInt (lt_of_lt_of_le (b := 2 ^ 64) (by omega) ?_)
  exact pow_le_pow_right₀ (by decide) (by decide)

namespace Value

theorem ofJson?_array (items : List Json) :
    ofJson? (.array items) =
      match (ofJsonItems items).mapM id, items, ofJsonItems items with
      | some all, _, _ => some (.array all)
      | none, [container, construction, _], [_, _, last] =>
        collectionOf? container construction last
      | none, _, _ => none := rfl

theorem ofJson?_object (members : List (String × Json)) :
    ofJson? (.object members) = collectionOfMembers? (ofJsonMembers members) := rfl

/-! ## Reading what was written -/

theorem ofJson?_array_of_all {items : List Json} {values : List Value}
    (all : ofJsonItems items = values.map some) :
    ofJson? (.array items) = some (.array values) := by
  have collected : (values.map some).mapM id = some values :=
    mapM_eq_some.mpr (List.forall₂_map_left_iff.mpr (List.forall₂_same.mpr fun _ _ => rfl))
  rw [ofJson?_array, all, collected]

theorem constructionOfJson_name (construction : Construction) :
    constructionOfJson (.string construction.name) = .ok construction := by
  cases construction <;> rfl

mutual

/-- A value is what its JSON stands for. -/
theorem ofJson?_toJson : (value : Value) → ofJson? value.toJson = some value
  | .boolean _ | .double _ | .string _ => rfl
  | .int value => by
    have number : ofJson? (toJson (.int value)) = some (ofNumber (.whole value.toInt)) := rfl
    rw [number, ofNumber, int32?_toInt]
  | .array items => ofJson?_array_of_all (ofJsonItems_toJsonItems items)
  | .collection container construction items => by
    have itemsBack := ofJson?_array_of_all (ofJsonItems_toJsonItems items)
    rw [toJson, ofJson?_object]
    simp only [ofJsonMembers, itemsBack]
    change collectionOf? (.string container) (.string construction.name) (some (.array items)) = _
    simp only [collectionOf?, constructionOfJson_name]

theorem ofJsonItems_toJsonItems :
    (items : List Value) → ofJsonItems (toJsonItems items) = items.map some
  | [] => rfl
  | value :: rest => by
    rw [toJsonItems, ofJsonItems, ofJson?_toJson value, ofJsonItems_toJsonItems rest, List.map_cons]

end

/-! ## Writing what was read -/

theorem eq_of_collectionOf? {container construction : Json} {items : Option Value} {value : Value}
    (found : collectionOf? container construction items = some value) :
    ∃ name kind values, items = some (.array values) ∧ value = .collection name kind values := by
  unfold collectionOf? at found
  split at found
  next =>
    cases found
    exact ⟨_, _, _, rfl, rfl⟩
  next => cases found

theorem mem_of_onlyMember? {α : Type} {name : String} {members : List (String × α)} {field : α}
    (found : onlyMember? name members = some field) : ∃ key, (key, field) ∈ members := by
  unfold onlyMember? at found
  split at found
  next key only isOnly =>
    cases found
    have member : (key, field) ∈ members.filter fun member => member.1 == name := by
      rw [isOnly]
      exact List.mem_singleton_self _
    exact ⟨key, List.mem_of_mem_filter member⟩
  next => cases found

theorem ofJsonItems_eq (items : List Json) : ofJsonItems items = items.map ofJson? := by
  induction items with
  | nil => rfl
  | cons item rest inductionHypothesis => rw [ofJsonItems, inductionHypothesis, List.map_cons]

theorem ofJsonMembers_eq (members : List (String × Json)) :
    ofJsonMembers members = members.map fun (name, json) => (name, json, ofJson? json) := by
  induction members with
  | nil => rfl
  | cons member rest inductionHypothesis => rw [ofJsonMembers, inductionHypothesis, List.map_cons]

theorem toJsonItems_eq (items : List Value) : toJsonItems items = items.map toJson := by
  induction items with
  | nil => rfl
  | cons item rest inductionHypothesis => rw [toJsonItems, inductionHypothesis, List.map_cons]

theorem fitsIn_array {levels : Nat} {values : List Value}
    (inside : ∀ value ∈ values, value.toJson.FitsIn levels) :
    (toJson (.array values)).FitsIn (levels + 1) := by
  rw [toJson, toJsonItems_eq]
  exact .array (List.forall_mem_map.mpr inside)

theorem exists_of_fitsIn_array {levels : Nat} {values : List Value}
    (fits : (toJson (.array values)).FitsIn levels) :
    ∃ inner, levels = inner + 1 ∧ ∀ value ∈ values, value.toJson.FitsIn inner := by
  rw [toJson, toJsonItems_eq] at fits
  cases fits with
  | array inside => exact ⟨_, rfl, List.forall_mem_map.mp inside⟩

/-- The items of a collection nest one level deeper than a list of them. -/
theorem fitsIn_collection {levels : Nat} {values : List Value} (name : String) (kind : Construction)
    (fits : (toJson (.array values)).FitsIn levels) :
    (toJson (.collection name kind values)).FitsIn (levels + 1) := by
  refine .object ?_
  simp only [List.forall_mem_cons]
  exact ⟨.string _, .string _, fits, List.forall_mem_nil _⟩

theorem fits_ofNumber {number : Number} {levels : Nat} (fits : number.Fits) :
    (ofNumber number).toJson.FitsIn levels := by
  cases number with
  | real value => exact .number fits
  | whole value =>
    unfold ofNumber
    dsimp only
    split
    next small _ => exact .number (Number.fits_int32 small)
    next =>
      have finite : (Number.real (.ofInt value)).Fits := Number.isFinite_of_whole fits
      exact .number finite

theorem items_of_ofJson?_array {items : List Json} {value : Value}
    (found : ofJson? (.array items) = some value) :
    (∃ values, value = .array values ∧
        ∀ inner ∈ values, ∃ item ∈ items, ofJson? item = some inner) ∨
      ∃ name kind values, value = .collection name kind values ∧
        ∃ item ∈ items, ofJson? item = some (.array values) := by
  rw [ofJson?_array, ofJsonItems_eq] at found
  cases collected : (items.map ofJson?).mapM id with
  | some values =>
    simp only [collected, Option.some.injEq] at found
    refine .inl ⟨values, found.symm, fun inner member => ?_⟩
    have each := List.forall₂_map_left_iff.mp (mapM_eq_some.mp collected)
    exact exists_of_mem_right each member
  | none =>
    simp only [collected] at found
    obtain _ | ⟨container, _ | ⟨construction, _ | ⟨last, _ | ⟨more, rest⟩⟩⟩⟩ := items
    case cons.cons.cons.nil =>
      obtain ⟨name, kind, values, isItems, isValue⟩ := eq_of_collectionOf? found
      exact .inr ⟨name, kind, values, isValue, last, by simp, isItems⟩
    all_goals cases found

theorem items_of_ofJson?_object {members : List (String × Json)} {value : Value}
    (found : ofJson? (.object members) = some value) :
    ∃ name kind values, value = .collection name kind values ∧
      ∃ member ∈ members, ofJson? member.2 = some (.array values) := by
  rw [ofJson?_object, ofJsonMembers_eq] at found
  obtain ⟨_, -, found⟩ := Option.bind_eq_some_iff.mp found
  obtain ⟨_, -, found⟩ := Option.bind_eq_some_iff.mp found
  obtain ⟨⟨json, items⟩, isOnly, found⟩ := Option.bind_eq_some_iff.mp found
  obtain ⟨name, kind, values, isItems, isValue⟩ := eq_of_collectionOf? found
  obtain ⟨key, member⟩ := mem_of_onlyMember? isOnly
  obtain ⟨⟨_, _⟩, isMember, same⟩ := List.mem_map.mp member
  cases same
  exact ⟨name, kind, values, isValue, _, isMember, isItems⟩

/-- The value of JSON that fits is written within the same levels. -/
theorem fitsIn_of_ofJson? {levels : Nat} {json : Json} (fits : json.FitsIn levels) {value : Value}
    (found : ofJson? json = some value) : value.toJson.FitsIn levels := by
  induction fits generalizing value with
  | null => cases found
  | bool boolean =>
    cases found
    exact .bool boolean
  | number fits =>
    cases found
    exact fits_ofNumber fits
  | string text =>
    cases found
    exact .string text
  | array inside inductionHypothesis =>
    -- A collection is written as an object, whichever way it was read: no deeper than before.
    obtain ⟨values, rfl, each⟩ | ⟨name, kind, values, rfl, item, isItem, isItems⟩ :=
      items_of_ofJson?_array found
    · refine fitsIn_array fun inner member => ?_
      obtain ⟨item, isItem, isInner⟩ := each inner member
      exact inductionHypothesis item isItem isInner
    · exact fitsIn_collection name kind (inductionHypothesis item isItem isItems)
  | object inside inductionHypothesis =>
    obtain ⟨name, kind, values, rfl, member, isMember, isItems⟩ := items_of_ofJson?_object found
    exact fitsIn_collection name kind (inductionHypothesis member isMember isItems)

end Value

end ConfigBinding
