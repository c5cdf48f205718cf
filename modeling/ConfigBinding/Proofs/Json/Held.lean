import ConfigBinding.Proofs.Json.Scanned
import ConfigBinding.Proofs.Json.Trees
import ConfigBinding.Proofs.Results

/-!
# Values read whole

A value that is read whole is that of its tree, as far as the levels that are left allow.

* `Tree.fitsIn_of_hold`: what is read from a tree with numbers that fit, fits itself;
* `Tree.hold_of_json?`: the value of a tree without faults is read when it fits.
-/

namespace ConfigBinding

theorem openLevel_eq_ok {levels start inner : Nat} :
    openLevel levels start = .ok inner ↔ levels = inner + 1 := by
  cases levels with
  | zero => exact ⟨nofun, nofun⟩
  | succ more =>
    simp only [openLevel, Except.ok.injEq]
    omega

/-! ## What is read fits -/

theorem Scalar.fitsIn_of_hold {value : Scalar} {levels : Nat} {json : Json} (fits : value.Fits)
    (held : value.hold = .ok json) : json.FitsIn levels := by
  cases value with
  | null => cases held; exact .null
  | bool value => cases held; exact .bool value
  | number result =>
    cases result with
    | error defect => cases held
    | ok number => cases held; exact .number fits
  | string result =>
    cases result with
    | error defect => cases held
    | ok text => cases held; exact .string text

mutual

/-- What is read whole from a tree whose numbers fit, fits in the levels that were left. -/
theorem Tree.fitsIn_of_hold {levels : Nat} {json : Json} : (tree : Tree) → tree.Fits →
    tree.hold levels = .ok json → json.FitsIn levels
  | .scalar _ _ value, fits, held => Scalar.fitsIn_of_hold fits held
  | .array start items, fits, held => by
    rw [Tree.hold, bind_eq_ok] at held
    obtain ⟨inner, opened, held⟩ := held
    obtain ⟨values, heldItems, isArray⟩ := bind_eq_ok.mp held
    cases isArray
    cases openLevel_eq_ok.mp opened
    exact .array (Items.fitsIn_of_hold items fits heldItems)
  | .object start members, fits, held => by
    rw [Tree.hold, bind_eq_ok] at held
    obtain ⟨inner, opened, held⟩ := held
    obtain ⟨values, heldMembers, isObject⟩ := bind_eq_ok.mp held
    cases isObject
    cases openLevel_eq_ok.mp opened
    exact .object (Members.fitsIn_of_hold members fits heldMembers)
  | .broken _ _ _ _, _, held => nomatch held

theorem Items.fitsIn_of_hold {levels index : Nat} {values : List Json} : (items : Items) →
    items.Fits → items.hold levels index = .ok values → ∀ value ∈ values, value.FitsIn levels
  | .nil close, _, held => by
    rw [Items.hold] at held
    split at held
    next =>
      cases held
      exact List.forall_mem_nil _
    next => cases held
  | .cons head _ tail, fits, held => by
    rw [Items.hold, bind_eq_ok] at held
    obtain ⟨first, heldFirst, held⟩ := held
    obtain ⟨rest, heldRest, isCons⟩ := bind_eq_ok.mp held
    cases isCons
    exact List.forall_mem_cons.mpr
      ⟨Tree.fitsIn_of_hold head fits.1 (mapError_eq_ok.mp heldFirst),
        Items.fitsIn_of_hold tail fits.2 heldRest⟩

theorem Members.fitsIn_of_hold {levels : Nat} {values : List (String × Json)} :
    (members : Members) → members.Fits → members.hold levels = .ok values →
      ∀ value ∈ values, value.2.FitsIn levels
  | .nil close, _, held => by
    rw [Members.hold] at held
    split at held
    next =>
      cases held
      exact List.forall_mem_nil _
    next => cases held
  | .unvalued key _, _, held => by
    rw [Members.hold] at held
    split at held <;> cases held
  | .cons key value _ tail, fits, held => by
    rw [Members.hold, bind_eq_ok] at held
    obtain ⟨name, -, held⟩ := held
    obtain ⟨first, heldFirst, held⟩ := bind_eq_ok.mp held
    obtain ⟨rest, heldRest, isCons⟩ := bind_eq_ok.mp held
    cases isCons
    exact List.forall_mem_cons.mpr
      ⟨Tree.fitsIn_of_hold value fits.1 (mapError_eq_ok.mp heldFirst),
        Members.fitsIn_of_hold tail fits.2 heldRest⟩

end

/-! ## The value of a tree is read -/

theorem Items.json?_nil {close : ListEnd} {values : List Json}
    (holds : (Items.nil close).json? = some values) : close.itemDefect = none ∧ values = [] := by
  cases close <;> simp_all [Items.json?, ListEnd.itemDefect]

theorem Items.json?_cons {head : Tree} {settled : Nat} {tail : Items} {values : List Json}
    (holds : (Items.cons head settled tail).json? = some values) :
    ∃ first rest, head.json? = some first ∧ tail.json? = some rest ∧ values = first :: rest := by
  rw [Items.json?] at holds
  split at holds
  next first rest isFirst isRest =>
    cases holds
    exact ⟨first, rest, isFirst, isRest, rfl⟩
  next => cases holds

theorem Members.json?_nil {close : ObjectEnd} {values : List (String × Json)}
    (holds : (Members.nil close).json? = some values) : close.keyDefect = none ∧ values = [] := by
  cases close <;> simp_all [Members.json?, ObjectEnd.keyDefect]

theorem Members.json?_cons {key : Key} {value : Tree} {settled : Nat} {tail : Members}
    {values : List (String × Json)}
    (holds : (Members.cons key value settled tail).json? = some values) :
    ∃ name first rest, key.text = .ok name ∧ value.json? = some first ∧ tail.json? = some rest ∧
      values = (name, first) :: rest := by
  rw [Members.json?] at holds
  split at holds
  next name first rest isName isFirst isRest =>
    cases holds
    exact ⟨name, first, rest, isName, isFirst, isRest, rfl⟩
  next => cases holds

theorem Scalar.hold_of_json? {value : Scalar} {json : Json} (holds : value.json? = some json) :
    value.hold = .ok json := by
  cases value with
  | null | bool => cases holds; rfl
  | number result | string result =>
    cases result with
    | error defect => cases holds
    | ok inner => cases holds; rfl

mutual

/-- The value of a tree is what is read whole from it when it fits in the levels that are left. -/
theorem Tree.hold_of_json? {levels : Nat} {json : Json} : (tree : Tree) → json.FitsIn levels →
    tree.json? = some json → tree.hold levels = .ok json
  | .scalar _ _ value, _, holds => Scalar.hold_of_json? holds
  | .array start items, fits, holds => by
    obtain ⟨values, isItems, rfl⟩ := Option.map_eq_some_iff.mp holds
    cases fits with
    | @array inner _ inside =>
      rw [Tree.hold, bind_eq_ok]
      refine ⟨inner, openLevel_eq_ok.mpr rfl, bind_eq_ok.mpr ⟨values, ?_, rfl⟩⟩
      exact Items.hold_of_json? items inside isItems
  | .object start members, fits, holds => by
    obtain ⟨values, isMembers, rfl⟩ := Option.map_eq_some_iff.mp holds
    cases fits with
    | @object inner _ inside =>
      rw [Tree.hold, bind_eq_ok]
      refine ⟨inner, openLevel_eq_ok.mpr rfl, bind_eq_ok.mpr ⟨values, ?_, rfl⟩⟩
      exact Members.hold_of_json? members inside isMembers
  | .broken _ _ _ _, _, holds => nomatch holds

theorem Items.hold_of_json? {levels index : Nat} {values : List Json} : (items : Items) →
    (∀ value ∈ values, value.FitsIn levels) → items.json? = some values →
      items.hold levels index = .ok values
  | .nil close, _, holds => by
    obtain ⟨noDefect, rfl⟩ := Items.json?_nil holds
    rw [Items.hold, noDefect]
  | .cons head settled tail, fit, holds => by
    obtain ⟨first, rest, isFirst, isRest, rfl⟩ := Items.json?_cons holds
    obtain ⟨firstFits, restFit⟩ := List.forall_mem_cons.mp fit
    rw [Items.hold, bind_eq_ok]
    refine ⟨first, mapError_eq_ok.mpr (Tree.hold_of_json? head firstFits isFirst), ?_⟩
    exact bind_eq_ok.mpr ⟨rest, Items.hold_of_json? tail restFit isRest, rfl⟩

theorem Members.hold_of_json? {levels : Nat} {values : List (String × Json)} :
    (members : Members) → (∀ value ∈ values, value.2.FitsIn levels) →
      members.json? = some values → members.hold levels = .ok values
  | .nil close, _, holds => by
    obtain ⟨noDefect, rfl⟩ := Members.json?_nil holds
    rw [Members.hold, noDefect]
  | .unvalued _ _, _, holds => nomatch holds
  | .cons key value settled tail, fit, holds => by
    obtain ⟨name, first, rest, isName, isFirst, isRest, rfl⟩ := Members.json?_cons holds
    obtain ⟨firstFits, restFit⟩ := List.forall_mem_cons.mp fit
    rw [Members.hold, bind_eq_ok]
    refine ⟨name, mapError_eq_ok.mpr isName, bind_eq_ok.mpr ⟨first, ?_, ?_⟩⟩
    · exact mapError_eq_ok.mpr (Tree.hold_of_json? value firstFits isFirst)
    · exact bind_eq_ok.mpr ⟨rest, Members.hold_of_json? tail restFit isRest, rfl⟩

end

end ConfigBinding
