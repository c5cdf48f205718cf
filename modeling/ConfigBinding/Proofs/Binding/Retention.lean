import ConfigBinding.Proofs.Binding.Steps

/-!
# Syncs keep what is stored

A sync only adds to a store: what was there stays, in its order, and a value that was stored is
never overwritten, whether it fits the field or not. What the steps say about their fields and
categories may be overwritten by later steps, but a second sync ends with the same again.

* `sync_loses_nothing`: what a sync leaves of the store before it;
* `sync_again_changes_nothing`: a second sync makes the same calls and leaves the same store.
-/

namespace ConfigBinding

/-- Whether a store keeps all that was in the one before it, and only gets what the steps of a
    loader name. -/
structure StoreLoader.Retains (loader : StoreLoader) (before after : Store) : Prop where
  /-- New categories come last, in the order in which steps first name them. -/
  categories : after.names =
    before.names ++ Dictionary.newKeys before.names (loader.steps.map StoreStep.named)
  /-- So do new settings in each category. -/
  settings : ∀ category, after.keysIn category =
    before.keysIn category ++ Dictionary.newKeys (before.keysIn category)
      ((loader.fields.filter fun field => field.category = category).map StoreField.key)
  values : ∀ category key value, before.value? category key = some value →
    after.value? category key = some value
  /-- A first value is the default of the first field that is bound to the setting. -/
  firstValues : ∀ category key value, before.value? category key = none →
    after.value? category key = some value →
      ∃ field, (fieldsAt category key loader.steps).head? = some field ∧ value = field.default
  boundValues : ∀ field ∈ loader.fields, (after.value? field.category field.key).isSome
  unnamedCategories : ∀ name, (∀ step ∈ loader.steps, step.named ≠ name) →
    after.category? name = before.category? name
  unnamedSettings : ∀ category key,
    (∀ field ∈ loader.fields, (field.category, field.key) ≠ (category, key)) →
      after.property? category key = before.property? category key
  /-- Fields alone change nothing about a category but its settings. -/
  undecorated : ∀ name c, before.category? name = some c →
    (∀ step ∈ loader.steps, ∀ d, step.decoration? = some d → d.name ≠ name) →
      ∃ properties, after.category? name = some { c with properties }

namespace Store

variable {s : Store} {steps : List StoreStep}

theorem fieldsAt_eq_nil {category key : String}
    (others : ∀ field ∈ boundFields steps, (field.category, field.key) ≠ (category, key)) :
    fieldsAt category key steps = [] := by
  rw [fieldsAt, List.filter_eq_nil_iff]
  intro field member isAt
  obtain ⟨rfl, rfl⟩ := of_decide_eq_true isAt
  exact others field member rfl

/-- Steps without a decoration of a category leave what is known about it. -/
theorem category?_after_of_undecorated {name : String} {c : StoreCategory}
    (stored : s.category? name = some c)
    (undecorated : ∀ step ∈ steps, ∀ d, step.decoration? = some d → d.name ≠ name) :
    ∃ properties, (s.after steps).category? name = some { c with properties } := by
  rw [category?_after, stored]
  split
  next =>
    have noDecoration : (steps.filter fun step => step.named = name).filterMap
        StoreStep.decoration? = [] := by
      rw [List.filterMap_eq_nil_iff]
      intro step member
      obtain ⟨isStep, isNamed⟩ := List.mem_filter.mp member
      cases step with
      | field field => rfl
      | category d => exact absurd (of_decide_eq_true isNamed) (undecorated _ isStep d rfl)
    have attributes := StoreCategory.after_eq c (steps.filter fun step => step.named = name)
    rw [noDecoration] at attributes
    exact ⟨_, congrArg some attributes⟩
  next => exact ⟨c.properties, rfl⟩

end Store

/-- A sync that succeeds loses nothing of what was stored. -/
theorem sync_loses_nothing {loader : StoreLoader} {s : Store} {files : Files}
    (succeeded : (loader.sync s files).1.failure = none) :
    loader.Retains s (loader.sync s files).1.state := by
  rw [StoreLoader.sync_state succeeded]
  constructor
  case categories => exact s.names_after loader.steps
  case settings => exact s.keysIn_after loader.steps
  case values => exact fun category key value => s.value?_after_of_some loader.steps
  case firstValues =>
    intro category key value absent found
    rw [Store.value?_after, absent] at found
    obtain ⟨field, isFirst, isDefault⟩ := Option.map_eq_some_iff.mp found
    exact ⟨field, isFirst, isDefault.symm⟩
  case boundValues =>
    intro field member
    have isAt : field ∈ fieldsAt field.category field.key loader.steps :=
      List.mem_filter.mpr ⟨member, by simp⟩
    rw [Store.value?_after]
    cases stored : s.value? field.category field.key with
    | some value => rfl
    | none =>
      obtain ⟨first, others, split⟩ := List.exists_cons_of_ne_nil (List.ne_nil_of_mem isAt)
      rw [split]
      rfl
  case unnamedCategories =>
    intro name unnamed
    rw [Store.category?_after, if_neg]
    intro member
    obtain ⟨step, isStep, isNamed⟩ := List.mem_map.mp member
    exact unnamed step isStep isNamed
  case unnamedSettings =>
    intro category key unnamed
    rw [Store.property?_after, if_pos (Store.fieldsAt_eq_nil unnamed)]
  case undecorated => exact fun name c => Store.category?_after_of_undecorated

/-- A sync of a store without a file is the binding and the call after it. -/
theorem StoreLoader.sync_eq_of_path {loader : StoreLoader} {s : Store}
    (bound : (loader.bind s).failure = none) (inMemory : s.path = none) (files : Files) :
    loader.sync s files =
      ({ loader.bind s with calls := (loader.bind s).calls ++ loader.hookCalls }, files) := by
  have noFile : (loader.bind s).state.path = none := by
    rw [StoreLoader.bind_state bound]
    exact inMemory
  simp only [StoreLoader.sync, bound, Store.save, noFile]

/-- Binding again, from what a bind has left, is the same bind. -/
theorem StoreLoader.bind_again {loader : StoreLoader} {s : Store}
    (bound : (loader.bind s).failure = none) :
    loader.bind (s.after loader.steps) = loader.bind s := by
  obtain ⟨sameCalls, succeeds⟩ := StoreStep.forEach_alike (t := s.after loader.steps) bound
    fun category key value => id
  have state : (loader.bind (s.after loader.steps)).state =
      (s.after loader.steps).after loader.steps := StoreLoader.bind_state succeeds
  rw [Store.after_after] at state
  exact Run.eq_of_parts (state.trans (StoreLoader.bind_state bound).symm) sameCalls
    (succeeds.trans bound.symm)

/-- A second sync of a store without a file makes the same calls as the first and leaves the store
    as it is. -/
theorem sync_again_changes_nothing {loader : StoreLoader} {s : Store} {files : Files}
    (inMemory : s.path = none) (succeeded : (loader.sync s files).1.failure = none)
    (later : Files) :
    loader.sync (loader.sync s files).1.state later = ((loader.sync s files).1, later) := by
  have bound := StoreLoader.bind_of_sync succeeded
  have boundAgain : (loader.bind (s.after loader.steps)).failure = none := by
    rw [StoreLoader.bind_again bound, bound]
  rw [StoreLoader.sync_state succeeded, StoreLoader.sync_eq_of_path boundAgain inMemory,
    StoreLoader.bind_again bound, StoreLoader.sync_eq_of_path bound inMemory]

/-! ## A loader to look at -/

/-- A loader whose fields share one setting although they differ in all else. -/
def sharingLoader : StoreLoader :=
  let field (description : String) (default : Value) (type : ScalarType) : StoreStep :=
    .field
      { category := "world", key := "size", default, description := some description
        restart := { mc := true }, range := none, languageKey := none
        accessor := ⟨type, false⟩, type := type.toFieldType, target := ["World", "size"]
        setter := some ⟨description, fun _ => .ok ()⟩ }
  { root := "Game"
    steps := [
      field "blocks" (.int 16) .int,
      .category ⟨"world", some "gui.world", {}, some "The world"⟩,
      field "name" (.string "large") .string,
      .category ⟨"world", none, { world := true }, some "Worlds"⟩]
    onSync := some ⟨"synced", true⟩ }

/-- A store with a value that fits neither field, and with a setting of nobody. -/
def foreignStore : Store :=
  (({} : Store).set "other" "flag" (.boolean true)).set "world" "size" (.boolean false)

/-- The value that fits neither field stays, although both are bound to their defaults. -/
theorem sharingLoader_sync_loses_nothing :
    (sharingLoader.sync foreignStore .empty).1.failure = none ∧
      sharingLoader.Retains foreignStore (sharingLoader.sync foreignStore .empty).1.state ∧
      (sharingLoader.sync foreignStore .empty).1.writes.map Prod.snd =
        [.int 16, .string "large"] :=
  ⟨rfl, sync_loses_nothing rfl, rfl⟩

/-- The second field is bound to its default again, although the setting holds that of the first. -/
theorem sharingLoader_sync_again_changes_nothing :
    ({} : Store).path = none ∧ (sharingLoader.sync {} .empty).1.failure = none ∧
      sharingLoader.sync (sharingLoader.sync {} .empty).1.state .empty =
        ((sharingLoader.sync {} .empty).1, .empty) ∧
      (sharingLoader.sync {} .empty).1.writes.map Prod.snd = [.int 16, .string "large"] :=
  ⟨rfl, rfl, sync_again_changes_nothing rfl rfl .empty, rfl⟩

end ConfigBinding
