import ConfigBinding.Binding.StoreLoader
import ConfigBinding.Proofs.Binding.Run
import ConfigBinding.Proofs.Store.Settings

/-!
# Laws of syncs

What a field is bound to, from what was stored for it before, and what a sync does besides binding.

* `StoreField.read_of_fit?`, `StoreField.read_of_unfit`: a field is bound to the stored value if it
  fits, and to its default otherwise;
* `StoreLoader.sync_writes`, `StoreLoader.hasRefusedWrite_of_sync`: only fields are written to;
* `StoreLoader.init_cases`: opening a store ends in a sync, unless it cannot be loaded.
-/

namespace ConfigBinding

/-! ## Binding a field -/

namespace StoreField

variable (field : StoreField) (s : Store)

/-- A field is bound from its setting as it was, with what is known about the field. -/
theorem setting_declare :
    field.setting (field.declare s) =
      field.decorate ((s.property? field.category field.key).getD {}) := by
  simp only [setting, declare, Store.property?_updateProperty_self, Option.getD_some]

theorem property?_declare_of_ne {category key : String}
    (different : (category, key) ≠ (field.category, field.key)) :
    (field.declare s).property? category key = s.property? category key :=
  s.property?_updateProperty_of_ne _ _ different _

/-- The setting of a field keeps the value that was stored, and gets the default of the field. -/
theorem value_setting_declare :
    (field.setting (field.declare s)).value =
      (s.value? field.category field.key <|> some field.default) := by
  rw [setting_declare, Store.value?]
  cases s.property? field.category field.key <;> rfl

theorem default_setting_declare :
    (field.setting (field.declare s)).default = some field.default := by
  rw [setting_declare]
  rfl

variable {field s}

theorem read_of_fit? {value raw : Value} (stored : s.value? field.category field.key = some value)
    (fits : value.fit? field.accessor.type = some raw) :
    (field.setting (field.declare s)).read field.accessor = raw := by
  refine StoreProperty.read_of_fit? _ _ ?_ fits
  rw [value_setting_declare, stored]
  rfl

theorem read_of_unfit
    (unfit : ∀ value ∈ s.value? field.category field.key, value.fit? field.accessor.type = none)
    (conforms : field.default.conforms field.accessor.type) :
    (field.setting (field.declare s)).read field.accessor = field.default := by
  cases stored : s.value? field.category field.key with
  | none =>
    refine StoreProperty.read_of_fit? _ _ ?_ (Value.fit?_of_conforms conforms)
    rw [value_setting_declare, stored]
    rfl
  | some value =>
    refine StoreProperty.read_of_unfit _ _ ?_ (field.default_setting_declare s) conforms
    rw [value_setting_declare, stored]
    intro candidate isValue
    exact unfit candidate (stored ▸ isValue)

end StoreField

/-! ## Syncs -/

theorem StoreLoader.write?_hookCalls (loader : StoreLoader) :
    loader.hookCalls.filterMap Call.write? = [] := by
  unfold StoreLoader.hookCalls
  split
  next hook _ => cases hook.callable <;> rfl
  next => rfl

/-- The call after a sync writes nothing. -/
theorem StoreLoader.sync_writes (loader : StoreLoader) (s : Store) (files : Files) :
    (loader.sync s files).1.writes = (loader.bind s).writes := by
  unfold StoreLoader.sync
  dsimp only
  split
  next => rfl
  next =>
    split <;> simp only [Run.writes, List.filterMap_append, StoreLoader.write?_hookCalls,
      List.append_nil]

theorem StoreLoader.hasRefusedWrite_of_sync {loader : StoreLoader} {s : Store} {files : Files}
    (refused : (loader.sync s files).1.Refused) : (loader.sync s files).1.HasRefusedWrite := by
  rw [Run.HasRefusedWrite, StoreLoader.sync_writes]
  have bindRefused : (loader.bind s).Refused := by
    obtain ⟨site, error, failed⟩ := refused
    unfold StoreLoader.sync at failed
    dsimp only at failed
    split at failed
    next => exact ⟨site, error, failed⟩
    next succeeded =>
      split at failed
      next => exact ⟨site, error, failed⟩
      next => cases failed
  refine Run.hasRefusedWrite_of_forEach ?_ bindRefused
  intro step state stepRefused
  cases step with
  | field bound => exact hasRefusedWrite_of_assign stepRefused
  | category d =>
    obtain ⟨site, error, failed⟩ := stepRefused
    cases failed

/-- What holds of every sync, and of a store that cannot be loaded, holds when a store is opened. -/
theorem StoreLoader.init_cases {loader : StoreLoader} {motive : Run Store → Prop}
    (notLoaded : ∀ s error, motive (.fail s (.store error)))
    (synced : ∀ s files, motive (loader.sync s files).1) (path : String) (files : Files) :
    motive (loader.init path files).1 := by
  unfold StoreLoader.init
  dsimp only
  split
  next error _ => exact notLoaded _ error
  next loaded _ => exact synced loaded files

end ConfigBinding
