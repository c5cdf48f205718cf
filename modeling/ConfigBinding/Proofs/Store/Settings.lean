import ConfigBinding.Proofs.Types.Fit

/-!
# Settings of a store

What is found in a store after it was changed, and what is read from a setting.

* `Store.property?_updateProperty_self`, `Store.property?_updateProperty_of_ne`,
  `Store.property?_updateCategory`: the setting under a category and key after a change;
* `StoreProperty.read_of_fit?`, `StoreProperty.read_of_unfit`: what is read, the stored value if it
  fits and a default that fits otherwise;
* `StoreProperty.read_conforms`: it always has the shape that is asked for.
-/

namespace ConfigBinding

/-! ## Dictionaries -/

namespace Dictionary

variable {α : Type}

theorem lookup_update_self (entries : List (String × α)) (key : String) (initial : α)
    (change : α → α) :
    (update entries key initial change).lookup key =
      some (change ((entries.lookup key).getD initial)) := by
  induction entries with
  | nil => simp [update]
  | cons entry rest inductionHypothesis =>
    obtain ⟨name, value⟩ := entry
    by_cases same : name = key
    · subst same
      simp [update]
    · have different : (key == name) = false := by simpa using Ne.symm same
      simp [update, same, List.lookup_cons, different, inductionHypothesis]

theorem lookup_update_of_ne (entries : List (String × α)) {key other : String}
    (different : other ≠ key) (initial : α) (change : α → α) :
    (update entries key initial change).lookup other = entries.lookup other := by
  have notFound : (other == key) = false := by simpa using different
  induction entries with
  | nil => simp [update, List.lookup_cons, notFound]
  | cons entry rest inductionHypothesis =>
    obtain ⟨name, value⟩ := entry
    by_cases same : name = key
    · subst same
      simp [update, List.lookup_cons, notFound]
    · simp only [update, same, ↓reduceIte, List.lookup_cons, inductionHypothesis]

end Dictionary

/-! ## Changes to a store -/

def Store.value? (s : Store) (category key : String) : Option Value :=
  (s.property? category key).bind StoreProperty.value

namespace Store

variable (s : Store) (category key : String)

theorem category?_updateCategory_self (change : StoreCategory → StoreCategory) :
    (s.updateCategory category change).category? category =
      some (change ((s.category? category).getD {})) :=
  Dictionary.lookup_update_self _ _ _ _

theorem category?_updateCategory_of_ne {other : String} (different : other ≠ category)
    (change : StoreCategory → StoreCategory) :
    (s.updateCategory category change).category? other = s.category? other :=
  Dictionary.lookup_update_of_ne _ different _ _

/-- Changing what is known about a category leaves all settings as they are. -/
theorem property?_updateCategory {change : StoreCategory → StoreCategory}
    (keeps : ∀ c, (change c).properties = c.properties) (otherCategory otherKey : String) :
    (s.updateCategory category change).property? otherCategory otherKey =
      s.property? otherCategory otherKey := by
  by_cases same : otherCategory = category
  · subst same
    simp only [property?, category?_updateCategory_self, Option.bind_some, keeps]
    cases s.category? otherCategory <;> rfl
  · simp only [property?, s.category?_updateCategory_of_ne category same]

theorem property?_updateProperty_self (change : StoreProperty → StoreProperty) :
    (s.updateProperty category key change).property? category key =
      some (change ((s.property? category key).getD {})) := by
  simp only [property?, updateProperty, category?_updateCategory_self, Option.bind_some,
    Dictionary.lookup_update_self]
  cases s.category? category <;> rfl

theorem property?_updateProperty_of_ne {otherCategory otherKey : String}
    (different : (otherCategory, otherKey) ≠ (category, key))
    (change : StoreProperty → StoreProperty) :
    (s.updateProperty category key change).property? otherCategory otherKey =
      s.property? otherCategory otherKey := by
  by_cases same : otherCategory = category
  · subst same
    have keysDiffer : otherKey ≠ key := fun sameKey => different (by rw [sameKey])
    simp only [property?, updateProperty, category?_updateCategory_self, Option.bind_some,
      Dictionary.lookup_update_of_ne _ keysDiffer]
    cases s.category? otherCategory <;> rfl
  · simp only [property?, updateProperty, s.category?_updateCategory_of_ne category same]

end Store

/-! ## Reading a setting -/

namespace StoreProperty

variable (p : StoreProperty) (accessor : Accessor)

/-- A stored value that fits is what is read. -/
theorem read_of_fit? {value raw : Value} (stored : p.value = some value)
    (fits : value.fit? accessor.type = some raw) : p.read accessor = raw := by
  simp [read, stored, fits]

/-- Without a stored value that fits, a default that fits is what is read. -/
theorem read_of_unfit {default : Value} (unfit : ∀ value ∈ p.value, value.fit? accessor.type = none)
    (isDefault : p.default = some default) (conforms : default.conforms accessor.type) :
    p.read accessor = default := by
  have noValue : (p.value.bind fun value => value.fit? accessor.type) = none :=
    Option.bind_eq_none_iff.mpr unfit
  simp only [read, isDefault, noValue, Option.bind_some, Value.fit?_of_conforms conforms]
  rfl

theorem read_conforms : (p.read accessor).conforms accessor.type := by
  have fitting : ∀ (candidate : Option Value) (raw : Value),
      (candidate.bind fun value => value.fit? accessor.type) = some raw →
        raw.conforms accessor.type := by
    intro candidate raw found
    obtain ⟨value, -, fits⟩ := Option.bind_eq_some_iff.mp found
    exact Value.fit?_conforms fits
  obtain ⟨zero, known⟩ := accessor.zero?_type
  simp only [read]
  cases fromValue : p.value.bind fun value => value.fit? accessor.type with
  | some raw => exact fitting _ raw fromValue
  | none =>
    cases fromDefault : p.default.bind fun value => value.fit? accessor.type with
    | some raw => exact fitting _ raw fromDefault
    | none =>
      simp only [known]
      exact FieldType.zero?_conforms known

end StoreProperty

end ConfigBinding
