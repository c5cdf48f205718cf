import ConfigBinding.Proofs.Binding.Emission
import ConfigBinding.Proofs.Binding.Sync

/-!
# Bindings of the same defaults

With nothing configured, the three bindings hand the same values to the same setters: what is built
from the default of each usable field, in the order of the layout. Fields of a store that share
their category and key would share a setting, so this needs fields to be told apart by them.

* `StoreLoader.bind_defaults`, `PropertyLoader.init_defaults`, `Metadata.setDefaults_defaults`: one
  binding each;
* `bindings_write_the_same_defaults`: all three.
-/

namespace ConfigBinding

/-- Whether a setter takes what is built from the default of its field. -/
def AcceptsDefault (setter : Option Setter) (type : FieldType) (default : Value) : Prop :=
  ∃ bound, setter = some bound ∧ bound.accept (type.realize default) = .ok ()

/-- Whether a write hands to the setter of a field what is built from the default of the field. -/
def IsDefaultWrite (setter : Option Setter) (type : FieldType) (default : Value)
    (write : Setter × Value) : Prop :=
  setter = some write.1 ∧ write.2 = type.realize default

def UsableField.IsDefaulted (u : UsableField) : Setter × Value → Prop :=
  IsDefaultWrite u.field.setter u.type u.default

def UsableField.storeKey (u : UsableField) : String × String :=
  (u.site.category.name, u.field.name)

def Metadata.setDefaults (m : Metadata) : Run Unit :=
  Run.forEach (fun p _ => p.set p.default) m.properties ()

theorem assign_default {σ : Type} {setter : Option Setter} {type : FieldType} {default : Value}
    (accepts : AcceptsDefault setter type default) (site : String) (state : σ) :
    (assign setter site type default state).failure = none ∧
      ∃ write, (assign setter site type default state).writes = [write] ∧
        IsDefaultWrite setter type default write := by
  obtain ⟨bound, rfl, accepted⟩ := accepts
  exact ⟨assign_accepted accepted, _, assign_writes, rfl, rfl⟩

/-! ## Stores -/

def StoreField.storeKey (field : StoreField) : String × String := (field.category, field.key)

theorem Layout.storeKeys_eq {l : Layout} (sound : ∀ part ∈ l.parts, part.IsSound) :
    (StoreLoader.ofLayout l).fields.map StoreField.storeKey =
      l.usableFields.map UsableField.storeKey := by
  apply map_eq_map_of_forall₂
  exact (Layout.storeFields_forall₂ sound).imp fun u field isStored =>
    Prod.ext isStored.category isStored.key

/-- Fields that are still to be bound in a store without a file. Nothing is stored for any of them,
    and binding one stores nothing for another. -/
structure Store.Awaits (s : Store) (fields : List StoreField) : Prop where
  unsaved : s.path = none
  distinct : (fields.map StoreField.storeKey).Nodup
  absent : ∀ field ∈ fields, s.value? field.category field.key = none
  fits : ∀ field ∈ fields, field.default.conforms field.accessor.type
  accepts : ∀ field ∈ fields, AcceptsDefault field.setter field.type field.default

theorem Store.Awaits.updateCategory {s : Store} {fields : List StoreField}
    (awaits : s.Awaits fields) (d : Decoration) :
    (s.updateCategory d.name d.decorate).Awaits fields where
  unsaved := awaits.unsaved
  distinct := awaits.distinct
  absent field member := by
    have keeps : ∀ c, (d.decorate c).properties = c.properties := fun _ => rfl
    rw [Store.value?, s.property?_updateCategory d.name keeps]
    exact awaits.absent field member
  fits := awaits.fits
  accepts := awaits.accepts

theorem Store.Awaits.declare {s : Store} {field : StoreField} {rest : List StoreField}
    (awaits : s.Awaits (field :: rest)) : (field.declare s).Awaits rest where
  unsaved := awaits.unsaved
  distinct := awaits.distinct.of_cons
  absent other member := by
    have different : other.storeKey ≠ field.storeKey := by
      intro same
      refine (List.nodup_cons.mp awaits.distinct).1 ?_
      exact same ▸ List.mem_map_of_mem member
    rw [Store.value?, field.property?_declare_of_ne s different]
    exact awaits.absent other (List.mem_cons_of_mem field member)
  fits other member := awaits.fits other (List.mem_cons_of_mem field member)
  accepts other member := awaits.accepts other (List.mem_cons_of_mem field member)

/-- A field for which nothing is stored is bound to its default. -/
theorem Store.Awaits.bind_eq {s : Store} {field : StoreField} {rest : List StoreField}
    (awaits : s.Awaits (field :: rest)) :
    field.bind s =
      assign field.setter (field.category ++ "." ++ field.key) field.type field.default
        (field.declare s) := by
  have absent := awaits.absent field List.mem_cons_self
  have unfit : ∀ value ∈ s.value? field.category field.key,
      value.fit? field.accessor.type = none := by simp [absent]
  rw [StoreField.bind, StoreField.read_of_unfit unfit (awaits.fits field List.mem_cons_self)]

theorem StoreLoader.bind_defaults {loader : StoreLoader} {s : Store}
    (awaits : s.Awaits loader.fields) :
    (loader.bind s).failure = none ∧
      List.Forall₂ (fun field => IsDefaultWrite field.setter field.type field.default) loader.fields
        (loader.bind s).writes ∧
      (loader.bind s).state.Awaits [] := by
  refine Run.forEach_succeeds StoreStep.field?
    (fun steps (s : Store) => s.Awaits (steps.filterMap StoreStep.field?)) ?oneStep ?uncounted
    ?oneWrite awaits
  case oneStep =>
    intro step rest state awaits
    cases step with
    | field bound =>
      have isNext : state.Awaits (bound :: rest.filterMap StoreStep.field?) := awaits
      refine ⟨?_, ?_⟩
      · rw [StoreStep.run, isNext.bind_eq]
        exact (assign_default (isNext.accepts bound List.mem_cons_self) _ _).1
      · rw [StoreStep.run, StoreField.bind, assign_state]
        exact isNext.declare
    | category d => exact ⟨rfl, Store.Awaits.updateCategory awaits d⟩
  case uncounted =>
    intro step rest state _ notField
    cases step with
    | field bound => cases notField
    | category d => rfl
  case oneWrite =>
    intro step rest state awaits bound isField
    cases step with
    | field other =>
      cases isField
      have isNext : state.Awaits (bound :: rest.filterMap StoreStep.field?) := awaits
      rw [StoreStep.run, isNext.bind_eq]
      exact (assign_default (isNext.accepts bound List.mem_cons_self) _ _).2
    | category d => cases isField

/-- A store without a file needs no saving, so a sync ends as the binding does. -/
theorem StoreLoader.sync_succeeds {loader : StoreLoader} {s : Store}
    (awaits : s.Awaits loader.fields) (files : Files) :
    (loader.sync s files).1.failure = none := by
  obtain ⟨succeeded, -, atEnd⟩ := loader.bind_defaults awaits
  simp only [StoreLoader.sync, succeeded, Store.save, atEnd.unsaved]

/-! ## Properties -/

theorem PropertyLoader.init_defaults {loader : PropertyLoader} {source : PropertySource}
    (absent : ∀ field ∈ loader.fields, source field.key = none)
    (accepts : ∀ field ∈ loader.fields, AcceptsDefault field.setter field.type field.default) :
    (loader.init source).failure = none ∧
      List.Forall₂ (fun field => IsDefaultWrite field.setter field.type field.default) loader.fields
        (loader.init source).writes := by
  refine Run.forEach_succeeds_each (fun field member state => ?_) ()
  rw [PropertyField.bind, PropertySource.lookup, absent field member]
  exact assign_default (accepts field member) _ _

/-! ## Metadata -/

theorem Metadata.setDefaults_defaults {m : Metadata}
    (oneProperty : ∀ p ∈ m.properties, p.default.conforms p.representation ∧
      p.convert p.default = p.type.realize p.default ∧ AcceptsDefault p.setter p.type p.default) :
    m.setDefaults.failure = none ∧
      List.Forall₂ (fun p => IsDefaultWrite p.setter p.type p.default) m.properties
        m.setDefaults.writes := by
  refine Run.forEach_succeeds_each (fun p member _ => ?_) ()
  obtain ⟨fits, converts, bound, isBound, accepted⟩ := oneProperty p member
  rw [Property.set_of_fit? isBound (Value.fit?_of_conforms fits), converts]
  refine ⟨?_, (bound, p.type.realize p.default), ?_, isBound, rfl⟩
  · rw [call_failure, accepted]
  · rw [Run.writes, call_calls]
    rfl

/-! ## All bindings -/

def Run.SucceedsWith {σ : Type} (run : Run σ) (writes : List (Setter × Value)) : Prop :=
  run.failure = none ∧ run.writes = writes

theorem UsableField.isDefaulted_unique {u : UsableField} {write other : Setter × Value}
    (first : u.IsDefaulted write) (second : u.IsDefaulted other) : write = other := by
  refine Prod.ext ?_ (first.2.trans second.2.symm)
  exact Option.some.inj (first.1.symm.trans second.1)

section Surveyed

variable {l : Layout} (sound : ∀ part ∈ l.parts, part.IsSound)
  (accepts : ∀ u ∈ l.usableFields, AcceptsDefault u.field.setter u.type u.default)

include sound accepts

theorem Layout.awaits_of_empty (distinct : (l.usableFields.map UsableField.storeKey).Nodup) :
    ({} : Store).Awaits (StoreLoader.ofLayout l).fields := by
  have stored := Layout.storeFields_forall₂ sound
  constructor
  case unsaved => rfl
  case distinct => rwa [Layout.storeKeys_eq sound]
  case absent => exact fun field _ => rfl
  case fits =>
    intro field member
    obtain ⟨u, isUsable, isStored⟩ := exists_of_mem_right stored member
    rw [FieldType.type_of_accessor? isStored.accessor, isStored.default,
      Value.conforms_representation]
    exact (Layout.isSound_of_mem_usableFields sound isUsable).fits
  case accepts =>
    intro field member
    obtain ⟨u, isUsable, isStored⟩ := exists_of_mem_right stored member
    rw [isStored.setter, isStored.type, isStored.default]
    exact accepts u isUsable

theorem Layout.sync_defaults (distinct : (l.usableFields.map UsableField.storeKey).Nodup)
    (files : Files) :
    ((StoreLoader.ofLayout l).sync {} files).1.failure = none ∧
      List.Forall₂ UsableField.IsDefaulted l.usableFields
        ((StoreLoader.ofLayout l).sync {} files).1.writes := by
  have awaits := Layout.awaits_of_empty sound accepts distinct
  refine ⟨StoreLoader.sync_succeeds awaits files, ?_⟩
  obtain ⟨-, written, -⟩ := (StoreLoader.ofLayout l).bind_defaults awaits
  rw [StoreLoader.sync_writes]
  refine forall₂_of_common (Layout.storeFields_forall₂ sound).flip written ?_
  intro field _ u write isStored isDefault
  rwa [isStored.setter, isStored.type, isStored.default] at isDefault

theorem Layout.init_defaults {source : PropertySource}
    (absent : ∀ field ∈ (PropertyLoader.ofLayout l).fields, source field.key = none) :
    ((PropertyLoader.ofLayout l).init source).failure = none ∧
      List.Forall₂ UsableField.IsDefaulted l.usableFields
        ((PropertyLoader.ofLayout l).init source).writes := by
  have read := Layout.propertyFields_forall₂ sound
  have acceptsAll : ∀ field ∈ (PropertyLoader.ofLayout l).fields,
      AcceptsDefault field.setter field.type field.default := by
    intro field member
    obtain ⟨u, isUsable, isRead⟩ := exists_of_mem_right read member
    rw [isRead.setter, isRead.type, isRead.default]
    exact accepts u isUsable
  obtain ⟨succeeded, written⟩ := PropertyLoader.init_defaults absent acceptsAll
  refine ⟨succeeded, forall₂_of_common read.flip written ?_⟩
  intro field _ u write isRead isDefault
  rwa [isRead.setter, isRead.type, isRead.default] at isDefault

theorem Layout.setDefaults_defaults :
    (Metadata.ofLayout l).setDefaults.failure = none ∧
      List.Forall₂ UsableField.IsDefaulted l.usableFields
        (Metadata.ofLayout l).setDefaults.writes := by
  have kept := Layout.properties_forall₂ l
  have oneProperty : ∀ p ∈ (Metadata.ofLayout l).properties, p.default.conforms p.representation ∧
      p.convert p.default = p.type.realize p.default ∧
      AcceptsDefault p.setter p.type p.default := by
    intro p member
    obtain ⟨u, isUsable, isKept⟩ := exists_of_mem_right kept member
    rw [isKept.converts, isKept.setter, isKept.representation, isKept.type, isKept.default,
      Value.conforms_representation]
    exact ⟨(Layout.isSound_of_mem_usableFields sound isUsable).fits, rfl, accepts u isUsable⟩
  obtain ⟨succeeded, written⟩ := Metadata.setDefaults_defaults oneProperty
  refine ⟨succeeded, forall₂_of_common kept.flip written ?_⟩
  intro p _ u write isKept isDefault
  rwa [isKept.setter, isKept.type, isKept.default] at isDefault

end Surveyed

/-- With nothing configured the three bindings of a surveyed layout make the same writes, field by
    field: each usable field gets what is built from its default. -/
theorem bindings_write_the_same_defaults {root : ClassDecl} {l : Layout}
    (surveyed : root.survey.1 = some l) (distinct : (l.usableFields.map UsableField.storeKey).Nodup)
    (accepts : ∀ u ∈ l.usableFields, AcceptsDefault u.field.setter u.type u.default)
    (source : PropertySource)
    (absent : ∀ field ∈ (PropertyLoader.ofLayout l).fields, source field.key = none)
    (files : Files) :
    ∃ writes, List.Forall₂ UsableField.IsDefaulted l.usableFields writes ∧
      ((StoreLoader.ofLayout l).sync {} files).1.SucceedsWith writes ∧
      ((PropertyLoader.ofLayout l).init source).SucceedsWith writes ∧
      (Metadata.ofLayout l).setDefaults.SucceedsWith writes := by
  have sound := ClassDecl.survey_isSound surveyed
  obtain ⟨syncSucceeds, syncWrites⟩ := Layout.sync_defaults sound accepts distinct files
  obtain ⟨initSucceeds, initWrites⟩ := Layout.init_defaults sound accepts absent
  obtain ⟨setSucceeds, setWrites⟩ := Layout.setDefaults_defaults sound accepts
  have unique : Relator.RightUnique UsableField.IsDefaulted :=
    fun u write other => UsableField.isDefaulted_unique
  refine ⟨_, syncWrites, ⟨syncSucceeds, rfl⟩, ⟨initSucceeds, ?_⟩, ⟨setSucceeds, ?_⟩⟩
  · exact List.right_unique_forall₂' unique initWrites syncWrites
  · exact List.right_unique_forall₂' unique setWrites syncWrites

/-- The default that was declared as an int is written as a double. -/
theorem gameRoot_bindings_write_the_same_defaults :
    gameRoot.survey.1 = some gameLayout ∧
      (gameLayout.usableFields.map UsableField.storeKey).Nodup ∧
      (∀ u ∈ gameLayout.usableFields, AcceptsDefault u.field.setter u.type u.default) ∧
      ∀ files, ∃ writes, writes.map Prod.snd = [
          .collection "java.util.List" .append [.string "ann", .string "bob"],
          .double (.ofInt 2)] ∧
        ((StoreLoader.ofLayout gameLayout).sync {} files).1.SucceedsWith writes ∧
        ((PropertyLoader.ofLayout gameLayout).init fun _ => none).SucceedsWith writes ∧
        (Metadata.ofLayout gameLayout).setDefaults.SucceedsWith writes := by
  have distinct : (gameLayout.usableFields.map UsableField.storeKey).Nodup := by decide +kernel
  have accepts : ∀ u ∈ gameLayout.usableFields, AcceptsDefault u.field.setter u.type u.default :=
    gameLayout_forall ⟨_, rfl, rfl⟩ ⟨_, rfl, rfl⟩
  refine ⟨gameRoot_survey, distinct, accepts, fun files => ?_⟩
  obtain ⟨writes, written, same⟩ :=
    bindings_write_the_same_defaults gameRoot_survey distinct accepts (fun _ => none)
      (fun _ _ => rfl) files
  have values : writes.map Prod.snd =
      gameLayout.usableFields.map fun u => u.type.realize u.default :=
    map_eq_map_of_forall₂ (written.imp fun u write isDefaulted => isDefaulted.2)
  exact ⟨writes, values.trans rfl, same⟩

end ConfigBinding
