import ConfigBinding.Host
import ConfigBinding.Proofs.Binding.Emission
import ConfigBinding.Proofs.Binding.Sync
import ConfigBinding.Proofs.Types.Texts

/-!
# Binding is type safe

Whatever is stored, configured or written, a setter is only ever handed a value built for the type
of its field. A setter that writes to a place of the fitting host type therefore never refuses what
a binding hands it.

* `Layout.sync_typesWrites`, `Layout.init_typesWrites`, `Property.set_isTyped`: what each binding
  writes;
* `UsableField.accepts_of_isTyped`: a slot of the fitting host type takes all of it;
* `binding_is_type_safe`: all of them, and what follows for setters of the fitting host types.
-/

namespace ConfigBinding

/-- Whether a write hands a value to the setter of a field, built for the type of the field from a
    value of some shape. -/
def IsTypedWrite (setter : Option Setter) (shape type : FieldType) (write : Setter × Value) :
    Prop :=
  setter = some write.1 ∧ ∃ raw : Value, raw.conforms shape ∧ write.2 = type.realize raw

def UsableField.IsTyped (u : UsableField) (write : Setter × Value) : Prop :=
  IsTypedWrite u.field.setter u.type.representation u.type write

/-- Whether a run writes once to each of the usable fields that it gets to. -/
def Layout.TypesWrites {σ : Type} (l : Layout) (run : Run σ) : Prop :=
  ∃ done, done <+: l.usableFields ∧ List.Forall₂ UsableField.IsTyped done run.writes

/-- Whether the setter of a field, if there is one, is that of a place of the fitting host type. -/
def UsableField.HasFittingSlot (u : UsableField) : Prop :=
  ∀ setter, u.field.setter = some setter →
    ∃ place type, u.type.hostType? = some type ∧ setter = .slot place type

/-! ## What is written -/

/-- A run whose writes are those of entries for usable fields writes to these fields. -/
theorem Layout.typesWrites_of_forall₂ {σ β : Type} {l : Layout} {run : Run σ}
    {entryOf : UsableField → β → Prop} {entries : List β} {made : β → Setter × Value → Prop}
    (related : List.Forall₂ entryOf l.usableFields entries)
    (typed : ∀ u entry write, entryOf u entry → made entry write → u.IsTyped write)
    (madeWrites : ∃ done, done <+: entries ∧ List.Forall₂ made done run.writes) :
    l.TypesWrites run := by
  obtain ⟨done, isPrefix, doneMade⟩ := madeWrites
  obtain ⟨fields, fieldsPrefix, fieldsRelated⟩ := exists_prefix_of_forall₂ related isPrefix
  refine ⟨fields, fieldsPrefix, ?_⟩
  exact forall₂_of_common fieldsRelated.flip doneMade
    fun entry _ u write isEntry isMade => typed u entry write isEntry isMade

/-- Whatever the store holds, a field is bound to a value of the shape that its accessor reads. -/
theorem StoreField.bind_writes (field : StoreField) (s : Store) :
    (∃ write, (field.bind s).writes = [write] ∧
        IsTypedWrite field.setter field.accessor.type field.type write) ∨
      (field.bind s).writes = [] ∧ ∃ error, (field.bind s).failure = some error := by
  refine (assign_writes_or_fails field.setter).imp_left ?_
  rintro ⟨setter, bound, writes⟩
  exact ⟨_, writes, bound, _, StoreProperty.read_conforms _ _, rfl⟩

theorem PropertyField.bind_writes (field : PropertyField) (source : PropertySource)
    (fits : field.default.conforms field.accessor.type) :
    (∃ write, (field.bind source ()).writes = [write] ∧
        IsTypedWrite field.setter field.accessor.type field.type write) ∨
      (field.bind source ()).writes = [] ∧
        ∃ error, (field.bind source ()).failure = some error := by
  unfold PropertyField.bind
  split
  next error => exact .inr ⟨rfl, _, rfl⟩
  next raw found =>
    refine (assign_writes_or_fails field.setter).imp_left ?_
    rintro ⟨setter, bound, writes⟩
    exact ⟨_, writes, bound, raw, PropertySource.lookup_conforms fits found, rfl⟩

theorem Layout.sync_typesWrites {l : Layout} (sound : ∀ part ∈ l.parts, part.IsSound) (s : Store)
    (files : Files) : l.TypesWrites ((StoreLoader.ofLayout l).sync s files).1 := by
  have written : ∃ done, done <+: (StoreLoader.ofLayout l).fields ∧
      List.Forall₂ (fun field => IsTypedWrite field.setter field.accessor.type field.type) done
        ((StoreLoader.ofLayout l).bind s).writes := by
    refine Run.forEach_writes StoreStep.field? ?uncounted ?oneWrite s
    case uncounted =>
      intro step _ notField state
      cases step with
      | field bound => cases notField
      | category d => rfl
    case oneWrite =>
      intro step _ bound isField state
      cases step with
      | field other =>
        cases isField
        exact bound.bind_writes state
      | category d => cases isField
  simp only [Layout.TypesWrites, StoreLoader.sync_writes]
  refine Layout.typesWrites_of_forall₂ (Layout.storeFields_forall₂ sound) ?_ written
  rintro u field write stored ⟨bound, raw, conforms, value⟩
  rw [FieldType.type_of_accessor? stored.accessor] at conforms
  exact ⟨stored.setter ▸ bound, raw, conforms, stored.type ▸ value⟩

theorem Layout.init_typesWrites {l : Layout} (sound : ∀ part ∈ l.parts, part.IsSound)
    (source : PropertySource) : l.TypesWrites ((PropertyLoader.ofLayout l).init source) := by
  have read := Layout.propertyFields_forall₂ sound
  have fits : ∀ field ∈ (PropertyLoader.ofLayout l).fields,
      field.default.conforms field.accessor.type := by
    intro field member
    obtain ⟨u, isUsable, isRead⟩ := exists_of_mem_right read member
    rw [FieldType.type_of_accessor? isRead.accessor, isRead.default, Value.conforms_representation]
    exact (Layout.isSound_of_mem_usableFields sound isUsable).fits
  have written : ∃ done, done <+: (PropertyLoader.ofLayout l).fields.filterMap some ∧
      List.Forall₂ (fun field => IsTypedWrite field.setter field.accessor.type field.type) done
        ((PropertyLoader.ofLayout l).init source).writes := by
    refine Run.forEach_writes some (fun _ _ isCounted => nomatch isCounted) ?_ ()
    rintro field member _ ⟨⟩ ⟨⟩
    exact field.bind_writes source (fits field member)
  rw [List.filterMap_some] at written
  refine Layout.typesWrites_of_forall₂ read ?_ written
  rintro u field write isRead ⟨bound, raw, conforms, value⟩
  rw [FieldType.type_of_accessor? isRead.accessor] at conforms
  exact ⟨isRead.setter ▸ bound, raw, conforms, isRead.type ▸ value⟩

theorem Property.set_isTyped {u : UsableField} {p : Property} (kept : u.IsKeptBy p)
    (value : Value) : ∀ write ∈ (p.set value).writes, u.IsTyped write := by
  intro write member
  cases bound : p.setter with
  | none =>
    rw [Property.set_of_unbound bound] at member
    cases member
  | some setter =>
    cases fits : value.fit? p.representation with
    | none =>
      rw [Property.set_of_unfit bound fits] at member
      cases member
    | some raw =>
      rw [Property.set_of_fit? bound fits, Run.writes, call_calls] at member
      obtain rfl : write = (setter, p.convert raw) := List.mem_singleton.mp member
      refine ⟨kept.setter ▸ bound, raw, ?_, kept.converts raw⟩
      rw [← kept.representation]
      exact Value.fit?_conforms fits

/-! ## Fitting slots -/

/-- A slot of the fitting host type takes every value built for the type of its field. -/
theorem UsableField.accepts_of_isTyped {u : UsableField} (hasSlot : u.HasFittingSlot)
    {write : Setter × Value} (typed : u.IsTyped write) : write.1.accept write.2 = .ok () := by
  obtain ⟨bound, raw, conforms, value⟩ := typed
  obtain ⟨place, host, fitting, isSlot⟩ := hasSlot write.1 bound
  simp only [FieldType.hostType?, Option.map_eq_some_iff] at fitting
  obtain ⟨accessor, readable, rfl⟩ := fitting
  obtain ⟨converted, converts⟩ := FieldType.hostType_converts_realize readable conforms
  rw [isSlot, value, Setter.accept_slot, converts]
  rfl

/-- A run of typed writes to fitting slots is not stopped by a refused value. -/
theorem Layout.TypesWrites.not_refused {σ : Type} {l : Layout} {run : Run σ}
    (typesWrites : l.TypesWrites run) (slots : ∀ u ∈ l.usableFields, u.HasFittingSlot)
    (fromWrite : run.Refused → run.HasRefusedWrite) : ¬ run.Refused := by
  intro refused
  obtain ⟨write, member, error, isRefused⟩ := fromWrite refused
  obtain ⟨done, isPrefix, typed⟩ := typesWrites
  obtain ⟨u, isDone, isTyped⟩ := exists_of_mem_right typed member
  have accepted := u.accepts_of_isTyped (slots u (isPrefix.subset isDone)) isTyped
  rw [accepted] at isRefused
  cases isRefused

theorem PropertyLoader.hasRefusedWrite_of_init {loader : PropertyLoader} {source : PropertySource}
    (refused : (loader.init source).Refused) : (loader.init source).HasRefusedWrite := by
  refine Run.hasRefusedWrite_of_forEach ?_ refused
  intro field state fieldRefused
  unfold PropertyField.bind at fieldRefused ⊢
  split at fieldRefused
  next =>
    obtain ⟨site, error, failed⟩ := fieldRefused
    cases failed
  next => exact hasRefusedWrite_of_assign fieldRefused

/-- A property of a fitting slot refuses only what it cannot give the shape of its type. -/
theorem Property.unfit_of_refused {u : UsableField} {p : Property} (kept : u.IsKeptBy p)
    (hasSlot : u.HasFittingSlot) {value : Value} (refused : (p.set value).Refused) :
    value.conforms u.type.representation = false ∧ value.widen? u.type.representation = none := by
  cases fits : value.fit? u.type.representation with
  | none =>
    unfold Value.fit? at fits
    split at fits
    next => cases fits
    next unfit => exact ⟨by simpa using unfit, fits⟩
  | some raw =>
    obtain ⟨site, error, failed⟩ := refused
    rw [← kept.representation] at fits
    cases bound : p.setter with
    | none =>
      rw [Property.set_of_unbound bound] at failed
      cases failed
    | some setter =>
      -- The value was handed to the slot, so the slot would have refused it.
      have typed := Property.set_isTyped kept value (setter, p.convert raw)
      rw [Property.set_of_fit? bound fits] at typed failed
      have accepted := u.accepts_of_isTyped hasSlot (typed (by simp [Run.writes, Call.write?]))
      rw [call_failure, accepted] at failed
      cases failed

/-- Binding is type safe: a sync of any store, an init from any properties and a write of any value
    only hand values built for the type of a field to the setter of the field. So when the setters
    are slots of the fitting host types, no sync and no init is stopped by a refused value, and a
    write only by a value that does not fit. -/
theorem binding_is_type_safe {root : ClassDecl} {l : Layout} (surveyed : root.survey.1 = some l) :
    (∀ s files, l.TypesWrites ((StoreLoader.ofLayout l).sync s files).1) ∧
      (∀ path files, l.TypesWrites ((StoreLoader.ofLayout l).init path files).1) ∧
      (∀ source, l.TypesWrites ((PropertyLoader.ofLayout l).init source)) ∧
      List.Forall₂ (fun u p => ∀ value, ∀ write ∈ (p.set value).writes, u.IsTyped write)
        l.usableFields (Metadata.ofLayout l).properties ∧
      ((∀ u ∈ l.usableFields, u.HasFittingSlot) →
        (∀ s files, ¬ ((StoreLoader.ofLayout l).sync s files).1.Refused) ∧
          (∀ path files, ¬ ((StoreLoader.ofLayout l).init path files).1.Refused) ∧
          (∀ source, ¬ ((PropertyLoader.ofLayout l).init source).Refused) ∧
          List.Forall₂ (fun u p => ∀ value, (p.set value).Refused →
            value.conforms u.type.representation = false ∧
              value.widen? u.type.representation = none)
            l.usableFields (Metadata.ofLayout l).properties) := by
  have sound := ClassDecl.survey_isSound surveyed
  have kept := Layout.properties_forall₂ l
  have syncWrites := fun s files => Layout.sync_typesWrites sound s files
  have initWrites := Layout.init_typesWrites sound
  refine ⟨syncWrites, ?_, initWrites, kept.imp fun u p isKept => Property.set_isTyped isKept,
    fun slots => ?_⟩
  · exact StoreLoader.init_cases (fun s error => ⟨[], List.nil_prefix, .nil⟩) syncWrites
  · have syncAccepted : ∀ s files, ¬ ((StoreLoader.ofLayout l).sync s files).1.Refused :=
      fun s files => (syncWrites s files).not_refused slots StoreLoader.hasRefusedWrite_of_sync
    refine ⟨syncAccepted, ?_, ?_, ?_⟩
    · refine StoreLoader.init_cases (motive := fun run => ¬ run.Refused) ?_ syncAccepted
      rintro s error ⟨site, refusal, failed⟩
      cases failed
    · exact fun source =>
        (initWrites source).not_refused slots PropertyLoader.hasRefusedWrite_of_init
    · have withSlots := (List.forall₂_and_left _ _).mpr ⟨slots, kept⟩
      exact withSlots.imp fun u p both _ => Property.unfit_of_refused both.2 both.1

theorem gameRoot_binding_is_type_safe :
    gameRoot.survey.1 = some gameLayout ∧ (∀ u ∈ gameLayout.usableFields, u.HasFittingSlot) ∧
      (∀ s files, gameLayout.TypesWrites ((StoreLoader.ofLayout gameLayout).sync s files).1) ∧
      (∀ s files, ¬ ((StoreLoader.ofLayout gameLayout).sync s files).1.Refused) ∧
      (∀ source, ¬ ((PropertyLoader.ofLayout gameLayout).init source).Refused) := by
  have slots : ∀ u ∈ gameLayout.usableFields, u.HasFittingSlot := by
    refine gameLayout_forall (p := fun setter type _ => ∀ bound, setter = some bound →
      ∃ place host, type.hostType? = some host ∧ bound = .slot place host) ?names ?ratio
    case names | ratio =>
      rintro _ ⟨⟩
      exact ⟨_, _, rfl, rfl⟩
  obtain ⟨syncWrites, -, -, -, accepted⟩ := binding_is_type_safe gameRoot_survey
  obtain ⟨syncAccepted, -, initAccepted, -⟩ := accepted slots
  exact ⟨gameRoot_survey, slots, syncWrites, syncAccepted, initAccepted⟩

end ConfigBinding
