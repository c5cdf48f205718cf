import ConfigBinding.Proofs.Binding.Emission
import ConfigBinding.Proofs.Layout.Isolation

/-!
# Fields in bindings are independent

Layouts that differ in one field have bindings that differ in the entry of this field, so however a
field is declared, only its own entry and what is reported about it depend on the declaration.

* `Layout.Exchanges.sameEntries`: what is made category by category from such layouts;
* `field_declaration_affects_only_its_field`: roots that differ in the declaration of one field.
-/

namespace ConfigBinding

variable {f g : Field} {name : String} {path : List String}

section Entries

variable {β : Type} {entries : List String → Category → List β}
  (ofField : List String → String → Field → Option β) (ofCategory : Category → Option β)

/-- By induction on the way down to the field: what is made of all else on the way is the same. -/
theorem Category.Exchanges.sameEntries {c c' : Category} (exchanges : c.Exchanges f g name path c')
    (unfolds : ∀ above c, entries above c =
      c.children.flatMap (entries (above ++ [c.ident])) ++
        c.fields.filterMap (ofField (above ++ [c.ident]) c.name) ++ (ofCategory c).toList)
    (plain : ∀ c children fields, ofCategory { c with children, fields } = ofCategory c)
    (above : List String) :
    SameAround (ofField (above ++ path) name f).toList (ofField (above ++ path) name g).toList
      (entries above c) (entries above c') := by
  induction exchanges generalizing above with
  | @own c c' before after isNamed fields changed =>
    have around := (SameAround.self (ofField (above ++ [c.ident]) name f).toList
      (ofField (above ++ [c.ident]) name g).toList).within
        (c.children.flatMap (entries (above ++ [c.ident])) ++
          before.filterMap (ofField (above ++ [c.ident]) name))
        (after.filterMap (ofField (above ++ [c.ident]) name) ++ (ofCategory c).toList)
    rw [unfolds, unfolds, fields, changed, plain c c.children]
    simpa only [filterMap_around, List.append_assoc, isNamed] using around
  | @child path c c' inner inner' before after children inside changed inductionHypothesis =>
    have around := (inductionHypothesis (above ++ [c.ident])).within
      (before.flatMap (entries (above ++ [c.ident])))
      (after.flatMap (entries (above ++ [c.ident])) ++
        (c.fields.filterMap (ofField (above ++ [c.ident]) c.name) ++ (ofCategory c).toList))
    rw [unfolds above, unfolds above, children, changed, plain c _ c.fields]
    simpa only [List.flatMap_append, List.flatMap_cons, List.append_assoc,
      List.singleton_append, inside.ident] using around

theorem Layout.Exchanges.sameEntries {l l' : Layout} (exchanges : l.Exchanges f g name path l')
    (unfolds : ∀ above c, entries above c =
      c.children.flatMap (entries (above ++ [c.ident])) ++
        c.fields.filterMap (ofField (above ++ [c.ident]) c.name) ++ (ofCategory c).toList)
    (plain : ∀ c children fields, ofCategory { c with children, fields } = ofCategory c) :
    SameAround (ofField path name f).toList (ofField path name g).toList
      (l.categories.flatMap (entries [])) (l'.categories.flatMap (entries [])) := by
  obtain ⟨categories, inside, changed⟩ := exchanges
  rw [changed, categories]
  simpa only [List.flatMap_append, List.flatMap_cons, List.append_assoc, List.nil_append] using
    (inside.sameEntries ofField ofCategory unfolds plain []).within _ _

end Entries

/-- The step that binds a field of the category with a name at a path, if it is of a usable type. -/
def Field.storeSteps (languagePrefix : Option String) (category : String) (path : List String)
    (f : Field) : List StoreStep :=
  ((f.storeField? languagePrefix category path).map StoreStep.field).toList

theorem Layout.Exchanges.steps {l l' : Layout} (exchanges : l.Exchanges f g name path l') :
    SameAround (f.storeSteps l.languagePrefix name path) (g.storeSteps l.languagePrefix name path)
      (StoreLoader.ofLayout l).steps (StoreLoader.ofLayout l').steps := by
  have samePrefix : l'.languagePrefix = l.languagePrefix := by
    obtain ⟨-, -, rfl⟩ := exchanges
    rfl
  simp only [StoreLoader.ofLayout, samePrefix, Category.storeStepsAll_eq_flatMap]
  refine exchanges.sameEntries
    (fun path category f => (f.storeField? l.languagePrefix category path).map StoreStep.field)
    (fun c => (c.decoration? l.languagePrefix).map StoreStep.category) ?_ fun _ _ _ => rfl
  intro above c
  cases c
  rw [Category.storeSteps, Category.storeStepsAll_eq_flatMap, List.map_filterMap]

theorem Layout.Exchanges.propertyFields {l l' : Layout}
    (exchanges : l.Exchanges f g name path l') :
    SameAround (f.propertyField? l.propertyPrefix path).toList
      (g.propertyField? l.propertyPrefix path).toList (PropertyLoader.ofLayout l).fields
      (PropertyLoader.ofLayout l').fields := by
  have samePrefix : l'.propertyPrefix = l.propertyPrefix := by
    obtain ⟨-, -, rfl⟩ := exchanges
    rfl
  simp only [PropertyLoader.ofLayout, samePrefix, Category.propertyFieldsAll_eq_flatMap]
  refine exchanges.sameEntries (fun path _ f => f.propertyField? l.propertyPrefix path)
    (fun _ => none) ?_ fun _ _ _ => rfl
  intro above c
  cases c
  rw [Category.propertyFields, Category.propertyFieldsAll_eq_flatMap]
  exact (List.append_nil _).symm

/-- However a field is declared anew under its name, at any depth, the reports are the same around
    those about the field, the layout is there or not as before and differs in the field alone, and
    so the bindings differ in the entry of the field. -/
theorem field_declaration_affects_only_its_field {root root' : ClassDecl} {old new : FieldDecl}
    {trail : List ClassDecl} (redeclared : root.Redeclares old new trail root')
    (sameName : new.name = old.name) (isKept : old.isConfigured) (staysKept : new.isConfigured) :
    let path := trail.map fun c => c.name
    let owner := String.intercalate "." (root.name :: path)
    let category := String.intercalate "." (path.map Text.lowercase)
    let f := (old.survey owner).1
    let g := (new.survey owner).1
    (∃ found found', SameAround found found' root.survey.2 root'.survey.2 ∧
        ∀ d ∈ found ++ found', d.site = owner ++ "." ++ old.name) ∧
      Option.Rel (fun l l' =>
          if leadsToCategory trail then
            l.Exchanges f g category path l' ∧
              SameAround (f.storeSteps l.languagePrefix category path)
                (g.storeSteps l.languagePrefix category path) (StoreLoader.ofLayout l).steps
                (StoreLoader.ofLayout l').steps ∧
              SameAround (f.propertyField? l.propertyPrefix path).toList
                (g.propertyField? l.propertyPrefix path).toList (PropertyLoader.ofLayout l).fields
                (PropertyLoader.ofLayout l').fields
          else l' = l)
        root.survey.1 root'.survey.1 := by
  obtain ⟨reports, layouts⟩ := redeclared.survey sameName isKept staysKept
  refine ⟨reports, rel_imp layouts fun l l' surveyed => ?_⟩
  split at surveyed
  next leads =>
    rw [if_pos leads]
    exact ⟨surveyed, surveyed.steps, surveyed.propertyFields⟩
  next hides => rwa [if_neg hides]

/-- A root with a field two classes deep. -/
def gardenRoot (color : FieldDecl) : ClassDecl :=
  { ClassDecl.named "Garden" with
    markers := [.config "" ""]
    members := [.nested (beds color), .field (FieldDecl.named "size" (.primitive "int"))] }
where
  beds (color : FieldDecl) : ClassDecl :=
    { ClassDecl.named "Beds" with
      members := [.field (FieldDecl.named "count" (.primitive "int")), .nested (rose color)] }
  rose (color : FieldDecl) : ClassDecl :=
    { ClassDecl.named "Rose" with
      members := [.field color, .field (FieldDecl.named "height" (.primitive "double"))] }

theorem gardenRoot_redeclares (old new : FieldDecl) :
    (gardenRoot old).Redeclares old new [gardenRoot.beds old, gardenRoot.rose old]
      (gardenRoot new) := by
  have field : (gardenRoot.rose old).members = [] ++ .field old :: _ := rfl
  have inner : (gardenRoot.beds old).members =
      [.field (FieldDecl.named "count" (.primitive "int"))] ++
        .nested (gardenRoot.rose old) :: [] := rfl
  have outer : (gardenRoot old).members = [] ++ .nested (gardenRoot.beds old) :: _ := rfl
  exact .nested outer (.nested inner (.member field rfl) rfl) rfl

/-- A color that turns from a text into something that cannot be configured takes its entries with
    it and leaves those of the other fields as they were. -/
theorem gardenRoot_differs_in_its_color :
    let old := FieldDecl.named "color" .string
    let new := { FieldDecl.named "color" (.array (.array (.primitive "int"))) with
      doc := some "Of the petals", markers := [.requiresRestart ⟨true, false⟩] }
    old.isConfigured ∧ new.isConfigured ∧
      (gardenRoot new).survey.2.map Diagnostic.site = ["Garden.Beds.Rose.color", "Garden.size"] ∧
      (∃ found found', SameAround found found' (gardenRoot old).survey.2 (gardenRoot new).survey.2 ∧
        ∀ d ∈ found ++ found', d.site = "Garden.Beds.Rose.color") ∧
      Option.Rel (fun l l' =>
          ∃ entry, SameAround [entry] [] (StoreLoader.ofLayout l).steps
              (StoreLoader.ofLayout l').steps ∧
            ∃ property, SameAround [property] [] (PropertyLoader.ofLayout l).fields
              (PropertyLoader.ofLayout l').fields)
        (gardenRoot old).survey.1 (gardenRoot new).survey.1 := by
  intro old new
  have isKept : old.isConfigured := rfl
  have staysKept : new.isConfigured := rfl
  obtain ⟨reports, layouts⟩ :=
    field_declaration_affects_only_its_field (gardenRoot_redeclares old new) rfl isKept staysKept
  refine ⟨isKept, staysKept, by decide +kernel, reports, rel_imp layouts ?_⟩
  rintro l l' ⟨-, steps, properties⟩
  exact ⟨_, steps, _, properties⟩

end ConfigBinding
