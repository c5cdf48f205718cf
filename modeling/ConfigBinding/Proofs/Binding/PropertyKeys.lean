import ConfigBinding.Proofs.Binding.Emission
import ConfigBinding.Proofs.Binding.JoinKeys

/-!
# Keys of properties

The key of a property is made of the declared names on the way down to its field. Where these hold
no points, they are found again between the points of the key, so a key tells where its field
stands, at whatever depth.

* `propertyKey_inj`: keys with one prefix tell the declared names;
* `Layout.field_eq_of_target`: declared names tell where a field stands;
* `property_keys_are_unique`: the keys of a property loader.
-/

namespace ConfigBinding

theorem propertyKey_inj {keyPrefix : String} {target other : List String} (nonempty : target ≠ [])
    (plain : ∀ name ∈ target, '.' ∉ name.toList) (otherNonempty : other ≠ [])
    (otherPlain : ∀ name ∈ other, '.' ∉ name.toList)
    (same : propertyKey keyPrefix target = propertyKey keyPrefix other) : target = other := by
  rw [propertyKey, propertyKey, String.append_right_inj] at same
  exact eq_of_intercalate_point nonempty plain otherNonempty otherPlain same

section Surveyed

variable {root : ClassDecl} {l : Layout} (surveyed : root.survey.1 = some l)
include surveyed

theorem Layout.point_not_mem_target (plain : root.HasPlainNames)
    (plainFields : root.HasPlainFields) {p : PlacedField} (isIn : p.IsIn l) :
    ∀ name ∈ p.target, '.' ∉ name.toList :=
  Layout.forall_target (P := fun name => '.' ∉ name.toList) surveyed plain plainFields isIn

/-- The last name is that of the field, the others lead to its category. So a field of a category
    is not taken for one of a child category, even if both have one name. -/
theorem Layout.field_eq_of_target (distinct : root.HasDistinctMembers) {p q : PlacedField}
    (isIn : p.IsIn l) (otherIsIn : q.IsIn l) (same : p.target = q.target) : p = q := by
  have apart := Layout.tellsApart_ident surveyed distinct
  have names := Layout.nodup_fieldNames surveyed distinct isIn.1.contains
  exact Layout.field_eq_of_keys (fun _ _ => Layout.placed_eq_of_keys apart) isIn otherIsIn names
    same

end Surveyed

theorem Layout.propertyKeys_eq {l : Layout} (sound : ∀ part ∈ l.parts, part.IsSound) :
    (PropertyLoader.ofLayout l).fields.map (fun field => field.key) =
      l.usableFields.map fun u => propertyKey l.propertyPrefix u.target := by
  apply map_eq_map_of_forall₂
  exact (Layout.propertyFields_forall₂ sound).imp fun u field isRead => isRead.key

/-- Where members that are kept of a class differ in name, of classes and of fields for themselves,
    and no name of a class or field has a point in it, all properties of the layout have different
    keys, whatever these begin with. -/
theorem property_keys_are_unique {root : ClassDecl} {l : Layout}
    (surveyed : root.survey.1 = some l) (distinct : root.HasDistinctMembers)
    (plain : root.HasPlainNames) (plainFields : root.HasPlainFields) :
    ((PropertyLoader.ofLayout l).fields.map fun field => field.key).Nodup := by
  rw [Layout.propertyKeys_eq (ClassDecl.survey_isSound surveyed)]
  refine Layout.nodup_map_usableFields fun u v isIn otherIsIn same => ?_
  have targets := propertyKey_inj u.target_ne_nil
    (Layout.point_not_mem_target surveyed plain plainFields isIn) v.target_ne_nil
    (Layout.point_not_mem_target surveyed plain plainFields otherIsIn) same
  exact Layout.field_eq_of_target surveyed distinct isIn otherIsIn targets

/-- A root with a class and a field of one name, with one name at several depths, and with a prefix
    that looks like the beginning of a path. -/
def deskRoot : ClassDecl :=
  { ClassDecl.named "Desk" with
    markers := [.config "" "Desk.Drawer"]
    members :=
      [.nested
          { ClassDecl.named "Drawer" with
            members :=
              [.field (FieldDecl.named "lock" (.primitive "int")),
                .field (FieldDecl.named "Drawer" (.primitive "int")),
                .nested
                  { ClassDecl.named "lock" with
                    members := [.field (FieldDecl.named "lock" (.primitive "int"))] },
                .nested
                  { ClassDecl.named "Drawer" with
                    members := [.field (FieldDecl.named "lock" (.primitive "int"))] }] }] }

def deskLayout : Layout := deskRoot.survey.1.get rfl

theorem deskRoot_property_keys_are_unique :
    deskRoot.survey.1 = some deskLayout ∧ deskRoot.HasDistinctMembers ∧ deskRoot.HasPlainNames ∧
      deskRoot.HasPlainFields ∧
      ((PropertyLoader.ofLayout deskLayout).fields.map fun field => field.key).Nodup ∧
      (PropertyLoader.ofLayout deskLayout).fields.map (fun field => field.key) =
        ["Desk.Drawer.Drawer.lock.lock", "Desk.Drawer.Drawer.Drawer.lock",
          "Desk.Drawer.Drawer.lock", "Desk.Drawer.Drawer.Drawer"] := by
  have surveyed : deskRoot.survey.1 = some deskLayout := (Option.some_get _).symm
  have distinct : deskRoot.HasDistinctMembers := by decide +kernel
  have plain : deskRoot.HasPlainNames := by decide +kernel
  have plainFields : deskRoot.HasPlainFields := by decide +kernel
  exact ⟨surveyed, distinct, plain, plainFields,
    property_keys_are_unique surveyed distinct plain plainFields, by decide +kernel⟩

end ConfigBinding
