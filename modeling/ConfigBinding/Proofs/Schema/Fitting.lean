import ConfigBinding.Proofs.Json.Depth
import ConfigBinding.Proofs.Schema.Reading

/-!
# Numbers that documents write

The only numbers that a document writes besides whole ones of 32 bits are the doubles of its
markers. If they are real, the document fits in a text as long as it does not nest too deep.

* `Document.doubles`: the bounds of ranges and the default doubles in a document;
* `Document.each_toJson`: what all of them have in common, all numbers in the text have.
-/

namespace ConfigBinding

variable {P : Number → Prop}

theorem Modifiers.each_toJson (m : Modifiers) : m.toJson.Each P := by
  refine .object ?_
  simp only [List.forall_mem_cons]
  exact ⟨.bool _, .bool _, .bool _, .bool _, List.forall_mem_nil _⟩

/-- The doubles that a marker holds: the bounds of a range, and default doubles. -/
def Marker.doubles : Marker → List Double
  | .range min max => [min, max]
  | .defaultDouble value => value.items
  | _ => []

theorem Literal.each_toJson {α : Type} {item : α → Json} (literal : Literal α)
    (each : ∀ value ∈ literal.items, (item value).Each P) : (literal.toJson item).Each P := by
  cases literal with
  | one value => exact each value List.mem_cons_self
  | many values => exact .array (List.forall_mem_map.mpr each)

theorem Marker.each_toJson (whole : ∀ int : Int32, P (.whole int.toInt)) (marker : Marker)
    (real : ∀ double ∈ marker.doubles, P (.real double)) : marker.toJson.Each P := by
  cases marker <;> refine .object ?_ <;> simp only [List.forall_mem_cons] <;>
    refine ⟨.string _, ?_⟩
  case config => exact ⟨.string _, .string _, List.forall_mem_nil _⟩
  case exclude | onSync => exact List.forall_mem_nil _
  case requiresRestart => exact ⟨.bool _, .bool _, List.forall_mem_nil _⟩
  case range min max =>
    exact ⟨.number (real min (by simp [doubles])), .number (real max (by simp [doubles])),
      List.forall_mem_nil _⟩
  case defaultBoolean value =>
    exact ⟨value.each_toJson fun _ _ => .bool _, List.forall_mem_nil _⟩
  case defaultInt value =>
    exact ⟨value.each_toJson fun int _ => .number (whole int), List.forall_mem_nil _⟩
  case defaultDouble value =>
    refine ⟨value.each_toJson fun double isDouble => ?_, List.forall_mem_nil _⟩
    exact .number (real double isDouble)
  case defaultString value =>
    exact ⟨value.each_toJson fun _ _ => .string _, List.forall_mem_nil _⟩

mutual

theorem DeclaredType.each_toJson : (type : DeclaredType) → type.toJson.Each P
  | .primitive name | .other name => by
    refine .object ?_
    simp only [List.forall_mem_cons]
    exact ⟨.string _, .string name, List.forall_mem_nil _⟩
  | .array component => by
    refine .object ?_
    simp only [List.forall_mem_cons]
    exact ⟨.string _, component.each_toJson, List.forall_mem_nil _⟩
  | .declared name args constructors => by
    refine .object ?_
    simp only [List.forall_mem_cons]
    exact ⟨.string _, .string name, .array (DeclaredType.each_listToJson args),
      .array (DeclaredType.each_listsToJson constructors), List.forall_mem_nil _⟩

theorem DeclaredType.each_listToJson :
    (types : List DeclaredType) → ∀ json ∈ listToJson types, json.Each P
  | [] => List.forall_mem_nil _
  | type :: rest =>
    List.forall_mem_cons.mpr ⟨type.each_toJson, DeclaredType.each_listToJson rest⟩

theorem DeclaredType.each_listsToJson :
    (lists : List (List DeclaredType)) → ∀ json ∈ listsToJson lists, json.Each P
  | [] => List.forall_mem_nil _
  | types :: rest =>
    List.forall_mem_cons.mpr
      ⟨.array (DeclaredType.each_listToJson types), DeclaredType.each_listsToJson rest⟩

end

def Element.doubles (e : Element) : List Double := e.markers.flatMap Marker.doubles

mutual

def ClassDecl.doubles : ClassDecl → List Double
  | { toElement, members, .. } => toElement.doubles ++ ClassMember.listDoubles members

def ClassMember.doubles : ClassMember → List Double
  | .nested c => c.doubles
  | .field f => f.toElement.doubles
  | .method m => m.toElement.doubles

def ClassMember.listDoubles : List ClassMember → List Double
  | [] => []
  | member :: rest => member.doubles ++ ClassMember.listDoubles rest

end

def Document.doubles (document : Document) : List Double :=
  document.declarations.flatMap ClassDecl.doubles

theorem Element.each_marker (whole : ∀ int : Int32, P (.whole int.toInt)) (e : Element)
    (real : ∀ double ∈ e.doubles, P (.real double)) :
    (Json.array (e.markers.map Marker.toJson)).Each P := by
  refine .array (List.forall_mem_map.mpr fun marker isMarker => ?_)
  refine marker.each_toJson whole fun double isDouble => real double ?_
  exact List.mem_flatMap.mpr ⟨marker, isMarker, isDouble⟩

theorem each_optionalEntry (name : String) (value : Option String) :
    ∀ entry ∈ optionalEntry name value, entry.2.Each P := by
  cases value with
  | none => exact List.forall_mem_nil _
  | some text => exact List.forall_mem_singleton.mpr (.string text)

theorem FieldDecl.each_entry (whole : ∀ int : Int32, P (.whole int.toInt)) (f : FieldDecl)
    (real : ∀ double ∈ f.toElement.doubles, P (.real double)) :
    ∀ entry ∈ f.entries, entry.2.Each P := by
  simp only [entries, List.forall_mem_append, List.forall_mem_cons]
  exact ⟨⟨⟨.string _, f.modifiers.each_toJson, List.forall_mem_nil _⟩, each_optionalEntry _ _⟩,
    f.toElement.each_marker whole real, f.type.each_toJson, List.forall_mem_nil _⟩

theorem MethodDecl.each_entry (whole : ∀ int : Int32, P (.whole int.toInt)) (m : MethodDecl)
    (real : ∀ double ∈ m.toElement.doubles, P (.real double)) :
    ∀ entry ∈ m.entries, entry.2.Each P := by
  simp only [entries, List.forall_mem_cons]
  exact ⟨.string _, m.modifiers.each_toJson, m.toElement.each_marker whole real,
    List.forall_mem_nil _⟩

mutual

theorem ClassDecl.each_entry (whole : ∀ int : Int32, P (.whole int.toInt)) : (c : ClassDecl) →
    (∀ double ∈ c.doubles, P (.real double)) → ∀ entry ∈ c.entries, entry.2.Each P
  | { toElement, package, kind, doc, members }, real => by
    obtain ⟨own, inside⟩ := List.forall_mem_append.mp real
    simp only [ClassDecl.entries, List.forall_mem_append, List.forall_mem_cons]
    exact ⟨⟨⟨⟨⟨.string _, List.forall_mem_nil _⟩, each_optionalEntry _ package⟩,
      .string kind.name, toElement.modifiers.each_toJson, List.forall_mem_nil _⟩,
      each_optionalEntry _ doc⟩, toElement.each_marker whole own,
      .array (ClassMember.each_listToJson whole members inside), List.forall_mem_nil _⟩

theorem ClassMember.each_toJson (whole : ∀ int : Int32, P (.whole int.toInt)) :
    (member : ClassMember) → (∀ double ∈ member.doubles, P (.real double)) → member.toJson.Each P
  | .nested c, real =>
    .object (List.forall_mem_cons.mpr ⟨.string _, c.each_entry whole real⟩)
  | .field f, real =>
    .object (List.forall_mem_cons.mpr ⟨.string _, f.each_entry whole real⟩)
  | .method m, real =>
    .object (List.forall_mem_cons.mpr ⟨.string _, m.each_entry whole real⟩)

theorem ClassMember.each_listToJson (whole : ∀ int : Int32, P (.whole int.toInt)) :
    (members : List ClassMember) → (∀ double ∈ ClassMember.listDoubles members, P (.real double)) →
      ∀ json ∈ ClassMember.listToJson members, json.Each P
  | [], _ => List.forall_mem_nil _
  | member :: rest, real => by
    obtain ⟨first, others⟩ := List.forall_mem_append.mp real
    exact List.forall_mem_cons.mpr
      ⟨member.each_toJson whole first, ClassMember.each_listToJson whole rest others⟩

end

/-- The numbers that a document writes are its doubles, and whole ones of 32 bits. -/
theorem Document.each_toJson (whole : ∀ int : Int32, P (.whole int.toInt)) {document : Document}
    (real : ∀ double ∈ document.doubles, P (.real double)) : document.toJson.Each P := by
  refine .object (List.forall_mem_singleton.mpr (.array (List.forall_mem_map.mpr ?_)))
  intro c isDeclared
  refine .object (c.each_entry whole fun double isDouble => real double ?_)
  exact List.mem_flatMap.mpr ⟨c, isDeclared, isDouble⟩

end ConfigBinding
