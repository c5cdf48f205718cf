import ConfigBinding.Proofs.Json.Faithful
import ConfigBinding.Proofs.Json.OneLine
import ConfigBinding.Proofs.Schema.FiniteDefaults
import ConfigBinding.Proofs.Schema.Fitting

/-!
# Documents that are written and read back

A document that does not nest too deep, with finite doubles that read back from their texts, is
read back from the text that it is written as, but for what only a running host has. Each form of
declaration is read from whatever holds what is written of it, so a member is read alike in a text
and in a value that was read whole.
-/

namespace ConfigBinding

open Dictionary (keys)
open Faithful (Holds)

variable {σ ε : Type} [Source σ ε] [Faithful σ] {levels : Nat} {source : σ}

/-! ## Modifiers and markers -/

theorem Modifiers.read_toJson {m : Modifiers} (holds : Holds levels m.toJson source) :
    Modifiers.read source = .ok m := by
  refine Faithful.record holds (show ["public", "static", "final", "abstract"].Nodup by decide)
    (.refl _) fun _ _ => ?_
  refine .seq (.seq (.seq (.map (.optional rfl ?_) Modifiers.mk) (.optional rfl ?_))
    (.optional rfl ?_)) (.optional rfl ?_) <;>
  · intro item
    exact Faithful.bool

theorem Literal.ofJson_toJson {α : Type} {item? : Json → Option α} {item : α → Json}
    (isItem : ∀ value, item? (item value) = some value)
    (noItem : ∀ items, item? (.array items) = none) (literal : Literal α) :
    Literal.ofJson item? (literal.toJson item) = .ok literal := by
  cases literal with
  | one value => simp only [toJson, ofJson, isItem]
  | many values =>
    have each : (values.map item).mapM item? = some values := by
      refine mapM_eq_some.mpr (List.forall₂_map_left_iff.mpr ?_)
      exact List.forall₂_same.mpr fun value _ => isItem value
    simp only [toJson, ofJson, noItem, each]

theorem Marker.read_literal {α : Type} {name what : String} {item? : Json → Option α}
    {item : α → Json} {make : Literal α → Marker} {literal : Literal α}
    (holds : Holds levels (.object [(tag, .string name), ("value", literal.toJson item)]) source)
    (isVariant : variants.lookup name = some (readLiteral what item? make))
    (isItem : ∀ value, item? (item value) = some value)
    (noItem : ∀ items, item? (.array items) = none) :
    Marker.read source = .ok (make literal) := by
  refine Faithful.taggedRecord holds isVariant (show [tag, "value"].Nodup by decide) (.refl _)
    fun _ _ => ?_
  refine .map (.required rfl ?_) make
  rintro _ ⟨rfl, -⟩
  exact Literal.ofJson_toJson isItem noItem literal

theorem Marker.read_toJson {marker : Marker} (holds : Holds levels marker.toJson source) :
    Marker.read source = .ok marker := by
  cases marker with
  | config languagePrefix propertyPrefix =>
    refine Faithful.taggedRecord holds rfl
      (show [tag, "language_prefix", "property_prefix"].Nodup by decide) (.refl _) fun _ _ => ?_
    exact .seq (.map (.optional rfl fun _ => Faithful.string) _)
      (.optional rfl fun _ => Faithful.string)
  | exclude => exact Faithful.tagged holds rfl List.not_mem_nil rfl
  | requiresRestart restart =>
    refine Faithful.taggedRecord holds rfl (show [tag, "world", "mc"].Nodup by decide) (.refl _)
      fun _ _ => ?_
    exact .seq (.map (.optional rfl fun _ => Faithful.bool) _)
      (.optional rfl fun _ => Faithful.bool)
  | range min max =>
    refine Faithful.taggedRecord holds rfl (show [tag, "min", "max"].Nodup by decide) (.refl _)
      fun _ _ => ?_
    refine .seq (.map (.optional rfl ?_) _) (.optional rfl ?_) <;>
    · rintro _ ⟨rfl, -⟩
      rfl
  | onSync => exact Faithful.tagged holds rfl List.not_mem_nil rfl
  | defaultBoolean value => exact read_literal holds rfl (fun _ => rfl) fun _ => rfl
  | defaultInt value => exact read_literal holds rfl int32?_toInt fun _ => rfl
  | defaultDouble value => exact read_literal holds rfl (fun _ => rfl) fun _ => rfl
  | defaultString value => exact read_literal holds rfl (fun _ => rfl) fun _ => rfl

/-! ## Types -/

namespace DeclaredType

theorem listToJson_eq_map (types : List DeclaredType) : listToJson types = types.map toJson := by
  induction types with
  | nil => rfl
  | cons type rest inductionHypothesis => rw [listToJson, inductionHypothesis, List.map_cons]

theorem listsToJson_eq_map (lists : List (List DeclaredType)) :
    listsToJson lists = lists.map fun types => .array (types.map toJson) := by
  induction lists with
  | nil => rfl
  | cons types rest inductionHypothesis =>
    rw [listsToJson, listToJson_eq_map, inductionHypothesis, List.map_cons]

/-- A type is read if the types inside it are. -/
theorem tagged_toJson {inner : Json → Except Mismatch DeclaredType} {type : DeclaredType}
    (holds : Holds levels type.toJson source)
    (each : ∀ below < levels, ∀ type : DeclaredType, type.toJson.FitsIn below →
      inner type.toJson = .ok type) :
    Source.tagged tag what (variants inner) source = .ok type := by
  cases type with
  | primitive name | other name =>
    refine Faithful.taggedRecord holds rfl (show [tag, "name"].Nodup by decide) (.refl _)
      fun _ _ => ?_
    exact .map (.required rfl fun _ => Faithful.string) _
  | array component =>
    refine Faithful.taggedRecord holds rfl (show [tag, "component"].Nodup by decide) (.refl _)
      fun below isBelow => ?_
    refine .map (.required rfl ?_) _
    rintro _ ⟨rfl, fits⟩
    exact each below isBelow component fits
  | declared name args constructors =>
    rw [toJson, listToJson_eq_map, listsToJson_eq_map] at holds
    have listIsRead : ∀ below < levels, ∀ types : List DeclaredType, ∀ item : Json,
        Holds below (.array (types.map toJson)) item → Source.list inner item = .ok types := by
      intro below isBelow types item itemHolds
      refine Faithful.list_self itemHolds fun deeper isDeeper type _ => ?_
      rintro _ ⟨rfl, fits⟩
      exact each deeper (isDeeper.trans isBelow) type fits
    refine Faithful.taggedRecord holds rfl
      (show [tag, "name", "args", "constructors"].Nodup by decide) (.refl _)
      fun below isBelow => ?_
    refine .seq (.seq (.map (.required rfl fun _ => Faithful.string) _) (.optional rfl ?_))
      (.optional rfl ?_)
    · exact listIsRead below isBelow args
    · intro item itemHolds
      refine Faithful.list_self itemHolds fun deeper isDeeper types _ => ?_
      exact listIsRead deeper (isDeeper.trans isBelow) types

/-- By induction on how deep types may nest, of which there are never fewer than levels. -/
theorem ofJson_toJson {depth levels : Nat} {type : DeclaredType} (enough : levels ≤ depth)
    (fits : type.toJson.FitsIn levels) : ofJson depth type.toJson = .ok type := by
  induction depth generalizing levels type with
  | zero =>
    cases Nat.le_zero.mp enough
    cases type <;> cases fits
  | succ depth inductionHypothesis =>
    have holds : Holds levels type.toJson type.toJson := ⟨rfl, fits⟩
    refine tagged_toJson holds fun below isBelow type fits => ?_
    exact inductionHypothesis (Nat.le_of_lt_succ (Nat.lt_of_lt_of_le isBelow enough)) fits

theorem read_toJson {type : DeclaredType} (shallow : levels ≤ levelLimit)
    (holds : Holds levels type.toJson source) : DeclaredType.read source = .ok type := by
  refine tagged_toJson holds fun below isBelow type fits => ofJson_toJson ?_ fits
  simp only [heldLevels]
  omega

end DeclaredType

/-! ## Fields and methods -/

theorem Modifiers.field_gives {entries : List (String × Json)} {m : Modifiers}
    (isEntry : entries.lookup "modifiers" = some m.toJson) :
    (Modifiers.field : Record σ ε Modifiers).Gives levels entries m :=
  .optional isEntry fun _ => Modifiers.read_toJson

theorem Marker.field_gives {entries : List (String × Json)} {markers : List Marker}
    (isEntry : entries.lookup "markers" = some (.array (markers.map Marker.toJson))) :
    (Marker.field : Record σ ε (List Marker)).Gives levels entries markers := by
  refine .optional isEntry fun item holds => ?_
  exact Faithful.list_self holds fun _ _ _ _ _ => Marker.read_toJson

theorem keys_optionalEntry (name : String) (value : Option String) :
    (keys (optionalEntry name value)).Sublist [name] := by
  cases value with
  | none => exact List.nil_sublist _
  | some _ => exact .refl _

theorem FieldDecl.keys_entries (f : FieldDecl) :
    (keys f.entries).Sublist ["name", "modifiers", "doc", "markers", "type"] := by
  simp only [keys, entries, List.map_append]
  exact ((List.Sublist.refl _).append (keys_optionalEntry "doc" f.doc)).append (.refl _)

theorem FieldDecl.read_toJson {f : FieldDecl} (shallow : levels ≤ levelLimit)
    (holds : Holds levels (.object f.entries) source) :
    FieldDecl.read source = .ok { f with setter := none } := by
  obtain ⟨⟨name, modifiers, markers⟩, doc, type, setter⟩ := f
  refine Faithful.record holds
    (show ["name", "modifiers", "doc", "markers", "type"].Nodup by decide) (keys_entries _)
    fun below isBelow => ?_
  have typeIsRead : ∀ item : σ, Holds below type.toJson item → DeclaredType.read item = .ok type :=
    fun item => DeclaredType.read_toJson ((Nat.le_of_lt isBelow).trans shallow)
  refine .seq (.seq (.seq (.seq (.map (.required rfl fun _ => Faithful.string) _)
    (Modifiers.field_gives rfl)) (.text ?_)) (Marker.field_gives ?_)) (.required ?_ typeIsRead)
  all_goals cases doc <;> rfl

theorem MethodDecl.read_toJson {m : MethodDecl} (holds : Holds levels (.object m.entries) source) :
    MethodDecl.read source = .ok { m with callable := false } := by
  refine Faithful.record holds (show ["name", "modifiers", "markers"].Nodup by decide) (.refl _)
    fun _ _ => ?_
  exact .seq (.seq (.map (.required rfl fun _ => Faithful.string) _)
    (Modifiers.field_gives rfl)) (Marker.field_gives rfl)

/-! ## Classes and members -/

def ClassMember.unbound (member : ClassMember) : ClassMember :=
  member.hosted (fun _ => none) fun _ => false

theorem ClassMember.listToJson_eq_map (members : List ClassMember) :
    listToJson members = members.map toJson := by
  induction members with
  | nil => rfl
  | cons member rest inductionHypothesis => rw [listToJson, inductionHypothesis, List.map_cons]

theorem ClassDecl.keys_entries (c : ClassDecl) :
    (keys c.entries).Sublist
      ["name", "package", "kind", "modifiers", "doc", "markers", "members"] := by
  obtain ⟨_, package, kind, doc, members⟩ := c
  simp only [keys, entries, List.map_append]
  exact ((((List.Sublist.refl _).append (keys_optionalEntry "package" package)).append
    (.refl _)).append (keys_optionalEntry "doc" doc)).append (.refl _)

theorem ClassKind.choice_name (kind : ClassKind) (holds : Holds levels (.string kind.name) source) :
    Source.choice ClassKind.variants source = .ok kind := by
  refine Faithful.choice holds ?_
  cases kind <;> rfl

/-- A class is read if its members are. -/
theorem ClassDecl.readWith_toJson {member : σ → Except ε ClassMember} {c : ClassDecl}
    (holds : Holds levels c.toJson source)
    (each : ∀ below < levels, ∀ listed : ClassMember, ∀ item, Holds below listed.toJson item →
      member item = .ok listed.unbound) :
    ClassDecl.readWith member source = .ok c.unbound := by
  obtain ⟨⟨name, modifiers, markers⟩, package, kind, doc, members⟩ := c
  rw [unbound, hosted, ClassMember.hostedAll_eq_map]
  refine Faithful.record holds
    (show ["name", "package", "kind", "modifiers", "doc", "markers", "members"].Nodup by decide)
    (keys_entries _) fun below isBelow => ?_
  have membersAreRead : ∀ item : σ,
      Holds below (.array (ClassMember.listToJson members)) item →
        Source.list member item = .ok (members.map ClassMember.unbound) := by
    intro item itemHolds
    rw [ClassMember.listToJson_eq_map] at itemHolds
    exact Faithful.list_map itemHolds fun deeper isDeeper listed _ =>
      each deeper (isDeeper.trans isBelow) listed
  refine .seq (.seq (.seq (.seq (.seq (.seq (.map (.required rfl fun _ => Faithful.string) _)
    (.text ?_)) (.optional ?_ fun _ => ClassKind.choice_name kind)) (Modifiers.field_gives ?_))
    (.text ?_)) (Marker.field_gives ?_)) (.optional ?_ membersAreRead)
  all_goals cases package <;> cases doc <;> rfl

namespace ClassMember

/-- A member is read if the members inside it are. -/
theorem tagged_toJson {inner : Json → Except Mismatch ClassMember} {member : ClassMember}
    (shallow : levels ≤ levelLimit) (holds : Holds levels member.toJson source)
    (each : ∀ below < levels, ∀ member : ClassMember, member.toJson.FitsIn below →
      inner member.toJson = .ok member.unbound) :
    Source.tagged tag what (variants inner) source = .ok member.unbound := by
  have othersHold : ∀ {others : List (String × Json)} {first : String × Json},
      (Json.object (first :: others)).FitsIn levels →
        Holds levels (Json.object others) (Json.object others) := fun fits => ⟨rfl, fits.others⟩
  cases member with
  | nested c =>
    refine Faithful.tagged holds rfl (fun isTag => ?_) ?_
    · exact absurd (c.keys_entries.subset isTag) (by decide)
    · refine map_eq_ok.mpr ⟨c.unbound, ?_, rfl⟩
      refine ClassDecl.readWith_toJson (othersHold (Faithful.fits holds)) ?_
      rintro below isBelow listed _ ⟨rfl, fits⟩
      exact each below isBelow listed fits
  | field f =>
    refine Faithful.tagged holds rfl (fun isTag => ?_) ?_
    · exact absurd (f.keys_entries.subset isTag) (by decide)
    · exact map_eq_ok.mpr ⟨_, FieldDecl.read_toJson shallow (othersHold (Faithful.fits holds)), rfl⟩
  | method m =>
    refine Faithful.tagged holds rfl (show tag ∉ ["name", "modifiers", "markers"] by decide) ?_
    exact map_eq_ok.mpr ⟨_, MethodDecl.read_toJson (othersHold (Faithful.fits holds)), rfl⟩

/-- By induction on how deep members may nest, as for types. -/
theorem ofJson_toJson {depth levels : Nat} {member : ClassMember} (enough : levels ≤ depth)
    (shallow : levels ≤ levelLimit) (fits : member.toJson.FitsIn levels) :
    ofJson depth member.toJson = .ok member.unbound := by
  induction depth generalizing levels member with
  | zero =>
    cases Nat.le_zero.mp enough
    cases member <;> cases fits
  | succ depth inductionHypothesis =>
    have holds : Holds levels member.toJson member.toJson := ⟨rfl, fits⟩
    refine tagged_toJson shallow holds fun below isBelow member fits => ?_
    exact inductionHypothesis (Nat.le_of_lt_succ (Nat.lt_of_lt_of_le isBelow enough))
      ((Nat.le_of_lt isBelow).trans shallow) fits

theorem read_toJson {member : ClassMember} (shallow : levels ≤ levelLimit)
    (holds : Holds levels member.toJson source) :
    ClassMember.read source = .ok member.unbound := by
  refine tagged_toJson shallow holds fun below isBelow member fits => ofJson_toJson ?_ ?_ fits
  · simp only [heldLevels]
    omega
  · exact (Nat.le_of_lt isBelow).trans shallow

end ClassMember

theorem ClassDecl.read_toJson {c : ClassDecl} (shallow : levels ≤ levelLimit)
    (holds : Holds levels c.toJson source) : ClassDecl.read source = .ok c.unbound :=
  ClassDecl.readWith_toJson holds fun _ isBelow _ _ =>
    ClassMember.read_toJson ((Nat.le_of_lt isBelow).trans shallow)

/-! ## Documents -/

def Document.unbound (document : Document) : Document :=
  ⟨document.declarations.map ClassDecl.unbound⟩

theorem Document.read_toJson {document : Document} (shallow : levels ≤ levelLimit)
    (holds : Holds levels document.toJson source) :
    Document.read source = .ok document.unbound := by
  refine Faithful.record holds (show ["declarations"].Nodup by decide) (.refl _)
    fun below isBelow => ?_
  refine .map (.optional rfl fun item itemHolds => ?_) Document.mk
  refine Faithful.list_map itemHolds fun deeper isDeeper c _ _ => ClassDecl.read_toJson ?_
  omega

/-- A document with nothing that only a running host has, with finite doubles and not nested too
    deep, is read back from its text as it is. It is assumed that the text of each of its doubles,
    if finite, reads back. -/
theorem written_document_reads_back {document : Document} (listed : document.unbound = document)
    (finite : ∀ double ∈ document.doubles, double.isFinite)
    (readBack : ∀ double ∈ document.doubles, double.isFinite → double.ReadsBack)
    (shallow : document.toJson.depth ≤ levelLimit) (path : String) :
    Document.ofText path document.toJson.compact = .ok document := by
  have fits : document.toJson.FitsIn levelLimit :=
    (Document.each_toJson Number.fits_int32 finite).fitsIn shallow
  have numbersReadBack : document.toJson.Each Number.ReadsBack :=
    Document.each_toJson Number.readsBack_int32 fun double isDouble =>
      readBack double isDouble (finite double isDouble)
  refine mapError_eq_ok.mpr (readText_compact numbersReadBack fun cursor holds => ?_)
  have faithfullyHolds : Holds levelLimit document.toJson cursor := ⟨holds, fits⟩
  rw [Document.read_toJson (Nat.le_refl levelLimit) faithfullyHolds, listed]

/-- A document in which every kind of member, marker and type occurs, with scalars and lists as
    defaults. -/
def gardenDocument : Document where
  declarations :=
    [{ ClassDecl.named "Garden" with
        package := some "green"
        doc := some "All \"beds\"\n"
        markers := [.config "garden" ""]
        members :=
          [.field
              { FieldDecl.named "rows" (.array (.primitive "int")) with
                markers := [.defaultInt (.many []), .range (.ofInt 0) (.ofInt 9)] },
            .nested
              { ClassDecl.named "Soil" with
                kind := .interface
                members :=
                  [.field
                      { FieldDecl.named "acids"
                          (.declared "List" [.declared "Double" [] []] [[], [.other "T"]]) with
                        doc := some ""
                        modifiers := { isFinal := true }
                        markers :=
                          [.defaultDouble (.many [.ofInt 7]), .defaultDouble (.one (.ofInt 5)),
                            .requiresRestart { mc := true }] }] },
            .method
              { MethodDecl.named "water" with
                modifiers := { isAbstract := true }
                markers :=
                  [.onSync, .exclude, .defaultString (.one "1"), .defaultBoolean (.one false)] }] }]

theorem gardenDocument_reads_back :
    gardenDocument.unbound = gardenDocument ∧
      gardenDocument.doubles = [.ofInt 0, .ofInt 9, .ofInt 7, .ofInt 5] ∧
      gardenDocument.toJson.depth = 11 ∧
      Document.ofText "garden.json" gardenDocument.toJson.compact = .ok gardenDocument :=
  ⟨rfl, rfl, rfl,
    written_document_reads_back rfl (by decide +kernel) (by decide +kernel) (by decide +kernel)
      "garden.json"⟩

end ConfigBinding
