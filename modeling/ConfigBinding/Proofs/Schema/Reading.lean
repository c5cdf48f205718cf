import ConfigBinding.Proofs.Json.Bounds
import ConfigBinding.Proofs.Layout.Soundness
import ConfigBinding.Proofs.Types.ValueJson
import ConfigBinding.Schema.Load

/-!
# Declarations read from documents

A document is text, and no text holds a double that is not finite. So the defaults that its markers
give are finite, in whichever of the declared forms they are written.

* `Marker.Fits`, `FieldDecl.Fits`: markers and fields with finite defaults;
* `ClassDecl.fits_of_read`: all fields that a class declares which is read;
* `Document.fits_of_ofText`: all fields that the classes of a document declare.
-/

namespace ConfigBinding

variable {σ ε : Type} [Source σ ε] [Bounded σ]

/-! ## Markers -/

def Literal.items {α : Type} : Literal α → List α
  | .one value => [value]
  | .many values => values

/-- Whether the default that a marker gives, if it does, has finite doubles only. -/
def Marker.Fits : Marker → Prop
  | .defaultDouble literal => ∀ value ∈ literal.items, value.isFinite
  | _ => True

theorem Json.isFinite_of_double? {json : Json} {levels : Nat} (fits : json.FitsIn levels)
    {value : Double} (found : json.double? = some value) : value.isFinite := by
  cases fits with
  | @number _ number fits =>
    cases number with
    | whole whole =>
      cases found
      exact Number.isFinite_of_whole fits
    | real real =>
      cases found
      exact fits
  | null | bool | string | array | object => cases found

theorem Literal.isFinite_of_ofJson {json : Json} {levels : Nat} (fits : json.FitsIn levels)
    {literal : Literal Double} (found : Literal.ofJson Json.double? json = .ok literal) :
    ∀ value ∈ literal.items, value.isFinite := by
  unfold Literal.ofJson at found
  split at found
  next isOne =>
    cases found
    exact List.forall_mem_singleton.mpr (Json.isFinite_of_double? fits isOne)
  next =>
    split at found
    next items =>
      split at found
      next values isMany =>
        cases found
        cases fits with
        | array inside =>
          intro value member
          obtain ⟨item, isItem, isValue⟩ := exists_of_mem_right (mapM_eq_some.mp isMany) member
          exact Json.isFinite_of_double? (inside item isItem) isValue
      next => cases found
    next => cases found

theorem Marker.exists_of_readLiteral {α : Type} {what : String} {item? : Json → Option α}
    {make : Literal α → Marker} {json : Json} {levels : Nat} (fits : json.FitsIn levels)
    {marker : Marker} (isRead : readLiteral what item? make json = .ok marker) :
    ∃ inner below literal, Json.FitsIn below inner ∧ Literal.ofJson item? inner = .ok literal ∧
      make literal = marker := by
  obtain ⟨arranged, found, -, fields⟩ := Source.record_eq_ok.mp isRead
  obtain ⟨below, -, slotsFit⟩ := Bounded.arrange (σ := Json) fits found
  obtain ⟨literal, isLiteral, same⟩ := Record.read_map_eq_ok.mp fields
  obtain ⟨slot, isSlot, isLiteral⟩ := Record.read_required_eq_ok.mp isLiteral
  exact ⟨slot.source, below, literal, slotsFit slot (Arranged.mem_of_slot? isSlot), isLiteral, same⟩

theorem Json.eq_of_noFields {α : Type} {value found : α} {json : Json}
    (isRead : Json.noFields value json = .ok found) : value = found := by
  unfold Json.noFields at isRead
  split at isRead <;> cases isRead
  rfl

/-- Only a marker of default doubles holds doubles that matter, and all that it reads are finite. -/
theorem Marker.fits_of_read {levels : Nat} {source : σ} (fits : Bounded.FitsIn levels source)
    {marker : Marker} (isRead : Marker.read source = .ok marker) : marker.Fits := by
  obtain ⟨variant, isVariant, json, jsonFits, isRead⟩ := Bounded.tagged fits isRead
  simp only [Marker.variants, List.mem_cons, List.not_mem_nil, or_false] at isVariant
  obtain rfl | rfl | rfl | rfl | rfl | rfl | rfl | rfl | rfl := isVariant
  case inr.inl | inr.inr.inr.inr.inl => exact Json.eq_of_noFields isRead ▸ trivial
  case inl | inr.inr.inl | inr.inr.inr.inl =>
    obtain ⟨_, -, -, fields⟩ := Source.record_eq_ok.mp isRead
    obtain ⟨_, _, isMade, -, rfl⟩ := Record.read_seq_eq_ok.mp fields
    obtain ⟨_, -, rfl⟩ := Record.read_map_eq_ok.mp isMade
    trivial
  case inr.inr.inr.inr.inr.inr.inr.inl =>
    obtain ⟨_, _, literal, innerFits, isLiteral, rfl⟩ :=
      Marker.exists_of_readLiteral jsonFits isRead
    exact Literal.isFinite_of_ofJson innerFits isLiteral
  all_goals
    obtain ⟨_, _, literal, -, -, rfl⟩ := Marker.exists_of_readLiteral jsonFits isRead
    trivial

/-! ## Classes -/

def FieldDecl.Fits (f : FieldDecl) : Prop := ∀ marker ∈ f.markers, marker.Fits

def ClassMember.Fits : ClassMember → Prop
  | .nested c => ∀ f, c.Declares f → f.Fits
  | .field f => f.Fits
  | .method _ => True

theorem ClassDecl.fits_of_members {c : ClassDecl} (fit : ∀ member ∈ c.members, member.Fits)
    {f : FieldDecl} (declares : c.Declares f) : f.Fits := by
  cases declares with
  | member isMember => exact fit _ isMember
  | nested isMember declares => exact fit _ isMember f declares

theorem Marker.fits_of_field {levels : Nat} {arranged : Arranged σ ε}
    (slotsFit : ∀ slot ∈ arranged.slots, Bounded.FitsIn levels slot.source) {markers : List Marker}
    (isRead : Marker.field.read arranged = .ok markers) : ∀ marker ∈ markers, marker.Fits := by
  obtain ⟨slot, isSlot, isList⟩ | ⟨-, rfl⟩ := Record.read_optional_eq_ok.mp isRead
  · obtain ⟨_, -, each⟩ := Bounded.list (slotsFit slot (Arranged.mem_of_slot? isSlot)) isList
    intro marker member
    obtain ⟨item, itemFits, isMarker⟩ := each marker member
    exact Marker.fits_of_read itemFits isMarker
  · exact List.forall_mem_nil _

theorem FieldDecl.fits_of_read {levels : Nat} {source : σ} (fits : Bounded.FitsIn levels source)
    {f : FieldDecl} (isRead : FieldDecl.read source = .ok f) : f.Fits := by
  obtain ⟨arranged, found, -, fields⟩ := Source.record_eq_ok.mp isRead
  obtain ⟨_, -, slotsFit⟩ := Bounded.arrange fits found
  obtain ⟨_, type, withMarkers, -, rfl⟩ := Record.read_seq_eq_ok.mp fields
  obtain ⟨_, markers, withDoc, isMarkers, rfl⟩ := Record.read_seq_eq_ok.mp withMarkers
  obtain ⟨_, doc, withModifiers, -, rfl⟩ := Record.read_seq_eq_ok.mp withDoc
  obtain ⟨_, modifiers, withName, -, rfl⟩ := Record.read_seq_eq_ok.mp withModifiers
  obtain ⟨name, -, rfl⟩ := Record.read_map_eq_ok.mp withName
  exact Marker.fits_of_field slotsFit isMarkers

/-- A class whose members are read by a reader of what fits. -/
theorem ClassDecl.fits_of_readWith {member : σ → Except ε ClassMember}
    (each : ∀ levels source result, Bounded.FitsIn levels source →
      member source = .ok result → result.Fits)
    {levels : Nat} {source : σ} (fits : Bounded.FitsIn levels source) {c : ClassDecl}
    (isRead : ClassDecl.readWith member source = .ok c) {f : FieldDecl} (declares : c.Declares f) :
    f.Fits := by
  obtain ⟨arranged, found, -, fields⟩ := Source.record_eq_ok.mp isRead
  obtain ⟨_, -, slotsFit⟩ := Bounded.arrange fits found
  -- The record is taken apart from its last field, the members, down to its first, the name.
  obtain ⟨_, members, withMarkers, isMembers, rfl⟩ := Record.read_seq_eq_ok.mp fields
  obtain ⟨_, markers, withDoc, -, rfl⟩ := Record.read_seq_eq_ok.mp withMarkers
  obtain ⟨_, doc, withModifiers, -, rfl⟩ := Record.read_seq_eq_ok.mp withDoc
  obtain ⟨_, modifiers, withKind, -, rfl⟩ := Record.read_seq_eq_ok.mp withModifiers
  obtain ⟨_, kind, withPackage, -, rfl⟩ := Record.read_seq_eq_ok.mp withKind
  obtain ⟨_, package, withName, -, rfl⟩ := Record.read_seq_eq_ok.mp withPackage
  obtain ⟨name, -, rfl⟩ := Record.read_map_eq_ok.mp withName
  refine ClassDecl.fits_of_members ?_ declares
  obtain ⟨slot, isSlot, isList⟩ | ⟨-, rfl⟩ := Record.read_optional_eq_ok.mp isMembers
  · obtain ⟨_, -, items⟩ := Bounded.list (slotsFit slot (Arranged.mem_of_slot? isSlot)) isList
    intro result isMember
    obtain ⟨item, itemFits, isResult⟩ := items result isMember
    exact each _ _ _ itemFits isResult
  · exact List.forall_mem_nil _

/-- The variants of members, given a reader of the members inside a class. -/
theorem ClassMember.fits_of_variant {inner : Json → Except Mismatch ClassMember}
    (each : ∀ levels source result, Json.FitsIn levels source →
      inner source = .ok result → result.Fits)
    {variant : String × (Json → Except Mismatch ClassMember)} (isVariant : variant ∈ variants inner)
    {levels : Nat} {json : Json} (fits : json.FitsIn levels) {result : ClassMember}
    (isRead : variant.2 json = .ok result) : result.Fits := by
  simp only [variants, List.mem_cons, List.not_mem_nil, or_false] at isVariant
  obtain rfl | rfl | rfl := isVariant
  · obtain ⟨c, isClass, rfl⟩ := map_eq_ok.mp isRead
    exact fun f => ClassDecl.fits_of_readWith (σ := Json) each fits isClass
  · obtain ⟨f, isField, rfl⟩ := map_eq_ok.mp isRead
    exact FieldDecl.fits_of_read (σ := Json) fits isField
  · obtain ⟨m, -, rfl⟩ := map_eq_ok.mp isRead
    trivial

/-- By induction on how deep members may nest: a class in a value hands the rest of it on. -/
theorem ClassMember.fits_of_ofJson (depth : Nat) {levels : Nat} {json : Json}
    (fits : json.FitsIn levels) {result : ClassMember}
    (isRead : ClassMember.ofJson depth json = .ok result) : result.Fits := by
  induction depth generalizing levels json result with
  | zero => cases isRead
  | succ depth inductionHypothesis =>
    obtain ⟨variant, isVariant, inner, innerFits, isRead⟩ := Bounded.tagged (σ := Json) fits isRead
    exact ClassMember.fits_of_variant (fun _ _ _ fits => inductionHypothesis fits) isVariant
      innerFits isRead

theorem ClassMember.fits_of_read {levels : Nat} {source : σ} (fits : Bounded.FitsIn levels source)
    {result : ClassMember} (isRead : ClassMember.read source = .ok result) : result.Fits := by
  obtain ⟨variant, isVariant, json, jsonFits, isRead⟩ := Bounded.tagged fits isRead
  exact ClassMember.fits_of_variant (fun _ _ _ fits => ClassMember.fits_of_ofJson heldLevels fits)
    isVariant jsonFits isRead

/-- All fields that a class declares, at any depth, have finite defaults. -/
theorem ClassDecl.fits_of_read {levels : Nat} {source : σ} (fits : Bounded.FitsIn levels source)
    {c : ClassDecl} (isRead : ClassDecl.read source = .ok c) {f : FieldDecl}
    (declares : c.Declares f) : f.Fits :=
  ClassDecl.fits_of_readWith (fun _ _ _ fits => ClassMember.fits_of_read fits) fits isRead declares

/-! ## Documents -/

theorem Document.fits_of_ofText {path text : String} {document : Document}
    (isRead : Document.ofText path text = .ok document) :
    ∀ c ∈ document.declarations, ∀ f, c.Declares f → f.Fits := by
  obtain ⟨cursor, fits, isRead⟩ := exists_of_readText (mapError_eq_ok.mp isRead)
  obtain ⟨arranged, found, -, fields⟩ := Source.record_eq_ok.mp isRead
  obtain ⟨_, -, slotsFit⟩ := Bounded.arrange (σ := Cursor) fits found
  obtain ⟨declarations, isList, rfl⟩ := Record.read_map_eq_ok.mp fields
  obtain ⟨slot, isSlot, isList⟩ | ⟨-, rfl⟩ := Record.read_optional_eq_ok.mp isList
  · obtain ⟨_, -, items⟩ := Bounded.list (slotsFit slot (Arranged.mem_of_slot? isSlot)) isList
    intro c isMember f declares
    obtain ⟨item, itemFits, isClass⟩ := items c isMember
    exact ClassDecl.fits_of_read itemFits isClass declares
  · exact List.forall_mem_nil _

end ConfigBinding
