import ConfigBinding.Proofs.Json.Bounds
import ConfigBinding.Proofs.Json.Reading

/-!
# What is read from sources that hold a value

A source that holds a value which fits hands out just what the value says: its scalars, the items of
its lists, the fields of its records. A reader is shown to undo a writer by these laws alone, so one
proof serves for texts and for values that were read whole.

* `Faithful`: sources with these laws; `Cursor` and `Json` are;
* `Record.Gives`: what the fields of a record make of the entries that were written;
* `Faithful.record`, `Faithful.taggedRecord`: whole records.
-/

namespace ConfigBinding

open Dictionary (keys)

variable {σ ε α β : Type}

/-- Sources from which a value that they hold is read as it is. -/
class Faithful (σ : Type) {ε : outParam Type} [Source σ ε] where
  Holds : Nat → Json → σ → Prop
  fits {levels : Nat} {json : Json} {source : σ} (holds : Holds levels json source) :
    json.FitsIn levels
  string {levels : Nat} {text : String} {source : σ} (holds : Holds levels (.string text) source) :
    Source.string source = .ok text
  bool {levels : Nat} {value : Bool} {source : σ} (holds : Holds levels (.bool value) source) :
    Source.bool source = .ok value
  nullable {levels : Nat} {json : Json} {source : σ} {α : Type} {read : σ → Except ε α} {value : α}
    (holds : Holds levels json source) (notNull : json ≠ .null) (isRead : read source = .ok value) :
    Source.nullable read source = .ok (some value)
  list {levels : Nat} {source : σ} {α β : Type} {read : σ → Except ε β} {write : α → Json}
    {keep : α → β} {values : List α}
    (holds : Holds (levels + 1) (.array (values.map write)) source)
    (each : ∀ value ∈ values, ∀ item, Holds levels (write value) item →
      read item = .ok (keep value)) :
    Source.list read source = .ok (values.map keep)
  choice {levels : Nat} {source : σ} {α : Type} {variants : List (String × α)} {name : String}
    {value : α} (holds : Holds levels (.string name) source)
    (isVariant : variants.lookup name = some value) : Source.choice variants source = .ok value
  tagged {levels : Nat} {source : σ} {α : Type} {tag what name : String}
    {variants : List (String × (Json → Except Mismatch α))} {read : Json → Except Mismatch α}
    {others : List (String × Json)} {value : α}
    (holds : Holds levels (.object ((tag, .string name) :: others)) source)
    (isVariant : variants.lookup name = some read) (tagIsFirst : tag ∉ keys others)
    (isRead : read (.object others) = .ok value) :
    Source.tagged tag what variants source = .ok value
  arrange {levels : Nat} {source : σ} {entries : List (String × Json)}
    (holds : Holds (levels + 1) (.object entries) source) (what : String) (names : List String)
    (distinct : (keys entries).Nodup) (known : ∀ key ∈ keys entries, key ∈ names) :
    ∃ arranged, Source.arrange what names source = .ok arranged ∧ arranged.breach = none ∧
      SlotsMatch (fun item json => Holds levels json item) arranged.slots entries

theorem SlotsMatch.and {R : σ → Json → Prop} {P : Json → Prop} {slots : List (Slot σ)}
    {entries : List (String × Json)} (slotsMatch : SlotsMatch R slots entries)
    (each : ∀ entry ∈ entries, P entry.2) :
    SlotsMatch (fun item json => R item json ∧ P json) slots entries := by
  intro name
  cases isEntry : entries.lookup name with
  | none =>
    rw [slotsMatch.find?_eq_none isEntry]
    exact .none
  | some json =>
    obtain ⟨slot, isSlot, isField⟩ := slotsMatch.exists_slot isEntry
    rw [isSlot]
    exact .some ⟨isField, each _ (mem_of_lookup_eq_some isEntry)⟩

/-! ## Whole values -/

namespace Json

theorem splitTag_of_not_mem {tag : String} {read : Json → Except Mismatch α} {seen : Option α}
    {others : List (String × Json)} (untagged : tag ∉ keys others) :
    splitTag tag read seen others = .ok (seen, others) := by
  induction others with
  | nil => rfl
  | cons first rest inductionHypothesis =>
    obtain ⟨notFirst, notRest⟩ : tag ≠ first.1 ∧ tag ∉ keys rest :=
      not_or.mp (untagged ∘ List.mem_cons.mpr)
    rw [splitTag, if_neg (by simpa using Ne.symm notFirst), inductionHypothesis notRest]
    rfl

theorem slotsMatch_arrangeMembers {names : List String} {entries : List (String × Json)}
    {seen : List String} (rank : Nat) (distinct : (keys entries).Nodup)
    (known : ∀ key ∈ keys entries, key ∈ names ∧ key ∉ seen) :
    ∃ slots, arrangeMembers names seen rank entries = (slots, none) ∧
      SlotsMatch (· = ·) slots entries := by
  induction entries generalizing seen rank with
  | nil => exact ⟨[], rfl, fun _ => .none⟩
  | cons entry rest inductionHypothesis =>
    obtain ⟨isNew, distinctRest⟩ := List.nodup_cons.mp distinct
    obtain ⟨⟨isKnown, notSeen⟩, knownRest⟩ := List.forall_mem_cons.mp known
    obtain ⟨slots, isArranged, restMatches⟩ :=
      inductionHypothesis (rank + 1) distinctRest (forall_known_of_new isNew knownRest)
    refine ⟨⟨entry.1, rank, entry.2⟩ :: slots, ?_, restMatches.cons rfl⟩
    simp [arrangeMembers, isKnown, notSeen, isArranged]

instance : Faithful Json where
  Holds levels json source := source = json ∧ json.FitsIn levels
  fits holds := holds.2
  string := by
    rintro _ text _ ⟨rfl, -⟩
    rfl
  bool := by
    rintro _ value _ ⟨rfl, -⟩
    rfl
  nullable := by
    rintro _ _ json _ read value ⟨rfl, -⟩ notNull isRead
    cases json with
    | null => exact absurd rfl notNull
    | bool | number | string | array | object => exact map_eq_ok.mpr ⟨value, isRead, rfl⟩
  list := by
    rintro levels _ _ _ read write keep values ⟨rfl, fits⟩ each
    cases fits with
    | array inside =>
      refine mapM_eq_ok.mpr (List.forall₂_map_left_iff.mpr (List.forall₂_map_right_iff.mpr ?_))
      refine List.forall₂_same.mpr fun value isValue => each value isValue _ ⟨rfl, ?_⟩
      exact inside _ (List.mem_map_of_mem isValue)
  choice := by
    rintro _ _ _ variants name value ⟨rfl, -⟩ isVariant
    change Json.variant variants name = _
    rw [Json.variant, isVariant]
  tagged := by
    rintro _ _ _ tag what name variants read others value ⟨rfl, -⟩ isVariant tagIsFirst isRead
    have split : splitTag tag (tagVariant variants) none ((tag, .string name) :: others) =
        .ok (some read, others) := by
      simp [splitTag, tagVariant, Json.variant, isVariant, splitTag_of_not_mem tagIsFirst, bind,
        Except.bind]
    change Json.tagged tag what variants (.object ((tag, .string name) :: others)) = _
    rw [Json.tagged, split]
    exact isRead
  arrange := by
    rintro levels _ entries ⟨rfl, fits⟩ what names distinct known
    have knownAndNew : ∀ key ∈ keys entries, key ∈ names ∧ key ∉ ([] : List String) :=
      fun key member => ⟨known key member, List.not_mem_nil⟩
    obtain ⟨slots, isArranged, slotsMatch⟩ := slotsMatch_arrangeMembers 0 distinct knownAndNew
    cases fits with
    | object inside =>
      refine ⟨⟨slots, none, fun name =>
        (entries.length + 1 + names.idxOf name, .missingField name)⟩, ?_, rfl,
        slotsMatch.and inside⟩
      change Json.arrange what names (.object entries) = _
      simp only [Json.arrange, isArranged]

end Json

/-! ## Texts -/

namespace Cursor

theorem items_of_json? {levels : Nat} {read : Cursor → Except Fault β} {write : α → Json}
    {keep : α → β} : (items : Items) → (values : List α) → (index : Nat) →
      items.json? = some (values.map write) →
        (∀ value ∈ values, ∀ item : Cursor, item.Holds levels (write value) →
          read item = .ok (keep value)) →
        Cursor.items read levels index items = .ok (values.map keep)
  | .nil close, values, index, holds, _ => by
    obtain ⟨noDefect, noValues⟩ := Items.json?_nil holds
    cases List.map_eq_nil_iff.mp noValues
    rw [Cursor.items, noDefect]
    rfl
  | .cons head settled tail, values, index, holds, each => by
    obtain ⟨first, rest, isFirst, isRest, isCons⟩ := Items.json?_cons holds
    obtain ⟨value, others, rfl, rfl, rfl⟩ := List.map_eq_cons_iff.mp isCons
    obtain ⟨readsFirst, readsRest⟩ := List.forall_mem_cons.mp each
    rw [Cursor.items]
    refine bind_eq_ok.mpr ⟨keep value, mapError_eq_ok.mpr (readsFirst _ ⟨isFirst, rfl⟩), ?_⟩
    exact bind_eq_ok.mpr ⟨_, items_of_json? tail others (index + 1) isRest readsRest, rfl⟩

theorem splitTag_of_json? {tag : String} {variants : List (String × β)} {levels : Nat}
    {seen : Option β} : (members : Members) → (others : List (String × Json)) →
      members.json? = some others → (∀ entry ∈ others, entry.2.FitsIn levels) → tag ∉ keys others →
        ∃ stop, splitTag tag variants levels seen members = .ok (seen, others, stop)
  | .nil close, others, holds, _, _ => by
    obtain ⟨noDefect, rfl⟩ := Members.json?_nil holds
    rw [splitTag, noDefect]
    exact ⟨close.stop, rfl⟩
  | .unvalued _ _, _, holds, _, _ => nomatch holds
  | .cons key value settled tail, others, holds, fit, untagged => by
    obtain ⟨name, first, rest, isName, isFirst, isRest, rfl⟩ := Members.json?_cons holds
    obtain ⟨firstFits, restFit⟩ := List.forall_mem_cons.mp fit
    obtain ⟨notFirst, notRest⟩ : tag ≠ name ∧ tag ∉ keys rest :=
      not_or.mp (untagged ∘ List.mem_cons.mpr)
    obtain ⟨stop, isSplit⟩ := splitTag_of_json? tail rest isRest restFit notRest
    refine ⟨stop, ?_⟩
    rw [splitTag, isName]
    refine bind_eq_ok.mpr ⟨name, rfl, ?_⟩
    rw [if_neg (by simpa using Ne.symm notFirst), Tree.hold_of_json? value firstFits isFirst]
    exact bind_eq_ok.mpr ⟨first, rfl, bind_eq_ok.mpr ⟨_, isSplit, rfl⟩⟩

theorem Holds.tagged {cursor : Cursor} {levels : Nat} {tag what name : String}
    {variants : List (String × (Json → Except Mismatch α))} {read : Json → Except Mismatch α}
    {others : List (String × Json)} {value : α}
    (holds : cursor.Holds (levels + 1) (.object ((tag, .string name) :: others)))
    (fit : ∀ entry ∈ others, entry.2.FitsIn levels) (isVariant : variants.lookup name = some read)
    (tagIsFirst : tag ∉ keys others) (isRead : read (.object others) = .ok value) :
    Cursor.tagged tag what variants cursor = .ok value := by
  obtain ⟨start, members, isObject, isMembers⟩ := Tree.eq_of_json?_object holds.tree
  cases members with
  | nil close => cases (Members.json?_nil isMembers).2
  | unvalued => cases isMembers
  | cons key first settled tail =>
    obtain ⟨_, _, _, isTag, isName, isOthers, same⟩ := Members.json?_cons isMembers
    cases same
    obtain ⟨begun, ended, rfl⟩ := Tree.eq_of_json?_string isName
    have othersSplit : ∃ stop, splitTag tag variants levels (some read) tail =
        .ok (some read, others, stop) := splitTag_of_json? tail others isOthers fit tagIsFirst
    obtain ⟨stop, isSplit⟩ := othersSplit
    -- The tag comes first, so the variant is known before any other member is held.
    rw [Cursor.tagged, isObject]
    refine bind_eq_ok.mpr ⟨levels, openLevel_eq_ok.mpr holds.levels, ?_⟩
    have splits : splitTag tag variants levels none
        (.cons key (.scalar begun ended (.string (.ok name))) settled tail) =
          .ok (some read, others, stop) := by
      rw [splitTag, isTag]
      refine bind_eq_ok.mpr ⟨tag, rfl, ?_⟩
      rw [if_pos (beq_self_eq_true tag), if_neg (by simp)]
      refine bind_eq_ok.mpr ⟨read, ?_, isSplit⟩
      simp [tagVariant, variant, Json.variant, isVariant, Except.mapError]
    exact bind_eq_ok.mpr ⟨_, splits, mapError_eq_ok.mpr isRead⟩

instance : Faithful Cursor where
  Holds levels json cursor := cursor.Holds levels json ∧ json.FitsIn levels
  fits holds := holds.2
  string holds := holds.1.string
  bool := by
    rintro _ value cursor ⟨holds, -⟩
    obtain ⟨start, stop, isScalar⟩ := Tree.eq_of_json?_bool holds.tree
    change cursor.bool = _
    rw [Cursor.bool, isScalar]
  nullable holds notNull isRead := holds.1.nullable notNull isRead
  list := by
    rintro levels cursor _ _ read write keep values ⟨holds, fits⟩ each
    obtain ⟨start, items, isArray, isItems⟩ := Tree.eq_of_json?_array holds.tree
    change cursor.list read = _
    rw [Cursor.list, isArray]
    refine bind_eq_ok.mpr ⟨levels, openLevel_eq_ok.mpr holds.levels, ?_⟩
    cases fits with
    | array inside =>
      refine items_of_json? items values 0 isItems fun value isValue item itemHolds => ?_
      exact each value isValue item ⟨itemHolds, inside _ (List.mem_map_of_mem isValue)⟩
  choice := by
    rintro _ cursor _ variants name value ⟨holds, -⟩ isVariant
    obtain ⟨start, stop, isScalar⟩ := Tree.eq_of_json?_string holds.tree
    change Cursor.choice variants cursor = _
    rw [Cursor.choice, isScalar]
    simp [Cursor.variant, Json.variant, isVariant, bind, Except.bind, Except.mapError]
  tagged := by
    rintro _ cursor _ tag what name variants read others value ⟨holds, fits⟩ isVariant tagIsFirst
      isRead
    cases fits with
    | object inside =>
      exact holds.tagged (List.forall_mem_cons.mp inside).2 isVariant tagIsFirst isRead
  arrange := by
    rintro levels cursor entries ⟨holds, fits⟩ what names distinct known
    obtain ⟨arranged, isArranged, noBreach, slotsMatch⟩ := holds.arrange what names distinct known
    cases fits with
    | object inside => exact ⟨arranged, isArranged, noBreach, slotsMatch.and inside⟩

end Cursor

/-! ## Records -/

section Records

variable [Source σ ε] [Faithful σ]

open Faithful (Holds)

/-- Whether a record gives a value when its fields are read from some entries. -/
def Record.Gives (fields : Record σ ε α) (levels : Nat) (entries : List (String × Json))
    (value : α) : Prop :=
  ∀ arranged : Arranged σ ε,
    SlotsMatch (fun item json => Holds levels json item) arranged.slots entries →
      fields.read arranged = .ok value

namespace Record.Gives

variable {levels : Nat} {entries : List (String × Json)}

theorem map {x : Record σ ε α} {a : α} (gives : x.Gives levels entries a) (g : α → β) :
    (g <$> x).Gives levels entries (g a) :=
  fun arranged slotsMatch => Record.read_map_eq_ok.mpr ⟨a, gives arranged slotsMatch, rfl⟩

theorem seq {f : Record σ ε (α → β)} {x : Record σ ε α} {g : α → β} {a : α}
    (givesFunction : f.Gives levels entries g) (gives : x.Gives levels entries a) :
    (f <*> x).Gives levels entries (g a) :=
  fun arranged slotsMatch => Record.read_seq_eq_ok.mpr
    ⟨g, a, givesFunction arranged slotsMatch, gives arranged slotsMatch, rfl⟩

variable {name : String} {read : σ → Except ε α} {json : Json} {value default : α}

theorem required (isEntry : entries.lookup name = some json)
    (isRead : ∀ item, Holds levels json item → read item = .ok value) :
    (Record.required name read).Gives levels entries value := by
  intro arranged slotsMatch
  obtain ⟨slot, isSlot, holds⟩ := slotsMatch.exists_slot isEntry
  exact Record.read_required_eq_ok.mpr ⟨slot, isSlot, isRead slot.source holds⟩

theorem optional (isEntry : entries.lookup name = some json)
    (isRead : ∀ item, Holds levels json item → read item = .ok value) :
    (Record.optional name read default).Gives levels entries value := by
  intro arranged slotsMatch
  obtain ⟨slot, isSlot, holds⟩ := slotsMatch.exists_slot isEntry
  exact Record.read_optional_eq_ok.mpr (.inl ⟨slot, isSlot, isRead slot.source holds⟩)

theorem missing (isMissing : entries.lookup name = none) :
    (Record.optional name read default).Gives levels entries default :=
  fun _ slotsMatch =>
    Record.read_optional_eq_ok.mpr (.inr ⟨slotsMatch.find?_eq_none isMissing, rfl⟩)

/-- A field that is left out, or may be null, when there is nothing to write. -/
theorem present {write : α → Json} {value : Option α}
    (isEntry : entries.lookup name = value.map write) (notNull : ∀ a, write a ≠ .null)
    (isRead : ∀ a item, Holds levels (write a) item → read item = .ok a) :
    (Record.optional name (Source.nullable read) none).Gives levels entries value := by
  cases value with
  | none => exact missing isEntry
  | some a =>
    exact optional isEntry fun item holds =>
      Faithful.nullable holds (notNull a) (isRead a item holds)

theorem text {text : Option String} (isEntry : entries.lookup name = text.map .string) :
    (Record.optional name (Source.nullable Source.string) none : Record σ ε _).Gives levels entries
      text :=
  present isEntry (fun _ => nofun) fun _ _ => Faithful.string

end Record.Gives

/-- A list that is written item by item. -/
theorem Faithful.list_map {read : σ → Except ε β} {write : α → Json} {keep : α → β}
    {values : List α} {levels : Nat} {source : σ}
    (holds : Holds levels (.array (values.map write)) source)
    (each : ∀ inner < levels, ∀ value ∈ values, ∀ item, Holds inner (write value) item →
      read item = .ok (keep value)) :
    Source.list read source = .ok (values.map keep) := by
  cases levels with
  | zero => cases Faithful.fits holds
  | succ inner => exact Faithful.list holds (each inner (Nat.lt_succ_self inner))

theorem Faithful.list_self {read : σ → Except ε α} {write : α → Json} {values : List α}
    {levels : Nat} {source : σ} (holds : Holds levels (.array (values.map write)) source)
    (each : ∀ inner < levels, ∀ value ∈ values, ∀ item, Holds inner (write value) item →
      read item = .ok value) :
    Source.list read source = .ok values := by
  rw [Faithful.list_map holds each, List.map_id']

/-- A record whose fields are written in the order in which they are declared. -/
theorem Faithful.record {what : String} {fields : Record σ ε α} {levels : Nat}
    {entries : List (String × Json)} {source : σ} {value : α}
    (holds : Holds levels (.object entries) source) (distinct : fields.names.Nodup)
    (inOrder : (keys entries).Sublist fields.names)
    (gives : ∀ inner < levels, fields.Gives inner entries value) :
    Source.record what fields source = .ok value := by
  cases levels with
  | zero => cases Faithful.fits holds
  | succ inner =>
    obtain ⟨arranged, isArranged, noBreach, slotsMatch⟩ :=
      Faithful.arrange holds what fields.names (inOrder.nodup distinct) inOrder.subset
    refine Source.record_eq_ok.mpr ⟨arranged, isArranged, noBreach, ?_⟩
    exact gives inner (Nat.lt_succ_self inner) arranged slotsMatch

/-- What is left of an object without its first member takes no more levels. -/
theorem Json.FitsIn.others {levels : Nat} {first : String × Json} {others : List (String × Json)}
    (fits : (Json.object (first :: others)).FitsIn levels) :
    (Json.object others).FitsIn levels := by
  cases fits with
  | object inside => exact .object (List.forall_mem_cons.mp inside).2

/-- A record that is told apart by its tag, which is written first. -/
theorem Faithful.taggedRecord {tag what recordWhat name : String}
    {variants : List (String × (Json → Except Mismatch α))} {fields : Record Json Mismatch α}
    {levels : Nat} {others : List (String × Json)} {source : σ} {value : α}
    (holds : Holds levels (.object ((tag, .string name) :: others)) source)
    (isVariant : variants.lookup name = some (Source.record recordWhat fields))
    (distinct : (tag :: fields.names).Nodup) (inOrder : (keys others).Sublist fields.names)
    (gives : ∀ inner < levels, fields.Gives inner others value) :
    Source.tagged tag what variants source = .ok value := by
  obtain ⟨notTag, distinct⟩ := List.nodup_cons.mp distinct
  refine Faithful.tagged holds isVariant (fun isTag => notTag (inOrder.subset isTag)) ?_
  have heldWhole : Holds levels (Json.object others) (Json.object others) :=
    ⟨rfl, (Faithful.fits holds).others⟩
  exact Faithful.record heldWhole distinct inOrder gives

end Records

/-- An object with any names, which is written entry by entry. -/
theorem Cursor.dictionary_map {read : Cursor → Except Fault β} {write : α → Json} {keep : α → β}
    {entries : List (String × α)} {levels : Nat} {cursor : Cursor}
    (holds : Faithful.Holds levels
      (.object (entries.map fun entry => (entry.1, write entry.2))) cursor)
    (each : ∀ inner < levels, ∀ entry ∈ entries, ∀ item : Cursor,
      Faithful.Holds inner (write entry.2) item → read item = .ok (keep entry.2)) :
    Cursor.dictionary read cursor = .ok (entries.map fun entry => (entry.1, keep entry.2)) := by
  obtain ⟨isHeld, fits⟩ := holds
  cases fits with
  | @object inner _ inside =>
    refine isHeld.dictionary fun entry isEntry item itemHolds => ?_
    have entryFits := inside _ (List.mem_map_of_mem isEntry)
    exact each inner (Nat.lt_succ_self inner) entry isEntry item ⟨itemHolds, entryFits⟩

end ConfigBinding
