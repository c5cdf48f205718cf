import ConfigBinding.Json.Cursor
import ConfigBinding.Proofs.Json.Held
import ConfigBinding.Proofs.Json.Records
import ConfigBinding.Proofs.Store.Changes

/-!
# Reading well-formed values

What readers find in a text without faults, from the value that the text holds.

* `Cursor.Holds`: a value in a text, as JSON;
* `Cursor.Holds.string`, `Cursor.Holds.whole`, `Cursor.Holds.dictionary`, `Cursor.Holds.arrange`:
  what is read there;
* `readWholeText_pretty`: a printed value is read as it was.
-/

namespace ConfigBinding

variable {α β : Type}

/-! ## Trees by what they hold -/

theorem Scalar.cases_of_json? {value : Scalar} {json : Json} (holds : value.json? = some json) :
    (value = .null ∧ json = .null) ∨ (∃ truth, value = .bool truth ∧ json = .bool truth) ∨
      (∃ number, value = .number (.ok number) ∧ json = .number number) ∨
      ∃ text, value = .string (.ok text) ∧ json = .string text := by
  cases value with
  | null =>
    cases holds
    exact .inl ⟨rfl, rfl⟩
  | bool truth =>
    cases holds
    exact .inr (.inl ⟨truth, rfl, rfl⟩)
  | number result =>
    cases result <;> cases holds
    exact .inr (.inr (.inl ⟨_, rfl, rfl⟩))
  | string result =>
    cases result <;> cases holds
    exact .inr (.inr (.inr ⟨_, rfl, rfl⟩))

theorem Tree.cases_of_json? {tree : Tree} {json : Json} (holds : tree.json? = some json) :
    (∃ start stop value, tree = .scalar start stop value ∧ value.json? = some json) ∨
      (∃ start items values, tree = .array start items ∧ items.json? = some values ∧
        json = .array values) ∨
      ∃ start members entries, tree = .object start members ∧ members.json? = some entries ∧
        json = .object entries := by
  cases tree with
  | scalar start stop value => exact .inl ⟨start, stop, value, rfl, holds⟩
  | array start items =>
    obtain ⟨values, isItems, rfl⟩ := Option.map_eq_some_iff.mp holds
    exact .inr (.inl ⟨start, items, values, rfl, isItems, rfl⟩)
  | object start members =>
    obtain ⟨entries, isMembers, rfl⟩ := Option.map_eq_some_iff.mp holds
    exact .inr (.inr ⟨start, members, entries, rfl, isMembers, rfl⟩)
  | broken => cases holds

section Forms

variable {tree : Tree}

theorem Tree.eq_of_json?_string {text : String} (holds : tree.json? = some (.string text)) :
    ∃ start stop, tree = .scalar start stop (.string (.ok text)) := by
  obtain ⟨start, stop, value, rfl, isScalar⟩ | ⟨_, _, _, -, -, same⟩ | ⟨_, _, _, -, -, same⟩ :=
    Tree.cases_of_json? holds
  · obtain ⟨-, same⟩ | ⟨_, -, same⟩ | ⟨_, -, same⟩ | ⟨_, rfl, same⟩ :=
      Scalar.cases_of_json? isScalar <;> cases same
    exact ⟨start, stop, rfl⟩
  all_goals cases same

theorem Tree.eq_of_json?_bool {truth : Bool} (holds : tree.json? = some (.bool truth)) :
    ∃ start stop, tree = .scalar start stop (.bool truth) := by
  obtain ⟨start, stop, value, rfl, isScalar⟩ | ⟨_, _, _, -, -, same⟩ | ⟨_, _, _, -, -, same⟩ :=
    Tree.cases_of_json? holds
  · obtain ⟨-, same⟩ | ⟨_, rfl, same⟩ | ⟨_, -, same⟩ | ⟨_, -, same⟩ :=
      Scalar.cases_of_json? isScalar <;> cases same
    exact ⟨start, stop, rfl⟩
  all_goals cases same

theorem Tree.eq_of_json?_array {values : List Json} (holds : tree.json? = some (.array values)) :
    ∃ start items, tree = .array start items ∧ items.json? = some values := by
  obtain ⟨_, _, value, -, isScalar⟩ | ⟨start, items, _, rfl, isItems, same⟩ |
    ⟨_, _, _, -, -, same⟩ := Tree.cases_of_json? holds
  · obtain ⟨-, same⟩ | ⟨_, -, same⟩ | ⟨_, -, same⟩ | ⟨_, -, same⟩ :=
      Scalar.cases_of_json? isScalar <;> cases same
  · cases same
    exact ⟨start, items, rfl, isItems⟩
  · cases same

theorem Tree.eq_of_json?_object {entries : List (String × Json)}
    (holds : tree.json? = some (.object entries)) :
    ∃ start members, tree = .object start members ∧ members.json? = some entries := by
  obtain ⟨_, _, value, -, isScalar⟩ | ⟨_, _, _, -, -, same⟩ |
    ⟨start, members, _, rfl, isMembers, same⟩ := Tree.cases_of_json? holds
  · obtain ⟨-, same⟩ | ⟨_, -, same⟩ | ⟨_, -, same⟩ | ⟨_, -, same⟩ :=
      Scalar.cases_of_json? isScalar <;> cases same
  · cases same
  · cases same
    exact ⟨start, members, rfl, isMembers⟩

end Forms

namespace Cursor

/-- Whether a cursor is at a value without faults, with so many levels left. -/
structure Holds (cursor : Cursor) (levels : Nat) (json : Json) : Prop where
  tree : cursor.tree.json? = some json
  levels : cursor.levels = levels

variable {cursor : Cursor} {levels : Nat} {json : Json}

theorem Holds.string {text : String} (holds : cursor.Holds levels (.string text)) :
    cursor.string = .ok text := by
  obtain ⟨start, stop, isScalar⟩ := Tree.eq_of_json?_string holds.tree
  rw [Cursor.string, isScalar]

theorem Holds.whole {read : Json → Except Mismatch α} {value : α} (holds : cursor.Holds levels json)
    (fits : json.FitsIn levels) (isRead : read json = .ok value) :
    Cursor.whole read cursor = .ok value := by
  refine bind_eq_ok.mpr ⟨json, ?_, mapError_eq_ok.mpr isRead⟩
  rw [holds.levels]
  exact Tree.hold_of_json? cursor.tree fits holds.tree

theorem Holds.nullable {read : Cursor → Except Fault α} {value : α}
    (holds : cursor.Holds levels json) (notNull : json ≠ .null) (isRead : read cursor = .ok value) :
    Cursor.nullable read cursor = .ok (some value) := by
  unfold Cursor.nullable
  split
  next isNull =>
    have holdsNull := holds.tree
    rw [isNull] at holdsNull
    exact absurd (Option.some.inj holdsNull).symm notNull
  next => exact map_eq_ok.mpr ⟨value, isRead, rfl⟩

/-! ## Objects -/

theorem members_of_json? {read : Cursor → Except Fault β} {write : α → Json} {keep : α → β} :
    (members : Members) → (entries : List (String × α)) →
      members.json? = some (entries.map fun entry => (entry.1, write entry.2)) →
        (∀ entry ∈ entries, ∀ item, Cursor.Holds item levels (write entry.2) →
          read item = .ok (keep entry.2)) →
        Cursor.members read levels members = .ok (entries.map fun entry => (entry.1, keep entry.2))
  | .nil close, entries, holds, _ => by
    obtain ⟨noDefect, noEntries⟩ := Members.json?_nil holds
    cases List.map_eq_nil_iff.mp noEntries
    rw [Cursor.members, noDefect]
    rfl
  | .unvalued _ _, _, holds, _ => nomatch holds
  | .cons key value settled tail, entries, holds, each => by
    obtain ⟨name, first, rest, isName, isFirst, isRest, isCons⟩ := Members.json?_cons holds
    obtain ⟨entry, others, rfl, same, rfl⟩ := List.map_eq_cons_iff.mp isCons
    cases same
    obtain ⟨readsFirst, readsRest⟩ := List.forall_mem_cons.mp each
    rw [Cursor.members]
    refine bind_eq_ok.mpr ⟨entry.1, mapError_eq_ok.mpr isName, ?_⟩
    refine bind_eq_ok.mpr ⟨keep entry.2, ?_, ?_⟩
    · exact mapError_eq_ok.mpr (readsFirst _ ⟨isFirst, rfl⟩)
    · exact bind_eq_ok.mpr ⟨_, members_of_json? tail others isRest readsRest, rfl⟩

/-- An object with any names is read entry by entry. -/
theorem Holds.dictionary {read : Cursor → Except Fault β} {write : α → Json} {keep : α → β}
    {entries : List (String × α)}
    (holds : cursor.Holds (levels + 1)
      (.object (entries.map fun entry => (entry.1, write entry.2))))
    (each : ∀ entry ∈ entries, ∀ item, Cursor.Holds item levels (write entry.2) →
      read item = .ok (keep entry.2)) :
    Cursor.dictionary read cursor = .ok (entries.map fun entry => (entry.1, keep entry.2)) := by
  obtain ⟨start, members, isObject, isMembers⟩ := Tree.eq_of_json?_object holds.tree
  rw [Cursor.dictionary, isObject]
  refine bind_eq_ok.mpr ⟨levels, openLevel_eq_ok.mpr holds.levels, ?_⟩
  exact members_of_json? members entries isMembers each

/-! ## Records -/

theorem arrangeMembers_of_json? {names : List String} (levels : Nat) :
    (members : Members) → (entries : List (String × Json)) → members.json? = some entries →
      ∀ (rank : Nat) {seen : List String}, (Dictionary.keys entries).Nodup →
        (∀ key ∈ Dictionary.keys entries, key ∈ names ∧ key ∉ seen) →
          ∃ slots stop, arrangeMembers names levels seen rank members = (slots, none, stop) ∧
            SlotsMatch (fun item json => Cursor.Holds item levels json) slots entries
  | .nil close, entries, holds, rank, seen, _, _ => by
    obtain ⟨noDefect, rfl⟩ := Members.json?_nil holds
    rw [arrangeMembers, noDefect]
    exact ⟨[], close.stop, rfl, fun name => .none⟩
  | .unvalued _ _, _, holds, _, _, _, _ => nomatch holds
  | .cons key value settled tail, entries, holds, rank, seen, distinct, known => by
    obtain ⟨name, first, rest, isName, isFirst, isRest, rfl⟩ := Members.json?_cons holds
    obtain ⟨isNew, distinctRest⟩ := List.nodup_cons.mp distinct
    obtain ⟨⟨isKnown, notSeen⟩, knownRest⟩ := List.forall_mem_cons.mp known
    obtain ⟨slots, stop, isArranged, restMatches⟩ :=
      arrangeMembers_of_json? levels tail rest isRest (rank + 1) distinctRest
        (forall_known_of_new isNew knownRest)
    let slot : Slot Cursor := ⟨name, rank, ⟨value, levels, some (.member name), some settled⟩⟩
    refine ⟨slot :: slots, stop, ?_, restMatches.cons ⟨isFirst, rfl⟩⟩
    rw [arrangeMembers, isName]
    simp [isKnown, notSeen, isArranged, slot]

/-- The fields of a record that is written as an object. -/
theorem Holds.arrange {entries : List (String × Json)}
    (holds : cursor.Holds (levels + 1) (.object entries)) (what : String) (names : List String)
    (distinct : (Dictionary.keys entries).Nodup)
    (known : ∀ key ∈ Dictionary.keys entries, key ∈ names) :
    ∃ arranged, Source.arrange what names cursor = .ok arranged ∧ arranged.breach = none ∧
      SlotsMatch (fun item json => Cursor.Holds item levels json) arranged.slots entries := by
  obtain ⟨start, members, isObject, isMembers⟩ := Tree.eq_of_json?_object holds.tree
  have knownAndNew : ∀ key ∈ Dictionary.keys entries, key ∈ names ∧ key ∉ ([] : List String) :=
    fun key member => ⟨known key member, List.not_mem_nil⟩
  obtain ⟨slots, stop, isArranged, slotsMatch⟩ :=
    arrangeMembers_of_json? levels members entries isMembers 0 distinct knownAndNew
  have arranged : ∃ absent, Cursor.arrange what names cursor = .ok ⟨slots, none, absent⟩ := by
    have opened : openLevel cursor.levels start = .ok levels := openLevel_eq_ok.mpr holds.levels
    simp only [Cursor.arrange, isObject, opened, bind, Except.bind, isArranged]
    exact ⟨_, rfl⟩
  obtain ⟨absent, isArranged⟩ := arranged
  exact ⟨⟨slots, none, absent⟩, isArranged, rfl, slotsMatch⟩

end Cursor

/-! ## Texts -/

/-- A printed value is read as the value that it is. -/
theorem readWholeText_pretty {read : Cursor → Except Fault α} {json : Json} {value : α}
    (readBack : json.Each Number.ReadsBack)
    (isRead : ∀ cursor : Cursor, cursor.Holds levelLimit json → read cursor = .ok value) :
    readWholeText read json.pretty = .ok value := by
  have delimited : Delimited [] := nofun
  obtain ⟨tree, holds, isTree⟩ := Tree.ofText_of_spelled (readBack.isSpelled 0 delimited)
  rw [readWholeText, Json.pretty, isTree]
  exact bind_eq_ok.mpr ⟨value, isRead _ ⟨holds, rfl⟩, rfl⟩

end ConfigBinding
