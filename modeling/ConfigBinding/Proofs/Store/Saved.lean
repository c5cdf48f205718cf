import ConfigBinding.Proofs.Files.Writing
import ConfigBinding.Proofs.Json.Faithful
import ConfigBinding.Proofs.Store.Entries
import ConfigBinding.Proofs.Types.ValueJson
import ConfigBinding.Store.File

/-!
# What a file keeps of a store

A file keeps the values and comments of a store, in their order, and nothing else. What it keeps is
read back exactly, as long as no key repeats, the values fit in a file and their doubles read back;
every store that is read from a file has such keys and values.

* `Store.saved`: what is kept of a store;
* `Value.doubles`, `Store.doubles`: the doubles that a file has to hold;
* `Store.IsWritable`: stores that are read back;
* `Store.isWritable_of_readCategories`: whatever a file holds, what is read from it is writable;
* `Store.readCategories_text`: what is written is read back;
* `Store.load_of_save`, `Store.save_again`: the same for the file itself.
-/

namespace ConfigBinding

open Dictionary (mapValues keys)
open Faithful (Holds)

/-! ## What is kept -/

/-- What a file keeps of a property. -/
def StoreProperty.saved (p : StoreProperty) : StoreProperty :=
  { value := p.value, comment := p.comment }

def StoreCategory.saved (c : StoreCategory) : StoreCategory :=
  { comment := c.comment, properties := mapValues StoreProperty.saved c.properties }

def Store.saved (s : Store) : Store :=
  { s with categories := mapValues StoreCategory.saved s.categories }

theorem StoreCategory.toJson_saved (c : StoreCategory) : c.saved.toJson = c.toJson := by
  simp only [toJson, saved, mapValues, List.map_map]
  rfl

theorem Store.text_saved (s : Store) : s.saved.text = s.text := by
  have categories : s.saved.toJson = s.toJson := by
    simp only [Store.toJson, Store.saved, mapValues, List.map_map]
    refine congrArg Json.object (List.map_congr_left fun entry _ => ?_)
    exact congrArg (Prod.mk entry.1) entry.2.toJson_saved
  rw [Store.text, Store.text, categories]

theorem Store.value?_saved (s : Store) (category key : String) :
    s.saved.value? category key = s.value? category key := by
  simp only [value?, property?, category?, saved, Dictionary.lookup_mapValues]
  cases s.categories.lookup category with
  | none => rfl
  | some c =>
    simp only [Option.map_some, Option.bind_some, StoreCategory.saved, Dictionary.lookup_mapValues]
    cases c.properties.lookup key <;> rfl

/-! ## Doubles -/

mutual

def Value.doubles : Value → List Double
  | .boolean _ | .int _ | .string _ => []
  | .double value => [value]
  | .array items | .collection _ _ items => Value.itemDoubles items

def Value.itemDoubles : List Value → List Double
  | [] => []
  | item :: rest => item.doubles ++ Value.itemDoubles rest

end

def Store.doubles (s : Store) : List Double :=
  s.categories.flatMap fun (_, c) =>
    c.properties.flatMap fun (_, p) => p.value.toList.flatMap Value.doubles

section Each

variable {P : Number → Prop}

mutual

/-- The numbers that a value writes are its doubles, and whole ones of 32 bits. -/
theorem Value.each_toJson (whole : ∀ int : Int32, P (.whole int.toInt)) : (value : Value) →
    (∀ double ∈ value.doubles, P (.real double)) → value.toJson.Each P
  | .boolean value, _ => .bool value
  | .int value, _ => .number (whole value)
  | .string value, _ => .string value
  | .double value, real => .number (real value List.mem_cons_self)
  | .array items, real => .array (Value.each_toJsonItems whole items real)
  | .collection container construction items, real => by
    refine .object ?_
    simp only [List.forall_mem_cons]
    exact ⟨.string container, .string construction.name,
      .array (Value.each_toJsonItems whole items real), List.forall_mem_nil _⟩

theorem Value.each_toJsonItems (whole : ∀ int : Int32, P (.whole int.toInt)) :
    (items : List Value) → (∀ double ∈ Value.itemDoubles items, P (.real double)) →
      ∀ json ∈ Value.toJsonItems items, json.Each P
  | [], _ => List.forall_mem_nil _
  | item :: rest, real => by
    obtain ⟨first, others⟩ := List.forall_mem_append.mp real
    exact List.forall_mem_cons.mpr
      ⟨item.each_toJson whole first, Value.each_toJsonItems whole rest others⟩

end

theorem each_comment (comment : Option String) :
    ∀ entry ∈ presentEntry "comment" (comment.map Json.string), entry.2.Each P := by
  cases comment with
  | none => exact List.forall_mem_nil _
  | some text => exact List.forall_mem_singleton.mpr (.string text)

theorem Store.each_toJson (whole : ∀ int : Int32, P (.whole int.toInt)) {s : Store}
    (real : ∀ double ∈ s.doubles, P (.real double)) : s.toJson.Each P := by
  refine .object (List.forall_mem_map.mpr fun category isCategory => ?_)
  refine .object (List.forall_mem_append.mpr ⟨each_comment _, ?_⟩)
  refine List.forall_mem_singleton.mpr (.object (List.forall_mem_map.mpr fun property member => ?_))
  refine .object (List.forall_mem_append.mpr ⟨?_, each_comment _⟩)
  cases isValue : property.2.value with
  | none => exact List.forall_mem_nil _
  | some value =>
    refine List.forall_mem_singleton.mpr (value.each_toJson whole fun double isDouble => ?_)
    refine real double (List.mem_flatMap.mpr ⟨category, isCategory, ?_⟩)
    refine List.mem_flatMap.mpr ⟨property, member, ?_⟩
    exact List.mem_flatMap.mpr ⟨value, Option.mem_toList.mpr isValue, isDouble⟩

end Each

/-! ## Stores that are read back -/

/-- How many levels a stored value may nest in a file, inside the objects of its property, the
    properties, its category and the categories. -/
def Value.storedLevels : Nat := levelLimit - 4

/-- Whether the value of a property fits in a file, if there is one. -/
def StoreProperty.IsWritable (p : StoreProperty) : Prop :=
  ∀ value ∈ p.value, value.toJson.FitsIn Value.storedLevels

structure StoreCategory.IsWritable (c : StoreCategory) : Prop where
  distinct : (keys c.properties).Nodup
  properties : ∀ entry ∈ c.properties, entry.2.IsWritable

structure Store.IsWritable (s : Store) : Prop where
  distinct : (keys s.categories).Nodup
  categories : ∀ entry ∈ s.categories, entry.2.IsWritable

/-! ### Whatever is read -/

open Value (storedLevels)

theorem Value.ofJson_eq_ok {json : Json} {value : Value} :
    Value.ofJson json = .ok value ↔ Value.ofJson? json = some value := by
  unfold Value.ofJson
  cases Value.ofJson? json <;> simp

theorem StoreProperty.isWritable_of_readJson {cursor : Cursor} {p : StoreProperty}
    (fits : cursor.FitsIn (storedLevels + 1)) (isRead : StoreProperty.readJson cursor = .ok p) :
    p.IsWritable := by
  obtain ⟨arranged, found, -, fields⟩ := Source.record_eq_ok.mp isRead
  obtain ⟨_, ⟨⟩, slotsFit⟩ := Bounded.arrange fits found
  obtain ⟨_, comment, isMade, -, rfl⟩ := Record.read_seq_eq_ok.mp fields
  obtain ⟨stored, isStored, rfl⟩ := Record.read_map_eq_ok.mp isMade
  rintro value ⟨⟩
  obtain ⟨slot, isSlot, isValue⟩ | ⟨-, none⟩ := Record.read_optional_eq_ok.mp isStored
  · have slotFits := slotsFit slot (Arranged.mem_of_slot? isSlot)
    obtain ⟨json, jsonFits, isValue⟩ := slotFits.whole (Cursor.read_of_nullable isValue)
    exact Value.fitsIn_of_ofJson? jsonFits (Value.ofJson_eq_ok.mp isValue)
  · cases none

theorem StoreCategory.isWritable_of_readJson {cursor : Cursor} {c : StoreCategory}
    (fits : cursor.FitsIn (storedLevels + 3)) (isRead : StoreCategory.readJson cursor = .ok c) :
    c.IsWritable := by
  obtain ⟨arranged, found, -, fields⟩ := Source.record_eq_ok.mp isRead
  obtain ⟨_, ⟨⟩, slotsFit⟩ := Bounded.arrange fits found
  obtain ⟨_, properties, isMade, isProperties, rfl⟩ := Record.read_seq_eq_ok.mp fields
  obtain ⟨comment, -, rfl⟩ := Record.read_map_eq_ok.mp isMade
  have each : ∀ entry ∈ properties, entry.2.IsWritable := by
    obtain ⟨slot, isSlot, isDictionary⟩ | ⟨-, rfl⟩ := Record.read_optional_eq_ok.mp isProperties
    · have slotFits := slotsFit slot (Arranged.mem_of_slot? isSlot)
      obtain ⟨_, ⟨⟩, itemsFit⟩ := slotFits.dictionary isDictionary
      intro entry member
      obtain ⟨item, itemFits, isProperty⟩ := itemsFit entry member
      exact StoreProperty.isWritable_of_readJson itemFits isProperty
    · exact List.forall_mem_nil _
  exact ⟨Dictionary.nodup_keys_ofList properties, Dictionary.forall_ofList each⟩

/-- Whatever a file holds, the categories that are read from it are writable. -/
theorem Store.isWritable_of_readCategories {text : String}
    {categories : List (String × StoreCategory)} (isRead : readCategories text = .ok categories)
    (path : Option String) : Store.IsWritable { path, categories } := by
  obtain ⟨entries, isWhole, rfl⟩ := map_eq_ok.mp isRead
  obtain ⟨cursor, fits, isDictionary⟩ := exists_of_readWholeText isWhole
  -- Around a value: the object of its property, the properties, the category, the categories.
  have fits : cursor.FitsIn (storedLevels + 4) := fits
  obtain ⟨_, ⟨⟩, itemsFit⟩ := fits.dictionary isDictionary
  have each : ∀ entry ∈ entries, entry.2.IsWritable := by
    intro entry member
    obtain ⟨item, itemFits, isCategory⟩ := itemsFit entry member
    exact StoreCategory.isWritable_of_readJson itemFits isCategory
  exact ⟨Dictionary.nodup_keys_ofList entries, Dictionary.forall_ofList each⟩

/-! ### Reading what was written -/

theorem Value.toJson_ne_null (value : Value) : value.toJson ≠ .null := by
  cases value <;> exact nofun

theorem keys_presentEntry (name : String) (value : Option Json) :
    (keys (presentEntry name value)).Sublist [name] := by
  cases value with
  | none => exact List.nil_sublist _
  | some _ => exact .refl _

theorem StoreProperty.readJson_toJson {p : StoreProperty} {levels : Nat} {cursor : Cursor}
    (holds : Holds levels p.toJson cursor) : StoreProperty.readJson cursor = .ok p.saved := by
  have entries : ∀ value comment : Option Json,
      (presentEntry "value" value ++ presentEntry "comment" comment).lookup "value" = value ∧
        (presentEntry "value" value ++ presentEntry "comment" comment).lookup "comment" =
          comment := by
    intro value comment
    cases value <;> cases comment <;> exact ⟨rfl, rfl⟩
  obtain ⟨valueEntry, commentEntry⟩ := entries (p.value.map Value.toJson) (p.comment.map .string)
  have inOrder : ∀ value comment : Option Json,
      (keys (presentEntry "value" value ++ presentEntry "comment" comment)).Sublist
        ["value", "comment"] := by
    intro value comment
    rw [keys, List.map_append]
    exact (keys_presentEntry _ _).append (keys_presentEntry _ _)
  refine Faithful.record holds (show ["value", "comment"].Nodup by decide) (inOrder _ _)
    fun below _ => ?_
  have valueIsRead : ∀ (value : Value) (item : Cursor), Holds below value.toJson item →
      Source.whole Value.ofJson item = .ok value := by
    rintro value item ⟨isHeld, fits⟩
    exact isHeld.whole fits (Value.ofJson_eq_ok.mpr value.ofJson?_toJson)
  exact ((Record.Gives.present valueEntry Value.toJson_ne_null valueIsRead).map _).seq
    (.text commentEntry)

theorem StoreCategory.readJson_toJson {c : StoreCategory} (distinct : (keys c.properties).Nodup)
    {levels : Nat} {cursor : Cursor} (holds : Holds levels c.toJson cursor) :
    StoreCategory.readJson cursor = .ok c.saved := by
  let properties := Json.object (c.properties.map fun entry => (entry.1, entry.2.toJson))
  have entries : ∀ comment : Option Json,
      (presentEntry "comment" comment ++ [("properties", properties)]).lookup "comment" = comment ∧
        (presentEntry "comment" comment ++ [("properties", properties)]).lookup "properties" =
          some properties := by
    intro comment
    cases comment <;> exact ⟨rfl, rfl⟩
  obtain ⟨commentEntry, propertiesEntry⟩ := entries (c.comment.map .string)
  have inOrder : ∀ comment : Option Json,
      (keys (presentEntry "comment" comment ++ [("properties", properties)])).Sublist
        ["comment", "properties"] := by
    intro comment
    rw [keys, List.map_append]
    exact (keys_presentEntry _ _).append (.refl _)
  have keptOrder : Dictionary.ofList (mapValues StoreProperty.saved c.properties) =
      mapValues StoreProperty.saved c.properties := by
    apply Dictionary.ofList_of_nodup
    rw [Dictionary.keys_mapValues]
    exact distinct
  rw [StoreCategory.saved, ← keptOrder]
  refine Faithful.record holds (show ["comment", "properties"].Nodup by decide) (inOrder _)
    fun below _ => ?_
  have propertiesAreRead : ∀ item : Cursor, Holds below properties item →
      Cursor.dictionary StoreProperty.readJson item =
        .ok (mapValues StoreProperty.saved c.properties) := by
    intro item itemHolds
    exact Cursor.dictionary_map itemHolds fun _ _ entry _ inner => StoreProperty.readJson_toJson
  exact ((Record.Gives.text commentEntry).map _).seq (.optional propertiesEntry propertiesAreRead)

theorem fitsIn_presentEntry {levels : Nat} {name : String} {value : Option Json}
    (fits : ∀ json ∈ value, json.FitsIn levels) :
    ∀ member ∈ presentEntry name value, member.2.FitsIn levels := by
  cases value with
  | none => exact List.forall_mem_nil _
  | some json => exact List.forall_mem_singleton.mpr (fits json rfl)

theorem fitsIn_comment {levels : Nat} {comment : Option String} :
    ∀ json ∈ comment.map Json.string, json.FitsIn levels := by
  intro json isComment
  obtain ⟨text, -, rfl⟩ := Option.map_eq_some_iff.mp isComment
  exact .string text

theorem StoreProperty.fitsIn_toJson {p : StoreProperty} (writable : p.IsWritable) :
    p.toJson.FitsIn (storedLevels + 1) := by
  refine .object (List.forall_mem_append.mpr ⟨?_, fitsIn_presentEntry fitsIn_comment⟩)
  refine fitsIn_presentEntry fun json isValue => ?_
  obtain ⟨value, isStored, rfl⟩ := Option.map_eq_some_iff.mp isValue
  exact writable value isStored

theorem StoreCategory.fitsIn_toJson {c : StoreCategory} (writable : c.IsWritable) :
    c.toJson.FitsIn (storedLevels + 3) := by
  refine .object (List.forall_mem_append.mpr ⟨fitsIn_presentEntry fitsIn_comment, ?_⟩)
  refine List.forall_mem_singleton.mpr (.object (List.forall_mem_map.mpr fun entry member => ?_))
  exact StoreProperty.fitsIn_toJson (writable.properties entry member)

theorem Store.fitsIn_toJson {s : Store} (writable : s.IsWritable) : s.toJson.FitsIn levelLimit := by
  change s.toJson.FitsIn (storedLevels + 3 + 1)
  refine .object (List.forall_mem_map.mpr fun entry member => ?_)
  exact StoreCategory.fitsIn_toJson (writable.categories entry member)

/-- What is written of a store is read back if its doubles are. -/
theorem Store.readCategories_text {s : Store} (writable : s.IsWritable)
    (readBack : ∀ double ∈ s.doubles, double.isFinite → double.ReadsBack) :
    readCategories s.text = .ok s.saved.categories := by
  refine map_eq_ok.mpr ⟨mapValues StoreCategory.saved s.categories, ?_, ?_⟩
  · have fits := Store.fitsIn_toJson writable
    have numbersReadBack : s.toJson.Each Number.ReadsBack :=
      fits.each.imp (Store.each_toJson (fun int _ => Number.readsBack_int32 int) readBack)
    refine readWholeText_pretty numbersReadBack fun cursor isHeld => ?_
    have holds : Holds levelLimit s.toJson cursor := ⟨isHeld, fits⟩
    refine Cursor.dictionary_map holds fun _ _ entry member inner => ?_
    exact StoreCategory.readJson_toJson (writable.categories entry member).distinct
  · apply Dictionary.ofList_of_nodup
    rw [Dictionary.keys_mapValues]
    exact writable.distinct

/-! ## Files -/

namespace Store

variable {s t : Store} {files after : Files} {path : String}

/-- A store that was saved: the directories are made, and the file is written in them. -/
theorem save_eq_ok (isAt : s.path = some path) :
    s.save files = (after, .ok ()) ↔
      ∃ between, files.makeDirectories ((above? path).getD "") = (between, .ok ()) ∧
        between.writeText path s.text = .ok after := by
  simp only [save, isAt]
  split
  next => simp_all
  next between made =>
    simp only [made, Prod.mk.injEq, and_true, exists_eq_left']
    split <;> simp_all

/-- What was saved is loaded, as far as a file keeps it. -/
theorem load_of_save (isAt : s.path = some path) (writable : s.IsWritable)
    (readBack : ∀ double ∈ s.doubles, double.isFinite → double.ReadsBack)
    (saved : s.save files = (after, .ok ())) : (atPath path).load after = .ok s.saved := by
  obtain ⟨between, -, written⟩ := (save_eq_ok isAt).mp saved
  obtain ⟨isThere, isText⟩ := Files.readText_of_writeText written
  have sameStore : s.saved = { atPath path with categories := s.saved.categories } := by
    rw [atPath, ← isAt]
    rfl
  rw [sameStore]
  simp only [load, atPath, isThere, isText, readCategories_text writable readBack]
  rfl

/-- Saving the same text again changes no file. -/
theorem save_again (isAt : s.path = some path) (saved : s.save files = (after, .ok ()))
    (sameFile : t.path = some path) (sameText : t.text = s.text) :
    t.save after = (after, .ok ()) := by
  obtain ⟨between, made, written⟩ := (save_eq_ok isAt).mp saved
  refine (save_eq_ok sameFile).mpr ⟨after, ?_, ?_⟩
  · by_cases isHere : (above? path).getD "" = ""
    · rw [isHere]
      rfl
    · have isDirectory := Files.isDirectory_of_makeDirectories isHere made
      exact Files.makeDirectories_of_isDirectory
        ((Files.grew_of_write written).isDirectory isDirectory)
  · rw [sameText]
    exact Files.write_again written

end Store

end ConfigBinding
