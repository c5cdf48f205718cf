import ConfigBinding.Proofs.Json.Depth
import ConfigBinding.Proofs.Store.Saved
import Mathlib

/-!
# Stores that are saved and opened again

A store that does not nest too deep, with finite doubles that read back from their texts, is saved
at any path where a file can be written, and whoever opens this path finds the same categories and
properties with the same values and comments.

* `Store.HasDistinctNames`: no name is used twice, which all changes of a store keep;
* `Files.CanHold`: a file can be written at a path;
* `saved_store_reads_back`: what is saved is loaded.
-/

namespace ConfigBinding

open Dictionary (keys)

/-! ## Names -/

/-- Whether no two categories of a store have the same name, and no two properties of a category the
    same key. -/
structure Store.HasDistinctNames (s : Store) : Prop where
  categories : (keys s.categories).Nodup
  properties : ∀ entry ∈ s.categories, (keys entry.2.properties).Nodup

namespace Store

variable {s : Store}

theorem hasDistinctNames_atPath (path : String) : (atPath path).HasDistinctNames :=
  ⟨.nil, List.forall_mem_nil _⟩

theorem HasDistinctNames.updateCategory (distinct : s.HasDistinctNames) (name : String)
    {change : StoreCategory → StoreCategory}
    (keeps : ∀ c : StoreCategory, (keys c.properties).Nodup → (keys (change c).properties).Nodup) :
    (s.updateCategory name change).HasDistinctNames where
  categories := Dictionary.nodup_keys_update distinct.categories
  properties := Dictionary.forall_update (P := fun c : StoreCategory => (keys c.properties).Nodup)
    distinct.properties .nil keeps

theorem HasDistinctNames.updateProperty (distinct : s.HasDistinctNames) (category key : String)
    (change : StoreProperty → StoreProperty) :
    (s.updateProperty category key change).HasDistinctNames :=
  distinct.updateCategory category fun _ distinctKeys => Dictionary.nodup_keys_update distinctKeys

theorem HasDistinctNames.load (distinct : s.HasDistinctNames) {files : Files} {loaded : Store}
    (isLoaded : s.load files = .ok loaded) : loaded.HasDistinctNames := by
  unfold Store.load at isLoaded
  split at isLoaded
  next =>
    cases isLoaded
    exact distinct
  next =>
    split at isLoaded
    next =>
      cases isLoaded
      exact distinct
    next =>
      split at isLoaded
      next => cases isLoaded
      next =>
        split at isLoaded
        next => cases isLoaded
        next isRead =>
          cases isLoaded
          have writable := Store.isWritable_of_readCategories isRead none
          exact ⟨writable.distinct, fun entry member => (writable.categories entry member).distinct⟩

end Store

/-! ## Levels -/

theorem StoreProperty.depth_value {p : StoreProperty} {value : Value}
    (isValue : p.value = some value) : value.toJson.depth < p.toJson.depth := by
  have isEntry : ("value", value.toJson) ∈
      presentEntry "value" (p.value.map Value.toJson) ++
        presentEntry "comment" (p.comment.map .string) := by
    rw [isValue]
    exact List.mem_cons_self
  exact Json.depth_lt_of_member isEntry

theorem StoreCategory.depth_property {c : StoreCategory} {entry : String × StoreProperty}
    (isProperty : entry ∈ c.properties) : entry.2.toJson.depth + 1 < c.toJson.depth := by
  let properties := c.properties.map fun entry => (entry.1, entry.2.toJson)
  have isEntry : (entry.1, entry.2.toJson) ∈ properties := List.mem_map_of_mem isProperty
  have isLast : ("properties", Json.object properties) ∈
      presentEntry "comment" (c.comment.map .string) ++ [("properties", .object properties)] :=
    List.mem_append_right _ List.mem_cons_self
  exact Nat.lt_of_le_of_lt (Json.depth_lt_of_member isEntry) (Json.depth_lt_of_member isLast)

theorem Store.depth_category {s : Store} {entry : String × StoreCategory}
    (isCategory : entry ∈ s.categories) : entry.2.toJson.depth < s.toJson.depth := by
  have isEntry : (entry.1, entry.2.toJson) ∈
      s.categories.map fun entry => (entry.1, entry.2.toJson) := List.mem_map_of_mem isCategory
  exact Json.depth_lt_of_member isEntry

/-- How deep a store nests bounds how deep its values do. -/
theorem Store.isWritable_of_depth {s : Store} (distinct : s.HasDistinctNames)
    (finite : ∀ double ∈ s.doubles, double.isFinite) (shallow : s.toJson.depth ≤ levelLimit) :
    s.IsWritable := by
  refine ⟨distinct.categories, fun category isCategory => ?_⟩
  refine ⟨distinct.properties category isCategory, fun property isProperty value isValue => ?_⟩
  have fits : value.toJson.Each Number.Fits := by
    refine value.each_toJson Number.fits_int32 fun double isDouble => finite double ?_
    refine List.mem_flatMap.mpr ⟨category, isCategory, ?_⟩
    refine List.mem_flatMap.mpr ⟨property, isProperty, ?_⟩
    exact List.mem_flatMap.mpr ⟨value, Option.mem_toList.mpr isValue, isDouble⟩
  have inProperty := StoreProperty.depth_value isValue
  have inCategory := StoreCategory.depth_property isProperty
  have inStore := Store.depth_category isCategory
  refine fits.fitsIn ?_
  simp only [Value.storedLevels]
  omega

/-! ## Saving and loading -/

/-- Whether a file can be written at a path: the directories above it can be made, and then some
    text can be written in them. -/
def Files.CanHold (files : Files) (path : String) : Prop :=
  ∃ between, files.makeDirectories ((above? path).getD "") = (between, .ok ()) ∧
    ∃ text after, between.writeText path text = .ok after

/-- Where some text can be written, any text can. -/
theorem Files.exists_writeText {files after : Files} {path text : String}
    (written : files.writeText path text = .ok after) (other : String) :
    ∃ after, files.writeText path other = .ok after := by
  obtain ⟨route, above, name, isRoute, isEntry, noSlash, short, free, -⟩ := write_eq_ok.mp written
  exact ⟨_, write_eq_ok.mpr ⟨route, above, name, isRoute, isEntry, noSlash, short, free, rfl⟩⟩

theorem Store.save_of_canHold {s : Store} {files : Files} {path : String}
    (isAt : s.path = some path) (canHold : files.CanHold path) :
    ∃ after, s.save files = (after, .ok ()) := by
  obtain ⟨between, made, text, _, written⟩ := canHold
  obtain ⟨after, written⟩ := Files.exists_writeText written s.text
  exact ⟨after, (Store.save_eq_ok isAt).mpr ⟨between, made, written⟩⟩

/-- A store with finite doubles that does not nest too deep is saved wherever a file can be written,
    and a store that is opened at its path loads the same categories and properties in the same
    order, each with its value and comment and nothing else. It is assumed that the text of each of
    its doubles, if finite, reads back. -/
theorem saved_store_reads_back {s : Store} (distinct : s.HasDistinctNames)
    (finite : ∀ double ∈ s.doubles, double.isFinite)
    (readBack : ∀ double ∈ s.doubles, double.isFinite → double.ReadsBack)
    (shallow : s.toJson.depth ≤ levelLimit) {path : String} (isAt : s.path = some path)
    {files : Files} (canHold : files.CanHold path) :
    ∃ after, s.save files = (after, .ok ()) ∧
      (Store.atPath path).load after = .ok
        { path := some path
          categories := s.categories.map fun (name, c) =>
            (name,
              { comment := c.comment
                properties := c.properties.map fun (key, p) =>
                  (key, { value := p.value, comment := p.comment }) }) } := by
  obtain ⟨after, saved⟩ := Store.save_of_canHold isAt canHold
  have loaded := Store.load_of_save isAt (Store.isWritable_of_depth distinct finite shallow)
    readBack saved
  rw [Store.saved, isAt] at loaded
  exact ⟨after, saved, loaded⟩

/-! ## A store to look at -/

/-- A value with all shapes inside each other; the int and the double are equal as numbers. -/
def worldSize : Value :=
  .collection "Sizes" .arrayConstructor
    [.array [.int 5, .double (.ofInt 5), .string "5\n"], .collection "None" .append [],
      .boolean true]

/-- A store with this value, a property without a value, and a bound that no file can keep. -/
def worldStore : Store :=
  { path := some "w"
    categories :=
      [("world",
          { comment := some "The \"world\""
            mc := true
            properties :=
              [("size",
                  { value := some worldSize
                    default := some (.int 1)
                    min := some (.double .nan) }),
                ("name", { comment := some "" })] }),
        ("", {})] }

theorem worldStore_hasDistinctNames : worldStore.HasDistinctNames := ⟨by decide, by decide⟩

theorem world_route : Route.ofPath "w" = .ok ⟨false, ["w"], false⟩ := by
  have parts : ("w".splitOn "/").filter (fun part => part ≠ "") = ["w"] := by cbv
  have relative : isAbsolute "w" = false := by cbv
  have isFile : "w".endsWith "/" = false := by cbv
  simp only [Route.ofPath, parts, relative, isFile]
  rfl

theorem empty_canHold : Files.empty.CanHold "w" := by
  have above : above? "w" = some "" := by cbv
  refine ⟨.empty, ?_, "", Files.empty.put ["work", "w"] (.file (.text "")), ?_⟩
  · rw [above]
    rfl
  · rw [Files.writeText, Files.write, world_route]
    rfl

/-- The two equal numbers are still told apart, and the bound is gone. -/
theorem worldStore_reads_back :
    worldStore.HasDistinctNames ∧ worldStore.doubles = [.ofInt 5] ∧ worldStore.toJson.depth = 8 ∧
      Files.empty.CanHold "w" ∧
      ∃ after, worldStore.save .empty = (after, .ok ()) ∧
        (Store.atPath "w").load after = .ok
          { path := some "w"
            categories :=
              [("world",
                  { comment := some "The \"world\""
                    properties :=
                      [("size", { value := some worldSize }), ("name", { comment := some "" })] }),
                ("", {})] } :=
  ⟨worldStore_hasDistinctNames, rfl, rfl, empty_canHold,
    saved_store_reads_back worldStore_hasDistinctNames (by decide +kernel) (by decide +kernel)
      (by decide +kernel) rfl empty_canHold⟩

end ConfigBinding
