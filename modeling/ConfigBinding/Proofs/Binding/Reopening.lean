import ConfigBinding.Proofs.Binding.Steps
import ConfigBinding.Proofs.Files.Siblings
import ConfigBinding.Proofs.Results
import ConfigBinding.Proofs.Schema.FiniteDefaults
import ConfigBinding.Proofs.Store.Saved
import Mathlib

/-!
# Opening a store again

A store that was opened, synced and saved is opened again from its file. The file lacks everything
but values and comments, which is all that a second sync needs.

* `Store.saved_after_of_eq`: what a file keeps of a store after steps, from what it keeps of the one
  before;
* `Store.IsWritable.after`: steps keep a store writable when their defaults fit in a file;
* `StoreLoader.init_again`: a second run makes the same calls and changes no file;
* `init_again_changes_nothing`: so it is for the root of a document.
-/

namespace ConfigBinding

open Dictionary (mapValues keys)

/-! ## What is kept after steps -/

theorem StoreProperty.saved_eq_iff {p q : StoreProperty} :
    p.saved = q.saved ↔ p.value = q.value ∧ p.comment = q.comment := by
  simp [saved]

theorem StoreCategory.saved_eq_iff {c d : StoreCategory} :
    c.saved = d.saved ↔ c.comment = d.comment ∧
      mapValues StoreProperty.saved c.properties = mapValues StoreProperty.saved d.properties := by
  simp [saved]

theorem Store.saved_eq_iff {s t : Store} :
    s.saved = t.saved ↔ s.path = t.path ∧
      mapValues StoreCategory.saved s.categories = mapValues StoreCategory.saved t.categories := by
  simp [saved]

theorem StoreField.saved_decorate (field : StoreField) {p q : StoreProperty}
    (same : p.saved = q.saved) : (field.decorate p).saved = (field.decorate q).saved := by
  obtain ⟨value, comment⟩ := StoreProperty.saved_eq_iff.mp same
  simp only [StoreField.decorate, StoreProperty.withDefault, StoreProperty.saved, value, comment]

theorem StoreStep.saved_change (step : StoreStep) {c d : StoreCategory} (same : c.saved = d.saved) :
    (step.change c).saved = (step.change d).saved := by
  obtain ⟨comment, properties⟩ := StoreCategory.saved_eq_iff.mp same
  cases step with
  | field bound =>
    simp only [change, StoreCategory.saved, comment,
      Dictionary.mapValues_update_of_eq properties fun _ _ => bound.saved_decorate]
  | category decoration =>
    simp only [change, Decoration.decorate, StoreCategory.saved, comment, properties]

namespace Store

theorem saved_after_of_eq {s t : Store} (same : s.saved = t.saved) (steps : List StoreStep) :
    (s.after steps).saved = (t.after steps).saved := by
  induction steps generalizing s t with
  | nil => exact same
  | cons step rest inductionHypothesis =>
    obtain ⟨path, categories⟩ := saved_eq_iff.mp same
    rw [after_cons, after_cons]
    refine inductionHypothesis ?_
    simp only [updateCategory, saved, path,
      Dictionary.mapValues_update_of_eq categories fun _ _ => step.saved_change]

theorem saved_saved (s : Store) : s.saved.saved = s.saved := by
  have categories (c : StoreCategory) : c.saved.saved = c.saved := by
    refine StoreCategory.saved_eq_iff.mpr ⟨rfl, ?_⟩
    simp only [StoreCategory.saved, Dictionary.mapValues_mapValues]
    rfl
  refine saved_eq_iff.mpr ⟨rfl, ?_⟩
  simp only [saved, Dictionary.mapValues_mapValues, Function.comp_def, categories]

/-- Steps that were taken already leave what a file keeps as it is. -/
theorem text_after_saved (s : Store) (steps : List StoreStep) :
    ((s.after steps).saved.after steps).text = (s.after steps).text := by
  have same := saved_after_of_eq (saved_saved (s.after steps)) steps
  rw [after_after] at same
  rw [← text_saved, same, text_saved]

end Store

/-! ## Writable stores -/

theorem StoreField.isWritable_decorate {field : StoreField} {p : StoreProperty}
    (fits : field.default.toJson.FitsIn Value.storedLevels) (writable : p.IsWritable) :
    (field.decorate p).IsWritable := by
  rintro value isStored
  have stored : (p.value <|> some field.default) = some value := isStored
  cases found : p.value with
  | none =>
    rw [found] at stored
    cases stored
    exact fits
  | some old =>
    rw [found] at stored
    cases stored
    exact writable value found

theorem StoreStep.isWritable_change {step : StoreStep} {c : StoreCategory}
    (fits : ∀ field, step.field? = some field → field.default.toJson.FitsIn Value.storedLevels)
    (writable : c.IsWritable) : (step.change c).IsWritable := by
  cases step with
  | field bound =>
    refine ⟨Dictionary.nodup_keys_update writable.distinct, ?_⟩
    have ofNothing : StoreProperty.IsWritable {} := nofun
    exact Dictionary.forall_update writable.properties ofNothing fun p ofProperty =>
      StoreField.isWritable_decorate (fits bound rfl) ofProperty
  | category decoration => exact ⟨writable.distinct, writable.properties⟩

/-- Steps keep a store writable when the defaults of their fields fit in a file. -/
theorem Store.IsWritable.after {s : Store} (writable : s.IsWritable) {steps : List StoreStep}
    (fits : ∀ field ∈ boundFields steps, field.default.toJson.FitsIn Value.storedLevels) :
    (s.after steps).IsWritable := by
  induction steps generalizing s with
  | nil => exact writable
  | cons step rest inductionHypothesis =>
    have stepFits : ∀ field, step.field? = some field →
        field.default.toJson.FitsIn Value.storedLevels := fun field isField =>
      fits field (List.mem_filterMap.mpr ⟨step, List.mem_cons_self, isField⟩)
    rw [Store.after_cons]
    refine inductionHypothesis ⟨Dictionary.nodup_keys_update writable.distinct, ?_⟩ ?_
    · have ofNothing : StoreCategory.IsWritable {} := ⟨.nil, List.forall_mem_nil _⟩
      exact Dictionary.forall_update writable.categories ofNothing fun c ofCategory =>
        StoreStep.isWritable_change stepFits ofCategory
    · intro field member
      obtain ⟨later, isLater, isField⟩ := List.mem_filterMap.mp member
      exact fits field (List.mem_filterMap.mpr ⟨later, List.mem_cons_of_mem _ isLater, isField⟩)

/-- Whatever a file holds, the store that is opened with it is writable. -/
theorem Store.isWritable_of_load {path : String} {files : Files} {loaded : Store}
    (isLoaded : (Store.atPath path).load files = .ok loaded) :
    loaded.path = some path ∧ loaded.IsWritable := by
  simp only [load, atPath] at isLoaded
  split at isLoaded
  next =>
    cases isLoaded
    exact ⟨rfl, .nil, List.forall_mem_nil _⟩
  next =>
    split at isLoaded
    next => cases isLoaded
    next =>
      split at isLoaded
      next => cases isLoaded
      next isRead =>
        cases isLoaded
        exact ⟨rfl, Store.isWritable_of_readCategories isRead _⟩

/-! ## Runs -/

namespace StoreLoader

variable {loader : StoreLoader} {s : Store} {files after : Files} {path : String}

/-- A sync succeeds when everything can be bound and the store can be saved. -/
theorem sync_eq_of_save (bound : (loader.bind s).failure = none)
    (saved : (s.after loader.steps).save files = (after, .ok ())) :
    loader.sync s files =
      ({ loader.bind s with calls := (loader.bind s).calls ++ loader.hookCalls }, after) := by
  simp only [sync, bound, bind_state bound, saved]

theorem save_of_sync (succeeded : (loader.sync s files).1.failure = none) :
    ∃ after, (s.after loader.steps).save files = (after, .ok ()) := by
  have bound := bind_of_sync succeeded
  simp only [sync, bound, bind_state bound] at succeeded
  split at succeeded
  next after saved => exact ⟨after, saved⟩
  next => cases succeeded

/-- A run that succeeds can be made again: it makes the same calls and leaves all files as they are,
    if the doubles that it saves read back. -/
theorem init_again
    (fits : ∀ field ∈ loader.fields, field.default.toJson.FitsIn Value.storedLevels)
    (succeeded : (loader.init path files).1.failure = none)
    (readBack : ∀ double ∈ (loader.init path files).1.state.doubles,
      double.isFinite → double.ReadsBack) :
    (loader.init path (loader.init path files).2).1.failure = none ∧
      (loader.init path (loader.init path files).2).1.calls = (loader.init path files).1.calls ∧
      (loader.init path (loader.init path files).2).2 = (loader.init path files).2 ∧
      ∃ text, (loader.init path files).2.readText path = .ok text := by
  have opened : ∃ loaded, (Store.atPath path).load files = .ok loaded := by
    cases isLoaded : (Store.atPath path).load files with
    | ok loaded => exact ⟨loaded, rfl⟩
    | error error => simp [init, isLoaded, Run.fail] at succeeded
  obtain ⟨loaded, isLoaded⟩ := opened
  have first : loader.init path files = loader.sync loaded files := by
    simp only [init, isLoaded]
  obtain ⟨isAt, writable⟩ := Store.isWritable_of_load isLoaded
  rw [first] at succeeded readBack
  have bound := bind_of_sync succeeded
  obtain ⟨after, saved⟩ := save_of_sync succeeded
  rw [sync_eq_of_save bound saved, bind_state bound] at readBack
  have leftAt : (loaded.after loader.steps).path = some path := isAt
  have againAt : ((loaded.after loader.steps).saved.after loader.steps).path = some path := isAt
  have reopened : (Store.atPath path).load after = .ok (loaded.after loader.steps).saved :=
    Store.load_of_save leftAt (writable.after fits) readBack saved
  have second : loader.init path after = loader.sync (loaded.after loader.steps).saved after := by
    simp only [init, reopened]
  have holds : ∀ category key value,
      (loaded.after loader.steps).value? category key = some value →
        (loaded.after loader.steps).saved.value? category key = some value := by
    intro category key value stored
    rw [Store.value?_saved, stored]
  -- A run depends on the values that it left, and a file keeps all values.
  obtain ⟨sameCalls, boundAgain⟩ := StoreStep.forEach_alike bound holds
  have savedAgain := Store.save_again leftAt saved againAt
    (Store.text_after_saved loaded loader.steps)
  obtain ⟨between, -, written⟩ := (Store.save_eq_ok leftAt).mp saved
  rw [first, sync_eq_of_save bound saved, second, sync_eq_of_save boundAgain savedAgain]
  exact ⟨boundAgain, congrArg (· ++ loader.hookCalls) sameCalls, rfl, _,
    (Files.readText_of_writeText written).2⟩

end StoreLoader

/-! ## Roots of documents -/

/-- Binding a root of a document to the same file again changes nothing: the run succeeds again,
    makes the same calls, and leaves all files and so the text of this one as they are. It is
    assumed that the text of each double that the first run saves, if finite, reads back. -/
theorem init_again_changes_nothing {schema text path : String} {document : Document}
    (isRead : Document.ofText schema text = .ok document) {root : ClassDecl}
    (isRoot : root.unbound ∈ document.roots.map ClassDecl.unbound) {l : Layout}
    (surveyed : root.survey.1 = some l) {files : Files}
    (succeeded : ((StoreLoader.ofLayout l).init path files).1.failure = none)
    (readBack : ∀ double ∈ ((StoreLoader.ofLayout l).init path files).1.state.doubles,
      double.isFinite → double.ReadsBack) :
    let first := (StoreLoader.ofLayout l).init path files
    let second := (StoreLoader.ofLayout l).init path first.2
    second.1.failure = none ∧ second.1.calls = first.1.calls ∧ second.2 = first.2 ∧
      ∃ stored, first.2.readText path = .ok stored := by
  have fits : ∀ field ∈ (StoreLoader.ofLayout l).fields,
      field.default.toJson.FitsIn Value.storedLevels := fun field member =>
    (Document.fitsIn_default isRead isRoot surveyed field member).mono (by decide)
  exact StoreLoader.init_again fits succeeded readBack

/-! ## A root to look at -/

/-- A document with records in list form. Its root holds the category `Lap`, and this the double
    `min`. -/
def raceText : String :=
  "[[[\"Race\",null,\"class\",[],null,[[\"config\"]],[[\"class\",\"Lap\",null,\"class\"," ++
    "[true,true],null,[],[[\"field\",\"min\",[true,true],null,[],[\"primitive\",\"double\"]]]]]]]]"

def raceDocument : Document := (Document.ofText "race.json" raceText).toOption.getD ⟨[]⟩

/-- Its root in a host that takes doubles. -/
def raceRoot : ClassDecl :=
  (raceDocument.roots.headD (.named "Race")).hosted
    (fun f => some (.slot f.name (.scalar .double))) fun _ => true

def raceLayout : Layout := raceRoot.survey.1.get (by decide +kernel)

theorem raceRoot_survey : raceRoot.survey.1 = some raceLayout := (Option.some_get _).symm

theorem raceDocument_roots : raceDocument.roots ≠ [] :=
  List.isEmpty_eq_false_iff.mp (by decide +kernel)

theorem raceDocument_isRead : Document.ofText "race.json" raceText = .ok raceDocument :=
  eq_ok_of_getD_ne fun same => raceDocument_roots (congrArg Document.roots same)

theorem raceRoot_isRoot : raceRoot.unbound ∈ raceDocument.roots.map ClassDecl.unbound := by
  rw [raceRoot, ClassDecl.unbound_hosted]
  cases roots : raceDocument.roots with
  | nil => exact absurd roots raceDocument_roots
  | cons first rest => exact List.mem_cons_self

/-- A file with an int in place of the double, a setting of nobody that is beyond all ints, and a
    category without anything. -/
def lapText : String := "\x7b\"lap\":[null,\x7b\"min\":[1],\"old\":[3e9]\x7d],\"\":[]\x7d"

def lapFiles : Files := ⟨.directory [("lap", .file (.text lapText))], []⟩

def lapStore : Store :=
  { Store.atPath "lap" with categories := (Store.readCategories lapText).toOption.getD [] }

theorem lap_route : Route.ofPath "lap" = .ok ⟨false, ["lap"], false⟩ :=
  Route.ofPath_relative (by decide +kernel)

theorem lapFiles_node : lapFiles.node "lap" = .ok (.file (.text lapText)) := by
  rw [Files.node, lap_route]
  rfl

theorem lapText_isRead : ∃ categories, Store.readCategories lapText = .ok categories ∧
    lapStore = { Store.atPath "lap" with categories } := by
  cases result : Store.readCategories lapText with
  | ok categories =>
    refine ⟨categories, rfl, ?_⟩
    rw [lapStore, result]
    rfl
  | error fault =>
    have someCategory : lapStore.categories ≠ [] := List.isEmpty_eq_false_iff.mp (by decide +kernel)
    refine absurd ?_ someCategory
    rw [lapStore, result]
    rfl

theorem lapFiles_load : (Store.atPath "lap").load lapFiles = .ok lapStore := by
  obtain ⟨categories, isRead, isStore⟩ := lapText_isRead
  simp only [Store.load, Store.atPath, Files.exists?, Files.readText, lapFiles_node, isRead,
    isStore]
  rfl

theorem lapStore_bind :
    let bound := (StoreLoader.ofLayout raceLayout).bind lapStore
    bound.failure.isNone ∧
      bound.writes.map (fun write => (write.1.place, write.2.conforms .double)) =
        [("min", true)] := by
  decide +kernel

theorem lapFiles_save {s : Store} (isAt : s.path = some "lap") :
    s.save lapFiles = (lapFiles.put ["lap"] (.file (.text s.text)), .ok ()) := by
  have above : above? "lap" = some "" := by cbv
  have made : lapFiles.makeDirectories ((above? "lap").getD "") = (lapFiles, .ok ()) := by
    rw [above]
    rfl
  refine (Store.save_eq_ok isAt).mpr ⟨lapFiles, made, ?_⟩
  rw [Files.writeText, Files.write, lap_route]
  rfl

/-- The doubles in this file are found in their text again. -/
theorem lapStore_readBack :
    (lapStore.after (StoreLoader.ofLayout raceLayout).steps).doubles.length = 1 ∧
      ∀ double ∈ (lapStore.after (StoreLoader.ofLayout raceLayout).steps).doubles,
        double.isFinite → double.ReadsBack := by
  decide +kernel

theorem lapFiles_init :
    let first := (StoreLoader.ofLayout raceLayout).init "lap" lapFiles
    first.1.failure = none ∧
      first.1.writes.map (fun write => (write.1.place, write.2.conforms .double)) =
        [("min", true)] ∧
      first.1.state = lapStore.after (StoreLoader.ofLayout raceLayout).steps := by
  obtain ⟨succeeded, writes⟩ := lapStore_bind
  have bound := Option.isNone_iff_eq_none.mp succeeded
  have isAt : (lapStore.after (StoreLoader.ofLayout raceLayout).steps).path = some "lap" := rfl
  have opened : (StoreLoader.ofLayout raceLayout).init "lap" lapFiles =
      (StoreLoader.ofLayout raceLayout).sync lapStore lapFiles := by
    simp only [StoreLoader.init, lapFiles_load]
  dsimp only
  rw [opened]
  refine ⟨?_, ?_, ?_⟩
  · simp only [StoreLoader.sync_eq_of_save bound (lapFiles_save isAt), bound]
  · rw [StoreLoader.sync_writes]
    exact writes
  · simp only [StoreLoader.sync_eq_of_save bound (lapFiles_save isAt), StoreLoader.bind_state bound]

/-- The int in the file is bound as a double, and so it is in the second run. -/
theorem raceRoot_init_again_changes_nothing :
    let first := (StoreLoader.ofLayout raceLayout).init "lap" lapFiles
    let second := (StoreLoader.ofLayout raceLayout).init "lap" first.2
    first.1.writes.map (fun write => (write.1.place, write.2.conforms .double)) =
        [("min", true)] ∧
      first.1.state.doubles.length = 1 ∧
      second.1.failure = none ∧ second.1.calls = first.1.calls ∧ second.2 = first.2 ∧
      ∃ stored, first.2.readText "lap" = .ok stored := by
  obtain ⟨succeeded, writes, state⟩ := lapFiles_init
  have saved : ((StoreLoader.ofLayout raceLayout).init "lap" lapFiles).1.state.doubles.length = 1 ∧
      ∀ double ∈ ((StoreLoader.ofLayout raceLayout).init "lap" lapFiles).1.state.doubles,
        double.isFinite → double.ReadsBack := by
    rw [state]
    exact lapStore_readBack
  exact ⟨writes, saved.1, init_again_changes_nothing raceDocument_isRead raceRoot_isRoot
    raceRoot_survey succeeded saved.2⟩

end ConfigBinding
