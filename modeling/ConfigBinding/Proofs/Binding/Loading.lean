import ConfigBinding.Proofs.Binding.Reopening

/-!
# What a load leaves of a store

A store that is loaded forgets what happened to it before and ends with what its file holds. The one
exception is a file that is missing: it counts as read, but the store keeps whatever it has, where a
store that was just opened has nothing.

* `Store.CameAbout`: what can become of a store that is opened at a path, which stays its path;
* `Files.storedCategories`: what the file at a path holds, nothing if it is missing;
* `Store.LoadsFrom`: loading ends with what a file holds, or changes nothing;
* `Store.loadsFrom_iff`: so it is unless the file is missing and the store has categories;
* `load_forgets_all_but_missing_files`: two stores at the same path, whatever happened to them.
-/

namespace ConfigBinding

abbrev Categories := List (String × StoreCategory)

/-! ## The past of a store -/

/-- Loads a store; one that cannot be loaded stays as it is. -/
def Store.tryLoad (s : Store) (files : Files) : Store × Except StoreError Unit :=
  match s.load files with
  | .ok loaded => (loaded, .ok ())
  | .error error => (s, .error error)

/-- What one operation makes of a store. -/
inductive Store.Becomes (s : Store) : Store → Prop where
  | set (category key : String) (value : Value) : s.Becomes (s.set category key value)
  | property (category key : String) (change : StoreProperty → StoreProperty) :
      s.Becomes (s.updateProperty category key change)
  | category (name : String) (change : StoreCategory → StoreCategory) :
      s.Becomes (s.updateCategory name change)
  /-- A sync leaves what it added even where it fails. -/
  | sync (loader : StoreLoader) (files : Files) : s.Becomes (loader.sync s files).1.state
  | load (files : Files) : s.Becomes (s.tryLoad files).1
  /-- Only files change when a store is saved. -/
  | save : s.Becomes s

/-- Whether a store was opened at a path, and what has become of it since. -/
inductive Store.CameAbout (path : String) : Store → Prop where
  | opened : CameAbout path (.atPath path)
  | step {s t : Store} (before : CameAbout path s) (operation : s.Becomes t) : CameAbout path t

namespace StoreLoader

/-- Steps change categories, also up to one that fails. -/
theorem path_bind (loader : StoreLoader) (s : Store) : (loader.bind s).state.path = s.path := by
  unfold StoreLoader.bind
  induction loader.steps generalizing s with
  | nil => rfl
  | cons step rest inductionHypothesis =>
    have first : (step.run s).state.path = s.path := by
      cases step with
      | field bound =>
        rw [StoreStep.run, StoreField.bind, assign_state]
        rfl
      | category decoration => rfl
    rw [Run.forEach]
    cases outcome : (step.run s).failure with
    | some error => rw [Run.andThen_of_failure outcome, first]
    | none =>
      rw [Run.andThen_of_success outcome]
      exact (inductionHypothesis _).trans first

theorem state_sync (loader : StoreLoader) (s : Store) (files : Files) :
    (loader.sync s files).1.state = (loader.bind s).state := by
  unfold StoreLoader.sync
  dsimp only
  split
  next => rfl
  next => split <;> rfl

end StoreLoader

/-! ## What a file holds -/

/-- The categories that the file at a path holds, none if it is missing. -/
def Files.storedCategories (files : Files) (path : String) : Except StoreError Categories := do
  if !files.exists? path then return []
  let text ← (files.readText path).mapError (.file path)
  (Store.readCategories text).mapError (.malformed path text)

theorem Files.storedCategories_of_missing {files : Files} {path : String}
    (missing : files.exists? path = false) : files.storedCategories path = .ok [] := by
  simp only [storedCategories, missing, Bool.not_false, ↓reduceIte]
  rfl

namespace Store

variable {s t : Store} {path : String} {files : Files}

/-- A file that is there decides what a store ends with, and nothing of the store does. -/
theorem load_of_exists (isAt : s.path = some path) (isThere : files.exists? path = true) :
    s.load files = (files.storedCategories path).map fun categories => { s with categories } := by
  simp only [load, isAt, Files.storedCategories, isThere, Bool.not_true, Bool.false_eq_true,
    ↓reduceIte]
  cases files.readText path with
  | error fault => rfl
  | ok text =>
    dsimp only [Except.mapError, Bind.bind, Except.bind]
    cases readCategories text <;> rfl

theorem load_of_missing (isAt : s.path = some path) (missing : files.exists? path = false) :
    s.load files = .ok s := by
  simp only [load, isAt, missing, Bool.not_false, ↓reduceIte]

/-! ## One operation, and all of them -/

theorem path_load {loaded : Store} (isLoaded : s.load files = .ok loaded) :
    loaded.path = s.path := by
  cases isAt : s.path with
  | none =>
    simp only [load, isAt] at isLoaded
    cases isLoaded
    exact isAt
  | some path =>
    cases isThere : files.exists? path with
    | false =>
      rw [load_of_missing isAt isThere] at isLoaded
      cases isLoaded
      exact isAt
    | true =>
      rw [load_of_exists isAt isThere] at isLoaded
      obtain ⟨categories, -, rfl⟩ := map_eq_ok.mp isLoaded
      exact isAt

theorem Becomes.path_eq (operation : s.Becomes t) : t.path = s.path := by
  cases operation with
  | set | property | category | save => rfl
  | sync loader files => rw [loader.state_sync, loader.path_bind]
  | load files =>
    rw [tryLoad]
    split
    next isLoaded => exact path_load isLoaded
    next => rfl

/-- Whatever becomes of a store, it keeps the path that it was opened at. -/
theorem CameAbout.path_eq (past : CameAbout path s) : s.path = some path := by
  induction past with
  | opened => rfl
  | step before operation inductionHypothesis => rw [operation.path_eq, inductionHypothesis]

/-! ## Loads -/

theorem tryLoad_of_exists (isAt : s.path = some path) (isThere : files.exists? path = true) :
    s.tryLoad files =
      match files.storedCategories path with
      | .ok categories => ({ s with categories }, .ok ())
      | .error error => (s, .error error) := by
  rw [tryLoad, load_of_exists isAt isThere]
  cases files.storedCategories path <;> rfl

theorem tryLoad_of_missing (isAt : s.path = some path) (missing : files.exists? path = false) :
    s.tryLoad files = (s, .ok ()) := by
  rw [tryLoad, load_of_missing isAt missing]

/-- Whether a store can be loaded is a matter of the file, and so is the error where it cannot. -/
theorem result_tryLoad (isAt : s.path = some path) (files : Files) :
    (s.tryLoad files).2 = (files.storedCategories path).map fun _ => () := by
  cases isThere : files.exists? path with
  | false =>
    rw [tryLoad_of_missing isAt isThere, Files.storedCategories_of_missing isThere]
    rfl
  | true =>
    rw [tryLoad_of_exists isAt isThere]
    cases files.storedCategories path <;> rfl

/-- Whether loading ends with what the file at a path holds, and leaves all categories as they are
    where this cannot be had. -/
structure LoadsFrom (s : Store) (files : Files) (path : String) : Prop where
  taken : (s.tryLoad files).2 = .ok () →
    files.storedCategories path = .ok (s.tryLoad files).1.categories
  kept : ∀ error, (s.tryLoad files).2 = .error error →
    (s.tryLoad files).1.categories = s.categories

theorem loadsFrom_of_exists (isAt : s.path = some path) (isThere : files.exists? path = true) :
    s.LoadsFrom files path := by
  have outcome := tryLoad_of_exists isAt isThere
  cases stored : files.storedCategories path with
  | ok categories =>
    rw [stored] at outcome
    refine ⟨fun _ => ?_, fun error failed => ?_⟩
    · rw [outcome, stored]
    · rw [outcome] at failed
      cases failed
  | error fault =>
    rw [stored] at outcome
    refine ⟨fun succeeded => ?_, fun _ _ => ?_⟩
    · rw [outcome] at succeeded
      cases succeeded
    · rw [outcome]

/-- A missing file is taken for an empty one only by a store that is empty. -/
theorem loadsFrom_iff (isAt : s.path = some path) :
    s.LoadsFrom files path ↔ files.exists? path = true ∨ s.categories = [] := by
  cases isThere : files.exists? path with
  | true => exact iff_of_true (loadsFrom_of_exists isAt isThere) (.inl rfl)
  | false =>
    -- The store stays as it is, which is what an empty file would leave of an empty store.
    have outcome := tryLoad_of_missing isAt isThere
    have stored := Files.storedCategories_of_missing isThere
    constructor
    · intro loads
      have taken := loads.taken (congrArg Prod.snd outcome)
      rw [stored, outcome] at taken
      exact .inr (Except.ok.inj taken).symm
    · intro orEmpty
      have isEmpty : s.categories = [] := orEmpty.resolve_left Bool.false_ne_true
      refine ⟨fun _ => ?_, fun _ _ => congrArg (·.1.categories) outcome⟩
      rw [stored, outcome, isEmpty]

/-- A store that was just opened has no past to forget. -/
theorem loadsFrom_atPath (files : Files) (path : String) : (atPath path).LoadsFrom files path :=
  (loadsFrom_iff rfl).mpr (.inr rfl)

end Store

open Store (CameAbout)

/-- Two stores at the same path, whatever happened to them before, are loaded alike: either both or
    neither can be loaded, with the same error. Each ends with what the file holds, or stays as it
    is on an error, exactly if the file is there or neither store has categories. From a missing
    file, loading succeeds and leaves both stores as they are. -/
theorem load_forgets_all_but_missing_files {path : String} {first second : Store}
    (firstPast : CameAbout path first) (secondPast : CameAbout path second) (files : Files) :
    (first.tryLoad files).2 = (files.storedCategories path).map (fun _ => ()) ∧
      (second.tryLoad files).2 = (files.storedCategories path).map (fun _ => ()) ∧
      (first.LoadsFrom files path ∧ second.LoadsFrom files path ↔
        files.exists? path = true ∨ first.categories = [] ∧ second.categories = []) ∧
      (files.exists? path = false →
        first.tryLoad files = (first, .ok ()) ∧ second.tryLoad files = (second, .ok ())) := by
  have firstAt := firstPast.path_eq
  have secondAt := secondPast.path_eq
  refine ⟨Store.result_tryLoad firstAt files, Store.result_tryLoad secondAt files, ?_, ?_⟩
  · rw [Store.loadsFrom_iff firstAt, Store.loadsFrom_iff secondAt]
    exact or_and_left.symm
  · intro missing
    exact ⟨Store.tryLoad_of_missing firstAt missing, Store.tryLoad_of_missing secondAt missing⟩

/-! ## A store to look at -/

def pitStore : Store := (Store.atPath "lap").set "pit" "stops" (.int 2)

theorem pitStore_cameAbout : CameAbout "lap" pitStore := .step .opened (.set _ _ _)

theorem lapFiles_exists : lapFiles.exists? "lap" = true := by
  rw [Files.exists?, lapFiles_node]
  rfl

theorem empty_lacks_lap : Files.empty.exists? "lap" = false := by
  rw [Files.exists?, Files.node, lap_route]
  rfl

theorem pitStore_load : (pitStore.tryLoad lapFiles).1.categories = lapStore.categories := by
  have opened := (Store.loadsFrom_atPath lapFiles "lap").taken
  rw [Store.tryLoad, lapFiles_load] at opened
  have stored := opened rfl
  rw [Store.tryLoad_of_exists pitStore_cameAbout.path_eq lapFiles_exists, stored]

/-- The value is gone once the file was loaded. -/
theorem pitStore_forgets :
    CameAbout "lap" pitStore ∧ pitStore.categories.map Prod.fst = ["pit"] ∧
      lapFiles.exists? "lap" = true ∧
      (pitStore.tryLoad lapFiles).1.categories = lapStore.categories ∧
      lapStore.categories.map Prod.fst = ["lap", ""] ∧
      pitStore.LoadsFrom lapFiles "lap" ∧ (Store.atPath "lap").LoadsFrom lapFiles "lap" := by
  obtain ⟨-, -, loads, -⟩ :=
    load_forgets_all_but_missing_files pitStore_cameAbout .opened lapFiles
  exact ⟨pitStore_cameAbout, rfl, lapFiles_exists, pitStore_load, by decide +kernel,
    loads.mpr (.inl lapFiles_exists)⟩

/-- Without a file the value stays, though loading succeeds and nothing is stored: another store at
    this path would be empty. -/
theorem pitStore_remembers :
    CameAbout "lap" pitStore ∧ (pitStore.tryLoad .empty).2 = .ok () ∧
      Files.empty.storedCategories "lap" = .ok [] ∧
      (pitStore.tryLoad .empty).1.categories.map Prod.fst = ["pit"] ∧
      ((Store.atPath "lap").tryLoad .empty).1.categories = [] ∧
      ¬ pitStore.LoadsFrom .empty "lap" := by
  have stays := Store.tryLoad_of_missing pitStore_cameAbout.path_eq empty_lacks_lap
  have opened := Store.tryLoad_of_missing (s := Store.atPath "lap") rfl empty_lacks_lap
  refine ⟨pitStore_cameAbout, ?_, Files.storedCategories_of_missing empty_lacks_lap, ?_, ?_, ?_⟩
  · rw [stays]
  · rw [stays]
    rfl
  · rw [opened]
    rfl
  · rw [Store.loadsFrom_iff pitStore_cameAbout.path_eq, empty_lacks_lap]
    exact not_or.mpr ⟨Bool.false_ne_true, List.cons_ne_nil _ _⟩

end ConfigBinding
