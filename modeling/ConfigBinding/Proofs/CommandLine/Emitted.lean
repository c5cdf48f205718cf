import ConfigBinding.Proofs.Binding.Emission
import ConfigBinding.Proofs.CommandLine.Output
import ConfigBinding.Proofs.Results
import Mathlib.Data.List.Nodup

/-!
# Commands that emit

A command that emits into a directory compiles all documents first and then writes the units of all
roots, which are told apart by the simple names of the roots only.

* `ClassDecl.bindings_apart_iff`, `nodup_fileNames_iff`: when files have different names;
* `CommandLine.compileAll_eq_none`: documents that are all compiled;
* `CommandLine.writes_of_emit`, `CommandLine.run_of_writes`: the steps of a command that comes to
  its end;
* `emitted_units_are_kept_iff`: which units are there in the end.
-/

namespace ConfigBinding

/-! ## Units of roots -/

/-- The kinds of bindings that are made when some are asked for. -/
def Backend.wanted (backends : List Backend) : List Backend :=
  all.filter fun backend => backends.contains backend

theorem ClassDecl.bindings_compile (backends : List Backend) (root : ClassDecl) :
    (root.compile backends).bindings =
      root.survey.1.toList.flatMap fun l => (Backend.wanted backends).map (·.bindingOf l) := rfl

theorem ClassDecl.layout_compile (backends : List Backend) (root : ClassDecl) :
    (root.compile backends).layout = root.survey.1 := rfl

theorem ClassDecl.mem_bindings {backends : List Backend} {root : ClassDecl} {unit : Binding} :
    unit ∈ (root.compile backends).bindings ↔
      ∃ l, root.survey.1 = some l ∧ ∃ b ∈ Backend.wanted backends, b.bindingOf l = unit := by
  simp only [bindings_compile, List.mem_flatMap, Option.mem_toList, List.mem_map]

theorem ClassDecl.bindings_apart (backends : List Backend) (root : ClassDecl) :
    (root.compile backends).bindings.Pairwise fun u v => u.fileName ≠ v.fileName := by
  rw [bindings_compile]
  cases root.survey.1 with
  | none => exact .nil
  | some l =>
    have wanted : (Backend.wanted backends).Nodup := List.Pairwise.filter _ (by decide)
    rw [Option.toList_some, List.flatMap_singleton, List.pairwise_map]
    refine wanted.imp fun different same => ?_
    obtain ⟨-, sameBackend⟩ := Binding.fileName_inj.mp same
    simp only [Backend.backend_bindingOf] at sameBackend
    exact different sameBackend

/-- The files of two roots have different names unless the names of the roots are one in snake
    case. -/
theorem ClassDecl.bindings_apart_iff {backends : List Backend}
    (nonempty : Backend.wanted backends ≠ []) (root other : ClassDecl) :
    (∀ u ∈ (root.compile backends).bindings, ∀ v ∈ (other.compile backends).bindings,
        u.fileName ≠ v.fileName) ↔
      ((!(root.compile backends).isFatal) = true → (!(other.compile backends).isFatal) = true →
        Text.snakeCase root.name ≠ Text.snakeCase other.name) := by
  have emitted (root : ClassDecl) :
      (!(root.compile backends).isFatal) = true ↔ ∃ l, root.survey.1 = some l := by
    rw [Bool.not_eq_true', Compiled.isFatal, ClassDecl.layout_compile, Option.isNone_eq_false_iff,
      Option.isSome_iff_exists]
  simp only [emitted, mem_bindings]
  constructor
  · rintro apart ⟨l, surveyed⟩ ⟨l', otherSurveyed⟩ sameName
    obtain ⟨b, isWanted⟩ := List.exists_mem_of_ne_nil _ nonempty
    refine apart _ ⟨l, surveyed, b, isWanted, rfl⟩ _ ⟨l', otherSurveyed, b, isWanted, rfl⟩ ?_
    rw [Binding.fileName_inj]
    simpa [root_of_survey surveyed, root_of_survey otherSurveyed] using sameName
  · rintro different _ ⟨l, surveyed, b, -, rfl⟩ _ ⟨l', otherSurveyed, c, -, rfl⟩ sameName
    refine different ⟨l, surveyed⟩ ⟨l', otherSurveyed⟩ ?_
    rw [← root_of_survey surveyed, ← root_of_survey otherSurveyed]
    simpa using (Binding.fileName_inj.mp sameName).1

theorem nodup_fileNames_iff (backends : List Backend) (roots : List ClassDecl) :
    let units := roots.flatMap fun root => (root.compile backends).bindings
    let emitted := roots.filter fun root => !(root.compile backends).isFatal
    (units.map Binding.fileName).Nodup ↔
      units = [] ∨ (emitted.map fun root => Text.snakeCase root.name).Nodup := by
  intro units emitted
  by_cases nothing : Backend.wanted backends = []
  · have noUnits : units = [] := by
      simp [units, ClassDecl.bindings_compile, nothing]
    simp [noUnits]
  · have apart : (units.map Binding.fileName).Nodup ↔
        (emitted.map fun root => Text.snakeCase root.name).Nodup := by
      simp only [List.Nodup, units, emitted, List.pairwise_map, List.pairwise_flatMap,
        List.pairwise_filter, ClassDecl.bindings_apart_iff nothing, ClassDecl.bindings_apart,
        implies_true, true_and]
    rw [apart]
    refine ⟨.inr, Or.rec (fun noUnits => ?_) id⟩
    rw [← apart, noUnits]
    exact .nil

namespace CommandLine

theorem loadDocument_eq_ok {path : String} {files : Files} {document : Document} :
    (loadDocument Disk.ofFiles path files).1 = .ok document ↔
      Document.load path files = .ok document := by
  have asked : Disk.ofFiles.readText path = Disk.ask (·.readText path) := rfl
  rw [loadDocument, asked, (ReadsOnly.ask _).run_bind, Disk.ask, Document.load]
  cases files.readText path with
  | error fault => exact ⟨nofun, nofun⟩
  | ok text =>
    dsimp only
    cases Document.ofText path text with
    | error fault => exact ⟨nofun, nofun⟩
    | ok found =>
      constructor <;>
      · rintro ⟨⟩
        rfl

theorem compileAll_cons (backends : List Backend) (path : String) (rest : List String)
    (files : Files) :
    (compileAll Disk.ofFiles backends (path :: rest) files).1 =
      match (loadDocument Disk.ofFiles path files).1 with
      | .error failure => ([], some failure)
      | .ok document =>
        let (others, failure) := (compileAll Disk.ofFiles backends rest files).1
        ((document.compile backends).map (⟨path, ·⟩) ++ others, failure) := by
  rw [compileAll, (readsOnly_loadDocument path).run_bind]
  cases (loadDocument Disk.ofFiles path files).1 <;> rfl

/-- Documents that are all compiled were all loaded from the files. -/
theorem compileAll_eq_none {backends : List Backend} {paths : List String} {files : Files}
    {reports : List Report}
    (compiled : (compileAll Disk.ofFiles backends paths files).1 = (reports, none)) :
    ∃ documents,
      List.Forall₂ (fun path document => Document.load path files = .ok document) paths documents ∧
        reports.map Report.compiled = documents.flatMap (Document.compile backends) := by
  induction paths generalizing reports with
  | nil =>
    cases compiled
    exact ⟨[], .nil, rfl⟩
  | cons path rest inductionHypothesis =>
    rw [compileAll_cons] at compiled
    split at compiled
    next => cases compiled
    next document loaded =>
      cases later : (compileAll Disk.ofFiles backends rest files).1 with
      | mk others failure =>
        rw [later] at compiled
        cases compiled
        obtain ⟨documents, areLoaded, areCompiled⟩ := inductionHypothesis later
        refine ⟨document :: documents, .cons (loadDocument_eq_ok.mp loaded) areLoaded, ?_⟩
        rw [List.map_append, List.map_map, areCompiled, List.flatMap_cons]
        congr 1
        exact List.map_id _

/-- Whether a command says in the end what was compiled, where it would else say what ended it. -/
def PrintsSummary (documents : List String) (backends : List Backend) (colored : Bool)
    (files : Files) (outcome : Outcome) : Prop :=
  ∃ paths reports failure, (resolve Disk.ofFiles documents files).1 = .ok paths ∧
    (compileAll Disk.ofFiles backends paths files).1 = (reports, failure) ∧
    outcome.errors = diagnosticsText colored reports ++ summary colored reports

theorem Failure.exists_text (f : Failure) : ∃ rest, f.text = "Error: " ++ rest := by
  simp only [text, String.append_assoc]
  exact ⟨_, rfl⟩

theorem exists_summary (colored : Bool) (reports : List Report) :
    ∃ rest, summary colored reports = "compiled " ++ rest := by
  unfold summary
  extract_lets
  simp only [String.append_assoc]
  exact ⟨_, rfl⟩

/-- A failure is worded unlike a summary. -/
theorem Failure.text_ne_summary (f : Failure) (colored : Bool) (reports : List Report) :
    f.text ≠ summary colored reports := by
  obtain ⟨rest, isText⟩ := f.exists_text
  obtain ⟨rest', isSummary⟩ := exists_summary colored reports
  rw [isText, isSummary]
  intro same
  have first := congrArg (fun text => text.toList.head?) same
  simp only [String.toList_append] at first
  cases first

theorem deliver_eq_none {directory output : String} {sources : List (String × String)}
    {files after : Files}
    (delivered : deliver Disk.ofFiles (some directory) sources files = ((output, none), after)) :
    ∃ made, writeAll Disk.ofFiles directory sources made = (none, after) := by
  simp only [deliver, bind, StateT.bind] at delivered
  cases isMade : Disk.ofFiles.makeDirectories directory files with
  | mk result made =>
    rw [isMade] at delivered
    cases result with
    | error fault => cases delivered
    | ok _ =>
      refine ⟨made, ?_⟩
      cases written : writeAll Disk.ofFiles directory sources made with
      | mk failure later =>
        simp only [StateT.bind, written] at delivered
        cases delivered
        rfl

/-- The steps of a command that emits into a directory. -/
theorem writes_of_emit {command : Command} {backends : List Backend} {directory : String}
    {colored : Bool} {files after : Files} {outcome : Outcome}
    (action : command.action = .emit backends (some directory))
    (ran : command.run Disk.ofFiles colored files = (outcome, after))
    (succeeded : outcome.exit = 0 ∨
      PrintsSummary command.documents backends colored files outcome) :
    ∃ paths reports made,
      (resolve Disk.ofFiles command.documents files).1 = .ok paths ∧
      (compileAll Disk.ofFiles backends paths files).1 = (reports, none) ∧
      writeAll Disk.ofFiles directory (sources reports) made = (none, after) := by
  unfold Command.run at ran
  simp only [action] at ran
  rw [(readsOnly_resolve command.documents).run_bind] at ran
  cases resolved : (resolve Disk.ofFiles command.documents files).1 with
  | error cause =>
    rw [resolved] at ran
    cases ran
    obtain exit | ⟨paths, reports, failure, isResolved, -⟩ := succeeded
    · cases exit
    · rw [resolved] at isResolved
      cases isResolved
  | ok paths =>
    rw [resolved] at ran
    dsimp only at ran
    rw [(readsOnly_compileAll backends paths).run_bind] at ran
    cases compiled : (compileAll Disk.ofFiles backends paths files).1 with
    | mk reports failure =>
      rw [compiled] at ran
      have goesOn {failure : Failure} {output : String} :
          outcome ≠ { failed (diagnosticsText colored reports) failure with output } := by
        rintro rfl
        obtain exit | ⟨paths', reports', failure', isResolved, isCompiled, errors⟩ := succeeded
        · cases exit
        · cases resolved.symm.trans isResolved
          cases compiled.symm.trans isCompiled
          exact failure.text_ne_summary colored reports ((String.append_right_inj _).mp errors)
      cases failure with
      | some failure =>
        cases ran
        exact absurd rfl goesOn
      | none =>
        cases delivered : deliver Disk.ofFiles (some directory) (sources reports) files with
        | mk result later =>
          obtain ⟨output, failure⟩ := result
          simp only [bind, StateT.bind, delivered] at ran
          cases failure with
          | some failure =>
            cases ran
            exact absurd rfl goesOn
          | none =>
            cases ran
            obtain ⟨made, written⟩ := deliver_eq_none delivered
            exact ⟨paths, reports, made, rfl, compiled, written⟩

/-- A command that emits comes to its end when all its steps succeed. -/
theorem run_of_writes {command : Command} {backends : List Backend} {directory : String}
    {colored : Bool} {paths : List String} {reports : List Report} {files made after : Files}
    (action : command.action = .emit backends (some directory))
    (resolved : (resolve Disk.ofFiles command.documents files).1 = .ok paths)
    (compiled : (compileAll Disk.ofFiles backends paths files).1 = (reports, none))
    (isMade : Disk.ofFiles.makeDirectories directory files = (.ok (), made))
    (written : writeAll Disk.ofFiles directory (sources reports) made = (none, after)) :
    command.run Disk.ofFiles colored files =
      (finished colored reports "" (diagnosticsText colored reports), after) := by
  have delivered :
      deliver Disk.ofFiles (some directory) (sources reports) files = (("", none), after) := by
    simp only [deliver, bind, StateT.bind, isMade, written]
    rfl
  unfold Command.run
  simp only [action]
  rw [(readsOnly_resolve _).run_bind, resolved]
  dsimp only
  rw [(readsOnly_compileAll _ _).run_bind, compiled]
  simp only [bind, StateT.bind, delivered]
  rfl

/-- The units of all roots, in the order in which they are written. -/
theorem sources_eq {backends : List Backend} {documents : List Document} {reports : List Report}
    (compiled :
      reports.map Report.compiled = documents.flatMap (Document.compile backends)) :
    sources reports = ((documents.flatMap Document.roots).flatMap fun root =>
      (root.compile backends).bindings).map fun unit => (unit.fileName, unit.source) := by
  have perReport : sources reports = (reports.map Report.compiled).flatMap fun compiled =>
      compiled.bindings.map fun unit => (unit.fileName, unit.source) := by
    rw [List.flatMap_map, sources]
  rw [perReport, compiled, List.map_flatMap, List.flatMap_assoc, List.flatMap_assoc]
  refine List.flatMap_congr fun document _ => ?_
  rw [Document.compile, List.flatMap_map]

end CommandLine

open CommandLine

/-- The units that a command writes into a directory have different names exactly when the names
    of their roots differ in snake case, and qualified names do not matter. All units are there in
    the end exactly when those of one name are the same. -/
theorem emitted_units_are_kept_iff {arguments : List String} {command : Command}
    {backends : List Backend} {directory : String} {colorsPossible : Bool}
    {files after : Files} {outcome : Outcome}
    (asked : Request.ofArguments arguments = .run command)
    (action : command.action = .emit backends (some directory))
    (ran : run Disk.ofFiles colorsPossible arguments files = (outcome, after))
    (succeeded : outcome.exit = 0 ∨ PrintsSummary command.documents backends
      (command.colors && colorsPossible) files outcome) :
    ∃ paths documents,
      (resolve Disk.ofFiles command.documents files).1 = .ok paths ∧
      List.Forall₂ (fun path document => Document.load path files = .ok document) paths
        documents ∧
      let roots := documents.flatMap Document.roots
      let emitted := roots.filter fun root => !(root.compile backends).isFatal
      let units := roots.flatMap fun root => (root.compile backends).bindings
      let kept (unit : Binding) :=
        after.readText (joinPath directory unit.fileName) = .ok unit.source
      ((units.map Binding.fileName).Nodup ↔
        units = [] ∨ (emitted.map fun root => Text.snakeCase root.name).Nodup) ∧
      ((∀ unit ∈ units, kept unit) ↔
        ∀ u ∈ units, ∀ v ∈ units, u.fileName = v.fileName → u.source = v.source) ∧
      ((emitted.map fun root => Text.snakeCase root.name).Nodup → ∀ unit ∈ units, kept unit) := by
  unfold run at ran
  rw [asked] at ran
  obtain ⟨paths, reports, made, resolved, compiled, written⟩ := writes_of_emit action ran succeeded
  obtain ⟨documents, loaded, areCompiled⟩ := compileAll_eq_none compiled
  refine ⟨paths, documents, resolved, loaded, ?_⟩
  intro roots emitted units kept
  rw [sources_eq areCompiled] at written
  have names := nodup_fileNames_iff backends roots
  have all := units_are_held_iff written
  refine ⟨names, all, fun different => all.mpr ?_⟩
  have apart := names.mpr (.inr different)
  intro u isUnit v isOther sameName
  rw [List.inj_on_of_nodup_map apart isUnit isOther sameName]

/-! ## Doors to look at -/

def doorText (package category field : String) : String :=
  "[\"Door\",\"" ++ package ++ "\",\"class\",[],null,[[\"config\"]],[[\"class\",\"" ++ category ++
    "\",null,\"class\",[true,true],null,[],[[\"field\",\"" ++ field ++
    "\",[true,true],null,[],[\"primitive\",\"int\"]]]]]]"

def backDoorText : String := doorText "back" "Bell" "tones"

def gateText : String := "[\"Gate\",\"side\",\"class\",[],null,[[\"config\"]],[]]"

def houseText (other : String) : String :=
  "[[" ++ doorText "front" "Lock" "turns" ++ "," ++ other ++ "]]"

def houseDocument (other : String) : Document :=
  (Document.ofText "house.json" (houseText other)).toOption.getD ⟨[]⟩

def houseFiles (other : String) : Files :=
  ⟨.directory [("house.json", .file (.text (houseText other)))], []⟩

def houseArguments : List String :=
  ["emit", "-i", "house.json", "--backend", "store", "-o", "gen"]

def houseUnits (other : String) : List Binding :=
  (houseDocument other).roots.flatMap fun root => (root.compile [.store]).bindings

def houseReports (other : String) : List Report :=
  ((houseDocument other).compile [.store]).map fun compiled => ⟨"house.json", compiled⟩

section House

variable {other : String}

theorem house_asked :
    Request.ofArguments houseArguments =
      .run ⟨true, ["house.json"], .emit [.store] (some "gen")⟩ := by
  decide +kernel

theorem house_resolved (files : Files) :
    (resolve Disk.ofFiles ["house.json"] files).1 = .ok ["house.json"] := by
  have plain : isPattern "house.json" = false := by decide +kernel
  simp only [resolve, plain]
  rfl

theorem houseFiles_load (isRead : (houseDocument other).roots ≠ []) :
    Document.load "house.json" (houseFiles other) = .ok (houseDocument other) := by
  have route : Route.ofPath "house.json" = .ok ⟨false, ["house.json"], false⟩ :=
    Route.ofPath_relative (by decide +kernel)
  have held : (houseFiles other).readText "house.json" = .ok (houseText other) := by
    rw [Files.readText, Files.node, route]
    rfl
  rw [Document.load, held]
  exact eq_ok_of_getD_ne fun same => isRead (congrArg Document.roots same)

theorem houseReports_compiled (isRead : (houseDocument other).roots ≠ []) :
    (compileAll Disk.ofFiles [.store] ["house.json"] (houseFiles other)).1 =
      (houseReports other, none) := by
  rw [compileAll_cons, loadDocument_eq_ok.mpr (houseFiles_load isRead)]
  exact congrArg (·, none) (List.append_nil _)

theorem houseReports_sources :
    sources (houseReports other) =
      (houseUnits other).map fun unit => (unit.fileName, unit.source) := by
  have compiled : (houseReports other).map Report.compiled =
      [houseDocument other].flatMap (Document.compile [.store]) := by
    simp only [houseReports, List.map_map, List.flatMap_singleton]
    exact List.map_id _
  rw [sources_eq compiled, List.flatMap_singleton]
  rfl

def houseFilesMade (other : String) : Files := (houseFiles other).put ["gen"] (.directory [])

theorem houseFiles_makeDirectories :
    Disk.ofFiles.makeDirectories "gen" (houseFiles other) = (.ok (), houseFilesMade other) := by
  have route : Route.ofPath "gen" = .ok ⟨false, ["gen"], false⟩ :=
    Route.ofPath_relative (by decide +kernel)
  have made : (houseFiles other).makeDirectory "gen" = .ok (houseFilesMade other) := by
    rw [Files.makeDirectory, route]
    rfl
  have names : pathNames "gen" = ["gen"] := by
    rw [pathNames, splitOn_slash]
    decide +kernel
  have directories : directoriesTo "gen" = ["gen"] := by
    rw [directoriesTo, names]
    rfl
  simp only [Disk.makeDirectories, directories, makeMissing, Disk.ofFiles, Files.attempting, bind,
    StateT.bind, made]
  rfl

def houseFilesWith (other text : String) : Files :=
  (houseFilesMade other).put ["gen", "door_store.rs"] (.file (.text text))

theorem houseFiles_writeText (text : String) :
    (houseFilesMade other).writeText (joinPath "gen" "door_store.rs") text =
      .ok (houseFilesWith other text) := by
  have route : Route.ofPath (joinPath "gen" "door_store.rs") =
      .ok ⟨false, ["gen", "door_store.rs"], false⟩ := Route.ofPath_relative (by decide +kernel)
  rw [Files.writeText, Files.write, route]
  rfl

/-- A second file can be written beside the first or in its place. -/
theorem houseFilesWith_writeText {name : String} (text later : String)
    (isUnit : name = "door_store.rs" ∨ name = "gate_store.rs") :
    ∃ after, (houseFilesWith other text).writeText (joinPath "gen" name) later = .ok after := by
  have route : Route.ofPath (joinPath "gen" name) = .ok ⟨false, ["gen", name], false⟩ := by
    obtain rfl | rfl := isUnit <;> exact Route.ofPath_relative (by decide +kernel)
  rw [Files.writeText, Files.write, route]
  obtain rfl | rfl := isUnit <;> exact ⟨_, rfl⟩

theorem houseFiles_writeAll {sources : List (String × String)} {name : String}
    (names : sources.map Prod.fst = ["door_store.rs", name])
    (isUnit : name = "door_store.rs" ∨ name = "gate_store.rs") :
    ∃ after, writeAll Disk.ofFiles "gen" sources (houseFilesMade other) = (none, after) := by
  obtain ⟨⟨_, text⟩, rest, rfl, rfl, isRest⟩ := List.map_eq_cons_iff.mp names
  obtain ⟨⟨_, later⟩, rfl, rfl⟩ := List.map_eq_singleton_iff.mp isRest
  obtain ⟨after, second⟩ := houseFilesWith_writeText text later isUnit
  rw [writeAll_of_written (houseFiles_writeText text), writeAll_of_written second]
  exact ⟨_, rfl⟩

theorem house_run {name : String} (isRead : (houseDocument other).roots ≠ [])
    (names : (houseUnits other).map Binding.fileName = ["door_store.rs", name])
    (isUnit : name = "door_store.rs" ∨ name = "gate_store.rs") :
    ∃ after, run Disk.ofFiles false houseArguments (houseFiles other) =
        (finished false (houseReports other) "" (diagnosticsText false (houseReports other)),
          after) ∧
      writeAll Disk.ofFiles "gen" (sources (houseReports other)) (houseFilesMade other) =
        (none, after) := by
  have sourceNames : (sources (houseReports other)).map Prod.fst = ["door_store.rs", name] := by
    rw [houseReports_sources, List.map_map]
    exact names
  obtain ⟨after, written⟩ := houseFiles_writeAll sourceNames isUnit
  refine ⟨after, ?_, written⟩
  rw [run, house_asked]
  exact run_of_writes rfl (house_resolved _) (houseReports_compiled isRead)
    houseFiles_makeDirectories written

theorem house_documents {paths : List String} {documents : List Document}
    (isRead : (houseDocument other).roots ≠ [])
    (resolved : (resolve Disk.ofFiles ["house.json"] (houseFiles other)).1 = .ok paths)
    (loaded : List.Forall₂ (fun path document =>
      Document.load path (houseFiles other) = .ok document) paths documents) :
    documents = [houseDocument other] := by
  rw [house_resolved] at resolved
  cases resolved
  cases loaded with
  | cons isLoaded none =>
    cases none
    rw [houseFiles_load isRead] at isLoaded
    cases isLoaded
    rfl

end House

theorem gate_units :
    (houseDocument gateText).roots.isEmpty = false ∧
      (houseUnits gateText).map Binding.fileName = ["door_store.rs", "gate_store.rs"] ∧
      (((houseDocument gateText).roots.filter fun root =>
        !(root.compile [.store]).isFatal).map fun root => Text.snakeCase root.name) =
          ["door", "gate"] ∧
      severityCount .error (houseReports gateText) = 0 := by
  -- The characters of the pieces are spelled out more quickly than those of the whole text.
  simp only [houseUnits, houseReports, houseDocument, Document.ofText, loadText, readText,
    Tree.ofText, Lexeme.ofText, houseText, gateText, doorText, String.toList_append]
  decide +kernel

/-- The units of a door and a gate are written into files of their own. -/
theorem door_and_gate_units_are_kept :
    let ran := run Disk.ofFiles false houseArguments (houseFiles gateText)
    ran.1.exit = 0 ∧
      (houseUnits gateText).map Binding.fileName = ["door_store.rs", "gate_store.rs"] ∧
      ∀ unit ∈ houseUnits gateText,
        ran.2.readText (joinPath "gen" unit.fileName) = .ok unit.source := by
  obtain ⟨notEmpty, names, emitted, noError⟩ := gate_units
  have isRead := List.isEmpty_eq_false_iff.mp notEmpty
  obtain ⟨after, ran, -⟩ := house_run isRead names (.inr rfl)
  have succeeded :
      (run Disk.ofFiles false houseArguments (houseFiles gateText)).1.exit = 0 := by
    simp only [ran, finished, noError]
    rfl
  obtain ⟨paths, documents, resolved, loaded, -, -, kept⟩ :=
    emitted_units_are_kept_iff house_asked rfl rfl (.inl succeeded)
  obtain rfl := house_documents isRead resolved loaded
  rw [List.flatMap_singleton, emitted] at kept
  exact ⟨succeeded, names, kept (by decide)⟩

theorem backDoor_units :
    (houseDocument backDoorText).roots.map ClassDecl.qualifiedName =
        ["front.Door", "back.Door"] ∧
      (houseUnits backDoorText).map Binding.fileName = ["door_store.rs", "door_store.rs"] ∧
      ((houseUnits backDoorText).map Binding.source).Nodup ∧
      severityCount .error (houseReports backDoorText) = 0 := by
  simp only [houseUnits, houseReports, houseDocument, Document.ofText, loadText, readText,
    Tree.ofText, Lexeme.ofText, houseText, backDoorText, doorText, String.toList_append]
  decide +kernel

/-- The unit of the front door is lost to that of the back door, although their qualified names
    differ. -/
theorem backDoor_takes_the_file_of_the_front_door :
    let ran := run Disk.ofFiles false houseArguments (houseFiles backDoorText)
    let roots := (houseDocument backDoorText).roots
    let units := roots.flatMap fun root => (root.compile [.store]).bindings
    Document.load "house.json" (houseFiles backDoorText) = .ok (houseDocument backDoorText) ∧
      (roots.map ClassDecl.qualifiedName).Nodup ∧ ran.1.exit = 0 ∧
      ¬ (units.map Binding.fileName).Nodup ∧
      ∃ unit ∈ units, ran.2.readText (joinPath "gen" unit.fileName) ≠ .ok unit.source := by
  obtain ⟨roots, twoDoors, different, noError⟩ := backDoor_units
  have isRead : (houseDocument backDoorText).roots ≠ [] := by
    rintro none
    rw [none] at roots
    cases roots
  obtain ⟨after, ran, written⟩ := house_run isRead twoDoors (.inl rfl)
  rw [houseReports_sources] at written
  rw [ran]
  dsimp only
  rw [roots]
  refine ⟨houseFiles_load isRead, by decide, ?_, ?_, ?_⟩
  · simp only [finished, noError]
    rfl
  · exact fun apart => absurd (twoDoors ▸ apart) (by decide)
  · by_contra none
    have same := (units_are_held_iff written).mp fun unit isUnit =>
      by_contra fun lost => none ⟨unit, isUnit, lost⟩
    obtain ⟨front, rest, units, frontName, restNames⟩ := List.map_eq_cons_iff.mp twoDoors
    obtain ⟨back, rfl, backName⟩ := List.map_eq_singleton_iff.mp restNames
    rw [units] at same different
    have apart : front.source ≠ back.source := by simpa using different
    exact apart (same front (by simp) back (by simp) (frontName.trans backName.symm))

end ConfigBinding
