import ConfigBinding.Proofs.Files.Growth

/-!
# Writing files and making directories

* `Files.node_of_write`, `Files.write_again`: what was written is read, and writing it again changes
  nothing;
* `Files.isDirectory_of_makeDirectories`, `Files.makeDirectories_of_isDirectory`: directories are
  there once they are made, and are not made again;
* `Files.Grew`: what writing a file keeps of the tree.
-/

namespace ConfigBinding

namespace Files

variable {files after : Files} {path : String}

/-- Whether a tree of files has all directories of another one, and the same working directory. -/
structure Grew (before after : Files) : Prop where
  top : before.top.Grows after.top
  working : after.working = before.working

theorem Grew.start {before after : Files} (grew : before.Grew after) (route : Route) :
    after.start route = before.start route := by
  simp only [Files.start, grew.working]

theorem node_eq_directory {entries : List (String × Node)} :
    files.node path = .ok (.directory entries) ↔
      ∃ route names, Route.ofPath path = .ok route ∧
        files.follow (files.start route) route.parts = .ok names ∧
        files.top.at? names = some (.directory entries) := by
  unfold node
  simp only [bind_eq_ok]
  refine exists_congr fun route => ?_
  constructor
  · rintro ⟨isRoute, names, leads, found⟩
    refine ⟨names, isRoute, leads, ?_⟩
    split at found
    next => cases found
    next => split at found <;> cases found
    next isAt =>
      cases found
      exact isAt
  · rintro ⟨names, isRoute, leads, isAt⟩
    refine ⟨isRoute, names, leads, ?_⟩
    simp only [isAt]

theorem isDirectory_iff :
    files.isDirectory path ↔ ∃ entries, files.node path = .ok (.directory entries) := by
  unfold isDirectory
  split
  next entries isDirectory => exact ⟨fun _ => ⟨entries, isDirectory⟩, fun _ => rfl⟩
  next noDirectory =>
    refine ⟨nofun, fun ⟨entries, isDirectory⟩ => ?_⟩
    exact absurd isDirectory (noDirectory entries)

theorem Grew.isDirectory (grew : files.Grew after) (isDirectory : files.isDirectory path) :
    after.isDirectory path := by
  obtain ⟨entries, isNode⟩ := isDirectory_iff.mp isDirectory
  obtain ⟨route, names, isRoute, leads, isAt⟩ := node_eq_directory.mp isNode
  obtain ⟨more, isMore, -⟩ := grew.top names entries isAt
  refine isDirectory_iff.mpr ⟨more, node_eq_directory.mpr ⟨route, names, isRoute, ?_, isMore⟩⟩
  rw [grew.start]
  exact follow_of_grows grew.top leads

theorem put_of_at? {names : List String} {new : Node} (isAt : files.top.at? names = some new) :
    files.put names new = files := by
  rw [put, Node.put_of_at? isAt]

/-! ## Files -/

/-- A file that is written: where it is put, and what it may not be put over. -/
theorem write_eq_ok {content : Content} :
    files.write path content = .ok after ↔
      ∃ route above name, Route.ofPath path = .ok route ∧
        files.entry route = .ok (above, some name) ∧ route.endsInSlash = false ∧
        name.utf8ByteSize ≤ nameLimit ∧
        (∀ inside, files.top.at? (above ++ [name]) ≠ some (.directory inside)) ∧
        after = files.put (above ++ [name]) (.file content) := by
  unfold write
  simp only [bind_eq_ok]
  constructor
  · rintro ⟨route, isRoute, ⟨above, last⟩, isEntry, written⟩
    cases last with
    | none => cases written
    | some name =>
      dsimp only at written
      split at written
      next => cases written
      next noSlash =>
        split at written
        next => cases written
        next short =>
          split at written
          next => cases written
          next free =>
            cases written
            exact ⟨route, above, name, isRoute, isEntry, eq_false_of_ne_true noSlash,
              Nat.not_lt.mp short, free, rfl⟩
  · rintro ⟨route, above, name, isRoute, isEntry, noSlash, short, free, rfl⟩
    refine ⟨route, isRoute, (above, some name), isEntry, ?_⟩
    dsimp only
    rw [if_neg (ne_true_of_eq_false noSlash), if_neg (Nat.not_lt.mpr short)]
    split
    next inside isDirectory => exact absurd isDirectory (free inside)
    next => rfl

theorem grew_of_write {content : Content} (written : files.write path content = .ok after) :
    files.Grew after := by
  obtain ⟨route, above, name, -, isEntry, -, -, free, rfl⟩ := write_eq_ok.mp written
  exact ⟨grows_put isEntry free _, rfl⟩

/-- What was written is what is at the path. -/
theorem node_of_write {content : Content} (written : files.write path content = .ok after) :
    after.node path = .ok (.file content) := by
  obtain ⟨route, above, name, isRoute, isEntry, noSlash, short, free, rfl⟩ := write_eq_ok.mp written
  obtain ⟨leads, isFile⟩ := follow_put isEntry short free (.file content)
  have start : (files.put (above ++ [name]) (.file content)).start route = files.start route := rfl
  rw [node, isRoute]
  refine bind_eq_ok.mpr ⟨route, rfl, bind_eq_ok.mpr ⟨above ++ [name], ?_, ?_⟩⟩
  · rw [start, leads]
  · simp only [isFile, noSlash]
    rfl

theorem readText_of_writeText {text : String} (written : files.writeText path text = .ok after) :
    after.exists? path ∧ after.readText path = .ok text := by
  have isFile := node_of_write written
  constructor
  · rw [exists?, isFile]
    rfl
  · rw [readText, isFile]

/-- Writing the same again changes nothing. -/
theorem write_again {content : Content} (written : files.write path content = .ok after) :
    after.write path content = .ok after := by
  have grew := grew_of_write written
  obtain ⟨route, above, name, isRoute, isEntry, noSlash, short, free, rfl⟩ := write_eq_ok.mp written
  have isFile := (follow_put isEntry short free (.file content)).2
  refine write_eq_ok.mpr ⟨route, above, name, isRoute, entry_of_grows grew.top rfl isEntry, noSlash,
    short, fun inside => ?_, ?_⟩
  · rw [isFile]
    exact nofun
  · exact (put_of_at? isFile).symm

/-! ## Directories -/

theorem isDirectory_of_makeDirectory (made : files.makeDirectory path = .ok after) :
    after.isDirectory path := by
  obtain ⟨route, isRoute, made⟩ := bind_eq_ok.mp made
  obtain ⟨⟨above, last⟩, isEntry, made⟩ := bind_eq_ok.mp made
  cases last with
  | none => cases made
  | some name =>
    dsimp only at made
    split at made
    next => cases made
    next short =>
      split at made
      next => cases made
      next absent =>
        cases made
        have free : ∀ inside, files.top.at? (above ++ [name]) ≠ some (.directory inside) := by
          rw [absent]
          exact fun _ => nofun
        obtain ⟨leads, isNew⟩ := follow_put isEntry (Nat.not_lt.mp short) free (.directory [])
        exact isDirectory_iff.mpr ⟨[], node_eq_directory.mpr ⟨route, _, isRoute, leads, isNew⟩⟩

/-- A directory that is there is not made again. -/
theorem makeDirectory_of_isDirectory (isDirectory : files.isDirectory path) :
    files.makeDirectory path = .error .alreadyExists := by
  obtain ⟨entries, isNode⟩ := isDirectory_iff.mp isDirectory
  obtain ⟨route, names, isRoute, leads, isAt⟩ := node_eq_directory.mp isNode
  -- The route ends in nothing or in dots, which names no entry, or in a name that is taken.
  have refused : ∀ {above last}, files.entry route = .ok (above, last) →
      (∀ name ∈ last, name.utf8ByteSize ≤ nameLimit ∧ names = above ++ [name]) →
        files.makeDirectory path = .error .alreadyExists := by
    intro above last isEntry isLast
    rw [makeDirectory, isRoute]
    simp only [bind, Except.bind, isEntry]
    cases last with
    | none => rfl
    | some name =>
      obtain ⟨short, rfl⟩ := isLast name rfl
      simp only [if_neg (Nat.not_lt.mpr short), isAt]
  cases isLast : route.parts.getLast? with
  | none =>
    have isEntry : files.entry route = .ok (files.start route, none) := by rw [entry, isLast]
    exact refused isEntry nofun
  | some last =>
    obtain ⟨front, isParts⟩ := List.getLast?_eq_some_iff.mp isLast
    rw [isParts, follow_append] at leads
    obtain ⟨there, leadsThere, leads⟩ := bind_eq_ok.mp leads
    obtain ⟨around, isAround, options⟩ := follow_singleton_eq_ok.mp leads
    by_cases dots : last = "." ∨ last = ".."
    · have isEntry : files.entry route = .ok (there, none) := by
        obtain rfl | rfl := dots <;>
          simp [entry, isParts, leadsThere, isAround, bind, Except.bind]
      exact refused isEntry nofun
    · obtain ⟨notHere, notAbove⟩ := not_or.mp dots
      refine refused (entry_eq_some.mpr
        ⟨front, around, isParts, leadsThere, isAround, notHere, notAbove⟩) ?_
      rintro name ⟨⟩
      obtain ⟨isHere, -⟩ | ⟨-, isAbove, -⟩ | ⟨-, -, short, -, isThere⟩ := options
      · exact absurd isHere notHere
      · exact absurd isAbove notAbove
      · exact ⟨short, isThere⟩

/-- Makes a directory that may be there already. -/
def ensureDirectory (path : String) : StateM Files (Except FileFault Unit) := do
  match ← attempting (·.makeDirectory path) with
  | .error .alreadyExists =>
    if ← fun files => (files.isDirectory path, files) then return .ok ()
    else return .error .alreadyExists
  | result => return result

/-- Makes the first of some directories, each of which lies in the next. -/
def ensureDirectories (paths : List String) : StateM Files (Except FileFault Unit) :=
  makeMissing (fun path => attempting (·.makeDirectory path))
    (fun path files => (files.isDirectory path, files)) paths

theorem makeDirectories_eq :
    files.makeDirectories path = (ensureDirectories (directoriesTo path) files).swap := rfl

theorem ensureDirectories_cons (above : List String) :
    ensureDirectories (path :: above) = (do
      match ← ensureDirectory path with
      | .error .notFound =>
        match ← ensureDirectories above with
        | .ok () => ensureDirectory path
        | .error fault => return .error fault
      | result => return result) := rfl

theorem ensureDirectory_eq :
    ensureDirectory path files =
      match files.makeDirectory path with
      | .ok after => (.ok (), after)
      | .error fault =>
        if fault = .alreadyExists ∧ files.isDirectory path then (.ok (), files)
        else (.error fault, files) := by
  simp only [ensureDirectory, bind, StateT.bind, attempting]
  cases files.makeDirectory path with
  | ok after => rfl
  | error fault =>
    by_cases isThere : fault = .alreadyExists
    · subst isThere
      change (if files.isDirectory path then pure (.ok ()) else pure (.error .alreadyExists) :
        StateM Files (Except FileFault Unit)) files = _
      cases files.isDirectory path <;> simp <;> rfl
    · cases fault <;> first | exact absurd rfl isThere | (simp; rfl)

theorem isDirectory_of_ensureDirectory (made : ensureDirectory path files = (.ok (), after)) :
    after.isDirectory path := by
  rw [ensureDirectory_eq] at made
  split at made
  next isMade =>
    cases made
    exact isDirectory_of_makeDirectory isMade
  next =>
    split at made
    next both =>
      cases made
      exact both.2
    next => cases made

theorem ensureDirectory_of_isDirectory (isDirectory : files.isDirectory path) :
    ensureDirectory path files = (.ok (), files) := by
  rw [ensureDirectory_eq, makeDirectory_of_isDirectory isDirectory]
  exact if_pos ⟨rfl, isDirectory⟩

/-- Once the directories of a path are made, it leads to one. -/
theorem isDirectory_of_makeDirectories (nonempty : path ≠ "")
    (made : files.makeDirectories path = (after, .ok ())) : after.isDirectory path := by
  have isFirst : directoriesTo path =
      path :: pathsUp (isAbsolute path) (pathNames path).reverse.tail := if_neg nonempty
  rw [makeDirectories_eq, isFirst, ensureDirectories_cons] at made
  replace made := congrArg Prod.swap made
  rw [Prod.swap_swap] at made
  simp only [bind, StateT.bind] at made
  cases outcome : ensureDirectory path files with
  | mk result between =>
    rw [outcome] at made
    cases result with
    | ok _ =>
      cases made
      exact isDirectory_of_ensureDirectory outcome
    | error fault =>
      by_cases missing : fault = .notFound
      · subst missing
        simp only [StateT.bind, bind] at made
        cases above : ensureDirectories (pathsUp (isAbsolute path) (pathNames path).reverse.tail)
          between with
        | mk resultAbove later =>
          rw [above] at made
          cases resultAbove with
          | ok _ => exact isDirectory_of_ensureDirectory made
          | error fault => cases made
      · cases fault <;> first | exact absurd rfl missing | cases made

theorem makeDirectories_of_isDirectory (isDirectory : files.isDirectory path) :
    files.makeDirectories path = (files, .ok ()) := by
  by_cases nonempty : path = ""
  · rw [makeDirectories_eq, directoriesTo, if_pos nonempty]
    rfl
  · rw [makeDirectories_eq, directoriesTo, if_neg nonempty, ensureDirectories_cons]
    simp only [bind, StateT.bind, ensureDirectory_of_isDirectory isDirectory]
    rfl

end Files

end ConfigBinding
