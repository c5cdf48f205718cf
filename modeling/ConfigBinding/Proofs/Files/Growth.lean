import ConfigBinding.Files.Basic
import ConfigBinding.Proofs.Results
import ConfigBinding.Proofs.Store.Settings

/-!
# Trees of files that grow

Writing a file and making a directory put something in a directory where no directory is. All
directories stay, with what is in them, so every path that led somewhere still leads there.

* `Node.put_of_at?`: putting what is there already changes nothing;
* `Node.Grows`, `Node.grows_put`: what stays when something is put in a directory;
* `Files.follow_put`: a path leads to what was put there.
-/

namespace ConfigBinding

/-- A change that leaves the value of a key as it is leaves the dictionary as it is. -/
theorem Dictionary.update_of_lookup {α : Type} {entries : List (String × α)} {key : String}
    {value : α} (known : entries.lookup key = some value) {change : α → α}
    (keeps : change value = value) (initial : α) :
    Dictionary.update entries key initial change = entries := by
  induction entries with
  | nil => cases known
  | cons entry rest inductionHypothesis =>
    obtain ⟨name, first⟩ := entry
    rw [Dictionary.update]
    split
    next same =>
      subst same
      rw [List.lookup_cons_self] at known
      cases known
      rw [keeps]
    next different =>
      rw [List.lookup_cons, beq_false_of_ne (Ne.symm different)] at known
      rw [inductionHypothesis known]

/-! ## Nodes -/

namespace Node

theorem at?_append (names more : List String) (node : Node) :
    node.at? (names ++ more) = (node.at? names).bind (at? more) := by
  induction names generalizing node with
  | nil => rfl
  | cons name rest inductionHypothesis =>
    cases node with
    | file content => rfl
    | directory entries =>
      rw [List.cons_append, at?, at?]
      cases entries.lookup name with
      | none => rfl
      | some child => exact inductionHypothesis child

theorem exists_directory_of_at?_cons {name : String} {rest : List String} {node found : Node}
    (isAt : node.at? (name :: rest) = some found) :
    ∃ entries child, node = .directory entries ∧ entries.lookup name = some child ∧
      child.at? rest = some found := by
  cases node with
  | file content => cases isAt
  | directory entries =>
    obtain ⟨child, isChild, isAt⟩ := Option.bind_eq_some_iff.mp isAt
    exact ⟨entries, child, rfl, isChild, isAt⟩

/-- Putting what is there already changes nothing. -/
theorem put_of_at? {names : List String} {node new : Node} (isAt : node.at? names = some new) :
    Node.put new names node = node := by
  induction names generalizing node with
  | nil => exact (Option.some.inj isAt).symm
  | cons name rest inductionHypothesis =>
    obtain ⟨entries, child, rfl, isChild, isAt⟩ := exists_directory_of_at?_cons isAt
    rw [put, Dictionary.update_of_lookup isChild (inductionHypothesis isAt)]

/-- What is put in a directory is there. -/
theorem at?_put {names : List String} {node : Node} {entries : List (String × Node)}
    (isDirectory : node.at? names = some (.directory entries)) (name : String) (new : Node) :
    (Node.put new (names ++ [name]) node).at? (names ++ [name]) = some new := by
  -- By induction on the way down: an update on the way is looked up under its own name again.
  induction names generalizing node with
  | nil =>
    cases isDirectory
    rw [List.nil_append, put, at?, Dictionary.lookup_update_self]
    rfl
  | cons first rest inductionHypothesis =>
    obtain ⟨around, child, rfl, isChild, isAt⟩ := exists_directory_of_at?_cons isDirectory
    rw [List.cons_append, put, at?, Dictionary.lookup_update_self, isChild]
    exact inductionHypothesis isAt

/-- Whether all directories of a tree are in another one, with at least the same names. -/
def Grows (before after : Node) : Prop :=
  ∀ names entries, before.at? names = some (.directory entries) →
    ∃ more, after.at? names = some (.directory more) ∧
      ∀ name, (entries.lookup name).isSome → (more.lookup name).isSome

/-- A directory grows when one of its entries does, or is no directory to begin with. -/
theorem grows_update {entries : List (String × Node)} {name : String} {change : Node → Node}
    (grows : ∀ child, entries.lookup name = some child → child.Grows (change child))
    (initial : Node) :
    (directory entries).Grows (directory (Dictionary.update entries name initial change)) := by
  have keeps : ∀ other, (entries.lookup other).isSome →
      ((Dictionary.update entries name initial change).lookup other).isSome := by
    intro other known
    by_cases same : other = name
    · rw [same, Dictionary.lookup_update_self]
      rfl
    · rwa [Dictionary.lookup_update_of_ne _ same]
  intro names inside isDirectory
  cases names with
  | nil =>
    cases isDirectory
    exact ⟨_, rfl, keeps⟩
  | cons first rest =>
    obtain ⟨_, child, ⟨⟩, isChild, isAt⟩ := exists_directory_of_at?_cons isDirectory
    rw [at?]
    by_cases same : first = name
    · subst same
      rw [Dictionary.lookup_update_self, isChild]
      exact grows child isChild rest inside isAt
    · rw [Dictionary.lookup_update_of_ne _ same, isChild]
      exact ⟨inside, isAt, fun _ => id⟩

/-- A tree grows when something is put in one of its directories where no directory is. -/
theorem grows_put {names : List String} {node : Node} {entries : List (String × Node)}
    (isDirectory : node.at? names = some (.directory entries)) {name : String}
    (free : ∀ inside, node.at? (names ++ [name]) ≠ some (.directory inside)) (new : Node) :
    node.Grows (Node.put new (names ++ [name]) node) := by
  induction names generalizing node with
  | nil =>
    cases isDirectory
    refine grows_update (fun child isChild => ?_) _
    have isFile : ∀ inside, child ≠ .directory inside := by
      intro inside same
      refine free inside ?_
      rw [List.nil_append, at?, isChild, same]
      rfl
    cases child with
    | directory inside => exact absurd rfl (isFile inside)
    | file content =>
      intro names inside isAt
      cases names <;> cases isAt
  | cons first rest inductionHypothesis =>
    obtain ⟨around, child, rfl, isChild, isAt⟩ := exists_directory_of_at?_cons isDirectory
    refine grows_update (fun other isOther => ?_) _
    cases isChild.symm.trans isOther
    refine inductionHypothesis isAt fun inside => ?_
    have below := free inside
    rw [List.cons_append, at?, isChild] at below
    exact below

end Node

/-! ## Paths -/

namespace Files

variable {files after : Files} {names result : List String} {parts : List String}

theorem follow_cons (part : String) (rest : List String) :
    files.follow names (part :: rest) = (files.follow names [part] >>= (files.follow · rest)) := by
  simp only [follow]
  repeat' split
  all_goals rfl

theorem follow_append (more : List String) :
    files.follow names (parts ++ more) = (files.follow names parts >>= (files.follow · more)) := by
  induction parts generalizing names with
  | nil => rfl
  | cons part rest inductionHypothesis =>
    rw [List.cons_append, follow_cons, follow_cons part rest]
    cases files.follow names [part] with
    | error fault => rfl
    | ok there => exact inductionHypothesis

/-- One part of a path leads on from a directory only. -/
theorem follow_singleton_eq_ok {part : String} :
    files.follow names [part] = .ok result ↔
      ∃ entries, files.top.at? names = some (.directory entries) ∧
        (part = "." ∧ result = names ∨
          part ≠ "." ∧ part = ".." ∧ result = names.dropLast ∨
          part ≠ "." ∧ part ≠ ".." ∧ part.utf8ByteSize ≤ nameLimit ∧
            (entries.lookup part).isSome ∧ result = names ++ [part]) := by
  simp only [follow]
  split
  next absent => simp [absent]
  next isFile => simp [isFile]
  next entries isDirectory =>
    have only : ∀ {P : List (String × Node) → Prop},
        (∃ other, files.top.at? names = some (.directory other) ∧ P other) ↔ P entries := by
      intro P
      simp [isDirectory]
    rw [only]
    split
    next isHere => simp [isHere, eq_comm (a := names)]
    next notHere =>
      split
      next isAbove => simp [isAbove, eq_comm (a := names.dropLast)]
      next notAbove =>
        split
        next long => simp [notHere, notAbove, Nat.not_le.mpr long]
        next short =>
          cases known : (entries.lookup part) <;>
            simp [notHere, notAbove, Nat.not_lt.mp short, eq_comm (b := result)]

/-- A path that leads somewhere still does in a tree that has grown. -/
theorem follow_of_grows (grows : files.top.Grows after.top)
    (leads : files.follow names parts = .ok result) : after.follow names parts = .ok result := by
  induction parts generalizing names with
  | nil => exact leads
  | cons part rest inductionHypothesis =>
    rw [follow_cons] at leads ⊢
    obtain ⟨there, first, leads⟩ := bind_eq_ok.mp leads
    refine bind_eq_ok.mpr ⟨there, ?_, inductionHypothesis leads⟩
    obtain ⟨entries, isDirectory, options⟩ := follow_singleton_eq_ok.mp first
    obtain ⟨more, isMore, keeps⟩ := grows names entries isDirectory
    refine follow_singleton_eq_ok.mpr ⟨more, isMore, ?_⟩
    obtain isHere | isAbove | ⟨notHere, notAbove, short, known, isThere⟩ := options
    · exact .inl isHere
    · exact .inr (.inl isAbove)
    · exact .inr (.inr ⟨notHere, notAbove, short, keeps part known, isThere⟩)

/-- Where a route ends in a name, it leads to a directory and on to this name. -/
theorem entry_eq_some {route : Route} {name : String} :
    files.entry route = .ok (names, some name) ↔
      ∃ front entries, route.parts = front ++ [name] ∧
        files.follow (files.start route) front = .ok names ∧
        files.top.at? names = some (.directory entries) ∧ name ≠ "." ∧ name ≠ ".." := by
  unfold entry
  constructor
  · intro isEntry
    split at isEntry
    next => cases isEntry
    next last isLast =>
      obtain ⟨there, leads, isEntry⟩ := bind_eq_ok.mp isEntry
      split at isEntry
      next => cases isEntry
      next => cases isEntry
      next entries isDirectory =>
        split at isEntry
        next => cases isEntry
        next noDots =>
          cases isEntry
          obtain ⟨front, isRoute⟩ := List.getLast?_eq_some_iff.mp isLast
          simp only [Bool.or_eq_true, decide_eq_true_eq, not_or] at noDots
          rw [isRoute, List.dropLast_concat] at leads
          exact ⟨front, entries, isRoute, leads, isDirectory, noDots.1, noDots.2⟩
  · rintro ⟨front, entries, isRoute, leads, isDirectory, notHere, notAbove⟩
    simp [isRoute, leads, isDirectory, notHere, notAbove, bind, Except.bind]

theorem entry_of_grows {route : Route} {name : String} (grows : files.top.Grows after.top)
    (sameStart : after.working = files.working)
    (isEntry : files.entry route = .ok (names, some name)) :
    after.entry route = .ok (names, some name) := by
  obtain ⟨front, entries, isRoute, leads, isDirectory, notHere, notAbove⟩ :=
    entry_eq_some.mp isEntry
  obtain ⟨more, isMore, -⟩ := grows names entries isDirectory
  have start : after.start route = files.start route := by simp only [Files.start, sameStart]
  refine entry_eq_some.mpr ⟨front, more, isRoute, ?_, isMore, notHere, notAbove⟩
  rw [start]
  exact follow_of_grows grows leads

section Put

variable {route : Route} {name : String} {new : Node}

theorem grows_put (isEntry : files.entry route = .ok (names, some name))
    (free : ∀ inside, files.top.at? (names ++ [name]) ≠ some (.directory inside)) (new : Node) :
    files.top.Grows (files.put (names ++ [name]) new).top := by
  obtain ⟨_, _, -, -, isDirectory, -⟩ := entry_eq_some.mp isEntry
  exact Node.grows_put isDirectory free new

/-- A route leads to what was put at its end. -/
theorem follow_put (isEntry : files.entry route = .ok (names, some name))
    (short : name.utf8ByteSize ≤ nameLimit)
    (free : ∀ inside, files.top.at? (names ++ [name]) ≠ some (.directory inside)) (new : Node) :
    (files.put (names ++ [name]) new).follow (files.start route) route.parts =
        .ok (names ++ [name]) ∧
      (files.put (names ++ [name]) new).top.at? (names ++ [name]) = some new := by
  have grows := grows_put isEntry free new
  obtain ⟨front, entries, isRoute, leads, isDirectory, notHere, notAbove⟩ :=
    entry_eq_some.mp isEntry
  have isNew : (files.put (names ++ [name]) new).top.at? (names ++ [name]) = some new :=
    Node.at?_put isDirectory name new
  refine ⟨?_, isNew⟩
  rw [isRoute, follow_append]
  refine bind_eq_ok.mpr ⟨names, follow_of_grows grows leads, ?_⟩
  rw [Node.at?_append] at isNew
  obtain ⟨there, isThere, isNew⟩ := Option.bind_eq_some_iff.mp isNew
  obtain ⟨more, _, rfl, known, -⟩ := Node.exists_directory_of_at?_cons isNew
  refine follow_singleton_eq_ok.mpr ⟨more, isThere, .inr (.inr ⟨notHere, notAbove, short, ?_, rfl⟩)⟩
  rw [known]
  rfl

end Put

end Files

end ConfigBinding
