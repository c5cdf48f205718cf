import ConfigBinding.Proofs.CommandLine.Reading
import ConfigBinding.Proofs.Files.Siblings
import ConfigBinding.Proofs.Lists
import ConfigBinding.Proofs.Text.Names

/-!
# Writing files

Files are written one after the other into one directory. Their names tell the backend and the root,
but the root only by its simple name in snake case, so a later file may take the place of an earlier
one.

* `Binding.isFileName`, `Binding.fileName_inj`: the names of files;
* `CommandLine.writeAll_holds`: what a directory holds in the end;
* `CommandLine.writeAll_holds_all_iff`, `CommandLine.units_are_held_iff`: when nothing that was
  written is lost.
-/

namespace ConfigBinding

/-! ## Names of files -/

/-- What the names of the files of a backend end in. -/
def Backend.ending (b : Backend) : List Char := ("_" ++ b.name ++ ".rs").toList

theorem Backend.eq_of_ending {b c : Backend} (isSuffix : b.ending <:+ c.ending) : b = c := by
  revert isSuffix
  cases b <;> cases c <;> decide

theorem Binding.toList_fileName (b : Binding) :
    b.fileName.toList = (Text.snakeCase b.root).toList ++ b.backend.ending := by
  simp only [fileName, Backend.ending, String.toList_append, List.append_assoc]

theorem Binding.isFileName (b : Binding) : IsFileName b.fileName := by
  have noSlash : '/' ∉ (Text.snakeCase b.root).toList :=
    Text.sign_not_mem_snakeCase (by decide) (by decide) b.root
  have plain : '/' ∉ b.backend.ending ∧ '_' ∈ b.backend.ending := by
    cases b.backend <;> decide
  refine ⟨?_, '_', ?_, by decide⟩ <;> rw [toList_fileName, List.mem_append]
  · exact not_or.mpr ⟨noSlash, plain.1⟩
  · exact .inr plain.2

/-- The endings are told apart from behind, so the name of a file tells both of its parts. -/
theorem Binding.fileName_inj {b c : Binding} :
    b.fileName = c.fileName ↔
      Text.snakeCase b.root = Text.snakeCase c.root ∧ b.backend = c.backend := by
  constructor
  · intro same
    have bEnds : b.backend.ending <:+ b.fileName.toList := by
      rw [toList_fileName]
      exact List.suffix_append _ _
    have cEnds : c.backend.ending <:+ b.fileName.toList := by
      rw [same, toList_fileName]
      exact List.suffix_append _ _
    have sameBackend : b.backend = c.backend := by
      obtain isSuffix | isSuffix := List.suffix_or_suffix_of_suffix bEnds cEnds
      · exact Backend.eq_of_ending isSuffix
      · exact (Backend.eq_of_ending isSuffix).symm
    have parts := congrArg String.toList same
    rw [toList_fileName, toList_fileName, sameBackend] at parts
    exact ⟨String.toList_inj.mp (List.append_cancel_right parts), sameBackend⟩
  · rintro ⟨sameRoot, sameBackend⟩
    rw [fileName, sameRoot, sameBackend, fileName]

/-! ## Writing one file after the other -/

namespace CommandLine

theorem writeAll_of_written {directory name text : String} {files between : Files}
    (written : files.writeText (joinPath directory name) text = .ok between)
    (rest : List (String × String)) :
    writeAll Disk.ofFiles directory ((name, text) :: rest) files =
      writeAll Disk.ofFiles directory rest between := by
  simp only [writeAll, bind, StateT.bind, Disk.ofFiles, Files.attempting, written]

theorem writeAll_cons {directory : String} {source : String × String}
    {rest : List (String × String)} {files after : Files}
    (written : writeAll Disk.ofFiles directory (source :: rest) files = (none, after)) :
    ∃ between, files.writeText (joinPath directory source.1) source.2 = .ok between ∧
      writeAll Disk.ofFiles directory rest between = (none, after) := by
  obtain ⟨name, text⟩ := source
  cases isWritten : files.writeText (joinPath directory name) text with
  | error fault =>
    simp only [writeAll, bind, StateT.bind, Disk.ofFiles, Files.attempting, isWritten] at written
    cases written
  | ok between =>
    rw [writeAll_of_written isWritten] at written
    exact ⟨between, rfl, written⟩

section WriteAll

variable {directory : String} {sources : List (String × String)} {files after : Files}
  (isName : ∀ source ∈ sources, IsFileName source.1)
  (written : writeAll Disk.ofFiles directory sources files = (none, after))

include isName written

theorem writeAll_keeps {other content : String} (isOther : IsFileName other)
    (untouched : other ∉ sources.map Prod.fst)
    (held : files.readText (joinPath directory other) = .ok content) :
    after.readText (joinPath directory other) = .ok content := by
  induction sources generalizing files with
  | nil =>
    cases written
    exact held
  | cons source rest inductionHypothesis =>
    rw [List.map_cons, List.mem_cons, not_or] at untouched
    obtain ⟨between, isWritten, later⟩ := writeAll_cons written
    refine inductionHypothesis (fun other member => isName other (List.mem_cons_of_mem _ member))
      later untouched.2 ?_
    exact Files.readText_of_write_beside (isName source List.mem_cons_self) isOther untouched.1
      isWritten held

/-- A file holds the last source that was written under its name. -/
theorem writeAll_holds {front back : List (String × String)} {source : String × String}
    (split : sources = front ++ source :: back) (isLast : source.1 ∉ back.map Prod.fst) :
    after.readText (joinPath directory source.1) = .ok source.2 := by
  induction front generalizing sources files with
  | nil =>
    subst split
    obtain ⟨between, isWritten, later⟩ := writeAll_cons written
    refine writeAll_keeps (fun other member => isName other (List.mem_cons_of_mem _ member)) later
      (isName source List.mem_cons_self) isLast ?_
    exact (Files.readText_of_writeText isWritten).2
  | cons first front inductionHypothesis =>
    subst split
    obtain ⟨between, isWritten, later⟩ := writeAll_cons written
    exact inductionHypothesis (fun other member => isName other (List.mem_cons_of_mem _ member))
      later rfl

/-- All sources are there in the end exactly when those of one name are the same. -/
theorem writeAll_holds_all_iff :
    (∀ source ∈ sources, after.readText (joinPath directory source.1) = .ok source.2) ↔
      ∀ s ∈ sources, ∀ t ∈ sources, s.1 = t.1 → s.2 = t.2 := by
  constructor
  · intro holds s isSource t isOther sameName
    have first := holds s isSource
    rw [sameName, holds t isOther] at first
    exact (Except.ok.inj first).symm
  · intro same source isSource
    obtain ⟨front, last, back, split, sameName, isLast⟩ :=
      exists_last_of_mem_map (List.mem_map_of_mem (f := Prod.fst) isSource)
    have isThere : last ∈ sources := by rw [split]; simp
    rw [← sameName, ← same last isThere source isSource sameName]
    exact writeAll_holds isName written split (sameName ▸ isLast)

end WriteAll

/-- Of units that are all written, none is lost exactly when those of one name are the same. -/
theorem units_are_held_iff {directory : String} {units : List Binding} {files after : Files}
    (written : writeAll Disk.ofFiles directory
      (units.map fun unit => (unit.fileName, unit.source)) files = (none, after)) :
    (∀ unit ∈ units,
        after.readText (joinPath directory unit.fileName) = .ok unit.source) ↔
      ∀ u ∈ units, ∀ v ∈ units, u.fileName = v.fileName → u.source = v.source := by
  have holds := writeAll_holds_all_iff
    (List.forall_mem_map.mpr fun unit _ => unit.isFileName) written
  simpa only [List.forall_mem_map] using holds

end CommandLine

end ConfigBinding
