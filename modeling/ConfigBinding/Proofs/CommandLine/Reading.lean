import ConfigBinding.CommandLine.Run
import Mathlib.Tactic.Common

/-!
# Commands that only read

Finding and compiling documents changes no file, whatever the patterns and the documents, so a
command meets the same files throughout until it writes.

* `ReadsOnly`: operations on files that change none;
* `Glob.readsOnly_search`, `CommandLine.readsOnly_resolve`, `CommandLine.readsOnly_compileAll`;
* `CommandLine.readsOnly_check`: a whole command that only reads.
-/

namespace ConfigBinding

/-- Whether an operation leaves all files as they are. -/
def ReadsOnly {α : Type} (action : StateM Files α) : Prop := ∀ files, (action files).2 = files

namespace ReadsOnly

variable {α β : Type}

theorem pure (a : α) : ReadsOnly (Pure.pure a) := fun _ => rfl

theorem ask (question : Files → α) : ReadsOnly (Disk.ask question) := fun _ => rfl

theorem bind {first : StateM Files α} {next : α → StateM Files β} (firstReads : ReadsOnly first)
    (nextReads : ∀ a, ReadsOnly (next a)) : ReadsOnly (first >>= next) := fun files =>
  (nextReads _ _).trans (firstReads files)

/-- What follows an operation that only reads meets the same files. -/
theorem run_bind {first : StateM Files α} (firstReads : ReadsOnly first)
    (next : α → StateM Files β) (files : Files) :
    (first >>= next) files = next (first files).1 files := by
  have ran : (first >>= next) files = next (first files).1 (first files).2 := rfl
  rw [ran, firstReads]

end ReadsOnly

/-! ## Searches -/

namespace Glob

theorem readsOnly_inEach {α : Type} {find : α → StateM Files Found}
    (each : ∀ place, ReadsOnly (find place)) (places : List α) :
    ReadsOnly (inEach find places) := by
  induction places with
  | nil => exact .pure _
  | cons place rest inductionHypothesis =>
    refine (each place).bind fun first => ?_
    cases first with
    | error e => exact .pure _
    | ok paths =>
      refine inductionHypothesis.bind fun others => ?_
      cases others <;> exact .pure _

theorem readsOnly_found (directoriesOnly : Bool) (path : String) :
    ReadsOnly (found Disk.ofFiles directoriesOnly path) := by
  refine (ReadsOnly.ask _).bind fun isDirectory => ?_
  split <;> exact .pure _

section

variable {directoriesOnly : Bool} {below : List Part → String → StateM Files Found}
  (each : ∀ parts path, ReadsOnly (below parts path))

include each

theorem readsOnly_match? (parts : List Part) (path name : String) :
    ReadsOnly (match? Disk.ofFiles directoriesOnly below parts path name) := by
  unfold match?
  split
  · exact .pure _
  · split
    · exact .pure _
    · split
      · exact readsOnly_found _ _
      · exact each _ _

theorem readsOnly_visit (parts : List Part) (path name : String) :
    ReadsOnly (visit Disk.ofFiles directoriesOnly below parts path name) := by
  unfold visit
  dsimp only
  split
  · exact readsOnly_match? each _ _ _
  · refine (ReadsOnly.ask _).bind fun isDirectory => ?_
    split
    case' isTrue => refine (ReadsOnly.pure _).bind fun here => ?_
    case' isFalse => refine (readsOnly_match? each _ _ _).bind fun here => ?_
    all_goals
      split
      · exact (each _ _).bind fun _ => .pure _
      · exact (ReadsOnly.pure _).bind fun _ => .pure _

end

theorem readsOnly_below (directoriesOnly : Bool) (depth : Nat) (parts : List Part)
    (path : String) : ReadsOnly (below Disk.ofFiles directoriesOnly depth parts path) := by
  induction depth generalizing parts path with
  | zero => exact .pure _
  | succ depth inductionHypothesis =>
    cases parts with
    | nil => exact .pure _
    | cons part rest =>
      have goOn : ∀ next, ReadsOnly (if rest.isEmpty then found Disk.ofFiles directoriesOnly next
          else below Disk.ofFiles directoriesOnly depth rest next) := by
        intro next
        split
        · exact readsOnly_found _ _
        · exact inductionHypothesis _ _
      unfold below
      dsimp only
      refine (ReadsOnly.ask _).bind fun isDirectory => ?_
      split
      next name _ =>
        split
        case' isTrue => refine (ReadsOnly.pure _).bind fun isThere => ?_
        case' isFalse => refine (ReadsOnly.ask _).bind fun isThere => ?_
        all_goals
          split
          · exact goOn _
          · exact .pure _
      next =>
        split
        · exact .pure _
        · refine (ReadsOnly.ask _).bind fun listed => ?_
          cases listed with
          | error fault => exact .pure _
          | ok names =>
            refine (readsOnly_inEach (fun name => goOn (joinPath path name)) _).bind fun above => ?_
            refine ReadsOnly.bind (readsOnly_inEach (fun name => ?_) _) fun inside => .pure _
            exact readsOnly_visit inductionHypothesis _ _ _

theorem readsOnly_search (pattern : String) : ReadsOnly (search Disk.ofFiles pattern) := by
  unfold search
  split
  · exact .pure _
  · dsimp only
    split
    · exact .pure _
    · exact readsOnly_below _ _ _ _

end Glob

/-! ## Documents -/

namespace CommandLine

theorem readsOnly_resolve (documents : List String) :
    ReadsOnly (resolve Disk.ofFiles documents) := by
  induction documents with
  | nil => exact .pure _
  | cons document rest inductionHypothesis =>
    unfold resolve
    split
    case' isTrue => refine (ReadsOnly.pure _).bind fun here => ?_
    case' isFalse =>
      refine (Glob.readsOnly_search document).bind fun found => ?_
      split <;> refine (ReadsOnly.pure _).bind fun here => ?_
    all_goals
      cases here with
      | error cause => exact .pure _
      | ok paths =>
        refine inductionHypothesis.bind fun others => ?_
        cases others <;> exact .pure _

theorem readsOnly_loadDocument (path : String) : ReadsOnly (loadDocument Disk.ofFiles path) := by
  refine (ReadsOnly.ask _).bind fun read => ?_
  cases read with
  | error fault => exact .pure _
  | ok text =>
    dsimp only
    split <;> exact .pure _

theorem readsOnly_compileAll (backends : List Backend) (paths : List String) :
    ReadsOnly (compileAll Disk.ofFiles backends paths) := by
  induction paths with
  | nil => exact .pure _
  | cons path rest inductionHypothesis =>
    refine (readsOnly_loadDocument path).bind fun loaded => ?_
    cases loaded with
    | error failure => exact .pure _
    | ok document => exact inductionHypothesis.bind fun others => .pure _

/-- A check changes no file, whatever it finds. -/
theorem readsOnly_check {command : Command} {json : Bool} (isCheck : command.action = .check json)
    (colored : Bool) : ReadsOnly (command.run Disk.ofFiles colored) := by
  unfold Command.run
  rw [isCheck]
  refine (readsOnly_resolve _).bind fun resolved => ?_
  cases resolved with
  | error cause => exact .pure _
  | ok paths =>
    refine (readsOnly_compileAll _ paths).bind fun compiled => ?_
    obtain ⟨reports, failure⟩ := compiled
    cases failure <;> exact .pure _

end CommandLine

end ConfigBinding
