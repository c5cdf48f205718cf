import ConfigBinding.Proofs.Files.Writing
import Mathlib.Data.String.Basic

/-!
# Files side by side

Paths that differ in their last names only lead to files in one directory, so writing one of these
files leaves the others as they are.

* `splitOn_slash`: the parts of a path, character by character;
* `exists_route_of_joinPath`: paths that differ in their last names;
* `Files.readText_of_write_beside`: what is read after a file beside is written.
-/

namespace ConfigBinding

/-! ## Parts of paths -/

theorem splitOnAux_slash (before piece rest : List Char) (found : List String) :
    String.splitOnAux (.ofList (before ++ piece ++ rest)) "/" ⟨String.utf8Len before⟩
        ⟨String.utf8Len (before ++ piece)⟩ 0 found =
      found.reverse ++ (List.splitOnPPrepend (· == '/') rest piece.reverse).map String.ofList := by
  have first : String.Pos.Raw.get "/" 0 = '/' := rfl
  have step : String.Pos.Raw.next "/" 0 = ⟨1⟩ := rfl
  have ends : String.Pos.Raw.atEnd "/" ⟨1⟩ = true := rfl
  induction rest generalizing before piece found with
  | nil =>
    have atEnd := (String.atEnd_of_valid (before ++ piece) []).mpr rfl
    have isPiece := String.extract_of_valid before piece []
    rw [← String.utf8Len_append] at isPiece
    unfold String.splitOnAux
    simp only [atEnd, if_true, isPiece]
    simp
  | cons c rest inductionHypothesis =>
    have inside := (String.atEnd_of_valid (before ++ piece) (c :: rest)).not.mpr
      (List.cons_ne_nil c rest)
    have isPiece := String.extract_of_valid before piece (c :: rest)
    have char := String.get_of_valid (before ++ piece) (c :: rest)
    have next := String.next_of_valid (before ++ piece) c rest
    have behind : String.utf8Len (before ++ piece) + c.utf8Size =
        String.utf8Len (before ++ piece ++ [c]) := by
      simp [Nat.add_assoc]
    have same (p : String.Pos.Raw) : p.unoffsetBy 0 = p := rfl
    rw [← String.utf8Len_append] at isPiece
    rw [behind] at next
    unfold String.splitOnAux
    simp only [inside, Bool.false_eq_true, if_false, first, step, ends, if_true, char, next, same,
      List.headD_cons, List.splitOnPPrepend_cons_eq_if]
    split
    next isSlash =>
      have back : (⟨String.utf8Len (before ++ piece ++ [c])⟩ : String.Pos.Raw).unoffsetBy ⟨1⟩ =
          ⟨String.utf8Len (before ++ piece)⟩ := by
        obtain rfl := eq_of_beq isSlash
        rw [← behind]
        rfl
      rw [back, isPiece]
      simpa using inductionHypothesis (before ++ piece ++ [c]) [] (.ofList piece :: found)
    next notSlash => simpa using inductionHypothesis before (piece ++ [c]) found

theorem splitOn_slash (path : String) :
    path.splitOn "/" = (path.toList.splitOn '/').map String.ofList := by
  have parts := splitOnAux_slash [] [] path.toList []
  rw [List.nil_append, List.nil_append, String.ofList_toList] at parts
  exact parts

theorem Route.ofPath_relative {path : String} {parts : List String}
    (isFile : path.toList.contains '\x00' = false ∧ path ≠ "" ∧ path.utf8ByteSize ≤ pathLimit ∧
      ((path.toList.splitOn '/').map String.ofList).filter (fun part => part ≠ "") = parts ∧
      isAbsolute path = false ∧ path.endsWith "/" = false) :
    Route.ofPath path = .ok ⟨false, parts, false⟩ := by
  obtain ⟨noNull, nonempty, short, split, relative, noSlash⟩ := isFile
  rw [Route.ofPath, splitOn_slash, split, relative, noSlash, noNull, if_neg Bool.false_ne_true,
    if_neg nonempty, if_neg (not_lt.mpr short)]

/-- What is added to a text without a separator goes to the last part of the text. -/
theorem exists_split_of_append (separator : Char) (chars : List Char) :
    ∃ front piece, ∀ name, separator ∉ name →
      (chars ++ name).splitOn separator = front ++ [piece ++ name] := by
  induction chars with
  | nil => exact ⟨[], [], fun name plain => List.splitOn_eq_singleton plain⟩
  | cons c rest inductionHypothesis =>
    obtain ⟨front, piece, split⟩ := inductionHypothesis
    by_cases isSeparator : c = separator
    · refine ⟨[] :: front, piece, fun name plain => ?_⟩
      rw [List.cons_append, List.splitOn_cons_eq_if_modifyHead, if_pos (by simpa using isSeparator),
        split name plain, List.cons_append]
    · cases front with
      | nil =>
        refine ⟨[], c :: piece, fun name plain => ?_⟩
        rw [List.cons_append, List.splitOn_cons_eq_if_modifyHead,
          if_neg (by simpa using isSeparator), split name plain]
        rfl
      | cons first others =>
        refine ⟨(c :: first) :: others, piece, fun name plain => ?_⟩
        rw [List.cons_append, List.splitOn_cons_eq_if_modifyHead,
          if_neg (by simpa using isSeparator), split name plain]
        rfl

/-- Whether a text is the last part of every path that it ends, and neither nothing nor dots. -/
structure IsFileName (name : String) : Prop where
  noSlash : '/' ∉ name.toList
  visible : ∃ c ∈ name.toList, c ≠ '.'

namespace IsFileName

variable {name : String} (isName : IsFileName name)

include isName

/-- Whatever stands before such a name, it is not made dots by it. -/
theorem append_ne {dots : String} (onlyDots : ∀ c ∈ dots.toList, c = '.') (piece : String) :
    piece ++ name ≠ dots := by
  obtain ⟨c, isChar, notDot⟩ := isName.visible
  rintro rfl
  refine notDot (onlyDots c ?_)
  rw [String.toList_append]
  exact List.mem_append_right _ isChar

theorem isAbsolute_append (start : String) : isAbsolute (start ++ name) = isAbsolute start := by
  have absolute (path : String) : isAbsolute path ↔ path.toList.head? = some '/' := by
    rw [isAbsolute, String.startsWith_string_iff]
    cases path.toList <;> simp [eq_comm]
  rw [Bool.eq_iff_iff, absolute, absolute, String.toList_append]
  cases start.toList with
  | cons c rest => rfl
  | nil =>
    rw [List.nil_append]
    refine ⟨fun isFirst => ?_, nofun⟩
    exact absurd (List.mem_of_head? isFirst) isName.noSlash

end IsFileName

/-- The paths of names in a directory differ in their last parts only, and these in the names. -/
theorem exists_route_of_joinPath (directory : String) :
    ∃ fromTop front piece, ∀ name route, IsFileName name →
      Route.ofPath (joinPath directory name) = .ok route →
        route.fromTop = fromTop ∧ route.parts = front ++ [piece ++ name] := by
  obtain ⟨start, joined⟩ : ∃ start, ∀ name, joinPath directory name = start ++ name := by
    unfold joinPath
    split
    · exact ⟨directory, fun _ => rfl⟩
    · exact ⟨directory ++ "/", fun _ => rfl⟩
  obtain ⟨front, piece, split⟩ := exists_split_of_append '/' start.toList
  refine ⟨isAbsolute start, (front.map String.ofList).filter fun part => part ≠ "", .ofList piece,
    fun name route isName isRoute => ?_⟩
  rw [joined] at isRoute
  have parts : (start ++ name).splitOn "/" =
      front.map String.ofList ++ [.ofList piece ++ name] := by
    rw [splitOn_slash, String.toList_append, split _ isName.noSlash, List.map_append,
      List.map_singleton, String.ofList_append, String.ofList_toList]
  have notEmpty : String.ofList piece ++ name ≠ "" := isName.append_ne (by simp) _
  unfold Route.ofPath at isRoute
  rw [parts] at isRoute
  split at isRoute
  next => cases isRoute
  next =>
    split at isRoute
    next => cases isRoute
    next =>
      split at isRoute
      next => cases isRoute
      next =>
        cases isRoute
        refine ⟨isName.isAbsolute_append start, ?_⟩
        simp [List.filter_append, notEmpty]

/-! ## Trees -/

/-- What is put under a name leaves what is under another. -/
theorem Node.at?_put_of_ne {names : List String} {node : Node} {name other : String}
    (different : other ≠ name) (new : Node) :
    (Node.put new (names ++ [name]) node).at? (names ++ [other]) = node.at? (names ++ [other]) := by
  induction names generalizing node with
  | nil =>
    cases node with
    | file content => rfl
    | directory entries =>
      simp only [List.nil_append, Node.put, Node.at?]
      rw [Dictionary.lookup_update_of_ne _ different]
  | cons first rest inductionHypothesis =>
    cases node with
    | file content => rfl
    | directory entries =>
      rw [List.cons_append, List.cons_append, Node.put, Node.at?, Node.at?,
        Dictionary.lookup_update_self, Option.bind_some, inductionHypothesis]
      cases entries.lookup first with
      | some child => rfl
      | none =>
        cases rest <;> rfl

namespace Files

variable {files after : Files} {path : String}

theorem node_eq_file {content : Content} :
    files.node path = .ok (.file content) ↔
      ∃ route names, Route.ofPath path = .ok route ∧
        files.follow (files.start route) route.parts = .ok names ∧
        files.top.at? names = some (.file content) ∧ route.endsInSlash = false := by
  unfold node
  simp only [bind_eq_ok]
  refine exists_congr fun route => ?_
  constructor
  · rintro ⟨isRoute, names, leads, found⟩
    refine ⟨names, isRoute, leads, ?_⟩
    split at found
    next => cases found
    next isAt =>
      split at found
      next => cases found
      next noSlash =>
        cases found
        exact ⟨isAt, eq_false_of_ne_true noSlash⟩
    next notFile isAt =>
      cases found
      exact absurd rfl (notFile content)
  · rintro ⟨names, isRoute, leads, isAt, noSlash⟩
    refine ⟨isRoute, names, leads, ?_⟩
    simp only [isAt, noSlash]
    rfl

theorem readText_eq_ok {text : String} :
    files.readText path = .ok text ↔ files.node path = .ok (.file (.text text)) := by
  unfold readText
  split <;> simp_all

/-- Writing a file leaves the others in its directory as they are. -/
theorem readText_of_write_beside {directory name other text content : String}
    (isName : IsFileName name) (isOther : IsFileName other) (different : other ≠ name)
    (written : files.writeText (joinPath directory name) text = .ok after)
    (held : files.readText (joinPath directory other) = .ok content) :
    after.readText (joinPath directory other) = .ok content := by
  obtain ⟨fromTop, front, piece, paths⟩ := exists_route_of_joinPath directory
  have grew := grew_of_write written
  obtain ⟨route, above, last, isRoute, isEntry, -, -, -, rfl⟩ := write_eq_ok.mp written
  obtain ⟨otherRoute, names, isOtherRoute, leads, isAt, noSlash⟩ :=
    node_eq_file.mp (readText_eq_ok.mp held)
  obtain ⟨start, parts⟩ := paths name route isName isRoute
  obtain ⟨otherStart, otherParts⟩ := paths other otherRoute isOther isOtherRoute
  obtain ⟨way, entries, sameParts, leadsAbove, isDirectory, -, -⟩ := entry_eq_some.mp isEntry
  obtain ⟨rfl, lastName⟩ := List.append_inj' (parts.symm.trans sameParts) rfl
  obtain rfl := List.singleton_inj.mp lastName
  have sameStart : files.start otherRoute = files.start route := by
    simp only [Files.start, start, otherStart]
  have isThere : names = above ++ [piece ++ other] := by
    rw [otherParts, follow_append, sameStart] at leads
    obtain ⟨there, leadsThere, last⟩ := bind_eq_ok.mp leads
    rw [leadsAbove] at leadsThere
    cases leadsThere
    obtain ⟨_, -, isHere | ⟨-, isAbove, -⟩ | ⟨-, -, -, -, result⟩⟩ := follow_singleton_eq_ok.mp last
    · exact absurd isHere.1 (isOther.append_ne (by simp) piece)
    · exact absurd isAbove (isOther.append_ne (by simp) piece)
    · exact result
  refine readText_eq_ok.mpr (node_eq_file.mpr ⟨otherRoute, names, isOtherRoute, ?_, ?_, noSlash⟩)
  · rw [grew.start]
    exact follow_of_grows grew.top leads
  · have otherName : piece ++ other ≠ piece ++ name := by
      rw [Ne, String.append_right_inj]
      exact different
    rw [isThere] at isAt ⊢
    exact (Node.at?_put_of_ne otherName _).trans isAt

end Files

end ConfigBinding
