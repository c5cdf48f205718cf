import ConfigBinding.Proofs.Binding.Reopening
import ConfigBinding.Proofs.Json.Closing

/-!
# What is read of a text

A reader of lists or objects is satisfied with the first value of a text. A document is what this
value holds, and whatever comes after it goes unnoticed, be it another document; a store is only
read from a text that holds nothing else.

* `ReadsClosed`: readers that accept nothing but closed lists and objects; those of records and
  dictionaries do;
* `IsFirstValue`: the shortest text that a reader accepts, whatever follows it;
* `readText_first`: every text that is read begins with such a value, and nothing but white space
  comes after it when the reader insists on the whole text;
* `document_is_its_first_value`, `store_is_its_whole_text`: documents and stores.
-/

namespace ConfigBinding

variable {α : Type}

/-! ## Readers -/

/-- Whether a reader accepts nothing but lists and objects that end with their closing bracket. -/
def ReadsClosed (read : Cursor → Except Fault α) : Prop :=
  ∀ {cursor value}, read cursor = .ok value → cursor.tree.IsClosed

/-- A list is closed if its end is no defect, be it that an item or the bracket is looked for. -/
theorem ListEnd.isClosed_of_defect {close : ListEnd}
    (isClosed : close.itemDefect = none ∨ close.closeDefect = none) : close.IsClosed := by
  cases close with
  | closed => trivial
  | trailingComma | endAfterComma | unseparated | unfinished =>
    obtain noItem | noClose := isClosed
    · cases noItem
    · cases noClose

theorem ObjectEnd.isClosed_of_keyDefect {close : ObjectEnd} (isClosed : close.keyDefect = none) :
    close.IsClosed := by
  cases close with
  | closed => trivial
  | trailingComma | endAfterComma | unseparated | unfinished => cases isClosed
  | noKey found =>
    simp only [keyDefect] at isClosed
    repeat' split at isClosed
    all_goals cases isClosed

namespace Cursor

theorem isClosed_of_arrangeItems {levels index : Nat} : (names : List String) → (all : Items) →
    (arrangeItems levels index names all).2.1 = none → all.IsClosed
  | [], .nil _, unbroken => ListEnd.isClosed_of_defect (.inr (Option.map_eq_none_iff.mp unbroken))
  | _ :: _, .nil _, unbroken =>
    ListEnd.isClosed_of_defect (.inl (Option.map_eq_none_iff.mp unbroken))
  | [], .cons _ _ _, unbroken => nomatch unbroken
  | _ :: names, .cons _ _ tail, unbroken => isClosed_of_arrangeItems names tail unbroken

theorem isClosed_of_arrangeMembers {names seen : List String} {levels rank : Nat} :
    (all : Members) → (arrangeMembers names levels seen rank all).2.1 = none → all.IsClosed
  | .nil _, unbroken => ObjectEnd.isClosed_of_keyDefect (Option.map_eq_none_iff.mp unbroken)
  | .unvalued _ _, unbroken => nomatch unbroken
  | .cons key value settled tail, unbroken => by
    rw [arrangeMembers] at unbroken
    split at unbroken
    next => cases unbroken
    next =>
      split at unbroken
      next => cases unbroken
      next =>
        split at unbroken
        next => exact isClosed_of_arrangeMembers tail unbroken
        next =>
          split at unbroken
          next => exact isClosed_of_arrangeMembers tail unbroken
          next => cases unbroken

theorem isClosed_of_members {read : Cursor → Except Fault α} {levels : Nat}
    {entries : List (String × α)} :
    (all : Members) → members read levels all = .ok entries → all.IsClosed
  | .nil close, found => by
    rw [members] at found
    split at found
    next isClosed => exact ObjectEnd.isClosed_of_keyDefect isClosed
    next => cases found
  | .unvalued key _, found => by
    rw [members] at found
    split at found <;> cases found
  | .cons key value settled tail, found => by
    obtain ⟨name, -, found⟩ := bind_eq_ok.mp found
    obtain ⟨first, -, found⟩ := bind_eq_ok.mp found
    obtain ⟨rest, isRest, -⟩ := bind_eq_ok.mp found
    exact isClosed_of_members tail isRest

end Cursor

/-- A record is read to its end, even if no field in it is known. -/
theorem readsClosed_record (what : String) (fields : Record Cursor Fault α) :
    ReadsClosed (Source.record what fields) := by
  rintro ⟨tree, levels, step, settled⟩ value isRead
  obtain ⟨arranged, isArranged, unbroken, -⟩ := Source.record_eq_ok.mp isRead
  cases tree with
  | object start all =>
    obtain ⟨inner, -, isArranged⟩ := bind_eq_ok.mp isArranged
    cases isArranged
    exact Cursor.isClosed_of_arrangeMembers all unbroken
  | array start all =>
    obtain ⟨inner, -, isArranged⟩ := bind_eq_ok.mp isArranged
    cases isArranged
    exact Cursor.isClosed_of_arrangeItems fields.names all unbroken
  | scalar | broken => cases isArranged

theorem readsClosed_dictionary (read : Cursor → Except Fault α) :
    ReadsClosed (Cursor.dictionary read) := by
  rintro ⟨tree, levels, step, settled⟩ value isRead
  cases tree with
  | object start all =>
    obtain ⟨inner, -, isMembers⟩ := bind_eq_ok.mp isRead
    exact Cursor.isClosed_of_members all isMembers
  | array | scalar | broken => cases isRead

/-! ## First values -/

/-- Whether a text is the shortest that a reader accepts, with this result, and it does so whatever
    the text goes on with. -/
structure IsFirstValue (read : Cursor → Except Fault α) (value : String) (result : α) : Prop where
  accepted : ∀ tail, readText read (value ++ tail) = .ok result
  shortest : ∀ {shorter more}, value = shorter ++ more → more ≠ "" →
    ∀ other, readText read shorter ≠ .ok other

theorem readWholeText_eq_ok {read : Cursor → Except Fault α} {text : String} {result : α} :
    readWholeText read text = .ok result ↔
      readText read text = .ok result ∧ (Tree.ofText text).2 = [] := by
  rw [readWholeText, readText]
  dsimp only
  cases read ⟨(Tree.ofText text).1, levelLimit, none, none⟩ with
  | error fault =>
    constructor
    · intro found
      cases found
    · rintro ⟨found, -⟩
      cases found
  | ok value =>
    dsimp only [Bind.bind, Except.bind]
    cases (Tree.ofText text).2 with
    | nil => exact (and_iff_left rfl).symm
    | cons lexeme rest =>
      constructor
      · intro found
        cases found
      · rintro ⟨-, nothingLeft⟩
        cases nothingLeft

/-- A text that is read begins with a first value, which alone is read. The whole text is accepted
    exactly if nothing but white space follows. -/
theorem readText_first {read : Cursor → Except Fault α} (readsClosed : ReadsClosed read)
    {text : String} {result : α} (isRead : readText read text = .ok result) :
    ∃ value rest, text = value ++ rest ∧ IsFirstValue read value result ∧
      (readWholeText read text = .ok result ↔ ∀ c ∈ rest.toList, IsSpacing c) := by
  obtain ⟨value, rest, later, rfl, ⟨c, isLast, isClosing⟩, alike⟩ :=
    Tree.exists_of_isClosed rfl (readsClosed isRead)
  have accepted (tail : String) : readText read (value ++ tail) = .ok result := by
    rw [readText, alike]
    exact isRead
  refine ⟨value, rest, rfl, ⟨accepted, ?_⟩, ?_⟩
  · rintro shorter more rfl nonempty other isOther
    -- What follows the shorter value would be white space up to the bracket that ends the longer.
    obtain ⟨first, between, start, rfl, -, onward⟩ :=
      Tree.exists_of_isClosed rfl (readsClosed isOther)
    have whole := alike ""
    rw [String.append_empty, String.append_assoc, onward] at whole
    have isBlank := Scan.lexemes_blank_eq_nil.mp (Prod.mk.inj whole).2
    have isIn : c ∈ (between ++ more).toList := by
      have atEnd : more.toList.getLast? = some c := by
        rw [String.toList_append] at isLast
        rwa [List.getLast?_append_of_ne_nil _ (String.toList_eq_nil_iff.not.mpr nonempty)] at isLast
      rw [String.toList_append]
      exact List.mem_append_right _ (List.mem_of_getLast? atEnd)
    exact isClosing.not_isSpacing (isBlank c isIn)
  · rw [readWholeText_eq_ok, and_iff_right isRead, alike, Scan.lexemes_blank_eq_nil]

/-! ## Documents and stores -/

theorem Document.ofText_eq_ok {path text : String} {document : Document} :
    Document.ofText path text = .ok document ↔ readText Document.read text = .ok document :=
  mapError_eq_ok

/-- A text that is accepted as a document begins with a first value, the shortest such text, and the
    document is that of this value alone. It is read in the same way from every text that begins
    with this value, also from files; only white space would come after it if documents had to be
    the whole text. -/
theorem document_is_its_first_value {path text : String} {document : Document}
    (isRead : Document.ofText path text = .ok document) :
    ∃ value rest, text = value ++ rest ∧
      (∀ shorter more, value = shorter ++ more → more ≠ "" →
        ∀ other, Document.ofText path shorter ≠ .ok other) ∧
      (∀ tail, Document.ofText path (value ++ tail) = .ok document ∧
        ∀ file files, Files.readText files file = .ok (value ++ tail) →
          Document.load file files = .ok document) ∧
      (readWholeText Document.read text = .ok document ↔ ∀ c ∈ rest.toList, IsSpacing c) := by
  obtain ⟨value, rest, split, isFirst, whole⟩ :=
    readText_first (readsClosed_record _ _) (Document.ofText_eq_ok.mp isRead)
  refine ⟨value, rest, split, ?_, fun tail => ⟨?_, fun file files isText => ?_⟩, whole⟩
  · intro shorter more isLonger nonempty other isOther
    exact isFirst.shortest isLonger nonempty other (Document.ofText_eq_ok.mp isOther)
  · exact Document.ofText_eq_ok.mpr (isFirst.accepted tail)
  · simp only [Document.load, isText]
    exact Document.ofText_eq_ok.mpr (isFirst.accepted tail)

/-- A text that is read as a store is its first value and white space. -/
theorem store_is_its_whole_text {text : String} {categories : List (String × StoreCategory)}
    (isRead : Store.readCategories text = .ok categories) :
    ∃ value rest entries, text = value ++ rest ∧
      IsFirstValue (Cursor.dictionary StoreCategory.readJson) value entries ∧
      categories = Dictionary.ofList entries ∧ ∀ c ∈ rest.toList, IsSpacing c := by
  obtain ⟨entries, isWhole, rfl⟩ := map_eq_ok.mp isRead
  obtain ⟨value, rest, split, isFirst, whole⟩ :=
    readText_first (readsClosed_dictionary _) (readWholeText_eq_ok.mp isWhole).1
  exact ⟨value, rest, entries, split, isFirst, rfl, whole.mp isWhole⟩

/-! ## A text to look at -/

/-- A document that is all of its text. -/
theorem raceDocument_is_its_first_value :
    Document.ofText "race.json" raceText = .ok raceDocument ∧ raceDocument.roots ≠ [] ∧
      ∃ value rest, raceText = value ++ rest ∧
        (∀ shorter more, value = shorter ++ more → more ≠ "" →
          ∀ other, Document.ofText "race.json" shorter ≠ .ok other) ∧
        (∀ tail, Document.ofText "race.json" (value ++ tail) = .ok raceDocument ∧
          ∀ file files, Files.readText files file = .ok (value ++ tail) →
            Document.load file files = .ok raceDocument) ∧
        (readWholeText Document.read raceText = .ok raceDocument ↔
          ∀ c ∈ rest.toList, IsSpacing c) :=
  ⟨raceDocument_isRead, raceDocument_roots, document_is_its_first_value raceDocument_isRead⟩

theorem raceText_head : raceText.toList.head? = some '[' := by decide +kernel

/-- What follows an empty object is scanned for itself. -/
theorem Tree.ofText_emptyObject (tail : String) :
    Tree.ofText ("\x7b\x7d" ++ tail) =
      (.object 0 (.nil (.closed 2)), Scan.blank.lexemes 2 tail.toList) := by
  rw [Tree.ofText, Lexeme.ofText, String.toList_append]
  rfl

/-- The first of two documents is accepted for both, so the root of the second is lost. The same
    text is refused as a store. -/
theorem second_document_is_lost :
    Document.ofText "two.json" ("\x7b\x7d" ++ raceText) = .ok ⟨[]⟩ ∧
      readWholeText Document.read "\x7b\x7d" = .ok (⟨[]⟩ : Document) ∧
      raceText.toList.head? = some '[' ∧ ¬ IsSpacing '[' ∧
      Document.ofText "race.json" raceText = .ok raceDocument ∧ raceDocument.roots ≠ [] ∧
      Store.readCategories ("\x7b\x7d" ++ raceText) = .error (.ofDefect ⟨.trailingText, 3⟩) := by
  refine ⟨?_, rfl, raceText_head, by simp [IsSpacing], raceDocument_isRead, raceDocument_roots, ?_⟩
  · rw [Document.ofText_eq_ok, readText, Tree.ofText_emptyObject]
    rfl
  · obtain ⟨more, isRace⟩ := List.head?_eq_some_iff.mp raceText_head
    rw [Store.readCategories, readWholeText, Tree.ofText_emptyObject, isRace]
    rfl

end ConfigBinding
