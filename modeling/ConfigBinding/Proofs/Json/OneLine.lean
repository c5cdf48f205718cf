import ConfigBinding.Proofs.Json.Reading

/-!
# JSON in one line

A value that is printed in one line has the same tokens as one that is printed over several, so it
is read back in the same way. In one line nothing stands between two tokens, and only a number has
to be told from what follows it.

* `Json.Each.isSpelledInLine`: a value in one line is scanned as its tokens;
* `readText_compact`: what is read from it.
-/

namespace ConfigBinding

namespace Json

/-- Whether a value in one line is scanned as its tokens, before what ends a number. -/
def IsSpelledInLine (json : Json) : Prop :=
  ∀ {rest : List Char}, Delimited rest → SpellsBefore json.compact.toList json.tokens rest

/-- A comma or a bracket ends a number, whatever stands after it. -/
theorem delimited_mark {mark : Char} (isMark : mark = ',' ∨ mark = ']' ∨ mark = '\x7d')
    (more rest : List Char) : Delimited ([mark] ++ more ++ rest) := by
  obtain rfl | rfl | rfl := isMark <;> rintro c ⟨⟩ <;> decide

/-- Items in one line: the first as its own tokens, each later one after a comma. -/
theorem spellsBefore_compactItems {item : Json} {more : List Json}
    (each : ∀ inner ∈ item :: more, inner.IsSpelledInLine) {rest : List Char}
    (delimited : Delimited rest) :
    SpellsBefore (compactItems (item :: more)).toList (item.tokens ++ itemTokens more) rest := by
  induction more generalizing item with
  | nil =>
    simp only [itemTokens, List.append_nil, compactItems]
    exact each item List.mem_cons_self delimited
  | cons next more inductionHypothesis =>
    obtain ⟨firstSpelled, moreSpelled⟩ := List.forall_mem_cons.mp each
    have later := inductionHypothesis moreSpelled
    -- The comma after the first item ends it, should it be a number.
    have first := firstSpelled (delimited_mark (.inl rfl) (compactItems (next :: more)).toList rest)
    have text : (compactItems (item :: next :: more)).toList =
        item.compact.toList ++ ([','] ++ (compactItems (next :: more)).toList) := by
      simp only [compactItems, String.toList_append, List.append_assoc]
      rfl
    rw [text]
    exact first.append (Spells.comma.before later)

theorem spellsBefore_compactMember (name : String) {value : Json}
    (isSpelled : value.IsSpelledInLine) {rest : List Char} (delimited : Delimited rest) :
    SpellsBefore ((jsonString name).toList ++ ([':'] ++ value.compact.toList))
      (.scalar (.string (.ok name)) :: .colon :: value.tokens) rest :=
  (spells_jsonString name).before (Spells.colon.before (isSpelled delimited))

/-- Members in one line, as items. -/
theorem spellsBefore_compactMembers {name : String} {value : Json} {more : List (String × Json)}
    (each : ∀ member ∈ (name, value) :: more, member.2.IsSpelledInLine) {rest : List Char}
    (delimited : Delimited rest) :
    SpellsBefore (compactMembers ((name, value) :: more)).toList
      (.scalar (.string (.ok name)) :: .colon :: value.tokens ++ memberTokens more) rest := by
  induction more generalizing name value with
  | nil =>
    have text : (compactMembers [(name, value)]).toList =
        (jsonString name).toList ++ ([':'] ++ value.compact.toList) := by
      simp only [compactMembers, String.toList_append, List.append_assoc]
      rfl
    rw [text, memberTokens, List.append_nil]
    exact spellsBefore_compactMember name (each (name, value) List.mem_cons_self) delimited
  | cons next more inductionHypothesis =>
    obtain ⟨nextName, nextValue⟩ := next
    obtain ⟨firstSpelled, moreSpelled⟩ := List.forall_mem_cons.mp each
    have later := inductionHypothesis moreSpelled
    have first := spellsBefore_compactMember name firstSpelled
      (delimited_mark (.inl rfl) (compactMembers ((nextName, nextValue) :: more)).toList rest)
    have text : (compactMembers ((name, value) :: (nextName, nextValue) :: more)).toList =
        ((jsonString name).toList ++ ([':'] ++ value.compact.toList)) ++
          ([','] ++ (compactMembers ((nextName, nextValue) :: more)).toList) := by
      simp only [compactMembers, String.toList_append, List.append_assoc]
      rfl
    rw [text, memberTokens]
    exact first.append (Spells.comma.before later)

theorem isSpelledInLine_array {items : List Json} (each : ∀ item ∈ items, item.IsSpelledInLine) :
    (Json.array items).IsSpelledInLine := by
  intro rest delimited
  have text : (compact (.array items)).toList =
      ['['] ++ ((compactItems items).toList ++ [']']) := by
    simp only [compact, String.toList_append, List.append_assoc]
    rfl
  rw [text]
  cases items with
  | nil => exact Spells.openList.append Spells.closeList rest
  | cons item more =>
    have inside := spellsBefore_compactItems each (delimited_mark (.inr (.inl rfl)) [] rest)
    exact Spells.openList.before (inside.append (Spells.closeList rest))

theorem isSpelledInLine_object {members : List (String × Json)}
    (each : ∀ member ∈ members, member.2.IsSpelledInLine) :
    (Json.object members).IsSpelledInLine := by
  intro rest delimited
  have text : (compact (.object members)).toList =
      ['\x7b'] ++ ((compactMembers members).toList ++ ['\x7d']) := by
    simp only [compact, String.toList_append, List.append_assoc]
    rfl
  rw [text]
  cases members with
  | nil => exact Spells.openObject.append Spells.closeObject rest
  | cons member more =>
    have inside := spellsBefore_compactMembers each (delimited_mark (.inr (.inr rfl)) [] rest)
    exact Spells.openObject.before (inside.append (Spells.closeObject rest))

/-- A value whose numbers read back is scanned as its tokens when it is printed in one line. -/
theorem Each.isSpelledInLine {json : Json} (readBack : json.Each Number.ReadsBack) :
    json.IsSpelledInLine := by
  induction readBack with
  | null => exact fun _ => spells_null _
  | bool value =>
    intro rest delimited
    cases value with
    | true => exact spells_true rest
    | false => exact spells_false rest
  | number readsBack => exact readsBack.spellsBefore
  | string value => exact fun {rest} _ => spells_jsonString value rest
  | array _ inductionHypothesis => exact isSpelledInLine_array inductionHypothesis
  | object _ inductionHypothesis => exact isSpelledInLine_object inductionHypothesis

end Json

/-- A value in one line is read as the value that it is. -/
theorem readText_compact {α : Type} {read : Cursor → Except Fault α} {json : Json} {value : α}
    (readBack : json.Each Number.ReadsBack)
    (isRead : ∀ cursor : Cursor, cursor.Holds levelLimit json → read cursor = .ok value) :
    readText read json.compact = .ok value := by
  have delimited : Delimited [] := nofun
  obtain ⟨tree, holds, isTree⟩ := Tree.ofText_of_spelled (readBack.isSpelledInLine delimited)
  rw [readText, isTree]
  exact isRead _ ⟨holds, rfl⟩

end ConfigBinding
