import ConfigBinding.Proofs.Json.NumberText

/-!
# Printed JSON is scanned as its tokens

What the text of a JSON value is scanned as, over several lines with its escapes and its spaces.

* `spells_jsonString`: a printed string is scanned as the string;
* `Json.tokens`: the tokens of a JSON value;
* `Json.Each.isSpelled`: a printed value is scanned as its tokens.
-/

namespace ConfigBinding

/-! ## Strings -/

namespace StringScan

def ofContent (start : Nat) (content : List Char) : StringScan :=
  ⟨start, .plain, content, none, none⟩

theorem reaches_plain (start : Nat) (content : List Char) {c : Char} (notQuote : c ≠ '\x22')
    (notBackslash : c ≠ '\\') (noControl : ¬ c.toNat < 0x20) :
    Scan.Reaches [c] (.string (ofContent start content))
      (.string (ofContent start (c :: content))) :=
  .single fun offset => by
    simp [Scan.next, StringScan.next, ofContent, notQuote, notBackslash, noControl]

theorem reaches_escape (start : Nat) (content : List Char) {letter c : Char}
    (notUnit : letter ≠ 'u') (escapes : unescape? letter = some c) :
    Scan.Reaches ['\\', letter] (.string (ofContent start content))
      (.string (ofContent start (c :: content))) := by
  have escaping : ∀ offset, (Scan.string (ofContent start content)).next offset '\\' =
      ([], .string { ofContent start content with phase := .escape }) := fun _ => rfl
  refine .cons escaping (.single fun offset => ?_)
  simp [Scan.next, StringScan.next, ofContent, notUnit, escapes]

theorem hexValue?_digitChar {n : Nat} (small : n < 16) :
    hexValue? (Nat.digitChar n) = some n ∧ (Nat.digitChar n).utf8Size = 1 := by
  interval_cases n <;> decide

theorem reaches_unit (start : Nat) (content : List Char) {n : Nat} (control : n < 0x20) :
    Scan.Reaches ['\\', 'u', '0', '0', Nat.digitChar (n / 16), Nat.digitChar (n % 16)]
      (.string (ofContent start content))
      (.string (ofContent start (Char.ofNat n :: content))) := by
  intro offset rest
  refine ⟨offset + 6, ?_⟩
  obtain ⟨high, highSize⟩ := hexValue?_digitChar (n := n / 16) (by omega)
  obtain ⟨low, lowSize⟩ := hexValue?_digitChar (n := n % 16) (by omega)
  have value : n / 16 * 16 + n % 16 = n := by omega
  have noPair : ¬ (0xd800 ≤ n ∧ n ≤ 0xdbff) ∧ ¬ (0xdc00 ≤ n ∧ n ≤ 0xdfff) := by omega
  have zero : hexValue? '0' = some 0 := rfl
  have size : '\\'.utf8Size = 1 ∧ 'u'.utf8Size = 1 ∧ '0'.utf8Size = 1 := ⟨rfl, rfl, rfl⟩
  simp [Scan.lexemes_cons, Scan.next, StringScan.next, ofContent, addUnit, size, zero, high, low,
    highSize, lowSize, value, noPair, Nat.add_assoc]

theorem reaches_escapedChar (start : Nat) (content : List Char) (c : Char) :
    Scan.Reaches (escapedChar c) (.string (ofContent start content))
      (.string (ofContent start (c :: content))) := by
  have escaped : ∀ {letter special : Char}, (c == special) = true → letter ≠ 'u' →
      unescape? letter = some special →
        Scan.Reaches ['\\', letter] (.string (ofContent start content))
          (.string (ofContent start (c :: content))) := by
    intro letter special same notUnit escapes
    rw [beq_iff_eq.mp same]
    exact reaches_escape start content notUnit escapes
  rw [escapedChar]
  split
  next same => exact escaped same (by decide) rfl
  next notQuote =>
  split
  next same => exact escaped same (by decide) rfl
  next notBackslash =>
  split
  next same => exact escaped same (by decide) rfl
  next =>
  split
  next same => exact escaped same (by decide) rfl
  next =>
  split
  next same => exact escaped same (by decide) rfl
  next =>
  split
  next same => exact escaped same (by decide) rfl
  next =>
  split
  next same => exact escaped same (by decide) rfl
  next =>
  split
  next control =>
    have unit := reaches_unit start content control
    rwa [Char.ofNat_toNat] at unit
  next noControl =>
    rw [beq_iff_eq] at notQuote notBackslash
    exact reaches_plain start content notQuote notBackslash noControl

theorem reaches_content (start : Nat) (content chars : List Char) :
    Scan.Reaches (chars.flatMap escapedChar) (.string (ofContent start content))
      (.string (ofContent start (chars.reverse ++ content))) := by
  induction chars generalizing content with
  | nil => exact .refl _
  | cons c rest inductionHypothesis =>
    rw [List.flatMap_cons, List.reverse_cons, List.append_assoc]
    exact (reaches_escapedChar start content c).trans (inductionHypothesis (c :: content))

end StringScan

/-- A printed string is scanned as the string. -/
theorem spells_jsonString (s : String) :
    Spells (jsonString s).toList [.scalar (.string (.ok s))] := by
  intro rest offset
  obtain ⟨later, reached⟩ := StringScan.reaches_content offset [] s.toList
    (offset + '\x22'.utf8Size) ('\x22' :: rest)
  have opened : Scan.blank.next offset '\x22' = ([], .string (StringScan.ofContent offset [])) :=
    rfl
  have closed : ∀ content, Scan.next (.string (StringScan.ofContent offset content)) later '\x22' =
      ([(StringScan.ofContent offset content).lexeme (later + 1)], .blank) := fun _ => rfl
  refine ⟨later + '\x22'.utf8Size, ?_⟩
  rw [tokensFrom, jsonString, String.toList_ofList, List.cons_append, List.cons_append,
    Scan.lexemes_cons, opened, List.append_assoc, List.singleton_append, List.nil_append, reached,
    Scan.lexemes_cons, closed]
  simp [StringScan.lexeme, StringScan.ofContent, tokensFrom]

/-! ## Words -/

theorem spells_null : Spells "null".toList [.scalar .null] := fun _ _ => ⟨_, rfl⟩

theorem spells_true : Spells "true".toList [.scalar (.bool true)] := fun _ _ => ⟨_, rfl⟩

theorem spells_false : Spells "false".toList [.scalar (.bool false)] := fun _ _ => ⟨_, rfl⟩

/-! ## Values -/

namespace Json

mutual

def tokens : Json → List Token
  | .null => [.scalar .null]
  | .bool value => [.scalar (.bool value)]
  | .number value => [.scalar (.number (.ok value))]
  | .string value => [.scalar (.string (.ok value))]
  | .array [] => [.openList, .closeList]
  | .array (item :: rest) => .openList :: ((item.tokens ++ itemTokens rest) ++ [.closeList])
  | .object [] => [.openObject, .closeObject]
  | .object ((name, value) :: rest) =>
    .openObject :: ((.scalar (.string (.ok name)) :: .colon :: value.tokens ++ memberTokens rest) ++
      [.closeObject])

/-- The tokens of the items after the first. -/
def itemTokens : List Json → List Token
  | [] => []
  | item :: rest => .comma :: (item.tokens ++ itemTokens rest)

/-- The tokens of the members after the first. -/
def memberTokens : List (String × Json) → List Token
  | [] => []
  | (name, value) :: rest =>
    .comma :: .scalar (.string (.ok name)) :: .colon :: (value.tokens ++ memberTokens rest)

end

theorem toList_newLine (level : Nat) :
    (newLine level).toList = '\n' :: List.replicate (2 * level) ' ' := by
  simp only [newLine, String.toList_append, String.toList_ofList]
  rfl

theorem spells_newLine (level : Nat) : Spells (newLine level).toList [] := by
  rw [toList_newLine]
  exact Spells.newline.append (Spells.spaces _)

theorem delimited_newLine (level : Nat) (rest : List Char) :
    Delimited ((newLine level).toList ++ rest) := by
  rw [newLine, String.toList_append]
  rintro c ⟨⟩
  decide

theorem delimited_comma (rest : List Char) : Delimited (',' :: rest) := by
  rintro c ⟨⟩
  decide

theorem delimited_prettyItems (level : Nat) (items : List Json) {rest : List Char}
    (delimited : Delimited rest) : Delimited ((prettyItems level items).toList ++ rest) := by
  cases items with
  | nil => exact delimited
  | cons item more =>
    simp only [prettyItems, String.toList_append, List.append_assoc]
    exact delimited_comma _

theorem delimited_prettyMembers (level : Nat) (members : List (String × Json)) {rest : List Char}
    (delimited : Delimited rest) : Delimited ((prettyMembers level members).toList ++ rest) := by
  cases members with
  | nil => exact delimited
  | cons member more =>
    simp only [prettyMembers, String.toList_append, List.append_assoc]
    exact delimited_comma _

/-- Whether a value is scanned as its tokens when it is printed at any level, before what ends a
    number. -/
def IsSpelled (json : Json) : Prop :=
  ∀ level {rest : List Char}, Delimited rest →
    SpellsBefore (json.prettyAt level).toList json.tokens rest

theorem spellsBefore_prettyItems (level : Nat) {items : List Json}
    (each : ∀ item ∈ items, item.IsSpelled) {rest : List Char} (delimited : Delimited rest) :
    SpellsBefore (prettyItems level items).toList (itemTokens items) rest := by
  induction items with
  | nil => exact Spells.nil rest
  | cons item more inductionHypothesis =>
    have later := inductionHypothesis fun item member => each item (List.mem_cons_of_mem _ member)
    have first := each item (List.mem_cons_self ..) level
      (delimited_prettyItems level more delimited)
    have text : (prettyItems level (item :: more)).toList =
        [','] ++ ((newLine level).toList ++
          ((item.prettyAt level).toList ++ (prettyItems level more).toList)) := by
      simp only [prettyItems, String.toList_append, List.append_assoc]
      rfl
    rw [text]
    exact Spells.comma.before ((spells_newLine level).before (first.append later))

theorem spellsBefore_member (name : String) (level : Nat) {value : Json}
    (isSpelled : value.IsSpelled) {rest : List Char} (delimited : Delimited rest) :
    SpellsBefore ((jsonString name).toList ++ (": ".toList ++ (value.prettyAt level).toList))
      (.scalar (.string (.ok name)) :: .colon :: value.tokens) rest :=
  (spells_jsonString name).before
    ((Spells.colon.append Spells.space).before (isSpelled level delimited))

theorem spellsBefore_prettyMembers (level : Nat) {members : List (String × Json)}
    (each : ∀ member ∈ members, member.2.IsSpelled) {rest : List Char}
    (delimited : Delimited rest) :
    SpellsBefore (prettyMembers level members).toList (memberTokens members) rest := by
  induction members with
  | nil => exact Spells.nil rest
  | cons member more inductionHypothesis =>
    obtain ⟨name, value⟩ := member
    have later := inductionHypothesis fun member isMember =>
      each member (List.mem_cons_of_mem _ isMember)
    have first := spellsBefore_member name level (each (name, value) (List.mem_cons_self ..))
      (delimited_prettyMembers level more delimited)
    have text : (prettyMembers level ((name, value) :: more)).toList =
        [','] ++ ((newLine level).toList ++
          (((jsonString name).toList ++ (": ".toList ++ (value.prettyAt level).toList)) ++
            (prettyMembers level more).toList)) := by
      simp only [prettyMembers, String.toList_append, List.append_assoc]
      rfl
    rw [text]
    exact Spells.comma.before ((spells_newLine level).before (first.append later))

/-- What stands between brackets on lines of its own. -/
theorem spellsBefore_brackets (level : Nat) {opening closing : Char} {first last : Token}
    (opens : Spells [opening] [first]) (closes : Spells [closing] [last]) {chars : List Char}
    {tokens : List Token} {rest : List Char}
    (inside : SpellsBefore chars tokens ((newLine level).toList ++ [closing] ++ rest)) :
    SpellsBefore
      ([opening] ++
        ((newLine (level + 1)).toList ++ (chars ++ ((newLine level).toList ++ [closing]))))
      (first :: (tokens ++ [last])) rest :=
  opens.before ((spells_newLine (level + 1)).before
    (inside.append ((spells_newLine level).append closes rest)))

theorem isSpelled_array {items : List Json} (each : ∀ item ∈ items, item.IsSpelled) :
    (Json.array items).IsSpelled := by
  intro level rest delimited
  cases items with
  | nil =>
    rw [prettyAt, tokens]
    exact Spells.openList.append Spells.closeList rest
  | cons item more =>
    obtain ⟨firstSpelled, moreSpelled⟩ := List.forall_mem_cons.mp each
    have apart : Delimited ((newLine level).toList ++ [']'] ++ rest) := by
      rw [List.append_assoc]
      exact delimited_newLine level _
    have others := spellsBefore_prettyItems (level + 1) moreSpelled apart
    have first := firstSpelled (level + 1) (delimited_prettyItems (level + 1) more apart)
    have text : (prettyAt level (.array (item :: more))).toList =
        ['['] ++ ((newLine (level + 1)).toList ++
          (((item.prettyAt (level + 1)).toList ++ (prettyItems (level + 1) more).toList) ++
            ((newLine level).toList ++ [']']))) := by
      simp only [prettyAt, String.toList_append, List.append_assoc]
      rfl
    rw [text, tokens]
    exact spellsBefore_brackets level Spells.openList Spells.closeList (first.append others)

theorem isSpelled_object {members : List (String × Json)}
    (each : ∀ member ∈ members, member.2.IsSpelled) : (Json.object members).IsSpelled := by
  intro level rest delimited
  cases members with
  | nil =>
    rw [prettyAt, tokens]
    exact Spells.openObject.append Spells.closeObject rest
  | cons member more =>
    obtain ⟨name, value⟩ := member
    obtain ⟨firstSpelled, moreSpelled⟩ := List.forall_mem_cons.mp each
    have apart : Delimited ((newLine level).toList ++ ['\x7d'] ++ rest) := by
      rw [List.append_assoc]
      exact delimited_newLine level _
    have others := spellsBefore_prettyMembers (level + 1) moreSpelled apart
    have first := spellsBefore_member name (level + 1) firstSpelled
      (delimited_prettyMembers (level + 1) more apart)
    have text : (prettyAt level (.object ((name, value) :: more))).toList =
        ['\x7b'] ++ ((newLine (level + 1)).toList ++
          ((((jsonString name).toList ++ (": ".toList ++ (value.prettyAt (level + 1)).toList)) ++
            (prettyMembers (level + 1) more).toList) ++ ((newLine level).toList ++ ['\x7d']))) := by
      simp only [prettyAt, String.toList_append, List.append_assoc]
      rfl
    rw [text, tokens]
    exact spellsBefore_brackets level Spells.openObject Spells.closeObject (first.append others)

/-- A value whose numbers read back is scanned as its tokens when it is printed. -/
theorem Each.isSpelled {json : Json} (readBack : json.Each Number.ReadsBack) : json.IsSpelled := by
  induction readBack with
  | null => exact fun _ _ _ => spells_null _
  | bool value =>
    intro level rest delimited
    cases value with
    | true => exact spells_true rest
    | false => exact spells_false rest
  | number readsBack => exact fun _ _ => readsBack.spellsBefore
  | string value => exact fun _ rest _ => spells_jsonString value rest
  | array _ inductionHypothesis => exact isSpelled_array inductionHypothesis
  | object _ inductionHypothesis => exact isSpelled_object inductionHypothesis

end Json

end ConfigBinding
