import ConfigBinding.Json.Tree
import ConfigBinding.Proofs.Json.Spelling

/-!
# Trees of well-formed text

The tree of a text whose tokens are those of a value holds this value, and nothing is left after it.

* `Tree.json?`: the value of a tree without faults;
* `Want.takes`: the machine takes the tokens of a value as one value, inside whichever lists and
  objects;
* `Tree.ofText_of_spelled`: the tree of a text with these tokens.
-/

namespace ConfigBinding

/-! ## The value of a tree -/

def Scalar.json? : Scalar → Option Json
  | .null => some .null
  | .bool value => some (.bool value)
  | .number (.ok value) => some (.number value)
  | .string (.ok value) => some (.string value)
  | .number (.error _) | .string (.error _) => none

mutual

def Tree.json? : Tree → Option Json
  | .scalar _ _ value => value.json?
  | .array _ items => items.json?.map .array
  | .object _ members => members.json?.map .object
  | .broken _ _ _ _ => none

def Items.json? : Items → Option (List Json)
  | .nil (.closed _) => some []
  | .nil _ => none
  | .cons head _ tail =>
    match head.json?, tail.json? with
    | some item, some rest => some (item :: rest)
    | _, _ => none

def Members.json? : Members → Option (List (String × Json))
  | .nil (.closed _) => some []
  | .nil _ => none
  | .unvalued _ _ => none
  | .cons key value _ tail =>
    match key.text, value.json?, tail.json? with
    | .ok name, some held, some rest => some ((name, held) :: rest)
    | _, _, _ => none

end

theorem Items.json?_ofReversed {items : List (Tree × Nat)} {held : List Json}
    (holds : items.map (fun item => item.1.json?) = held.map some) (stop : Nat) :
    (Items.ofReversed items (.closed stop)).json? = some held.reverse := by
  have general : ∀ (tail : Items) (later : List Json), tail.json? = some later →
      (items.foldl (fun tail item => .cons item.1 item.2 tail) tail).json? =
        some (held.reverse ++ later) := by
    induction items generalizing held with
    | nil =>
      intro tail later holdsLater
      cases held with
      | nil => exact holdsLater
      | cons _ _ => cases holds
    | cons item rest inductionHypothesis =>
      intro tail later holdsLater
      cases held with
      | nil => cases holds
      | cons json others =>
        simp only [List.map_cons, List.cons.injEq] at holds
        rw [List.foldl_cons, List.reverse_cons, List.append_assoc, List.singleton_append]
        refine inductionHypothesis holds.2 _ _ ?_
        rw [Items.json?, holds.1, holdsLater]
  have all := general (.nil (.closed stop)) [] rfl
  rwa [List.append_nil] at all

def OpenMember.json? (member : OpenMember) : Option (String × Json) :=
  match member.key.text, member.value.json? with
  | .ok name, some held => some (name, held)
  | _, _ => none

theorem Members.json?_ofReversed {members : List OpenMember} {held : List (String × Json)}
    (holds : members.map OpenMember.json? = held.map some) (stop : Nat) :
    (Members.ofReversed members (.nil (.closed stop))).json? = some held.reverse := by
  have general : ∀ (tail : Members) (later : List (String × Json)), tail.json? = some later →
      (Members.ofReversed members tail).json? = some (held.reverse ++ later) := by
    induction members generalizing held with
    | nil =>
      intro tail later holdsLater
      cases held with
      | nil => exact holdsLater
      | cons _ _ => cases holds
    | cons member rest inductionHypothesis =>
      intro tail later holdsLater
      cases held with
      | nil => cases holds
      | cons json others =>
        simp only [List.map_cons, List.cons.injEq] at holds
        rw [List.reverse_cons, List.append_assoc, List.singleton_append]
        refine inductionHypothesis holds.2 _ _ ?_
        have isMember := holds.1
        unfold OpenMember.json? at isMember
        split at isMember
        next name value isName isValue =>
          cases isMember
          rw [Members.json?, isName, isValue, holdsLater]
        next => cases isMember
  have all := general (.nil (.closed stop)) [] rfl
  rwa [List.append_nil] at all

/-! ## The machine -/

namespace Want

/-- How the machine goes on after a value. -/
def resume (size : Nat) (tree : Tree) (frames : List OpenFrame) (rest : List Lexeme) :
    Tree × List Lexeme :=
  match complete tree frames rest with
  | .inl (want, frames) => want.run size frames rest
  | .inr result => result

theorem resume_cons (size : Nat) (tree : Tree) (frame : OpenFrame) (frames : List OpenFrame)
    (rest : List Lexeme) :
    resume size tree (frame :: frames) rest =
      (Want.separator tree).run size (frame :: frames) rest :=
  rfl

/-- Whether the machine takes the tokens of a value as one value. -/
def Takes (json : Json) : Prop :=
  ∀ size frames {lexemes : List Lexeme} rest, lexemes.map Lexeme.token = json.tokens →
    ∃ tree : Tree, tree.json? = some json ∧
      Want.value.run size frames (lexemes ++ rest) = resume size tree frames rest

/-! ### Lists -/

variable {size start : Nat} {frames outer : List OpenFrame} {lexeme next : Lexeme}
  {rest : List Lexeme}

theorem run_openList (isOpen : lexeme.token = .openList) :
    Want.value.run size frames (lexeme :: rest) =
      (Want.firstItem lexeme.start).run size frames rest := by
  obtain ⟨token, lead, first, stop⟩ := lexeme
  cases isOpen
  rfl

theorem run_firstItem (noClose : lexeme.token ≠ .closeList) :
    (Want.firstItem start).run size frames (lexeme :: rest) =
      Want.value.run size (.list start [] :: frames) (lexeme :: rest) := by
  obtain ⟨token, lead, first, stop⟩ := lexeme
  cases token <;> first | rfl | exact absurd rfl noClose

theorem run_comma (isComma : lexeme.token = .comma) (noClose : next.token ≠ .closeList)
    (tree : Tree) (items : List (Tree × Nat)) :
    (Want.separator tree).run size (.list start items :: outer) (lexeme :: next :: rest) =
      Want.value.run size (.list start ((tree, next.start) :: items) :: outer) (next :: rest) := by
  obtain ⟨token, lead, first, stop⟩ := lexeme
  obtain ⟨nextToken, nextLead, nextStart, nextStop⟩ := next
  cases isComma
  cases nextToken <;> first | rfl | exact absurd rfl noClose

theorem run_closeList (isClose : lexeme.token = .closeList) (tree : Tree)
    (items : List (Tree × Nat)) :
    (Want.separator tree).run size (.list start items :: outer) (lexeme :: rest) =
      resume size
        (.array start (.ofReversed ((tree, lexeme.stop) :: items) (.closed lexeme.stop))) outer
        rest := by
  obtain ⟨token, lead, first, stop⟩ := lexeme
  cases isClose
  rfl

theorem tokens_cons (json : Json) :
    ∃ token rest, json.tokens = token :: rest ∧ token ≠ .closeList := by
  cases json with
  | null | bool _ | number _ | string _ =>
    rw [Json.tokens]
    exact ⟨_, _, rfl, by simp⟩
  | array items =>
    cases items <;> rw [Json.tokens] <;> exact ⟨_, _, rfl, by simp⟩
  | object members =>
    cases members <;> rw [Json.tokens] <;> exact ⟨_, _, rfl, by simp⟩

/-- The items after one that is complete, and the end of their list. -/
theorem run_items {more : List Json} (each : ∀ item ∈ more, Takes item)
    {items : List (Tree × Nat)} {held : List Json}
    (holds : items.map (fun item => item.1.json?) = held.map some) {tree : Tree} {json : Json}
    (isTree : tree.json? = some json) {lexemes : List Lexeme}
    (spelled : lexemes.map Lexeme.token = Json.itemTokens more ++ [.closeList]) :
    ∃ result : Tree, result.json? = some (.array (held.reverse ++ json :: more)) ∧
      (Want.separator tree).run size (.list start items :: outer) (lexemes ++ rest) =
        resume size result outer rest := by
  have isItems : ∀ settled, ((tree, settled) :: items).map (fun item => item.1.json?) =
      (json :: held).map some := by
    intro settled
    rw [List.map_cons, List.map_cons, isTree, holds]
  induction more generalizing items held tree json lexemes with
  | nil =>
    obtain ⟨close, empty, rfl, isClose, none⟩ := List.map_eq_cons_iff.mp spelled
    cases List.map_eq_nil_iff.mp none
    refine ⟨_, ?_, run_closeList isClose tree items⟩
    rw [Tree.json?, Items.json?_ofReversed (isItems close.stop), List.reverse_cons]
    rfl
  | cons item more inductionHypothesis =>
    rw [Json.itemTokens, List.cons_append, List.append_assoc] at spelled
    obtain ⟨comma, others, rfl, isComma, spelledRest⟩ := List.map_eq_cons_iff.mp spelled
    obtain ⟨itemLexemes, later, rfl, spelledItem, spelledLater⟩ :=
      List.map_eq_append_iff.mp spelledRest
    obtain ⟨token, tokens, tokensEq, noClose⟩ := tokens_cons item
    have spelledFirst := spelledItem
    rw [tokensEq] at spelledFirst
    obtain ⟨first, firstRest, rfl, firstToken, -⟩ := List.map_eq_cons_iff.mp spelledFirst
    obtain ⟨itemTree, isItem, taken⟩ := each item (List.mem_cons_self ..) size
      (.list start ((tree, first.start) :: items) :: outer) (later ++ rest) spelledItem
    obtain ⟨result, isResult, finished⟩ := inductionHypothesis
      (fun item member => each item (List.mem_cons_of_mem _ member)) (isItems first.start) isItem
      spelledLater (by
        intro settled
        rw [List.map_cons, isItem, isItems]
        rfl)
    refine ⟨result, ?_, ?_⟩
    · rw [isResult, List.reverse_cons, List.append_assoc, List.singleton_append]
    · rw [resume_cons] at taken
      rw [← finished, ← taken, List.cons_append, List.append_assoc, List.cons_append,
        run_comma isComma (firstToken ▸ noClose)]

/-! ### Objects -/

theorem run_openObject (isOpen : lexeme.token = .openObject) :
    Want.value.run size frames (lexeme :: rest) =
      (Want.firstKey lexeme.start).run size frames rest := by
  obtain ⟨token, lead, first, stop⟩ := lexeme
  cases isOpen
  rfl

theorem run_firstKey {name : String} (isName : lexeme.token = .scalar (.string (.ok name)))
    (isColon : next.token = .colon) :
    (Want.firstKey start).run size frames (lexeme :: next :: rest) =
      Want.value.run size (.object start [] ⟨.ok name, lexeme.stop, next.start⟩ :: frames)
        rest := by
  obtain ⟨token, lead, first, stop⟩ := lexeme
  obtain ⟨nextToken, nextLead, nextStart, nextStop⟩ := next
  cases isName
  cases isColon
  rfl

theorem run_nextKey {name : String} (isName : lexeme.token = .scalar (.string (.ok name)))
    (isColon : next.token = .colon) (members : List OpenMember) :
    (Want.nextKey start members).run size frames (lexeme :: next :: rest) =
      Want.value.run size (.object start members ⟨.ok name, lexeme.stop, next.start⟩ :: frames)
        rest := by
  obtain ⟨token, lead, first, stop⟩ := lexeme
  obtain ⟨nextToken, nextLead, nextStart, nextStop⟩ := next
  cases isName
  cases isColon
  rfl

theorem run_memberComma (isComma : lexeme.token = .comma) (noClose : next.token ≠ .closeObject)
    (tree : Tree) (members : List OpenMember) (key : Key) :
    (Want.separator tree).run size (.object start members key :: outer) (lexeme :: next :: rest) =
      (Want.nextKey start (⟨key, tree, lexeme.start⟩ :: members)).run size outer
        (next :: rest) := by
  obtain ⟨token, lead, first, stop⟩ := lexeme
  obtain ⟨nextToken, nextLead, nextStart, nextStop⟩ := next
  cases isComma
  cases nextToken <;> first | rfl | exact absurd rfl noClose

theorem run_closeObject (isClose : lexeme.token = .closeObject) (tree : Tree)
    (members : List OpenMember) (key : Key) :
    (Want.separator tree).run size (.object start members key :: outer) (lexeme :: rest) =
      resume size
        (.object start (.ofReversed (⟨key, tree, lexeme.stop⟩ :: members)
          (.nil (.closed lexeme.stop)))) outer rest := by
  obtain ⟨token, lead, first, stop⟩ := lexeme
  cases isClose
  rfl

/-- The members after one that is complete, and the end of their object. -/
theorem run_members {more : List (String × Json)} (each : ∀ member ∈ more, Takes member.2)
    {members : List OpenMember} {held : List (String × Json)}
    (holds : members.map OpenMember.json? = held.map some) {key : Key} {tree : Tree} {name : String}
    {json : Json} (isName : key.text = .ok name) (isTree : tree.json? = some json)
    {lexemes : List Lexeme}
    (spelled : lexemes.map Lexeme.token = Json.memberTokens more ++ [.closeObject]) :
    ∃ result : Tree, result.json? = some (.object (held.reverse ++ (name, json) :: more)) ∧
      (Want.separator tree).run size (.object start members key :: outer) (lexemes ++ rest) =
        resume size result outer rest := by
  have isMember : ∀ settled, (⟨key, tree, settled⟩ :: members).map OpenMember.json? =
      ((name, json) :: held).map some := by
    intro settled
    rw [List.map_cons, List.map_cons, OpenMember.json?, isName, isTree, holds]
  induction more generalizing members held key tree name json lexemes with
  | nil =>
    obtain ⟨close, empty, rfl, isClose, none⟩ := List.map_eq_cons_iff.mp spelled
    cases List.map_eq_nil_iff.mp none
    refine ⟨_, ?_, run_closeObject isClose tree members key⟩
    rw [Tree.json?, Members.json?_ofReversed (isMember close.stop), List.reverse_cons]
    rfl
  | cons member more inductionHypothesis =>
    obtain ⟨nextName, value⟩ := member
    rw [Json.memberTokens, List.cons_append, List.cons_append, List.cons_append,
      List.append_assoc] at spelled
    obtain ⟨comma, others, rfl, isComma, spelledRest⟩ := List.map_eq_cons_iff.mp spelled
    obtain ⟨keyLexeme, others, rfl, isKey, spelledRest⟩ := List.map_eq_cons_iff.mp spelledRest
    obtain ⟨colon, others, rfl, isColon, spelledRest⟩ := List.map_eq_cons_iff.mp spelledRest
    obtain ⟨valueLexemes, later, rfl, spelledValue, spelledLater⟩ :=
      List.map_eq_append_iff.mp spelledRest
    let nextKey : Key := ⟨.ok nextName, keyLexeme.stop, colon.start⟩
    have isNextName : nextKey.text = .ok nextName := rfl
    obtain ⟨valueTree, isValue, taken⟩ := each (nextName, value) (List.mem_cons_self ..) size
      (.object start (⟨key, tree, comma.start⟩ :: members) nextKey :: outer) (later ++ rest)
      spelledValue
    obtain ⟨result, isResult, finished⟩ := inductionHypothesis
      (fun member isMember => each member (List.mem_cons_of_mem _ isMember))
      (isMember comma.start) isNextName isValue spelledLater (by
        intro settled
        rw [List.map_cons, OpenMember.json?, isNextName, isValue, isMember]
        rfl)
    refine ⟨result, ?_, ?_⟩
    · rw [isResult, List.reverse_cons, List.append_assoc, List.singleton_append]
    · have noClose : keyLexeme.token ≠ .closeObject := by
        rw [isKey]
        exact nofun
      rw [resume_cons] at taken
      rw [← finished, ← taken, List.cons_append, List.cons_append, List.cons_append,
        List.append_assoc, run_memberComma isComma noClose, run_nextKey isKey isColon]

/-! ### Values -/

theorem takes_scalar {json : Json} {content : Scalar} (tokens : json.tokens = [.scalar content])
    (holds : content.json? = some json) : Takes json := by
  intro size frames lexemes rest spelled
  rw [tokens] at spelled
  obtain ⟨⟨token, lead, start, stop⟩, empty, rfl, rfl, none⟩ := List.map_eq_cons_iff.mp spelled
  cases List.map_eq_nil_iff.mp none
  exact ⟨.scalar start stop content, holds, rfl⟩

theorem takes_array {items : List Json} (each : ∀ item ∈ items, Takes item) :
    Takes (.array items) := by
  intro size frames lexemes rest spelled
  cases items with
  | nil =>
    rw [Json.tokens] at spelled
    obtain ⟨⟨_, lead, start, stop⟩, others, rfl, rfl, spelledRest⟩ :=
      List.map_eq_cons_iff.mp spelled
    obtain ⟨⟨_, _, _, last⟩, empty, rfl, rfl, none⟩ := List.map_eq_cons_iff.mp spelledRest
    cases List.map_eq_nil_iff.mp none
    exact ⟨.array start (.nil (.closed last)), rfl, rfl⟩
  | cons item more =>
    obtain ⟨takesFirst, takesMore⟩ := List.forall_mem_cons.mp each
    rw [Json.tokens, List.append_assoc] at spelled
    obtain ⟨opening, others, rfl, isOpen, spelledRest⟩ := List.map_eq_cons_iff.mp spelled
    obtain ⟨itemLexemes, later, rfl, spelledItem, spelledLater⟩ :=
      List.map_eq_append_iff.mp spelledRest
    obtain ⟨token, tokens, tokensEq, noClose⟩ := tokens_cons item
    have spelledFirst := spelledItem
    rw [tokensEq] at spelledFirst
    obtain ⟨first, firstRest, rfl, firstToken, -⟩ := List.map_eq_cons_iff.mp spelledFirst
    obtain ⟨itemTree, isItem, taken⟩ := takesFirst size (.list opening.start [] :: frames)
      (later ++ rest) spelledItem
    have nothing : [].map (fun item : Tree × Nat => item.1.json?) = [].map some := rfl
    obtain ⟨result, isResult, finished⟩ := run_items takesMore nothing isItem spelledLater
    refine ⟨result, isResult, ?_⟩
    rw [resume_cons] at taken
    rw [← finished, ← taken, List.cons_append, run_openList isOpen, List.append_assoc,
      List.cons_append, run_firstItem (firstToken ▸ noClose)]

theorem takes_object {members : List (String × Json)} (each : ∀ member ∈ members, Takes member.2) :
    Takes (.object members) := by
  intro size frames lexemes rest spelled
  cases members with
  | nil =>
    rw [Json.tokens] at spelled
    obtain ⟨⟨_, lead, start, stop⟩, others, rfl, rfl, spelledRest⟩ :=
      List.map_eq_cons_iff.mp spelled
    obtain ⟨⟨_, _, _, last⟩, empty, rfl, rfl, none⟩ := List.map_eq_cons_iff.mp spelledRest
    cases List.map_eq_nil_iff.mp none
    exact ⟨.object start (.nil (.closed last)), rfl, rfl⟩
  | cons member more =>
    obtain ⟨name, value⟩ := member
    obtain ⟨takesFirst, takesMore⟩ := List.forall_mem_cons.mp each
    rw [Json.tokens, List.cons_append, List.cons_append, List.cons_append, List.cons_append,
      List.append_assoc] at spelled
    obtain ⟨opening, others, rfl, isOpen, spelledRest⟩ := List.map_eq_cons_iff.mp spelled
    obtain ⟨keyLexeme, others, rfl, isKey, spelledRest⟩ := List.map_eq_cons_iff.mp spelledRest
    obtain ⟨colon, others, rfl, isColon, spelledRest⟩ := List.map_eq_cons_iff.mp spelledRest
    obtain ⟨valueLexemes, later, rfl, spelledValue, spelledLater⟩ :=
      List.map_eq_append_iff.mp spelledRest
    let key : Key := ⟨.ok name, keyLexeme.stop, colon.start⟩
    have isName : key.text = .ok name := rfl
    obtain ⟨valueTree, isValue, taken⟩ := takesFirst size (.object opening.start [] key :: frames)
      (later ++ rest) spelledValue
    have nothing : [].map OpenMember.json? = [].map some := rfl
    obtain ⟨result, isResult, finished⟩ := run_members takesMore nothing isName isValue spelledLater
    refine ⟨result, isResult, ?_⟩
    rw [resume_cons] at taken
    rw [← finished, ← taken, List.cons_append, run_openObject isOpen, List.cons_append,
      List.cons_append, List.append_assoc, run_firstKey isKey isColon]

mutual

/-- The machine takes the tokens of any value as one value. -/
theorem takes : (json : Json) → Takes json
  | .null | .bool _ | .number _ | .string _ => takes_scalar (by rw [Json.tokens]) rfl
  | .array items => takes_array (takes_items items)
  | .object members => takes_object (takes_members members)

theorem takes_items : (items : List Json) → ∀ item ∈ items, Takes item
  | [] => List.forall_mem_nil _
  | item :: rest => List.forall_mem_cons.mpr ⟨takes item, takes_items rest⟩

theorem takes_members : (members : List (String × Json)) → ∀ member ∈ members, Takes member.2
  | [] => List.forall_mem_nil _
  | (_, json) :: rest => List.forall_mem_cons.mpr ⟨takes json, takes_members rest⟩

end

end Want

/-- The tree of a text that is scanned as the tokens of a value holds the value, and nothing is left
    after it. -/
theorem Tree.ofText_of_spelled {json : Json} {text : String}
    (spelled : SpellsBefore text.toList json.tokens []) :
    ∃ tree : Tree, tree.json? = some json ∧ Tree.ofText text = (tree, []) := by
  obtain ⟨tree, holds, taken⟩ := Want.takes json text.utf8ByteSize [] [] spelled.tokens_ofText
  rw [List.append_nil] at taken
  exact ⟨tree, holds, taken⟩

end ConfigBinding
