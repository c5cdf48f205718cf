import ConfigBinding.Json.Cursor
import ConfigBinding.Proofs.Json.Held
import ConfigBinding.Proofs.Json.Records
import ConfigBinding.Proofs.Lists

/-!
# What is read from sources that fit

A source in which all numbers fit, and in which only so many levels may be opened, hands out nothing
but such sources, each with one level less. Readers that are written for any source are followed
down to the values that they read whole.

* `Bounded`: sources with this law; `Cursor` and `Json` are;
* `Cursor.FitsIn.dictionary`: the same for objects with any names.
-/

namespace ConfigBinding

variable {α : Type}

/-- Sources that hand out what fits, one level further in. -/
class Bounded (σ : Type) {ε : outParam Type} [Source σ ε] where
  FitsIn : Nat → σ → Prop
  arrange {levels : Nat} {source : σ} {what : String} {names : List String}
    {arranged : Arranged σ ε} (fits : FitsIn levels source)
    (found : Source.arrange what names source = .ok arranged) :
    ∃ inner, levels = inner + 1 ∧ ∀ slot ∈ arranged.slots, FitsIn inner slot.source
  list {levels : Nat} {source : σ} {α : Type} {read : σ → Except ε α} {values : List α}
    (fits : FitsIn levels source) (found : Source.list read source = .ok values) :
    ∃ inner, levels = inner + 1 ∧
      ∀ value ∈ values, ∃ item, FitsIn inner item ∧ read item = .ok value
  tagged {levels : Nat} {source : σ} {α : Type} {tag what : String}
    {variants : List (String × (Json → Except Mismatch α))} {value : α}
    (fits : FitsIn levels source) (found : Source.tagged tag what variants source = .ok value) :
    ∃ variant ∈ variants, ∃ json, json.FitsIn levels ∧ variant.2 json = .ok value

theorem mem_of_lookup_eq_some {entries : List (String × α)} {name : String} {value : α}
    (found : entries.lookup name = some value) : (name, value) ∈ entries := by
  obtain ⟨before, after, rfl, -⟩ := List.lookup_eq_some_iff.mp found
  exact List.mem_append_right _ List.mem_cons_self

theorem Json.mem_of_variant {variants : List (String × α)} {name : String} {value : α}
    (found : Json.variant variants name = .ok value) : (name, value) ∈ variants := by
  unfold Json.variant at found
  split at found
  next isVariant =>
    cases found
    exact mem_of_lookup_eq_some isVariant
  next => cases found

/-! ## Whole values -/

namespace Json

theorem mem_of_tagVariant {variants : List (String × α)} {json : Json} {value : α}
    (found : tagVariant variants json = .ok value) : ∃ variant ∈ variants, variant.2 = value := by
  unfold tagVariant at found
  split at found
  next => exact ⟨_, mem_of_variant found, rfl⟩
  next =>
    split at found
    next => cases found
    next =>
      split at found
      next isVariant =>
        cases found
        exact ⟨_, List.mem_of_getElem? isVariant, rfl⟩
      next => cases found
  next => cases found

/-- The members besides the tag are among the members, and the tag is read from one of them. -/
theorem of_splitTag {tag : String} {read : Json → Except Mismatch α} {seen found : Option α}
    {members others : List (String × Json)}
    (split : splitTag tag read seen members = .ok (found, others)) :
    (∀ member ∈ others, member ∈ members) ∧
      ∀ value ∈ found, seen = some value ∨ ∃ json, read json = .ok value := by
  induction members generalizing seen found others with
  | nil =>
    cases split
    exact ⟨fun _ member => member, fun value isFound => .inl isFound⟩
  | cons member rest inductionHypothesis =>
    obtain ⟨name, json⟩ := member
    rw [splitTag] at split
    split at split
    next =>
      split at split
      next => cases split
      next =>
        obtain ⟨value, isRead, splitRest⟩ := bind_eq_ok.mp split
        obtain ⟨sub, origin⟩ := inductionHypothesis splitRest
        refine ⟨fun _ member => List.mem_cons_of_mem _ (sub _ member), fun other isFound => ?_⟩
        obtain same | fromRest := origin other isFound
        · cases same
          exact .inr ⟨json, isRead⟩
        · exact .inr fromRest
    next =>
      obtain ⟨⟨later, more⟩, splitRest, isResult⟩ := bind_eq_ok.mp split
      cases isResult
      obtain ⟨sub, origin⟩ := inductionHypothesis splitRest
      refine ⟨fun entry member => ?_, origin⟩
      cases member with
      | head => exact List.mem_cons_self
      | tail _ member => exact List.mem_cons_of_mem _ (sub entry member)

theorem mem_of_arrangeMembers {names seen : List String} {rank : Nat}
    {members : List (String × Json)} {slot : Slot Json}
    (member : slot ∈ (arrangeMembers names seen rank members).1) :
    ∃ entry ∈ members, entry.2 = slot.source := by
  induction members generalizing seen rank with
  | nil => cases member
  | cons entry rest inductionHypothesis =>
    obtain ⟨name, json⟩ := entry
    have later : ∀ {seen rank}, slot ∈ (arrangeMembers names seen rank rest).1 →
        ∃ entry ∈ (name, json) :: rest, entry.2 = slot.source := by
      intro seen rank inRest
      obtain ⟨entry, isEntry, same⟩ := inductionHypothesis inRest
      exact ⟨entry, List.mem_cons_of_mem _ isEntry, same⟩
    rw [arrangeMembers] at member
    split at member
    next => exact later member
    next =>
      split at member
      next => cases member
      next =>
        cases member with
        | head => exact ⟨(name, json), List.mem_cons_self, rfl⟩
        | tail _ inRest => exact later inRest

theorem mem_of_arrangeItems {names : List String} {items : List Json} {slot : Slot Json}
    (member : slot ∈ arrangeItems names items) : slot.source ∈ items := by
  obtain ⟨⟨⟨name, item⟩, rank⟩, found, rfl⟩ := List.mem_map.mp member
  have paired : (name, item) ∈ names.zip items :=
    List.mem_of_getElem? (List.mem_zipIdx_iff_getElem?.mp found)
  exact (List.of_mem_zip paired).2

instance : Bounded Json where
  FitsIn levels json := json.FitsIn levels
  arrange := by
    intro levels source what names arranged fits found
    cases fits with
    | object inside =>
      cases found
      refine ⟨_, rfl, fun slot member => ?_⟩
      obtain ⟨entry, isEntry, same⟩ := mem_of_arrangeMembers member
      exact same ▸ inside entry isEntry
    | array inside =>
      cases found
      exact ⟨_, rfl, fun slot member => inside _ (mem_of_arrangeItems member)⟩
    | _ => cases found
  list := by
    intro levels source α read values fits found
    cases fits with
    | array inside =>
      refine ⟨_, rfl, fun value member => ?_⟩
      obtain ⟨item, isItem, isRead⟩ := exists_of_mem_right (mapM_eq_ok.mp found) member
      exact ⟨item, inside item isItem, isRead⟩
    | _ => cases found
  tagged := by
    intro levels source α tag what variants value fits found
    cases fits with
    | object inside =>
      obtain ⟨⟨read, others⟩, split, found⟩ := bind_eq_ok.mp found
      obtain ⟨sub, origin⟩ := of_splitTag split
      cases read with
      | none => cases found
      | some read =>
        obtain isSeen | ⟨json, isRead⟩ := origin read rfl
        · cases isSeen
        · obtain ⟨variant, isVariant, rfl⟩ := mem_of_tagVariant isRead
          refine ⟨variant, isVariant, .object others, ?_, found⟩
          exact .object fun member isOther => inside member (sub member isOther)
    | @array inner items inside =>
      cases items with
      | nil => cases found
      | cons first rest =>
        obtain ⟨read, isRead, found⟩ := bind_eq_ok.mp found
        obtain ⟨variant, isVariant, rfl⟩ := mem_of_tagVariant isRead
        refine ⟨variant, isVariant, .array rest, ?_, found⟩
        exact .array fun item isItem => inside item (List.mem_cons_of_mem _ isItem)
    | _ => cases found

end Json

/-! ## Values in a text -/

namespace Cursor

def FitsIn (levels : Nat) (cursor : Cursor) : Prop := cursor.tree.Fits ∧ cursor.levels ≤ levels

theorem fitsIn_of_arrangeMembers {names seen : List String} {levels rank : Nat}
    {slot : Slot Cursor} : (members : Members) → members.Fits →
      slot ∈ (arrangeMembers names levels seen rank members).1 → slot.source.FitsIn levels
  | .nil _, _, member => nomatch member
  | .unvalued _ _, _, member => nomatch member
  | .cons key value settled tail, fits, member => by
    rw [arrangeMembers] at member
    split at member
    next => cases member
    next =>
      split at member
      next => cases member
      next =>
        split at member
        next =>
          cases member with
          | head => exact ⟨fits.1, Nat.le_refl _⟩
          | tail _ inRest => exact fitsIn_of_arrangeMembers tail fits.2 inRest
        next =>
          split at member
          next => exact fitsIn_of_arrangeMembers tail fits.2 member
          next => cases member

theorem fitsIn_of_arrangeItems {levels index : Nat} {slot : Slot Cursor} :
    (names : List String) → (items : Items) → items.Fits →
      slot ∈ (arrangeItems levels index names items).1 → slot.source.FitsIn levels
  | [], .nil _, _, member => nomatch member
  | _ :: _, .nil _, _, member => nomatch member
  | [], .cons _ _ _, _, member => nomatch member
  | name :: names, .cons head settled tail, fits, member => by
    cases member with
    | head => exact ⟨fits.1, Nat.le_refl _⟩
    | tail _ inRest => exact fitsIn_of_arrangeItems names tail fits.2 inRest

theorem exists_of_items {read : Cursor → Except Fault α} {levels index : Nat} {values : List α} :
    (all : Items) → all.Fits → items read levels index all = .ok values →
      ∀ value ∈ values, ∃ item : Cursor, item.FitsIn levels ∧ read item = .ok value
  | .nil close, _, found => by
    rw [items] at found
    split at found
    next =>
      cases found
      exact List.forall_mem_nil _
    next => cases found
  | .cons head settled tail, fits, found => by
    obtain ⟨first, isFirst, found⟩ := bind_eq_ok.mp found
    obtain ⟨rest, isRest, isCons⟩ := bind_eq_ok.mp found
    cases isCons
    exact List.forall_mem_cons.mpr
      ⟨⟨_, ⟨fits.1, Nat.le_refl _⟩, mapError_eq_ok.mp isFirst⟩, exists_of_items tail fits.2 isRest⟩

theorem exists_of_members {read : Cursor → Except Fault α} {levels : Nat}
    {entries : List (String × α)} : (all : Members) → all.Fits →
      members read levels all = .ok entries →
        ∀ entry ∈ entries, ∃ item : Cursor, item.FitsIn levels ∧ read item = .ok entry.2
  | .nil close, _, found => by
    rw [members] at found
    split at found
    next =>
      cases found
      exact List.forall_mem_nil _
    next => cases found
  | .unvalued key _, _, found => by
    rw [members] at found
    split at found <;> cases found
  | .cons key value settled tail, fits, found => by
    obtain ⟨name, -, found⟩ := bind_eq_ok.mp found
    obtain ⟨first, isFirst, found⟩ := bind_eq_ok.mp found
    obtain ⟨rest, isRest, isCons⟩ := bind_eq_ok.mp found
    cases isCons
    exact List.forall_mem_cons.mpr
      ⟨⟨_, ⟨fits.1, Nat.le_refl _⟩, mapError_eq_ok.mp isFirst⟩,
        exists_of_members tail fits.2 isRest⟩

theorem mem_of_tagVariant {variants : List (String × α)} {tree : Tree} {value : α}
    (found : tagVariant variants tree = .ok value) : ∃ variant ∈ variants, variant.2 = value := by
  unfold tagVariant at found
  split at found
  next => exact ⟨_, Json.mem_of_variant (mapError_eq_ok.mp found), rfl⟩
  next => cases found

/-- The members besides the tag fit, and the tag names a variant. -/
theorem fitsIn_of_splitTag {tag : String} {variants : List (String × α)} {levels : Nat}
    {seen found : Option α} {others : List (String × Json)} {stop : Nat} : (members : Members) →
      members.Fits → splitTag tag variants levels seen members = .ok (found, others, stop) →
        (∀ member ∈ others, member.2.FitsIn levels) ∧
          ∀ value ∈ found, seen = some value ∨ ∃ variant ∈ variants, variant.2 = value
  | .nil close, _, split => by
    rw [splitTag] at split
    split at split
    next =>
      cases split
      exact ⟨List.forall_mem_nil _, fun value isFound => .inl isFound⟩
    next => cases split
  | .unvalued key _, _, split => by
    rw [splitTag] at split
    repeat' split at split
    all_goals cases split
  | .cons key value _ tail, fits, split => by
    obtain ⟨name, -, split⟩ := bind_eq_ok.mp split
    split at split
    next =>
      split at split
      next => cases split
      next =>
        obtain ⟨chosen, isChosen, splitRest⟩ := bind_eq_ok.mp split
        obtain ⟨inside, origin⟩ := fitsIn_of_splitTag tail fits.2 splitRest
        refine ⟨inside, fun other isFound => ?_⟩
        obtain same | isVariant := origin other isFound
        · cases same
          exact .inr (mem_of_tagVariant (mapError_eq_ok.mp isChosen))
        · exact .inr isVariant
    next =>
      obtain ⟨held, isHeld, split⟩ := bind_eq_ok.mp split
      obtain ⟨⟨later, more, last⟩, splitRest, isResult⟩ := bind_eq_ok.mp split
      cases isResult
      obtain ⟨inside, origin⟩ := fitsIn_of_splitTag tail fits.2 splitRest
      refine ⟨List.forall_mem_cons.mpr ⟨?_, inside⟩, origin⟩
      exact Tree.fitsIn_of_hold value fits.1 (mapError_eq_ok.mp isHeld)

theorem FitsIn.mono {levels more : Nat} {cursor : Cursor} (fits : cursor.FitsIn levels)
    (le : levels ≤ more) : cursor.FitsIn more := ⟨fits.1, fits.2.trans le⟩

theorem exists_of_openLevel {own levels start inner : Nat}
    (opened : openLevel own start = .ok inner) (below : own ≤ levels) :
    ∃ more, levels = more + 1 ∧ inner ≤ more := by
  cases openLevel_eq_ok.mp opened
  exact ⟨levels - 1, by omega, by omega⟩

instance : Bounded Cursor where
  FitsIn := FitsIn
  arrange := by
    rintro levels ⟨tree, own, step, settled⟩ what names arranged ⟨fits, below⟩ found
    cases tree with
    | object start all =>
      obtain ⟨inner, opened, isArranged⟩ := bind_eq_ok.mp found
      obtain ⟨more, rfl, le⟩ := exists_of_openLevel opened below
      cases isArranged
      exact ⟨more, rfl, fun slot member => (fitsIn_of_arrangeMembers all fits member).mono le⟩
    | array start all =>
      obtain ⟨inner, opened, isArranged⟩ := bind_eq_ok.mp found
      obtain ⟨more, rfl, le⟩ := exists_of_openLevel opened below
      cases isArranged
      exact ⟨more, rfl, fun slot member => (fitsIn_of_arrangeItems names all fits member).mono le⟩
    | scalar | broken => cases found
  list := by
    rintro levels ⟨tree, own, step, settled⟩ α read values ⟨fits, below⟩ found
    cases tree with
    | array start all =>
      obtain ⟨inner, opened, isItems⟩ := bind_eq_ok.mp found
      obtain ⟨more, rfl, le⟩ := exists_of_openLevel opened below
      refine ⟨more, rfl, fun value member => ?_⟩
      obtain ⟨item, itemFits, isRead⟩ := exists_of_items all fits isItems value member
      exact ⟨item, itemFits.mono le, isRead⟩
    | scalar | object | broken => cases found
  tagged := by
    -- In an object the tag may be anywhere and the rest is read whole; in a list it comes first.
    rintro levels ⟨tree, own, step, settled⟩ α tag what variants value ⟨fits, below⟩ found
    cases tree with
    | object start all =>
      obtain ⟨inner, opened, found⟩ := bind_eq_ok.mp found
      obtain ⟨more, rfl, le⟩ := exists_of_openLevel opened below
      obtain ⟨⟨chosen, others, stop⟩, split, found⟩ := bind_eq_ok.mp found
      obtain ⟨inside, origin⟩ := fitsIn_of_splitTag all fits split
      cases chosen with
      | none => cases found
      | some read =>
        obtain isSeen | ⟨variant, isVariant, rfl⟩ := origin read rfl
        · cases isSeen
        · refine ⟨variant, isVariant, .object others, ?_, mapError_eq_ok.mp found⟩
          exact .object fun member isOther => (inside member isOther).mono le
    | array start all =>
      obtain ⟨inner, opened, found⟩ := bind_eq_ok.mp found
      obtain ⟨more, rfl, le⟩ := exists_of_openLevel opened below
      cases all with
      | nil close =>
        dsimp only at found
        split at found <;> cases found
      | cons head itemSettled tail =>
        obtain ⟨read, isRead, found⟩ := bind_eq_ok.mp found
        obtain ⟨rest, held, found⟩ := bind_eq_ok.mp found
        obtain ⟨variant, isVariant, rfl⟩ := mem_of_tagVariant (mapError_eq_ok.mp isRead)
        refine ⟨variant, isVariant, .array rest, ?_, mapError_eq_ok.mp found⟩
        exact .array fun item isItem =>
          (Items.fitsIn_of_hold tail fits.2 held item isItem).mono le
    | scalar | broken => cases found

variable {levels : Nat} {cursor : Cursor}

/-- The members of an object with any names. -/
theorem FitsIn.dictionary {read : Cursor → Except Fault α} {entries : List (String × α)}
    (fits : cursor.FitsIn levels) (found : dictionary read cursor = .ok entries) :
    ∃ inner, levels = inner + 1 ∧
      ∀ entry ∈ entries, ∃ item : Cursor, item.FitsIn inner ∧ read item = .ok entry.2 := by
  obtain ⟨tree, own, step, settled⟩ := cursor
  cases tree with
  | object start all =>
    obtain ⟨inner, opened, isMembers⟩ := bind_eq_ok.mp found
    obtain ⟨more, rfl, le⟩ := exists_of_openLevel opened fits.2
    refine ⟨more, rfl, fun entry member => ?_⟩
    obtain ⟨item, itemFits, isRead⟩ := exists_of_members all fits.1 isMembers entry member
    exact ⟨item, itemFits.mono le, isRead⟩
  | scalar | array | broken => cases found

/-- A value that is read whole. -/
theorem FitsIn.whole {read : Json → Except Mismatch α} {value : α} (fits : cursor.FitsIn levels)
    (found : whole read cursor = .ok value) :
    ∃ json : Json, json.FitsIn levels ∧ read json = .ok value := by
  obtain ⟨json, held, isRead⟩ := bind_eq_ok.mp found
  exact ⟨json, (Tree.fitsIn_of_hold _ fits.1 held).mono fits.2, mapError_eq_ok.mp isRead⟩

/-- What is read where null would be nothing. -/
theorem read_of_nullable {read : Cursor → Except Fault α} {value : α}
    (found : nullable read cursor = .ok (some value)) : read cursor = .ok value := by
  unfold nullable at found
  split at found
  next => cases found
  next =>
    obtain ⟨_, isRead, same⟩ := map_eq_ok.mp found
    cases same
    exact isRead

end Cursor

/-! ## Texts -/

/-- All that is in a text fits. -/
theorem exists_of_readText {read : Cursor → Except Fault α} {text : String} {value : α}
    (found : readText read text = .ok value) :
    ∃ cursor : Cursor, cursor.FitsIn levelLimit ∧ read cursor = .ok value :=
  ⟨_, ⟨Tree.fits_ofText text, Nat.le_refl _⟩, found⟩

theorem exists_of_readWholeText {read : Cursor → Except Fault α} {text : String} {value : α}
    (found : readWholeText read text = .ok value) :
    ∃ cursor : Cursor, cursor.FitsIn levelLimit ∧ read cursor = .ok value := by
  obtain ⟨_, isRead, isOnly⟩ := bind_eq_ok.mp found
  split at isOnly
  next => cases isOnly; exact exists_of_readText isRead
  next => cases isOnly

end ConfigBinding
