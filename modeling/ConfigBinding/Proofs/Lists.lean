import Mathlib.Data.List.Forall2
import Mathlib.Data.List.Pairwise
import Mathlib.Tactic.Common

/-!
# Lists taken item by item

Lists that are made from one list are compared by relating their items one by one, and what a list
was made from is found again from an item of it.

* `forall₂_of_common`, `forall₂_filterMap`: lists made from one list;
* `exists_prefix_of_forall₂`: what belongs to the beginning of a list;
* `nodup_map_filterMap_iff`: keys of what is made from the items of a list;
* `split_of_append`: where an item of two lists in a row stands;
* `SameAround`: lists that differ in one stretch only;
* `mapM_eq_some`, `mapM_eq_ok`: lists made by steps that may fail.
-/

namespace ConfigBinding

variable {α β γ ε : Type}

/-! ## Related lists -/

theorem forall₂_of_common {R : α → β → Prop} {S : α → γ → Prop} {T : β → γ → Prop}
    {common : List α} {left : List β} {right : List γ} (first : List.Forall₂ R common left)
    (second : List.Forall₂ S common right)
    (related : ∀ a ∈ common, ∀ b c, R a b → S a c → T b c) : List.Forall₂ T left right := by
  induction first generalizing right with
  | nil =>
    cases second
    exact .nil
  | cons firstHead firstTail inductionHypothesis =>
    cases second with
    | cons secondHead secondTail =>
      refine .cons (related _ List.mem_cons_self _ _ firstHead secondHead) ?_
      exact inductionHypothesis secondTail
        fun a member => related a (List.mem_cons_of_mem _ member)

theorem rel_imp {R S : α → β → Prop} {x : Option α} {y : Option β} (related : Option.Rel R x y)
    (weaker : ∀ a b, R a b → S a b) : Option.Rel S x y := by
  cases related with
  | none => exact .none
  | some holds => exact .some (weaker _ _ holds)

theorem forall₂_filterMap {R : β → γ → Prop} {f : α → Option β} {g : α → Option γ} {items : List α}
    (related : ∀ item ∈ items, Option.Rel R (f item) (g item)) :
    List.Forall₂ R (items.filterMap f) (items.filterMap g) := by
  refine List.rel_filterMap (R := fun a b => a = b ∧ a ∈ items) ?_
    (List.forall₂_same.mpr fun item member => ⟨rfl, member⟩)
  rintro item _ ⟨rfl, member⟩
  exact related item member

theorem exists_of_mem_right {R : α → β → Prop} {left : List α} {right : List β}
    (related : List.Forall₂ R left right) {b : β} (member : b ∈ right) : ∃ a ∈ left, R a b := by
  induction related with
  | nil => cases member
  | cons head tail inductionHypothesis =>
    cases member with
    | head => exact ⟨_, List.mem_cons_self, head⟩
    | tail _ member =>
      obtain ⟨a, isMember, isRelated⟩ := inductionHypothesis member
      exact ⟨a, List.mem_cons_of_mem _ isMember, isRelated⟩

theorem map_eq_map_of_forall₂ {f : α → γ} {g : β → γ} {left : List α} {right : List β}
    (same : List.Forall₂ (fun a b => g b = f a) left right) : right.map g = left.map f := by
  rw [← List.forall₂_eq_eq_eq, List.forall₂_map_left_iff, List.forall₂_map_right_iff]
  exact same.flip

theorem flatMap_eq_flatMap_of_forall₂ {f : α → List γ} {g : β → List γ} {left : List α}
    {right : List β} (same : List.Forall₂ (fun a b => g b = f a) left right) :
    right.flatMap g = left.flatMap f := by
  rw [List.flatMap_def, List.flatMap_def, map_eq_map_of_forall₂ same]

/-- The beginning of one list belongs to the beginning of a list related to it. -/
theorem exists_prefix_of_forall₂ {R : α → β → Prop} {left : List α} {right begun : List β}
    (related : List.Forall₂ R left right) (isPrefix : begun <+: right) :
    ∃ leftBegun, leftBegun <+: left ∧ List.Forall₂ R leftBegun begun := by
  refine ⟨left.take begun.length, List.take_prefix _ _, ?_⟩
  have taken := List.forall₂_take begun.length related
  rwa [← List.prefix_iff_eq_take.mp isPrefix] at taken

theorem exists_getElem?_of_forall₂ {R : α → β → Prop} {left : List α} {right : List β}
    (related : List.Forall₂ R left right) {index : Nat} {a : α} (found : left[index]? = some a) :
    ∃ b, right[index]? = some b ∧ R a b := by
  induction related generalizing index with
  | nil => cases found
  | cons head tail inductionHypothesis =>
    cases index with
    | zero =>
      cases found
      exact ⟨_, rfl, head⟩
    | succ index => exact inductionHypothesis found

/-- An item of a filtered list comes from an item after those that gave the items before it. -/
theorem exists_split_of_filterMap {f : α → Option β} {items : List α} {index : Nat} {b : β}
    (found : (items.filterMap f)[index]? = some b) :
    ∃ before item after, items = before ++ item :: after ∧ f item = some b ∧
      (before.filterMap f).length = index := by
  induction items generalizing index with
  | nil => cases found
  | cons first rest inductionHypothesis =>
    cases gives : f first with
    | none =>
      rw [List.filterMap_cons_none gives] at found
      obtain ⟨before, item, after, rfl, isItem, count⟩ := inductionHypothesis found
      exact ⟨first :: before, item, after, rfl, isItem, by rwa [List.filterMap_cons_none gives]⟩
    | some given =>
      rw [List.filterMap_cons_some gives] at found
      cases index with
      | zero =>
        cases found
        exact ⟨[], first, rest, rfl, gives, rfl⟩
      | succ index =>
        obtain ⟨before, item, after, rfl, isItem, count⟩ := inductionHypothesis found
        refine ⟨first :: before, item, after, rfl, isItem, ?_⟩
        rw [List.filterMap_cons_some gives, List.length_cons, count]

theorem filterMap_around (f : α → Option β) (before after : List α) (item : α) :
    (before ++ item :: after).filterMap f =
      before.filterMap f ++ (f item).toList ++ after.filterMap f := by
  cases found : f item <;> simp [found]

theorem exists_last_of_mem_map {key : α → β} {items : List α} {b : β} (member : b ∈ items.map key) :
    ∃ before item after, items = before ++ item :: after ∧ key item = b ∧ b ∉ after.map key := by
  induction items with
  | nil => cases member
  | cons first rest inductionHypothesis =>
    by_cases isLater : b ∈ rest.map key
    · obtain ⟨before, item, after, rfl, isItem, isLast⟩ := inductionHypothesis isLater
      exact ⟨first :: before, item, after, rfl, isItem, isLast⟩
    · obtain rfl | isRest := List.mem_cons.mp member
      · exact ⟨[], first, rest, rfl, rfl, isLater⟩
      · exact absurd isRest isLater

/-- Keys of what is made from items are all different exactly if they tell the items. -/
theorem nodup_map_filterMap_iff {f : α → Option β} {key : β → γ} {items : List α}
    (nodup : items.Nodup) :
    ((items.filterMap f).map key).Nodup ↔ ∀ a ∈ items, ∀ b ∈ items, ∀ x y, f a = some x →
      f b = some y → key x = key y → a = b := by
  rw [List.Nodup, List.pairwise_map, List.pairwise_filterMap]
  constructor
  · intro apart a isItem b otherIsItem x y made otherMade same
    by_contra different
    have symmetric : Std.Symm fun a b =>
        ∀ x, f a = some x → ∀ y, f b = some y → key x ≠ key y :=
      ⟨fun _ _ apart y otherMade x made same => apart x made y otherMade same.symm⟩
    exact apart.forall isItem otherIsItem different x made y otherMade same
  · intro tells
    refine nodup.imp_of_mem fun isItem otherIsItem different x made y otherMade same => ?_
    exact different (tells _ isItem _ otherIsItem x y made otherMade same)

/-- An item of two lists in a row stands in the first, or after all of the first. -/
theorem split_of_append {left right before after : List α} {item : α}
    (same : left ++ right = before ++ item :: after) :
    (∃ rest, left = before ++ item :: rest) ∨
      ∃ begun, before = left ++ begun ∧ right = begun ++ item :: after := by
  obtain ⟨begun, isBefore, isRight⟩ | ⟨rest, isLeft, isAfter⟩ := List.append_eq_append_iff.mp same
  · exact .inr ⟨begun, isBefore, isRight⟩
  · cases rest with
    | nil => exact .inr ⟨[], by simpa using isLeft.symm, isAfter.symm⟩
    | cons first rest =>
      cases isAfter
      exact .inl ⟨rest, isLeft⟩

/-! ## Lists that differ in one stretch -/

/-- Whether two lists are the same before and after a stretch of each. -/
def SameAround (own own' items items' : List α) : Prop :=
  ∃ before after, items = before ++ own ++ after ∧ items' = before ++ own' ++ after

namespace SameAround

variable {own own' items items' : List α}

theorem self (own own' : List α) : SameAround own own' own own' := ⟨[], [], by simp, by simp⟩

/-- Lists that are the same do not differ in any stretch. -/
theorem nowhere (items : List α) : SameAround [] [] items items := ⟨items, [], by simp, by simp⟩

theorem within (same : SameAround own own' items items') (front back : List α) :
    SameAround own own' (front ++ items ++ back) (front ++ items' ++ back) := by
  obtain ⟨before, after, rfl, rfl⟩ := same
  exact ⟨front ++ before, after ++ back, by simp, by simp⟩

end SameAround

/-! ## Lists made by steps that may fail -/

theorem mapM_eq_some {f : α → Option β} {items : List α} {results : List β} :
    items.mapM f = some results ↔ List.Forall₂ (fun item result => f item = some result) items
      results := by
  induction items generalizing results with
  | nil => simp [eq_comm]
  | cons item rest inductionHypothesis =>
    simp only [List.mapM_cons, Option.pure_def, Option.bind_eq_bind, Option.bind_eq_some_iff,
      Option.some.injEq, List.forall₂_cons_left_iff, inductionHypothesis]
    constructor
    · rintro ⟨first, firstMade, others, othersMade, rfl⟩
      exact ⟨first, others, firstMade, othersMade, rfl⟩
    · rintro ⟨first, others, firstMade, othersMade, rfl⟩
      exact ⟨first, firstMade, others, othersMade, rfl⟩

theorem mapM_eq_ok {f : α → Except ε β} {items : List α} {results : List β} :
    items.mapM f = .ok results ↔ List.Forall₂ (fun item result => f item = .ok result) items
      results := by
  induction items generalizing results with
  | nil => simp [pure, Except.pure, eq_comm]
  | cons item rest inductionHypothesis =>
    rw [List.mapM_cons, List.forall₂_cons_left_iff]
    cases made : f item with
    | error e => simp [bind, Except.bind]
    | ok first =>
      cases othersMade : rest.mapM f with
      | error e => simp [bind, Except.bind, ← inductionHypothesis, othersMade]
      | ok others =>
        simp [bind, Except.bind, pure, Except.pure, ← inductionHypothesis, othersMade, eq_comm]

/-- Steps that fail together do so at the first that fails alone. -/
theorem exists_split_of_mapM_eq_error {f : α → Except ε β} {items : List α} {e : ε}
    (failed : items.mapM f = .error e) :
    ∃ before item after, items = before ++ item :: after ∧ f item = .error e ∧
      ∀ earlier ∈ before, ∃ result, f earlier = .ok result := by
  induction items with
  | nil => cases failed
  | cons item rest inductionHypothesis =>
    rw [List.mapM_cons] at failed
    cases made : f item with
    | error first =>
      rw [made] at failed
      cases failed
      exact ⟨[], item, rest, rfl, made, fun _ isEarlier => nomatch isEarlier⟩
    | ok result =>
      cases othersMade : rest.mapM f with
      | ok others =>
        rw [made, othersMade] at failed
        cases failed
      | error later =>
        rw [made, othersMade] at failed
        cases failed
        obtain ⟨before, last, after, rfl, isLast, succeed⟩ := inductionHypothesis othersMade
        refine ⟨item :: before, last, after, rfl, isLast, fun earlier isEarlier => ?_⟩
        obtain rfl | isEarlier := List.mem_cons.mp isEarlier
        · exact ⟨result, made⟩
        · exact succeed earlier isEarlier

end ConfigBinding
