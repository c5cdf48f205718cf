import ConfigBinding.Proofs.Store.Changes

/-!
# Dictionaries entry by entry

What a change keeps of all entries of a dictionary: their keys stay distinct, what holds of all
values goes on to hold, and what a change does not look at does not matter to it.

* `Dictionary.nodup_keys_update`, `Dictionary.forall_update`: what one change keeps;
* `Dictionary.mapValues_update_of_eq`: changes to dictionaries that only differ in what is not kept;
* `Dictionary.nodup_keys_ofList`, `Dictionary.forall_ofList`, `Dictionary.ofList_of_nodup`: the
  dictionary of given entries.
-/

namespace ConfigBinding.Dictionary

variable {α β : Type} {entries : List (String × α)} {key : String} {initial : α} {change : α → α}

theorem keys_update_subset :
    ∀ other ∈ keys (update entries key initial change), other ∈ keys entries ∨ other = key := by
  induction entries with
  | nil => exact fun other member => .inr (List.mem_singleton.mp member)
  | cons entry rest inductionHypothesis =>
    obtain ⟨name, value⟩ := entry
    intro other member
    rw [update] at member
    split at member
    next => exact .inl member
    next =>
      obtain rfl | inRest := List.mem_cons.mp member
      · exact .inl List.mem_cons_self
      · exact (inductionHypothesis other inRest).imp (List.mem_cons_of_mem _) id

theorem nodup_keys_update (distinct : (keys entries).Nodup) :
    (keys (update entries key initial change)).Nodup := by
  induction entries with
  | nil => exact List.nodup_cons.mpr ⟨List.not_mem_nil, .nil⟩
  | cons entry rest inductionHypothesis =>
    obtain ⟨name, value⟩ := entry
    obtain ⟨isNew, distinctRest⟩ := List.nodup_cons.mp distinct
    rw [update]
    split
    next => exact distinct
    next different =>
      refine List.nodup_cons.mpr ⟨fun member => ?_, inductionHypothesis distinctRest⟩
      obtain inRest | same := keys_update_subset _ member
      · exact isNew inRest
      · exact different same

/-- What holds of all values, and of new ones, holds after a change that keeps it. -/
theorem forall_update {P : α → Prop} (all : ∀ entry ∈ entries, P entry.2) (ofInitial : P initial)
    (keeps : ∀ value, P value → P (change value)) :
    ∀ entry ∈ update entries key initial change, P entry.2 := by
  induction entries with
  | nil => exact List.forall_mem_singleton.mpr (keeps initial ofInitial)
  | cons entry rest inductionHypothesis =>
    obtain ⟨name, value⟩ := entry
    obtain ⟨first, others⟩ := List.forall_mem_cons.mp all
    rw [update]
    split
    next => exact List.forall_mem_cons.mpr ⟨keeps value first, others⟩
    next => exact List.forall_mem_cons.mpr ⟨first, inductionHypothesis others⟩

def mapValues (keep : α → β) (entries : List (String × α)) : List (String × β) :=
  entries.map fun entry => (entry.1, keep entry.2)

theorem keys_mapValues (keep : α → β) (entries : List (String × α)) :
    keys (mapValues keep entries) = keys entries := by
  simp [keys, mapValues, List.map_map, Function.comp_def]

theorem mapValues_mapValues {γ : Type} (keep : β → γ) (first : α → β)
    (entries : List (String × α)) :
    mapValues keep (mapValues first entries) = mapValues (keep ∘ first) entries := by
  simp [mapValues, List.map_map, Function.comp_def]

theorem lookup_mapValues (keep : α → β) (entries : List (String × α)) (key : String) :
    (mapValues keep entries).lookup key = (entries.lookup key).map keep := by
  induction entries with
  | nil => rfl
  | cons entry rest inductionHypothesis =>
    rw [mapValues, List.map_cons, List.lookup_cons, List.lookup_cons]
    split
    next => rfl
    next => exact inductionHypothesis

/-- A change to what is kept of the values only depends on what is kept of them. -/
theorem mapValues_update_of_eq {keep : α → β} {others : List (String × α)}
    (same : mapValues keep entries = mapValues keep others)
    (respects : ∀ value other, keep value = keep other →
      keep (change value) = keep (change other)) :
    mapValues keep (update entries key initial change) =
      mapValues keep (update others key initial change) := by
  induction entries generalizing others with
  | nil =>
    cases List.map_eq_nil_iff.mp same.symm
    rfl
  | cons entry rest inductionHypothesis =>
    obtain ⟨other, otherRest, rfl, sameFirst, sameRest⟩ := List.map_eq_cons_iff.mp same.symm
    obtain ⟨sameName, sameValue⟩ := Prod.mk.inj sameFirst
    rw [update, update, sameName]
    split
    next =>
      rw [mapValues, List.map_cons, respects _ _ sameValue.symm]
      exact congrArg _ sameRest.symm
    next =>
      rw [mapValues, List.map_cons, ← sameValue]
      exact congrArg _ (inductionHypothesis sameRest.symm)

/-! ## Dictionaries of given entries -/

theorem nodup_keys_ofList (entries : List (String × α)) : (keys (ofList entries)).Nodup := by
  have general : ∀ initial : List (String × α), (keys initial).Nodup →
      (keys (entries.foldl (fun dictionary entry => set dictionary entry.1 entry.2)
        initial)).Nodup := by
    induction entries with
    | nil => exact fun initial distinct => distinct
    | cons entry rest inductionHypothesis =>
      exact fun initial distinct => inductionHypothesis _ (nodup_keys_update distinct)
  exact general [] .nil

/-- What holds of all given values holds of those that count. -/
theorem forall_ofList {P : α → Prop} (all : ∀ entry ∈ entries, P entry.2) :
    ∀ entry ∈ ofList entries, P entry.2 := by
  have general : ∀ initial : List (String × α), (∀ entry ∈ initial, P entry.2) →
      ∀ entry ∈ entries.foldl (fun dictionary entry => set dictionary entry.1 entry.2) initial,
        P entry.2 := by
    induction entries with
    | nil => exact fun initial ofInitial => ofInitial
    | cons entry rest inductionHypothesis =>
      obtain ⟨first, others⟩ := List.forall_mem_cons.mp all
      intro initial ofInitial
      exact inductionHypothesis others _ (forall_update ofInitial first fun _ _ => first)
  exact general [] (List.forall_mem_nil _)

theorem set_of_new (isNew : key ∉ keys entries) (value : α) :
    set entries key value = entries ++ [(key, value)] := by
  induction entries with
  | nil => rfl
  | cons entry rest inductionHypothesis =>
    obtain ⟨name, first⟩ := entry
    obtain ⟨different, isNewRest⟩ := not_or.mp (List.mem_cons.not.mp isNew)
    rw [set, update, if_neg (Ne.symm different)]
    exact congrArg _ (inductionHypothesis isNewRest)

/-- Entries of distinct keys are a dictionary already. -/
theorem ofList_of_nodup (distinct : (keys entries).Nodup) : ofList entries = entries := by
  have general : ∀ initial : List (String × α), (keys (initial ++ entries)).Nodup →
      entries.foldl (fun dictionary entry => set dictionary entry.1 entry.2) initial =
        initial ++ entries := by
    induction entries with
    | nil => exact fun initial _ => (List.append_nil initial).symm
    | cons entry rest inductionHypothesis =>
      intro initial distinctAll
      obtain ⟨-, distinctRest⟩ := List.nodup_cons.mp distinct
      have isNew : entry.1 ∉ keys initial := by
        intro member
        rw [keys, List.map_append] at distinctAll
        exact (List.nodup_append.mp distinctAll).2.2 _ member _ List.mem_cons_self rfl
      have next := inductionHypothesis distinctRest (initial ++ [entry])
      rw [List.append_assoc, List.singleton_append] at next
      rw [List.foldl_cons, set_of_new isNew]
      exact next distinctAll
  exact general [] distinct

end ConfigBinding.Dictionary
