import ConfigBinding.Proofs.Store.Settings

/-!
# Changes to a dictionary, one after the other

A list of changes, each to the value of one key, goes through a dictionary. The value of a key comes
from the changes to this key alone, in their order, and keys that are new come after all others in
the order in which they are first changed. So whether changes may be made again depends on each key
alone.

* `Dictionary.lookup_changeAll`, `Dictionary.keys_changeAll`: the values and the keys afterwards;
* `Dictionary.changeAll_changeAll`: when making all changes again changes nothing;
* `latest`, `raised`: attributes that the last one given decides, and flags that are only ever set.
-/

namespace ConfigBinding

/-! ## Attributes -/

section Attributes

variable {α : Type}

/-- An attribute that was given several times, the last time being what counts. -/
def latest (given : List (Option α)) (initial : Option α) : Option α :=
  given.foldl (fun old new => new <|> old) initial

/-- A flag that is only ever set. -/
def raised (given : List Bool) (initial : Bool) : Bool :=
  given.foldl (fun old new => old || new) initial

theorem latest_eq (given : List (Option α)) (initial : Option α) :
    latest given initial = (latest given none <|> initial) := by
  induction given generalizing initial with
  | nil => rfl
  | cons first rest inductionHypothesis =>
    have step : ∀ old, latest (first :: rest) old = latest rest (first <|> old) := fun _ => rfl
    rw [step, step, inductionHypothesis, inductionHypothesis (first <|> none)]
    cases latest rest none <;> cases first <;> rfl

/-- Giving an attribute all over again ends with the same. -/
@[simp] theorem latest_latest (given : List (Option α)) (initial : Option α) :
    latest given (latest given initial) = latest given initial := by
  rw [latest_eq given (latest given initial), latest_eq given initial]
  cases latest given none <;> rfl

theorem raised_eq (given : List Bool) (initial : Bool) :
    raised given initial = (initial || given.any id) := by
  induction given generalizing initial with
  | nil => simp [raised]
  | cons first rest inductionHypothesis =>
    have step : raised (first :: rest) initial = raised rest (initial || first) := rfl
    rw [step, inductionHypothesis, List.any_cons, id, Bool.or_assoc]

@[simp] theorem raised_raised (given : List Bool) (initial : Bool) :
    raised given (raised given initial) = raised given initial := by
  simp only [raised_eq, Bool.or_assoc, Bool.or_self]

end Attributes

namespace Dictionary

variable {α : Type}

def keys (entries : List (String × α)) : List String := entries.map Prod.fst

/-- A dictionary after changes, each to the value of a key. -/
def changeAll (entries : List (String × α)) (initial : α) (changes : List (String × (α → α))) :
    List (String × α) :=
  changes.foldl (fun entries change => update entries change.1 initial change.2) entries

/-- The keys among some that are not known yet, in the order in which they first come. -/
def newKeys (known named : List String) : List String :=
  (named.filter fun key => key ∉ known).eraseDups

def toOthers (key : String) (changes : List (String × (α → α))) : List (String × (α → α)) :=
  changes.filter fun change => change.1 ≠ key

/-- What becomes of the value of a key when changes go through a dictionary. -/
def changeValue (key : String) (changes : List (String × (α → α))) (value : α) : α :=
  (changes.filter fun change => change.1 = key).foldl (fun value change => change.2 value) value

section Laws

variable (initial : α) {key : String} (change : α → α) (rest : List (String × (α → α)))

theorem changeValue_cons_self (value : α) :
    changeValue key ((key, change) :: rest) value = changeValue key rest (change value) := by
  simp [changeValue]

theorem changeValue_cons_of_ne {other : String} (different : other ≠ key) (value : α) :
    changeValue key ((other, change) :: rest) value = changeValue key rest value := by
  simp [changeValue, different]

theorem toOthers_cons_self : toOthers key ((key, change) :: rest) = toOthers key rest := by
  simp [toOthers]

theorem toOthers_cons_of_ne {other : String} (different : other ≠ key) :
    toOthers key ((other, change) :: rest) = (other, change) :: toOthers key rest := by
  simp [toOthers, different]

theorem length_toOthers_le (key : String) : (toOthers key rest).length ≤ rest.length :=
  List.length_filter_le _ _

theorem changeValue_toOthers {other : String} (different : other ≠ key)
    (changes : List (String × (α → α))) (value : α) :
    changeValue other (toOthers key changes) value = changeValue other changes value := by
  have kept : (fun c : String × (α → α) => decide (c.1 = other) && decide (c.1 ≠ key)) =
      fun c => decide (c.1 = other) := by
    funext c
    by_cases same : c.1 = other
    · simp [same, different]
    · simp [same]
  simp only [changeValue, toOthers, List.filter_filter, kept]

end Laws

/-- A property holds of all changes when it passes from those to other keys than the first one's. -/
theorem toOthers_induction {motive : List (String × (α → α)) → Prop} (nil : motive [])
    (cons : ∀ key change rest, motive (toOthers key rest) → motive ((key, change) :: rest)) :
    ∀ changes, motive changes
  | [] => nil
  | (key, change) :: rest => cons key change rest (toOthers_induction nil cons (toOthers key rest))
termination_by changes => changes.length
decreasing_by
  have noMore := length_toOthers_le rest key
  simp only [List.length_cons]
  omega

/-! ## What changes make of a dictionary -/

/-- The first entry takes the changes to its key, and the entries after it all others. -/
theorem changeAll_cons (name : String) (value : α) (entries : List (String × α)) (initial : α)
    (changes : List (String × (α → α))) :
    changeAll ((name, value) :: entries) initial changes =
      (name, changeValue name changes value) ::
        changeAll entries initial (toOthers name changes) := by
  induction changes generalizing value entries with
  | nil => rfl
  | cons first rest inductionHypothesis =>
    obtain ⟨key, change⟩ := first
    by_cases same : name = key
    · subst same
      have updated : update ((name, value) :: entries) name initial change =
          (name, change value) :: entries := by simp [update]
      rw [changeAll, List.foldl_cons, updated, ← changeAll, inductionHypothesis,
        changeValue_cons_self, toOthers_cons_self]
    · have updated : update ((name, value) :: entries) key initial change =
          (name, value) :: update entries key initial change := by simp [update, same]
      rw [changeAll, List.foldl_cons, updated, ← changeAll, inductionHypothesis,
        changeValue_cons_of_ne _ _ (Ne.symm same), toOthers_cons_of_ne _ _ (Ne.symm same)]
      rfl

/-- In an empty dictionary the first change makes the first entry. -/
theorem changeAll_nil_cons (initial : α) (key : String) (change : α → α)
    (rest : List (String × (α → α))) :
    changeAll [] initial ((key, change) :: rest) =
      (key, changeValue key ((key, change) :: rest) initial) ::
        changeAll [] initial (toOthers key ((key, change) :: rest)) := by
  have updated : update [] key initial change = [(key, change initial)] := rfl
  rw [changeAll, List.foldl_cons, updated, ← changeAll, changeAll_cons, changeValue_cons_self,
    toOthers_cons_self]

theorem lookup_changeAll (entries : List (String × α)) (initial : α)
    (changes : List (String × (α → α))) (key : String) :
    (changeAll entries initial changes).lookup key =
      if key ∈ changes.map Prod.fst then
        some (changeValue key changes ((entries.lookup key).getD initial))
      else entries.lookup key := by
  induction changes generalizing entries with
  | nil => rfl
  | cons first rest inductionHypothesis =>
    obtain ⟨name, change⟩ := first
    rw [changeAll, List.foldl_cons, ← changeAll, inductionHypothesis, List.map_cons]
    by_cases same : name = key
    · subst same
      rw [lookup_update_self, Option.getD_some, changeValue_cons_self]
      by_cases again : name ∈ rest.map Prod.fst
      · simp [again]
      · -- This was the last change to the key, and its value is that of the change.
        have noMore : rest.filter (fun change => change.1 = name) = [] := by
          refine List.filter_eq_nil_iff.mpr fun change member sameName => again ?_
          rw [← of_decide_eq_true sameName]
          exact List.mem_map_of_mem member
        simp [again, changeValue, noMore]
    · rw [lookup_update_of_ne _ (Ne.symm same), changeValue_cons_of_ne _ _ same]
      have notFirst : key ∈ name :: rest.map Prod.fst ↔ key ∈ rest.map Prod.fst := by
        simp [Ne.symm same]
      rw [if_congr notFirst rfl rfl]

/-- New keys come last, in the order in which they are first changed. -/
theorem keys_changeAll (entries : List (String × α)) (initial : α)
    (changes : List (String × (α → α))) :
    keys (changeAll entries initial changes) =
      keys entries ++ newKeys (keys entries) (changes.map Prod.fst) := by
  have othersOf : ∀ (name : String) (p : String → Bool) (changes : List (String × (α → α))),
      (((toOthers name changes).map Prod.fst).filter p) =
        ((changes.map Prod.fst).filter fun key => p key && key ≠ name) := by
    intro name p changes
    simp only [toOthers, List.filter_map, List.filter_filter]
    rfl
  unfold newKeys
  induction entries generalizing changes with
  | nil =>
    induction changes using toOthers_induction with
    | nil => rfl
    | cons key change rest inductionHypothesis =>
      rw [othersOf] at inductionHypothesis
      rw [changeAll_nil_cons, toOthers_cons_self, keys, List.map_cons, ← keys, inductionHypothesis]
      simp only [keys, List.map_nil, List.not_mem_nil, not_false_eq_true, decide_true,
        Bool.true_and, List.nil_append, List.filter_true, List.map_cons, List.eraseDups_cons,
        ne_eq, decide_not]
      rfl
  | cons entry entries inductionHypothesis =>
    obtain ⟨name, value⟩ := entry
    rw [changeAll_cons, keys, List.map_cons, ← keys, inductionHypothesis, othersOf]
    have notListed : (fun key => decide (key ∉ keys entries) && decide (key ≠ name)) =
        fun key => decide (key ∉ keys ((name, value) :: entries)) := by
      funext key
      have listed : keys ((name, value) :: entries) = name :: keys entries := rfl
      simp [listed, Bool.and_comm]
    rw [notListed]
    rfl

/-! ## Changes made again -/

/-- When the changes to each key may be made again without effect, so may all of them. -/
theorem changeAll_changeAll (entries : List (String × α)) (initial : α)
    (changes : List (String × (α → α)))
    (again : ∀ key value, changeValue key changes (changeValue key changes value) =
      changeValue key changes value) :
    changeAll (changeAll entries initial changes) initial changes =
      changeAll entries initial changes := by
  -- The induction is over fewer and fewer changes, and they too may be made again.
  have againToOthers : ∀ (name : String) (changes : List (String × (α → α))),
      (∀ key value, changeValue key changes (changeValue key changes value) =
        changeValue key changes value) →
      ∀ key value, changeValue key (toOthers name changes)
          (changeValue key (toOthers name changes) value) =
        changeValue key (toOthers name changes) value := by
    intro name changes again key value
    by_cases same : key = name
    · have noChange : (toOthers name changes).filter (fun change => change.1 = key) = [] := by
        simp only [toOthers, List.filter_filter, List.filter_eq_nil_iff]
        simp [same]
      simp [changeValue, noChange]
    · simp only [changeValue_toOthers same, again]
  induction entries generalizing changes with
  | nil =>
    induction changes using toOthers_induction with
    | nil => rfl
    | cons key change rest inductionHypothesis =>
      have others := againToOthers key _ again
      rw [toOthers_cons_self] at others
      rw [changeAll_nil_cons, changeAll_cons, again, toOthers_cons_self, inductionHypothesis others]
  | cons entry entries inductionHypothesis =>
    obtain ⟨name, value⟩ := entry
    rw [changeAll_cons, changeAll_cons, again,
      inductionHypothesis _ (againToOthers name changes again)]

end Dictionary

end ConfigBinding
