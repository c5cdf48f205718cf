import ConfigBinding.Binding.Assignment
import ConfigBinding.Proofs.Lists

/-!
# Laws of runs

What a run of steps does, from what each step does.

* `Run.writes`: the values that a run hands to setters;
* `Run.forEach_writes`: the writes of a run belong to the steps up to the one that stopped it;
* `Run.hasRefusedWrite_of_forEach`: a run is stopped by a refused value only if a setter refused it;
* `Run.forEach_succeeds`: a run whose steps all succeed makes the writes of all of them in order.
-/

namespace ConfigBinding

def Call.write? : Call → Option (Setter × Value)
  | .set setter value => some (setter, value)
  | .hook _ => none

def Run.writes {σ : Type} (run : Run σ) : List (Setter × Value) := run.calls.filterMap Call.write?

/-- Whether a run was stopped by a value that does not fit or was refused. -/
def Run.Refused {σ : Type} (run : Run σ) : Prop :=
  ∃ site error, run.failure = some (.value site error)

def Run.HasRefusedWrite {σ : Type} (run : Run σ) : Prop :=
  ∃ write ∈ run.writes, ∃ error, write.1.accept write.2 = .error error

namespace Run

variable {σ α : Type}

theorem eq_of_parts {first second : Run σ} (state : first.state = second.state)
    (calls : first.calls = second.calls) (failure : first.failure = second.failure) :
    first = second := by
  cases first
  cases second
  simp_all

theorem andThen_of_failure {first : Run σ} {error : BindError} (failed : first.failure = some error)
    (next : σ → Run σ) : first.andThen next = first := by
  simp [andThen, failed]

theorem andThen_of_success {first : Run σ} (succeeded : first.failure = none)
    (next : σ → Run σ) :
    first.andThen next =
      { next first.state with calls := first.calls ++ (next first.state).calls } := by
  simp [andThen, succeeded]

theorem writes_andThen_of_success {first : Run σ} (succeeded : first.failure = none)
    (next : σ → Run σ) :
    (first.andThen next).writes = first.writes ++ (next first.state).writes := by
  rw [andThen_of_success succeeded]
  exact List.filterMap_append

theorem writes_prefix_andThen (first : Run σ) (next : σ → Run σ) :
    first.writes <+: (first.andThen next).writes := by
  cases outcome : first.failure with
  | some error =>
    simp only [andThen_of_failure outcome, List.prefix_rfl]
  | none =>
    rw [writes_andThen_of_success outcome]
    exact List.prefix_append _ _

theorem andThen_assoc (first : Run σ) (second third : σ → Run σ) :
    (first.andThen second).andThen third =
      first.andThen fun state => (second state).andThen third := by
  cases outcome : first.failure with
  | some error => rw [andThen_of_failure outcome, andThen_of_failure outcome,
      andThen_of_failure outcome]
  | none =>
    cases next : (second first.state).failure <;>
      simp [andThen, outcome, next]

theorem forEach_append (step : α → σ → Run σ) (earlier later : List α) (state : σ) :
    forEach step (earlier ++ later) state =
      (forEach step earlier state).andThen (forEach step later) := by
  induction earlier generalizing state with
  | nil => rfl
  | cons item rest inductionHypothesis =>
    rw [List.cons_append, forEach, forEach, andThen_assoc]
    exact congrArg _ (funext inductionHypothesis)

/-- When the steps before one succeed, the writes of this step come next. -/
theorem writes_of_split {step : α → σ → Run σ} {before after : List α} {item : α} {state : σ}
    (succeeded : (forEach step before state).failure = none) :
    (forEach step before state).writes ++ (step item (forEach step before state).state).writes <+:
      (forEach step (before ++ item :: after) state).writes := by
  rw [forEach_append, writes_andThen_of_success succeeded, List.prefix_append_right_inj, forEach]
  exact writes_prefix_andThen _ _

/-- Each step makes one write or stops without a write, apart from steps that are no part of the
    count. Then the writes of a run are those of the counted steps up to where it stopped. -/
theorem forEach_writes {β : Type} {step : α → σ → Run σ} (counted : α → Option β)
    {made : β → Setter × Value → Prop} {items : List α}
    (uncounted : ∀ item ∈ items, counted item = none → ∀ state, (step item state).writes = [])
    (oneWrite : ∀ item ∈ items, ∀ part, counted item = some part → ∀ state,
      (∃ write, (step item state).writes = [write] ∧ made part write) ∨
        (step item state).writes = [] ∧ ∃ error, (step item state).failure = some error)
    (state : σ) :
    ∃ done, done <+: items.filterMap counted ∧
      List.Forall₂ made done (forEach step items state).writes := by
  induction items generalizing state with
  | nil => exact ⟨[], List.prefix_rfl, .nil⟩
  | cons item rest inductionHypothesis =>
    have later := inductionHypothesis
      (fun other member => uncounted other (List.mem_cons_of_mem item member))
      (fun other member => oneWrite other (List.mem_cons_of_mem item member))
    rw [forEach]
    cases isCounted : counted item with
    | none =>
      have noWrite := uncounted item List.mem_cons_self isCounted state
      rw [List.filterMap_cons_none isCounted]
      cases outcome : (step item state).failure with
      | some error =>
        rw [andThen_of_failure outcome, noWrite]
        exact ⟨[], List.nil_prefix, .nil⟩
      | none =>
        rw [writes_andThen_of_success outcome, noWrite]
        exact later _
    | some part =>
      rw [List.filterMap_cons_some isCounted]
      obtain ⟨write, isOnly, isMade⟩ | ⟨noWrite, error, outcome⟩ :=
        oneWrite item List.mem_cons_self part isCounted state
      · cases outcome : (step item state).failure with
        | some error =>
          rw [andThen_of_failure outcome, isOnly]
          exact ⟨[part], by simp, .cons isMade .nil⟩
        | none =>
          obtain ⟨done, isPrefix, doneMade⟩ := later (step item state).state
          rw [writes_andThen_of_success outcome, isOnly]
          exact ⟨part :: done, List.cons_prefix_cons.mpr ⟨rfl, isPrefix⟩, .cons isMade doneMade⟩
      · rw [andThen_of_failure outcome, noWrite]
        exact ⟨[], List.nil_prefix, .nil⟩

/-- When a step is stopped by a refused value only if its setter refused it, so is a run. -/
theorem hasRefusedWrite_of_forEach {step : α → σ → Run σ}
    (oneStep : ∀ item state, (step item state).Refused → (step item state).HasRefusedWrite)
    {items : List α} {state : σ} (refused : (forEach step items state).Refused) :
    (forEach step items state).HasRefusedWrite := by
  induction items generalizing state with
  | nil =>
    obtain ⟨site, error, failed⟩ := refused
    cases failed
  | cons item rest inductionHypothesis =>
    rw [forEach] at refused ⊢
    cases outcome : (step item state).failure with
    | some earlier =>
      rw [andThen_of_failure outcome] at refused ⊢
      exact oneStep item state refused
    | none =>
      rw [HasRefusedWrite, writes_andThen_of_success outcome]
      rw [andThen_of_success outcome] at refused
      obtain ⟨write, member, isRefused⟩ := inductionHypothesis refused
      exact ⟨write, List.mem_append_right _ member, isRefused⟩

/-- A run succeeds when an invariant of the steps that are left and the state lets every step
    succeed and passes on to the next. If each counted step makes one write, and other steps none,
    the writes of the run are those of all counted steps. -/
theorem forEach_succeeds {β : Type} {step : α → σ → Run σ} (counted : α → Option β)
    {made : β → Setter × Value → Prop} (invariant : List α → σ → Prop)
    (oneStep : ∀ item rest state, invariant (item :: rest) state →
      (step item state).failure = none ∧ invariant rest (step item state).state)
    (uncounted : ∀ item rest state, invariant (item :: rest) state → counted item = none →
      (step item state).writes = [])
    (oneWrite : ∀ item rest state, invariant (item :: rest) state →
      ∀ part, counted item = some part →
        ∃ write, (step item state).writes = [write] ∧ made part write)
    {items : List α} {state : σ} (holds : invariant items state) :
    (forEach step items state).failure = none ∧
      List.Forall₂ made (items.filterMap counted) (forEach step items state).writes ∧
      invariant [] (forEach step items state).state := by
  induction items generalizing state with
  | nil => exact ⟨rfl, .nil, holds⟩
  | cons item rest inductionHypothesis =>
    obtain ⟨succeeded, passedOn⟩ := oneStep item rest state holds
    obtain ⟨restSucceeds, restMade, atEnd⟩ := inductionHypothesis passedOn
    rw [forEach, writes_andThen_of_success succeeded]
    rw [andThen_of_success succeeded]
    refine ⟨restSucceeds, ?_, atEnd⟩
    cases isCounted : counted item with
    | none =>
      rw [List.filterMap_cons_none isCounted, uncounted item rest state holds isCounted]
      exact restMade
    | some part =>
      obtain ⟨write, isOnly, isMade⟩ := oneWrite item rest state holds part isCounted
      rw [List.filterMap_cons_some isCounted, isOnly]
      exact .cons isMade restMade

/-- A run succeeds when every step does, from any state, and makes one write. -/
theorem forEach_succeeds_each {step : α → σ → Run σ} {made : α → Setter × Value → Prop}
    {items : List α}
    (oneStep : ∀ item ∈ items, ∀ state, (step item state).failure = none ∧
      ∃ write, (step item state).writes = [write] ∧ made item write) (state : σ) :
    (forEach step items state).failure = none ∧
      List.Forall₂ made items (forEach step items state).writes := by
  have run : (forEach step items state).failure = none ∧
      List.Forall₂ made (items.filterMap some) (forEach step items state).writes ∧ [] ⊆ items := by
    refine forEach_succeeds some (fun rest _ => rest ⊆ items) ?_ ?_ ?_ (List.Subset.refl items)
    · intro item rest state isPart
      obtain ⟨member, restPart⟩ := List.cons_subset.mp isPart
      exact ⟨(oneStep item member state).1, restPart⟩
    · intro item rest state _ isCounted
      cases isCounted
    · rintro item rest state isPart _ ⟨⟩
      exact (oneStep item (List.cons_subset.mp isPart).1 state).2
  rw [List.filterMap_some] at run
  exact ⟨run.1, run.2.1⟩

end Run

/-! ## One assignment -/

section Assign

variable {σ : Type} {setter : Setter} {site : String} {type : FieldType} {raw : Value} {state : σ}

@[simp] theorem call_calls (value : Value) :
    (call (some setter) site value state).calls = [.set setter value] := by
  unfold call
  dsimp only
  split <;> rfl

theorem call_failure (value : Value) :
    (call (some setter) site value state).failure =
      match setter.accept value with
      | .ok () => none
      | .error error => some (.value site error) := by
  unfold call
  dsimp only
  split <;> simp_all

@[simp] theorem call_state (bound : Option Setter) (value : Value) :
    (call bound site value state).state = state := by
  unfold call
  split
  · rfl
  · split <;> rfl

@[simp] theorem assign_calls :
    (assign (some setter) site type raw state).calls = [.set setter (type.realize raw)] :=
  call_calls _

@[simp] theorem assign_state (bound : Option Setter) :
    (assign bound site type raw state).state = state :=
  call_state _ _

theorem assign_writes :
    (assign (some setter) site type raw state).writes = [(setter, type.realize raw)] := by
  rw [Run.writes, assign_calls]
  rfl

/-- An assignment writes once, or stops because there is no setter. -/
theorem assign_writes_or_fails (bound : Option Setter) :
    (∃ setter, bound = some setter ∧
        (assign bound site type raw state).writes = [(setter, type.realize raw)]) ∨
      (assign bound site type raw state).writes = [] ∧
        ∃ error, (assign bound site type raw state).failure = some error := by
  cases bound with
  | none => exact .inr ⟨rfl, .unbound site, rfl⟩
  | some setter => exact .inl ⟨setter, rfl, assign_writes⟩

/-- An assignment is stopped by a refused value only if the setter refused it. -/
theorem hasRefusedWrite_of_assign {bound : Option Setter}
    (refused : (assign bound site type raw state).Refused) :
    (assign bound site type raw state).HasRefusedWrite := by
  obtain ⟨failedSite, error, failed⟩ := refused
  cases bound with
  | none => cases failed
  | some setter =>
    refine ⟨(setter, type.realize raw), by simp [assign_writes], ?_⟩
    rw [assign, call_failure] at failed
    split at failed
    next => cases failed
    next isError => exact ⟨_, isError⟩

theorem assign_accepted (accepts : setter.accept (type.realize raw) = .ok ()) :
    (assign (some setter) site type raw state).failure = none := by
  rw [assign, call_failure, accepts]

end Assign

end ConfigBinding
