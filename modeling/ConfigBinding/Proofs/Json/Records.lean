import ConfigBinding.Json.Record
import Mathlib.Tactic.Common

/-!
# Laws of records

A record gives a value exactly when nothing is wrong with the record itself and each of its fields
gives one. Ranks only matter to faults.

* `Source.record_eq_ok`: a record that is read;
* `Record.read_seq_eq_ok`, `Record.read_map_eq_ok`, `Record.read_required_eq_ok`,
  `Record.read_optional_eq_ok`: what its fields give.
-/

namespace ConfigBinding

variable {σ ε α β : Type}

def Arranged.slot? (arranged : Arranged σ ε) (name : String) : Option (Slot σ) :=
  arranged.slots.find? fun slot => slot.name == name

theorem Arranged.mem_of_slot? {arranged : Arranged σ ε} {name : String} {slot : Slot σ}
    (found : arranged.slot? name = some slot) : slot ∈ arranged.slots :=
  List.mem_of_find?_eq_some found

/-- The keys after one that is new are also other than it, so no field comes twice. -/
theorem forall_known_of_new {names seen others : List String} {name : String}
    (isNew : name ∉ others) (known : ∀ key ∈ others, key ∈ names ∧ key ∉ seen) :
    ∀ key ∈ others, key ∈ names ∧ key ∉ name :: seen := by
  intro other member
  obtain ⟨otherKnown, otherNew⟩ := known other member
  refine ⟨otherKnown, List.not_mem_cons_of_ne_of_not_mem ?_ otherNew⟩
  rintro rfl
  exact isNew member

/-- Whether the fields that were found have the names of some entries, each with a source that
    belongs to the entry's value. -/
def SlotsMatch (R : σ → Json → Prop) (slots : List (Slot σ)) (entries : List (String × Json)) :
    Prop :=
  ∀ name, Option.Rel (fun slot json => R slot.source json)
    (slots.find? fun slot => slot.name == name) (entries.lookup name)

theorem SlotsMatch.cons {R : σ → Json → Prop} {slots : List (Slot σ)}
    {entries : List (String × Json)} (slotsMatch : SlotsMatch R slots entries) {slot : Slot σ}
    {json : Json} (isField : R slot.source json) :
    SlotsMatch R (slot :: slots) ((slot.name, json) :: entries) := by
  intro name
  by_cases same : slot.name = name
  · subst same
    rw [List.find?_cons_of_pos (by simp), List.lookup_cons_self]
    exact .some isField
  · rw [List.find?_cons_of_neg (by simpa using same), List.lookup_cons,
      beq_false_of_ne (Ne.symm same)]
    exact slotsMatch name

section Lookup

variable {R : σ → Json → Prop} {slots : List (Slot σ)} {entries : List (String × Json)}
  {name : String}

theorem SlotsMatch.exists_slot (slotsMatch : SlotsMatch R slots entries) {json : Json}
    (isEntry : entries.lookup name = some json) :
    ∃ slot, (slots.find? fun slot => slot.name == name) = some slot ∧ R slot.source json := by
  have related := slotsMatch name
  rw [isEntry] at related
  generalize (slots.find? fun slot => slot.name == name) = found at related ⊢
  cases related with
  | @some slot _ isField => exact ⟨slot, rfl, isField⟩

theorem SlotsMatch.find?_eq_none (slotsMatch : SlotsMatch R slots entries)
    (isMissing : entries.lookup name = none) :
    (slots.find? fun slot => slot.name == name) = none := by
  have related := slotsMatch name
  rw [isMissing] at related
  generalize (slots.find? fun slot => slot.name == name) = found at related ⊢
  cases related
  rfl

end Lookup

namespace Record

variable {arranged : Arranged σ ε}

theorem read_seq_eq_ok {f : Record σ ε (α → β)} {x : Record σ ε α} {b : β} :
    (f <*> x).read arranged = .ok b ↔
      ∃ g a, f.read arranged = .ok g ∧ x.read arranged = .ok a ∧ g a = b := by
  change (Ranked.both (f.read arranged) (x.read arranged)).map (fun pair => pair.1 pair.2) = _ ↔ _
  cases f.read arranged <;> cases x.read arranged <;> simp [Ranked.both, Except.map]

theorem read_map_eq_ok {g : α → β} {x : Record σ ε α} {b : β} :
    (g <$> x).read arranged = .ok b ↔ ∃ a, x.read arranged = .ok a ∧ g a = b := by
  change (pure g <*> x : Record σ ε β).read arranged = _ ↔ _
  rw [read_seq_eq_ok]
  constructor
  · rintro ⟨_, a, isPure, found, same⟩
    cases isPure
    exact ⟨a, found, same⟩
  · rintro ⟨a, found, same⟩
    exact ⟨g, a, rfl, found, same⟩

variable [Source σ ε] {name : String} {read : σ → Except ε α} {value : α}

theorem read_required_eq_ok :
    (required name read).read arranged = .ok value ↔
      ∃ slot, arranged.slot? name = some slot ∧ read slot.source = .ok value := by
  unfold required field Arranged.slot?
  dsimp only
  cases arranged.slots.find? fun slot => slot.name == name with
  | none => simp
  | some slot => cases result : read slot.source <;> simp [result]

theorem read_optional_eq_ok {default : α} :
    (optional name read default).read arranged = .ok value ↔
      (∃ slot, arranged.slot? name = some slot ∧ read slot.source = .ok value) ∨
        arranged.slot? name = none ∧ default = value := by
  unfold optional field Arranged.slot?
  dsimp only
  cases arranged.slots.find? fun slot => slot.name == name with
  | none => simp
  | some slot => cases result : read slot.source <;> simp [result]

end Record

theorem Source.record_eq_ok [Source σ ε] {what : String} {fields : Record σ ε α} {source : σ}
    {value : α} :
    Source.record what fields source = .ok value ↔
      ∃ arranged, Source.arrange what fields.names source = .ok arranged ∧
        arranged.breach = none ∧ fields.read arranged = .ok value := by
  rw [Source.record]
  cases Source.arrange what fields.names source with
  | error fault => simp
  | ok arranged =>
    cases breach : arranged.breach <;> cases result : fields.read arranged <;>
      simp [Ranked.both, breach, result]

end ConfigBinding
