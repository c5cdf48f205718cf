import ConfigBinding.Json.Fault

/-!
# Records read from JSON

What the values of a schema are read from, and how the records among them are read.

A value is read either straight from a text, with positions (`Cursor`), or from a JSON value that
was read whole before (`Json`). Both are a `Source`, so a reader is written once. A record is an
object of named fields or a list of the fields in declared order. Its fields are read independently
of each other, but of several faults the one that stands first in the text is reported: each comes
with a rank, and the lowest wins (`Ranked.both`).

* `Source`: what can be asked of a value;
* `Record`: the fields of a record and how they make up a value; `Record.required` and
  `Record.optional` read one field, and the applicative operations combine them in declared order;
* `Source.record`: reads a record.
-/

namespace ConfigBinding

/-- A field that was found, and its rank in the text. -/
structure Slot (σ : Type) where
  name : String
  rank : Nat
  source : σ

structure Arranged (σ ε : Type) where
  /-- The known fields, each at its first place. -/
  slots : List (Slot σ)
  /-- The first fault of the record itself, which is not inside a known field. -/
  breach : Option (Nat × ε)
  absent : String → Nat × ε

/-- What a value can be asked for; `ε` says what may be wrong with it. -/
class Source (σ : Type) (ε : outParam Type) where
  string : σ → Except ε String
  bool : σ → Except ε Bool
  /-- Nothing where the value is null. -/
  nullable {α : Type} (read : σ → Except ε α) : σ → Except ε (Option α)
  list {α : Type} (read : σ → Except ε α) : σ → Except ε (List α)
  /-- One of several names. -/
  choice {α : Type} (variants : List (String × α)) : σ → Except ε α
  /-- One of several records, told apart by the value of a field. -/
  tagged {α : Type} (tag what : String) (variants : List (String × (Json → Except Mismatch α))) :
    σ → Except ε α
  /-- A value that is read whole before it is looked at. -/
  whole {α : Type} (read : Json → Except Mismatch α) : σ → Except ε α
  /-- The fields of a record, given its name for messages and the names of its fields. -/
  arrange (what : String) (names : List String) : σ → Except ε (Arranged σ ε)
  /-- Adds to a fault of a field where the field stands. -/
  locate : σ → ε → ε

/-- A result whose fault has a rank. -/
abbrev Ranked (ε α : Type) := Except (Nat × ε) α

/-- Two results together; of two faults the one with the lower rank. -/
def Ranked.both {ε α β : Type} : Ranked ε α → Ranked ε β → Ranked ε (α × β)
  | .ok first, .ok second => .ok (first, second)
  | .ok _, .error fault => .error fault
  | .error fault, .ok _ => .error fault
  | .error fault, .error other => .error (if other.1 < fault.1 then other else fault)

/-- How a record is read: the names of its fields, in declared order, and what they make up. -/
structure Record (σ ε α : Type) where
  names : List String
  read : Arranged σ ε → Ranked ε α

namespace Record

variable {σ ε α : Type}

/-- A field with what stands in for it when it is missing. -/
def field [Source σ ε] (name : String) (read : σ → Except ε α)
    (missing : Arranged σ ε → Ranked ε α) : Record σ ε α where
  names := [name]
  read arranged :=
    match arranged.slots.find? fun slot => slot.name == name with
    | some slot =>
      match read slot.source with
      | .ok value => .ok value
      | .error fault => .error (slot.rank, Source.locate slot.source fault)
    | none => missing arranged

def required [Source σ ε] (name : String) (read : σ → Except ε α) : Record σ ε α :=
  field name read fun arranged => .error (arranged.absent name)

def optional [Source σ ε] (name : String) (read : σ → Except ε α) (default : α) : Record σ ε α :=
  field name read fun _ => .ok default

instance : Applicative (Record σ ε) where
  pure value := ⟨[], fun _ => .ok value⟩
  seq f x :=
    { names := f.names ++ (x ()).names
      read := fun arranged =>
        (Ranked.both (f.read arranged) ((x ()).read arranged)).map fun pair => pair.1 pair.2 }

end Record

def countedFields (what : String) (count : Nat) : String :=
  what ++ " with " ++ toString count ++ (if count == 1 then " element" else " elements")

namespace Source

variable {σ ε α : Type} [Source σ ε]

/-- Reads a record; `what` names it in messages. -/
def record (what : String) (fields : Record σ ε α) (source : σ) : Except ε α :=
  match arrange what fields.names source with
  | .error fault => .error fault
  | .ok arranged =>
    let unbroken : Ranked ε Unit :=
      match arranged.breach with
      | none => .ok ()
      | some fault => .error fault
    match Ranked.both unbroken (fields.read arranged) with
    | .ok (_, value) => .ok value
    | .error (_, fault) => .error fault

end Source

end ConfigBinding
