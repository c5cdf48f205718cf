import ConfigBinding.Json.Record

/-!
# Values read from whole JSON values

The `Source` of values inside a JSON value that was read before. Faults have no position here;
whoever asked for the whole value supplies one.
-/

namespace ConfigBinding

def Json.found : Json → Found
  | .null => .null
  | .bool value => .bool value
  | .number value => .number value
  | .string value => .string value
  | .array _ => .sequence
  | .object _ => .map

namespace Json

def refuse {α : Type} (json : Json) (expected : String) : Except Mismatch α :=
  .error (.wrongType json.found expected)

def variant {α : Type} (variants : List (String × α)) (name : String) : Except Mismatch α :=
  match variants.lookup name with
  | some value => .ok value
  | none => .error (.unknownVariant name (variants.map (·.1)))

/-- The variant that the value of a tag stands for: its name or its index. -/
def tagVariant {α : Type} (variants : List (String × α)) : Json → Except Mismatch α
  | .string name => variant variants name
  | .number (.whole index) =>
    if index < 0 then refuse (.number (.whole index)) "variant identifier"
    else
      match variants[index.toNat]? with
      | some (_, value) => .ok value
      | none =>
        .error (.wrongValue (.number (.whole index))
          ("variant index 0 <= i < " ++ toString variants.length))
  | other => other.refuse "variant identifier"

/-- The tag among members, read by `read`, and the other members. -/
def splitTag {α : Type} (tag : String) (read : Json → Except Mismatch α) (seen : Option α) :
    List (String × Json) → Except Mismatch (Option α × List (String × Json))
  | [] => .ok (seen, [])
  | (name, value) :: rest =>
    if name == tag then
      if seen.isSome then .error (.duplicateField tag)
      else do
        let found ← read value
        splitTag tag read (some found) rest
    else do
      let (found, others) ← splitTag tag read seen rest
      return (found, (name, value) :: others)

/-- The fields of a record among members, counted from `rank`; `seen` are the known ones passed. -/
def arrangeMembers (names seen : List String) (rank : Nat) :
    List (String × Json) → List (Slot Json) × Option (Nat × Mismatch)
  | [] => ([], none)
  | (name, value) :: rest =>
    if !names.contains name then arrangeMembers names seen (rank + 1) rest
    else if seen.contains name then ([], some (rank, .duplicateField name))
    else
      let (slots, breach) := arrangeMembers names (name :: seen) (rank + 1) rest
      (⟨name, rank, value⟩ :: slots, breach)

/-- The fields of a record given as a list in declared order. -/
def arrangeItems (names : List String) (items : List Json) : List (Slot Json) :=
  ((names.zip items).zipIdx).map fun ((name, item), rank) => ⟨name, rank, item⟩

/-- The fields of a record. A list may be shorter than the fields but not longer. -/
def arrange (what : String) (names : List String) :
    Json → Except Mismatch (Arranged Json Mismatch)
  | .object members =>
    let (slots, breach) := arrangeMembers names [] 0 members
    let absent (name : String) :=
      (members.length + 1 + names.idxOf name, Mismatch.missingField name)
    .ok ⟨slots, breach, absent⟩
  | .array items =>
    let excess : Mismatch :=
      .wrongLength items.length
        (toString names.length ++ (if names.length == 1 then " element" else " elements") ++
          " in sequence")
    let breach := if names.length < items.length then some (items.length, excess) else none
    let absent (name : String) :=
      let index := names.idxOf name
      (items.length + 1 + index, Mismatch.wrongLength index (countedFields what names.length))
    .ok ⟨arrangeItems names items, breach, absent⟩
  | other => other.refuse what

/-- A unit where a variant without fields is named as the only member of an object. -/
def unit : Json → Except Mismatch Unit
  | .null | .object [] => .ok ()
  | other => other.refuse "unit"

/-- One of several names, given as a string or as the only member of an object. -/
def choice {α : Type} (variants : List (String × α)) : Json → Except Mismatch α
  | .string name => variant variants name
  | .object [(name, value)] => do
    let chosen ← variant variants name
    value.unit
    return chosen
  | .object _ => .error (.wrongValue .map "map with a single key")
  | other => other.refuse "string or map"

/-- A tagged record: what the variant's reader makes of the fields besides the tag. In a list the
    tag comes first. -/
def tagged {α : Type} (tag what : String) (variants : List (String × (Json → Except Mismatch α))) :
    Json → Except Mismatch α
  | .object members => do
    let (found, others) ← splitTag tag (tagVariant variants) none members
    match found with
    | some read => read (.object others)
    | none => .error (.missingField tag)
  | .array (first :: items) => do
    let read ← tagVariant variants first
    read (.array items)
  | .array [] => .error (.missingField tag)
  | other => other.refuse what

/-- A record without fields: any object, or an empty list. -/
def noFields {α : Type} (value : α) : Json → Except Mismatch α
  | .array (first :: rest) =>
    .error (.wrongLength (first :: rest).length "0 elements in sequence")
  | _ => .ok value

instance : Source Json Mismatch where
  string
    | .string value => .ok value
    | other => other.refuse "a string"
  bool
    | .bool value => .ok value
    | other => other.refuse "a boolean"
  nullable read
    | .null => .ok none
    | other => (read other).map some
  list read
    | .array items => items.mapM read
    | other => other.refuse "a sequence"
  choice := choice
  tagged := tagged
  whole read := read
  arrange := arrange
  locate _ fault := fault

end Json

end ConfigBinding
