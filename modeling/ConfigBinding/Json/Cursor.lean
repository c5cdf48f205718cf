import ConfigBinding.Json.Record
import ConfigBinding.Json.Tree
import ConfigBinding.Json.Whole

/-!
# Values read from JSON text

The `Source` of values in a text. A `Cursor` is a tree with the way it was reached, so that every
fault gets its path and position:

* a scalar of the wrong type is reported at its end, a list or object just before it begins;
* what is missing from a record is reported at the record's end;
* a value that was read whole and does not fit is reported where the reader stood when it came back
  to the list or object around the value, and has no position when there is none.

`readText` reads the first value of a text, `readWholeText` also refuses anything after it.
-/

namespace ConfigBinding

/-- A value in a text, how many levels may be opened in it, and the step and the settled byte that
    lead to it from the list or object around it. -/
structure Cursor where
  tree : Tree
  levels : Nat
  step : Option PathStep
  settled : Option Nat

/-- What a scalar is, for messages, or why it has no value. -/
def Scalar.found : Scalar → Except Defect Found
  | .null => .ok .null
  | .bool value => .ok (.bool value)
  | .number value => value.map .number
  | .string value => value.map .string

/-- The fault of a lexeme's scalar that ends at byte `stop` where something else is expected. -/
def Scalar.wrongType (scalar : Scalar) (stop : Nat) (expected : String) : Fault :=
  match scalar.found with
  | .ok found => .ofMismatch stop (.wrongType found expected)
  | .error defect => .ofDefect defect

def Tree.wrongType (tree : Tree) (expected : String) : Fault :=
  match tree with
  | .scalar _ stop value => value.wrongType stop expected
  | .array start _ => .ofMismatch start (.wrongType .sequence expected)
  | .object start _ => .ofMismatch start (.wrongType .map expected)
  | .broken _ _ read _ => .ofDefect read

namespace Cursor

/-- Adds to a fault in a value the step to the value, and a position if there is none. -/
def locate (cursor : Cursor) (fault : Fault) : Fault :=
  { fault with
    path := cursor.step.toList ++ fault.path
    offset := fault.offset <|> cursor.settled }

def reading {α : Type} (cursor : Cursor) (read : Cursor → Except Fault α) : Except Fault α :=
  (read cursor).mapError cursor.locate

def string (cursor : Cursor) : Except Fault String :=
  match cursor.tree with
  | .scalar _ _ (.string (.ok value)) => .ok value
  | other => .error (other.wrongType "a string")

def bool (cursor : Cursor) : Except Fault Bool :=
  match cursor.tree with
  | .scalar _ _ (.bool value) => .ok value
  | other => .error (other.wrongType "a boolean")

/-- Nothing for null. -/
def nullable {α : Type} (read : Cursor → Except Fault α) (cursor : Cursor) :
    Except Fault (Option α) :=
  match cursor.tree with
  | .scalar _ _ .null => .ok none
  | _ => (read cursor).map some

def items {α : Type} (read : Cursor → Except Fault α) (levels index : Nat) :
    Items → Except Fault (List α)
  | .nil close =>
    match close.itemDefect with
    | none => .ok []
    | some defect => .error (.ofDefect defect)
  | .cons head settled tail => do
    let item ← Cursor.reading ⟨head, levels, some (.item index), some settled⟩ read
    return item :: (← items read levels (index + 1) tail)

def members {α : Type} (read : Cursor → Except Fault α) (levels : Nat) :
    Members → Except Fault (List (String × α))
  | .nil close =>
    match close.keyDefect with
    | none => .ok []
    | some defect => .error (.ofKeyDefect defect)
  | .unvalued key defect =>
    match key.text with
    | .ok _ => .error (.ofDefect defect)
    | .error flaw => .error (.ofKeyDefect flaw)
  | .cons key value settled tail => do
    let name ← key.text.mapError .ofKeyDefect
    let item ← Cursor.reading ⟨value, levels, some (.member name), some settled⟩ read
    return (name, item) :: (← members read levels tail)

def list {α : Type} (read : Cursor → Except Fault α) (cursor : Cursor) :
    Except Fault (List α) :=
  match cursor.tree with
  | .array start all => do items read (← openLevel cursor.levels start) 0 all
  | other => .error (other.wrongType "a sequence")

/-- An object with any names. -/
def dictionary {α : Type} (read : Cursor → Except Fault α) (cursor : Cursor) :
    Except Fault (List (String × α)) :=
  match cursor.tree with
  | .object start all => do members read (← openLevel cursor.levels start) all
  | other => .error (other.wrongType "a map")

/-- A value that is read whole first. -/
def whole {α : Type} (read : Json → Except Mismatch α) (cursor : Cursor) : Except Fault α := do
  let json ← cursor.tree.hold cursor.levels
  (read json).mapError fun mismatch => ⟨[], none, .mismatch mismatch⟩

/-! ## Choices -/

def variant {α : Type} (variants : List (String × α)) (name : String) (stop : Nat) :
    Except Fault α :=
  (Json.variant variants name).mapError (.ofMismatch stop)

/-- A variant named as the only member of an object, whose value is null. -/
def choiceMember {α : Type} (variants : List (String × α)) : Members → Except Fault α
  | .nil close => .error (.ofDefect close.memberDefect)
  | .unvalued key defect => do
    let name ← key.text.mapError .ofDefect
    let _ ← variant variants name key.stop
    .error (.ofDefect defect)
  | .cons key value settled tail => do
    let name ← key.text.mapError .ofDefect
    let chosen ← variant variants name key.stop
    match value with
    | .scalar _ _ .null => pure ()
    | other => .error ((other.wrongType "unit").under (.member name))
    match tail with
    | .nil (.closed _) => return chosen
    | .nil (.unfinished offset) => .error (.ofDefect ⟨.endInObject, offset⟩)
    | _ => .error (.ofDefect ⟨.expectedValue, settled⟩)

/-- One of several names, given as a string or as the only member of an object. -/
def choice {α : Type} (variants : List (String × α)) (cursor : Cursor) : Except Fault α :=
  let unexpected (start : Nat) : Fault := .ofDefect ⟨.expectedValue, start + 1⟩
  match cursor.tree with
  | .scalar _ stop (.string text) => do variant variants (← text.mapError .ofDefect) stop
  | .scalar start _ _ => .error (unexpected start)
  | .array start _ => .error (unexpected start)
  | .object start all => do
    let _ ← openLevel cursor.levels start
    choiceMember variants all
  | .broken lead start read _ =>
    match lead with
    | none | some '\x22' => .error (.ofDefect read)
    | some _ => .error (unexpected start)

/-! ## Tagged records -/

def tagVariant {α : Type} (variants : List (String × α)) : Tree → Except Fault α
  | .scalar _ stop (.string (.ok name)) => variant variants name stop
  | other => .error (other.wrongType "variant identifier")

/-- The tag among members, the other members read whole, and the byte after the object. -/
def splitTag {α : Type} (tag : String) (variants : List (String × α)) (levels : Nat)
    (seen : Option α) : Members → Except Fault (Option α × List (String × Json) × Nat)
  | .nil close =>
    match close.keyDefect with
    | none => .ok (seen, [], close.stop)
    | some defect => .error (.ofKeyDefect defect)
  | .unvalued key defect =>
    match key.text with
    | .error flaw => .error (.ofKeyDefect flaw)
    | .ok name =>
      if name == tag && seen.isSome then .error (.ofMismatch key.settled (.duplicateField tag))
      else .error (.ofDefect defect)
  | .cons key value _ tail => do
    let name ← key.text.mapError .ofKeyDefect
    if name == tag then
      if seen.isSome then .error (.ofMismatch key.settled (.duplicateField tag))
      else
        let found ← (tagVariant variants value).mapError (·.under (.member tag))
        splitTag tag variants levels (some found) tail
    else
      let held ← (value.hold levels).mapError (·.under (.member name))
      let (found, others, stop) ← splitTag tag variants levels seen tail
      return (found, (name, held) :: others, stop)

/-- A record told apart by its tag, which is read in place while the rest is read whole. -/
def tagged {α : Type} (tag what : String) (variants : List (String × (Json → Except Mismatch α)))
    (cursor : Cursor) : Except Fault α := do
  let finish (read : Json → Except Mismatch α) (rest : Json) : Except Fault α :=
    (read rest).mapError fun mismatch => ⟨[], none, .mismatch mismatch⟩
  match cursor.tree with
  | .object start all =>
    let inner ← openLevel cursor.levels start
    let (found, others, stop) ← splitTag tag variants inner none all
    match found with
    | some read => finish read (.object others)
    | none => .error (.ofMismatch stop (.missingField tag))
  | .array start all =>
    let inner ← openLevel cursor.levels start
    match all with
    | .nil close =>
      match close.itemDefect with
      | none => .error (.ofMismatch close.stop (.missingField tag))
      | some defect => .error (.ofDefect defect)
    | .cons head _ tail =>
      let read ← (tagVariant variants head).mapError (·.under (.item 0))
      finish read (.array (← tail.hold inner 1))
  | other => .error (other.wrongType what)

/-! ## Records -/

/-- The fields of a record given as a list, counted from `index`, and the byte after the list. An
    item beyond the last field is text that should not be there. -/
def arrangeItems (levels index : Nat) :
    List String → Items → List (Slot Cursor) × Option (Nat × Fault) × Nat
  | [], .nil close =>
    ([], close.closeDefect.map fun defect => (index, .ofDefect defect), close.stop)
  | _ :: _, .nil close =>
    ([], close.itemDefect.map fun defect => (index, .ofDefect defect), close.stop)
  | [], .cons head _ _ => ([], some (index, .ofDefect ⟨.trailingText, head.start + 1⟩), 0)
  | name :: names, .cons head settled tail =>
    let (slots, rest) := arrangeItems levels (index + 1) names tail
    (⟨name, index, ⟨head, levels, some (.item index), some settled⟩⟩ :: slots, rest)

/-- The fields of a record given as an object, counted from `rank`, and the byte after the object;
    `seen` are the known fields passed. The values of unknown names are skipped. -/
def arrangeMembers (names : List String) (levels : Nat) (seen : List String) (rank : Nat) :
    Members → List (Slot Cursor) × Option (Nat × Fault) × Nat
  | .nil close =>
    ([], close.keyDefect.map fun defect => (rank, .ofKeyDefect defect), close.stop)
  | .unvalued key defect =>
    let fault : Fault :=
      match key.text with
      | .error flaw => .ofKeyDefect flaw
      | .ok name =>
        if seen.contains name then .ofMismatch key.settled (.duplicateField name)
        else .ofDefect defect
    ([], some (rank, fault), 0)
  | .cons key value settled tail =>
    match key.text with
    | .error flaw => ([], some (rank, .ofKeyDefect flaw), 0)
    | .ok name =>
      if seen.contains name then
        ([], some (rank, .ofMismatch key.settled (.duplicateField name)), 0)
      else if names.contains name then
        let cursor : Cursor := ⟨value, levels, some (.member name), some settled⟩
        let (slots, rest) := arrangeMembers names levels (name :: seen) (rank + 1) tail
        (⟨name, rank, cursor⟩ :: slots, rest)
      else
        match value.skip with
        | .ok () => arrangeMembers names levels seen (rank + 1) tail
        | .error defect => ([], some (rank, (Fault.ofDefect defect).under (.member name)), 0)

def countItems : Items → Nat
  | .nil _ => 0
  | .cons _ _ tail => countItems tail + 1

/-- The number of members of an object, a last key without a value included. -/
def countMembers : Members → Nat
  | .nil _ => 0
  | .unvalued _ _ => 1
  | .cons _ _ _ tail => countMembers tail + 1

def arrange (what : String) (names : List String) (cursor : Cursor) :
    Except Fault (Arranged Cursor Fault) :=
  match cursor.tree with
  | .object start all => do
    let inner ← openLevel cursor.levels start
    let (slots, breach, stop) := arrangeMembers names inner [] 0 all
    let absent (name : String) :=
      (countMembers all + 1 + names.idxOf name, Fault.ofMismatch stop (.missingField name))
    return ⟨slots, breach, absent⟩
  | .array start all => do
    let inner ← openLevel cursor.levels start
    let (slots, breach, stop) := arrangeItems inner 0 names all
    let absent (name : String) :=
      let index := names.idxOf name
      (countItems all + 1 + index,
        Fault.ofMismatch stop (.wrongLength index (countedFields what names.length)))
    return ⟨slots, breach, absent⟩
  | other => .error (other.wrongType what)

instance : Source Cursor Fault where
  string := string
  bool := bool
  nullable := nullable
  list := list
  choice := choice
  tagged := tagged
  whole := whole
  arrange := arrange
  locate := locate

end Cursor

/-- Reads the first value of a text; what follows it is not looked at. -/
def readText {α : Type} (read : Cursor → Except Fault α) (text : String) : Except Fault α :=
  read ⟨(Tree.ofText text).1, levelLimit, none, none⟩

/-- Reads the only value of a text. -/
def readWholeText {α : Type} (read : Cursor → Except Fault α) (text : String) :
    Except Fault α := do
  let (tree, rest) := Tree.ofText text
  let value ← read ⟨tree, levelLimit, none, none⟩
  match rest with
  | [] => return value
  | lexeme :: _ => .error (.ofDefect ⟨.trailingText, lexeme.start + 1⟩)

end ConfigBinding
