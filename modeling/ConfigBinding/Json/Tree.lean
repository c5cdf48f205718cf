import ConfigBinding.Json.Lexeme

/-!
# Trees of JSON text

The first value of a JSON text as a tree that remembers where its parts stand, also when the text
breaks off or breaks a rule on the way. A tree keeps everything that a reader may have to report, so
readers are recursions on trees and never look at text.

* `Tree`, `Items`, `Members`: the tree; each item and member carries the byte up to which a reader
  has gone once it has dealt with it and with the separator after it;
* `ListEnd`, `ObjectEnd`: how a list or object ends, well or not;
* `Tree.ofText`: the tree of a text and the lexemes after its first value, made by a machine that
  takes one lexeme at a time and keeps the open lists and objects on a stack;
* `Tree.skip`: what is reported when a value is passed over unread;
* `Tree.hold`: the value itself, or the first fault met when it is read whole.
-/

namespace ConfigBinding

/-- How a list ends; the offset is that of the character concerned. -/
inductive ListEnd where
  | closed (stop : Nat)
  | trailingComma (offset : Nat)
  | endAfterComma (offset : Nat)
  | unseparated (offset : Nat)
  | unfinished (offset : Nat)

namespace ListEnd

def stop : ListEnd → Nat
  | .closed stop | .trailingComma stop | .endAfterComma stop | .unseparated stop
  | .unfinished stop => stop

/-- What is reported when another item is looked for. -/
def itemDefect : ListEnd → Option Defect
  | .closed _ => none
  | .trailingComma offset => some ⟨.trailingComma, offset + 1⟩
  | .endAfterComma offset => some ⟨.endInValue, offset⟩
  | .unseparated offset => some ⟨.expectedListEnd, offset + 1⟩
  | .unfinished offset => some ⟨.endInList, offset⟩

/-- What is reported when the list is skipped. -/
def skipDefect : ListEnd → Option Defect
  | .trailingComma offset => some ⟨.expectedValue, offset + 1⟩
  | close => close.itemDefect

/-- What is reported when no more items are wanted. -/
def closeDefect : ListEnd → Option Defect
  | .endAfterComma offset => some ⟨.trailingText, offset⟩
  | .unseparated offset => some ⟨.trailingText, offset + 1⟩
  | close => close.itemDefect

end ListEnd

/-- How an object ends after its last complete member. -/
inductive ObjectEnd where
  | closed (stop : Nat)
  | trailingComma (offset : Nat)
  | endAfterComma (offset : Nat)
  | unseparated (offset : Nat)
  | unfinished (offset : Nat)
  /-- Something other than a well-formed string stands where a key is expected. -/
  | noKey (found : Lexeme)

namespace ObjectEnd

def stop : ObjectEnd → Nat
  | .closed stop | .trailingComma stop | .endAfterComma stop | .unseparated stop
  | .unfinished stop => stop
  | .noKey found => found.start

/-- What is reported when another key is looked for. -/
def keyDefect : ObjectEnd → Option Defect
  | .closed _ => none
  | .trailingComma offset => some ⟨.trailingComma, offset + 1⟩
  | .endAfterComma offset => some ⟨.endInValue, offset⟩
  | .unseparated offset => some ⟨.expectedObjectEnd, offset + 1⟩
  | .unfinished offset => some ⟨.endInObject, offset⟩
  | .noKey found =>
    match found.token with
    | .broken read _ =>
      if found.lead == '\x22' then some read else some ⟨.keyNotString, found.start + 1⟩
    | _ => some ⟨.keyNotString, found.start + 1⟩

/-- What is reported when the object is skipped. -/
def skipDefect : ObjectEnd → Option Defect
  | .trailingComma offset => some ⟨.keyNotString, offset + 1⟩
  | .endAfterComma offset => some ⟨.endInObject, offset⟩
  | .noKey found =>
    match found.token with
    | .broken _ skipped =>
      if found.lead == '\x22' then some skipped else some ⟨.keyNotString, found.start + 1⟩
    | _ => some ⟨.keyNotString, found.start + 1⟩
  | close => close.keyDefect

/-- What is reported when an object without members has to have one. -/
def memberDefect (close : ObjectEnd) : Defect :=
  close.keyDefect.getD ⟨.expectedValue, close.stop⟩

end ObjectEnd

/-- A key: its text, the byte after it, and the byte up to which a reader has gone that stops at the
    key. -/
structure Key where
  text : Except Defect String
  stop : Nat
  settled : Nat

mutual

inductive Tree where
  | scalar (start stop : Nat) (value : Scalar)
  | array (start : Nat) (items : Items)
  | object (start : Nat) (members : Members)
  /-- No value: a broken lexeme, a character out of place, or (without `lead`) the end of the text.
      -/
  | broken (lead : Option Char) (start : Nat) (read skipped : Defect)

inductive Items where
  | nil (close : ListEnd)
  | cons (head : Tree) (settled : Nat) (tail : Items)

inductive Members where
  | nil (close : ObjectEnd)
  /-- A last key without a colon. -/
  | unvalued (key : Key) (defect : Defect)
  | cons (key : Key) (value : Tree) (settled : Nat) (tail : Members)

end

structure OpenMember where
  key : Key
  value : Tree
  settled : Nat

/-- The items of a list, given latest first, with its end. -/
def Items.ofReversed (items : List (Tree × Nat)) (close : ListEnd) : Items :=
  items.foldl (fun tail item => .cons item.1 item.2 tail) (.nil close)

/-- The members of an object, given latest first, before what ends it. -/
def Members.ofReversed (members : List OpenMember) (tail : Members) : Members :=
  members.foldl (fun tail member => .cons member.key member.value member.settled tail) tail

/-- A list or object around the value that is being read; what it holds so far is latest first. -/
inductive OpenFrame where
  | list (start : Nat) (items : List (Tree × Nat))
  | object (start : Nat) (members : List OpenMember) (key : Key)

/-- What the machine waits for. -/
inductive Want where
  | value
  | firstItem (start : Nat)
  | firstKey (start : Nat)
  | nextKey (start : Nat) (members : List OpenMember)
  | colon (start : Nat) (members : List OpenMember) (key : Key)
  | separator (done : Tree)

/-- Closes the open lists and objects around a value that the text does not get beyond. -/
def Tree.breakOff (size : Nat) (tree : Tree) (frames : List OpenFrame) : Tree :=
  frames.foldl
    (fun inner frame =>
      match frame with
      | .list start items => .array start (.ofReversed ((inner, size) :: items) (.unfinished size))
      | .object start members key =>
        .object start (.ofReversed (⟨key, inner, size⟩ :: members) (.nil (.unfinished size))))
    tree

namespace Want

/-- Where the machine stands: what it waits for inside which lists and objects, or at the end. -/
abbrev State := (Want × List OpenFrame) ⊕ (Tree × List Lexeme)

def complete (tree : Tree) (frames : List OpenFrame) (rest : List Lexeme) : State :=
  if frames.isEmpty then .inr (tree, rest) else .inl (.separator tree, frames)

def broken (size : Nat) (tree : Tree) (frames : List OpenFrame) : State :=
  .inr (tree.breakOff size frames, [])

def startOf (size : Nat) : List Lexeme → Nat
  | [] => size
  | lexeme :: _ => lexeme.start

def takeValue (size : Nat) (frames : List OpenFrame) (lexeme : Lexeme) (rest : List Lexeme) :
    State :=
  match lexeme.token with
  | .openList => .inl (.firstItem lexeme.start, frames)
  | .openObject => .inl (.firstKey lexeme.start, frames)
  | .scalar content => complete (.scalar lexeme.start lexeme.stop content) frames rest
  | .broken read skipped => broken size (.broken lexeme.lead lexeme.start read skipped) frames
  | .closeList | .closeObject | .comma | .colon =>
    let defect : Defect := ⟨.expectedValue, lexeme.start + 1⟩
    broken size (.broken lexeme.lead lexeme.start defect defect) frames

/-- A lexeme where a key is wanted; the members before it are latest first. -/
def takeKey (size start : Nat) (members : List OpenMember) (frames : List OpenFrame)
    (lexeme : Lexeme) (rest : List Lexeme) : State :=
  match lexeme.token with
  | .scalar (.string text) =>
    let settled :=
      match rest with
      | ⟨.closeObject, _, _, stop⟩ :: _ => stop
      | _ => startOf size rest
    .inl (.colon start members ⟨text, lexeme.stop, settled⟩, frames)
  | _ => broken size (.object start (.ofReversed members (.nil (.noKey lexeme)))) frames

def afterItem (size start : Nat) (items : List (Tree × Nat)) (value : Tree) (outer : List OpenFrame)
    (lexeme : Lexeme) (rest : List Lexeme) : State :=
  match lexeme.token, rest with
  | .closeList, _ =>
    complete (.array start (.ofReversed ((value, lexeme.stop) :: items) (.closed lexeme.stop)))
      outer
      rest
  | .comma, [] =>
    broken size (.array start (.ofReversed ((value, size) :: items) (.endAfterComma size))) outer
  | .comma, ⟨.closeList, _, offset, _⟩ :: _ =>
    broken size (.array start (.ofReversed ((value, offset) :: items) (.trailingComma offset)))
      outer
  | .comma, next :: _ => .inl (.value, .list start ((value, next.start) :: items) :: outer)
  | _, _ =>
    let offset := lexeme.start
    broken size (.array start (.ofReversed ((value, offset) :: items) (.unseparated offset))) outer

def afterMember (size start : Nat) (members : List OpenMember) (key : Key) (value : Tree)
    (outer : List OpenFrame) (lexeme : Lexeme) (rest : List Lexeme) : State :=
  let offset := lexeme.start
  let ended (settled : Nat) (close : ObjectEnd) : Tree :=
    .object start (.ofReversed (⟨key, value, settled⟩ :: members) (.nil close))
  match lexeme.token, rest with
  | .closeObject, _ => complete (ended lexeme.stop (.closed lexeme.stop)) outer rest
  | .comma, [] => broken size (ended offset (.endAfterComma size)) outer
  | .comma, ⟨.closeObject, _, next, _⟩ :: _ =>
    broken size (ended offset (.trailingComma next)) outer
  | .comma, _ => .inl (.nextKey start (⟨key, value, offset⟩ :: members), outer)
  | _, _ => broken size (ended offset (.unseparated offset)) outer

/-- One move of the machine on a text of `size` bytes. -/
def next (want : Want) (size : Nat) (frames : List OpenFrame) (lexeme : Lexeme)
    (rest : List Lexeme) : State :=
  match want with
  | .value => takeValue size frames lexeme rest
  | .firstItem start =>
    match lexeme.token with
    | .closeList => complete (.array start (.nil (.closed lexeme.stop))) frames rest
    | _ => takeValue size (.list start [] :: frames) lexeme rest
  | .firstKey start =>
    match lexeme.token with
    | .closeObject => complete (.object start (.nil (.closed lexeme.stop))) frames rest
    | _ => takeKey size start [] frames lexeme rest
  | .nextKey start members => takeKey size start members frames lexeme rest
  | .colon start members key =>
    match lexeme.token with
    | .colon => .inl (.value, .object start members key :: frames)
    | _ =>
      let tail : Members := .unvalued key ⟨.expectedColon, lexeme.start + 1⟩
      broken size (.object start (.ofReversed members tail)) frames
  | .separator done =>
    match frames with
    | [] => .inr (done, lexeme :: rest)
    | .list start items :: outer => afterItem size start items done outer lexeme rest
    | .object start members key :: outer =>
      afterMember size start members key done outer lexeme rest

def atEnd (want : Want) (size : Nat) (frames : List OpenFrame) : Tree :=
  match want with
  | .value =>
    let defect : Defect := ⟨.endInValue, size⟩
    Tree.breakOff size (.broken none size defect defect) frames
  | .firstItem start => Tree.breakOff size (.array start (.nil (.unfinished size))) frames
  | .firstKey start => Tree.breakOff size (.object start (.nil (.unfinished size))) frames
  | .nextKey start members =>
    Tree.breakOff size (.object start (.ofReversed members (.nil (.unfinished size)))) frames
  | .colon start members key =>
    let tail : Members := .unvalued key ⟨.endInObject, size⟩
    Tree.breakOff size (.object start (.ofReversed members tail)) frames
  | .separator done => Tree.breakOff size done frames

/-- Runs the machine: the tree of the first value, and the lexemes after it. -/
def run (size : Nat) (want : Want) (frames : List OpenFrame) : List Lexeme → Tree × List Lexeme
  | [] => (want.atEnd size frames, [])
  | lexeme :: rest =>
    match want.next size frames lexeme rest with
    | .inl (want, frames) => run size want frames rest
    | .inr result => result

end Want

def Tree.ofText (text : String) : Tree × List Lexeme :=
  Want.value.run text.utf8ByteSize [] (Lexeme.ofText text)

def Tree.start : Tree → Nat
  | .scalar start _ _ | .array start _ | .object start _ | .broken _ start _ _ => start

mutual

/-- Passes over a value unread: only what is not JSON is reported, and no limit applies. -/
def Tree.skip : Tree → Except Defect Unit
  | .scalar _ _ _ => .ok ()
  | .array _ items => items.skip
  | .object _ members => members.skip
  | .broken _ _ _ skipped => .error skipped

def Items.skip : Items → Except Defect Unit
  | .nil close =>
    match close.skipDefect with
    | none => .ok ()
    | some defect => .error defect
  | .cons head _ tail =>
    match head.skip with
    | .ok () => tail.skip
    | .error defect => .error defect

def Members.skip : Members → Except Defect Unit
  | .nil close =>
    match close.skipDefect with
    | none => .ok ()
    | some defect => .error defect
  | .unvalued _ defect => .error defect
  | .cons _ value _ tail =>
    match value.skip with
    | .ok () => tail.skip
    | .error defect => .error defect

end

def Scalar.hold : Scalar → Except Fault Json
  | .null => .ok .null
  | .bool value => .ok (.bool value)
  | .number (.ok value) => .ok (.number value)
  | .string (.ok value) => .ok (.string value)
  | .number (.error defect) | .string (.error defect) => .error (.ofDefect defect)

/-- Refuses to open a list or object at byte `start` when no more levels are left. -/
def openLevel (levels start : Nat) : Except Fault Nat :=
  match levels with
  | 0 => .error (.ofDefect ⟨.tooDeep, start + 1⟩)
  | inner + 1 => .ok inner

mutual

/-- Reads a value whole, nested no deeper than so many levels. -/
def Tree.hold (levels : Nat) : Tree → Except Fault Json
  | .scalar _ _ value => value.hold
  | .array start items => do
    let inner ← openLevel levels start
    return .array (← items.hold inner 0)
  | .object start members => do
    let inner ← openLevel levels start
    return .object (← members.hold inner)
  | .broken _ _ read _ => .error (.ofDefect read)

def Items.hold (levels index : Nat) : Items → Except Fault (List Json)
  | .nil close =>
    match close.itemDefect with
    | none => .ok []
    | some defect => .error (.ofDefect defect)
  | .cons head _ tail => do
    let item ← (head.hold levels).mapError (·.under (.item index))
    return item :: (← tail.hold levels (index + 1))

def Members.hold (levels : Nat) : Members → Except Fault (List (String × Json))
  | .nil close =>
    match close.keyDefect with
    | none => .ok []
    | some defect => .error (.ofKeyDefect defect)
  | .unvalued key defect =>
    match key.text with
    | .ok _ => .error (.ofDefect defect)
    | .error flaw => .error (.ofKeyDefect flaw)
  | .cons key value _ tail => do
    let name ← key.text.mapError .ofKeyDefect
    let held ← (value.hold levels).mapError (·.under (.member name))
    return (name, held) :: (← tail.hold levels)

end

end ConfigBinding
