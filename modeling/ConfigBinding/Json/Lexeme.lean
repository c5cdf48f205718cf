import ConfigBinding.Decimal.Scaling
import ConfigBinding.Json.Fault

/-!
# Lexemes of JSON text

A text is cut into brackets, separators, words, numbers and strings by an automaton that sees one
character at a time (`Scan.next`), so a scan is a recursion on the text.

A value may be read or only skipped, and the two do not report the same faults: a value that is
skipped may hold a number out of range or half a surrogate pair. So a number or string that is well
formed as text but has no value carries the `Defect` in its place, and a lexeme that breaks the
rules carries the defect for each way of going over it. Nothing after a broken lexeme is ever looked
at.

A double is not always the one nearest to its text: digits beyond 64 bits are left out, and the rest
is multiplied or divided by a power of ten (`Magnitude.scaled`).
-/

namespace ConfigBinding

/-- A value without parts. Numbers and strings may be well formed and yet have no value. -/
inductive Scalar where
  | null
  | bool (value : Bool)
  | number (value : Except Defect Number)
  | string (value : Except Defect String)

inductive Token where
  | openList
  | closeList
  | openObject
  | closeObject
  | comma
  | colon
  | scalar (value : Scalar)
  /-- Breaks the rules; the defects are those found when the value is read and when it is skipped.
      -/
  | broken (read skipped : Defect)

/-- A lexeme with its first character and the bytes before it and through its end. -/
structure Lexeme where
  token : Token
  lead : Char
  start : Nat
  stop : Nat

inductive NumberPhase where
  | minus
  | zero
  | whole
  | point
  | fraction
  | mark
  | markSign
  | power
  deriving DecidableEq

structure NumberScan where
  start : Nat
  lead : Char
  phase : NumberPhase
  /-- The digits before the exponent as one number, as many as fit 64 bits. -/
  digits : Nat
  /-- The power of ten of the last of them. -/
  exponent : Int
  /-- Whether a digit did not fit, of those before the point or of those after it. -/
  isFull : Bool
  power : Nat
  powerNegative : Bool
  /-- Whether there is a point, an exponent or a digit that did not fit. -/
  isReal : Bool
  /-- Where the exponent of a number other than zero passed the bound of 32 bits. -/
  overflow : Option Nat

/-- Where a scan stands inside a string. A `\u` escape takes four bytes, whatever they are, before
    it is judged. -/
inductive StringPhase where
  | plain
  | escape
  | hex (start : Nat) (value : Option Nat)
  deriving DecidableEq

structure StringScan where
  start : Nat
  phase : StringPhase
  /-- The characters so far, latest first. -/
  content : List Char
  /-- The first half of a surrogate pair that still needs its second. -/
  high : Option Nat
  /-- Why the string has no value. -/
  flaw : Option Defect

inductive Scan where
  | blank
  | word (start : Nat) (lead : Char) (expected : List Char) (value : Scalar)
  | number (scan : NumberScan)
  | string (scan : StringScan)
  | stopped

/-- A broken lexeme that is reported alike whether it is read or skipped. -/
def Lexeme.malformed (lead : Char) (start : Nat) (reason : Malformation) (offset : Nat) : Lexeme :=
  ⟨.broken ⟨reason, offset⟩ ⟨reason, offset⟩, lead, start, offset⟩

namespace NumberScan

def ofMagnitude? (negative : Bool) (stop : Nat) : Option Magnitude → Except Defect Number
  | some magnitude => .ok (.real (.finite negative magnitude))
  | none => .error ⟨.numberTooLarge, stop⟩

/-- The value of a complete number that ends at byte `stop`. Whole numbers stay whole while they fit
    64 bits; minus zero is a double. -/
def value (scan : NumberScan) (stop : Nat) : Except Defect Number :=
  let negative := scan.lead == '-'
  let power : Int := if scan.powerNegative then -scan.power else scan.power
  let real : Except Defect Number :=
    match scan.overflow with
    | some offset => .error ⟨.numberTooLarge, offset⟩
    | none => ofMagnitude? negative stop (Magnitude.scaled scan.digits (scan.exponent + power))
  if scan.isReal then real
  else if negative then
    if 0 < scan.digits ∧ scan.digits ≤ Nat.pow 2 63 then .ok (.whole (-scan.digits)) else real
  else .ok (.whole scan.digits)

def lexeme (scan : NumberScan) (stop : Nat) : Lexeme :=
  ⟨.scalar (.number (scan.value stop)), scan.lead, scan.start, stop⟩

/-- The number with one more digit before the exponent. After a digit that does not fit, no more are
    taken up to the point or the exponent. -/
def addDigit (scan : NumberScan) (phase : NumberPhase) (c : Char) : NumberScan :=
  let digits := scan.digits * 10 + (c.toNat - 48)
  let exponent := if phase = .fraction then scan.exponent - 1 else scan.exponent
  if scan.isFull ∨ Nat.pow 2 64 ≤ digits then
    { scan with phase, exponent := exponent + 1, isFull := true, isReal := true }
  else { scan with phase, digits, exponent }

def addPoint (scan : NumberScan) : NumberScan :=
  { scan with phase := .point, isFull := false, isReal := true }

def addPower (scan : NumberScan) (offset : Nat) (c : Char) : NumberScan :=
  let power := scan.power * 10 + (c.toNat - 48)
  let passes := 2147483647 < power ∧ scan.digits ≠ 0 ∧ scan.powerNegative = false
  { scan with
    phase := .power
    power
    overflow := if scan.overflow.isNone ∧ passes then some (offset + 1) else scan.overflow }

/-- What a number makes of the character at byte `offset`: more of it, a defect, or nothing, when
    the number is complete before it. -/
def next (scan : NumberScan) (offset : Nat) (c : Char) : Option (Except Lexeme NumberScan) :=
  let bad : Option (Except Lexeme NumberScan) :=
    some (.error (.malformed scan.lead scan.start .badNumber (offset + 1)))
  let isMark := c == 'e' || c == 'E'
  match scan.phase with
  | .minus =>
    if c == '0' then some (.ok (scan.addDigit .zero c))
    else if c.isDigit then some (.ok (scan.addDigit .whole c))
    else bad
  | .zero =>
    if c.isDigit then bad
    else if c == '.' then some (.ok scan.addPoint)
    else if isMark then some (.ok { scan with phase := .mark, isReal := true })
    else none
  | .whole =>
    if c.isDigit then some (.ok (scan.addDigit .whole c))
    else if c == '.' then some (.ok scan.addPoint)
    else if isMark then some (.ok { scan with phase := .mark, isReal := true })
    else none
  | .point => if c.isDigit then some (.ok (scan.addDigit .fraction c)) else bad
  | .fraction =>
    if c.isDigit then some (.ok (scan.addDigit .fraction c))
    else if isMark then some (.ok { scan with phase := .mark, isReal := true })
    else none
  | .mark =>
    if c == '+' then some (.ok { scan with phase := .markSign })
    else if c == '-' then some (.ok { scan with phase := .markSign, powerNegative := true })
    else if c.isDigit then some (.ok (scan.addPower offset c))
    else bad
  | .markSign => if c.isDigit then some (.ok (scan.addPower offset c)) else bad
  | .power => if c.isDigit then some (.ok (scan.addPower offset c)) else none

def atEnd (scan : NumberScan) (size : Nat) : Lexeme :=
  match scan.phase with
  | .zero | .whole | .fraction | .power => scan.lexeme size
  | .minus | .point | .mark | .markSign =>
    ⟨.broken ⟨.endInValue, size⟩ ⟨.badNumber, size⟩, scan.lead, scan.start, size⟩

end NumberScan

def hexValue? (c : Char) : Option Nat :=
  if c.isDigit then some (c.toNat - 48)
  else if 'a' ≤ c ∧ c ≤ 'f' then some (c.toNat - 87)
  else if 'A' ≤ c ∧ c ≤ 'F' then some (c.toNat - 55)
  else none

/-- The character of an escape of one letter. -/
def unescape? (c : Char) : Option Char :=
  if c == '\x22' || c == '\\' || c == '/' then some c
  else if c == 'b' then some '\x08'
  else if c == 'f' then some '\x0c'
  else if c == 'n' then some '\n'
  else if c == 'r' then some '\r'
  else if c == 't' then some '\t'
  else none

namespace StringScan

/-- Notes why the string has no value, unless an earlier reason is known. -/
def withFlaw (scan : StringScan) (reason : Malformation) (offset : Nat) : StringScan :=
  { scan with flaw := scan.flaw <|> some ⟨reason, offset⟩, high := none }

/-- A string that breaks the rules. When it is read, an earlier reason why it has no value comes
    first. -/
def broken (scan : StringScan) (read skipped : Defect) : Lexeme :=
  ⟨.broken (scan.flaw.getD read) skipped, '\x22', scan.start, skipped.offset⟩

def lexeme (scan : StringScan) (stop : Nat) : Lexeme :=
  let value : Except Defect String :=
    match scan.flaw with
    | some flaw => .error flaw
    | none => .ok (String.ofList scan.content.reverse)
  ⟨.scalar (.string value), '\x22', scan.start, stop⟩

/-- The string after a `\u` escape that ends at byte `stop`. -/
def addUnit (scan : StringScan) (unit stop : Nat) : StringScan :=
  let isHigh := 0xd800 ≤ unit ∧ unit ≤ 0xdbff
  let isLow := 0xdc00 ≤ unit ∧ unit ≤ 0xdfff
  let scan := { scan with phase := .plain }
  match scan.high with
  | some high =>
    if isLow then
      let code := (high - 0xd800) * 0x400 + (unit - 0xdc00) + 0x10000
      { scan with content := Char.ofNat code :: scan.content, high := none }
    else scan.withFlaw .loneSurrogate stop
  | none =>
    if isHigh then { scan with high := some unit }
    else if isLow then scan.withFlaw .loneSurrogate stop
    else { scan with content := Char.ofNat unit :: scan.content }

/-- What a string makes of the character at byte `offset`: more of it, or its lexeme. -/
def next (scan : StringScan) (offset : Nat) (c : Char) : Except Lexeme StringScan :=
  let past := offset + 1
  match scan.phase with
  | .plain =>
    let scan :=
      if scan.high.isSome && c != '\\' then scan.withFlaw .unpairedSurrogate past else scan
    if c == '\x22' then .error (scan.lexeme past)
    else if c == '\\' then .ok { scan with phase := .escape }
    else if c.toNat < 0x20 then .error (scan.broken ⟨.rawControl, past⟩ ⟨.rawControl, offset⟩)
    else .ok { scan with content := c :: scan.content }
  | .escape =>
    if c == 'u' then .ok { scan with phase := .hex past (some 0) }
    else
      let scan := if scan.high.isSome then scan.withFlaw .unpairedSurrogate past else scan
      match unescape? c with
      | some plain => .ok { scan with phase := .plain, content := plain :: scan.content }
      | none => .error (scan.broken ⟨.badEscape, past⟩ ⟨.badEscape, past⟩)
  | .hex start value =>
    let value := do return (← value) * 16 + (← hexValue? c)
    if offset + c.utf8Size < start + 4 then .ok { scan with phase := .hex start value }
    else
      match value with
      | some unit => .ok (scan.addUnit unit (start + 4))
      | none => .error (scan.broken ⟨.badEscape, start + 4⟩ ⟨.badEscape, start + 4⟩)

end StringScan

namespace Scan

/-- What the character at byte `offset` begins when it stands outside every lexeme. -/
def begin (offset : Nat) (c : Char) : List Lexeme × Scan :=
  let single (token : Token) : List Lexeme × Scan := ([⟨token, c, offset, offset + 1⟩], .blank)
  let number (phase : NumberPhase) : List Lexeme × Scan :=
    ([], .number ⟨offset, c, phase, c.toNat - 48, 0, false, 0, false, false, none⟩)
  if c == ' ' || c == '\n' || c == '\t' || c == '\r' then ([], .blank)
  else if c == '[' then single .openList
  else if c == ']' then single .closeList
  else if c == '\x7b' then single .openObject
  else if c == '\x7d' then single .closeObject
  else if c == ',' then single .comma
  else if c == ':' then single .colon
  else if c == '\x22' then ([], .string ⟨offset, .plain, [], none, none⟩)
  else if c == 'n' then ([], .word offset c ['u', 'l', 'l'] .null)
  else if c == 't' then ([], .word offset c ['r', 'u', 'e'] (.bool true))
  else if c == 'f' then ([], .word offset c ['a', 'l', 's', 'e'] (.bool false))
  else if c == '-' then ([], .number ⟨offset, c, .minus, 0, 0, false, 0, false, false, none⟩)
  else if c == '0' then number .zero
  else if c.isDigit then number .whole
  else ([.malformed c offset .expectedValue (offset + 1)], .stopped)

/-- The lexemes that the character at byte `offset` completes, and where the scan stands after it.
    -/
def next (scan : Scan) (offset : Nat) (c : Char) : List Lexeme × Scan :=
  match scan with
  | .blank => begin offset c
  | .word start lead (expected :: rest) value =>
    if c == expected then
      if rest.isEmpty then ([⟨.scalar value, lead, start, offset + 1⟩], .blank)
      else ([], .word start lead rest value)
    else ([.malformed lead start .expectedWord (offset + 1)], .stopped)
  | .word start lead [] value =>
    let (lexemes, after) := begin offset c
    (⟨.scalar value, lead, start, offset⟩ :: lexemes, after)
  | .number inner =>
    match inner.next offset c with
    | some (.ok more) => ([], .number more)
    | some (.error lexeme) => ([lexeme], .stopped)
    | none =>
      let (lexemes, after) := begin offset c
      (inner.lexeme offset :: lexemes, after)
  | .string inner =>
    match inner.next offset c with
    | .ok more => ([], .string more)
    | .error lexeme =>
      ([lexeme], match lexeme.token with | .broken _ _ => .stopped | _ => .blank)
  | .stopped => ([], .stopped)

def atEnd (scan : Scan) (size : Nat) : List Lexeme :=
  match scan with
  | .blank | .stopped => []
  | .word start lead _ _ => [.malformed lead start .endInValue size]
  | .number inner => [inner.atEnd size]
  | .string inner => [inner.broken ⟨.endInString, size⟩ ⟨.endInString, size⟩]

def lexemes (scan : Scan) (offset : Nat) : List Char → List Lexeme
  | [] => scan.atEnd offset
  | c :: rest =>
    let (complete, after) := scan.next offset c
    complete ++ after.lexemes (offset + c.utf8Size) rest

end Scan

def Lexeme.ofText (text : String) : List Lexeme := Scan.blank.lexemes 0 text.toList

end ConfigBinding
