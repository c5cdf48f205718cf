import ConfigBinding.Proofs.Decimal.Numerals
import ConfigBinding.Proofs.Decimal.Scaling
import ConfigBinding.Proofs.Json.Scanning

/-!
# Numerals of JSON text

A number is written as whole digits, a fraction and a power of ten, each of the last two only where
there is one. It is scanned as one number, if something that cannot be part of a number comes next.

* `Numeral`: the parts of a number in text, with `Numeral.chars` and `Numeral.decimal`;
* `Numeral.lexemes_chars`: a numeral is scanned as one number, part by part;
* `Numeral.spellsBefore`: the same number wherever it stands;
* `Numeral.spellsBefore_whole`, `Numeral.spellsBefore_nearest`: which one it is for whole digits,
  and for a short decimal.
-/

namespace ConfigBinding

structure Numeral where
  negative : Bool
  first : Char
  /-- The whole digits after the first. -/
  whole : List Char
  fraction : List Char
  power : Option Int

/-- Whether characters that come after a number do not belong to it. -/
def Delimited (rest : List Char) : Prop :=
  ∀ c ∈ rest.head?, c.isDigit = false ∧ c ≠ '.' ∧ c ≠ 'e' ∧ c ≠ 'E'

namespace Numeral

def powerChars : Option Int → List Char
  | none => []
  | some power => 'e' :: (if power < 0 then '-' else '+') :: Nat.toDigits 10 power.natAbs

def fractionChars (fraction : List Char) : List Char :=
  if fraction.isEmpty then [] else '.' :: fraction

/-- A numeral without its sign as text. -/
def body (n : Numeral) : List Char :=
  n.first :: (n.whole ++ (fractionChars n.fraction ++ powerChars n.power))

def chars (n : Numeral) : List Char := (if n.negative then ['-'] else []) ++ n.body

/-- The decimal that a numeral writes, without its sign. -/
def decimal (n : Numeral) : Decimal :=
  ⟨digitsFrom 0 (n.first :: n.whole ++ n.fraction), n.power.getD 0 - n.fraction.length⟩

/-- Whether a numeral is well formed: made of digits, without needless zeros before others, and with
    no power beyond 32 bits. -/
structure IsWellFormed (n : Numeral) : Prop where
  first : n.first.isDigit
  whole : n.whole.all Char.isDigit
  leading : n.first = '0' → n.whole = []
  fraction : n.fraction.all Char.isDigit
  power : ∀ power ∈ n.power, power ≤ 2147483647

end Numeral

/-! ## Runs of digits -/

namespace NumberScan

theorem reaches {scan after : NumberScan} {c : Char}
    (next : ∀ offset, scan.next offset c = some (.ok after)) {chars : List Char} {goal : Scan}
    (later : Scan.Reaches chars (.number after) goal) :
    Scan.Reaches (c :: chars) (.number scan) goal := by
  refine Scan.Reaches.cons (fun offset => ?_) later
  simp only [Scan.next, next]

def addDigits (scan : NumberScan) (phase : NumberPhase) (digits : List Char) : NumberScan :=
  digits.foldl (fun sofar c => sofar.addDigit phase c) scan

theorem addDigits_cons (scan : NumberScan) (phase : NumberPhase) (c : Char) (digits : List Char) :
    scan.addDigits phase (c :: digits) = (scan.addDigit phase c).addDigits phase digits := rfl

theorem addDigit_phase (scan : NumberScan) (phase : NumberPhase) (c : Char) :
    (scan.addDigit phase c).phase = phase := by
  rw [addDigit]
  split <;> rfl

theorem reaches_digits (scan : NumberScan) (inDigits : scan.phase = .whole ∨ scan.phase = .fraction)
    {digits : List Char} (all : digits.all Char.isDigit) :
    Scan.Reaches digits (.number scan) (.number (scan.addDigits scan.phase digits)) := by
  induction digits generalizing scan with
  | nil => exact .refl _
  | cons c rest inductionHypothesis =>
    rw [List.all_cons, Bool.and_eq_true] at all
    have next : ∀ offset, scan.next offset c = some (.ok (scan.addDigit scan.phase c)) := by
      intro offset
      obtain phase | phase := inDigits <;> simp [NumberScan.next, phase, all.1]
    have later := inductionHypothesis (scan.addDigit scan.phase c)
    rw [addDigit_phase] at later
    exact reaches next (later inDigits all.2)

/-- Digits leave everything but themselves and the phase. -/
theorem addDigits_spec (scan : NumberScan) (phase : NumberPhase) (digits : List Char) :
    ((scan.addDigits phase digits).phase = scan.phase ∨
        (scan.addDigits phase digits).phase = phase) ∧
      (scan.addDigits phase digits).lead = scan.lead ∧
      (scan.addDigits phase digits).power = scan.power ∧
      (scan.addDigits phase digits).powerNegative = scan.powerNegative ∧
      (scan.addDigits phase digits).overflow = scan.overflow := by
  induction digits generalizing scan with
  | nil => exact ⟨.inl rfl, rfl, rfl, rfl, rfl⟩
  | cons c rest inductionHypothesis =>
    have one : (scan.addDigit phase c).lead = scan.lead ∧
        (scan.addDigit phase c).power = scan.power ∧
        (scan.addDigit phase c).powerNegative = scan.powerNegative ∧
        (scan.addDigit phase c).overflow = scan.overflow := by
      rw [addDigit]
      split <;> exact ⟨rfl, rfl, rfl, rfl⟩
    have others := inductionHypothesis (scan.addDigit phase c)
    rw [addDigit_phase, or_self, one.1, one.2.1, one.2.2.1, one.2.2.2] at others
    exact ⟨.inr others.1, others.2⟩

theorem addDigits_withStart (scan : NumberScan) (start : Nat) (phase : NumberPhase)
    (digits : List Char) :
    addDigits { scan with start } phase digits = { scan.addDigits phase digits with start } := by
  induction digits generalizing scan with
  | nil => rfl
  | cons c rest inductionHypothesis =>
    have one : addDigit { scan with start } phase c = { scan.addDigit phase c with start } := by
      simp only [addDigit]
      split <;> rfl
    rw [addDigits_cons, one, inductionHypothesis]
    rfl

/-- A digit that fits is taken. -/
theorem addDigit_of_lt {scan : NumberScan} (room : scan.isFull = false) (phase : NumberPhase)
    {c : Char} (small : scan.digits * 10 + digitValue c < 2 ^ 64) :
    (scan.addDigit phase c).digits = scan.digits * 10 + digitValue c ∧
      (scan.addDigit phase c).exponent =
        (if phase = .fraction then scan.exponent - 1 else scan.exponent) ∧
      (scan.addDigit phase c).isFull = false ∧
      (scan.addDigit phase c).isReal = scan.isReal := by
  have fits : ¬ (scan.isFull = true ∨ Nat.pow 2 64 ≤ scan.digits * 10 + (c.toNat - 48)) := by
    rw [room, Nat.pow_eq]
    simp only [digitValue] at small
    simp only [Bool.false_eq_true, false_or, not_le]
    exact small
  rw [addDigit, if_neg fits]
  exact ⟨rfl, rfl, room, rfl⟩

theorem addDigits_of_lt {scan : NumberScan} (room : scan.isFull = false) (phase : NumberPhase)
    {digits : List Char} (small : digitsFrom scan.digits digits < 2 ^ 64) :
    (scan.addDigits phase digits).digits = digitsFrom scan.digits digits ∧
      (scan.addDigits phase digits).exponent =
        (if phase = .fraction then scan.exponent - digits.length else scan.exponent) ∧
      (scan.addDigits phase digits).isReal = scan.isReal := by
  induction digits generalizing scan with
  | nil => exact ⟨rfl, by simp [addDigits], rfl⟩
  | cons c rest inductionHypothesis =>
    have step : digitsFrom scan.digits (c :: rest) =
        digitsFrom (scan.digits * 10 + digitValue c) rest := rfl
    rw [step] at small ⊢
    obtain ⟨digits, exponent, stillRoom, isReal⟩ :=
      addDigit_of_lt room phase ((le_digitsFrom _ rest).trans_lt small)
    rw [← digits] at small ⊢
    obtain ⟨allDigits, lastExponent, stillReal⟩ := inductionHypothesis stillRoom small
    refine ⟨allDigits, lastExponent.trans ?_, stillReal.trans isReal⟩
    rw [exponent, List.length_cons]
    split <;> omega

/-- A digit of a power that stays within 32 bits or is negative. -/
theorem next_powerDigit {scan : NumberScan} (inPower : scan.phase = .markSign ∨ scan.phase = .power)
    {c : Char} (digit : c.isDigit)
    (bounded : scan.powerNegative = true ∨ scan.power * 10 + digitValue c ≤ 2147483647)
    (offset : Nat) :
    scan.next offset c =
      some (.ok { scan with phase := .power, power := scan.power * 10 + digitValue c }) := by
  have within : ¬ (scan.overflow.isNone = true ∧ 2147483647 < scan.power * 10 + (c.toNat - 48) ∧
      scan.digits ≠ 0 ∧ scan.powerNegative = false) := by
    rintro ⟨-, large, -, positive⟩
    obtain negative | within := bounded
    · simp [negative] at positive
    · simp only [digitValue] at within
      omega
  obtain phase | phase := inPower <;>
    simp only [NumberScan.next, phase, digit, if_true, addPower, if_neg within] <;> rfl

/-- Digits of a power that stays within 32 bits or is negative, after its sign or other digits. -/
theorem reaches_powerDigits (scan : NumberScan)
    (inPower : scan.phase = .markSign ∨ scan.phase = .power) {c : Char} {rest : List Char}
    (all : (c :: rest).all Char.isDigit)
    (bounded : scan.powerNegative = true ∨ digitsFrom scan.power (c :: rest) ≤ 2147483647) :
    Scan.Reaches (c :: rest) (.number scan)
      (.number { scan with phase := .power, power := digitsFrom scan.power (c :: rest) }) := by
  induction rest generalizing scan c with
  | nil =>
    rw [List.all_cons, Bool.and_eq_true] at all
    exact reaches (next_powerDigit inPower all.1 bounded) (.refl _)
  | cons d rest inductionHypothesis =>
    have step : digitsFrom scan.power (c :: d :: rest) =
        digitsFrom (scan.power * 10 + digitValue c) (d :: rest) := rfl
    rw [List.all_cons, Bool.and_eq_true] at all
    rw [step] at bounded ⊢
    -- The bound on the whole power bounds the power so far, which only grows.
    have within := bounded.imp_right (le_digitsFrom _ (d :: rest)).trans
    exact reaches (next_powerDigit inPower all.1 within)
      (inductionHypothesis _ (.inr rfl) all.2 bounded)

/-! ## Numerals -/

def ofFirst (start : Nat) (lead : Char) (phase : NumberPhase) (digit : Nat) : NumberScan :=
  ⟨start, lead, phase, digit, 0, false, 0, false, false, none⟩

def withFraction (scan : NumberScan) (fraction : List Char) : NumberScan :=
  if fraction.isEmpty then scan else scan.addPoint.addDigits .fraction fraction

def withPower (scan : NumberScan) : Option Int → NumberScan
  | none => scan
  | some power =>
    { scan with
      phase := .power
      power := power.natAbs
      powerNegative := decide (power < 0)
      isReal := true }

/-- Whether a number may end in a phase. -/
def IsComplete (phase : NumberPhase) : Prop :=
  phase = .zero ∨ phase = .whole ∨ phase = .fraction ∨ phase = .power

theorem reaches_fraction {scan : NumberScan} (inWhole : scan.phase = .zero ∨ scan.phase = .whole)
    {fraction : List Char} (all : fraction.all Char.isDigit) :
    Scan.Reaches (Numeral.fractionChars fraction) (.number scan)
      (.number (scan.withFraction fraction)) := by
  cases fraction with
  | nil => exact .refl _
  | cons c rest =>
    rw [List.all_cons, Bool.and_eq_true] at all
    have point : ∀ offset, scan.next offset '.' = some (.ok scan.addPoint) := by
      intro offset
      obtain phase | phase := inWhole <;> simp [NumberScan.next, phase]
    have digit : ∀ offset, scan.addPoint.next offset c =
        some (.ok (scan.addPoint.addDigit .fraction c)) := by
      intro offset
      simp [NumberScan.next, addPoint, all.1]
    have more := reaches_digits (scan.addPoint.addDigit .fraction c)
    rw [addDigit_phase] at more
    exact reaches point (reaches digit (more (.inr rfl) all.2))

theorem reaches_power {scan : NumberScan} (complete : scan.phase ≠ .power ∧ IsComplete scan.phase)
    (fresh : scan.power = 0 ∧ scan.powerNegative = false)
    {power : Option Int} (bounded : ∀ p ∈ power, p ≤ 2147483647) :
    Scan.Reaches (Numeral.powerChars power) (.number scan) (.number (scan.withPower power)) := by
  cases power with
  | none => exact .refl _
  | some p =>
    obtain ⟨noPower, positive⟩ := fresh
    have bound : p ≤ 2147483647 := bounded p rfl
    have mark : ∀ offset, scan.next offset 'e' =
        some (.ok { scan with phase := .mark, isReal := true }) := by
      intro offset
      obtain ⟨notPower, phase | phase | phase | phase⟩ := complete
      · simp [NumberScan.next, phase]
      · simp [NumberScan.next, phase]
      · simp [NumberScan.next, phase]
      · exact absurd phase notPower
    have sign : ∀ offset,
        NumberScan.next { scan with phase := .mark, isReal := true } offset
          (if p < 0 then '-' else '+') = some (.ok
            { scan with
              phase := .markSign
              isReal := true
              powerNegative := decide (p < 0) }) := by
      intro offset
      by_cases negative : p < 0 <;> simp [NumberScan.next, negative, positive]
    refine reaches mark (reaches sign ?_)
    have all := all_isDigit_toDigits p.natAbs
    have value := digitsFrom_toDigits p.natAbs
    obtain ⟨c, rest, digits⟩ := List.exists_cons_of_ne_nil (Nat.toDigits_ne_nil (n := p.natAbs))
    rw [digits] at all value ⊢
    have within : decide (p < 0) = true ∨ digitsFrom scan.power (c :: rest) ≤ 2147483647 := by
      rw [noPower, value, decide_eq_true_iff]
      omega
    have reached := reaches_powerDigits
      { scan with phase := .markSign, isReal := true, powerNegative := decide (p < 0) } (.inl rfl)
      all within
    have whole : digitsFrom scan.power (c :: rest) = p.natAbs := by rw [noPower, value]
    simp only [whole] at reached
    exact reached

/-- A number that can end does so before what does not belong to it. -/
theorem lexemes_of_delimited {scan : NumberScan} (complete : IsComplete scan.phase) {offset : Nat}
    {rest : List Char} (delimited : Delimited rest) :
    (Scan.number scan).lexemes offset rest =
      scan.lexeme offset :: Scan.blank.lexemes offset rest := by
  cases rest with
  | nil =>
    obtain phase | phase | phase | phase := complete <;>
      simp [Scan.lexemes, Scan.atEnd, NumberScan.atEnd, phase]
  | cons c rest =>
    obtain ⟨noDigit, noPoint, notSmall, notLarge⟩ := delimited c rfl
    have ends : scan.next offset c = none := by
      obtain phase | phase | phase | phase := complete <;>
        simp [NumberScan.next, phase, noDigit, noPoint, notSmall, notLarge]
    rw [Scan.lexemes_cons, Scan.lexemes_cons]
    simp only [Scan.next, ends]
    rfl

end NumberScan

namespace Numeral

theorem ne_of_isDigit {c : Char} (digit : c.isDigit) {other : Char}
    (noDigit : other.isDigit = false) : c ≠ other := by
  rintro rfl
  rw [noDigit] at digit
  cases digit

def firstPhase (n : Numeral) : NumberPhase := if n.first = '0' then .zero else .whole

def lead (n : Numeral) : Char := if n.negative then '-' else n.first

/-- What a numeral is scanned as before its fraction. -/
def wholeScan (n : Numeral) (start : Nat) : NumberScan :=
  (NumberScan.ofFirst start n.lead n.firstPhase (digitValue n.first)).addDigits .whole n.whole

/-- What a numeral is scanned as before its power. -/
def mantissaScan (n : Numeral) (start : Nat) : NumberScan :=
  (n.wholeScan start).withFraction n.fraction

/-- What a numeral is scanned as before it ends. -/
def scan (n : Numeral) (start : Nat) : NumberScan := (n.mantissaScan start).withPower n.power

variable {n : Numeral}

/-- The sign and the first digit begin a number. -/
theorem begin_first (wellFormed : n.IsWellFormed) (offset : Nat) (rest : List Char) :
    ∃ later, Scan.blank.lexemes offset
      ((if n.negative then ['-'] else []) ++ n.first :: rest) =
        (Scan.number (.ofFirst offset n.lead n.firstPhase (digitValue n.first))).lexemes later
          rest := by
  have digit := wellFormed.first
  cases sign : n.negative with
  | true =>
    have fits : n.first.toNat - 48 < 18446744073709551616 := by
      have charFits : n.first.toNat < 2 ^ 32 := n.first.val.toNat_lt
      omega
    have next : ∀ later, Scan.next
        (.number ⟨offset, '-', .minus, 0, 0, false, 0, false, false, none⟩) later n.first =
          ([], .number (.ofFirst offset n.lead n.firstPhase (digitValue n.first))) := by
      intro later
      by_cases zero : n.first = '0'
      · simp [Scan.next, NumberScan.next, NumberScan.addDigit, NumberScan.ofFirst, firstPhase, lead,
          sign, zero, digitValue]
      · simp [Scan.next, NumberScan.next, NumberScan.addDigit, NumberScan.ofFirst, firstPhase, lead,
          sign, zero, digit, digitValue, fits]
    obtain ⟨later, reached⟩ := Scan.Reaches.single next (offset + '-'.utf8Size) rest
    refine ⟨later, ?_⟩
    rw [if_pos rfl, List.singleton_append, Scan.lexemes_cons]
    exact reached
  | false =>
    have others : ∀ other : Char, other.isDigit = false → (n.first == other) = false :=
      fun other noDigit => beq_false_of_ne (ne_of_isDigit digit noDigit)
    have begins : Scan.begin offset n.first =
        ([], .number (.ofFirst offset n.lead n.firstPhase (digitValue n.first))) := by
      by_cases zero : n.first = '0'
      · simp [Scan.begin, firstPhase, lead, sign, zero, digitValue, NumberScan.ofFirst]
      · simp [Scan.begin, firstPhase, lead, sign, zero, digit, digitValue, NumberScan.ofFirst,
          others]
    refine ⟨offset + n.first.utf8Size, ?_⟩
    have next : Scan.blank.next offset n.first = _ := begins
    rw [if_neg Bool.false_ne_true, List.nil_append, Scan.lexemes_cons, next]
    rfl

theorem firstPhase_cases (n : Numeral) : n.firstPhase = .zero ∨ n.firstPhase = .whole := by
  rw [firstPhase]
  split
  · exact .inl rfl
  · exact .inr rfl

theorem reaches_whole (wellFormed : n.IsWellFormed) (start : Nat) :
    Scan.Reaches n.whole (.number (.ofFirst start n.lead n.firstPhase (digitValue n.first)))
      (.number (n.wholeScan start)) := by
  rw [wholeScan]
  by_cases zero : n.first = '0'
  · rw [wellFormed.leading zero]
    exact .refl _
  · rw [firstPhase, if_neg zero]
    exact NumberScan.reaches_digits _ (.inl rfl) wellFormed.whole

/-- Whole digits leave a number without fraction and power. -/
theorem wholeScan_spec (n : Numeral) (start : Nat) :
    ((n.wholeScan start).phase = .zero ∨ (n.wholeScan start).phase = .whole) ∧
      (n.wholeScan start).lead = n.lead ∧ (n.wholeScan start).power = 0 ∧
      (n.wholeScan start).powerNegative = false ∧ (n.wholeScan start).overflow = none := by
  obtain ⟨phase, others⟩ := NumberScan.addDigits_spec
    (.ofFirst start n.lead n.firstPhase (digitValue n.first)) .whole n.whole
  refine ⟨?_, others⟩
  obtain phase | phase := phase
  · rw [wholeScan, phase]
    exact n.firstPhase_cases
  · exact .inr phase

/-- Before its power a number may end, and nothing of a power is known. -/
theorem mantissaScan_spec (n : Numeral) (start : Nat) :
    ((n.mantissaScan start).phase ≠ .power ∧ NumberScan.IsComplete (n.mantissaScan start).phase) ∧
      (n.mantissaScan start).lead = n.lead ∧ (n.mantissaScan start).power = 0 ∧
      (n.mantissaScan start).powerNegative = false ∧ (n.mantissaScan start).overflow = none := by
  obtain ⟨phase, whole⟩ := n.wholeScan_spec start
  rw [mantissaScan]
  cases n.fraction with
  | nil =>
    refine ⟨?_, whole⟩
    obtain phase | phase := phase <;>
      simp [NumberScan.withFraction, NumberScan.IsComplete, phase]
  | cons c rest =>
    obtain ⟨inFraction, -⟩ :=
      NumberScan.addDigits_spec ((n.wholeScan start).addPoint.addDigit .fraction c) .fraction rest
    obtain ⟨-, lead, power, sign, overflow⟩ :=
      NumberScan.addDigits_spec (n.wholeScan start).addPoint .fraction (c :: rest)
    have inside : (n.wholeScan start).withFraction (c :: rest) =
        (n.wholeScan start).addPoint.addDigits .fraction (c :: rest) := rfl
    rw [NumberScan.addDigit_phase, or_self, ← NumberScan.addDigits_cons] at inFraction
    rw [inside, inFraction, lead, power, sign, overflow]
    exact ⟨⟨nofun, .inr (.inr (.inl rfl))⟩, whole⟩

/-- In the end the power is known as well. -/
theorem scan_spec (n : Numeral) (start : Nat) :
    (n.scan start).lead = n.lead ∧ (n.scan start).overflow = none ∧
      (if (n.scan start).powerNegative then -((n.scan start).power : Int)
        else (n.scan start).power) = n.power.getD 0 := by
  obtain ⟨-, lead, power, sign, overflow⟩ := n.mantissaScan_spec start
  rw [scan]
  cases n.power with
  | none =>
    refine ⟨lead, overflow, ?_⟩
    simp only [NumberScan.withPower, power, sign]
    rfl
  | some p =>
    refine ⟨lead, overflow, ?_⟩
    simp only [NumberScan.withPower, decide_eq_true_eq, Option.getD_some]
    split <;> omega

theorem scan_isComplete (n : Numeral) (start : Nat) :
    NumberScan.IsComplete (n.scan start).phase := by
  rw [scan]
  cases n.power with
  | none => exact (n.mantissaScan_spec start).1.2
  | some power => exact .inr (.inr (.inr rfl))

/-- A numeral is scanned as one number. -/
theorem lexemes_chars (wellFormed : n.IsWellFormed) {rest : List Char} (delimited : Delimited rest)
    (offset : Nat) : ∃ later, Scan.blank.lexemes offset (n.chars ++ rest) =
      (n.scan offset).lexeme later :: Scan.blank.lexemes later rest := by
  obtain ⟨complete, -, power, sign, -⟩ := n.mantissaScan_spec offset
  -- After the sign and the first digit: the whole digits, the fraction and the power.
  have reached := (reaches_whole wellFormed offset).trans
    ((NumberScan.reaches_fraction (n.wholeScan_spec offset).1 wellFormed.fraction).trans
      (NumberScan.reaches_power complete ⟨power, sign⟩ wellFormed.power))
  obtain ⟨afterFirst, begun⟩ := begin_first wellFormed offset
    (n.whole ++ (fractionChars n.fraction ++ powerChars n.power) ++ rest)
  obtain ⟨later, ended⟩ := reached afterFirst rest
  refine ⟨later, ?_⟩
  rw [← NumberScan.lexemes_of_delimited (n.scan_isComplete offset) delimited]
  refine Eq.trans ?_ (begun.trans ended)
  simp only [chars, body, List.append_assoc, List.cons_append]

/-- What a numeral is scanned as does not depend on where it stands. -/
theorem scan_withStart (n : Numeral) (start : Nat) : n.scan start = { n.scan 0 with start } := by
  have whole : n.wholeScan start = { n.wholeScan 0 with start } :=
    NumberScan.addDigits_withStart (.ofFirst 0 n.lead n.firstPhase (digitValue n.first)) start
      .whole n.whole
  have mantissa : n.mantissaScan start = { n.mantissaScan 0 with start } := by
    rw [mantissaScan, mantissaScan, whole]
    cases n.fraction with
    | nil => rfl
    | cons c rest =>
      exact NumberScan.addDigits_withStart (n.wholeScan 0).addPoint start .fraction (c :: rest)
  rw [scan, scan, mantissa]
  cases n.power <;> rfl

end Numeral

namespace NumberScan

theorem value_withStart (scan : NumberScan) (start stop : Nat) :
    value { scan with start } stop = scan.value stop := by
  simp only [value]

/-- Only where a number is too large its end matters. -/
theorem value_of_value {scan : NumberScan} {stop : Nat} {number : Number}
    (isValue : scan.value stop = .ok number) (other : Nat) : scan.value other = .ok number := by
  revert isValue
  simp only [value]
  generalize scan.overflow = overflow
  generalize Magnitude.scaled scan.digits _ = magnitude
  cases overflow with
  | some offset => exact id
  | none =>
    cases magnitude with
    | some magnitude => exact id
    | none =>
      dsimp only [ofMagnitude?]
      split
      · exact nofun
      · split
        · split
          · exact id
          · exact nofun
        · exact id

end NumberScan

namespace Numeral

variable {n : Numeral} {number : Number}

/-- A numeral is scanned as the same number wherever it stands. -/
theorem spellsBefore (wellFormed : n.IsWellFormed) {stop : Nat}
    (isValue : (n.scan 0).value stop = .ok number) {rest : List Char} (delimited : Delimited rest) :
    SpellsBefore n.chars [.scalar (.number (.ok number))] rest := by
  intro offset
  obtain ⟨later, scanned⟩ := lexemes_chars wellFormed delimited offset
  refine ⟨later, ?_⟩
  rw [tokensFrom, scanned, List.map_cons, NumberScan.lexeme, scan_withStart,
    NumberScan.value_withStart, NumberScan.value_of_value isValue]
  rfl

/-- The number that the text of a numeral alone is scanned as. -/
theorem value_of_tokens (wellFormed : n.IsWellFormed)
    (tokens : tokensFrom 0 n.chars = [.scalar (.number (.ok number))]) :
    ∃ stop, (n.scan 0).value stop = .ok number := by
  have delimited : Delimited [] := nofun
  obtain ⟨later, scanned⟩ := lexemes_chars wellFormed delimited 0
  rw [List.append_nil] at scanned
  rw [tokensFrom, scanned, List.map_cons, NumberScan.lexeme] at tokens
  injection tokens with token
  injection token with scalar
  injection scalar with isValue
  exact ⟨later, isValue⟩

theorem lead_isMinus (wellFormed : n.IsWellFormed) : (n.lead == '-') = n.negative := by
  rw [lead]
  cases n.negative with
  | true => rfl
  | false => exact beq_false_of_ne (ne_of_isDigit wellFormed.first rfl)

/-- Digits that fit are all taken, with the power of ten of the last one. -/
theorem mantissaScan_of_lt (small : n.decimal.digits < 2 ^ 64) :
    (n.mantissaScan 0).digits = n.decimal.digits ∧
      (n.mantissaScan 0).exponent = -n.fraction.length ∧
      (n.mantissaScan 0).isReal = !n.fraction.isEmpty := by
  have isDecimal : n.decimal.digits =
      digitsFrom (digitsFrom (digitValue n.first) n.whole) n.fraction := by
    rw [← digitsFrom_append, decimal]
    simp [digitsFrom]
  rw [isDecimal] at small ⊢
  obtain ⟨digits, exponent, isReal⟩ :
      (n.wholeScan 0).digits = digitsFrom (digitValue n.first) n.whole ∧
        (n.wholeScan 0).exponent = 0 ∧ (n.wholeScan 0).isReal = false :=
    NumberScan.addDigits_of_lt rfl .whole ((le_digitsFrom _ n.fraction).trans_lt small)
  rw [← digits] at small ⊢
  rw [mantissaScan]
  cases fraction : n.fraction with
  | nil => exact ⟨rfl, exponent, isReal⟩
  | cons c rest =>
    rw [fraction] at small
    have room : (n.wholeScan 0).addPoint.isFull = false := rfl
    obtain ⟨allDigits, lastExponent, stillReal⟩ :=
      NumberScan.addDigits_of_lt room .fraction small
    refine ⟨allDigits, lastExponent.trans ?_, stillReal⟩
    rw [if_pos rfl, NumberScan.addPoint, exponent, zero_sub]

theorem scan_of_lt (small : n.decimal.digits < 2 ^ 64) :
    (n.scan 0).digits = n.decimal.digits ∧
      (n.scan 0).exponent + n.power.getD 0 = n.decimal.exponent ∧
      (n.scan 0).isReal = (!n.fraction.isEmpty || n.power.isSome) := by
  obtain ⟨digits, exponent, isReal⟩ := mantissaScan_of_lt small
  have whole : (n.mantissaScan 0).exponent + n.power.getD 0 = n.decimal.exponent := by
    have isDecimal : n.decimal.exponent = n.power.getD 0 - n.fraction.length := rfl
    omega
  rw [scan]
  cases hasPower : n.power with
  | none =>
    rw [hasPower] at whole
    exact ⟨digits, whole, isReal.trans (Bool.or_false _).symm⟩
  | some power =>
    rw [hasPower] at whole
    exact ⟨digits, whole, (Bool.or_true _).symm⟩

/-- A numeral of whole digits is scanned as a whole number as far as 64 bits reach. -/
theorem spellsBefore_whole (wellFormed : n.IsWellFormed) (noFraction : n.fraction = [])
    (noPower : n.power = none)
    (bounded : if n.negative then 0 < n.decimal.digits ∧ n.decimal.digits ≤ 2 ^ 63
      else n.decimal.digits < 2 ^ 64) {rest : List Char} (delimited : Delimited rest) :
    SpellsBefore n.chars
      [.scalar (.number (.ok (.whole (if n.negative then -(n.decimal.digits : Int)
        else n.decimal.digits))))] rest := by
  have small : n.decimal.digits < 2 ^ 64 := by split at bounded <;> omega
  obtain ⟨digits, -, isReal⟩ := scan_of_lt small
  have notReal : (n.scan 0).isReal = false := by rw [isReal, noFraction, noPower]; rfl
  obtain ⟨lead, -⟩ := n.scan_spec 0
  refine spellsBefore wellFormed (show (n.scan 0).value 0 = _ from ?_) delimited
  simp only [NumberScan.value, notReal, lead, lead_isMinus wellFormed, digits, Nat.pow_eq,
    Bool.false_eq_true, if_false]
  cases sign : n.negative with
  | true =>
    rw [sign, if_pos rfl] at bounded
    simp only [if_true, if_pos bounded]
  | false => simp only [Bool.false_eq_true, if_false]

/-- A short numeral with a fraction or a power is scanned as the double nearest to its decimal. -/
theorem spellsBefore_nearest (wellFormed : n.IsWellFormed)
    (isReal : n.fraction ≠ [] ∨ n.power.isSome) (digits : n.decimal.digits < 2 ^ 53)
    (exponent : n.decimal.exponent.natAbs ≤ 22) {m : Magnitude}
    (nearest : n.decimal.nearest = some m) {rest : List Char} (delimited : Delimited rest) :
    SpellsBefore n.chars [.scalar (.number (.ok (.real (.finite n.negative m))))] rest := by
  have small : n.decimal.digits < 2 ^ 64 := by omega
  obtain ⟨sameDigits, sameExponent, stillReal⟩ := scan_of_lt small
  have real : (n.scan 0).isReal = true := by
    rw [stillReal]
    simpa using isReal
  obtain ⟨lead, overflow, power⟩ := n.scan_spec 0
  refine spellsBefore wellFormed (show (n.scan 0).value 0 = _ from ?_) delimited
  simp only [NumberScan.value, real, overflow, lead, lead_isMinus wellFormed, if_true, power,
    sameDigits, sameExponent, Magnitude.scaled_eq_nearest digits exponent, nearest]
  rfl

end Numeral

end ConfigBinding
