import ConfigBinding.Json.Printer
import ConfigBinding.Proofs.Decimal.Nearest
import ConfigBinding.Proofs.Json.Fitting
import ConfigBinding.Proofs.Json.Numeral

/-!
# Numbers as JSON text

A number is written as a numeral. A whole number is always scanned as it was written; a double has
the value of its numeral (`Numeral.Writes`), but the reader does not always round to the nearest.

* `Numeral.bodyIn`: numerals in the styles of doubles, of which that of JSON is one;
* `DoubleStyle.exists_writes_place`: digits are written in one of four forms, by where their first
  one stands, and all four keep their value;
* `Double.ReadsBack`: doubles that the reader finds in their text, `Double.readsBack_of_short`: the
  short ones among them;
* `Number.readsBack_whole`: whole numbers, as far as 64 bits reach;
* `Number.ReadsBack.spellsBefore`: what reads back alone reads back inside a text.
-/

namespace ConfigBinding

/-! ## What numbers are written as -/

theorem digitsFrom_replicate (start count : Nat) :
    digitsFrom start (List.replicate count '0') = start * 10 ^ count := by
  induction count generalizing start with
  | zero => simp [digitsFrom]
  | succ count inductionHypothesis =>
    have first : digitsFrom start (List.replicate (count + 1) '0') =
        digitsFrom (start * 10) (List.replicate count '0') := rfl
    rw [first, inductionHypothesis, Nat.mul_assoc, ← Nat.pow_succ']

theorem all_replicate_zero (count : Nat) : (List.replicate count '0').all Char.isDigit := by
  simp [List.all_replicate]

def DoubleStyle.powerChars (style : DoubleStyle) : Option Int → List Char
  | none => []
  | some power =>
    'e' :: ((if power < 0 then ['-'] else if style.plusSign then ['+'] else []) ++
      Nat.toDigits 10 power.natAbs)

def Numeral.bodyIn (style : DoubleStyle) (n : Numeral) : List Char :=
  n.first :: (n.whole ++ (fractionChars n.fraction ++ style.powerChars n.power))

theorem Numeral.bodyIn_json (n : Numeral) : n.bodyIn .json = n.body := by
  have sameChars : DoubleStyle.json.powerChars n.power = powerChars n.power := by
    cases n.power with
    | none => rfl
    | some power =>
      simp only [DoubleStyle.powerChars, powerChars]
      split <;> rfl
  rw [bodyIn, body, sameChars]

/-- A numeral with given digits before the point. -/
def Numeral.ofDigits (negative : Bool) (digits fraction : List Char) (power : Option Int) :
    Numeral :=
  ⟨negative, digits.headD '0', digits.tail, fraction, power⟩

namespace Numeral

variable {negative : Bool} {digits fraction : List Char} {power : Option Int}

theorem fractionChars_of_ne_nil (nonempty : fraction ≠ []) :
    fractionChars fraction = '.' :: fraction := by
  obtain ⟨c, rest, rfl⟩ := List.exists_cons_of_ne_nil nonempty
  rfl

theorem bodyIn_ofDigits (style : DoubleStyle) (nonempty : digits ≠ []) :
    (ofDigits negative digits fraction power).bodyIn style =
      digits ++ (fractionChars fraction ++ style.powerChars power) := by
  obtain ⟨c, rest, rfl⟩ := List.exists_cons_of_ne_nil nonempty
  rfl

theorem decimal_ofDigits (nonempty : digits ≠ []) :
    (ofDigits negative digits fraction power).decimal =
      ⟨digitsFrom 0 (digits ++ fraction), power.getD 0 - fraction.length⟩ := by
  obtain ⟨c, rest, rfl⟩ := List.exists_cons_of_ne_nil nonempty
  rfl

theorem isWellFormed_ofDigits (nonempty : digits ≠ []) (all : digits.all Char.isDigit)
    (leading : digits.head? = some '0' → digits.tail = []) (fractionAll : fraction.all Char.isDigit)
    (bounded : ∀ p ∈ power, p ≤ 2147483647) :
    (ofDigits negative digits fraction power).IsWellFormed := by
  obtain ⟨c, rest, rfl⟩ := List.exists_cons_of_ne_nil nonempty
  rw [List.all_cons, Bool.and_eq_true] at all
  exact ⟨all.1, all.2, fun zero => leading (congrArg some zero), fractionAll, bounded⟩

end Numeral

/-! ### Whole numbers -/

namespace Numeral

def ofInt (value : Int) : Numeral := ofDigits (value < 0) (Nat.toDigits 10 value.natAbs) [] none

theorem isWellFormed_ofInt (value : Int) : (ofInt value).IsWellFormed := by
  refine isWellFormed_ofDigits Nat.toDigits_ne_nil (all_isDigit_toDigits _) (fun zero => ?_) rfl
    nofun
  cases digits : Nat.toDigits 10 value.natAbs with
  | nil => rfl
  | cons c others =>
    rw [digits] at zero
    cases zero
    exact toDigits_eq_zero_cons digits

theorem digits_ofInt (value : Int) : (ofInt value).decimal.digits = value.natAbs := by
  rw [ofInt, decimal_ofDigits Nat.toDigits_ne_nil, List.append_nil]
  exact digitsFrom_toDigits _

theorem negative_ofInt (value : Int) : (ofInt value).negative = decide (value < 0) := rfl

theorem chars_ofInt (value : Int) : (ofInt value).chars = (toString value).toList := by
  rw [chars, ← bodyIn_json, ofInt, bodyIn_ofDigits _ Nat.toDigits_ne_nil, Int.toList_toString]
  simp [fractionChars, DoubleStyle.powerChars, ofDigits]

end Numeral

/-! ### Doubles -/

/-- Whether a numeral is written as characters after its sign, in a style, and has the value of a
    decimal. -/
structure Numeral.Writes (style : DoubleStyle) (n : Numeral) (chars : List Char) (d : Decimal) :
    Prop where
  wellFormed : n.IsWellFormed
  body : n.bodyIn style = chars
  isReal : n.fraction ≠ [] ∨ n.power.isSome
  value : n.decimal.nearest = d.nearest

section Places

variable (style : DoubleStyle) {digits : List Char} {leading : Int} (negative : Bool)
  (nonempty : digits ≠ []) (all : digits.all Char.isDigit) (noZero : digits.head? ≠ some '0')

include nonempty all

/-- Digits after the point, with zeros between. -/
theorem Numeral.writes_small (below : leading < 0) :
    (ofDigits negative ['0'] (List.replicate (-leading - 1).toNat '0' ++ digits) none).Writes style
      ('0' :: '.' :: List.replicate (-leading - 1).toNat '0' ++ digits)
      ⟨digitsFrom 0 digits, leading + 1 - digits.length⟩ where
  wellFormed := by
    refine isWellFormed_ofDigits (by simp) rfl (fun _ => rfl) ?_ nofun
    rw [List.all_append, Bool.and_eq_true]
    exact ⟨all_replicate_zero _, all⟩
  body := by
    rw [bodyIn_ofDigits _ (by simp),
      fractionChars_of_ne_nil (List.append_ne_nil_of_right_ne_nil _ nonempty)]
    simp [DoubleStyle.powerChars]
  isReal := .inl (List.append_ne_nil_of_right_ne_nil _ nonempty)
  value := by
    have zero : digitsFrom 0 ['0'] = 0 := rfl
    rw [decimal_ofDigits (by simp), digitsFrom_append, zero, digitsFrom_append,
      digitsFrom_replicate, Nat.zero_mul]
    congr 1
    simp only [Decimal.mk.injEq, List.length_append, List.length_replicate, Option.getD_none,
      true_and]
    omega

include noZero

/-- Digits that reach beyond the point. -/
theorem Numeral.writes_split {count : Nat} (notAll : count + 1 < digits.length) :
    (ofDigits negative (digits.take (count + 1)) (digits.drop (count + 1)) none).Writes style
      (digits.take (count + 1) ++ '.' :: digits.drop (count + 1))
      ⟨digitsFrom 0 digits, (count : Int) + 1 - digits.length⟩ where
  wellFormed := by
    refine isWellFormed_ofDigits ?_ ?_ ?_ ?_ nofun
    · simp [nonempty]
    · exact List.all_eq_true.mpr fun c member =>
        List.all_eq_true.mp all c (List.mem_of_mem_take member)
    · intro zero
      rw [List.head?_take, if_neg (by omega)] at zero
      exact absurd zero noZero
    · exact List.all_eq_true.mpr fun c member =>
        List.all_eq_true.mp all c (List.mem_of_mem_drop member)
  body := by
    rw [bodyIn_ofDigits _ (by simp [nonempty]), fractionChars_of_ne_nil (by simp; omega)]
    simp [DoubleStyle.powerChars]
  isReal := .inl (by simp [ofDigits]; omega)
  value := by
    rw [decimal_ofDigits (by simp [nonempty]), List.take_append_drop]
    congr 1
    simp only [Decimal.mk.injEq, List.length_drop, Option.getD_none, true_and]
    omega

/-- Digits that end before the point, with zeros between. -/
theorem Numeral.writes_whole (zeros : Nat) :
    (ofDigits negative (digits ++ List.replicate zeros '0') ['0'] none).Writes style
      (digits ++ List.replicate zeros '0' ++ ['.', '0']) ⟨digitsFrom 0 digits, zeros⟩ where
  wellFormed := by
    refine isWellFormed_ofDigits (by simp [nonempty]) ?_ ?_ rfl nofun
    · rw [List.all_append, Bool.and_eq_true]
      exact ⟨all, all_replicate_zero _⟩
    · intro zero
      obtain ⟨c, rest, rfl⟩ := List.exists_cons_of_ne_nil nonempty
      exact absurd zero noZero
  body := by
    rw [bodyIn_ofDigits _ (by simp [nonempty])]
    simp [fractionChars, DoubleStyle.powerChars]
  isReal := .inl (by simp [ofDigits])
  value := by
    have shifted := Decimal.nearest_shift (digitsFrom 0 digits) (zeros + 1) (-1)
    have zero : digitsFrom 0 (digits ++ List.replicate zeros '0' ++ ['0']) =
        digitsFrom 0 digits * 10 ^ (zeros + 1) := by
      have last : ['0'] = List.replicate 1 '0' := rfl
      rw [List.append_assoc, last, List.replicate_append_replicate, digitsFrom_append,
        digitsFrom_replicate]
    rw [decimal_ofDigits (by simp [nonempty]), zero]
    refine Eq.trans ?_ (shifted.trans ?_)
    · rfl
    · congr 2
      omega

/-- One digit before the point, and a power. -/
theorem Numeral.writes_power (bounded : leading ≤ 400) :
    (ofDigits negative (digits.take 1) (digits.drop 1) (some leading)).Writes style
      (digits.take 1 ++ (if (digits.drop 1).isEmpty then [] else '.' :: digits.drop 1) ++
        'e' :: (if leading < 0 then ['-'] else if style.plusSign then ['+'] else []) ++
        Nat.toDigits 10 leading.natAbs)
      ⟨digitsFrom 0 digits, leading + 1 - digits.length⟩ where
  wellFormed := by
    obtain ⟨c, rest, rfl⟩ := List.exists_cons_of_ne_nil nonempty
    rw [List.all_cons, Bool.and_eq_true] at all
    refine isWellFormed_ofDigits (by simp) (by simp [all.1]) (fun _ => rfl) all.2 ?_
    rintro _ ⟨⟩
    omega
  body := by
    rw [bodyIn_ofDigits _ (by simp [nonempty]), fractionChars, DoubleStyle.powerChars]
    simp only [List.append_assoc, List.cons_append]
  isReal := .inr rfl
  value := by
    have positive : 0 < digits.length := List.length_pos_iff.mpr nonempty
    rw [decimal_ofDigits (by simp [nonempty]), List.take_append_drop]
    congr 1
    simp only [Decimal.mk.injEq, List.length_drop, Option.getD_some, true_and]
    omega

/-- Digits and the position of the first are written as a numeral of their value. -/
theorem DoubleStyle.exists_writes_place (bounded : leading ≤ 400) :
    ∃ n : Numeral, n.negative = negative ∧ n.Writes style (style.place digits leading)
      ⟨digitsFrom 0 digits, leading + 1 - digits.length⟩ := by
  rw [place]
  by_cases plain : style.leastPlain ≤ leading ∧ leading < 16
  · rw [if_pos plain]
    by_cases below : leading < 0
    · rw [if_pos below]
      exact ⟨_, rfl, Numeral.writes_small style negative nonempty all below⟩
    · rw [if_neg below]
      dsimp only
      obtain ⟨count, rfl⟩ := Int.eq_ofNat_of_zero_le (Int.not_lt.mp below)
      rw [Int.toNat_natCast]
      by_cases notAll : count + 1 < digits.length
      · have taken : (digits.take (count + 1)).length = count + 1 := by
          rw [List.length_take]
          omega
        rw [taken, Nat.sub_self, if_neg (by simp; omega)]
        have writes := Numeral.writes_split style negative nonempty all noZero notAll
        exact ⟨_, rfl, by simpa using writes⟩
      · have whole := List.take_of_length_le (Nat.not_lt.mp notAll)
        have noFraction := List.drop_of_length_le (Nat.not_lt.mp notAll)
        rw [whole, noFraction]
        have writes :=
          Numeral.writes_whole style negative nonempty all noZero (count + 1 - digits.length)
        have exponent : ((count + 1 - digits.length : Nat) : Int) =
            (count : Int) + 1 - digits.length := by omega
        rw [exponent] at writes
        exact ⟨_, rfl, by simpa using writes⟩
  · rw [if_neg plain]
    exact ⟨_, rfl, Numeral.writes_power style negative nonempty all noZero bounded⟩

end Places

/-- What is left of a list when the zeros at its end are dropped. -/
theorem exists_zeros (chars : List Char) :
    ∃ count, chars = (chars.reverse.dropWhile (· == '0')).reverse ++ List.replicate count '0' := by
  have zeros : ∀ c ∈ chars.reverse.takeWhile (· == '0'), c = '0' := by
    intro c member
    have isZero := List.mem_takeWhile_imp member
    exact beq_iff_eq.mp isZero
  refine ⟨(chars.reverse.takeWhile (· == '0')).length, ?_⟩
  rw [← List.reverse_replicate, ← List.eq_replicate_of_mem zeros, ← List.reverse_append,
    List.takeWhile_append_dropWhile, List.reverse_reverse]

theorem Magnitude.eq_zero_of_mantissa {m : Magnitude} (none : m.mantissa = 0) :
    m = Magnitude.zero := by
  obtain ⟨mantissa, exponent, below, small, normal⟩ := m
  cases none
  have noExponent : exponent = 0 := normal.resolve_right (by decide)
  cases noExponent
  rfl

/-- The digits of a number without the zeros at its end. -/
def significantDigits (n : Nat) : List Char :=
  ((Nat.toDigits 10 n).reverse.dropWhile (· == '0')).reverse

/-- The digits of a decimal without the zeros at its end, which count as part of its power. -/
theorem Decimal.significantDigits_spec {d : Decimal} (nonzero : d.digits ≠ 0) :
    significantDigits d.digits ≠ [] ∧ (significantDigits d.digits).all Char.isDigit ∧
      (significantDigits d.digits).head? ≠ some '0' ∧
      (⟨digitsFrom 0 (significantDigits d.digits),
        d.exponent + (Nat.toDigits 10 d.digits).length - (significantDigits d.digits).length⟩ :
          Decimal).nearest = d.nearest := by
  have all := all_isDigit_toDigits d.digits
  have value := digitsFrom_toDigits d.digits
  have noZero := head?_toDigits (Nat.pos_of_ne_zero nonzero)
  obtain ⟨zeros, split⟩ : ∃ zeros, Nat.toDigits 10 d.digits =
      significantDigits d.digits ++ List.replicate zeros '0' := exists_zeros _
  generalize significantDigits d.digits = digits at *
  rw [split] at all value noZero ⊢
  rw [List.all_append, Bool.and_eq_true] at all
  rw [digitsFrom_append, digitsFrom_replicate] at value
  have nonempty : digits ≠ [] := by
    rintro rfl
    exact nonzero (value.symm.trans (Nat.zero_mul _))
  refine ⟨nonempty, all.1, ?_, ?_⟩
  · obtain ⟨c, rest, rfl⟩ := List.exists_cons_of_ne_nil nonempty
    exact noZero
  · have shifted := Decimal.nearest_shift (digitsFrom 0 digits) zeros d.exponent
    rw [value] at shifted
    refine Eq.trans ?_ shifted.symm
    congr 2
    rw [List.length_append, List.length_replicate]
    omega

/-- A decimal of a magnitude has no more than so many digits before its point. -/
theorem Decimal.bounded_of_nearest {d : Decimal} {m : Magnitude} (nonzero : d.digits ≠ 0)
    (nearest : d.nearest = some m) :
    d.exponent + (Nat.toDigits 10 d.digits).length - 1 ≤ 400 := by
  by_contra large
  rw [Decimal.nearest_of_large nonzero (by omega)] at nearest
  cases nearest

/-- A magnitude is written as a numeral that reads back to it. -/
theorem DoubleStyle.exists_writes_magnitude (style : DoubleStyle) (negative : Bool)
    (m : Magnitude) :
    ∃ n : Numeral, n.negative = negative ∧
      n.Writes style (style.magnitude m) (m.shortest style.tie) := by
  rw [magnitude]
  have nearest := m.nearest_shortest style.tie
  by_cases none : m.mantissa = 0
  · rw [if_pos none]
    refine ⟨.ofDigits negative ['0'] ['0'] Option.none, rfl, ?_, rfl, ?_, ?_⟩
    · exact Numeral.isWellFormed_ofDigits (by simp) rfl (fun _ => rfl) rfl nofun
    · exact .inl (List.cons_ne_nil _ _)
    · rw [nearest, Magnitude.eq_zero_of_mantissa none]
      rfl
  · rw [if_neg none]
    dsimp only
    generalize m.shortest style.tie = d at *
    have nonzero : d.digits ≠ 0 := by
      intro zero
      rw [Decimal.nearest, if_pos zero] at nearest
      cases nearest
      exact none rfl
    -- The zeros at the end of the shortest decimal are not written but count for the point.
    obtain ⟨nonempty, all, first, sameValue⟩ := Decimal.significantDigits_spec nonzero
    obtain ⟨n, sign, writes⟩ := exists_writes_place style negative nonempty all first
      (Decimal.bounded_of_nearest nonzero nearest)
    refine ⟨n, sign, writes.wellFormed, writes.body, writes.isReal, writes.value.trans ?_⟩
    have power : d.exponent + (Nat.toDigits 10 d.digits).length - 1 + 1 -
        (significantDigits d.digits).length = d.exponent + (Nat.toDigits 10 d.digits).length -
          (significantDigits d.digits).length := by omega
    rw [power]
    exact sameValue

/-! ## Numbers that read back -/

deriving instance DecidableEq for Scalar, Token

namespace Number

/-- Whether the text of a number is scanned as this number and nothing else. -/
def ReadsBack (number : Number) : Prop :=
  (Lexeme.ofText number.text).map Lexeme.token = [.scalar (.number (.ok number))]

instance (number : Number) : Decidable number.ReadsBack := inferInstanceAs (Decidable (_ = _))

/-- Whole numbers read back as far as 64 bits reach. -/
theorem readsBack_whole {value : Int} (lower : -2 ^ 63 ≤ value) (upper : value < 2 ^ 64) :
    (whole value).ReadsBack := by
  have bounded : if (Numeral.ofInt value).negative then
      0 < (Numeral.ofInt value).decimal.digits ∧ (Numeral.ofInt value).decimal.digits ≤ 2 ^ 63
      else (Numeral.ofInt value).decimal.digits < 2 ^ 64 := by
    rw [Numeral.digits_ofInt, Numeral.negative_ofInt]
    simp only [decide_eq_true_eq]
    split <;> omega
  have sign : (if (Numeral.ofInt value).negative then -(value.natAbs : Int) else value.natAbs) =
      value := by
    rw [Numeral.negative_ofInt]
    simp only [decide_eq_true_eq]
    split <;> omega
  have delimited : Delimited [] := nofun
  have spelled := Numeral.spellsBefore_whole (Numeral.isWellFormed_ofInt value) rfl rfl bounded
    delimited
  rw [Numeral.chars_ofInt, Numeral.digits_ofInt, sign] at spelled
  exact spelled.tokens_ofText

theorem readsBack_int32 (value : Int32) : (whole value.toInt).ReadsBack := by
  obtain ⟨lower, upper⟩ := fits_int32 value
  exact readsBack_whole lower upper

theorem chars_of_writes {n : Numeral} {m : Magnitude}
    (writes : n.Writes .json (DoubleStyle.json.magnitude m)
      (m.shortest DoubleStyle.json.tie)) :
    n.chars = (real (.finite n.negative m)).text.toList := by
  rw [Numeral.chars, ← n.bodyIn_json, writes.body]
  exact String.toList_ofList.symm

/-- A number that reads back is written as a numeral. -/
theorem ReadsBack.exists_chars {number : Number} (readsBack : number.ReadsBack) :
    ∃ n : Numeral, n.IsWellFormed ∧ n.chars = number.text.toList := by
  cases number with
  | whole value => exact ⟨.ofInt value, Numeral.isWellFormed_ofInt value, Numeral.chars_ofInt value⟩
  | real value =>
    cases value with
    | finite negative m =>
      obtain ⟨n, rfl, writes⟩ := DoubleStyle.json.exists_writes_magnitude negative m
      exact ⟨n, writes.wellFormed, chars_of_writes writes⟩
    | nan => cases readsBack
    | infinite negative => cases negative <;> cases readsBack

/-- What is scanned alone is scanned before whatever ends a number. -/
theorem ReadsBack.spellsBefore {number : Number} (readsBack : number.ReadsBack) {rest : List Char}
    (delimited : Delimited rest) :
    SpellsBefore number.text.toList [.scalar (.number (.ok number))] rest := by
  obtain ⟨n, wellFormed, chars⟩ := readsBack.exists_chars
  have tokens : tokensFrom 0 number.text.toList = [.scalar (.number (.ok number))] := readsBack
  rw [← chars] at tokens ⊢
  obtain ⟨stop, isValue⟩ := Numeral.value_of_tokens wellFormed tokens
  exact Numeral.spellsBefore wellFormed isValue delimited

end Number

/-- Whether the JSON text of a double is scanned as this double. -/
def Double.ReadsBack (double : Double) : Prop := (Number.real double).ReadsBack

instance (double : Double) : Decidable double.ReadsBack :=
  inferInstanceAs (Decidable (Number.real double).ReadsBack)

/-- A double whose numeral has few digits and a small power of ten reads back. -/
theorem Double.readsBack_of_short {n : Numeral} {m : Magnitude}
    (writes : n.Writes .json (DoubleStyle.json.magnitude m) (m.shortest DoubleStyle.json.tie))
    (digits : n.decimal.digits < 2 ^ 53) (exponent : n.decimal.exponent.natAbs ≤ 22) :
    (Double.finite n.negative m).ReadsBack := by
  have nearest : n.decimal.nearest = some m := writes.value.trans (m.nearest_shortest _)
  have delimited : Delimited [] := nofun
  have spelled := Numeral.spellsBefore_nearest writes.wellFormed writes.isReal digits exponent
    nearest delimited
  rw [Number.chars_of_writes writes] at spelled
  exact spelled.tokens_ofText

/-- A longer numeral may be read as a double beside the right one. -/
example : ¬ (Double.ofDecimal false ⟨9452706955539223, -16⟩).ReadsBack := by decide +kernel

end ConfigBinding
