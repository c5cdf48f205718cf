import ConfigBinding.Json.Lexeme

/-!
# Scanning step by step

What a scan makes of the first characters of a text, with the rest of the text still to come: a
number only ends where the rest begins, so a part of a text cannot be judged without it.

* `Scan.Reaches`: characters that take a scan to where it goes on, without a lexeme;
* `Spells`: characters that are scanned as tokens, whatever comes after them;
* `Spells.append`: parts of a text one after the other.
-/

namespace ConfigBinding

theorem Scan.lexemes_cons (scan : Scan) (offset : Nat) (c : Char) (rest : List Char) :
    scan.lexemes offset (c :: rest) =
      (scan.next offset c).1 ++ (scan.next offset c).2.lexemes (offset + c.utf8Size) rest := rfl

/-! ## Inside a lexeme -/

/-- Whether characters take a scan to another place without completing a lexeme. -/
def Scan.Reaches (chars : List Char) (start goal : Scan) : Prop :=
  ∀ offset rest, ∃ later, start.lexemes offset (chars ++ rest) = goal.lexemes later rest

namespace Scan.Reaches

variable {start middle goal : Scan} {chars more : List Char} {c : Char}

theorem refl (start : Scan) : Reaches [] start start := fun offset _ => ⟨offset, rfl⟩

theorem trans (first : Reaches chars start middle) (second : Reaches more middle goal) :
    Reaches (chars ++ more) start goal := by
  intro offset rest
  obtain ⟨between, reached⟩ := first offset (more ++ rest)
  obtain ⟨later, finished⟩ := second between rest
  exact ⟨later, by rw [List.append_assoc, reached, finished]⟩

theorem single (next : ∀ offset, start.next offset c = ([], goal)) : Reaches [c] start goal := by
  intro offset rest
  refine ⟨offset + c.utf8Size, ?_⟩
  rw [List.singleton_append, Scan.lexemes_cons, next, List.nil_append]

theorem cons (next : ∀ offset, start.next offset c = ([], middle))
    (later : Reaches chars middle goal) : Reaches (c :: chars) start goal :=
  (single next).trans later

end Scan.Reaches

/-! ## From lexeme to lexeme -/

/-- The tokens of the characters from byte `offset` on. -/
def tokensFrom (offset : Nat) (chars : List Char) : List Token :=
  (Scan.blank.lexemes offset chars).map Lexeme.token

/-- Whether characters before others are scanned as tokens. -/
def SpellsBefore (chars : List Char) (tokens : List Token) (rest : List Char) : Prop :=
  ∀ offset, ∃ later, tokensFrom offset (chars ++ rest) = tokens ++ tokensFrom later rest

/-- Whether characters are scanned as tokens, whatever comes after them. -/
def Spells (chars : List Char) (tokens : List Token) : Prop :=
  ∀ rest, SpellsBefore chars tokens rest

/-- The tokens of a text by its characters. -/
theorem SpellsBefore.tokens_ofText {text : String} {tokens : List Token}
    (spelled : SpellsBefore text.toList tokens []) :
    (Lexeme.ofText text).map Lexeme.token = tokens := by
  obtain ⟨later, scanned⟩ := spelled 0
  rw [List.append_nil] at scanned
  exact scanned.trans (List.append_nil _)

theorem SpellsBefore.append {chars more rest : List Char} {tokens others : List Token}
    (first : SpellsBefore chars tokens (more ++ rest)) (second : SpellsBefore more others rest) :
    SpellsBefore (chars ++ more) (tokens ++ others) rest := by
  intro offset
  obtain ⟨between, spelled⟩ := first offset
  obtain ⟨later, finished⟩ := second between
  exact ⟨later, by rw [List.append_assoc, spelled, finished, List.append_assoc]⟩

namespace Spells

variable {chars more : List Char} {tokens others : List Token}

theorem nil : Spells [] [] := fun _ offset => ⟨offset, rfl⟩

theorem append (first : Spells chars tokens) (second : Spells more others) :
    Spells (chars ++ more) (tokens ++ others) := fun rest =>
  (first (more ++ rest)).append (second rest)

/-- Characters that are scanned alike whatever follows, before others that are not. -/
theorem before {rest : List Char} (first : Spells chars tokens)
    (second : SpellsBefore more others rest) :
    SpellsBefore (chars ++ more) (tokens ++ others) rest :=
  (first (more ++ rest)).append second

/-- A character that begins no lexeme of several characters. -/
theorem single {c : Char} {tokens : List Token}
    (begins : ∀ offset, ∃ lexemes, Scan.begin offset c = (lexemes, .blank) ∧
      lexemes.map Lexeme.token = tokens) : Spells [c] tokens := by
  intro rest offset
  obtain ⟨lexemes, begun, rfl⟩ := begins offset
  have next : Scan.blank.next offset c = (lexemes, .blank) := begun
  exact ⟨offset + c.utf8Size, by
    rw [tokensFrom, List.singleton_append, Scan.lexemes_cons, next, List.map_append]; rfl⟩

theorem comma : Spells [','] [.comma] := single fun _ => ⟨_, rfl, rfl⟩

theorem colon : Spells [':'] [.colon] := single fun _ => ⟨_, rfl, rfl⟩

theorem openList : Spells ['['] [.openList] := single fun _ => ⟨_, rfl, rfl⟩

theorem closeList : Spells [']'] [.closeList] := single fun _ => ⟨_, rfl, rfl⟩

theorem openObject : Spells ['\x7b'] [.openObject] := single fun _ => ⟨_, rfl, rfl⟩

theorem closeObject : Spells ['\x7d'] [.closeObject] := single fun _ => ⟨_, rfl, rfl⟩

theorem newline : Spells ['\n'] [] := single fun _ => ⟨_, rfl, rfl⟩

theorem space : Spells [' '] [] := single fun _ => ⟨_, rfl, rfl⟩

theorem spaces (count : Nat) : Spells (List.replicate count ' ') [] := by
  induction count with
  | zero => exact nil
  | succ count inductionHypothesis => exact space.append inductionHypothesis

end Spells

end ConfigBinding
