import ConfigBinding.Text.CharacterTable

/-!
# Characters

The character classes that names, documentation and quoted text depend on. Below code point `0x80`
each class is given by its ASCII rule, so a statement about ASCII text never looks at a table; from
there on `CharacterTable` decides.

* `isAlphanumeric`, `isLowercase`, `isUppercase`, `isCased`, `isBlank`, `isCaseIgnorable`;
* `isUnprintable`: written by number when quoted;
* `lowered`: the lower-case form of one character, which may be two characters long.
-/

namespace ConfigBinding.Text

def inRanges (ranges : List (Nat × Nat)) (code : Nat) : Bool :=
  ranges.any fun range => range.1 ≤ code && code ≤ range.2

def onStrides (strides : List Stride) (code : Nat) : Bool :=
  strides.any fun stride => stride.contains code

def isAscii (c : Char) : Bool := c.toNat < 0x80

/-- Letters and numbers: the characters that words are made of. -/
def isAlphanumeric (c : Char) : Bool :=
  if isAscii c then c.isAlphanum else inRanges CharacterTable.alphanumeric c.toNat

def isLowercase (c : Char) : Bool :=
  if isAscii c then c.isLower else onStrides CharacterTable.lowercase c.toNat

def isUppercase (c : Char) : Bool :=
  if isAscii c then c.isUpper else onStrides CharacterTable.uppercase c.toNat

/-- Characters that have a case: lower, upper or title. -/
def isCased (c : Char) : Bool :=
  isLowercase c || isUppercase c || onStrides CharacterTable.titlecase c.toNat

/-- Marks that are passed over when the neighbours of a sigma are looked at. -/
def isCaseIgnorable (c : Char) : Bool :=
  if isAscii c then ['\x27', '.', ':', '^', '\x60'].contains c
  else inRanges CharacterTable.caseIgnorable c.toNat

def isBlank (c : Char) : Bool :=
  if isAscii c then c == ' ' || (0x09 ≤ c.toNat && c.toNat ≤ 0x0d)
  else inRanges CharacterTable.blank c.toNat

/-- Characters that are written by number inside quotes: they have no glyph of their own, or they
    extend the character before them. -/
def isUnprintable (c : Char) : Bool :=
  if isAscii c then c.toNat < 0x20 || c.toNat == 0x7f
  else inRanges CharacterTable.unprintable c.toNat

/-- The lower-case form of a character. The dotted capital I is the only one that becomes two
    characters. -/
def lowered (c : Char) : List Char :=
  if isAscii c then [c.toLower]
  else if c.toNat == 0x130 then ['i', '\u0307']
  else
    match CharacterTable.lowering.find? fun entry => entry.1.contains c.toNat with
    | some (_, distance) => [Char.ofNat (c.toNat + distance).toNat]
    | none => [c]

def trim (s : String) : String :=
  let body := s.toList.dropWhile isBlank
  String.ofList (body.reverse.dropWhile isBlank).reverse

end ConfigBinding.Text
