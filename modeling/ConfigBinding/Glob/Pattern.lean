/-!
# Glob patterns

A pattern matches the names of files and directories: `?` one character, `*` any characters, `[ab]`
and `[!ab]` one character that is or is not listed, and `**`, between slashes only, any directories.
All other characters match themselves.

* `Piece.readAll`: the pieces of a pattern, or why it is none;
* `Piece.matchAll`: whether the pieces match a name.
-/

namespace ConfigBinding.Glob

structure CharRange where
  first : Char
  last : Char
  deriving DecidableEq

def CharRange.contains (range : CharRange) (c : Char) : Bool := range.first ≤ c && c ≤ range.last

inductive Piece where
  | char (c : Char)
  | anyChar
  | anyText
  | anyDirectories
  /-- One character inside some ranges, or outside all of them. -/
  | listed (inside : Bool) (ranges : List CharRange)
  deriving DecidableEq

inductive Flaw where
  | tooManyStars
  | partialDirectories
  | openList
  deriving DecidableEq

def Flaw.message : Flaw → String
  | .tooManyStars => "wildcards are either regular `*` or recursive `**`"
  | .partialDirectories => "recursive wildcards must form a single path component"
  | .openList => "invalid range pattern"

/-- A flaw and the number of characters before it. -/
structure PatternError where
  position : Nat
  flaw : Flaw
  deriving DecidableEq

def PatternError.message (e : PatternError) : String :=
  "Pattern syntax error near position " ++ toString e.position ++ ": " ++ e.flaw.message

/-- The ranges that the characters between brackets list; a character alone is a range of one. -/
def listedRanges : List Char → List CharRange
  | first :: '-' :: last :: rest => ⟨first, last⟩ :: listedRanges rest
  | c :: rest => ⟨c, c⟩ :: listedRanges rest
  | [] => []

structure OpenList where
  start : Nat
  inside : Bool
  /-- The characters so far, last first. -/
  listed : List Char

namespace Piece

/-- Whether `**` may follow a character: only at the start or after a slash. -/
def mayPrecedeDirectories (before : Option Char) : Bool := before = none || before = some '/'

/-- Reads the pieces of a pattern from a position on. `before` is the character before it, and the
    first argument that is matched the list in brackets that it is in. -/
def readFrom (position : Nat) (before : Option Char) :
    Option OpenList → List Char → Except PatternError (List Piece)
  | some list, [] => .error ⟨list.start, .openList⟩
  | some list, c :: rest =>
    if c = ']' then do
      let pieces ← readFrom (position + 1) (some c) none rest
      return .listed list.inside (listedRanges list.listed.reverse) :: pieces
    else readFrom (position + 1) (some c) (some { list with listed := c :: list.listed }) rest
  | none, [] => .ok []
  | none, '*' :: '*' :: '*' :: _ => .error ⟨position + 2, .tooManyStars⟩
  | none, ['*', '*'] =>
    if mayPrecedeDirectories before then .ok [.anyDirectories]
    else .error ⟨position - 1, .partialDirectories⟩
  | none, '*' :: '*' :: '/' :: rest =>
    if mayPrecedeDirectories before then do
      return .anyDirectories :: (← readFrom (position + 3) (some '/') none rest)
    else .error ⟨position - 1, .partialDirectories⟩
  | none, '*' :: '*' :: _ =>
    if mayPrecedeDirectories before then .error ⟨position + 2, .partialDirectories⟩
    else .error ⟨position - 1, .partialDirectories⟩
  | none, '*' :: rest => do return .anyText :: (← readFrom (position + 1) (some '*') none rest)
  | none, '?' :: rest => do return .anyChar :: (← readFrom (position + 1) (some '?') none rest)
  | none, '[' :: '!' :: first :: rest =>
    readFrom (position + 3) (some first) (some ⟨position, false, [first]⟩) rest
  | none, ['[', '!'] => .error ⟨position, .openList⟩
  | none, '[' :: first :: rest =>
    readFrom (position + 2) (some first) (some ⟨position, true, [first]⟩) rest
  | none, ['['] => .error ⟨position, .openList⟩
  | none, c :: rest => do return .char c :: (← readFrom (position + 1) (some c) none rest)

def readAll (pattern : String) : Except PatternError (List Piece) :=
  readFrom 0 none none pattern.toList

def accepts (c : Char) : Piece → Bool
  | .char expected => c == expected
  | .anyChar | .anyText | .anyDirectories => true
  | .listed inside ranges => (ranges.any fun range => range.contains c) == inside

end Piece

/-- What came of holding pieces against a name from its start. -/
inductive Verdict where
  | matched
  /-- The pieces do not match here, but may match a later part of the name. -/
  | differs
  /-- The name ends before the pieces do, so they match no later part of it either. -/
  | exhausted
  deriving DecidableEq

/-- The verdict on the first end of a text, the whole of it included, on which it is settled. -/
def firstSettled (verdict : List Char → Verdict) : List Char → Verdict
  | [] => verdict []
  | c :: rest =>
    match verdict (c :: rest) with
    | .differs => firstSettled verdict rest
    | settled => settled

namespace Piece

/-- Holds pieces against a name from its start. Once a piece for any text is passed the verdict is
    settled, so no piece before it has to be tried at another place. -/
def hold : List Piece → List Char → Verdict
  | [], [] => .matched
  | [], _ :: _ => .differs
  | .anyText :: rest, name => firstSettled (hold rest) name
  | .anyDirectories :: rest, name => firstSettled (hold rest) name
  | _ :: _, [] => .exhausted
  | piece :: rest, c :: name => if piece.accepts c then hold rest name else .differs

def matchAll (pieces : List Piece) (name : List Char) : Bool := hold pieces name = .matched

end Piece

end ConfigBinding.Glob
