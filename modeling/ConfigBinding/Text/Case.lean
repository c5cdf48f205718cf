import ConfigBinding.Text.Character

/-!
# Lower case and snake case

* `lowercase`: text in lower case; a capital sigma that ends a word becomes `ς`, any other `σ`.
* `words`: the words of a name. Everything that is neither letter nor number separates words; inside
  a run of letters and numbers a new word starts at a capital after a small letter, and at the last
  of several capitals when a small letter follows (`HTTPServer` is `HTTP`, `Server`).
* `snakeCase`: the words of a name in lower case, joined by underscores.
-/

namespace ConfigBinding.Text

/-- Whether the first character that is not passed over has a case. -/
def startsCased (chars : List Char) : Bool :=
  match chars.dropWhile isCaseIgnorable with
  | c :: _ => isCased c
  | [] => false

/-- Lower case of what follows `before`, the characters already passed, latest first. -/
def lowerAfter (before : List Char) : List Char → List Char
  | [] => []
  | c :: rest =>
    let low :=
      if c == 'Σ' then [if startsCased before && !startsCased rest then 'ς' else 'σ']
      else lowered c
    low ++ lowerAfter (c :: before) rest

def lowercase (s : String) : String := String.ofList (lowerAfter [] s.toList)

/-- The case of the last cased character of a word, if it has one. -/
inductive WordCase where
  | none
  | lower
  | upper
  deriving DecidableEq

/-- The word's case once `c` belongs to it. -/
def WordCase.after (case : WordCase) (c : Char) : WordCase :=
  if isLowercase c then .lower else if isUppercase c then .upper else case

/-- The words of a run of letters and numbers; `word` is the one begun, latest character first. -/
def splitRun (case : WordCase) (word : List Char) : List Char → List (List Char)
  | [] => []
  | [c] => [(c :: word).reverse]
  | c :: next :: rest =>
    if case.after c = .lower ∧ isUppercase next then
      (c :: word).reverse :: splitRun .none [] (next :: rest)
    else if case = .upper ∧ isUppercase c ∧ isLowercase next then
      word.reverse :: splitRun .none [c] (next :: rest)
    else
      splitRun (case.after c) (c :: word) (next :: rest)

/-- The runs of letters and numbers of a text, empty ones included. -/
def runs : List Char → List (List Char)
  | [] => [[]]
  | c :: rest =>
    match runs rest with
    | [] => [[c]]
    | run :: others => if isAlphanumeric c then (c :: run) :: others else [] :: run :: others

def words (s : String) : List (List Char) := (runs s.toList).flatMap (splitRun .none [])

/-- A word in lower case; a capital sigma at its end becomes `ς`. -/
def lowerWord : List Char → List Char
  | [] => []
  | ['Σ'] => ['ς']
  | c :: rest => lowered c ++ lowerWord rest

def snakeCase (s : String) : String :=
  String.intercalate "_" ((words s).map fun word => String.ofList (lowerWord word))

end ConfigBinding.Text
