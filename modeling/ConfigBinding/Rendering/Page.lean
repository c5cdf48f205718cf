/-!
# Pages

Generated source is written line by line. A line that opens a block indents the lines after it, up
to the line that closes the block.

* `Stroke`: a line and what it does to the indentation;
* `Page`: the text written so far and the level of indentation reached.
-/

namespace ConfigBinding

/-- A line of source. -/
inductive Stroke where
  | line (text : String)
  /-- Opens a block: the lines after it are indented one level more. -/
  | opening (text : String)
  /-- Closes a block, and is itself indented one level less. -/
  | closing (text : String)
  deriving DecidableEq

/-- The text written so far and the level of indentation of the next line. -/
structure Page where
  text : String := ""
  level : Nat := 0
  deriving DecidableEq

/-- A line at a level of indentation; an empty line is not indented. -/
def indented (level : Nat) (text : String) : String :=
  (if text = "" then "" else String.join (List.replicate level "    ")) ++ text ++ "\n"

namespace Page

/-- Writes a line. A block that closes without having been opened leaves the level at zero. -/
def stroke (page : Page) : Stroke → Page
  | .line text => ⟨page.text ++ indented page.level text, page.level⟩
  | .opening text => ⟨page.text ++ indented page.level text, page.level + 1⟩
  | .closing text => ⟨page.text ++ indented (page.level - 1) text, page.level - 1⟩

def write (page : Page) (strokes : List Stroke) : Page := strokes.foldl stroke page

/-- Leaves an empty line below what is written, if anything is. -/
def separate (page : Page) : Page :=
  if page.text = "" then page else { page with text := page.text ++ "\n" }

end Page

/-- A block: a line, the indented lines, and the line that closes it. -/
def block (first : String) (inside : List Stroke) (last : String) : List Stroke :=
  .opening first :: inside ++ [.closing last]

end ConfigBinding
