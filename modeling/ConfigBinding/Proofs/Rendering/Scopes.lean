import ConfigBinding.Rendering.Page
import Mathlib.Data.List.Basic
import Mathlib.Tactic.Common

/-!
# Scopes of generated source

A variable of generated source can be used on the lines after the one that declares it, up to the
end of the block that this line stands in. Later declarations come before earlier ones, and inner
blocks before outer ones.

* `Stroke.enter`, `visible`: the declarations that can be seen after some lines;
* `boundTo`: the declaration that a variable then stands for;
* `Declares`, `Opens`: what lines add to the blocks that are open, whatever these are;
* `Stroke.not_startsWith`: lines are told apart by what they start with.
-/

namespace ConfigBinding

/-- The declarations in the blocks that are open, once a line is written: the innermost block and
    the latest line come first. -/
def Stroke.enter (blocks : List (List String)) : Stroke → List (List String)
  | .line text =>
    if "let ".toList <+: text.toList then blocks.modifyHead (text :: ·) else blocks
  | .opening _ => [] :: blocks
  | .closing _ => blocks.tail

/-- The declarations that can be seen after some lines, the one that counts first. -/
def visible (before : List Stroke) : List String := (before.foldl Stroke.enter [[]]).flatten

def declaresVariable (name text : String) : Bool :=
  ("let " ++ name ++ " = ").toList.isPrefixOf text.toList

/-- The declaration that a variable stands for after some lines. -/
def boundTo (name : String) (before : List Stroke) : Option String :=
  (visible before).find? (declaresVariable name)

/-! ## What lines start with -/

def Stroke.StartsWith (start : String) : Stroke → Prop
  | .line text => start.toList <+: text.toList
  | _ => False

/-- A line does not start with what differs from its own start. -/
theorem Stroke.not_startsWith {start text : String} (own : String)
    (starts : own.toList <+: text.toList)
    (apart : ¬ start.toList <+: own.toList ∧ ¬ own.toList <+: start.toList) :
    ¬ (Stroke.line text).StartsWith start := by
  intro other
  obtain shorter | longer := List.prefix_or_prefix_of_prefix other starts
  · exact apart.1 shorter
  · exact apart.2 longer

/-! ## What lines declare -/

/-- Whether lines leave the blocks that are open as they are, but for declarations that they add to
    the innermost one. -/
def Declares (strokes : List Stroke) (added : List String) : Prop :=
  ∀ blocks, strokes.foldl Stroke.enter blocks = blocks.modifyHead (added ++ ·)

def Opens (strokes : List Stroke) (depth : Nat) : Prop :=
  ∀ blocks, strokes.foldl Stroke.enter blocks = List.replicate depth [] ++ blocks

variable {strokes more : List Stroke} {added later : List String} {text : String}

namespace Declares

theorem nil : Declares [] [] := by
  intro blocks
  cases blocks <;> rfl

theorem append (first : Declares strokes added) (second : Declares more later) :
    Declares (strokes ++ more) (later ++ added) := by
  intro blocks
  rw [List.foldl_append, first, second]
  cases blocks <;> simp

theorem line (plain : ¬ (Stroke.line text).StartsWith "let ") : Declares [.line text] [] := by
  intro blocks
  have unchanged : Stroke.enter blocks (.line text) = blocks := if_neg plain
  cases blocks <;> simpa using unchanged

theorem declaration (isLet : (Stroke.line text).StartsWith "let ") :
    Declares [.line text] [text] := by
  intro blocks
  exact if_pos isLet

/-- What a block declares is forgotten at its end. -/
theorem block {inside : List Stroke} (body : Declares inside added) (first last : String) :
    Declares (block first inside last) [] := by
  intro blocks
  have opened : (Stroke.opening first :: inside).foldl Stroke.enter blocks = added :: blocks := by
    rw [List.foldl_cons, body, Stroke.enter, List.modifyHead_cons, List.append_nil]
  rw [ConfigBinding.block, List.foldl_append, opened]
  cases blocks <;> rfl

theorem opens (nothing : Declares strokes []) : Opens strokes 0 := by
  intro blocks
  rw [nothing]
  cases blocks <;> rfl

end Declares

theorem Opens.append {depth inner : Nat} (first : Opens strokes depth) (second : Opens more inner) :
    Opens (strokes ++ more) (inner + depth) := by
  intro blocks
  rw [List.foldl_append, first, second, ← List.append_assoc, List.replicate_append_replicate]

theorem Opens.opening (first : String) : Opens [.opening first] 1 := fun _ => rfl

/-- Blocks that are opened and in which nothing is declared hide nothing. -/
theorem Opens.visible {depth : Nat} (opens : Opens more depth) (strokes : List Stroke) :
    visible (strokes ++ more) = visible strokes := by
  rw [ConfigBinding.visible, List.foldl_append, opens, List.flatten_append]
  simp [ConfigBinding.visible]

end ConfigBinding
