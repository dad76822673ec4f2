import Dialogue.Template.Basic
import Dialogue.Text.WordBreak

/-! # Phrasings

A template stands for finitely many phrasings, one for each way to choose an alternative in every
group.  A phrasing is a sequence of tokens: the words of the literal text, and slots.

* `Token`, `Phrasing` — a phrasing and its parts; `Phrasing.text` writes it out.
* `expand?` — the phrasings of a template, in the order of the choices: the leftmost group is the
  most significant, and first alternatives come first.  A group after which there would be more
  phrasings than the limit is refused.
-/

namespace Dialogue

/-- A part of a phrasing. -/
inductive Token where
  | word (letters : List Char)
  | slot (name : String)
deriving DecidableEq, Repr

/-- One way to say a template. -/
abbrev Phrasing := List Token

/-- A token as it stands in a written phrasing. -/
def Token.text : Token → String
  | .word letters => String.ofList letters
  | .slot name => "[[" ++ name ++ "]]"

/-- The name of a slot token. -/
def Token.slotName? : Token → Option String
  | .word _ => none
  | .slot name => some name

namespace Phrasing

/-- The phrasing written out, its tokens separated by spaces. -/
def text (p : Phrasing) : String := " ".intercalate (p.map Token.text)

/-- The names of the slots, in the order in which they are captured. -/
def slotNames (p : Phrasing) : List String := p.filterMap Token.slotName?

end Phrasing

namespace Template

/-- The words of a raw literal, as tokens. -/
def wordTokens (raw : List Char) : List Token := (Text.words raw).map .word

/-- Every head followed by every tail. -/
def combine (heads tails : List Phrasing) : List Phrasing :=
  heads.flatMap fun head => tails.map (head ++ ·)

mutual

/-- The phrasings that begin with one of `heads` and go on with an element. -/
def expandNode? (limit : Nat) : Node → List Phrasing → Option (List Phrasing)
  | .word raw, heads => some (heads.map (· ++ wordTokens raw))
  | .slot name, heads => some (heads.map (· ++ [.slot name]))
  | .choice branches, heads =>
    match expandBranches? limit branches with
    | none => none
    | some tails =>
      if heads.length * tails.length > limit then none else some (combine heads tails)

/-- The phrasings that begin with one of `heads` and go on with the elements. -/
def expandAfter? (limit : Nat) : List Node → List Phrasing → Option (List Phrasing)
  | [], heads => some heads
  | node :: nodes, heads =>
    match expandNode? limit node heads with
    | none => none
    | some heads => expandAfter? limit nodes heads

/-- The phrasings of all alternatives of a group, in order. -/
def expandBranches? (limit : Nat) : List (List Node) → Option (List Phrasing)
  | [] => some []
  | branch :: branches =>
    match expandAfter? limit branch [[]], expandBranches? limit branches with
    | some first, some others => some (first ++ others)
    | _, _ => none

end

/-- The phrasings of a template, unless a group makes more of them than the limit. -/
def expand? (limit : Nat) (nodes : List Node) : Option (List Phrasing) :=
  expandAfter? limit nodes [[]]

end Template

end Dialogue
